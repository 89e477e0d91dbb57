import SiliconSwitch.Transport.StateUpdate
import SiliconSwitch.Visualization.Topology

/-!
# The authoritative server

`AuthoritativeServer::next_update`: advance, take the backend's scene, and wrap
it as a snapshot at the first call and at every multiple of the interval, as a
delta from the previous revision otherwise. Sockets and observer endpoints are
left out.

* `nextUpdate_ok` — the fields of an update that a call returns;
* `updateAt_ok` — the same for the calls of a fresh server, by their number;
* `exists_snapshot` — an interval of calls contains a snapshot.
-/

namespace SiliconSwitch.Simulation

open SiliconSwitch.Library SiliconSwitch.Transport SiliconSwitch.Visualization

/-- A simulation backend, by its `step`. -/
abbrev SimulationBackend : Type := UInt64 → TopologyScene

inductive PublishError
  | serializationFailed
  | socketError
deriving DecidableEq

structure AuthoritativeServer where
  backend : SimulationBackend
  sessionId : UInt64
  snapshotInterval : UInt64
  sequence : UInt64
  revision : UInt64
  sessionId_ne : sessionId ≠ 0
  snapshotInterval_ne : snapshotInterval ≠ 0

namespace AuthoritativeServer

/-- The constructor; an interval of zero stands for one. -/
def create (backend : SimulationBackend) (sessionId snapshotInterval : UInt64)
    (hsession : sessionId ≠ 0) : AuthoritativeServer where
  backend
  sessionId
  snapshotInterval := if snapshotInterval = 0 then 1 else snapshotInterval
  sequence := 0
  revision := 0
  sessionId_ne := hsession
  snapshotInterval_ne := by
    split
    · decide
    · assumption

/-- The two increments that open `next_update`. -/
def advance (server : AuthoritativeServer) : AuthoritativeServer :=
  { server with sequence := server.sequence + 1, revision := server.revision + 1 }

/-- Whether an advanced server sends a snapshot. -/
def snapshotDue (server : AuthoritativeServer) : Bool :=
  server.sequence == 1 || server.sequence % server.snapshotInterval == 0

def nextUpdate (server : AuthoritativeServer) (timestampMicroseconds : UInt64) :
    Except PublishError StateUpdate × AuthoritativeServer :=
  let previousRevision := server.revision
  let server := server.advance
  let payload := (server.backend server.revision).serializeSnapshot
  if payload.isEmpty then (.error .serializationFailed, server)
  else
    let snapshot := server.snapshotDue
    match StateUpdate.create (if snapshot then .snapshot else .delta) server.sessionId
      server.sequence timestampMicroseconds (if snapshot then 0 else previousRevision)
      server.revision payload with
    | none => (.error .serializationFailed, server)
    | some update => (.ok update, server)

-- ---------------------------------------------------------------------------
-- One call
-- ---------------------------------------------------------------------------

/-- A call advances the server, whether it succeeds or not. -/
@[simp] theorem nextUpdate_snd (server : AuthoritativeServer) (timestampMicroseconds : UInt64) :
    (server.nextUpdate timestampMicroseconds).2 = server.advance := by
  unfold nextUpdate
  dsimp only
  split
  · rfl
  · split <;> rfl

/-- A call succeeds if the scene serializes and `create` takes the update. -/
theorem nextUpdate_eq_ok {server : AuthoritativeServer} {timestampMicroseconds : UInt64}
    {update : StateUpdate} :
    (server.nextUpdate timestampMicroseconds).1 = .ok update ↔
      (server.backend server.advance.revision).serializeSnapshot ≠ [] ∧
        StateUpdate.create (if server.advance.snapshotDue then .snapshot else .delta)
          server.sessionId server.advance.sequence timestampMicroseconds
          (if server.advance.snapshotDue then 0 else server.revision) server.advance.revision
          (server.backend server.advance.revision).serializeSnapshot = some update := by
  unfold nextUpdate
  dsimp only
  split
  · rename_i hempty
    constructor
    · intro h
      simp at h
    · intro h
      exact absurd (List.isEmpty_iff.mp hempty) h.1
  · rename_i hsome
    rw [List.isEmpty_iff] at hsome
    refine Iff.trans ?_ (and_iff_right hsome).symm
    split
    · rename_i hnone
      constructor
      · intro h
        simp at h
      · intro h
        exact absurd (hnone.symm.trans h) (by simp)
    · rename_i created hcreate
      constructor
      · intro h
        rw [Except.ok.injEq] at h
        rw [← h]
        exact hcreate
      · intro h
        exact congrArg Except.ok (Option.some.inj (hcreate.symm.trans h))

/-- A call has one way to fail. -/
theorem nextUpdate_error {server : AuthoritativeServer} {timestampMicroseconds : UInt64}
    {error : PublishError} (h : (server.nextUpdate timestampMicroseconds).1 = .error error) :
    error = .serializationFailed := by
  unfold nextUpdate at h
  dsimp only at h
  split at h
  · exact (Except.error.inj h).symm
  · split at h
    · exact (Except.error.inj h).symm
    · simp at h

/-- What a server sends: the scene of its revision, whole, under its session. -/
structure Carries (update : StateUpdate) (sessionId : UInt64) (backend : SimulationBackend) :
    Prop where
  sessionId : update.sessionId = sessionId
  payload : update.payload = (backend update.revision).serializeSnapshot
  payload_ne : (backend update.revision).serializeSnapshot ≠ []
  type : update.type = .snapshot ∨ update.type = .delta

/-- The fields of an update that a call returns. -/
theorem nextUpdate_ok {server : AuthoritativeServer} {timestampMicroseconds : UInt64}
    {update : StateUpdate} (h : (server.nextUpdate timestampMicroseconds).1 = .ok update) :
    Carries update server.sessionId server.backend ∧
      update.sequence = server.sequence + 1 ∧ update.revision = server.revision + 1 ∧
      update.timestampMicroseconds = timestampMicroseconds ∧
      update.type = (if server.advance.snapshotDue then .snapshot else .delta) ∧
      update.baseRevision = if server.advance.snapshotDue then 0 else server.revision := by
  obtain ⟨hpayload, hcreate⟩ := nextUpdate_eq_ok.mp h
  obtain ⟨htype, hsession, hsequence, htimestamp, hbase, hrevision, hbytes⟩ :=
    StateUpdate.create_eq_some hcreate
  refine ⟨⟨hsession, ?_, ?_, ?_⟩, hsequence, hrevision, htimestamp, htype, hbase⟩
  · rw [hbytes, hrevision]
  · rw [hrevision]
    exact hpayload
  · rw [htype]
    split
    · exact Or.inl rfl
    · exact Or.inr rfl

-- ---------------------------------------------------------------------------
-- The calls of a fresh server
-- ---------------------------------------------------------------------------

/-- The server after some calls, the first of them with `timestamps 0`. -/
def after (server : AuthoritativeServer) (timestamps : Nat → UInt64) : Nat → AuthoritativeServer
  | 0 => server
  | calls + 1 => ((server.after timestamps calls).nextUpdate (timestamps calls)).2

/-- What the next call returns after `calls` calls: the update of sequence number
`calls + 1`, or the error in its place. -/
def updateAt (server : AuthoritativeServer) (timestamps : Nat → UInt64) (calls : Nat) :
    Except PublishError StateUpdate :=
  ((server.after timestamps calls).nextUpdate (timestamps calls)).1

variable {backend : SimulationBackend} {sessionId snapshotInterval : UInt64}
  {hsession : sessionId ≠ 0} {timestamps : Nat → UInt64}

/-- A fresh server counts its calls, in both of its counters. -/
theorem after_create (calls : Nat) :
    (create backend sessionId snapshotInterval hsession).after timestamps calls =
      { create backend sessionId snapshotInterval hsession with
        sequence := UInt64.ofNat calls
        revision := UInt64.ofNat calls } := by
  induction calls with
  | zero => rfl
  | succ calls ih =>
    rw [after, nextUpdate_snd, ih, advance, UInt64.ofNat_add]
    rfl

/-- Whether the call after `calls` calls sends a snapshot. -/
theorem snapshotDue_after {calls : Nat} (hwrap : calls + 1 < 2 ^ 64) :
    ((create backend sessionId snapshotInterval hsession).after timestamps
        calls).advance.snapshotDue = true ↔
      calls = 0 ∨ (create backend sessionId snapshotInterval hsession).snapshotInterval.toNat ∣
        calls + 1 := by
  have hsequence : ((create backend sessionId snapshotInterval hsession).after timestamps
      calls).advance.sequence = UInt64.ofNat (calls + 1) := by
    rw [after_create, advance, UInt64.ofNat_add]
    rfl
  have hinterval : ((create backend sessionId snapshotInterval hsession).after timestamps
      calls).advance.snapshotInterval =
        (create backend sessionId snapshotInterval hsession).snapshotInterval := by
    rw [after_create, advance]
  unfold snapshotDue
  rw [hsequence, hinterval, Bool.or_eq_true, beq_iff_eq, beq_iff_eq, ← UInt64.toNat_inj,
    ← UInt64.toNat_inj, UInt64.toNat_mod, UInt64.toNat_ofNat_of_lt' hwrap, Nat.dvd_iff_mod_eq_zero]
  show calls + 1 = 1 ∨ _ ↔ _
  rw [Nat.add_eq_right]
  exact Iff.rfl

/-- **Any interval of consecutive calls contains a snapshot.** -/
theorem exists_snapshot {first count : Nat}
    (hcount : (create backend sessionId snapshotInterval hsession).snapshotInterval.toNat ≤ count)
    (hwrap : first + count < 2 ^ 64) :
    ∃ calls, first ≤ calls ∧ calls < first + count ∧
      ((create backend sessionId snapshotInterval hsession).after timestamps
        calls).advance.snapshotDue = true := by
  have hpos : 0 < (create backend sessionId snapshotInterval hsession).snapshotInterval.toNat := by
    rw [Nat.pos_iff_ne_zero]
    intro hzero
    exact (create backend sessionId snapshotInterval hsession).snapshotInterval_ne
      (UInt64.toNat_inj.mp hzero)
  generalize hinterval : (create backend sessionId snapshotInterval hsession).snapshotInterval.toNat
    = interval at hcount hpos
  -- the first multiple of the interval above `first`
  have hbelow : interval * (first / interval) ≤ first := Nat.mul_div_le first interval
  have habove : first < interval * (first / interval + 1) := Nat.lt_mul_div_succ first hpos
  rw [Nat.mul_add, Nat.mul_one] at habove
  refine ⟨interval * (first / interval) + interval - 1, by omega, by omega, ?_⟩
  rw [snapshotDue_after (by omega), hinterval]
  right
  have hnumber : interval * (first / interval) + interval - 1 + 1 =
      interval * (first / interval + 1) := by
    rw [Nat.mul_add, Nat.mul_one]
    omega
  rw [hnumber]
  exact Nat.dvd_mul_right ..

/-- The fields of the update of a numbered call. -/
theorem updateAt_ok {calls : Nat} {update : StateUpdate}
    (h : (create backend sessionId snapshotInterval hsession).updateAt timestamps calls =
      .ok update) :
    Carries update sessionId backend ∧
      update.sequence = UInt64.ofNat (calls + 1) ∧ update.revision = UInt64.ofNat (calls + 1) ∧
      update.timestampMicroseconds = timestamps calls ∧
      (((create backend sessionId snapshotInterval hsession).after timestamps
          calls).advance.snapshotDue = true → update.type = .snapshot) ∧
      (update.type = .delta → update.baseRevision = UInt64.ofNat calls) := by
  unfold updateAt at h
  obtain ⟨hcarries, hsequence, hrevision, htimestamp, htype, hbase⟩ := nextUpdate_ok h
  generalize hdue : ((create backend sessionId snapshotInterval hsession).after timestamps
    calls).advance.snapshotDue = due at htype hbase
  rw [after_create] at hcarries hsequence hrevision hbase
  refine ⟨hcarries, ?_, ?_, htimestamp, ?_, ?_⟩
  · rw [hsequence, UInt64.ofNat_add]
    rfl
  · rw [hrevision, UInt64.ofNat_add]
    rfl
  · intro hsnapshot
    rw [htype, hsnapshot, if_pos rfl]
  · intro hdelta
    cases due with
    | true =>
      rw [htype] at hdelta
      simp at hdelta
    | false => simpa using hbase

end AuthoritativeServer

end SiliconSwitch.Simulation
