import SiliconSwitch.Replication.Agreement

/-!
# Bounded recovery

Whatever an observer has received of a server so far, an interval of consecutive
updates synchronizes it again.

Two facts carry this. `Bounded`: nothing the observer has stored of the session
is ahead of the server, so no update to come looks old. `CaughtUp`: once a
snapshot is applied, the updates after it are in sequence and from the right
revision. An interval of calls contains a snapshot.

* `bounded_outcome` — no update of the server's past breaks `Bounded`;
* `caughtUp_outcome` — a snapshot, or being caught up, leads to being caught up;
* `bounded_recovery` — both, over the whole delivery.
-/

namespace SiliconSwitch.Replication

open SiliconSwitch.Library SiliconSwitch.Routing SiliconSwitch.Transport
open SiliconSwitch.Visualization SiliconSwitch.Simulation

-- ---------------------------------------------------------------------------
-- The synchronizer against the server's calls
-- ---------------------------------------------------------------------------

/-- The timestamps of consecutive calls do not decrease. -/
def Nondecreasing (timestamps : Nat → UInt64) : Prop :=
  ∀ earlier later, earlier ≤ later → timestamps earlier ≤ timestamps later

/-- What the view has stored of the session is not ahead of the calls made. -/
structure Bounded (view : ClientSynchronizer.View) (sessionId : UInt64)
    (timestamps : Nat → UInt64) (calls : Nat) : Prop where
  sequence_le : view.sessionId = some sessionId → view.sequence.toNat ≤ calls
  timestamp_le : view.sessionId = some sessionId →
    ∀ later, calls ≤ later → view.timestampMicroseconds ≤ timestamps later

/-- The view follows the session and has accepted the last of the calls made. -/
structure CaughtUp (view : ClientSynchronizer.View) (sessionId : UInt64) (calls : Nat) :
    Prop where
  sessionId : view.sessionId = some sessionId
  synchronized : view.synchronized = true
  sequence : view.sequence = UInt64.ofNat calls
  revision : view.revision = UInt64.ofNat calls

section Server

variable {backend : SimulationBackend} {sessionId snapshotInterval : UInt64}
  {hsession : sessionId ≠ 0} {timestamps : Nat → UInt64}

/-- Calls to come do not make the past look newer. -/
theorem Bounded.mono {view : ClientSynchronizer.View} {calls later : Nat}
    (h : Bounded view sessionId timestamps calls) (hle : calls ≤ later) :
    Bounded view sessionId timestamps later where
  sequence_le := fun hview => (h.sequence_le hview).trans hle
  timestamp_le := fun hview last hlast => h.timestamp_le hview last (hle.trans hlast)

/-- An update of the server, of any of its past calls, keeps the bound. -/
theorem bounded_outcome {view after : ClientSynchronizer.View} {result : SynchronizationResult}
    {update : StateUpdate} {call calls : Nat} (htime : Nondecreasing timestamps)
    (hcall : call < calls) (hwrap : calls < 2 ^ 64)
    (hupdate : (AuthoritativeServer.create backend sessionId snapshotInterval hsession).updateAt
      timestamps call = .ok update)
    (h : Bounded view sessionId timestamps calls)
    (houtcome : ClientSynchronizer.Outcome view update result after) :
    Bounded after sessionId timestamps calls := by
  obtain ⟨hcarries, hsequence, _, htimestamp, _, _⟩ := AuthoritativeServer.updateAt_ok hupdate
  have hnumber : update.sequence.toNat ≤ calls := by
    rw [hsequence, UInt64.toNat_ofNat_of_lt' (by show call + 1 < 2 ^ 64; omega)]
    exact hcall
  have hearlier : ∀ later, calls ≤ later → update.timestampMicroseconds ≤ timestamps later := by
    intro later hlater
    rw [htimestamp]
    exact htime call later (by omega)
  cases houtcome with
  | ignored _ _ _ => exact h
  | snapshot _ _ => exact ⟨fun _ => hnumber, fun _ => hearlier⟩
  | delta _ _ _ _ _ => exact ⟨fun _ => hnumber, fun _ => hearlier⟩
  | heartbeat _ _ _ _ _ => exact ⟨fun _ => hnumber, fun _ => hearlier⟩
  | resync _ _ _ _ => exact ⟨h.sequence_le, h.timestamp_le⟩
  | newSession _ _ =>
    refine ⟨fun _ => Nat.zero_le _, fun _ later _ => ?_⟩
    exact UInt64.le_iff_toNat_le.mpr (Nat.zero_le _)

/-- **The next update catches up**, if it is a snapshot or the observer had caught
up before. -/
theorem caughtUp_outcome {view after : ClientSynchronizer.View} {result : SynchronizationResult}
    {update : StateUpdate} {calls : Nat} (hwrap : calls + 1 < 2 ^ 64)
    (hupdate : (AuthoritativeServer.create backend sessionId snapshotInterval hsession).updateAt
      timestamps calls = .ok update)
    (h : Bounded view sessionId timestamps calls)
    (houtcome : ClientSynchronizer.Outcome view update result after)
    (hready : CaughtUp view sessionId calls ∨
      ((AuthoritativeServer.create backend sessionId snapshotInterval hsession).after timestamps
        calls).advance.snapshotDue = true) :
    CaughtUp after sessionId (calls + 1) := by
  obtain ⟨hcarries, hsequence, hrevision, htimestamp, hsnapshot, hbase⟩ :=
    AuthoritativeServer.updateAt_ok hupdate
  have hid : some update.sessionId = some sessionId := congrArg some hcarries.sessionId
  have hnext : UInt64.ofNat calls + 1 = UInt64.ofNat (calls + 1) := by
    rw [UInt64.ofNat_add]
    rfl
  -- an update that is no snapshot finds the observer caught up
  have hcaughtUp : update.type ≠ .snapshot → CaughtUp view sessionId calls :=
    fun htype => hready.resolve_right fun hdue => htype (hsnapshot hdue)
  cases houtcome with
  | ignored _ hview hold =>
    -- nothing stored is ahead of the calls made, so the update is in order
    rw [hid] at hview
    have hlt : view.sequence < update.sequence := by
      rw [UInt64.lt_iff_toNat_lt, hsequence, UInt64.toNat_ofNat_of_lt' hwrap]
      exact Nat.lt_succ_of_le (h.sequence_le hview)
    have hle : view.timestampMicroseconds ≤ update.timestampMicroseconds := by
      rw [htimestamp]
      exact h.timestamp_le hview calls (Nat.le_refl _)
    exact absurd ⟨hview.trans hid.symm, hlt, hle⟩ hold
  | snapshot _ _ => exact ⟨hid, rfl, hsequence, hrevision⟩
  | delta _ _ _ _ _ => exact ⟨hid, rfl, hsequence, hrevision⟩
  | heartbeat hnotSnapshot hnotDelta _ _ _ =>
    exact absurd hcarries.type (not_or.mpr ⟨hnotSnapshot, hnotDelta⟩)
  | resync _ htype _ hgap =>
    have hbefore := hcaughtUp htype
    rcases hgap hbefore.synchronized with hskipped | ⟨hdelta, hmismatch⟩
    · rw [hsequence, hbefore.sequence, hnext] at hskipped
      exact absurd rfl hskipped
    · rw [hbase hdelta, hbefore.revision] at hmismatch
      exact absurd rfl hmismatch
  | newSession htype hview =>
    rw [hid] at hview
    exact absurd (hcaughtUp htype).sessionId hview

-- ---------------------------------------------------------------------------
-- The observer
-- ---------------------------------------------------------------------------

/-- The observer consumes the datagram of an update. -/
def observe (client : ObserverClient) (delivery : Delivery) : ObserverClient :=
  (client.consumeDatagram delivery.1.serialize delivery.2).2

/-- An update that may have been delivered before: of one of the server's first
calls, or of another session. -/
def Earlier (server : AuthoritativeServer) (timestamps : Nat → UInt64) (calls : Nat)
    (update : StateUpdate) : Prop :=
  update.sessionId = server.sessionId →
    ∃ call, call < calls ∧ server.updateAt timestamps call = .ok update

/-- What is kept of an observer that has received some of the calls made. -/
structure Tracks (client : ObserverClient) (backend : SimulationBackend) (sessionId : UInt64)
    (timestamps : Nat → UInt64) (calls : Nat) : Prop where
  bounded : Bounded client.synchronizer.view sessionId timestamps calls
  shows : Shows client sessionId backend

theorem tracks_create (calls : Nat) :
    Tracks ObserverClient.create backend sessionId timestamps calls where
  bounded := ⟨nofun, nofun⟩
  shows := nofun

/-- What the server sent at one of its calls keeps the observer on track. -/
theorem tracks_observe_own {client : ObserverClient} {delivery : Delivery} {call calls : Nat}
    (hshape : KeepsShape backend) (htime : Nondecreasing timestamps) (hcall : call < calls)
    (hwrap : calls < 2 ^ 64)
    (hupdate : (AuthoritativeServer.create backend sessionId snapshotInterval hsession).updateAt
      timestamps call = .ok delivery.1)
    (h : Tracks client backend sessionId timestamps calls) :
    Tracks (observe client delivery) backend sessionId timestamps calls := by
  obtain ⟨hcarries, _⟩ := AuthoritativeServer.updateAt_ok hupdate
  unfold observe
  rw [ObserverClient.consumeDatagram_serialize]
  refine ⟨?_, shows_consumeUpdate hshape hcarries h.shows delivery.2⟩
  rw [synchronizer_of_carries hcarries]
  exact bounded_outcome htime hcall hwrap hupdate h.bounded
    (ClientSynchronizer.consume_outcome client.synchronizer delivery.1 delivery.2)

/-- So does any update of another session. -/
theorem tracks_observe_other {client : ObserverClient} {delivery : Delivery} {calls : Nat}
    (hother : delivery.1.sessionId ≠ sessionId)
    (h : Tracks client backend sessionId timestamps calls) :
    Tracks (observe client delivery) backend sessionId timestamps calls := by
  unfold observe
  rw [ObserverClient.consumeDatagram_serialize]
  refine ⟨?_, shows_of_other hother h.shows delivery.2⟩
  cases hcandidate : client.candidate delivery.1 with
  | none =>
    rw [ObserverClient.consumeUpdate_of_malformed hcandidate]
    exact h.bounded
  | some scene =>
    -- the view is of the other session now
    have hview : (client.consumeUpdate delivery.1 delivery.2).2.synchronizer.view.sessionId ≠
        some sessionId := by
      rw [(ObserverClient.consumeUpdate_of_candidate hcandidate delivery.2).1]
      show (client.synchronizer.consume delivery.1 delivery.2).2.sessionId ≠ some sessionId
      rw [ClientSynchronizer.consume_sessionId]
      exact fun heq => hother (Option.some.inj heq)
    exact ⟨fun hsame => absurd hsame hview, fun hsame => absurd hsame hview⟩

/-- **Whatever was delivered before**, the observer is on track. -/
theorem tracks_history {history : List Delivery} {calls : Nat} (hshape : KeepsShape backend)
    (htime : Nondecreasing timestamps) (hwrap : calls < 2 ^ 64)
    (hhistory : ∀ delivery ∈ history,
      Earlier (AuthoritativeServer.create backend sessionId snapshotInterval hsession) timestamps
        calls delivery.1) :
    Tracks (run observe ObserverClient.create history) backend sessionId timestamps calls := by
  suffices hrun : ∀ client, Tracks client backend sessionId timestamps calls →
      Tracks (run observe client history) backend sessionId timestamps calls from
    hrun _ (tracks_create calls)
  induction history with
  | nil => exact fun _ h => h
  | cons delivery rest ih =>
    rw [List.forall_mem_cons] at hhistory
    intro client h
    rw [run_cons]
    refine ih hhistory.2 (observe client delivery) ?_
    by_cases hown : delivery.1.sessionId = sessionId
    · obtain ⟨call, hcall, hupdate⟩ := hhistory.1 hown
      exact tracks_observe_own hshape htime hcall hwrap hupdate h
    · exact tracks_observe_other hown h

/-- **The updates of consecutive calls**, delivered in order, keep the observer on
track, and it has caught up at their end if it had at the start or one of them
is a snapshot. -/
theorem tracks_recovery {recovery : List Delivery} {calls count : Nat}
    (hshape : KeepsShape backend) (htime : Nondecreasing timestamps)
    (hwrap : calls + count < 2 ^ 64)
    (hrecovery : List.Forall₂
      (fun call delivery =>
        (AuthoritativeServer.create backend sessionId snapshotInterval hsession).updateAt
          timestamps call = .ok delivery.1)
      (List.range' calls count) recovery)
    {client : ObserverClient} (h : Tracks client backend sessionId timestamps calls) :
    Tracks (run observe client recovery) backend sessionId timestamps (calls + count) ∧
      (CaughtUp client.synchronizer.view sessionId calls ∨
          (∃ call, calls ≤ call ∧ call < calls + count ∧
            ((AuthoritativeServer.create backend sessionId snapshotInterval hsession).after
              timestamps call).advance.snapshotDue = true) →
        CaughtUp (run observe client recovery).synchronizer.view sessionId (calls + count)) := by
  induction count generalizing calls client recovery with
  | zero =>
    rw [List.range'_zero, List.forall₂_nil_left_iff] at hrecovery
    subst hrecovery
    refine ⟨h, fun hready => hready.resolve_right ?_⟩
    rintro ⟨call, hfirst, hlast, _⟩
    omega
  | succ count ih =>
    rw [List.range'_succ, List.forall₂_cons_left_iff] at hrecovery
    obtain ⟨delivery, rest, hupdate, hrest, rfl⟩ := hrecovery
    have hcount : calls + 1 + count = calls + (count + 1) := by omega
    have hnext : Tracks (observe client delivery) backend sessionId timestamps (calls + 1) :=
      tracks_observe_own hshape htime (Nat.lt_succ_self calls) (by omega) hupdate
        ⟨h.bounded.mono (Nat.le_succ calls), h.shows⟩
    have hfirst : CaughtUp client.synchronizer.view sessionId calls ∨
        ((AuthoritativeServer.create backend sessionId snapshotInterval hsession).after timestamps
          calls).advance.snapshotDue = true →
        CaughtUp (observe client delivery).synchronizer.view sessionId (calls + 1) := by
      unfold observe
      rw [ObserverClient.consumeDatagram_serialize,
        synchronizer_of_carries (AuthoritativeServer.updateAt_ok hupdate).1]
      exact caughtUp_outcome (by omega) hupdate h.bounded
        (ClientSynchronizer.consume_outcome client.synchronizer delivery.1 delivery.2)
    obtain ⟨htracks, hcaughtUp⟩ := ih (by omega) hrest hnext
    rw [hcount] at htracks hcaughtUp
    rw [run_cons]
    refine ⟨htracks, fun hready => hcaughtUp ?_⟩
    rcases hready with hbefore | ⟨call, hge, hlt, hdue⟩
    · exact Or.inl (hfirst (Or.inl hbefore))
    · rcases Nat.eq_or_lt_of_le hge with heq | hlater
      · exact Or.inl (hfirst (Or.inr (heq ▸ hdue)))
      · exact Or.inr ⟨call, hlater, by omega, hdue⟩

/-- **Bounded recovery.** After any earlier updates of the server, in any order and
mixed with updates of other sessions, the updates of the next `count` calls
synchronize the observer, if an interval of calls is among them. -/
theorem bounded_recovery (hshape : KeepsShape backend) (htime : Nondecreasing timestamps)
    {calls count : Nat}
    (hinterval : (AuthoritativeServer.create backend sessionId snapshotInterval
      hsession).snapshotInterval.toNat ≤ count)
    (hwrap : calls + count < 2 ^ 64) {history recovery : List Delivery}
    (hhistory : ∀ delivery ∈ history,
      Earlier (AuthoritativeServer.create backend sessionId snapshotInterval hsession) timestamps
        calls delivery.1)
    (hrecovery : List.Forall₂
      (fun call delivery =>
        (AuthoritativeServer.create backend sessionId snapshotInterval hsession).updateAt
          timestamps call = .ok delivery.1)
      (List.range' calls count) recovery) :
    let client := run observe ObserverClient.create (history ++ recovery)
    client.synchronizer.synchronized = true ∧
      client.synchronizer.sessionId = some sessionId ∧
      client.synchronizer.revision = UInt64.ofNat (calls + count) ∧
      client.scene = backend (UInt64.ofNat (calls + count)) := by
  have hhistory := tracks_history hshape htime (by omega) hhistory
  obtain ⟨htracks, hcaughtUp⟩ := tracks_recovery hshape htime hwrap hrecovery hhistory
  have hview := hcaughtUp (Or.inr (AuthoritativeServer.exists_snapshot hinterval hwrap))
  intro client
  have hclient : client = run observe (run observe ObserverClient.create history) recovery :=
    run_append observe _ history recovery
  rw [← hclient] at htracks hview
  refine ⟨hview.synchronized, hview.sessionId, hview.revision, ?_⟩
  have hshown := htracks.shows hview.sessionId hview.synchronized
  exact hshown.trans (congrArg backend hview.revision)

end Server

/-- A server of session 1 that sends a snapshot every second call. -/
def alternating : AuthoritativeServer :=
  AuthoritativeServer.create (countingBackend 1) 1 2 (by decide)

/-- The update of a call of it, at time 0. -/
def alternatingUpdate (call : Nat) : Option StateUpdate :=
  (alternating.updateAt (fun _ => 0) call).toOption

theorem updateAt_alternating (call : Nat) (h : (alternatingUpdate call).isSome = true) :
    alternating.updateAt (fun _ => 0) call = .ok ((alternatingUpdate call).get h) := by
  unfold alternatingUpdate
  unfold alternatingUpdate at h
  generalize alternating.updateAt (fun _ => 0) call = result at h ⊢
  cases result with
  | error reason => simp [Except.toOption] at h
  | ok update => rfl

/-- The first two updates have come in the wrong order. -/
def reordered : List Delivery :=
  [((alternatingUpdate 1).get (by decide +kernel), 0),
   ((alternatingUpdate 0).get (by decide +kernel), 1)]

/-- The two updates after those. -/
def nextTwo : List Delivery :=
  [((alternatingUpdate 2).get (by decide +kernel), 2),
   ((alternatingUpdate 3).get (by decide +kernel), 3)]

/-- The two updates after those show the observer the fourth scene. -/
theorem bounded_recovery_reordered :
    (run observe ObserverClient.create (reordered ++ nextTwo)).scene = countingBackend 1 4 := by
  have htime : Nondecreasing fun _ => 0 := fun _ _ _ => UInt64.le_refl 0
  have hhistory : ∀ delivery ∈ reordered, Earlier alternating (fun _ => 0) 2 delivery.1 := by
    intro delivery hdelivery _
    rw [reordered, List.mem_pair] at hdelivery
    rcases hdelivery with rfl | rfl
    · exact ⟨1, by decide, updateAt_alternating 1 (by decide +kernel)⟩
    · exact ⟨0, by decide, updateAt_alternating 0 (by decide +kernel)⟩
  have hrecovery : List.Forall₂
      (fun call delivery => alternating.updateAt (fun _ => 0) call = .ok delivery.1)
      (List.range' 2 2) nextTwo :=
    .cons (updateAt_alternating 2 (by decide +kernel))
      (.cons (updateAt_alternating 3 (by decide +kernel)) .nil)
  have hinterval : alternating.snapshotInterval.toNat ≤ 2 := by decide
  exact (bounded_recovery (keepsShape_countingBackend 1) htime hinterval (by decide) hhistory
    hrecovery).2.2.2

end SiliconSwitch.Replication
