import SiliconSwitch.Library.Transition
import SiliconSwitch.Simulation.AuthoritativeServer

/-!
# Failed publications

`next_update` over runs of calls, each of which finds the backend in a state of its
own. The counters advance before the scene is serialized, so a call that fails has
used up a sequence number and a revision.

* `call_ok_iff`                — the calls that succeed, by the scene and the counters before;
* `keepsCounters_iff_accepts`  — a call is harmless exactly if it succeeds;
* `gapless_updates`            — a run of successful calls is a gapless stream;
* `stream_intact_iff`          — a failure anywhere breaks the stream of a fresh server.
-/

namespace SiliconSwitch.Visualization.TopologyScene

open SiliconSwitch.Library SiliconSwitch.Transport

-- ---------------------------------------------------------------------------
-- The scenes that fit in one update
-- ---------------------------------------------------------------------------

/-- The octets of a snapshot of the scene. -/
def snapshotSize (scene : TopologyScene) : Nat :=
  8 + (scene.nodes.map fun node => 24 + node.label.length).sum + 17 * scene.links.length

/-- A snapshot of the scene fits in one update. -/
structure Publishable (scene : TopologyScene) : Prop where
  label_le : ∀ node ∈ scene.nodes, node.label.length ≤ 255
  size_le : scene.snapshotSize ≤ StateUpdate.maximumPayloadSize

theorem length_nodeBytes (node : TopologyNode) :
    (nodeBytes node).length = 24 + node.label.length := by
  simp [nodeBytes, flagBytes]
  omega

theorem length_linkBytes (link : TopologyLink) : (linkBytes link).length = 17 := by
  simp [linkBytes, flagBytes]

theorem length_serializeSnapshot {scene : TopologyScene} (h : Countable scene) :
    scene.serializeSnapshot.length = scene.snapshotSize := by
  have hnodes : (scene.nodes.flatMap nodeBytes).length =
      (scene.nodes.map fun node => 24 + node.label.length).sum := by
    rw [List.length_flatMap]
    congr 1
    exact List.map_congr_left fun node _ => length_nodeBytes node
  have hlinks : (scene.links.flatMap linkBytes).length = 17 * scene.links.length := by
    rw [List.length_flatMap, funext length_linkBytes, List.map_const', List.sum_replicate]
    exact Nat.mul_comm ..
  have hheader : scene.headerBytes.length = 8 := by simp [headerBytes]
  rw [serializeSnapshot_of_countable h, List.length_append, List.length_append, hheader, hnodes,
    hlinks, snapshotSize]
  omega

/-- Each record takes an octet at least, so a scene that fits has its records counted. -/
theorem Publishable.countable {scene : TopologyScene} (h : Publishable scene) :
    Countable scene := by
  have hsize : scene.snapshotSize ≤ 61440 := h.size_le
  rw [snapshotSize] at hsize
  have hnodes : scene.nodes.length ≤
      (scene.nodes.map fun node => 24 + node.label.length).sum := by
    rw [← List.length_map (fun node : TopologyNode => 24 + node.label.length)]
    refine List.length_le_sum_of_one_le _ fun size hmem => ?_
    obtain ⟨node, _, rfl⟩ := List.mem_map.mp hmem
    omega
  exact ⟨by omega, by omega, h.label_le⟩

theorem publishable_iff (scene : TopologyScene) :
    Publishable scene ↔ scene.serializeSnapshot ≠ [] ∧
      scene.serializeSnapshot.length ≤ StateUpdate.maximumPayloadSize := by
  constructor
  · intro h
    have hlength := length_serializeSnapshot h.countable
    refine ⟨fun hempty => ?_, hlength ▸ h.size_le⟩
    rw [hempty, snapshotSize, List.length_nil] at hlength
    omega
  · rintro ⟨hne, hle⟩
    have hcountable := (serializeSnapshot_eq scene hne).1
    exact ⟨hcountable.label_le, length_serializeSnapshot hcountable ▸ hle⟩

end SiliconSwitch.Visualization.TopologyScene

namespace SiliconSwitch.Simulation.AuthoritativeServer

open SiliconSwitch.Library SiliconSwitch.Transport SiliconSwitch.Visualization

-- ---------------------------------------------------------------------------
-- Runs of calls
-- ---------------------------------------------------------------------------

/-- A call of `next_update`, with the backend as the call finds it. -/
structure Call where
  backend : SimulationBackend
  timestampMicroseconds : UInt64

/-- One `next_update`. -/
def call (server : AuthoritativeServer) (next : Call) :
    Except PublishError StateUpdate × AuthoritativeServer :=
  nextUpdate { server with backend := next.backend } next.timestampMicroseconds

/-- The server that a call leaves. -/
def afterCall (server : AuthoritativeServer) (next : Call) : AuthoritativeServer :=
  (server.call next).2

/-- The updates of the successful calls, in order. -/
def updates : AuthoritativeServer → List Call → List StateUpdate
  | _, [] => []
  | server, next :: rest =>
    match (server.call next).1 with
    | .ok update => update :: (server.afterCall next).updates rest
    | .error _ => (server.afterCall next).updates rest

/-- If the call fails, the counters stay as they were. -/
def KeepsCounters (server : AuthoritativeServer) (next : Call) : Prop :=
  (server.call next).1 = .error .serializationFailed →
    (server.afterCall next).sequence = server.sequence ∧
      (server.afterCall next).revision = server.revision

/-- The stream begins with a snapshot, is numbered without gaps, and every delta goes from
the revision before it. -/
structure Gapless (stream : List StateUpdate) : Prop where
  snapshot_first : ∀ first ∈ stream.head?, first.type = .snapshot
  consecutive : stream.IsChain fun earlier later =>
    later.sequence.toNat = earlier.sequence.toNat + 1
  based : stream.IsChain fun earlier later =>
    later.type = .delta → later.baseRevision = earlier.revision

/-- What the call needs to succeed: a scene that fits, and counters that do not wrap. -/
structure Accepts (server : AuthoritativeServer) (next : Call) : Prop where
  scene : (next.backend (server.revision + 1)).Publishable
  sequence_ne : server.sequence + 1 ≠ 0
  revision_ne : server.revision + 1 ≠ 0

-- ---------------------------------------------------------------------------
-- One call
-- ---------------------------------------------------------------------------

/-- A counter that does not wrap goes up by one. -/
theorem toNat_add_one_iff (count : UInt64) :
    (count + 1).toNat = count.toNat + 1 ↔ count + 1 ≠ 0 := by
  rw [Ne, ← UInt64.toNat_inj, UInt64.toNat_add]
  have hbound := count.toNat_lt
  have hone : (1 : UInt64).toNat = 1 := rfl
  have hzero : (0 : UInt64).toNat = 0 := rfl
  omega

theorem lt_add_one_iff (count : UInt64) : count < count + 1 ↔ count + 1 ≠ 0 := by
  rw [UInt64.lt_iff_toNat_lt, Ne, ← UInt64.toNat_inj, UInt64.toNat_add]
  have hbound := count.toNat_lt
  have hone : (1 : UInt64).toNat = 1 := rfl
  have hzero : (0 : UInt64).toNat = 0 := rfl
  omega

/-- The revisions of an update that is due are valid unless the counter has wrapped. -/
theorem revisionsAreValid_next (due : Bool) (revision : UInt64) :
    revisionsAreValid (if due then .snapshot else .delta) (if due then 0 else revision)
      (revision + 1) = true ↔ revision + 1 ≠ 0 := by
  cases due with
  | true =>
    show (true && decide (revision + 1 > 0)) = true ↔ _
    rw [Bool.true_and, decide_eq_true_iff, gt_iff_lt, UInt64.pos_iff_ne_zero]
  | false =>
    show decide (revision + 1 > revision) = true ↔ _
    rw [decide_eq_true_iff, gt_iff_lt, lt_add_one_iff]

/-- **The calls that succeed**, by the scene and the counters they meet. -/
theorem call_ok_iff (server : AuthoritativeServer) (next : Call) :
    (∃ update, (server.call next).1 = .ok update) ↔ Accepts server next := by
  have hscene := (next.backend (server.revision + 1)).publishable_iff
  have hvalid := revisionsAreValid_next server.advance.snapshotDue server.revision
  have hcall : (∃ update, (server.call next).1 = .ok update) ↔
      (next.backend (server.revision + 1)).serializeSnapshot ≠ [] ∧
        ∃ update, StateUpdate.create (if server.advance.snapshotDue then .snapshot else .delta)
          server.sessionId (server.sequence + 1) next.timestampMicroseconds
          (if server.advance.snapshotDue then 0 else server.revision) (server.revision + 1)
          (next.backend (server.revision + 1)).serializeSnapshot = some update := by
    rw [← exists_and_left]
    exact exists_congr fun update => nextUpdate_eq_ok
  rw [hcall, StateUpdate.exists_create_iff, hvalid]
  constructor
  · rintro ⟨hne, _, hsequence, hle, hrevision⟩
    exact ⟨hscene.mpr ⟨hne, hle⟩, hsequence, hrevision⟩
  · intro h
    obtain ⟨hne, hle⟩ := hscene.mp h.scene
    exact ⟨hne, server.sessionId_ne, h.sequence_ne, hle, h.revision_ne⟩

@[simp] theorem afterCall_sequence (server : AuthoritativeServer) (next : Call) :
    (server.afterCall next).sequence = server.sequence + 1 := by
  rw [afterCall, call, nextUpdate_snd]
  rfl

@[simp] theorem afterCall_revision (server : AuthoritativeServer) (next : Call) :
    (server.afterCall next).revision = server.revision + 1 := by
  rw [afterCall, call, nextUpdate_snd]
  rfl

/-- **A call is harmless exactly if it succeeds**: a failure moves the counters all the same. -/
theorem keepsCounters_iff_accepts (server : AuthoritativeServer) (next : Call) :
    KeepsCounters server next ↔ Accepts server next := by
  rw [← call_ok_iff]
  constructor
  · intro hkeeps
    cases hresult : (server.call next).1 with
    | ok update => exact ⟨update, rfl⟩
    | error error =>
      rw [nextUpdate_error hresult] at hresult
      have hsequence := (hkeeps hresult).1
      rw [afterCall_sequence] at hsequence
      simp at hsequence
  · rintro ⟨update, hok⟩ hfailed
    rw [hok] at hfailed
    simp at hfailed

-- ---------------------------------------------------------------------------
-- Runs of successful calls
-- ---------------------------------------------------------------------------

/-- The updates of a run of successful calls go on from the server's counters, without gaps. -/
theorem updates_of_accepts {server : AuthoritativeServer} {calls : List Call}
    (h : EachStep afterCall Accepts server calls) :
    (∀ first ∈ (server.updates calls).head?,
        first.sequence.toNat = server.sequence.toNat + 1 ∧
          (first.type = .delta → first.baseRevision = server.revision) ∧
          (server.sequence = 0 → first.type = .snapshot)) ∧
      ((server.updates calls).IsChain fun earlier later =>
        later.sequence.toNat = earlier.sequence.toNat + 1) ∧
      (server.updates calls).IsChain fun earlier later =>
        later.type = .delta → later.baseRevision = earlier.revision := by
  induction calls generalizing server with
  | nil => exact ⟨by simp [updates], List.isChain_nil, List.isChain_nil⟩
  | cons next rest ih =>
    obtain ⟨haccepts, hrest⟩ := h
    obtain ⟨update, hok⟩ := (call_ok_iff server next).mpr haccepts
    obtain ⟨hhead, hconsecutive, hbased⟩ := ih hrest
    obtain ⟨-, hsequence, hrevision, -, htype, hbase⟩ := nextUpdate_ok hok
    have hnumber : update.sequence.toNat = server.sequence.toNat + 1 := by
      rw [hsequence]
      exact (toNat_add_one_iff server.sequence).mpr haccepts.sequence_ne
    have hdelta : update.type = .delta → update.baseRevision = server.revision := by
      intro hdelta
      rw [hbase]
      split
      · rename_i hdue
        rw [htype, if_pos hdue] at hdelta
        simp at hdelta
      · rfl
    have hstart : server.sequence = 0 → update.type = .snapshot := by
      intro hzero
      have hdue : server.advance.snapshotDue = true := by
        rw [snapshotDue, advance, hzero]
        rfl
      rw [htype]
      exact if_pos hdue
    have hupdates : server.updates (next :: rest) =
        update :: (server.afterCall next).updates rest := by
      rw [updates, hok]
    rw [hupdates]
    refine ⟨?_, ?_, ?_⟩
    · rintro first ⟨⟩
      exact ⟨hnumber, hdelta, hstart⟩
    · refine List.isChain_cons.mpr ⟨fun later hlater => ?_, hconsecutive⟩
      rw [(hhead later hlater).1, afterCall_sequence, hsequence]
    · refine List.isChain_cons.mpr ⟨fun later hlater hlaterDelta => ?_, hbased⟩
      rw [(hhead later hlater).2.1 hlaterDelta, afterCall_revision, hrevision]

theorem gapless_updates {server : AuthoritativeServer} {calls : List Call}
    (hfresh : server.sequence = 0) (h : EachStep afterCall Accepts server calls) :
    Gapless (server.updates calls) := by
  obtain ⟨hhead, hconsecutive, hbased⟩ := updates_of_accepts h
  exact ⟨fun first hfirst => (hhead first hfirst).2.2 hfresh, hconsecutive, hbased⟩

/-- The calls of a run that all succeed, by their scenes and their number. -/
theorem eachStep_accepts_iff {server : AuthoritativeServer} {count : Nat} (hcount : count < 2 ^ 64)
    (hsequence : server.sequence = UInt64.ofNat count)
    (hrevision : server.revision = UInt64.ofNat count) (calls : List Call) :
    EachStep afterCall Accepts server calls ↔
      count + calls.length < 2 ^ 64 ∧
        ∀ (index : Nat) (next : Call), calls[index]? = some next →
          (next.backend (UInt64.ofNat (count + index + 1))).Publishable := by
  induction calls generalizing server count with
  | nil => simpa [EachStep] using hcount
  | cons next rest ih =>
    have hnumber : server.revision + 1 = UInt64.ofNat (count + 1) := by
      rw [hrevision, UInt64.ofNat_add]
      rfl
    have hsame : server.sequence + 1 = UInt64.ofNat (count + 1) := by
      rw [hsequence, ← hrevision, hnumber]
    -- the counters wrap at the call of number `2 ^ 64`, whatever its scene
    have haccepts : Accepts server next ↔ count + 1 < 2 ^ 64 ∧
        (next.backend (UInt64.ofNat (count + 1))).Publishable := by
      have hwrap : UInt64.ofNat (count + 1) ≠ 0 ↔ count + 1 < 2 ^ 64 := by
        rw [Ne, ← UInt64.toNat_inj, UInt64.toNat_ofNat']
        have hzero : (0 : UInt64).toNat = 0 := rfl
        omega
      constructor
      · intro h
        exact ⟨hwrap.mp (hsame ▸ h.sequence_ne), hnumber ▸ h.scene⟩
      · rintro ⟨hbound, hscene⟩
        exact ⟨hnumber ▸ hscene, hsame ▸ hwrap.mpr hbound, hnumber ▸ hwrap.mpr hbound⟩
    have hrest : ∀ _ : count + 1 < 2 ^ 64,
        EachStep afterCall Accepts (server.afterCall next) rest ↔
          count + 1 + rest.length < 2 ^ 64 ∧
            ∀ (index : Nat) (later : Call), rest[index]? = some later →
              (later.backend (UInt64.ofNat (count + 1 + index + 1))).Publishable :=
      fun hbound => ih hbound ((afterCall_sequence server next).trans hsame)
        ((afterCall_revision server next).trans hnumber)
    rw [EachStep, haccepts, List.length_cons]
    constructor
    · rintro ⟨⟨hbound, hscene⟩, hlater⟩
      obtain ⟨hlength, hscenes⟩ := (hrest hbound).mp hlater
      refine ⟨by omega, fun index other hother => ?_⟩
      cases index with
      | zero =>
        rw [List.getElem?_cons_zero, Option.some.injEq] at hother
        exact hother ▸ hscene
      | succ index =>
        rw [List.getElem?_cons_succ] at hother
        have hindex := hscenes index other hother
        rwa [Nat.add_right_comm count 1 index] at hindex
    · rintro ⟨hlength, hscenes⟩
      have hbound : count + 1 < 2 ^ 64 := by omega
      refine ⟨⟨hbound, hscenes 0 next rfl⟩, (hrest hbound).mpr ⟨by omega, ?_⟩⟩
      intro index other hother
      rw [Nat.add_right_comm count 1 index]
      exact hscenes (index + 1) other (by rwa [List.getElem?_cons_succ])

/-- **When the stream of a fresh server is intact.** No failed call of a run moves the counters,
and its updates are a gapless stream, exactly if every call meets a scene that fits in one
update and there are fewer than `2 ^ 64` calls. -/
theorem stream_intact_iff (backend : SimulationBackend) {sessionId : UInt64}
    (hsession : sessionId ≠ 0) (snapshotInterval : UInt64) (calls : List Call) :
    (EachStep afterCall KeepsCounters (create backend sessionId snapshotInterval hsession) calls ∧
        Gapless ((create backend sessionId snapshotInterval hsession).updates calls)) ↔
      calls.length < 2 ^ 64 ∧ ∀ (index : Nat) (next : Call), calls[index]? = some next →
        (next.backend (UInt64.ofNat (index + 1))).Publishable := by
  generalize hserver : create backend sessionId snapshotInterval hsession = server
  have hfresh : server.sequence = 0 ∧ server.revision = 0 := by
    rw [← hserver]
    exact ⟨rfl, rfl⟩
  have hkeeps : EachStep afterCall KeepsCounters server calls ↔
      EachStep afterCall Accepts server calls :=
    eachStep_congr (I := fun _ => True) (fun _ _ _ _ => trivial)
      (fun before next _ => keepsCounters_iff_accepts before next) trivial calls
  have haccepts := eachStep_accepts_iff (by decide : 0 < 2 ^ 64) hfresh.1 hfresh.2 calls
  simp only [Nat.zero_add] at haccepts
  rw [hkeeps, ← haccepts]
  constructor
  · intro h
    exact h.1
  · intro h
    exact ⟨h, gapless_updates hfresh.1 h⟩

namespace FailureExample

def node (label : List UInt8) : TopologyNode := ⟨1, 0, 0, 10, 0, true, label⟩

def scene (label : List UInt8) : TopologyScene := TopologyScene.empty.upsertNode (node label)

/-- A call that finds the node under a label of the given length. -/
def call (size : Nat) : Call := ⟨fun _ => scene (List.replicate size 65), 0⟩

theorem session_ne : (1 : UInt64) ≠ 0 := by decide

def server : AuthoritativeServer := create (fun _ => scene []) 1 60 session_ne

/-- A label that cannot be counted, and then one that can. -/
def calls : List Call := [call 256, call 255]

/-- Labels of the longest, a short and an ordinary length. -/
def fittingCalls : List Call := [call 255, call 3, call 80]

theorem publishable_scene {size : Nat} (h : size ≤ 255) :
    (scene (List.replicate size 65)).Publishable := by
  have hlabel : (List.replicate size (65 : UInt8)).length ≤ 255 :=
    (List.length_replicate ..).trans_le h
  have hsize : (scene (List.replicate size 65)).snapshotSize =
      8 + (24 + (List.replicate size (65 : UInt8)).length) := rfl
  refine ⟨List.forall_mem_singleton.mpr hlabel, ?_⟩
  rw [hsize]
  exact (Nat.add_le_add_left (Nat.add_le_add_left hlabel 24) 8).trans (by decide)

end FailureExample

open FailureExample in
/-- The first call fails and moves the counters; the stream begins with a delta. -/
theorem failed_publication_breaks_stream :
    ¬ (EachStep afterCall KeepsCounters server calls ∧ Gapless (server.updates calls)) ∧
      ((server.call (FailureExample.call 256)).1 = .error .serializationFailed ∧
        (server.afterCall (FailureExample.call 256)).sequence = 1) ∧
      (server.updates calls).map (fun update => (update.type, update.sequence,
        update.baseRevision)) = [(.delta, 2, 1)] := by
  have hfirst : (server.call (FailureExample.call 256)).1 = .error .serializationFailed ∧
      (server.afterCall (FailureExample.call 256)).sequence = 1 := by decide +kernel
  refine ⟨?_, hfirst, by decide +kernel⟩
  rintro ⟨hkeeps, -⟩
  have hsequence : (server.afterCall (FailureExample.call 256)).sequence = 0 :=
    (hkeeps.1 hfirst.1).1
  rw [hfirst.2] at hsequence
  exact absurd hsequence (by decide)

open FailureExample in
/-- With scenes that fit, the stream is intact: a snapshot and two deltas. -/
theorem stream_intact_iff_publishable :
    (EachStep afterCall KeepsCounters server fittingCalls ∧
        Gapless (server.updates fittingCalls)) ∧
      (server.updates fittingCalls).map (fun update => (update.type, update.sequence,
        update.baseRevision)) = [(.snapshot, 1, 0), (.delta, 2, 1), (.delta, 3, 2)] := by
  refine ⟨(stream_intact_iff (fun _ => scene []) (by decide) 60 fittingCalls).mpr
    ⟨by decide, ?_⟩, by decide +kernel⟩
  intro index next hnext
  have hmem := List.mem_of_getElem? hnext
  obtain ⟨size, hsize, rfl⟩ : ∃ size ≤ 255, next = FailureExample.call size := by
    simp only [fittingCalls, List.mem_cons, List.not_mem_nil, or_false] at hmem
    rcases hmem with rfl | rfl | rfl
    exacts [⟨255, le_rfl, rfl⟩, ⟨3, by decide, rfl⟩, ⟨80, by decide, rfl⟩]
  exact publishable_scene hsize

end SiliconSwitch.Simulation.AuthoritativeServer
