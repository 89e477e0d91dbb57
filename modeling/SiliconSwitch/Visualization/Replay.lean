import SiliconSwitch.Visualization.ObserverClient
import SiliconSwitch.Library.Transition

/-!
# The scene as a replay

What an observer shows after any datagrams, well formed or not. Beside the client,
an `Observation` keeps the results of its calls and, as a `Replay`, the updates it
has accepted since the snapshot it applied last.

## Results

* `consume_resyncRequired` — the synchronizer asks for a resync exactly while it is
  not synchronized.
* `replays_consume`        — every datagram keeps the scene a replay.
* `exact_replay`           — so it is one after every run.
-/

namespace SiliconSwitch.Transport.ClientSynchronizer

open SiliconSwitch.Routing

/-- The request for a resync and the synchronization exclude each other. -/
theorem consume_resyncRequired {client : ClientSynchronizer}
    (h : client.resyncRequired = !client.synchronized) (update : StateUpdate)
    (receivedAt : TimePoint) :
    (client.consume update receivedAt).2.resyncRequired =
      !(client.consume update receivedAt).2.synchronized := by
  -- whatever the state before, an update in order settles both members together
  have hcurrent : ∀ client : ClientSynchronizer, client.resyncRequired = !client.synchronized →
      (client.consumeCurrent update).2.resyncRequired =
        !(client.consumeCurrent update).2.synchronized := by
    intro client h
    unfold consumeCurrent
    split
    · rfl
    · split
      · rename_i hunsynchronized
        simpa using hunsynchronized
      · split
        · rfl
        · split
          · rfl
          · exact h
  unfold consume
  dsimp only
  split
  · split
    · rfl
    · exact hcurrent _ rfl
  · split
    · exact h
    · split
      · exact h
      · exact hcurrent _ h

end SiliconSwitch.Transport.ClientSynchronizer

namespace SiliconSwitch.Visualization

open SiliconSwitch.Library SiliconSwitch.Routing SiliconSwitch.Transport

-- ---------------------------------------------------------------------------
-- Replays
-- ---------------------------------------------------------------------------

/-- The snapshot that was applied last, and what has been accepted after it. -/
structure Replay where
  snapshot : StateUpdate
  accepted : List StateUpdate

namespace Replay

def deltas (replay : Replay) : List StateUpdate :=
  replay.accepted.filter fun update => update.type = .delta

/-- The update that was applied last. -/
def lastApplied (replay : Replay) : StateUpdate := replay.deltas.getLastD replay.snapshot

/-- `parse_snapshot` of the snapshot, then `apply_delta` of the deltas in order. -/
def scene (replay : Replay) : Option TopologyScene :=
  (TopologyScene.parseSnapshot replay.snapshot.payload).bind fun scene =>
    replay.deltas.foldlM (fun scene update => scene.applyDelta update.payload) scene

def extend (replay : Replay) (update : StateUpdate) : Replay :=
  { replay with accepted := replay.accepted ++ [update] }

/-- An update that may be accepted after `replay`. -/
structure Follows (replay : Replay) (update : StateUpdate) : Prop where
  type : update.type ≠ .snapshot
  sessionId : update.sessionId = replay.snapshot.sessionId
  sequence : update.sequence.toNat =
    replay.snapshot.sequence.toNat + replay.accepted.length + 1
  baseRevision : update.type = .delta → update.baseRevision = replay.lastApplied.revision

/-- Every accepted update follows those before it. -/
def Chained (replay : Replay) : Prop :=
  replay.snapshot.type = .snapshot ∧
    ∀ front update back, replay.accepted = front ++ update :: back →
      Follows ⟨replay.snapshot, front⟩ update

theorem deltas_extend_of_delta (replay : Replay) {update : StateUpdate}
    (h : update.type = .delta) : (replay.extend update).deltas = replay.deltas ++ [update] := by
  simp [deltas, extend, h]

theorem deltas_extend_of_ne (replay : Replay) {update : StateUpdate} (h : update.type ≠ .delta) :
    (replay.extend update).deltas = replay.deltas := by
  simp [deltas, extend, h]

theorem scene_extend_of_delta {replay : Replay} {scene : TopologyScene}
    (h : replay.scene = some scene) {update : StateUpdate} (hdelta : update.type = .delta) :
    (replay.extend update).scene = scene.applyDelta update.payload := by
  rw [Replay.scene, Option.bind_eq_some_iff] at h
  obtain ⟨start, hstart, hdeltas⟩ := h
  rw [Replay.scene, deltas_extend_of_delta replay hdelta]
  show (TopologyScene.parseSnapshot replay.snapshot.payload).bind _ = _
  rw [hstart, Option.bind_some, List.foldlM_append, hdeltas]
  simp

theorem scene_extend_of_ne (replay : Replay) {update : StateUpdate} (h : update.type ≠ .delta) :
    (replay.extend update).scene = replay.scene := by
  rw [Replay.scene, Replay.scene, deltas_extend_of_ne replay h]
  rfl

theorem lastApplied_extend_of_delta (replay : Replay) {update : StateUpdate}
    (h : update.type = .delta) : (replay.extend update).lastApplied = update := by
  rw [lastApplied, deltas_extend_of_delta replay h]
  simp

theorem lastApplied_extend_of_ne (replay : Replay) {update : StateUpdate}
    (h : update.type ≠ .delta) : (replay.extend update).lastApplied = replay.lastApplied := by
  rw [lastApplied, deltas_extend_of_ne replay h]
  rfl

theorem Chained.extend {replay : Replay} (h : replay.Chained) {update : StateUpdate}
    (hfollows : replay.Follows update) : (replay.extend update).Chained := by
  refine ⟨h.1, fun front accepted back hsplit => ?_⟩
  rcases concat_eq_split hsplit with ⟨rfl, rfl⟩ | ⟨earlier, hearlier⟩
  · exact hfollows
  · exact h.2 front accepted earlier hearlier

end Replay

-- ---------------------------------------------------------------------------
-- Observations
-- ---------------------------------------------------------------------------

/-- The bytes of a datagram, with the time they are consumed. -/
abbrev Datagram : Type := List UInt8 × TimePoint

/-- The replay after the synchronizer's result for an update. -/
def recordResult (replay : Option Replay) (update : StateUpdate) :
    SynchronizationResult → Option Replay
  | .appliedSnapshot => some ⟨update, []⟩
  | .appliedDelta | .acceptedHeartbeat => replay.map fun replay => replay.extend update
  | _ => replay

/-- The replay after a datagram, which may not get as far as the synchronizer. -/
def record (replay : Option Replay) (client : ObserverClient) (datagram : Datagram) :
    Option Replay :=
  match StateUpdate.parse datagram.1 with
  | .error _ => replay
  | .ok update =>
    match client.candidate update with
    | none => replay
    | some _ => recordResult replay update (client.synchronizer.consume update datagram.2).1

/-- A client with the results of its calls and its replay, if it has applied a
snapshot. -/
structure Observation where
  client : ObserverClient
  results : List ObserverResult
  replay : Option Replay

namespace Observation

def start : Observation := ⟨ObserverClient.create, [], none⟩

def consume (observation : Observation) (datagram : Datagram) : Observation where
  client := (observation.client.consumeDatagram datagram.1 datagram.2).2
  results := observation.results ++ [(observation.client.consumeDatagram datagram.1 datagram.2).1]
  replay := record observation.replay observation.client datagram

end Observation

/-- A fresh client after some datagrams. -/
def observe (datagrams : List Datagram) : Observation :=
  run Observation.consume Observation.start datagrams

/-- The bookkeeping does not act on the client. -/
theorem observe_client (datagrams : List Datagram) :
    (observe datagrams).client =
      run (fun client datagram => (client.consumeDatagram datagram.1 datagram.2).2)
        ObserverClient.create datagrams := by
  have hrun : ∀ observation : Observation,
      (run Observation.consume observation datagrams).client =
        run (fun client datagram => (client.consumeDatagram datagram.1 datagram.2).2)
          observation.client datagrams := by
    induction datagrams with
    | nil => exact fun _ => rfl
    | cons datagram rest ih => exact fun observation => ih (observation.consume datagram)
  exact hrun Observation.start

/-- What the synchronizer's members say of the replay while it is synchronized. -/
structure Tracks (view : ClientSynchronizer.View) (replay : Replay) : Prop where
  sessionId : view.sessionId = some replay.snapshot.sessionId
  sequence : view.sequence.toNat = replay.snapshot.sequence.toNat + replay.accepted.length
  revision : view.revision = replay.lastApplied.revision

/-- After an accepted update the members are those of the update. -/
theorem Tracks.extend {view : ClientSynchronizer.View} {replay : Replay} {update : StateUpdate}
    (hfollows : replay.Follows update) (hsession : view.sessionId = some update.sessionId)
    (hsequence : view.sequence = update.sequence)
    (hrevision : view.revision = (replay.extend update).lastApplied.revision) :
    Tracks view (replay.extend update) where
  sessionId := by rw [hsession, hfollows.sessionId]; rfl
  sequence := by
    rw [hsequence, hfollows.sequence, Replay.extend, List.length_append, List.length_singleton]
    rfl
  revision := hrevision

/-- The scene is empty before the first snapshot, and a replay after it. -/
structure Replays (observation : Observation) : Prop where
  empty : observation.replay = none → observation.client.scene = TopologyScene.empty ∧
    observation.client.synchronizer.synchronized = false ∧
    ∀ result ∈ observation.results, result ≠ .appliedSnapshot ∧ result ≠ .appliedDelta
  scene : ∀ replay, observation.replay = some replay →
    replay.scene = some observation.client.scene ∧ replay.Chained
  tracks : ∀ replay, observation.replay = some replay →
    observation.client.synchronizer.synchronized = true →
    Tracks observation.client.synchronizer.view replay
  resyncRequired : observation.client.synchronizer.resyncRequired =
    !observation.client.synchronizer.synchronized

theorem replays_start : Replays Observation.start where
  empty := fun _ => ⟨rfl, rfl, by simp [Observation.start]⟩
  scene := by simp [Observation.start]
  tracks := by simp [Observation.start]
  resyncRequired := rfl

/-- What applies no update keeps the scene; the synchronizer may only have lost its
synchronization. -/
theorem Replays.refused {observation : Observation} (h : Replays observation)
    {result : ObserverResult} (hsnapshot : result ≠ .appliedSnapshot)
    (hdelta : result ≠ .appliedDelta) {synchronizer : ClientSynchronizer}
    (hview : synchronizer.synchronized = true →
      synchronizer.view = observation.client.synchronizer.view)
    (hresync : synchronizer.resyncRequired = !synchronizer.synchronized) :
    Replays ⟨⟨synchronizer, observation.client.scene⟩, observation.results ++ [result],
      observation.replay⟩ where
  empty := by
    intro hnone
    obtain ⟨hscene, hunsynchronized, hresults⟩ := h.empty hnone
    refine ⟨hscene, ?_, fun other hother => ?_⟩
    · by_contra hsynchronized
      rw [Bool.not_eq_false] at hsynchronized
      have hsame := congrArg ClientSynchronizer.View.synchronized (hview hsynchronized)
      exact Bool.noConfusion (hsynchronized.symm.trans (hsame.trans hunsynchronized))
    · rw [List.mem_append, List.mem_singleton] at hother
      rcases hother with hold | rfl
      · exact hresults other hold
      · exact ⟨hsnapshot, hdelta⟩
  scene := h.scene
  tracks := by
    intro replay hreplay hsynchronized
    have hsame := hview hsynchronized
    have hbefore := congrArg ClientSynchronizer.View.synchronized hsame
    show Tracks synchronizer.view replay
    rw [hsame]
    exact h.tracks replay hreplay (hbefore.symm.trans hsynchronized)
  resyncRequired := hresync

/-- What applies or accepts an update leads to a replay of the new scene. -/
theorem Replays.of_replay {client : ObserverClient} {results : List ObserverResult}
    {replay : Replay} (hscene : replay.scene = some client.scene) (hchained : replay.Chained)
    (htracks : Tracks client.synchronizer.view replay)
    (hresync : client.synchronizer.resyncRequired = !client.synchronizer.synchronized) :
    Replays ⟨client, results, some replay⟩ where
  empty := by simp
  scene := by
    intro other hother
    rw [← Option.some.inj hother]
    exact ⟨hscene, hchained⟩
  tracks := by
    intro other hother _
    rw [← Option.some.inj hother]
    exact htracks
  resyncRequired := hresync

/-- The next sequence number is the successor, without a wrap. -/
theorem toNat_next {sequence next : UInt64} (hnext : next = sequence + 1) (hlt : sequence < next) :
    next.toNat = sequence.toNat + 1 := by
  rw [UInt64.lt_iff_toNat_lt] at hlt
  have hbound := sequence.toNat_lt
  rw [hnext, UInt64.toNat_add] at hlt ⊢
  simp only [UInt64.toNat_one] at hlt ⊢
  omega

/-- A synchronized client has a replay, and the next update in order follows it. -/
theorem Replays.follows {observation : Observation} (h : Replays observation)
    {update : StateUpdate} (htype : update.type ≠ .snapshot)
    (horder : ClientSynchronizer.InOrder observation.client.synchronizer.view update)
    (hsynchronized : observation.client.synchronizer.synchronized = true)
    (hsequence : update.sequence = observation.client.synchronizer.sequence + 1)
    (hbase : update.type = .delta →
      update.baseRevision = observation.client.synchronizer.revision) :
    ∃ replay, observation.replay = some replay ∧ replay.Follows update ∧
      Tracks observation.client.synchronizer.view replay := by
  cases hreplay : observation.replay with
  | none =>
    rw [(h.empty hreplay).2.1] at hsynchronized
    simp at hsynchronized
  | some replay =>
    have htracks := h.tracks replay hreplay hsynchronized
    refine ⟨replay, rfl, ⟨htype, ?_, ?_, fun hdelta => ?_⟩, htracks⟩
    · have hsession := horder.sessionId
      rw [htracks.sessionId, Option.some.injEq] at hsession
      exact hsession.symm
    · rw [toNat_next hsequence horder.sequence_lt, ← htracks.sequence]
      rfl
    · rw [hbase hdelta, ← htracks.revision]
      rfl

/-- The result that `consume_datagram` returns for one of the synchronizer. -/
def observerResult : SynchronizationResult → ObserverResult
  | .appliedSnapshot => .appliedSnapshot
  | .appliedDelta => .appliedDelta
  | .acceptedHeartbeat | .ignoredDuplicate | .ignoredStale => .ignored
  | .needsSnapshot | .sequenceGap | .revisionMismatch => .resyncRequired

theorem consumeUpdate_eq {client : ObserverClient} {update : StateUpdate} {scene : TopologyScene}
    (h : client.candidate update = some scene) (receivedAt : TimePoint) :
    client.consumeUpdate update receivedAt =
      (observerResult (client.synchronizer.consume update receivedAt).1,
       ⟨(client.synchronizer.consume update receivedAt).2,
        if ObserverClient.adopts (client.synchronizer.consume update receivedAt).1 then scene
        else client.scene⟩) := by
  unfold ObserverClient.consumeUpdate
  rw [h]
  dsimp only
  obtain ⟨result, synchronizer⟩ := client.synchronizer.consume update receivedAt
  cases result <;> rfl

/-- An update that reaches the synchronizer, outcome by outcome. -/
theorem Replays.consumeUpdate {observation : Observation} (h : Replays observation)
    {update : StateUpdate} {scene : TopologyScene}
    (hcandidate : observation.client.candidate update = some scene) (receivedAt : TimePoint) :
    Replays ⟨(observation.client.consumeUpdate update receivedAt).2,
      observation.results ++ [(observation.client.consumeUpdate update receivedAt).1],
      recordResult observation.replay update
        (observation.client.synchronizer.consume update receivedAt).1⟩ := by
  rw [consumeUpdate_eq hcandidate]
  have houtcome :=
    ClientSynchronizer.consume_outcome observation.client.synchronizer update receivedAt
  have hresync :=
    ClientSynchronizer.consume_resyncRequired h.resyncRequired update receivedAt
  generalize observation.client.synchronizer.consume update receivedAt = consumed
    at houtcome hresync ⊢
  obtain ⟨result, after⟩ := consumed
  dsimp only at houtcome hresync ⊢
  generalize hview : after.view = view at houtcome
  cases houtcome with
  | @ignored result hresult _ _ =>
    rcases hresult with rfl | rfl
    · exact h.refused (by simp [observerResult]) (by simp [observerResult]) (fun _ => hview) hresync
    · exact h.refused (by simp [observerResult]) (by simp [observerResult]) (fun _ => hview) hresync
  | snapshot htype _ =>
    rw [ObserverClient.candidate, htype] at hcandidate
    dsimp only at hcandidate
    refine Replays.of_replay ?_ ⟨htype, by simp⟩ ?_ hresync
    · rw [Replay.scene, hcandidate]
      rfl
    · rw [hview]
      exact ⟨rfl, rfl, rfl⟩
  | delta htype horder hsynchronized hsequence hbase =>
    obtain ⟨replay, hreplay, hfollows, htracks⟩ :=
      h.follows (by rw [htype]; simp) horder hsynchronized hsequence fun _ => hbase
    obtain ⟨hscene, hchained⟩ := h.scene replay hreplay
    rw [ObserverClient.candidate, htype] at hcandidate
    dsimp only at hcandidate
    rw [hreplay]
    have hextended : (replay.extend update).scene = some scene := by
      rw [Replay.scene_extend_of_delta hscene htype]
      exact hcandidate
    refine Replays.of_replay hextended (hchained.extend hfollows) ?_ hresync
    rw [hview]
    refine Tracks.extend hfollows rfl rfl ?_
    rw [Replay.lastApplied_extend_of_delta replay htype]
  | heartbeat hsnapshot hdelta horder hsynchronized hsequence =>
    obtain ⟨replay, hreplay, hfollows, htracks⟩ :=
      h.follows hsnapshot horder hsynchronized hsequence fun hcontra => absurd hcontra hdelta
    obtain ⟨hscene, hchained⟩ := h.scene replay hreplay
    rw [hreplay]
    refine Replays.of_replay ?_ (hchained.extend hfollows) ?_ hresync
    · rw [Replay.scene_extend_of_ne replay hdelta]
      exact hscene
    · rw [hview]
      refine Tracks.extend hfollows rfl rfl ?_
      rw [Replay.lastApplied_extend_of_ne replay hdelta, ← htracks.revision]
  | @resync result hresult htype horder hgap =>
    have hlost : after.synchronized = false := congrArg ClientSynchronizer.View.synchronized hview
    have hkept : after.synchronized = true → after.view = observation.client.synchronizer.view := by
      intro hsynchronized
      rw [hlost] at hsynchronized
      simp at hsynchronized
    rcases hresult with rfl | rfl | rfl
    · exact h.refused (by simp [observerResult]) (by simp [observerResult]) hkept hresync
    · exact h.refused (by simp [observerResult]) (by simp [observerResult]) hkept hresync
    · exact h.refused (by simp [observerResult]) (by simp [observerResult]) hkept hresync
  | newSession htype hsession =>
    have hlost : after.synchronized = false := congrArg ClientSynchronizer.View.synchronized hview
    refine h.refused (by simp [observerResult]) (by simp [observerResult]) (fun hsynchronized => ?_)
      hresync
    rw [hlost] at hsynchronized
    simp at hsynchronized

/-- Every datagram keeps the scene a replay. -/
theorem replays_consume {observation : Observation} (h : Replays observation)
    (datagram : Datagram) : Replays (observation.consume datagram) := by
  unfold Observation.consume record ObserverClient.consumeDatagram
  cases hparse : StateUpdate.parse datagram.1 with
  | error reason => exact h.refused (by simp) (by simp) (fun _ => rfl) h.resyncRequired
  | ok update =>
    dsimp only
    cases hcandidate : observation.client.candidate update with
    | none =>
      rw [ObserverClient.consumeUpdate_of_malformed hcandidate]
      exact h.refused (by simp) (by simp) (fun _ => rfl) h.resyncRequired
    | some scene => exact h.consumeUpdate hcandidate datagram.2

/-- What reports neither a snapshot nor a delta applied leaves the scene alone. -/
theorem scene_consumeDatagram (client : ObserverClient) (datagram : Datagram)
    (hsnapshot : (client.consumeDatagram datagram.1 datagram.2).1 ≠ .appliedSnapshot)
    (hdelta : (client.consumeDatagram datagram.1 datagram.2).1 ≠ .appliedDelta) :
    (client.consumeDatagram datagram.1 datagram.2).2.scene = client.scene := by
  unfold ObserverClient.consumeDatagram at hsnapshot hdelta ⊢
  cases hparse : StateUpdate.parse datagram.1 with
  | error reason => rfl
  | ok update =>
    rw [hparse] at hsnapshot hdelta
    dsimp only at hsnapshot hdelta ⊢
    cases hcandidate : client.candidate update with
    | none => rw [ObserverClient.consumeUpdate_of_malformed hcandidate]
    | some scene =>
      rw [consumeUpdate_eq hcandidate] at hsnapshot hdelta ⊢
      have hkept : ObserverClient.adopts
          (client.synchronizer.consume update datagram.2).1 = false := by
        generalize (client.synchronizer.consume update datagram.2).1 = result at hsnapshot hdelta
        cases result with
        | appliedSnapshot => exact absurd rfl hsnapshot
        | appliedDelta => exact absurd rfl hdelta
        | _ => rfl
      dsimp only
      rw [hkept, if_neg (by simp)]

/-- **The scene is an exact replay** of what has been applied: nothing, or the last
snapshot and the deltas after it, all of its session, in sequence, each on the
revision applied before it. No other datagram touches the scene, and the client
asks for a resync exactly while it is not synchronized. -/
theorem exact_replay (datagrams : List Datagram) :
    (match (observe datagrams).replay with
      | none => (observe datagrams).client.scene = TopologyScene.empty ∧
        ∀ result ∈ (observe datagrams).results,
          result ≠ .appliedSnapshot ∧ result ≠ .appliedDelta
      | some replay => replay.scene = some (observe datagrams).client.scene ∧ replay.Chained) ∧
      (∀ datagram : Datagram,
        let consumed := (observe datagrams).client.consumeDatagram datagram.1 datagram.2
        consumed.1 ≠ .appliedSnapshot → consumed.1 ≠ .appliedDelta →
          consumed.2.scene = (observe datagrams).client.scene) ∧
      (observe datagrams).client.synchronizer.resyncRequired =
        !(observe datagrams).client.synchronizer.synchronized := by
  have hreplays : Replays (observe datagrams) :=
    run_invariant (I := Replays) (fun _ datagram h => replays_consume h datagram) replays_start
      datagrams
  refine ⟨?_, scene_consumeDatagram _, hreplays.resyncRequired⟩
  cases hreplay : (observe datagrams).replay with
  | none => exact ⟨(hreplays.empty hreplay).1, (hreplays.empty hreplay).2.2⟩
  | some replay => exact hreplays.scene replay hreplay

end SiliconSwitch.Visualization
