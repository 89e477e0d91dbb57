import SiliconSwitch.Replication.Agreement

/-!
# Superseded sessions

A client leaves a session when it applies a snapshot of another one. Nothing in
`consume` remembers the sessions that were left: an update of any other session
than the current one is taken for a restart, and a delayed update of the old
server undoes the change of session.

The runs here carry a record of the sessions the client was synchronized with
and of those it has left, so that "delayed" is a fact about the run.

* `synchronizer_keepsSession_iff`, `observer_keepsSession_iff` — one update;
* `supersededSessions_iff` — a run is stable under late updates exactly if no
  late update reaches the synchronizer;
* `late_snapshot` — a run in which one takes the observer back.
-/

namespace SiliconSwitch.Replication

open SiliconSwitch.Library SiliconSwitch.Routing SiliconSwitch.Transport
open SiliconSwitch.Visualization

-- ---------------------------------------------------------------------------
-- The record of sessions
-- ---------------------------------------------------------------------------

/-- The sessions that a client was synchronized with, and those that it left for
the snapshot of another session. -/
structure SessionHistory where
  followed : Finset UInt64
  superseded : Finset UInt64
deriving DecidableEq

namespace SessionHistory

def empty : SessionHistory := ⟨∅, ∅⟩

/-- The record after an update that leaves the client as given. -/
def after (history : SessionHistory) (appliedSnapshot : Bool) (client : ClientSynchronizer) :
    SessionHistory where
  followed :=
    if client.synchronized then history.followed ∪ client.sessionId.toFinset
    else history.followed
  superseded :=
    if appliedSnapshot then
      history.superseded ∪ history.followed.filter fun session => client.sessionId ≠ some session
    else history.superseded

end SessionHistory

/-- A synchronizer consumes an update. -/
def recordSynchronizer (state : ClientSynchronizer × SessionHistory) (delivery : Delivery) :
    ClientSynchronizer × SessionHistory :=
  let consumed := state.1.consume delivery.1 delivery.2
  (consumed.2, state.2.after (consumed.1 == .appliedSnapshot) consumed.2)

/-- An observer consumes the datagram of an update. -/
def recordObserver (state : ObserverClient × SessionHistory) (delivery : Delivery) :
    ObserverClient × SessionHistory :=
  let consumed := state.1.consumeDatagram delivery.1.serialize delivery.2
  (consumed.2, state.2.after (consumed.1 == .appliedSnapshot) consumed.2.synchronizer)

/-- The client is in the same session, as synchronized and as far as before. -/
structure Unmoved (before after : ClientSynchronizer) : Prop where
  sessionId : after.sessionId = before.sessionId
  synchronized : after.synchronized = before.synchronized
  sequence : after.sequence = before.sequence
  revision : after.revision = before.revision

/-- An update of a superseded session does not move the synchronizer. -/
def SynchronizerKeepsSession (state : ClientSynchronizer × SessionHistory)
    (delivery : Delivery) : Prop :=
  delivery.1.sessionId ∈ state.2.superseded → Unmoved state.1 (recordSynchronizer state delivery).1

/-- An update of a superseded session moves neither the synchronizer of an
observer nor its scene. -/
def ObserverKeepsSession (state : ObserverClient × SessionHistory) (delivery : Delivery) : Prop :=
  delivery.1.sessionId ∈ state.2.superseded →
    Unmoved state.1.synchronizer (recordObserver state delivery).1.synchronizer ∧
      (recordObserver state delivery).1.scene = state.1.scene

/-- The update is not of a superseded session. -/
def OfNoSuperseded (history : SessionHistory) (delivery : Delivery) : Prop :=
  delivery.1.sessionId ∉ history.superseded

-- ---------------------------------------------------------------------------
-- One update
-- ---------------------------------------------------------------------------

/-- The client is in none of the sessions it has left. -/
def OutsideSuperseded (client : ClientSynchronizer) (history : SessionHistory) : Prop :=
  ∀ session ∈ history.superseded, client.sessionId ≠ some session

/-- A client stays outside of what it has left as long as it does not enter such
a session. -/
theorem outsideSuperseded_after {history : SessionHistory} {client : ClientSynchronizer}
    (h : OutsideSuperseded client history) (appliedSnapshot : Bool) :
    OutsideSuperseded client (history.after appliedSnapshot client) := by
  intro session hsession
  unfold SessionHistory.after at hsession
  cases appliedSnapshot with
  | false => exact h session hsession
  | true =>
    simp only [if_true, Finset.mem_union, Finset.mem_filter] at hsession
    rcases hsession with hold | ⟨_, hother⟩
    · exact h session hold
    · exact hother

/-- The session that `consume` enters is the update's. -/
theorem outsideSuperseded_consume {client : ClientSynchronizer} {history : SessionHistory}
    {update : StateUpdate} {receivedAt : TimePoint}
    (hnew : update.sessionId ∉ history.superseded) :
    OutsideSuperseded (client.consume update receivedAt).2 history := by
  intro session hsession heq
  rw [ClientSynchronizer.consume_sessionId, Option.some.injEq] at heq
  rw [heq] at hnew
  exact hnew hsession

/-- **A synchronizer is stable under an update exactly if the update is not of a
session it has left.** -/
theorem synchronizer_keepsSession_iff {state : ClientSynchronizer × SessionHistory}
    (h : OutsideSuperseded state.1 state.2) (delivery : Delivery) :
    SynchronizerKeepsSession state delivery ↔ OfNoSuperseded state.2 delivery := by
  constructor
  · intro hkeeps hsuperseded
    -- consuming the update enters its session
    have hunmoved := (hkeeps hsuperseded).sessionId
    have hentered := ClientSynchronizer.consume_sessionId state.1 delivery.1 delivery.2
    exact h delivery.1.sessionId hsuperseded (hunmoved.symm.trans hentered)
  · intro hnew hsuperseded
    exact absurd hsuperseded hnew

theorem outsideSuperseded_recordSynchronizer {state : ClientSynchronizer × SessionHistory}
    {delivery : Delivery} (hnew : OfNoSuperseded state.2 delivery) :
    OutsideSuperseded (recordSynchronizer state delivery).1
      (recordSynchronizer state delivery).2 :=
  outsideSuperseded_after (outsideSuperseded_consume hnew) _

/-- **An observer is stable under an update exactly if the update cannot be read
or is not of a session it has left.** -/
theorem observer_keepsSession_iff {state : ObserverClient × SessionHistory}
    (h : OutsideSuperseded state.1.synchronizer state.2) (delivery : Delivery) :
    ObserverKeepsSession state delivery ↔
      (ObserverClient.readable delivery.1 = true → OfNoSuperseded state.2 delivery) := by
  have hdatagram := ObserverClient.consumeDatagram_serialize state.1 delivery.1 delivery.2
  cases hcandidate : state.1.candidate delivery.1 with
  | none =>
    have hunreadable : ObserverClient.readable delivery.1 = false := by
      rw [← ObserverClient.candidate_isSome state.1, hcandidate]
      rfl
    refine iff_of_true (fun _ => ?_) fun hreadable => ?_
    · unfold recordObserver
      rw [hdatagram, ObserverClient.consumeUpdate_of_malformed hcandidate]
      exact ⟨⟨rfl, rfl, rfl, rfl⟩, rfl⟩
    · rw [hunreadable] at hreadable
      simp at hreadable
  | some scene =>
    have hreadable := ObserverClient.readable_of_candidate hcandidate
    have hconsumed := (ObserverClient.consumeUpdate_of_candidate hcandidate delivery.2).1
    constructor
    · intro hkeeps _ hsuperseded
      have hunmoved := (hkeeps hsuperseded).1.sessionId
      unfold recordObserver at hunmoved
      rw [hdatagram, hconsumed, ClientSynchronizer.consume_sessionId] at hunmoved
      exact h delivery.1.sessionId hsuperseded hunmoved.symm
    · intro hnew hsuperseded
      exact absurd hsuperseded (hnew hreadable)

theorem outsideSuperseded_recordObserver {state : ObserverClient × SessionHistory}
    (h : OutsideSuperseded state.1.synchronizer state.2) {delivery : Delivery}
    (hnew : ObserverClient.readable delivery.1 = true → OfNoSuperseded state.2 delivery) :
    OutsideSuperseded (recordObserver state delivery).1.synchronizer
      (recordObserver state delivery).2 := by
  unfold recordObserver
  rw [ObserverClient.consumeDatagram_serialize]
  cases hcandidate : state.1.candidate delivery.1 with
  | none =>
    rw [ObserverClient.consumeUpdate_of_malformed hcandidate]
    exact outsideSuperseded_after h _
  | some scene =>
    have hreadable := ObserverClient.readable_of_candidate hcandidate
    have hconsumed := (ObserverClient.consumeUpdate_of_candidate hcandidate delivery.2).1
    dsimp only
    refine outsideSuperseded_after ?_ _
    rw [hconsumed]
    exact outsideSuperseded_consume (hnew hreadable)

-- ---------------------------------------------------------------------------
-- Runs
-- ---------------------------------------------------------------------------

/-- **A run is stable under updates of superseded sessions exactly if it delivers
none of them**, to a synchronizer at all, to an observer in a readable form. -/
theorem supersededSessions_iff (deliveries : List Delivery) :
    (EachStep recordSynchronizer SynchronizerKeepsSession
        (ClientSynchronizer.create, SessionHistory.empty) deliveries ↔
      EachStep recordSynchronizer (fun state => OfNoSuperseded state.2)
        (ClientSynchronizer.create, SessionHistory.empty) deliveries) ∧
    (EachStep recordObserver ObserverKeepsSession
        (ObserverClient.create, SessionHistory.empty) deliveries ↔
      EachStep recordObserver
        (fun state delivery => ObserverClient.readable delivery.1 = true →
          OfNoSuperseded state.2 delivery)
        (ObserverClient.create, SessionHistory.empty) deliveries) := by
  have hstart : ∀ client : ClientSynchronizer, OutsideSuperseded client SessionHistory.empty := by
    intro client session hsession
    simp [SessionHistory.empty] at hsession
  constructor
  · have hstep : ∀ state delivery, OutsideSuperseded state.1 state.2 →
        OfNoSuperseded state.2 delivery →
        OutsideSuperseded (recordSynchronizer state delivery).1
          (recordSynchronizer state delivery).2 :=
      fun _ _ _ hnew => outsideSuperseded_recordSynchronizer hnew
    exact eachStep_congr hstep (fun _ delivery h => synchronizer_keepsSession_iff h delivery)
      (hstart ClientSynchronizer.create) deliveries
  · have hstep : ∀ state delivery, OutsideSuperseded state.1.synchronizer state.2 →
        (ObserverClient.readable delivery.1 = true → OfNoSuperseded state.2 delivery) →
        OutsideSuperseded (recordObserver state delivery).1.synchronizer
          (recordObserver state delivery).2 :=
      fun _ _ h hnew => outsideSuperseded_recordObserver h hnew
    exact eachStep_congr hstep (fun _ delivery h => observer_keepsSession_iff h delivery)
      (hstart ClientSynchronizer.create) deliveries

/-- A snapshot of one node, as the server of a session would send it. -/
def snapshotOf (sessionId sequence : UInt64) (node : UInt32) : Option StateUpdate :=
  StateUpdate.create .snapshot sessionId sequence 0 0 sequence
    (countingBackend node sequence).serializeSnapshot

/-- The server of session 1 restarts as session 2. -/
def restart : List Delivery :=
  [((snapshotOf 1 1 1).get (by decide +kernel), 0), ((snapshotOf 2 1 2).get (by decide +kernel), 1)]

/-- The second snapshot of session 1, delayed. -/
def delayed : Delivery := ((snapshotOf 1 2 3).get (by decide +kernel), 2)

/-- After the restart a delayed snapshot takes the client back to session 1, and
an observer shows the scene of the old server again. -/
theorem late_snapshot :
    ¬ EachStep recordSynchronizer SynchronizerKeepsSession
        (ClientSynchronizer.create, SessionHistory.empty) (restart ++ [delayed]) ∧
      ¬ EachStep recordObserver ObserverKeepsSession
        (ObserverClient.create, SessionHistory.empty) (restart ++ [delayed]) ∧
      (run recordObserver (ObserverClient.create, SessionHistory.empty) restart).1.scene =
        countingBackend 2 1 ∧
      (run recordObserver (ObserverClient.create, SessionHistory.empty)
        (restart ++ [delayed])).1.scene = countingBackend 3 2 := by
  refine ⟨fun hkeeps => ?_, fun hkeeps => ?_, by decide +kernel, by decide +kernel⟩
  · have hunmoved := hkeeps.at_split (by decide +kernel)
    exact absurd hunmoved.sessionId (by decide +kernel)
  · have hunmoved := hkeeps.at_split (by decide +kernel)
    exact absurd hunmoved.1.sessionId (by decide +kernel)

end SiliconSwitch.Replication
