import SiliconSwitch.Replication.ObserverDisplay
import SiliconSwitch.Replication.Recovery
import SiliconSwitch.Visualization.Replay

/-!
# The integration observer

`main` of the integration observer: the loop that counts what `receive_next` returns until
enough updates are applied or the time is over, and the line that it prints.

* `result_of_outcome` — what becomes of the next update of a server, by what is known before;
* `turn_update`       — a turn of the loop with it;
* `report_truthful`   — what the line says, whatever the network does;
* `joins_stream`      — the whole line of an observer that joins a server at any call.
-/

namespace SiliconSwitch.Replication

open SiliconSwitch.Library SiliconSwitch.Routing SiliconSwitch.Transport
open SiliconSwitch.Visualization SiliconSwitch.Simulation

-- ---------------------------------------------------------------------------
-- The program
-- ---------------------------------------------------------------------------

/-- The counters of `main`. -/
structure ObserverCounts where
  snapshots : Nat
  deltas : Nat
  resyncs : Nat
  malformed : Nat
deriving DecidableEq

namespace ObserverCounts

def zero : ObserverCounts := ⟨0, 0, 0, 0⟩

/-- What the loop waits for. -/
def updates (counts : ObserverCounts) : Nat := counts.snapshots + counts.deltas

/-- The `switch` of the loop. -/
def count (counts : ObserverCounts) : ObserverResult → ObserverCounts
  | .appliedSnapshot => { counts with snapshots := counts.snapshots + 1 }
  | .appliedDelta => { counts with deltas := counts.deltas + 1 }
  | .resyncRequired => { counts with resyncs := counts.resyncs + 1 }
  | .malformedUpdate | .malformedScene => { counts with malformed := counts.malformed + 1 }
  | .ignored | .networkError => counts

end ObserverCounts

/-- What `receive_next` meets, with its time. -/
abbrev Incoming : Type := Except UdpError UdpDatagram × TimePoint

/-- The line that is printed, without the name of the observer. -/
structure ObserverReport where
  synchronized : Bool
  counts : ObserverCounts
  revision : UInt64
  nodes : Nat
deriving DecidableEq

structure IntegrationObserver where
  counts : ObserverCounts
  client : ObserverClient
deriving DecidableEq

namespace IntegrationObserver

def start : IntegrationObserver := ⟨ObserverCounts.zero, ObserverClient.create⟩

/-- The body of the loop. -/
def turn (observer : IntegrationObserver) (incoming : Incoming) : IntegrationObserver :=
  let received := observer.client.receiveNext incoming.1 incoming.2
  ⟨observer.counts.count received.1, received.2⟩

/-- The loop, over what comes before the deadline. -/
def watch (updates : Nat) : IntegrationObserver → List Incoming → IntegrationObserver
  | observer, [] => observer
  | observer, incoming :: later =>
    if observer.counts.updates < updates then watch updates (observer.turn incoming) later
    else observer

def success (updates : Nat) (observer : IntegrationObserver) : Bool :=
  decide (0 < observer.counts.snapshots) && decide (updates ≤ observer.counts.updates) &&
    observer.client.synchronizer.synchronized

def report (updates : Nat) (observer : IntegrationObserver) : ObserverReport where
  synchronized := observer.success updates
  counts := observer.counts
  revision := observer.client.synchronizer.revision
  nodes := observer.client.scene.nodes.length

theorem watch_of_lt {updates : Nat} {observer : IntegrationObserver} (incoming : Incoming)
    (later : List Incoming) (h : observer.counts.updates < updates) :
    watch updates observer (incoming :: later) =
      watch updates (observer.turn incoming) later := by
  rw [watch, if_pos h]

/-- The loop is over once enough updates are applied. -/
theorem watch_of_le {updates : Nat} {observer : IntegrationObserver} (later : List Incoming)
    (h : updates ≤ observer.counts.updates) : watch updates observer later = observer := by
  cases later with
  | nil => rfl
  | cons incoming later => rw [watch, if_neg (Nat.not_lt.mpr h)]

/-- A receive that fails is not counted. -/
theorem turn_error (observer : IntegrationObserver) (error : UdpError) (receivedAt : TimePoint) :
    observer.turn (.error error, receivedAt) = observer := rfl

theorem success_iff {updates : Nat} {observer : IntegrationObserver} :
    observer.success updates = true ↔
      0 < observer.counts.snapshots ∧ updates ≤ observer.counts.updates ∧
        observer.client.synchronizer.synchronized = true := by
  unfold success
  rw [Bool.and_eq_true, Bool.and_eq_true, decide_eq_true_eq, decide_eq_true_eq, and_assoc]

end IntegrationObserver

-- ---------------------------------------------------------------------------
-- What is counted of an update that can be read
-- ---------------------------------------------------------------------------

/-- What a result of `consume_datagram` says of the client before and after it, if the update
could be read. -/
inductive Counted (before after : Bool) : ObserverResult → Prop
  | snapshot (hafter : after = true) : Counted before after .appliedSnapshot
  | delta (hbefore : before = true) (hafter : after = true) : Counted before after .appliedDelta
  | ignored (hsame : after = before) : Counted before after .ignored
  | resync (hafter : after = false) : Counted before after .resyncRequired

theorem counted_of_outcome {view after : ClientSynchronizer.View}
    {result : SynchronizationResult} {update : StateUpdate}
    (h : ClientSynchronizer.Outcome view update result after) :
    Counted view.synchronized after.synchronized (observerResult result) := by
  cases h with
  | ignored hresult _ _ =>
    rcases hresult with rfl | rfl
    · exact .ignored rfl
    · exact .ignored rfl
  | snapshot _ _ => exact .snapshot rfl
  | delta _ _ hsynchronized _ _ => exact .delta hsynchronized rfl
  | heartbeat _ _ _ hsynchronized _ => exact .ignored hsynchronized.symm
  | resync hresult _ _ _ =>
    rcases hresult with rfl | rfl | rfl
    · exact .resync rfl
    · exact .resync rfl
    · exact .resync rfl
  | newSession _ _ => exact .resync rfl

/-- What a server sends is counted by what it does to the synchronizer. -/
theorem consumeUpdate_of_carries {update : StateUpdate} {sessionId : UInt64}
    {backend : SimulationBackend}
    (hcarries : AuthoritativeServer.Carries update sessionId backend) (client : ObserverClient)
    (receivedAt : TimePoint) :
    (client.consumeUpdate update receivedAt).1 =
        observerResult (client.synchronizer.consume update receivedAt).1 ∧
      (client.consumeUpdate update receivedAt).2.synchronizer =
        (client.synchronizer.consume update receivedAt).2 := by
  obtain ⟨scene, hcandidate⟩ : ∃ scene, client.candidate update = some scene := by
    rw [← Option.isSome_iff_exists, ObserverClient.candidate_isSome]
    exact readable_of_carries hcarries
  rw [consumeUpdate_eq hcandidate]
  exact ⟨rfl, rfl⟩

theorem turn_of_carries {update : StateUpdate} {sessionId : UInt64} {backend : SimulationBackend}
    (hcarries : AuthoritativeServer.Carries update sessionId backend) {datagram : UdpDatagram}
    (hpayload : datagram.payload = update.serialize) (observer : IntegrationObserver)
    (receivedAt : TimePoint) :
    observer.turn (.ok datagram, receivedAt) =
      ⟨observer.counts.count
          (observerResult (observer.client.synchronizer.consume update receivedAt).1),
        (observer.client.consumeUpdate update receivedAt).2⟩ := by
  rw [IntegrationObserver.turn]
  dsimp only
  rw [ObserverClient.receiveNext_serialize hpayload, (consumeUpdate_of_carries hcarries ..).1]

-- ---------------------------------------------------------------------------
-- An observer among any servers
-- ---------------------------------------------------------------------------

section Interleavings

variable {ι : Type}

/-- The network, whose observer is the client of the program, and the counters. -/
structure Integration (ι : Type) where
  network : Network ι
  counts : ObserverCounts

inductive IntegrationEvent (ι : Type)
  | publish (server : ι) (timestampMicroseconds : UInt64)
  | receive (incoming : Incoming)

namespace Integration

def observer (integration : Integration ι) : IntegrationObserver :=
  ⟨integration.counts, integration.network.observer⟩

/-- A turn of the loop. -/
def receive (integration : Integration ι) (incoming : Incoming) : Integration ι where
  network := { integration.network with observer := (integration.observer.turn incoming).client }
  counts := (integration.observer.turn incoming).counts

end Integration

inductive IntegrationStep [DecidableEq ι] (updates : Nat) (integration : Integration ι) :
    IntegrationEvent ι → Integration ι → Prop
  | publish (i : ι) (timestampMicroseconds : UInt64) :
      IntegrationStep updates integration (.publish i timestampMicroseconds)
        { integration with network := integration.network.publish i timestampMicroseconds }
  | receive {incoming : Incoming} (hwaits : integration.counts.updates < updates)
      (harrives : Arrives integration.network incoming.1) :
      IntegrationStep updates integration (.receive incoming) (integration.receive incoming)

def Deployment.integration [DecidableEq ι] (deployment : Deployment ι) (updates : Nat) :
    System (Integration ι) (IntegrationEvent ι) where
  initial integration := integration = ⟨deployment.start, ObserverCounts.zero⟩
  step := IntegrationStep updates

/-- What the counters say, in every state of the program. -/
structure Counts (updates : Nat) (counts : ObserverCounts) (synchronized : Bool) : Prop where
  malformed : counts.malformed = 0
  updates_le : counts.updates ≤ updates
  started : synchronized = true ∨ 0 < counts.deltas → 0 < counts.snapshots
  finished : counts.updates = updates → synchronized = true

theorem counts_zero {updates : Nat} (h : 0 < updates) :
    Counts updates ObserverCounts.zero false where
  malformed := rfl
  updates_le := Nat.zero_le updates
  started := by
    rintro (hsynchronized | hdeltas)
    · exact absurd hsynchronized (by decide)
    · exact absurd hdeltas (Nat.lt_irrefl 0)
  finished := fun hnone => absurd h (Nat.not_lt.mpr (Nat.le_of_eq hnone.symm))

/-- A turn keeps the counters right: only an applied update ends the loop, and it leaves the
client synchronized. -/
theorem Counts.count {updates : Nat} {counts : ObserverCounts} {before after : Bool}
    {result : ObserverResult} (h : Counts updates counts before)
    (hwaits : counts.updates < updates) (hresult : Counted before after result) :
    Counts updates (counts.count result) after := by
  obtain ⟨hmalformed, _, hstarted, _⟩ := h
  have hsum : counts.updates = counts.snapshots + counts.deltas := rfl
  cases hresult with
  | snapshot hafter =>
    refine ⟨hmalformed, ?_, fun _ => Nat.succ_pos _, fun _ => hafter⟩
    show counts.snapshots + 1 + counts.deltas ≤ updates
    omega
  | delta hbefore hafter =>
    refine ⟨hmalformed, ?_, fun _ => hstarted (.inl hbefore), fun _ => hafter⟩
    show counts.snapshots + (counts.deltas + 1) ≤ updates
    omega
  | ignored hsame =>
    rw [hsame]
    exact ⟨hmalformed, hwaits.le, hstarted, fun hall => absurd hall hwaits.ne⟩
  | resync hafter =>
    refine ⟨hmalformed, hwaits.le, ?_, fun hall => absurd hall hwaits.ne⟩
    rintro (hsynchronized | hdeltas)
    · rw [hafter] at hsynchronized
      exact absurd hsynchronized (by decide)
    · exact hstarted (.inr hdeltas)

/-- What every reachable state of the program satisfies. -/
structure Watches (deployment : Deployment ι) (updates : Nat) (integration : Integration ι) :
    Prop where
  agrees : Agrees deployment integration.network
  counts : Counts updates integration.counts
    integration.network.observer.synchronizer.synchronized

theorem watches_receive {deployment : Deployment ι} {updates : Nat} {integration : Integration ι}
    (h : Watches deployment updates integration) {incoming : Incoming}
    (hwaits : integration.counts.updates < updates)
    (harrives : Arrives integration.network incoming.1) :
    Watches deployment updates (integration.receive incoming) := by
  obtain ⟨received, receivedAt⟩ := incoming
  cases received with
  | error error => exact h
  | ok datagram =>
    obtain ⟨i, update, hbytes, hcarries⟩ := h.agrees.sent datagram.payload harrives
    have hcounted := counted_of_outcome
      (ClientSynchronizer.consume_outcome integration.network.observer.synchronizer update
        receivedAt)
    have hagrees := agrees_deliver h.agrees receivedAt harrives
    unfold Network.deliver at hagrees
    rw [hbytes, ObserverClient.consumeDatagram_serialize] at hagrees
    unfold Integration.receive
    rw [turn_of_carries hcarries hbytes]
    refine ⟨hagrees, ?_⟩
    dsimp only [Integration.observer]
    rw [(consumeUpdate_of_carries hcarries ..).2]
    exact h.counts.count hwaits hcounted

variable [DecidableEq ι]

theorem watches_of_reachable {deployment : Deployment ι} {updates : Nat} (hupdates : 0 < updates)
    {integration : Integration ι} (h : (deployment.integration updates).Reachable integration) :
    Watches deployment updates integration := by
  refine h.invariant (I := Watches deployment updates) ?_ ?_
  · rintro _ rfl
    exact ⟨agrees_start deployment, counts_zero hupdates⟩
  · intro integration event after hbefore hstep
    cases hstep with
    | publish i timestampMicroseconds =>
      exact ⟨agrees_publish hbefore.agrees i timestampMicroseconds, hbefore.counts⟩
    | receive hwaits harrives => exact watches_receive hbefore hwaits harrives

/-- **What the line says is true**, whatever the network does between the servers of a
deployment and the observer. No update is malformed; deltas are applied after a snapshot only; the program fails
exactly if its time is over before the updates it waits for, whatever else it tests; and when it
succeeds, the line has the revision and the nodes of one server's scene, which is shown. -/
theorem report_truthful {deployment : Deployment ι} {updates : Nat} (hupdates : 0 < updates)
    {integration : Integration ι} (h : (deployment.integration updates).Reachable integration) :
    let report := integration.observer.report updates
    report.counts.malformed = 0 ∧ report.counts.updates ≤ updates ∧
      (0 < report.counts.deltas → 0 < report.counts.snapshots) ∧
      (report.synchronized = true ↔ report.counts.updates = updates) ∧
      (report.synchronized = true → ∃ i,
        integration.network.observer.synchronizer.sessionId = some (deployment.sessionId i) ∧
        integration.network.observer.scene = deployment.backend i report.revision ∧
        report.nodes = (deployment.backend i report.revision).nodes.length) := by
  intro report
  obtain ⟨hagrees, hcounts⟩ := watches_of_reachable hupdates h
  refine ⟨hcounts.malformed, hcounts.updates_le, fun hdeltas => hcounts.started (.inr hdeltas),
    ?_, ?_⟩
  · show integration.observer.success updates = true ↔ _
    rw [IntegrationObserver.success_iff]
    constructor
    · rintro ⟨_, henough, _⟩
      exact Nat.le_antisymm hcounts.updates_le henough
    · intro hall
      have hsynchronized := hcounts.finished hall
      exact ⟨hcounts.started (.inl hsynchronized), Nat.le_of_eq hall.symm, hsynchronized⟩
  · intro hsuccess
    obtain ⟨_, _, hsynchronized⟩ := IntegrationObserver.success_iff.mp hsuccess
    obtain ⟨i, hsession⟩ := hagrees.known hsynchronized
    have hscene := hagrees.shows i hsession hsynchronized
    exact ⟨i, hsession, hscene, congrArg (fun scene => scene.nodes.length) hscene⟩

end Interleavings

/-- Both servers have published, and the observer has applied the two updates of the first. -/
def watched : Integration Bool :=
  ((⟨published, ObserverCounts.zero⟩ : Integration Bool).receive
    (.ok ⟨[], 0, published.sent.getD 0 []⟩, 11)).receive
      (.ok ⟨[], 0, published.sent.getD 2 []⟩, 13)

theorem reachable_watched : (twoServers.integration 2).Reachable watched := by
  have hpublished : (twoServers.integration 2).Reachable ⟨published, ObserverCounts.zero⟩ :=
    .step _ (.step _ (.step _ (.initial rfl) (.publish true 0)) (.publish false 0))
      (.publish true 5)
  refine .step _ (.step _ hpublished (.receive (by decide) ?_)) (.receive (by decide +kernel) ?_)
  · show published.sent.getD 0 [] ∈ published.sent
    decide +kernel
  · show published.sent.getD 2 [] ∈ published.sent
    decide +kernel

/-- It succeeds, and shows the scene of a server at its revision. -/
theorem report_truthful_watched :
    (watched.observer.report 2).synchronized = true ∧
      ∃ i, watched.network.observer.scene =
        twoServers.backend i (watched.observer.report 2).revision := by
  obtain ⟨_, _, _, hsuccess, hshown⟩ := report_truthful (by decide) reachable_watched
  have hsynchronized := hsuccess.mpr (by decide +kernel)
  obtain ⟨i, _, hscene, _⟩ := hshown hsynchronized
  exact ⟨hsynchronized, i, hscene⟩

-- ---------------------------------------------------------------------------
-- An observer that joins a server
-- ---------------------------------------------------------------------------

/-- Whether the call after so many sends a snapshot. -/
def sendsSnapshot (interval call : Nat) : Bool := decide (call = 0 ∨ interval ∣ call + 1)

/-- The datagrams of consecutive calls arrive in order, between receives that fail. -/
inductive Brings (server : AuthoritativeServer) (timestamps : Nat → UInt64) :
    Nat → Nat → List Incoming → Prop
  | nil {calls : Nat} : Brings server timestamps calls 0 []
  | fails {calls count : Nat} {later : List Incoming} (error : UdpError) (receivedAt : TimePoint)
      (hlater : Brings server timestamps calls count later) :
      Brings server timestamps calls count ((.error error, receivedAt) :: later)
  | update {calls count : Nat} {later : List Incoming} {datagram : UdpDatagram}
      {update : StateUpdate} (receivedAt : TimePoint)
      (hupdate : server.updateAt timestamps calls = .ok update)
      (hpayload : datagram.payload = update.serialize)
      (hlater : Brings server timestamps (calls + 1) count later) :
      Brings server timestamps calls (count + 1) ((.ok datagram, receivedAt) :: later)

namespace ObserverCounts

/-- The counters after the updates of consecutive calls have been applied. -/
def apply (counts : ObserverCounts) (interval calls count : Nat) : ObserverCounts :=
  { counts with
    snapshots := counts.snapshots + (List.range' calls count).countP (sendsSnapshot interval)
    deltas := counts.deltas +
      (List.range' calls count).countP fun call => !sendsSnapshot interval call }

theorem apply_succ_of_snapshot (counts : ObserverCounts) {interval calls : Nat}
    (h : sendsSnapshot interval calls = true) (count : Nat) :
    counts.apply interval calls (count + 1) =
      (counts.count .appliedSnapshot).apply interval (calls + 1) count := by
  unfold apply
  rw [List.range'_succ, List.countP_cons_of_pos h, List.countP_cons_of_neg (by rw [h]; decide),
    ObserverCounts.count, Nat.add_right_comm, Nat.add_assoc]

theorem apply_succ_of_delta (counts : ObserverCounts) {interval calls : Nat}
    (h : sendsSnapshot interval calls = false) (count : Nat) :
    counts.apply interval calls (count + 1) =
      (counts.count .appliedDelta).apply interval (calls + 1) count := by
  have hnone : ¬ sendsSnapshot interval calls = true := by
    rw [h]
    decide
  unfold apply
  rw [List.range'_succ, List.countP_cons_of_neg hnone, List.countP_cons_of_pos (by rw [h]; decide),
    ObserverCounts.count, Nat.add_right_comm, Nat.add_assoc]

theorem updates_apply (counts : ObserverCounts) (interval calls count : Nat) :
    (counts.apply interval calls count).updates = counts.updates + count := by
  induction count generalizing counts calls with
  | zero => rfl
  | succ count ih =>
    have hsum : counts.updates = counts.snapshots + counts.deltas := rfl
    cases hsends : sendsSnapshot interval calls with
    | true =>
      rw [apply_succ_of_snapshot counts hsends, ih]
      show counts.snapshots + 1 + counts.deltas + count = counts.updates + (count + 1)
      omega
    | false =>
      rw [apply_succ_of_delta counts hsends, ih]
      show counts.snapshots + (counts.deltas + 1) + count = counts.updates + (count + 1)
      omega

end ObserverCounts

section Server

variable {backend : SimulationBackend} {sessionId snapshotInterval : UInt64}
  {hsession : sessionId ≠ 0} {timestamps : Nat → UInt64}

/-- The type of the update of a numbered call. -/
theorem type_updateAt {calls : Nat} {update : StateUpdate} (hwrap : calls + 1 < 2 ^ 64)
    (h : (AuthoritativeServer.create backend sessionId snapshotInterval hsession).updateAt
      timestamps calls = .ok update) :
    update.type =
      if sendsSnapshot (AuthoritativeServer.create backend sessionId snapshotInterval
        hsession).snapshotInterval.toNat calls then .snapshot else .delta := by
  have hdue := @AuthoritativeServer.snapshotDue_after backend sessionId snapshotInterval hsession
    timestamps calls hwrap
  unfold AuthoritativeServer.updateAt at h
  rw [(AuthoritativeServer.nextUpdate_ok h).2.2.2.2.1]
  unfold sendsSnapshot
  by_cases hsends : calls = 0 ∨ (AuthoritativeServer.create backend sessionId snapshotInterval
      hsession).snapshotInterval.toNat ∣ calls + 1
  · rw [hdue.mpr hsends, decide_eq_true hsends]
  · rw [Bool.eq_false_iff.mpr (mt hdue.mp hsends), decide_eq_false hsends]

/-- The update of the next call is in order for whoever is not ahead of the calls. -/
theorem inOrder_of_bounded {view : ClientSynchronizer.View} {update : StateUpdate} {calls : Nat}
    (hwrap : calls + 1 < 2 ^ 64)
    (hupdate : (AuthoritativeServer.create backend sessionId snapshotInterval hsession).updateAt
      timestamps calls = .ok update)
    (h : Bounded view sessionId timestamps calls)
    (hview : view.sessionId = some update.sessionId) :
    ClientSynchronizer.InOrder view update := by
  obtain ⟨hcarries, hsequence, _, htimestamp, _⟩ := AuthoritativeServer.updateAt_ok hupdate
  refine ⟨hview, ?_, ?_⟩
  · rw [hcarries.sessionId] at hview
    rw [UInt64.lt_iff_toNat_lt, hsequence, UInt64.toNat_ofNat_of_lt' hwrap]
    exact Nat.lt_succ_of_le (h.sequence_le hview)
  · rw [hcarries.sessionId] at hview
    rw [htimestamp]
    exact h.timestamp_le hview calls (Nat.le_refl _)

/-- **The next update of a server**: a snapshot is applied, a delta is applied by who has caught
up, and asks who is not synchronized for a snapshot. -/
theorem result_of_outcome {view after : ClientSynchronizer.View} {result : SynchronizationResult}
    {update : StateUpdate} {calls : Nat} (hwrap : calls + 1 < 2 ^ 64)
    (hupdate : (AuthoritativeServer.create backend sessionId snapshotInterval hsession).updateAt
      timestamps calls = .ok update)
    (h : Bounded view sessionId timestamps calls)
    (houtcome : ClientSynchronizer.Outcome view update result after) :
    (update.type = .snapshot → observerResult result = .appliedSnapshot) ∧
    (update.type = .delta → CaughtUp view sessionId calls →
      observerResult result = .appliedDelta) ∧
    (update.type = .delta → view.synchronized = false →
      observerResult result = .resyncRequired ∧ after.synchronized = false) := by
  obtain ⟨hcarries, hsequence, _, _, _, hbase⟩ := AuthoritativeServer.updateAt_ok hupdate
  have hnext : UInt64.ofNat calls + 1 = UInt64.ofNat (calls + 1) := by
    rw [UInt64.ofNat_add]
    rfl
  cases houtcome with
  | ignored _ hview hold => exact absurd (inOrder_of_bounded hwrap hupdate h hview) hold
  | snapshot htype _ =>
    rw [htype]
    exact ⟨fun _ => rfl, nofun, nofun⟩
  | delta htype _ hsynchronized _ _ =>
    rw [htype, hsynchronized]
    exact ⟨nofun, fun _ _ => rfl, nofun⟩
  | heartbeat hsnapshot hdelta _ _ _ =>
    exact absurd hcarries.type (not_or.mpr ⟨hsnapshot, hdelta⟩)
  | resync hresult htype _ hgap =>
    refine ⟨fun hsnapshot => absurd hsnapshot htype, fun hdelta hcaughtUp => ?_, fun _ _ => ?_⟩
    · rcases hgap hcaughtUp.synchronized with hskipped | ⟨_, hmismatch⟩
      · rw [hsequence, hcaughtUp.sequence, hnext] at hskipped
        exact absurd rfl hskipped
      · rw [hbase hdelta, hcaughtUp.revision] at hmismatch
        exact absurd rfl hmismatch
    · rcases hresult with rfl | rfl | rfl
      · exact ⟨rfl, rfl⟩
      · exact ⟨rfl, rfl⟩
      · exact ⟨rfl, rfl⟩
  | newSession htype hview =>
    refine ⟨fun hsnapshot => absurd hsnapshot htype, fun _ hcaughtUp => ?_, fun _ _ => ⟨rfl, rfl⟩⟩
    rw [hcarries.sessionId] at hview
    exact absurd hcaughtUp.sessionId hview

/-- **A turn of the loop** with the datagram of the next call. -/
theorem turn_update {observer : IntegrationObserver} {datagram : UdpDatagram}
    {update : StateUpdate} {calls : Nat} (hshape : KeepsShape backend)
    (htime : Nondecreasing timestamps) (hwrap : calls + 1 < 2 ^ 64)
    (hupdate : (AuthoritativeServer.create backend sessionId snapshotInterval hsession).updateAt
      timestamps calls = .ok update)
    (hpayload : datagram.payload = update.serialize) (receivedAt : TimePoint)
    (h : Tracks observer.client backend sessionId timestamps calls) :
    let after := observer.turn (.ok datagram, receivedAt)
    Tracks after.client backend sessionId timestamps (calls + 1) ∧
    (update.type = .snapshot → after.counts = observer.counts.count .appliedSnapshot ∧
      CaughtUp after.client.synchronizer.view sessionId (calls + 1)) ∧
    (update.type = .delta → CaughtUp observer.client.synchronizer.view sessionId calls →
      after.counts = observer.counts.count .appliedDelta ∧
        CaughtUp after.client.synchronizer.view sessionId (calls + 1)) ∧
    (update.type = .delta → observer.client.synchronizer.synchronized = false →
      after.counts = observer.counts.count .resyncRequired ∧
        after.client.synchronizer.synchronized = false) := by
  have hcarries := (AuthoritativeServer.updateAt_ok hupdate).1
  have houtcome := ClientSynchronizer.consume_outcome observer.client.synchronizer update receivedAt
  have hsynchronizer := (consumeUpdate_of_carries hcarries observer.client receivedAt).2
  obtain ⟨hsnapshot, hdelta, hlost⟩ := result_of_outcome hwrap hupdate h.bounded houtcome
  have htracks : Tracks (observe observer.client (update, receivedAt)) backend sessionId
      timestamps (calls + 1) :=
    tracks_observe_own hshape htime (Nat.lt_succ_self calls) hwrap hupdate
      ⟨h.bounded.mono (Nat.le_succ calls), h.shows⟩
  have hcaughtUp := fun hready => caughtUp_outcome hwrap hupdate h.bounded houtcome hready
  unfold observe at htracks
  rw [ObserverClient.consumeDatagram_serialize] at htracks
  rw [turn_of_carries hcarries hpayload]
  dsimp only
  rw [hsynchronizer]
  refine ⟨htracks, fun htype => ⟨?_, ?_⟩, fun htype hbefore => ⟨?_, ?_⟩, fun htype hbefore => ?_⟩
  · rw [hsnapshot htype]
  · refine hcaughtUp (.inr ?_)
    have hdue := type_updateAt hwrap hupdate
    rw [htype] at hdue
    rw [AuthoritativeServer.snapshotDue_after hwrap]
    by_contra hnone
    rw [sendsSnapshot, decide_eq_false hnone] at hdue
    exact absurd hdue (by decide)
  · rw [hdelta htype hbefore]
  · exact hcaughtUp (.inl hbefore)
  · rw [(hlost htype hbefore).1]
    exact ⟨rfl, (hlost htype hbefore).2⟩

/-- How the loop ends with all the updates of some consecutive calls applied. -/
structure Ends (after : IntegrationObserver) (backend : SimulationBackend) (sessionId : UInt64)
    (timestamps : Nat → UInt64) (calls : Nat) (counts : ObserverCounts) : Prop where
  tracks : Tracks after.client backend sessionId timestamps calls
  caughtUp : CaughtUp after.client.synchronizer.view sessionId calls
  counts : after.counts = counts

/-- **Once it has caught up**, the observer applies every update to the end of its loop. -/
theorem watch_caughtUp (hshape : KeepsShape backend) (htime : Nondecreasing timestamps)
    {calls count : Nat} {incoming : List Incoming}
    (hbrings : Brings (AuthoritativeServer.create backend sessionId snapshotInterval hsession)
      timestamps calls count incoming)
    (hwrap : calls + count < 2 ^ 64) {observer : IntegrationObserver} {remaining updates : Nat}
    (hcount : remaining ≤ count) (hupdates : observer.counts.updates + remaining = updates)
    (h : Tracks observer.client backend sessionId timestamps calls)
    (hcaughtUp : CaughtUp observer.client.synchronizer.view sessionId calls) :
    Ends (IntegrationObserver.watch updates observer incoming) backend sessionId timestamps
      (calls + remaining)
      (observer.counts.apply (AuthoritativeServer.create backend sessionId snapshotInterval
        hsession).snapshotInterval.toNat calls remaining) := by
  induction hbrings generalizing observer remaining with
  | nil =>
    obtain rfl := Nat.le_zero.mp hcount
    exact ⟨h, hcaughtUp, rfl⟩
  | @fails calls count later error receivedAt hlater ih =>
    rcases Nat.eq_zero_or_pos remaining with rfl | hremaining
    · rw [IntegrationObserver.watch_of_le _ hupdates.ge]
      exact ⟨h, hcaughtUp, rfl⟩
    · rw [IntegrationObserver.watch_of_lt _ _ (by omega), IntegrationObserver.turn_error]
      exact ih hwrap hcount hupdates h hcaughtUp
  | @update calls count later datagram update receivedAt hupdate hpayload hlater ih =>
    rcases remaining with _ | remaining
    · rw [IntegrationObserver.watch_of_le _ hupdates.ge]
      exact ⟨h, hcaughtUp, rfl⟩
    · have hsum : observer.counts.updates =
          observer.counts.snapshots + observer.counts.deltas := rfl
      have hlater : calls + 1 + count < 2 ^ 64 := by omega
      have htype := type_updateAt (by omega) hupdate
      obtain ⟨htracks, hsnapshot, hdelta, _⟩ :=
        turn_update hshape htime (by omega) hupdate hpayload receivedAt h
      have hcalls : calls + (remaining + 1) = calls + 1 + remaining := by omega
      rw [IntegrationObserver.watch_of_lt _ _ (by omega), hcalls]
      cases hsends : sendsSnapshot (AuthoritativeServer.create backend sessionId snapshotInterval
        hsession).snapshotInterval.toNat calls with
      | true =>
        rw [hsends, if_pos rfl] at htype
        obtain ⟨hcounts, hnext⟩ := hsnapshot htype
        rw [ObserverCounts.apply_succ_of_snapshot _ hsends, ← hcounts]
        refine ih hlater (Nat.le_of_succ_le_succ hcount) ?_ htracks hnext
        rw [hcounts]
        show observer.counts.snapshots + 1 + observer.counts.deltas + remaining = updates
        omega
      | false =>
        rw [hsends, if_neg (by decide)] at htype
        obtain ⟨hcounts, hnext⟩ := hdelta htype hcaughtUp
        rw [ObserverCounts.apply_succ_of_delta _ hsends, ← hcounts]
        refine ih hlater (Nat.le_of_succ_le_succ hcount) ?_ htracks hnext
        rw [hcounts]
        show observer.counts.snapshots + (observer.counts.deltas + 1) + remaining = updates
        omega

/-- **Before that** it asks for a resync at every delta, up to the first snapshot. -/
theorem watch_lost (hshape : KeepsShape backend) (htime : Nondecreasing timestamps)
    {calls first count : Nat} {incoming : List Incoming}
    (hbrings : Brings (AuthoritativeServer.create backend sessionId snapshotInterval hsession)
      timestamps calls count incoming)
    (hwrap : calls + count < 2 ^ 64) (hfirst : calls ≤ first)
    (hsends : sendsSnapshot (AuthoritativeServer.create backend sessionId snapshotInterval
      hsession).snapshotInterval.toNat first = true)
    (hbefore : ∀ call, calls ≤ call → call < first →
      sendsSnapshot (AuthoritativeServer.create backend sessionId snapshotInterval
        hsession).snapshotInterval.toNat call = false)
    {observer : IntegrationObserver} {remaining updates : Nat} (hremaining : 0 < remaining)
    (hcount : first + remaining ≤ calls + count)
    (hupdates : observer.counts.updates + remaining = updates)
    (h : Tracks observer.client backend sessionId timestamps calls)
    (hlost : observer.client.synchronizer.synchronized = false) :
    Ends (IntegrationObserver.watch updates observer incoming) backend sessionId timestamps
      (first + remaining)
      (ObserverCounts.apply
        { observer.counts with resyncs := observer.counts.resyncs + (first - calls) }
        (AuthoritativeServer.create backend sessionId snapshotInterval
          hsession).snapshotInterval.toNat first remaining) := by
  induction hbrings generalizing observer with
  | nil => omega
  | fails error receivedAt hlater ih =>
    rw [IntegrationObserver.watch_of_lt _ _ (by omega), IntegrationObserver.turn_error]
    exact ih hwrap hfirst hbefore hcount hupdates h hlost
  | @update calls count later datagram update receivedAt hupdate hpayload hlater ih =>
    have htype := type_updateAt (by omega) hupdate
    obtain ⟨htracks, hsnapshot, _, hresync⟩ :=
      turn_update hshape htime (by omega) hupdate hpayload receivedAt h
    rw [IntegrationObserver.watch_of_lt _ _ (by omega)]
    rcases Nat.eq_or_lt_of_le hfirst with rfl | hearlier
    · -- the snapshot, from which on everything is applied
      rw [hsends, if_pos rfl] at htype
      obtain ⟨hcounts, hnext⟩ := hsnapshot htype
      obtain ⟨remaining, rfl⟩ : ∃ fewer, remaining = fewer + 1 := ⟨remaining - 1, by omega⟩
      have hcalls : calls + (remaining + 1) = calls + 1 + remaining := by omega
      have hsum : observer.counts.updates =
          observer.counts.snapshots + observer.counts.deltas := rfl
      rw [Nat.sub_self, hcalls, ObserverCounts.apply_succ_of_snapshot _ hsends]
      show Ends _ _ _ _ _ ((observer.counts.count .appliedSnapshot).apply _ _ _)
      rw [← hcounts]
      refine watch_caughtUp hshape htime hlater (by omega) (by omega) ?_ htracks hnext
      rw [hcounts]
      show observer.counts.snapshots + 1 + observer.counts.deltas + remaining = updates
      omega
    · rw [hbefore calls (Nat.le_refl _) hearlier, if_neg (by decide)] at htype
      obtain ⟨hcounts, hstill⟩ := hresync htype hlost
      have hends := ih (by omega) hearlier (fun call hle => hbefore call (by omega)) (by omega)
        (by rw [hcounts]; exact hupdates) htracks hstill
      rw [hcounts] at hends
      have hresyncs : observer.counts.resyncs + (first - calls) =
          observer.counts.resyncs + 1 + (first - (calls + 1)) := by omega
      rw [hresyncs]
      exact hends

/-- The first call from some call on that sends a snapshot is less than an interval away. -/
theorem exists_first_snapshot {calls : Nat}
    (hwrap : calls + (AuthoritativeServer.create backend sessionId snapshotInterval
      hsession).snapshotInterval.toNat < 2 ^ 64) :
    let interval := (AuthoritativeServer.create backend sessionId snapshotInterval
      hsession).snapshotInterval.toNat
    ∃ first, calls ≤ first ∧ first < calls + interval ∧ sendsSnapshot interval first = true ∧
      ∀ call, calls ≤ call → call < first → sendsSnapshot interval call = false := by
  intro interval
  obtain ⟨due, hdueFirst, hdueLast, hdue⟩ := @AuthoritativeServer.exists_snapshot backend sessionId
    snapshotInterval hsession (fun _ => 0) calls interval (Nat.le_refl interval) hwrap
  rw [AuthoritativeServer.snapshotDue_after (by omega)] at hdue
  have hexists : ∃ call, calls ≤ call ∧ sendsSnapshot interval call = true :=
    ⟨due, hdueFirst, decide_eq_true hdue⟩
  obtain ⟨hfirst, hsends⟩ := Nat.find_spec hexists
  have hleast : Nat.find hexists ≤ due := Nat.find_min' hexists ⟨hdueFirst, decide_eq_true hdue⟩
  refine ⟨Nat.find hexists, hfirst, by omega, hsends, fun call hle hlt => ?_⟩
  exact Bool.eq_false_iff.mpr fun hcall => Nat.find_min hexists hlt ⟨hle, hcall⟩

/-- **The whole line of an observer that joins a server.** Started at any call of a server of a
fixed shape, whose timestamps do not decrease and whose updates arrive in order from there on,
receives that fail in between, it asks for a resync at every delta before the first snapshot,
which is less than an interval away, applies every update from that one on, and succeeds at the
last that it waits for, with the scene of the server's backend at that update. -/
theorem joins_stream (hshape : KeepsShape backend) (htime : Nondecreasing timestamps)
    {calls count updates : Nat} (hupdates : 0 < updates)
    (hcount : (AuthoritativeServer.create backend sessionId snapshotInterval
      hsession).snapshotInterval.toNat + updates ≤ count + 1)
    (hwrap : calls + count < 2 ^ 64) {incoming : List Incoming}
    (hbrings : Brings (AuthoritativeServer.create backend sessionId snapshotInterval hsession)
      timestamps calls count incoming) :
    let interval := (AuthoritativeServer.create backend sessionId snapshotInterval
      hsession).snapshotInterval.toNat
    ∃ first, calls ≤ first ∧ first < calls + interval ∧ sendsSnapshot interval first = true ∧
      (∀ call, calls ≤ call → call < first → sendsSnapshot interval call = false) ∧
      let observer := IntegrationObserver.watch updates .start incoming
      let revision := UInt64.ofNat (first + updates)
      observer.client.scene = backend revision ∧
        observer.report updates =
          { synchronized := true
            counts :=
              { snapshots := (List.range' first updates).countP (sendsSnapshot interval)
                deltas := (List.range' first updates).countP fun call =>
                  !sendsSnapshot interval call
                resyncs := first - calls
                malformed := 0 }
            revision := revision
            nodes := (backend revision).nodes.length } := by
  intro interval
  obtain ⟨first, hfirst, hlast, hsends, hbefore⟩ := @exists_first_snapshot backend sessionId
    snapshotInterval hsession calls (by omega)
  refine ⟨first, hfirst, hlast, hsends, hbefore, ?_⟩
  intro observer revision
  have hnone : IntegrationObserver.start.counts.updates + updates = updates := Nat.zero_add updates
  have htracks : Tracks IntegrationObserver.start.client backend sessionId timestamps calls :=
    tracks_create calls
  have hends : Ends observer backend sessionId timestamps (first + updates) _ :=
    watch_lost hshape htime hbrings hwrap hfirst hsends hbefore hupdates (by omega) hnone htracks
      rfl
  have hrevision : observer.client.synchronizer.revision = revision := hends.caughtUp.revision
  have hscene : observer.client.scene = backend revision := by
    rw [← hrevision]
    exact hends.tracks.shows hends.caughtUp.sessionId hends.caughtUp.synchronized
  have hsnapshots : 0 < observer.counts.snapshots := by
    rw [hends.counts]
    refine Nat.add_pos_right _ (List.countP_pos_iff.mpr ⟨first, ?_, hsends⟩)
    exact List.mem_range'_1.mpr ⟨Nat.le_refl first, by omega⟩
  have henough : updates ≤ observer.counts.updates := by
    rw [hends.counts, ObserverCounts.updates_apply]
    exact Nat.le_add_left ..
  refine ⟨hscene, ?_⟩
  unfold IntegrationObserver.report
  rw [IntegrationObserver.success_iff.mpr ⟨hsnapshots, henough, hends.caughtUp.synchronized⟩,
    hscene, hrevision, hends.counts]
  unfold ObserverCounts.apply IntegrationObserver.start ObserverCounts.zero
  simp only [Nat.zero_add]
  rfl

end Server

/-- The datagram of a call of `alternating`. -/
def alternatingDatagram (call : Nat) : UdpDatagram :=
  ⟨[], 0, ((alternatingUpdate call).map StateUpdate.serialize).getD []⟩

theorem payload_alternatingDatagram (call : Nat) (h : (alternatingUpdate call).isSome = true) :
    (alternatingDatagram call).payload = ((alternatingUpdate call).get h).serialize := by
  obtain ⟨update, hupdate⟩ := Option.isSome_iff_exists.mp h
  simp only [alternatingDatagram, hupdate, Option.map_some, Option.getD_some, Option.get_some]

/-- A receive that fails, and the datagrams from the third call on. -/
def joining : List Incoming :=
  [(.error ⟨⟨11, "try again"⟩⟩, 17), (.ok (alternatingDatagram 2), 18),
    (.ok (alternatingDatagram 3), 19), (.ok (alternatingDatagram 4), 20)]

theorem brings_joining : Brings alternating (fun _ => 0) 2 3 joining :=
  .fails _ 17
    (.update 18 (updateAt_alternating 2 (by decide +kernel)) (payload_alternatingDatagram 2 _)
      (.update 19 (updateAt_alternating 3 (by decide +kernel)) (payload_alternatingDatagram 3 _)
        (.update 20 (updateAt_alternating 4 (by decide +kernel)) (payload_alternatingDatagram 4 _)
          .nil)))

/-- The third update is a delta, which asks for a resync; the two after it are applied. -/
theorem joins_stream_joining :
    (IntegrationObserver.watch 2 .start joining).report 2 = ⟨true, ⟨1, 1, 1, 0⟩, 5, 1⟩ := by
  have htime : Nondecreasing fun _ => 0 := fun _ _ _ => UInt64.le_refl 0
  obtain ⟨first, hfirst, hlast, hsends, _, _, hreport⟩ :=
    joins_stream (keepsShape_countingBackend 1) htime (by decide : 0 < 2) (by decide) (by decide)
      brings_joining
  have hlimit : first < 4 := hlast
  have hplace : first = 2 ∨ first = 3 := by omega
  rcases hplace with rfl | rfl
  · exact absurd hsends (by decide)
  · exact hreport.trans (by decide +kernel)

end SiliconSwitch.Replication
