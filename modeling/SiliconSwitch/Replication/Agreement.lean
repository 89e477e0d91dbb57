import SiliconSwitch.Visualization.ObserverClient
import SiliconSwitch.Simulation.AuthoritativeServer
import SiliconSwitch.Library.Transition

/-!
# Agreement of replicas

Any number of servers, each with its own session, send updates over a network
that loses, repeats, reorders and delays them; an observer consumes what arrives.

The invariant is `Shows`: while the observer is synchronized with a session, its
scene is the scene of that session's backend at the observer's revision. A
snapshot establishes it, and a delta keeps it, because a delta carries the whole
scene of its revision over the same nodes and links.

* `shows_consumeUpdate` — an update of the session keeps `Shows`;
* `shows_of_other` — so does an update of any other session;
* `replicas_agree` — `Shows` in every reachable state of the system.
-/

namespace SiliconSwitch.Replication

open SiliconSwitch.Library SiliconSwitch.Routing SiliconSwitch.Transport
open SiliconSwitch.Visualization SiliconSwitch.Simulation

/-- An update with the time it is received. -/
abbrev Delivery : Type := StateUpdate × TimePoint

-- ---------------------------------------------------------------------------
-- Showing the scene of a session
-- ---------------------------------------------------------------------------

/-- The backend's scenes list the same nodes and links at every tick. -/
def KeepsShape (backend : SimulationBackend) : Prop :=
  ∀ first second, TopologyScene.SameShape (backend first) (backend second)

/-- While the client is synchronized with the session, it shows the backend's
scene at its revision. -/
def Shows (client : ObserverClient) (sessionId : UInt64) (backend : SimulationBackend) : Prop :=
  client.synchronizer.sessionId = some sessionId → client.synchronizer.synchronized = true →
    client.scene = backend client.synchronizer.revision

/-- What a server sends can be read. -/
theorem readable_of_carries {update : StateUpdate} {sessionId : UInt64}
    {backend : SimulationBackend}
    (hcarries : AuthoritativeServer.Carries update sessionId backend) :
    ObserverClient.readable update = true := by
  have hparse := TopologyScene.parse_serialize hcarries.payload_ne
  unfold ObserverClient.readable
  rw [hcarries.payload, hparse]
  cases update.type <;> rfl

/-- A snapshot of a server gives the scene of its revision. -/
theorem candidate_snapshot {client : ObserverClient} {update : StateUpdate} {sessionId : UInt64}
    {backend : SimulationBackend}
    (hcarries : AuthoritativeServer.Carries update sessionId backend)
    (htype : update.type = .snapshot) :
    client.candidate update = some (backend update.revision) := by
  unfold ObserverClient.candidate
  rw [htype, hcarries.payload]
  exact TopologyScene.parse_serialize hcarries.payload_ne

/-- So does a delta over any scene of the same shape. -/
theorem candidate_delta {client : ObserverClient} {update : StateUpdate} {sessionId : UInt64}
    {backend : SimulationBackend}
    (hcarries : AuthoritativeServer.Carries update sessionId backend)
    (htype : update.type = .delta)
    (hshape : TopologyScene.SameShape client.scene (backend update.revision)) :
    client.candidate update = some (backend update.revision) := by
  unfold ObserverClient.candidate
  rw [htype, hcarries.payload]
  exact TopologyScene.applyDelta_serialize hshape hcarries.payload_ne

/-- What a server sends reaches the synchronizer. -/
theorem synchronizer_of_carries {client : ObserverClient} {update : StateUpdate}
    {sessionId : UInt64} {backend : SimulationBackend}
    (hcarries : AuthoritativeServer.Carries update sessionId backend) (receivedAt : TimePoint) :
    (client.consumeUpdate update receivedAt).2.synchronizer =
      (client.synchronizer.consume update receivedAt).2 := by
  obtain ⟨scene, hcandidate⟩ : ∃ scene, client.candidate update = some scene := by
    rw [← Option.isSome_iff_exists, ObserverClient.candidate_isSome]
    exact readable_of_carries hcarries
  exact (ObserverClient.consumeUpdate_of_candidate hcandidate receivedAt).1

/-- **An update of the session keeps what the observer shows of it.** -/
theorem shows_consumeUpdate {client : ObserverClient} {update : StateUpdate} {sessionId : UInt64}
    {backend : SimulationBackend} (hshape : KeepsShape backend)
    (hcarries : AuthoritativeServer.Carries update sessionId backend)
    (h : Shows client sessionId backend) (receivedAt : TimePoint) :
    Shows (client.consumeUpdate update receivedAt).2 sessionId backend := by
  obtain ⟨scene, hcandidate⟩ : ∃ scene, client.candidate update = some scene := by
    rw [← Option.isSome_iff_exists, ObserverClient.candidate_isSome]
    exact readable_of_carries hcarries
  obtain ⟨hsynchronizer, hscene⟩ :=
    ObserverClient.consumeUpdate_of_candidate hcandidate receivedAt
  have houtcome := ClientSynchronizer.consume_outcome client.synchronizer update receivedAt
  intro hsession hsynchronized
  rw [hsynchronizer] at hsession hsynchronized ⊢
  rw [hscene]
  -- look at the view only, outcome by outcome
  change (client.synchronizer.consume update receivedAt).2.view.sessionId = _ at hsession
  change (client.synchronizer.consume update receivedAt).2.view.synchronized = _ at hsynchronized
  show _ = backend (client.synchronizer.consume update receivedAt).2.view.revision
  generalize (client.synchronizer.consume update receivedAt).1 = result at houtcome ⊢
  generalize (client.synchronizer.consume update receivedAt).2.view = after
    at houtcome hsession hsynchronized ⊢
  cases houtcome with
  | ignored hresult _ _ =>
    have hkept : ObserverClient.adopts result = false := by
      rcases hresult with rfl | rfl <;> rfl
    rw [hkept, if_neg (by simp)]
    exact h hsession hsynchronized
  | snapshot htype _ =>
    rw [candidate_snapshot hcarries htype, Option.some.injEq] at hcandidate
    have hadopted : ObserverClient.adopts .appliedSnapshot = true := rfl
    rw [if_pos hadopted]
    exact hcandidate.symm
  | delta htype horder hbefore _ _ =>
    -- the scene the delta is applied to is the backend's, so the shapes agree
    have hshown := h (horder.sessionId.trans (congrArg some hcarries.sessionId)) hbefore
    have hsame : TopologyScene.SameShape client.scene (backend update.revision) := by
      rw [hshown]
      exact hshape _ _
    rw [candidate_delta hcarries htype hsame, Option.some.injEq] at hcandidate
    have hadopted : ObserverClient.adopts .appliedDelta = true := rfl
    rw [if_pos hadopted]
    exact hcandidate.symm
  | heartbeat hsnapshot hdelta _ _ _ =>
    exact absurd hcarries.type (not_or.mpr ⟨hsnapshot, hdelta⟩)
  | resync | newSession => simp at hsynchronized

/-- An update of another session leaves this one, or leaves the client alone. -/
theorem shows_of_other {client : ObserverClient} {update : StateUpdate} {sessionId : UInt64}
    {backend : SimulationBackend} (hother : update.sessionId ≠ sessionId)
    (h : Shows client sessionId backend) (receivedAt : TimePoint) :
    Shows (client.consumeUpdate update receivedAt).2 sessionId backend := by
  cases hcandidate : client.candidate update with
  | none =>
    rw [ObserverClient.consumeUpdate_of_malformed hcandidate]
    exact h
  | some scene =>
    intro hsession _
    rw [(ObserverClient.consumeUpdate_of_candidate hcandidate receivedAt).1,
      ClientSynchronizer.consume_sessionId, Option.some.injEq] at hsession
    exact absurd hsession hother

-- ---------------------------------------------------------------------------
-- Servers, network and observer
-- ---------------------------------------------------------------------------

section System

variable {ι : Type}

/-- Servers with distinct sessions, each over a backend of a fixed shape. -/
structure Deployment (ι : Type) where
  backend : ι → SimulationBackend
  sessionId : ι → UInt64
  snapshotInterval : ι → UInt64
  sessionId_ne : ∀ i, sessionId i ≠ 0
  sessionId_injective : Function.Injective sessionId
  keepsShape : ∀ i, KeepsShape (backend i)

/-- The servers, every datagram sent so far, and the observer. -/
structure Network (ι : Type) where
  servers : ι → AuthoritativeServer
  sent : List (List UInt8)
  observer : ObserverClient

inductive Event (ι : Type)
  | publish (server : ι) (timestampMicroseconds : UInt64)
  | deliver (bytes : List UInt8) (receivedAt : TimePoint)

/-- Fresh servers, nothing sent, a fresh observer. -/
def Deployment.start (deployment : Deployment ι) : Network ι where
  servers i := AuthoritativeServer.create (deployment.backend i) (deployment.sessionId i)
    (deployment.snapshotInterval i) (deployment.sessionId_ne i)
  sent := []
  observer := ObserverClient.create

/-- The observer consumes a datagram. -/
def Network.deliver (network : Network ι) (bytes : List UInt8) (receivedAt : TimePoint) :
    Network ι :=
  { network with observer := (network.observer.consumeDatagram bytes receivedAt).2 }

/-- What every reachable network satisfies. -/
structure Agrees (deployment : Deployment ι) (network : Network ι) : Prop where
  servers : ∀ i, (network.servers i).backend = deployment.backend i ∧
    (network.servers i).sessionId = deployment.sessionId i
  sent : ∀ bytes ∈ network.sent, ∃ i update, bytes = update.serialize ∧
    AuthoritativeServer.Carries update (deployment.sessionId i) (deployment.backend i)
  known : network.observer.synchronizer.synchronized = true →
    ∃ i, network.observer.synchronizer.sessionId = some (deployment.sessionId i)
  shows : ∀ i, Shows network.observer (deployment.sessionId i) (deployment.backend i)

theorem agrees_start (deployment : Deployment ι) : Agrees deployment deployment.start where
  servers := fun _ => ⟨rfl, rfl⟩
  sent := by simp [Deployment.start]
  known := by simp [Deployment.start, ObserverClient.create, ClientSynchronizer.create]
  shows := by
    intro i hsession
    simp [Deployment.start, ObserverClient.create, ClientSynchronizer.create] at hsession

theorem agrees_deliver {deployment : Deployment ι} {network : Network ι}
    (h : Agrees deployment network) {bytes : List UInt8} (receivedAt : TimePoint)
    (hsent : bytes ∈ network.sent) : Agrees deployment (network.deliver bytes receivedAt) := by
  obtain ⟨sender, update, hbytes, hcarries⟩ := h.sent bytes hsent
  have hconsumed : (network.deliver bytes receivedAt).observer =
      (network.observer.consumeUpdate update receivedAt).2 := by
    unfold Network.deliver
    rw [hbytes, ObserverClient.consumeDatagram_serialize]
  exact {
    servers := h.servers
    sent := h.sent
    known := by
      intro _
      rw [hconsumed]
      refine ⟨sender, ?_⟩
      rw [synchronizer_of_carries hcarries, ClientSynchronizer.consume_sessionId,
        hcarries.sessionId]
    shows := by
      intro i
      rw [hconsumed]
      by_cases hi : sender = i
      · rw [← hi]
        exact shows_consumeUpdate (deployment.keepsShape sender) hcarries (h.shows sender)
          receivedAt
      · refine shows_of_other ?_ (h.shows i) receivedAt
        rw [hcarries.sessionId]
        exact deployment.sessionId_injective.ne hi }

variable [DecidableEq ι]

/-- A server calls `next_update`; what succeeds is sent. -/
def Network.publish (network : Network ι) (i : ι) (timestampMicroseconds : UInt64) : Network ι :=
  let next := (network.servers i).nextUpdate timestampMicroseconds
  { network with
    servers := Function.update network.servers i next.2
    sent :=
      match next.1 with
      | .error _ => network.sent
      | .ok update => network.sent ++ [update.serialize] }

/-- A datagram may arrive any number of times, at any moment after it was sent,
or never. -/
inductive Step (network : Network ι) : Event ι → Network ι → Prop
  | publish (i : ι) (timestampMicroseconds : UInt64) :
      Step network (.publish i timestampMicroseconds) (network.publish i timestampMicroseconds)
  | deliver {bytes : List UInt8} (receivedAt : TimePoint) (hsent : bytes ∈ network.sent) :
      Step network (.deliver bytes receivedAt) (network.deliver bytes receivedAt)

def Deployment.system (deployment : Deployment ι) : System (Network ι) (Event ι) where
  initial network := network = deployment.start
  step := Step

theorem agrees_publish {deployment : Deployment ι} {network : Network ι}
    (h : Agrees deployment network) (i : ι) (timestampMicroseconds : UInt64) :
    Agrees deployment (network.publish i timestampMicroseconds) where
  servers := by
    intro j
    unfold Network.publish
    by_cases hj : j = i
    · dsimp only
      rw [hj, Function.update_self, AuthoritativeServer.nextUpdate_snd]
      exact h.servers i
    · dsimp only
      rw [Function.update_of_ne hj]
      exact h.servers j
  sent := by
    intro bytes hbytes
    unfold Network.publish at hbytes
    dsimp only at hbytes
    split at hbytes
    · exact h.sent bytes hbytes
    · rename_i update hok
      rw [List.mem_append, List.mem_singleton] at hbytes
      rcases hbytes with hold | hnew
      · exact h.sent bytes hold
      · -- the update carries what its server's backend computes
        obtain ⟨hcarries, _⟩ := AuthoritativeServer.nextUpdate_ok hok
        rw [(h.servers i).1, (h.servers i).2] at hcarries
        exact ⟨i, update, hnew, hcarries⟩
  known := h.known
  shows := h.shows

/-- Every event keeps the agreement. -/
theorem agrees_step {deployment : Deployment ι} {network after : Network ι} {event : Event ι}
    (h : Agrees deployment network) (hstep : Step network event after) :
    Agrees deployment after := by
  cases hstep with
  | publish i timestampMicroseconds => exact agrees_publish h i timestampMicroseconds
  | deliver receivedAt hsent => exact agrees_deliver h receivedAt hsent

theorem agrees_of_reachable {deployment : Deployment ι} {network : Network ι}
    (h : deployment.system.Reachable network) : Agrees deployment network := by
  refine System.Reachable.invariant (I := Agrees deployment) ?_ ?_ h
  · rintro _ rfl
    exact agrees_start deployment
  · intro _ _ _ hbefore hstep
    exact agrees_step hbefore hstep

/-- **Replicas agree.** In every reachable state, an observer that is synchronized
follows the session of one of the servers and shows the scene of its backend at
the observer's revision. -/
theorem replicas_agree {deployment : Deployment ι} {network : Network ι}
    (h : deployment.system.Reachable network)
    (hsynchronized : network.observer.synchronizer.synchronized = true) :
    ∃ i, network.observer.synchronizer.sessionId = some (deployment.sessionId i) ∧
      network.observer.scene = deployment.backend i network.observer.synchronizer.revision := by
  have hagrees := agrees_of_reachable h
  obtain ⟨i, hsession⟩ := hagrees.known hsynchronized
  exact ⟨i, hsession, hagrees.shows i hsession hsynchronized⟩

end System

/-- A backend of one node that counts the ticks. -/
def countingBackend (node : UInt32) : SimulationBackend := fun tick =>
  TopologyScene.empty.upsertNode ⟨node, 0, 0, 1, tick, true, []⟩

theorem keepsShape_countingBackend (node : UInt32) : KeepsShape (countingBackend node) :=
  fun _ _ => ⟨rfl, rfl⟩

/-- Two servers, sessions 1 and 2. -/
def twoServers : Deployment Bool where
  backend i := countingBackend (if i then 1 else 2)
  sessionId i := if i then 1 else 2
  snapshotInterval _ := 60
  sessionId_ne i := by cases i <;> decide
  sessionId_injective := by decide
  keepsShape i := keepsShape_countingBackend _

/-- Both servers have published, the first one twice. -/
def published : Network Bool :=
  ((twoServers.start.publish true 0).publish false 0).publish true 5

/-- Its snapshot and its delta have arrived. -/
def delivered : Network Bool :=
  (published.deliver (published.sent.getD 0 []) 6).deliver (published.sent.getD 2 []) 7

theorem reachable_delivered : twoServers.system.Reachable delivered := by
  have hpublished : twoServers.system.Reachable published :=
    .step _ (.step _ (.step _ (.initial rfl) (.publish true 0)) (.publish false 0))
      (.publish true 5)
  have hsnapshot : twoServers.system.Reachable (published.deliver (published.sent.getD 0 []) 6) :=
    .step _ hpublished (.deliver 6 (by decide +kernel))
  exact .step _ hsnapshot (.deliver 7 (by decide +kernel))

/-- The observer has followed the first server to its second revision. -/
theorem replicas_agree_delivered :
    delivered.observer.synchronizer.revision = 2 ∧
      ∃ i, delivered.observer.synchronizer.sessionId = some (twoServers.sessionId i) ∧
        delivered.observer.scene =
          twoServers.backend i delivered.observer.synchronizer.revision :=
  ⟨by decide +kernel, replicas_agree reachable_delivered (by decide +kernel)⟩

end SiliconSwitch.Replication
