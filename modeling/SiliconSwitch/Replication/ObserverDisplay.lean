import SiliconSwitch.Replication.Agreement
import SiliconSwitch.Simulation.PublishingLoop
import SiliconSwitch.Visualization.TopologyRenderer

/-!
# What an observer draws

The observer program: one thread receives updates and copies the scene of its client into a
shared one, another draws the shared scene. Each holds the lock while it copies, so between
any two of its steps the other thread may run, and so may the servers and the network.

Here the servers run the backends of the simulation, and a frame is compared with what they
compute, down to the vertices.

* `buildFrame_step`      — the frame of a scene of a backend, no link left out;
* `holds_step`           — what every event keeps;
* `frames_whole`         — every frame is blank or shows all of one lab at one tick.
-/

namespace SiliconSwitch.Replication

open SiliconSwitch.Library SiliconSwitch.Routing SiliconSwitch.Transport
open SiliconSwitch.Visualization SiliconSwitch.Simulation

-- ---------------------------------------------------------------------------
-- The frame of a lab
-- ---------------------------------------------------------------------------

/-- The switch and the observers as points, and a line from the switch to each observer. -/
def wholeFrame (palette : Palette) (place : Placement) (config : SimulationConfig)
    (tick : UInt64) : TopologyFrame :=
  let packets := observerPackets config tick
  let observer := fun index => observerNode index (place index config.count tick) (packets index)
  { links := (List.range config.count.toNat).flatMap fun index =>
      [vertex palette (switchNode tick) true (packets index),
       vertex palette (observer index) true (packets index)]
    nodes := vertex palette (switchNode tick) true (tick * 100) ::
      (List.range config.count.toNat).map fun index =>
        vertex palette (observer index) true (packets index) }

/-- **The frame of a scene of a backend shows all of it.** -/
theorem buildFrame_step (palette : Palette) (place : Placement) {config : SimulationConfig}
    (hfits : config.count.toNat ≤ maximumObservers) (tick : UInt64) :
    TopologyRenderer.buildFrame palette (CpuBackend.step place ⟨config⟩ tick) =
      wholeFrame palette place config tick := by
  have hbound : config.count.toNat + 1 < 2 ^ 32 := by
    unfold maximumObservers at hfits
    omega
  have hnodes : (CpuBackend.step place ⟨config⟩ tick).nodes = _ := step_nodes hbound
  have hlinks : (CpuBackend.step place ⟨config⟩ tick).links = _ := step_links hbound
  have hswitch := TopologyScene.findNode_of_mem (by rw [hnodes]; exact List.mem_cons_self)
  unfold TopologyRenderer.buildFrame wholeFrame
  rw [TopologyFrame.mk.injEq]
  constructor
  · rw [hlinks, List.flatMap_map]
    refine List.flatMap_congr fun index hindex => ?_
    have hobserver := TopologyScene.findNode_of_mem (by
      rw [hnodes]
      exact List.mem_cons_of_mem _ (List.mem_map.mpr ⟨index, hindex, rfl⟩))
    exact TopologyRenderer.linkVertices_of_found hswitch hobserver
  · rw [hnodes, List.map_cons, List.map_map]
    rfl

-- ---------------------------------------------------------------------------
-- Labs
-- ---------------------------------------------------------------------------

section Display

variable {ι : Type}

/-- Servers with distinct sessions, on backends whose observers fit in an update. -/
structure Lab (ι : Type) where
  kind : ι → BackendKind
  backend : ι → SimulationBackend
  computes : ∀ i, (kind i).Computes (backend i)
  fits : ∀ i, (kind i).config.count.toNat ≤ maximumObservers
  sessionId : ι → UInt64
  snapshotInterval : ι → UInt64
  sessionId_ne : ∀ i, sessionId i ≠ 0
  sessionId_injective : Function.Injective sessionId

/-- The scenes of a backend have the same nodes and links at every tick. -/
theorem sameShape_step (place : Placement) {config : SimulationConfig}
    (hfits : config.count.toNat ≤ maximumObservers) (first second : UInt64) :
    TopologyScene.SameShape (CpuBackend.step place ⟨config⟩ first)
      (CpuBackend.step place ⟨config⟩ second) := by
  have hbound : config.count.toNat + 1 < 2 ^ 32 := by
    unfold maximumObservers at hfits
    omega
  have hnodes : ∀ tick, (CpuBackend.step place ⟨config⟩ tick).nodes = _ :=
    fun tick => step_nodes hbound
  have hlinks : ∀ tick, (CpuBackend.step place ⟨config⟩ tick).links = _ :=
    fun tick => step_links hbound
  constructor
  · rw [hnodes, hnodes, List.map_cons, List.map_cons, List.map_map, List.map_map]
    rfl
  · rw [hlinks, hlinks, List.map_map, List.map_map]
    rfl

theorem Lab.keepsShape (lab : Lab ι) (i : ι) : KeepsShape (lab.backend i) := by
  intro first second
  obtain ⟨place, hstep⟩ := (lab.computes i).eq_step
  rw [hstep first, hstep second]
  exact sameShape_step place (lab.fits i) first second

def Lab.deployment (lab : Lab ι) : Deployment ι where
  backend := lab.backend
  sessionId := lab.sessionId
  snapshotInterval := lab.snapshotInterval
  sessionId_ne := lab.sessionId_ne
  sessionId_injective := lab.sessionId_injective
  keepsShape := lab.keepsShape

-- ---------------------------------------------------------------------------
-- The two threads
-- ---------------------------------------------------------------------------

/-- The network with the client of the receiving thread, whether that thread has yet to copy
the scene of its client, the shared scene, and the frames drawn so far. -/
structure Display (ι : Type) where
  network : Network ι
  pending : Bool
  shared : TopologyScene
  frames : List TopologyFrame

inductive DisplayEvent (ι : Type)
  | publish (server : ι) (timestampMicroseconds : UInt64)
  | receive (incoming : Except UdpError UdpDatagram) (receivedAt : TimePoint)
  | copy
  | present

def Lab.startDisplay (lab : Lab ι) : Display ι where
  network := lab.deployment.start
  pending := false
  shared := TopologyScene.empty
  frames := []

/-- The results after which the receiving thread copies the scene. -/
def applied : ObserverResult → Bool
  | .appliedSnapshot | .appliedDelta => true
  | _ => false

/-- `receive_next`, which may meet an error. -/
def Display.receive (display : Display ι) (incoming : Except UdpError UdpDatagram)
    (receivedAt : TimePoint) : Display ι :=
  let received := display.network.observer.receiveNext incoming receivedAt
  { display with
    network := { display.network with observer := received.2 }
    pending := applied received.1 }

/-- The receiving thread, under the lock. -/
def Display.copy (display : Display ι) : Display ι :=
  { display with pending := false, shared := display.network.observer.scene }

/-- The drawing thread: a copy under the lock, and the frame of it. -/
def Display.present (palette : Palette) (display : Display ι) : Display ι :=
  { display with
    frames := display.frames ++ [TopologyRenderer.buildFrame palette display.shared] }

/-- What comes from the network is a datagram that was sent, or an error. -/
def Arrives (network : Network ι) : Except UdpError UdpDatagram → Prop
  | .ok datagram => datagram.payload ∈ network.sent
  | .error _ => True

inductive DisplayStep [DecidableEq ι] (palette : Palette) (display : Display ι) :
    DisplayEvent ι → Display ι → Prop
  | publish (i : ι) (timestampMicroseconds : UInt64) :
      DisplayStep palette display (.publish i timestampMicroseconds)
        { display with network := display.network.publish i timestampMicroseconds }
  | receive {incoming : Except UdpError UdpDatagram} (receivedAt : TimePoint)
      (hidle : display.pending = false) (harrives : Arrives display.network incoming) :
      DisplayStep palette display (.receive incoming receivedAt)
        (display.receive incoming receivedAt)
  | copy (hpending : display.pending = true) : DisplayStep palette display .copy display.copy
  | present : DisplayStep palette display .present (display.present palette)

def Lab.display [DecidableEq ι] (lab : Lab ι) (palette : Palette) :
    System (Display ι) (DisplayEvent ι) where
  initial display := display = lab.startDisplay
  step := DisplayStep palette

-- ---------------------------------------------------------------------------
-- What the receiving thread gets
-- ---------------------------------------------------------------------------

/-- A client that has applied an update is synchronized; any other result leaves its scene. -/
theorem consumeUpdate_applied (client : ObserverClient) (update : StateUpdate)
    (receivedAt : TimePoint) :
    (applied (client.consumeUpdate update receivedAt).1 = true →
        (client.consumeUpdate update receivedAt).2.synchronizer.synchronized = true) ∧
      (applied (client.consumeUpdate update receivedAt).1 = false →
        (client.consumeUpdate update receivedAt).2.scene = client.scene) := by
  cases hcandidate : client.candidate update with
  | none =>
    rw [ObserverClient.consumeUpdate_of_malformed hcandidate]
    exact ⟨fun h => Bool.noConfusion h, fun _ => rfl⟩
  | some scene =>
    have houtcome := ClientSynchronizer.consume_outcome client.synchronizer update receivedAt
    have hviewed : (client.synchronizer.consume update receivedAt).2.synchronized =
        (client.synchronizer.consume update receivedAt).2.view.synchronized := rfl
    unfold ObserverClient.consumeUpdate
    rw [hcandidate]
    dsimp only
    generalize client.synchronizer.consume update receivedAt = consumed at houtcome hviewed ⊢
    obtain ⟨result, synchronizer⟩ := consumed
    dsimp only at houtcome hviewed
    generalize synchronizer.view = after at houtcome hviewed
    cases houtcome with
    | snapshot | delta => exact ⟨fun _ => hviewed, fun h => Bool.noConfusion h⟩
    | heartbeat | newSession => exact ⟨fun h => Bool.noConfusion h, fun _ => rfl⟩
    | ignored hresult =>
      rcases hresult with rfl | rfl
      · exact ⟨fun h => Bool.noConfusion h, fun _ => rfl⟩
      · exact ⟨fun h => Bool.noConfusion h, fun _ => rfl⟩
    | resync hresult =>
      rcases hresult with rfl | rfl | rfl
      · exact ⟨fun h => Bool.noConfusion h, fun _ => rfl⟩
      · exact ⟨fun h => Bool.noConfusion h, fun _ => rfl⟩
      · exact ⟨fun h => Bool.noConfusion h, fun _ => rfl⟩

-- ---------------------------------------------------------------------------
-- The invariant
-- ---------------------------------------------------------------------------

/-- A scene that was never filled, or one that a backend of the lab computes. -/
def Computed (lab : Lab ι) (scene : TopologyScene) : Prop :=
  scene = TopologyScene.empty ∨ ∃ i tick, scene = lab.backend i tick

/-- What every reachable display satisfies. -/
structure Holds (lab : Lab ι) (palette : Palette) (display : Display ι) : Prop where
  agrees : Agrees lab.deployment display.network
  pending : display.pending = true →
    display.network.observer.synchronizer.synchronized = true
  copied : display.pending = false → display.shared = display.network.observer.scene
  shared : Computed lab display.shared
  frames : ∀ frame ∈ display.frames, ∃ scene, Computed lab scene ∧
    frame = TopologyRenderer.buildFrame palette scene

variable {lab : Lab ι} {palette : Palette}

theorem holds_start (lab : Lab ι) (palette : Palette) : Holds lab palette lab.startDisplay where
  agrees := agrees_start lab.deployment
  pending := by
    intro hpending
    simp [Lab.startDisplay] at hpending
  copied := fun _ => rfl
  shared := Or.inl rfl
  frames := by
    intro frame hframe
    simp [Lab.startDisplay] at hframe

/-- A datagram changes the client only, and leaves it synchronized if it is applied. -/
theorem holds_receive {display : Display ι} (h : Holds lab palette display)
    {incoming : Except UdpError UdpDatagram} (receivedAt : TimePoint)
    (hidle : display.pending = false) (harrives : Arrives display.network incoming) :
    Holds lab palette (display.receive incoming receivedAt) := by
  cases incoming with
  | error error =>
    exact {
      agrees := h.agrees
      pending := fun hpending => absurd hpending (by decide : ¬ applied .networkError = true)
      copied := fun _ => h.copied hidle
      shared := h.shared
      frames := h.frames }
  | ok datagram =>
    obtain ⟨_, update, hbytes, _⟩ := h.agrees.sent datagram.payload harrives
    have hreceived :=
      ObserverClient.receiveNext_serialize hbytes display.network.observer receivedAt
    have happlied := consumeUpdate_applied display.network.observer update receivedAt
    have hagrees := agrees_deliver h.agrees receivedAt harrives
    unfold Network.deliver at hagrees
    rw [hbytes, ObserverClient.consumeDatagram_serialize] at hagrees
    unfold Display.receive
    rw [hreceived]
    exact {
      agrees := hagrees
      pending := happlied.1
      copied := fun hkept => (h.copied hidle).trans (happlied.2 hkept).symm
      shared := h.shared
      frames := h.frames }

/-- The scene of a synchronized client is one that its server computes. -/
theorem holds_copy {display : Display ι} (h : Holds lab palette display)
    (hpending : display.pending = true) : Holds lab palette display.copy where
  agrees := h.agrees
  pending := by
    intro hcopied
    simp [Display.copy] at hcopied
  copied := fun _ => rfl
  shared := by
    obtain ⟨i, hsession⟩ := h.agrees.known (h.pending hpending)
    exact Or.inr ⟨i, _, h.agrees.shows i hsession (h.pending hpending)⟩
  frames := h.frames

theorem holds_present {display : Display ι} (h : Holds lab palette display) :
    Holds lab palette (display.present palette) where
  agrees := h.agrees
  pending := h.pending
  copied := h.copied
  shared := h.shared
  frames := by
    intro frame hframe
    unfold Display.present at hframe
    rw [List.mem_append, List.mem_singleton] at hframe
    rcases hframe with hbefore | rfl
    · exact h.frames frame hbefore
    · exact ⟨display.shared, h.shared, rfl⟩

variable [DecidableEq ι]

/-- Every event keeps the invariant, whichever thread takes it. -/
theorem holds_step {display after : Display ι} {event : DisplayEvent ι}
    (h : Holds lab palette display) (hstep : DisplayStep palette display event after) :
    Holds lab palette after := by
  cases hstep with
  | publish i timestampMicroseconds =>
    exact {
      agrees := agrees_publish h.agrees i timestampMicroseconds
      pending := h.pending
      copied := h.copied
      shared := h.shared
      frames := h.frames }
  | receive receivedAt hidle harrives => exact holds_receive h receivedAt hidle harrives
  | copy hpending => exact holds_copy h hpending
  | present => exact holds_present h

theorem holds_of_reachable {display : Display ι} (h : (lab.display palette).Reachable display) :
    Holds lab palette display := by
  refine System.Reachable.invariant (I := Holds lab palette) ?_ ?_ h
  · rintro _ rfl
    exact holds_start lab palette
  · intro _ _ _ hbefore hstep
    exact holds_step hbefore hstep

end Display

namespace DisplayExample

def seeded (i : Bool) : SimulationConfig := ⟨2, if i then 40 else 41⟩

/-- The observers stand in a row. -/
def row : Placement := fun index _ _ => (UInt32.ofNat index, 8)

/-- Two servers of two observers each, on the reference. -/
def twoLabs : Lab Bool where
  kind i := .cpu (seeded i)
  backend i := CpuBackend.step row ⟨seeded i⟩
  computes i := .cpu (seeded i) row
  fits i := by cases i <;> decide
  sessionId i := if i then 31 else 32
  snapshotInterval _ := 60
  sessionId_ne i := by cases i <;> decide
  sessionId_injective := by decide

def grey : Palette := fun vlan _ => ⟨vlan.toUInt32, 6, 6⟩

/-- Both servers have published. -/
def published : Display Bool :=
  { twoLabs.startDisplay with
    network := (twoLabs.deployment.start.publish true 3).publish false 4 }

/-- The snapshot of the second server. -/
def incoming : UdpDatagram := ⟨[], 9100, published.network.sent.getD 1 []⟩

def received : Display Bool := published.receive (.ok incoming) 5

/-- Drawn before the copy, and after it. -/
def drawn : Display Bool := ((received.present grey).copy).present grey

theorem reachable_published : (twoLabs.display grey).Reachable published := by
  have hfirst : DisplayStep grey twoLabs.startDisplay (.publish true 3)
      { twoLabs.startDisplay with network := twoLabs.deployment.start.publish true 3 } :=
    .publish true 3
  have hsecond : DisplayStep grey
      { twoLabs.startDisplay with network := twoLabs.deployment.start.publish true 3 }
      (.publish false 4) published := .publish false 4
  exact .step _ (.step _ (.initial rfl) hfirst) hsecond

theorem reachable_drawn : (twoLabs.display grey).Reachable drawn := by
  have harrives : Arrives published.network (.ok incoming) := by
    show incoming.payload ∈ published.network.sent
    decide +kernel
  have hpending : (received.present grey).pending = true := by decide +kernel
  have hreceived : (twoLabs.display grey).Reachable received :=
    .step _ reachable_published (.receive 5 rfl harrives)
  exact .step _ (.step _ (.step _ hreceived .present) (.copy hpending)) .present

end DisplayExample

end SiliconSwitch.Replication
