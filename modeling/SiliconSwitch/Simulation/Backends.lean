import SiliconSwitch.Library.Decimal
import SiliconSwitch.Library.Grid
import SiliconSwitch.Visualization.Topology

/-!
# The simulation backends

`CpuBackend::step`, a loop over the observers, and `CudaBackend::step`, which launches
`update_observers` on a grid of threads and copies the device memory back.

A launch runs its threads in some order, each once. Calls of the CUDA runtime succeed.
Where an observer stands is floating-point arithmetic, of the host or of the device, and a
parameter; everything else is computed here.

* `CudaBackend.step_eq` — a step is the loop of the reference, at the device's positions;
* `CudaBackend.step_refines_cpu` — so the two backends differ in positions only, and each
  element that is copied back has one thread that writes it.
-/

namespace SiliconSwitch.Simulation

open SiliconSwitch.Library SiliconSwitch.Visualization

structure SimulationConfig where
  observerCount : UInt64
  seed : UInt64
deriving DecidableEq

namespace SimulationConfig

/-- The observers that a backend simulates, at least one. -/
def count (config : SimulationConfig) : UInt64 :=
  if config.observerCount = 0 then 1 else config.observerCount

end SimulationConfig

/-- Where the observer at an index stands, of so many, at a tick. -/
abbrev Placement : Type := Nat → UInt64 → UInt64 → FloatBits × FloatBits

-- ---------------------------------------------------------------------------
-- Scenes
-- ---------------------------------------------------------------------------

def asciiText (text : String) : List UInt8 := text.toList.map fun symbol => UInt8.ofNat symbol.toNat

def switchNode (tick : UInt64) : TopologyNode := ⟨1, 0, 0, 1, tick * 100, true, asciiText "switch"⟩

def observerNode (index : Nat) (position : FloatBits × FloatBits) (packets : UInt64) :
    TopologyNode where
  id := UInt32.ofNat (index + 2)
  x := position.1
  y := position.2
  vlan := UInt16.ofNat (10 + index % 4)
  packets
  operational := true
  label := asciiText "observer-" ++ decimal (index + 1)

def observerLink (index : Nat) (packets : UInt64) : TopologyLink where
  source := 1
  destination := UInt32.ofNat (index + 2)
  packets
  operational := true

/-- The two upserts at the end of a turn of either loop. -/
def upsertObserver (scene : TopologyScene) (index : Nat) (position : FloatBits × FloatBits)
    (packets : UInt64) : TopologyScene :=
  (scene.upsertNode (observerNode index position packets)).upsertLink (observerLink index packets)

-- ---------------------------------------------------------------------------
-- The CPU reference
-- ---------------------------------------------------------------------------

structure CpuBackend where
  config : SimulationConfig

namespace CpuBackend

def step (place : Placement) (backend : CpuBackend) (tick : UInt64) : TopologyScene :=
  let scene := TopologyScene.empty.upsertNode (switchNode tick)
  let count := backend.config.count
  (List.range count.toNat).foldl (fun scene index =>
    let packets := tick * (UInt64.ofNat index + 1) * 17 + backend.config.seed
    upsertObserver scene index (place index count tick) packets) scene

end CpuBackend

-- ---------------------------------------------------------------------------
-- The kernel
-- ---------------------------------------------------------------------------

structure DeviceMemory where
  positions : Nat → FloatBits
  packets : Nat → UInt64

/-- What a thread stores in the two arrays. -/
structure ThreadWrites where
  positions : List (Nat × FloatBits)
  packets : List (Nat × UInt64)

def blockSize : UInt32 := 256

def blockCount (count : UInt64) : UInt32 :=
  ((count + blockSize.toUInt64 - 1) / blockSize.toUInt64).toUInt32

def updateObservers (place : Placement) (count tick seed : UInt64) (thread : Nat × Nat) :
    ThreadWrites :=
  let index := globalIndex blockSize.toNat thread
  if index ≥ count.toNat then ⟨[], []⟩
  else
    let position := place index count tick
    { positions := [(index * 2, position.1), (index * 2 + 1, position.2)]
      packets := [(index, tick * (UInt64.ofNat index + 1) * 17 + seed)] }

/-- The threads of a grid, run in some order. -/
def launch (kernel : Nat × Nat → ThreadWrites) (threads : List (Nat × Nat))
    (memory : DeviceMemory) : DeviceMemory where
  positions := storeAll memory.positions (threads.flatMap fun thread => (kernel thread).positions)
  packets := storeAll memory.packets (threads.flatMap fun thread => (kernel thread).packets)

/-- `cudaMemcpy` of the first elements of an array. -/
def copyBack {ν : Type} (array : Nat → ν) (size : Nat) : List ν := (List.range size).map array

-- ---------------------------------------------------------------------------
-- The CUDA backend
-- ---------------------------------------------------------------------------

structure CudaBackend where
  config : SimulationConfig
  count : UInt64
  memory : DeviceMemory
  count_eq : count = config.count

namespace CudaBackend

/-- The constructor; `cudaMalloc` leaves anything in the arrays. -/
def create (config : SimulationConfig) (memory : DeviceMemory) : CudaBackend :=
  ⟨config, config.count, memory, rfl⟩

def kernel (place : Placement) (backend : CudaBackend) (tick : UInt64) :
    Nat × Nat → ThreadWrites :=
  updateObservers place backend.count tick backend.config.seed

/-- `step`, with the scene and the backend that it leaves. -/
def step (place : Placement) (backend : CudaBackend) (threads : List (Nat × Nat))
    (tick : UInt64) : TopologyScene × CudaBackend :=
  let memory := launch (backend.kernel place tick) threads backend.memory
  let positions := copyBack memory.positions (backend.count.toNat * 2)
  let copied := copyBack memory.packets backend.count.toNat
  let scene := TopologyScene.empty.upsertNode (switchNode tick)
  ((List.range backend.count.toNat).foldl (fun scene index =>
      let packets := copied.getD index 0
      upsertObserver scene index (positions.getD (index * 2) 0, positions.getD (index * 2 + 1) 0)
        packets) scene,
    { backend with memory })

/-- The launch has room for the blocks of the observers, and runs each of its threads once. -/
structure Launches (backend : CudaBackend) (threads : List (Nat × Nat)) : Prop where
  fits : (backend.count.toNat + 255) / 256 < 2 ^ 32
  once : threads.Perm (grid (blockCount backend.count).toNat blockSize.toNat)

end CudaBackend

-- ---------------------------------------------------------------------------
-- What a thread writes
-- ---------------------------------------------------------------------------

section Threads

variable {place : Placement} {count tick seed : UInt64} {thread : Nat × Nat}

theorem updateObservers_of_le (h : count.toNat ≤ globalIndex blockSize.toNat thread) :
    updateObservers place count tick seed thread = ⟨[], []⟩ := if_pos h

theorem updateObservers_of_lt {index : Nat} (hthread : globalIndex blockSize.toNat thread = index)
    (h : index < count.toNat) :
    updateObservers place count tick seed thread =
      { positions :=
          [(index * 2, (place index count tick).1), (index * 2 + 1, (place index count tick).2)]
        packets := [(index, tick * (UInt64.ofNat index + 1) * 17 + seed)] } := by
  subst hthread
  exact if_neg (Nat.not_le.mpr h)

theorem mem_packets {write : Nat × UInt64} :
    write ∈ (updateObservers place count tick seed thread).packets ↔
      write.1 < count.toNat ∧ globalIndex blockSize.toNat thread = write.1 ∧
        write.2 = tick * (UInt64.ofNat write.1 + 1) * 17 + seed := by
  obtain ⟨cell, value⟩ := write
  generalize hthread : globalIndex blockSize.toNat thread = index
  rcases Nat.lt_or_ge index count.toNat with hindex | hguard
  · rw [updateObservers_of_lt hthread hindex, List.mem_singleton, Prod.mk.injEq]
    constructor
    · rintro ⟨rfl, rfl⟩
      exact ⟨hindex, rfl, rfl⟩
    · rintro ⟨_, rfl, hvalue⟩
      exact ⟨rfl, hvalue⟩
  · rw [updateObservers_of_le (hthread ▸ hguard)]
    constructor
    · intro hmem
      simp at hmem
    · rintro ⟨hcell, rfl, _⟩
      exact absurd hcell (Nat.not_lt.mpr hguard)

/-- The even cells hold the first coordinates, the odd ones the second. -/
theorem mem_positions {write : Nat × FloatBits} :
    write ∈ (updateObservers place count tick seed thread).positions ↔
      write.1 < count.toNat * 2 ∧ globalIndex blockSize.toNat thread = write.1 / 2 ∧
        write.2 = if write.1 % 2 = 0 then (place (write.1 / 2) count tick).1
          else (place (write.1 / 2) count tick).2 := by
  obtain ⟨cell, value⟩ := write
  generalize hthread : globalIndex blockSize.toNat thread = index
  rcases Nat.lt_or_ge index count.toNat with hindex | hguard
  · rw [updateObservers_of_lt hthread hindex, List.mem_cons, List.mem_singleton, Prod.mk.injEq,
      Prod.mk.injEq]
    constructor
    · rintro (⟨rfl, rfl⟩ | ⟨rfl, rfl⟩)
      · have hhalf : index * 2 / 2 = index := by omega
        rw [hhalf, if_pos (by omega)]
        exact ⟨by omega, rfl, rfl⟩
      · have hhalf : (index * 2 + 1) / 2 = index := by omega
        rw [hhalf, if_neg (by omega)]
        exact ⟨by omega, rfl, rfl⟩
    · rintro ⟨_, rfl, hvalue⟩
      by_cases heven : cell % 2 = 0
      · left
        rw [if_pos heven] at hvalue
        exact ⟨by omega, hvalue⟩
      · right
        rw [if_neg heven] at hvalue
        exact ⟨by omega, hvalue⟩
  · rw [updateObservers_of_le (hthread ▸ hguard)]
    constructor
    · intro hmem
      simp at hmem
    · rintro ⟨hcell, rfl, _⟩
      omega

theorem packets_written_iff {cell : Nat} (hcell : cell < count.toNat) :
    cell ∈ (updateObservers place count tick seed thread).packets.map Prod.fst ↔
      globalIndex blockSize.toNat thread = cell := by
  rw [List.mem_map]
  constructor
  · rintro ⟨write, hmem, rfl⟩
    exact (mem_packets.mp hmem).2.1
  · intro hindex
    exact ⟨(cell, tick * (UInt64.ofNat cell + 1) * 17 + seed),
      mem_packets.mpr ⟨hcell, hindex, rfl⟩, rfl⟩

theorem positions_written_iff {cell : Nat} (hcell : cell < count.toNat * 2) :
    cell ∈ (updateObservers place count tick seed thread).positions.map Prod.fst ↔
      globalIndex blockSize.toNat thread = cell / 2 := by
  rw [List.mem_map]
  constructor
  · rintro ⟨write, hmem, rfl⟩
    exact (mem_positions.mp hmem).2.1
  · intro hindex
    let value := if cell % 2 = 0 then (place (cell / 2) count tick).1
      else (place (cell / 2) count tick).2
    exact ⟨(cell, value), mem_positions.mpr ⟨hcell, hindex, rfl⟩, rfl⟩

end Threads

theorem getD_copyBack {ν : Type} (array : Nat → ν) {size index : Nat} (h : index < size)
    (default : ν) : (copyBack array size).getD index default = array index := by
  simp [copyBack, List.getD_eq_getElem?_getD, h]

namespace CudaBackend

-- ---------------------------------------------------------------------------
-- What a launch leaves
-- ---------------------------------------------------------------------------

section Launch

variable {place : Placement} {backend : CudaBackend} {threads : List (Nat × Nat)} {tick : UInt64}

/-- The blocks are rounded up, so they cover the observers. -/
theorem Launches.covers (h : backend.Launches threads) {index : Nat}
    (hindex : index < backend.count.toNat) :
    index < (blockCount backend.count).toNat * blockSize.toNat := by
  have hfits := h.fits
  have hcount := backend.count.toNat_lt
  have hblocks : (blockCount backend.count).toNat = (backend.count.toNat + 255) / 256 := by
    have hsum : (backend.count + 256 - 1).toNat = backend.count.toNat + 255 := by
      rw [UInt64.toNat_sub, UInt64.toNat_add]
      have hsize : (256 : UInt64).toNat = 256 := rfl
      have hone : (1 : UInt64).toNat = 1 := rfl
      rw [hsize, hone]
      omega
    have hquotient : ((backend.count + 256 - 1) / 256).toNat =
        (backend.count.toNat + 255) / 256 := by
      rw [UInt64.toNat_div, hsum]
      rfl
    have htruncated : (blockCount backend.count).toNat =
        ((backend.count + 256 - 1) / 256).toNat % 2 ^ 32 := UInt64.toNat_toUInt32 _
    rw [htruncated, hquotient, Nat.mod_eq_of_lt hfits]
  have hsize : blockSize.toNat = 256 := rfl
  rw [hblocks, hsize]
  omega

theorem Launches.exists_thread (h : backend.Launches threads) {index : Nat}
    (hindex : index < backend.count.toNat) :
    ∃ thread ∈ threads, globalIndex blockSize.toNat thread = index :=
  exists_globalIndex h.once (h.covers hindex)

/-- **Each counter has one thread.** -/
theorem Launches.packets_written_once (h : backend.Launches threads) {cell : Nat}
    (hcell : cell < backend.count.toNat) :
    threads.countP (fun thread =>
      cell ∈ ((backend.kernel place tick thread).packets.map Prod.fst)) = 1 := by
  rw [← countP_globalIndex h.once (h.covers hcell)]
  apply List.countP_congr
  intro thread _
  rw [decide_eq_true_iff, decide_eq_true_iff]
  exact packets_written_iff hcell

/-- **Each coordinate has one thread.** -/
theorem Launches.positions_written_once (h : backend.Launches threads) {cell : Nat}
    (hcell : cell < backend.count.toNat * 2) :
    threads.countP (fun thread =>
      cell ∈ ((backend.kernel place tick thread).positions.map Prod.fst)) = 1 := by
  have hindex : cell / 2 < backend.count.toNat := by omega
  rw [← countP_globalIndex h.once (h.covers hindex)]
  apply List.countP_congr
  intro thread _
  rw [decide_eq_true_iff, decide_eq_true_iff]
  exact positions_written_iff hcell

theorem Launches.packets_eq (h : backend.Launches threads) {index : Nat}
    (hindex : index < backend.count.toNat) :
    (launch (backend.kernel place tick) threads backend.memory).packets index =
      tick * (UInt64.ofNat index + 1) * 17 + backend.config.seed := by
  apply storeAll_of_unique
  · rintro write hmem rfl
    obtain ⟨thread, _, hwrite⟩ := List.mem_flatMap.mp hmem
    exact (mem_packets.mp hwrite).2.2
  · obtain ⟨thread, hthread, hglobal⟩ := h.exists_thread hindex
    obtain ⟨write, hwrite, hcell⟩ := List.mem_map.mp ((packets_written_iff hindex).mpr hglobal)
    exact ⟨write, List.mem_flatMap.mpr ⟨thread, hthread, hwrite⟩, hcell⟩

theorem Launches.positions_eq (h : backend.Launches threads) {cell : Nat}
    (hcell : cell < backend.count.toNat * 2) :
    (launch (backend.kernel place tick) threads backend.memory).positions cell =
      if cell % 2 = 0 then (place (cell / 2) backend.count tick).1
      else (place (cell / 2) backend.count tick).2 := by
  apply storeAll_of_unique
  · rintro write hmem rfl
    obtain ⟨thread, _, hwrite⟩ := List.mem_flatMap.mp hmem
    exact (mem_positions.mp hwrite).2.2
  · have hindex : cell / 2 < backend.count.toNat := by omega
    obtain ⟨thread, hthread, hglobal⟩ := h.exists_thread hindex
    obtain ⟨write, hwrite, hstored⟩ :=
      List.mem_map.mp ((positions_written_iff hcell).mpr hglobal)
    exact ⟨write, List.mem_flatMap.mpr ⟨thread, hthread, hwrite⟩, hstored⟩

end Launch

/-- **A step is the loop of the reference**, at the device's positions. -/
theorem step_eq {place : Placement} {backend : CudaBackend} {threads : List (Nat × Nat)}
    {tick : UInt64} (h : backend.Launches threads) :
    (backend.step place threads tick).1 = CpuBackend.step place ⟨backend.config⟩ tick := by
  rw [CpuBackend.step, step, ← backend.count_eq]
  apply List.foldl_ext
  intro scene index hmem
  have hindex : index < backend.count.toNat := List.mem_range.mp hmem
  have hfirst : index * 2 < backend.count.toNat * 2 := by omega
  have hsecond : index * 2 + 1 < backend.count.toNat * 2 := by omega
  have hevenHalf : index * 2 / 2 = index := by omega
  have hoddHalf : (index * 2 + 1) / 2 = index := by omega
  have heven : index * 2 % 2 = 0 := by omega
  have hodd : ¬ (index * 2 + 1) % 2 = 0 := by omega
  dsimp only
  rw [getD_copyBack _ hindex, getD_copyBack _ hfirst, getD_copyBack _ hsecond,
    h.packets_eq hindex, h.positions_eq hfirst, h.positions_eq hsecond, hevenHalf, hoddHalf,
    if_pos heven, if_neg hodd]

end CudaBackend

-- ---------------------------------------------------------------------------
-- Positions apart
-- ---------------------------------------------------------------------------

/-- A node without its position. -/
def unplaced (node : TopologyNode) : TopologyNode := { node with x := 0, y := 0 }

/-- Scenes with the same nodes and links, in order, when positions do not count. -/
structure SameUnplaced (first second : TopologyScene) : Prop where
  nodes : first.nodes.map unplaced = second.nodes.map unplaced
  links : first.links = second.links

theorem SameUnplaced.upsertObserver {first second : TopologyScene} (h : SameUnplaced first second)
    (index : Nat) (position other : FloatBits × FloatBits) (packets : UInt64) :
    SameUnplaced (upsertObserver first index position packets)
      (upsertObserver second index other packets) where
  nodes := by
    have hkey : ∀ node : TopologyNode, (unplaced node).id = node.id := fun _ => rfl
    have hnode : unplaced (observerNode index position packets) =
        unplaced (observerNode index other packets) := rfl
    show (upsert TopologyNode.id (observerNode index position packets) first.nodes).map unplaced =
      (upsert TopologyNode.id (observerNode index other packets) second.nodes).map unplaced
    rw [map_upsert TopologyNode.id hkey, map_upsert TopologyNode.id hkey, h.nodes, hnode]
  links := by
    show upsert TopologyLink.endpoints (observerLink index packets) first.links =
      upsert TopologyLink.endpoints (observerLink index packets) second.links
    rw [h.links]

theorem SameUnplaced.foldl {first second : TopologyScene} (h : SameUnplaced first second)
    (place other : Nat → FloatBits × FloatBits) (packets : Nat → UInt64) (indices : List Nat) :
    SameUnplaced
      (indices.foldl (fun scene index =>
        Simulation.upsertObserver scene index (place index) (packets index)) first)
      (indices.foldl (fun scene index =>
        Simulation.upsertObserver scene index (other index) (packets index)) second) := by
  induction indices generalizing first second with
  | nil => exact h
  | cons index rest ih => exact ih (h.upsertObserver index (place index) (other index) _)

/-- The reference computes the same at any positions. -/
theorem CpuBackend.sameUnplaced_step (place other : Placement) (backend : CpuBackend)
    (tick : UInt64) : SameUnplaced (backend.step place tick) (backend.step other tick) := by
  have hstart : SameUnplaced (TopologyScene.empty.upsertNode (switchNode tick))
      (TopologyScene.empty.upsertNode (switchNode tick)) := ⟨rfl, rfl⟩
  exact hstart.foldl (fun index => place index backend.config.count tick)
    (fun index => other index backend.config.count tick)
    (fun index => tick * (UInt64.ofNat index + 1) * 17 + backend.config.seed)
    (List.range backend.config.count.toNat)

/-- **The CUDA backend refines the CPU reference.** Whatever was in the device memory and in
whatever order the threads run, the two scenes agree but for positions, and every element that
is copied back has been written by one thread. -/
theorem CudaBackend.step_refines_cpu (hostPlace devicePlace : Placement) (backend : CudaBackend)
    (threads : List (Nat × Nat)) (tick : UInt64) (h : backend.Launches threads) :
    SameUnplaced (backend.step devicePlace threads tick).1
        (CpuBackend.step hostPlace ⟨backend.config⟩ tick) ∧
      (∀ cell < backend.count.toNat * 2, threads.countP (fun thread =>
        cell ∈ (backend.kernel devicePlace tick thread).positions.map Prod.fst) = 1) ∧
      ∀ cell < backend.count.toNat, threads.countP (fun thread =>
        cell ∈ (backend.kernel devicePlace tick thread).packets.map Prod.fst) = 1 := by
  refine ⟨?_, fun cell hcell => h.positions_written_once hcell,
    fun cell hcell => h.packets_written_once hcell⟩
  rw [step_eq h]
  exact CpuBackend.sameUnplaced_step devicePlace hostPlace ⟨backend.config⟩ tick

/-- Three observers, their block run backwards. -/
theorem CudaBackend.step_refines_cpu_reversed :
    let backend := CudaBackend.create ⟨3, 99⟩ ⟨fun _ => 0, fun _ => 0⟩
    let threads := (grid 1 256).reverse
    backend.Launches threads ∧
      SameUnplaced (backend.step (fun index _ _ => (UInt32.ofNat index, 0)) threads 7).1
        (CpuBackend.step (fun _ _ _ => (0, 0)) ⟨⟨3, 99⟩⟩ 7) := by
  intro backend threads
  have hblocks : (blockCount backend.count).toNat = 1 := by decide
  have hlaunches : backend.Launches threads := {
    fits := by decide
    once := by
      rw [hblocks]
      exact List.reverse_perm (grid 1 256) }
  exact ⟨hlaunches, (step_refines_cpu _ _ backend threads 7 hlaunches).1⟩

end SiliconSwitch.Simulation
