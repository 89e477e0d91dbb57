import SiliconSwitch.Simulation.Backends
import SiliconSwitch.Simulation.StreamIntegrity

/-!
# How many observers fit in an update

A backend describes all its observers in every scene, and a scene has to fit in one update.
The scene of a step is written out here, record by record, and its size follows.

* `step_nodes`, `step_links` — the records of a step, when all identifiers differ;
* `snapshotSize_step`        — the octets of its snapshot;
* `publishable_step_iff`     — the scene fits exactly if there are at most 1157 observers.
-/

namespace SiliconSwitch.Simulation

open SiliconSwitch.Library SiliconSwitch.Transport SiliconSwitch.Visualization

-- ---------------------------------------------------------------------------
-- The records of a step
-- ---------------------------------------------------------------------------

/-- The packets of an observer at a tick. -/
def observerPackets (config : SimulationConfig) (tick : UInt64) (index : Nat) : UInt64 :=
  tick * (UInt64.ofNat index + 1) * 17 + config.seed

/-- The loop of the observers, split into its nodes and its links. -/
theorem foldl_upsertObserver (place : Nat → FloatBits × FloatBits) (packets : Nat → UInt64)
    (indices : List Nat) (scene : TopologyScene) :
    let after := indices.foldl (fun scene index =>
      upsertObserver scene index (place index) (packets index)) scene
    after.nodes = (indices.map fun index => observerNode index (place index) (packets index)).foldl
        (fun acc node => upsert TopologyNode.id node acc) scene.nodes ∧
      after.links = (indices.map fun index => observerLink index (packets index)).foldl
        (fun acc link => upsert TopologyLink.endpoints link acc) scene.links := by
  induction indices generalizing scene with
  | nil => exact ⟨rfl, rfl⟩
  | cons index rest ih => exact ih (upsertObserver scene index (place index) (packets index))

/-- The identifiers that the observers get do not wrap. -/
theorem observerId_injOn {count : Nat} (hcount : count + 1 < 2 ^ 32) :
    Set.InjOn (fun index => UInt32.ofNat (index + 2)) {index | index < count} := by
  intro first hfirst second hsecond hsame
  have hfirst' : first < count := hfirst
  have hsecond' : second < count := hsecond
  have hvalue := congrArg UInt32.toNat hsame
  simp only [UInt32.toNat_ofNat'] at hvalue
  omega

theorem nodup_observerIds {count : Nat} (hcount : count + 1 < 2 ^ 32) :
    ((1 : UInt32) :: (List.range count).map fun index => UInt32.ofNat (index + 2)).Nodup := by
  refine List.nodup_cons.mpr ⟨?_, ?_⟩
  · rw [List.mem_map]
    rintro ⟨index, hmem, hone⟩
    have hindex : index < count := List.mem_range.mp hmem
    have hvalue := congrArg UInt32.toNat hone
    rw [UInt32.toNat_ofNat'] at hvalue
    have hnumber : (1 : UInt32).toNat = 1 := rfl
    omega
  · refine List.Nodup.map_on ?_ List.nodup_range
    intro first hfirst second hsecond hsame
    exact observerId_injOn hcount (List.mem_range.mp hfirst) (List.mem_range.mp hsecond) hsame

/-- The records of the first turns of the loop: the switch, and the observers in order. -/
theorem foldl_range (place : Nat → FloatBits × FloatBits) (packets : Nat → UInt64)
    (tick : UInt64) {count : Nat} (hcount : count + 1 < 2 ^ 32) :
    let after := (List.range count).foldl (fun scene index =>
      upsertObserver scene index (place index) (packets index))
        (TopologyScene.empty.upsertNode (switchNode tick))
    after.nodes = switchNode tick :: (List.range count).map (fun index =>
        observerNode index (place index) (packets index)) ∧
      after.links = (List.range count).map fun index => observerLink index (packets index) := by
  intro after
  obtain ⟨hnodes, hlinks⟩ := foldl_upsertObserver place packets (List.range count)
    (TopologyScene.empty.upsertNode (switchNode tick))
  refine ⟨hnodes.trans (foldl_upsert_fresh TopologyNode.id ?_),
    hlinks.trans (foldl_upsert_fresh TopologyLink.endpoints ?_)⟩
  · have hids := nodup_observerIds hcount
    rw [List.map_append, List.map_map]
    exact hids
  · have hnone : (TopologyScene.empty.upsertNode (switchNode tick)).links = [] := rfl
    rw [hnone, List.nil_append, List.map_map]
    refine List.Nodup.map_on ?_ List.nodup_range
    intro first hfirst second hsecond hsame
    exact observerId_injOn hcount (List.mem_range.mp hfirst) (List.mem_range.mp hsecond)
      (congrArg Prod.snd hsame)

section Step

variable {place : Placement} {backend : CpuBackend} {tick : UInt64}

theorem step_nodes (hcount : backend.config.count.toNat + 1 < 2 ^ 32) :
    (backend.step place tick).nodes = switchNode tick ::
      (List.range backend.config.count.toNat).map fun index =>
        observerNode index (place index backend.config.count tick)
          (observerPackets backend.config tick index) :=
  (foldl_range (fun index => place index backend.config.count tick)
    (observerPackets backend.config tick) tick hcount).1

theorem step_links (hcount : backend.config.count.toNat + 1 < 2 ^ 32) :
    (backend.step place tick).links = (List.range backend.config.count.toNat).map fun index =>
      observerLink index (observerPackets backend.config tick index) :=
  (foldl_range (fun index => place index backend.config.count tick)
    (observerPackets backend.config tick) tick hcount).2

end Step

-- ---------------------------------------------------------------------------
-- The size of a snapshot
-- ---------------------------------------------------------------------------

/-- The digits of a number of at most four of them. -/
theorem length_decimal_of_le {n : Nat} (h : n ≤ 9999) :
    (decimal n).length =
      1 + (if 10 ≤ n then 1 else 0) + (if 100 ≤ n then 1 else 0) + (if 1000 ≤ n then 1 else 0) := by
  have hone := length_decimal_le_iff n (by decide : 0 < 1)
  have htwo := length_decimal_le_iff n (by decide : 0 < 2)
  have hthree := length_decimal_le_iff n (by decide : 0 < 3)
  have hfour := length_decimal_le_iff n (by decide : 0 < 4)
  have hpos : 0 < (decimal n).length := List.length_pos_iff.mpr (decimal_ne_nil n)
  split <;> split <;> split <;> omega

/-- The digits of the first numbers, all together. -/
theorem sum_length_decimal {count : Nat} (h : count ≤ 9999) :
    ((List.range count).map fun index => (decimal (index + 1)).length).sum =
      count + (count - 9) + (count - 99) + (count - 999) := by
  induction count with
  | zero => rfl
  | succ count ih =>
    rw [List.range_succ, List.map_append, List.sum_append, ih (by omega), List.map_singleton,
      List.sum_singleton, length_decimal_of_le h]
    split <;> split <;> split <;> omega

/-- The octets of a snapshot of so many observers. -/
def snapshotOctets (count : Nat) : Nat :=
  38 + 50 * count + (count + (count - 9) + (count - 99) + (count - 999))

theorem snapshotSize_step {place : Placement} {backend : CpuBackend} {tick : UInt64}
    (hcount : backend.config.count.toNat ≤ 9999) :
    (backend.step place tick).snapshotSize = snapshotOctets backend.config.count.toNat := by
  have hlabels : ∀ count : Nat, ((List.range count).map fun index =>
      24 + (asciiText "observer-" ++ decimal (index + 1)).length).sum =
        33 * count + ((List.range count).map fun index => (decimal (index + 1)).length).sum := by
    intro count
    have hlabel : (asciiText "observer-").length = 9 := by decide
    have hnode : (fun index => 24 + (asciiText "observer-" ++ decimal (index + 1)).length) =
        fun index => 33 + (decimal (index + 1)).length := by
      funext index
      rw [List.length_append, hlabel]
      omega
    rw [hnode, List.sum_map_add, List.map_const', List.sum_replicate, List.length_range,
      smul_eq_mul, Nat.mul_comm]
  have hswitch : 24 + (switchNode tick).label.length = 30 := rfl
  have hbound : backend.config.count.toNat + 1 < 2 ^ 32 := by omega
  rw [TopologyScene.snapshotSize, step_nodes hbound, step_links hbound, List.map_cons,
    List.map_map, List.sum_cons, List.length_map, List.length_range, hswitch]
  show 8 + (30 + ((List.range _).map fun index =>
    24 + (asciiText "observer-" ++ decimal (index + 1)).length).sum) + _ = _
  rw [hlabels, sum_length_decimal hcount]
  unfold snapshotOctets
  omega

-- ---------------------------------------------------------------------------
-- The scenes that fit
-- ---------------------------------------------------------------------------

/-- The most observers whose scene fits in one update. -/
def maximumObservers : Nat := 1157

/-- More turns of the loop never leave fewer records. -/
theorem length_le_foldl_upsertObserver (place : Nat → FloatBits × FloatBits)
    (packets : Nat → UInt64) (indices : List Nat) (scene : TopologyScene) :
    let after := indices.foldl (fun scene index =>
      upsertObserver scene index (place index) (packets index)) scene
    scene.nodes.length ≤ after.nodes.length ∧ scene.links.length ≤ after.links.length := by
  induction indices generalizing scene with
  | nil => exact ⟨Nat.le_refl _, Nat.le_refl _⟩
  | cons index rest ih =>
    have hrest := ih (upsertObserver scene index (place index) (packets index))
    have hnodes := length_le_length_upsert TopologyNode.id
      (observerNode index (place index) (packets index)) scene.nodes
    have hlinks := length_le_length_upsert TopologyLink.endpoints
      (observerLink index (packets index)) scene.links
    exact ⟨hnodes.trans hrest.1, hlinks.trans hrest.2⟩

/-- The records of many observers are too many, whatever their labels. -/
theorem snapshotSize_of_many {place : Placement} {backend : CpuBackend} {tick : UInt64}
    (hmany : 1501 ≤ backend.config.count.toNat) :
    StateUpdate.maximumPayloadSize < (backend.step place tick).snapshotSize := by
  -- the first 1501 turns are enough
  obtain ⟨more, hmore⟩ := Nat.exists_eq_add_of_le hmany
  obtain ⟨hnodes, hlinks⟩ := foldl_range (fun index => place index backend.config.count tick)
    (observerPackets backend.config tick) tick (by decide : 1501 + 1 < 2 ^ 32)
  obtain ⟨hnodesLe, hlinksLe⟩ := length_le_foldl_upsertObserver
    (fun index => place index backend.config.count tick) (observerPackets backend.config tick)
    ((List.range more).map (1501 + ·)) ((List.range 1501).foldl (fun scene index =>
      upsertObserver scene index (place index backend.config.count tick)
        (observerPackets backend.config tick index))
      (TopologyScene.empty.upsertNode (switchNode tick)))
  rw [← List.foldl_append, ← List.range_add, ← hmore] at hnodesLe hlinksLe
  rw [hnodes, List.length_cons, List.length_map, List.length_range] at hnodesLe
  rw [hlinks, List.length_map, List.length_range] at hlinksLe
  have hstep : (List.range backend.config.count.toNat).foldl (fun scene index =>
      upsertObserver scene index (place index backend.config.count tick)
        (observerPackets backend.config tick index))
      (TopologyScene.empty.upsertNode (switchNode tick)) = backend.step place tick := rfl
  rw [hstep] at hnodesLe hlinksLe
  have hrecords : 24 * (backend.step place tick).nodes.length ≤
      ((backend.step place tick).nodes.map fun node => 24 + node.label.length).sum := by
    rw [List.sum_map_add, List.map_const', List.sum_replicate, smul_eq_mul, Nat.mul_comm]
    exact Nat.le_add_right ..
  have hmaximum : StateUpdate.maximumPayloadSize = 61440 := rfl
  rw [hmaximum, TopologyScene.snapshotSize]
  omega

/-- **The scene of a step fits exactly if there are at most 1157 observers**, at any tick and
wherever they stand. -/
theorem publishable_step_iff (place : Placement) (backend : CpuBackend) (tick : UInt64) :
    (backend.step place tick).Publishable ↔ backend.config.count.toNat ≤ maximumObservers := by
  have hmaximum : StateUpdate.maximumPayloadSize = 61440 := rfl
  rcases Nat.lt_or_ge backend.config.count.toNat 1501 with hfew | hmany
  · have hbound : backend.config.count.toNat + 1 < 2 ^ 32 := by omega
    have hsize : (backend.step place tick).snapshotSize =
        snapshotOctets backend.config.count.toNat := snapshotSize_step (by omega)
    constructor
    · intro h
      have hfits := h.size_le
      rw [hsize, hmaximum] at hfits
      unfold snapshotOctets at hfits
      unfold maximumObservers
      omega
    · intro hle
      rw [maximumObservers] at hle
      refine ⟨?_, ?_⟩
      · intro node hnode
        rw [step_nodes hbound, List.mem_cons, List.mem_map] at hnode
        rcases hnode with rfl | ⟨index, hindex, rfl⟩
        · show (asciiText "switch").length ≤ 255
          decide
        · have hdigits := (length_decimal_le_iff (index + 1) (by decide : 0 < 4)).mpr (by
            have := List.mem_range.mp hindex
            omega)
          have hlabel : (asciiText "observer-").length = 9 := by decide
          show (asciiText "observer-" ++ decimal (index + 1)).length ≤ 255
          rw [List.length_append, hlabel]
          omega
      · rw [hsize, hmaximum]
        unfold snapshotOctets
        omega
  · have hlarge : StateUpdate.maximumPayloadSize < (backend.step place tick).snapshotSize :=
      snapshotSize_of_many hmany
    rw [maximumObservers]
    constructor
    · intro h
      exact absurd h.size_le (Nat.not_le.mpr hlarge)
    · intro hle
      omega

end SiliconSwitch.Simulation
