import Mathlib.Tactic

/-!
# Grids of threads

Parallel launches over arbitrary memories: a grid of blocks of threads, each thread with
the writes that it makes.

* `map_globalIndex_grid`  — the global indices of a grid count its threads off;
* `countP_globalIndex`    — so in any order of the threads every index occurs once;
* `storeAll_of_unique`    — a cell whose writes agree holds their value, in any order.
-/

namespace SiliconSwitch.Library

-- ---------------------------------------------------------------------------
-- Indices
-- ---------------------------------------------------------------------------

/-- The threads of `blocks` blocks of `size` threads, as pairs of block and thread. -/
def grid (blocks size : Nat) : List (Nat × Nat) :=
  (List.range blocks).flatMap fun block => (List.range size).map fun thread => (block, thread)

def globalIndex (size : Nat) (thread : Nat × Nat) : Nat := thread.1 * size + thread.2

theorem map_globalIndex_grid (blocks size : Nat) :
    (grid blocks size).map (globalIndex size) = List.range (blocks * size) := by
  induction blocks with
  | zero => rw [Nat.zero_mul]; rfl
  | succ blocks ih =>
    have hlast : ((List.range size).map fun thread => (blocks, thread)).map (globalIndex size) =
        (List.range size).map fun thread => blocks * size + thread := by
      rw [List.map_map]
      rfl
    have hgrid : grid (blocks + 1) size =
        grid blocks size ++ (List.range size).map fun thread => (blocks, thread) := by
      rw [grid, List.range_succ, List.flatMap_append, List.flatMap_singleton]
      rfl
    rw [hgrid, List.map_append, ih, hlast, Nat.succ_mul, List.range_add]

/-- **Every index of a launch belongs to one thread**, whatever the order. -/
theorem countP_globalIndex {blocks size index : Nat} {threads : List (Nat × Nat)}
    (h : threads.Perm (grid blocks size)) (hindex : index < blocks * size) :
    threads.countP (fun thread => globalIndex size thread = index) = 1 := by
  have hcount : (grid blocks size).countP (fun thread => globalIndex size thread = index) =
      ((grid blocks size).map (globalIndex size)).count index := by
    rw [List.count, List.countP_map]
    rfl
  rw [h.countP_eq, hcount, map_globalIndex_grid]
  exact List.count_eq_one_of_mem List.nodup_range (List.mem_range.mpr hindex)

theorem exists_globalIndex {blocks size index : Nat} {threads : List (Nat × Nat)}
    (h : threads.Perm (grid blocks size)) (hindex : index < blocks * size) :
    ∃ thread ∈ threads, globalIndex size thread = index := by
  have hpos : 0 < threads.countP fun thread => globalIndex size thread = index := by
    rw [countP_globalIndex h hindex]
    exact Nat.one_pos
  obtain ⟨thread, hmem, heq⟩ := List.countP_pos_iff.mp hpos
  exact ⟨thread, hmem, of_decide_eq_true heq⟩

-- ---------------------------------------------------------------------------
-- Writes
-- ---------------------------------------------------------------------------

variable {κ ν : Type} [DecidableEq κ]

/-- The memory after some writes, in order. -/
def storeAll (memory : κ → ν) (writes : List (κ × ν)) : κ → ν :=
  writes.foldl (fun memory write => Function.update memory write.1 write.2) memory

theorem storeAll_of_untouched {memory : κ → ν} {writes : List (κ × ν)} {cell : κ}
    (h : ∀ write ∈ writes, write.1 ≠ cell) : storeAll memory writes cell = memory cell := by
  induction writes generalizing memory with
  | nil => rfl
  | cons write rest ih =>
    rw [List.forall_mem_cons] at h
    rw [storeAll, List.foldl_cons]
    refine (ih h.2).trans ?_
    exact Function.update_of_ne h.1.symm ..

/-- **A cell whose writes agree holds their value.** -/
theorem storeAll_of_unique {memory : κ → ν} {writes : List (κ × ν)} {cell : κ} {value : ν}
    (hagree : ∀ write ∈ writes, write.1 = cell → write.2 = value)
    (hwritten : ∃ write ∈ writes, write.1 = cell) : storeAll memory writes cell = value := by
  induction writes generalizing memory with
  | nil => simp at hwritten
  | cons write rest ih =>
    rw [List.forall_mem_cons] at hagree
    rw [storeAll, List.foldl_cons]
    by_cases hlater : ∃ later ∈ rest, later.1 = cell
    · exact ih hagree.2 hlater
    · -- this is the last write to the cell
      have hcell : write.1 = cell := by
        obtain ⟨found, hfound, heq⟩ := hwritten
        rcases List.mem_cons.mp hfound with rfl | hrest
        · exact heq
        · exact absurd ⟨found, hrest, heq⟩ hlater
      have huntouched : ∀ later ∈ rest, later.1 ≠ cell := fun later hmem heq =>
        hlater ⟨later, hmem, heq⟩
      refine (storeAll_of_untouched huntouched).trans ?_
      rw [← hcell, Function.update_self]
      exact hagree.1 hcell

end SiliconSwitch.Library
