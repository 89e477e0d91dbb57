import Mathlib

/-!
# Aligned blocks

Blocks of numbers that begin at a multiple of their size, and the masks that select
blocks of powers of two.

* `mem_members_iff`    — rounding down to the size gives the start exactly in the block;
* `subset_or_disjoint` — of two blocks whose sizes divide, the smaller is inside or apart;
* `members_injective`  — a block is determined by its members;
* `and_highBits`       — a mask of high bits rounds down.
-/

namespace SiliconSwitch.Library

@[ext]
structure AlignedBlock where
  start : Nat
  size : Nat
  size_pos : 0 < size
  aligned : size ∣ start

namespace AlignedBlock

/-- The numbers of a block. -/
def members (block : AlignedBlock) : Set Nat := Set.Ico block.start (block.start + block.size)

theorem mem_members {block : AlignedBlock} {n : Nat} :
    n ∈ block.members ↔ block.start ≤ n ∧ n < block.start + block.size := Set.mem_Ico

/-- **A number belongs to a block exactly if it rounds down to the start.** -/
theorem mem_members_iff {block : AlignedBlock} {n : Nat} :
    n ∈ block.members ↔ n / block.size * block.size = block.start := by
  obtain ⟨start, size, hsize, quotient, rfl⟩ := block
  rw [mem_members]
  show size * quotient ≤ n ∧ n < size * quotient + size ↔ n / size * size = size * quotient
  rw [Nat.mul_comm (n / size), Nat.mul_left_cancel_iff hsize]
  constructor
  · rintro ⟨hle, hlt⟩
    refine Nat.div_eq_of_lt_le ?_ ?_
    · rw [Nat.mul_comm]
      exact hle
    · rw [Nat.mul_comm, Nat.mul_succ]
      exact hlt
  · rintro rfl
    exact ⟨Nat.mul_div_le n size, Nat.lt_mul_div_succ n hsize⟩

/-- **Aligned blocks do not overlap in part**: the smaller of two is inside the other or
apart from it. -/
theorem subset_or_disjoint {inner outer : AlignedBlock} (hsize : inner.size ∣ outer.size) :
    inner.members ⊆ outer.members ∨ Disjoint outer.members inner.members := by
  by_cases hcommon : ∃ n, n ∈ outer.members ∧ n ∈ inner.members
  · obtain ⟨n, houter, hinner⟩ := hcommon
    refine Or.inl fun m hm => ?_
    rw [mem_members_iff] at houter hinner hm ⊢
    -- both numbers have the same quotient by the smaller size, so by the larger
    have hquotient : m / inner.size = n / inner.size :=
      Nat.eq_of_mul_eq_mul_right inner.size_pos (hm.trans hinner.symm)
    obtain ⟨factor, hfactor⟩ := hsize
    rw [← houter, hfactor, ← Nat.div_div_eq_div_mul, ← Nat.div_div_eq_div_mul, hquotient]
  · refine Or.inr (Set.disjoint_left.mpr fun n houter hinner => ?_)
    exact hcommon ⟨n, houter, hinner⟩

theorem members_injective : Function.Injective members := by
  intro first second h
  have hfirst := first.size_pos
  obtain ⟨hstart, hend⟩ := (Set.Ico_eq_Ico_iff (Or.inl (by omega))).mp h
  have hsize : first.size = second.size := by omega
  cases first
  cases second
  rw [AlignedBlock.mk.injEq]
  exact ⟨hstart, hsize⟩

end AlignedBlock

-- ---------------------------------------------------------------------------
-- Masks
-- ---------------------------------------------------------------------------

/-- **A mask of the high bits rounds down** to a multiple of a power of two. -/
theorem and_highBits {width bits value : Nat} (hbits : bits ≤ width) (hvalue : value < 2 ^ width) :
    value &&& (2 ^ width - 2 ^ bits) = value / 2 ^ bits * 2 ^ bits := by
  have hmask : 2 ^ width - 2 ^ bits = (2 ^ (width - bits) - 1) <<< bits := by
    rw [Nat.shiftLeft_eq, Nat.sub_mul, ← Nat.pow_add, Nat.sub_add_cancel hbits, Nat.one_mul]
  rw [hmask, ← Nat.shiftRight_eq_div_pow, ← Nat.shiftLeft_eq]
  apply Nat.eq_of_testBit_eq
  intro i
  rw [Nat.testBit_and, Nat.testBit_shiftLeft, Nat.testBit_shiftLeft, Nat.testBit_two_pow_sub_one,
    Nat.testBit_shiftRight]
  by_cases hlow : i < bits
  · simp [Nat.not_le.mpr hlow]
  · have hkept : bits ≤ i := Nat.le_of_not_lt hlow
    have hindex : bits + (i - bits) = i := by omega
    rw [hindex]
    by_cases hhigh : i < width
    · have hinside : i - bits < width - bits := by omega
      simp [hkept, hinside]
    · have hclear : value.testBit i = false :=
        Nat.testBit_lt_two_pow (hvalue.trans_le (Nat.pow_le_pow_right (by decide) (by omega)))
      simp [hclear]

/-- Setting the low bits of a multiple of a power of two gives the last number of its block. -/
theorem or_lowBits {bits start : Nat} (haligned : 2 ^ bits ∣ start) :
    start ||| (2 ^ bits - 1) = start + (2 ^ bits - 1) := by
  obtain ⟨quotient, rfl⟩ := haligned
  have hpos : 0 < 2 ^ bits := Nat.two_pow_pos bits
  rw [Nat.mul_comm, ← Nat.shiftLeft_eq, Nat.shiftLeft_add_eq_or_of_lt (by omega)]

end SiliconSwitch.Library
