import Mathlib.Tactic

/-!
# One's-complement sums

Addition of words with an end-around carry: what leaves a word at the top comes back
in at the bottom. A word is a number below `base`, of any base.

* `fold_residue_add`        — with the carry folded back after every word, the sum is
  the plain total modulo `base - 1`, where only an empty total is zero;
* `residue_eq_top_iff`      — a sum is complete if it is a positive multiple of `base - 1`;
* `residue_add_eq_top`      — a word that complements the sum of the others brings it to
  `base - 1`, the complement of zero, and no other word does, but for the second zero: where
  the complement is zero, so is the word of all ones;
* `residue_add_eq_top_unique` — so a complete sum with one word changed is not complete, but
  for a change from one zero to the other.
-/

namespace SiliconSwitch.Library.OnesComplement

/-- One fold of the carry into the word. -/
def fold (base value : Nat) : Nat := value % base + value / base

/-- The one's-complement sum of words whose plain total is `total`. -/
def residue (base total : Nat) : Nat := if total = 0 then 0 else (total - 1) % (base - 1) + 1

/-- The one's complement of a word. -/
def complement (base word : Nat) : Nat := base - 1 - word

variable {base : Nat}

@[simp] theorem residue_zero : residue base 0 = 0 := rfl

theorem residue_of_pos {total : Nat} (h : 0 < total) :
    residue base total = (total - 1) % (base - 1) + 1 := by
  rw [residue, if_neg (Nat.ne_of_gt h)]

theorem fold_of_lt {value : Nat} (h : value < base) : fold base value = value := by
  rw [fold, Nat.mod_eq_of_lt h, Nat.div_eq_of_lt h, Nat.add_zero]

theorem fold_of_carry {value : Nat} (hcarry : base ≤ value) (h : value < 2 * base) :
    fold base value = value - base + 1 := by
  have hquotient : value / base = 1 := Nat.div_eq_of_lt_le (by omega) (by omega)
  rw [fold, hquotient, Nat.mod_eq_sub_mod hcarry, Nat.mod_eq_of_lt (by omega)]

theorem residue_lt (hbase : 2 ≤ base) (total : Nat) : residue base total < base := by
  rcases Nat.eq_zero_or_pos total with rfl | hpos
  · rw [residue_zero]
    omega
  · rw [residue_of_pos hpos]
    have := Nat.mod_lt (total - 1) (show 0 < base - 1 by omega)
    omega

/-- A word is its own residue. -/
theorem residue_of_lt {word : Nat} (h : word < base) : residue base word = word := by
  rcases Nat.eq_zero_or_pos word with rfl | hpos
  · rfl
  · rw [residue_of_pos hpos, Nat.mod_eq_of_lt (by omega)]
    omega

/-- **One step of the sum**: add a word, fold the carry back. -/
theorem fold_residue_add (hbase : 2 ≤ base) (total : Nat) {word : Nat} (hword : word < base) :
    fold base (residue base total + word) = residue base (total + word) := by
  rcases Nat.eq_zero_or_pos total with rfl | hpos
  · rw [residue_zero, Nat.zero_add, fold_of_lt hword, residue_of_lt hword]
  · have hlow := Nat.mod_lt (total - 1) (show 0 < base - 1 by omega)
    have htotal : total + word - 1 = total - 1 + word := by omega
    rw [residue_of_pos hpos, residue_of_pos (by omega), htotal, ← Nat.mod_add_mod]
    generalize (total - 1) % (base - 1) = low at hlow
    by_cases hcarry : base ≤ low + 1 + word
    · rw [fold_of_carry hcarry (by omega), Nat.mod_eq_sub_mod (by omega),
        Nat.mod_eq_of_lt (by omega)]
      omega
    · rw [fold_of_lt (by omega), Nat.mod_eq_of_lt (by omega)]
      omega

/-- A sum is complete if it is a multiple of the greatest word, but not of none. -/
theorem residue_eq_top_iff (hbase : 2 ≤ base) (total : Nat) :
    residue base total = base - 1 ↔ 0 < total ∧ base - 1 ∣ total := by
  obtain ⟨top, rfl⟩ : ∃ top, base = top + 2 := ⟨base - 2, by omega⟩
  cases total with
  | zero =>
    rw [residue_zero]
    omega
  | succ total =>
    rw [residue_of_pos (Nat.succ_pos total), Nat.dvd_iff_mod_eq_zero]
    show total % (top + 1) + 1 = top + 1 ↔ 0 < total + 1 ∧ (total + 1) % (top + 1) = 0
    rw [Nat.succ_mod_succ_eq_zero_iff]
    omega

/-- **The words that complete a sum**: the complement, and all ones for a sum that is
complete already. -/
theorem residue_add_eq_top (hbase : 2 ≤ base) (total : Nat) {word : Nat} (hword : word < base) :
    residue base (total + word) = base - 1 ↔
      word = complement base (residue base total) ∨
        residue base total = base - 1 ∧ word = base - 1 := by
  rcases Nat.eq_zero_or_pos total with rfl | hpos
  · rw [Nat.zero_add, residue_of_lt hword, residue_zero, complement]
    omega
  · have hlow := Nat.mod_lt (total - 1) (show 0 < base - 1 by omega)
    have htotal : total + word - 1 = total - 1 + word := by omega
    rw [residue_of_pos hpos, residue_of_pos (by omega), htotal, ← Nat.mod_add_mod, complement]
    generalize (total - 1) % (base - 1) = low at hlow
    -- the sum of the two words carries at most twice
    by_cases hcarry : base - 1 ≤ low + word
    · rw [Nat.mod_eq_sub_mod hcarry]
      by_cases htwice : base - 1 ≤ low + word - (base - 1)
      · rw [Nat.mod_eq_sub_mod htwice, Nat.mod_eq_of_lt (by omega)]
        omega
      · rw [Nat.mod_eq_of_lt (by omega)]
        omega
    · rw [Nat.mod_eq_of_lt (by omega)]
      omega

/-- **What completes a sum is unique up to the two zeros.** -/
theorem residue_add_eq_top_unique (hbase : 2 ≤ base) {total old new : Nat} (hold : old < base)
    (hnew : new < base) (hcomplete : residue base (total + old) = base - 1)
    (hagain : residue base (total + new) = base - 1) :
    old = new ∨ old = 0 ∧ new = base - 1 ∨ old = base - 1 ∧ new = 0 := by
  rw [residue_add_eq_top hbase total hold] at hcomplete
  rw [residue_add_eq_top hbase total hnew] at hagain
  unfold complement at hcomplete hagain
  omega

end SiliconSwitch.Library.OnesComplement
