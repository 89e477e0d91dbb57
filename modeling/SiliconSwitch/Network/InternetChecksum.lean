import SiliconSwitch.Library.OnesComplement
import SiliconSwitch.Network.Packet

/-!
# The Internet checksum

What the checksum loop computes, for octets of any number.

* `computeInternetChecksum_eq`  — the complement of the one's-complement sum of the
  big-endian words;
* `hasValidInternetChecksum_iff` — octets are valid with their own checksum, and with all
  ones in place of a zero;
* `noOverflow`                  — no addition of the computation overflows;
* `internet_checksum`           — the sum, and which changes it detects.
-/

namespace SiliconSwitch.Network

open SiliconSwitch.Library SiliconSwitch.Library.OnesComplement

-- ---------------------------------------------------------------------------
-- The sum
-- ---------------------------------------------------------------------------

/-- The plain sum of the big-endian 16-bit words; an odd last byte is a high byte. -/
def wordTotal : List UInt8 → Nat
  | high :: low :: rest => high.toNat * 256 + low.toNat + wordTotal rest
  | [last] => last.toNat * 256
  | [] => 0

/-- The number of values of a checksum word. -/
def wordBase : Nat := 65536

theorem toNat_carry (value : UInt32) :
    (value >>> (16 : UInt32)).toNat = value.toNat / 65536 := by
  rw [UInt32.toNat_shiftRight]
  exact Nat.shiftRight_eq_div_pow value.toNat 16

/-- No fold overflows: both halves of a 32-bit number have 16 bits. -/
theorem toNat_foldCarry (value : UInt32) : (foldCarry value).toNat = fold wordBase value.toNat := by
  have hlow : (value &&& (0xFFFF : UInt32)).toNat = value.toNat % 65536 := by
    rw [UInt32.toNat_and]
    exact Nat.and_two_pow_sub_one_eq_mod value.toNat 16
  have hvalue := value.toNat_lt
  rw [foldCarry, UInt32.toNat_add, hlow, toNat_carry, fold, wordBase]
  omega

theorem toNat_word (high low : UInt8) :
    ((high.toUInt16 <<< 8) ||| low.toUInt16).toNat = high.toNat * 256 + low.toNat := by
  have hhigh := high.toNat_lt
  have hlow : low.toNat < 2 ^ 8 := low.toNat_lt
  have hshift : (high.toUInt16 <<< 8).toNat = high.toNat <<< 8 := by
    rw [UInt16.toNat_shiftLeft, UInt8.toNat_toUInt16]
    show high.toNat <<< 8 % 65536 = high.toNat <<< 8
    rw [Nat.shiftLeft_eq]
    omega
  rw [UInt16.toNat_or, hshift, UInt8.toNat_toUInt16, ← Nat.shiftLeft_add_eq_or_of_lt hlow,
    Nat.shiftLeft_eq]

/-- One word of the loop. -/
theorem toNat_foldCarry_add {sum word : UInt32} {total value : Nat}
    (hsum : sum.toNat = residue wordBase total) (hword : word.toNat = value)
    (hvalue : value < wordBase) :
    (foldCarry (sum + word)).toNat = residue wordBase (total + value) := by
  have hlow := residue_lt (show 2 ≤ wordBase by decide) total
  have hadd : (sum + word).toNat = residue wordBase total + value := by
    rw [UInt32.toNat_add, hsum, hword]
    unfold wordBase at hlow hvalue ⊢
    omega
  rw [toNat_foldCarry, hadd, fold_residue_add (by decide) total hvalue]

/-- The loop keeps the one's-complement sum of the words it has read. -/
theorem toNat_checksumLoop (bytes : List UInt8) {sum : UInt32} {total : Nat}
    (hsum : sum.toNat = residue wordBase total) :
    (checksumLoop sum bytes).toNat = residue wordBase (total + wordTotal bytes) := by
  induction bytes using wordTotal.induct generalizing sum total with
  | case1 high low rest ih =>
    have hhigh := high.toNat_lt
    have hlow := low.toNat_lt
    have hword : (((high.toUInt16 <<< 8) ||| low.toUInt16).toUInt32).toNat =
        high.toNat * 256 + low.toNat := by
      rw [UInt16.toNat_toUInt32, toNat_word]
    rw [checksumLoop, wordTotal, ← Nat.add_assoc]
    exact ih (toNat_foldCarry_add hsum hword (by unfold wordBase; omega))
  | case2 last =>
    have hlast := last.toNat_lt
    -- the odd byte is a word with a zero low byte
    have hword : ((last.toUInt16 <<< 8).toUInt32).toNat = last.toNat * 256 := by
      have hpadded := toNat_word last 0
      rw [show (last.toUInt16 <<< 8) ||| (0 : UInt8).toUInt16 = last.toUInt16 <<< 8 by simp]
        at hpadded
      rw [UInt16.toNat_toUInt32, hpadded, UInt8.toNat_zero, Nat.add_zero]
    rw [checksumLoop, wordTotal]
    exact toNat_foldCarry_add hsum hword (by unfold wordBase; omega)
  | case3 =>
    rw [checksumLoop, wordTotal, Nat.add_zero]
    exact hsum

/-- **The checksum is the complement of the one's-complement sum of the words.** -/
theorem computeInternetChecksum_eq (bytes : List UInt8) :
    (computeInternetChecksum bytes).toNat =
      complement wordBase (residue wordBase (wordTotal bytes)) := by
  have hloop : (checksumLoop 0 bytes).toNat = residue wordBase (wordTotal bytes) := by
    have hloop := @toNat_checksumLoop bytes 0 0 rfl
    rwa [Nat.zero_add] at hloop
  have hlow := residue_lt (show 2 ≤ wordBase by decide) (wordTotal bytes)
  -- the last fold finds no carry
  have hfold : (foldCarry (checksumLoop 0 bytes)).toNat = residue wordBase (wordTotal bytes) := by
    rw [toNat_foldCarry, hloop, fold_of_lt hlow]
  rw [computeInternetChecksum, UInt32.toNat_toUInt16, UInt32.toNat_and, UInt32.toNat_not, hfold]
  rw [show (0xFFFF : UInt32).toNat = 2 ^ 16 - 1 from rfl, Nat.and_two_pow_sub_one_eq_mod,
    complement]
  unfold wordBase at hlow ⊢
  generalize residue 65536 (wordTotal bytes) = sum at hlow
  show (4294967296 - 1 - sum) % 65536 % 65536 = 65536 - 1 - sum
  omega

/-- Words after whole words are summed on their own. -/
theorem wordTotal_append {front : List UInt8} (heven : front.length % 2 = 0)
    (rest : List UInt8) : wordTotal (front ++ rest) = wordTotal front + wordTotal rest := by
  induction front using wordTotal.induct with
  | case1 high low front ih =>
    have hfront : front.length % 2 = 0 := by
      simp only [List.length_cons] at heven
      omega
    rw [List.cons_append, List.cons_append, wordTotal, wordTotal, ih hfront]
    omega
  | case2 last => simp at heven
  | case3 => rw [List.nil_append, wordTotal, Nat.zero_add]

theorem wordTotal_encode (value : UInt16) : wordTotal (encode value) = value.toNat := by
  have hspelled : fromBigEndian (encode value) = value.toNat := by
    rw [encode, fromBigEndian_toBigEndian]
    exact Nat.mod_eq_of_lt value.toNat_lt
  obtain ⟨high, low, hbytes⟩ := List.length_eq_two.mp (length_encode value)
  rw [hbytes, fromBigEndian_cons, fromBigEndian_cons] at hspelled
  rw [hbytes, wordTotal, ← hspelled]
  simp [wordTotal, fromBigEndian]

/-- The sum over a header is that of its checksum field and of the words around it. -/
theorem wordTotal_field {front field : List UInt8} (heven : front.length % 2 = 0)
    (hfield : field.length = 2) (back : List UInt8) :
    wordTotal (front ++ (field ++ back)) =
      wordTotal front + wordTotal back + wordTotal field := by
  rw [wordTotal_append heven, wordTotal_append (by rw [hfield])]
  omega

theorem computeInternetChecksum_eq_zero {bytes : List UInt8} :
    computeInternetChecksum bytes = 0 ↔ residue wordBase (wordTotal bytes) = wordBase - 1 := by
  have hlow := residue_lt (show 2 ≤ wordBase by decide) (wordTotal bytes)
  rw [← UInt16.toNat_inj, computeInternetChecksum_eq, complement, UInt16.toNat_zero]
  omega

/-- **The checksums that validate** a header, at an even offset: the one computed over
zeros in its own place, and all ones where that one is zero. -/
theorem hasValidInternetChecksum_iff {front : List UInt8} (heven : front.length % 2 = 0)
    (stored : UInt16) (back : List UInt8) :
    hasValidInternetChecksum (front ++ (encode stored ++ back)) = true ↔
      stored = computeInternetChecksum (front ++ (zeros 2 ++ back)) ∨
        computeInternetChecksum (front ++ (zeros 2 ++ back)) = 0 ∧ stored = 0xFFFF := by
  have hzeros : wordTotal (front ++ (zeros 2 ++ back)) = wordTotal front + wordTotal back :=
    wordTotal_field heven (length_zeros 2) back
  have hnonempty : (front ++ (encode stored ++ back)).isEmpty = false := by
    simp [← List.length_eq_zero_iff]
  have htop : stored = 0xFFFF ↔ stored.toNat = wordBase - 1 := by
    rw [← UInt16.toNat_inj]
    rfl
  have hstored : stored.toNat < wordBase := stored.toNat_lt
  rw [hasValidInternetChecksum, hnonempty, Bool.not_false, Bool.true_and, beq_iff_eq,
    computeInternetChecksum_eq_zero, wordTotal_field heven (length_encode stored),
    wordTotal_encode, residue_add_eq_top (by decide) _ hstored,
    computeInternetChecksum_eq_zero, htop, ← UInt16.toNat_inj, computeInternetChecksum_eq, hzeros]

-- ---------------------------------------------------------------------------
-- Overflow
-- ---------------------------------------------------------------------------

/-- A 32-bit addition that does not wrap. -/
def AddsExactly (left right : UInt32) : Prop := left.toNat + right.toNat < 2 ^ 32

/-- The addition in `fold_carry` does not wrap. -/
def FoldsExactly (value : UInt32) : Prop :=
  AddsExactly (value &&& (0xFFFF : UInt32)) (value >>> (16 : UInt32))

/-- The additions of `checksumLoop`, one turn after the other. -/
def LoopsExactly (sum : UInt32) : List UInt8 → Prop
  | high :: low :: rest =>
    let word : UInt16 := (high.toUInt16 <<< 8) ||| low.toUInt16
    AddsExactly sum word.toUInt32 ∧ FoldsExactly (sum + word.toUInt32) ∧
      LoopsExactly (foldCarry (sum + word.toUInt32)) rest
  | [last] =>
    let finalWord : UInt16 := last.toUInt16 <<< 8
    AddsExactly sum finalWord.toUInt32 ∧ FoldsExactly (sum + finalWord.toUInt32)
  | [] => True

/-- All additions of `compute_internet_checksum`. -/
def NoOverflow (bytes : List UInt8) : Prop :=
  LoopsExactly 0 bytes ∧ FoldsExactly (checksumLoop 0 bytes)

theorem foldsExactly (value : UInt32) : FoldsExactly value := by
  have hlow : (value &&& (0xFFFF : UInt32)).toNat ≤ 0xFFFF := by
    rw [UInt32.toNat_and]
    exact Nat.and_le_right
  have hvalue := value.toNat_lt
  rw [FoldsExactly, AddsExactly, toNat_carry]
  omega

theorem addsExactly {sum : UInt32} {total : Nat} (hsum : sum.toNat = residue wordBase total)
    (word : UInt16) : AddsExactly sum word.toUInt32 := by
  have hlow := residue_lt (show 2 ≤ wordBase by decide) total
  have hword := word.toNat_lt
  rw [AddsExactly, hsum, UInt16.toNat_toUInt32]
  unfold wordBase at hlow ⊢
  omega

/-- Every turn of the loop starts from a word. -/
theorem loopsExactly (bytes : List UInt8) {sum : UInt32} {total : Nat}
    (hsum : sum.toNat = residue wordBase total) : LoopsExactly sum bytes := by
  induction bytes using wordTotal.induct generalizing sum total with
  | case1 high low rest ih =>
    refine ⟨addsExactly hsum _, foldsExactly _, ?_⟩
    refine ih (toNat_foldCarry_add hsum rfl ?_)
    rw [UInt16.toNat_toUInt32]
    exact UInt16.toNat_lt _
  | case2 last => exact ⟨addsExactly hsum _, foldsExactly _⟩
  | case3 => trivial

/-- **No addition overflows**, for octets of any number. -/
theorem noOverflow (bytes : List UInt8) : NoOverflow bytes :=
  ⟨@loopsExactly bytes 0 0 rfl, foldsExactly _⟩

-- ---------------------------------------------------------------------------
-- Detected changes
-- ---------------------------------------------------------------------------

theorem complete_of_valid {bytes : List UInt8} (h : hasValidInternetChecksum bytes = true) :
    residue wordBase (wordTotal bytes) = wordBase - 1 := by
  rw [hasValidInternetChecksum, Bool.and_eq_true, beq_iff_eq] at h
  exact computeInternetChecksum_eq_zero.mp h.2

/-- A changed word is detected, unless it changes from one zero to the other. -/
theorem unchanged_word {front : List UInt8} (heven : front.length % 2 = 0) {old new : UInt16}
    {back : List UInt8} (hold : hasValidInternetChecksum (front ++ (encode old ++ back)) = true)
    (hnew : hasValidInternetChecksum (front ++ (encode new ++ back)) = true) :
    old = new ∨ old = 0 ∧ new = 0xFFFF ∨ old = 0xFFFF ∧ new = 0 := by
  have holdTotal := complete_of_valid hold
  have hnewTotal := complete_of_valid hnew
  rw [wordTotal_field heven (length_encode _), wordTotal_encode] at holdTotal hnewTotal
  have hcases := residue_add_eq_top_unique (by decide) old.toNat_lt new.toNat_lt holdTotal hnewTotal
  rw [← UInt16.toNat_inj, ← UInt16.toNat_inj, ← UInt16.toNat_inj, ← UInt16.toNat_inj,
    ← UInt16.toNat_inj]
  exact hcases

/-- A changed odd last byte is always detected: as a word it is not all ones. -/
theorem unchanged_last {front : List UInt8} (heven : front.length % 2 = 0) {old new : UInt8}
    (hold : hasValidInternetChecksum (front ++ [old]) = true)
    (hnew : hasValidInternetChecksum (front ++ [new]) = true) : old = new := by
  have holdTotal := complete_of_valid hold
  have hnewTotal := complete_of_valid hnew
  have holdByte := old.toNat_lt
  have hnewByte := new.toNat_lt
  rw [wordTotal_append heven, wordTotal] at holdTotal hnewTotal
  have hcases := residue_add_eq_top_unique (by decide) (by unfold wordBase; omega)
    (by unfold wordBase; omega) holdTotal hnewTotal
  rw [← UInt8.toNat_inj]
  unfold wordBase at hcases
  omega

/-- **The checksum is the complement of the one's-complement sum of the words**, for octets of
any number and without overflow; written over zeros at an even offset it makes the octets
valid; and valid octets with one word changed are invalid, unless the change is between the
two zeros. -/
theorem internet_checksum :
    (∀ bytes : List UInt8, NoOverflow bytes ∧
      (computeInternetChecksum bytes).toNat =
        0xFFFF - if wordTotal bytes = 0 then 0 else (wordTotal bytes - 1) % 65535 + 1) ∧
    ∀ front back : List UInt8, front.length % 2 = 0 →
      hasValidInternetChecksum (front ++
        (encode (computeInternetChecksum (front ++ (zeros 2 ++ back))) ++ back)) = true ∧
      (∀ old new : UInt16, hasValidInternetChecksum (front ++ (encode old ++ back)) = true →
        old ≠ new → ¬ (old = 0 ∧ new = 0xFFFF ∨ old = 0xFFFF ∧ new = 0) →
        hasValidInternetChecksum (front ++ (encode new ++ back)) = false) ∧
      ∀ old new : UInt8, hasValidInternetChecksum (front ++ [old]) = true → old ≠ new →
        hasValidInternetChecksum (front ++ [new]) = false := by
  refine ⟨fun bytes => ⟨noOverflow bytes, computeInternetChecksum_eq bytes⟩, ?_⟩
  intro front back heven
  refine ⟨(hasValidInternetChecksum_iff heven _ back).mpr (Or.inl rfl), ?_, ?_⟩
  · intro old new hold hne hzeros
    rw [← Bool.not_eq_true]
    intro hnew
    exact (unchanged_word heven hold hnew).elim hne hzeros
  · intro old new hold hne
    rw [← Bool.not_eq_true]
    exact fun hnew => hne (unchanged_last heven hold hnew)

end SiliconSwitch.Network
