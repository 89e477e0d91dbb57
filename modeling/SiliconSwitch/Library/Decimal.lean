import Mathlib.Tactic

/-!
# Canonical decimal text

Numbers written in decimal digits, as strings of ASCII octets.

* `decimal n`              — the digits of a number, without leading zeros;
* `decimalValue start text` — the number that digits spell after `start`;
* `Canonical text`         — digits, at least one of them, and no leading zero;
* `decimal_decimalValue`   — a canonical text is the decimal of the number that it spells.
-/

namespace SiliconSwitch.Library

/-- The octet of a digit. -/
def digitOctet (digit : Nat) : UInt8 := UInt8.ofNat (48 + digit)

def zeroOctet : UInt8 := 48

def decimal (n : Nat) : List UInt8 := (Nat.toDigits 10 n).map fun digit => UInt8.ofNat digit.toNat

def IsDigit (octet : UInt8) : Prop := 48 ≤ octet ∧ octet ≤ 57

instance (octet : UInt8) : Decidable (IsDigit octet) := inferInstanceAs (Decidable (_ ∧ _))

/-- The number that `text` spells behind the digits of `start`. -/
def decimalValue (start : Nat) (text : List UInt8) : Nat :=
  text.foldl (fun value octet => value * 10 + (octet.toNat - 48)) start

/-- Digits, at least one of them, that do not begin with a zero in front of another. -/
structure Canonical (text : List UInt8) : Prop where
  ne_nil : text ≠ []
  digits : ∀ octet ∈ text, IsDigit octet
  leading : 1 < text.length → text.head? ≠ some zeroOctet

-- ---------------------------------------------------------------------------
-- Digits
-- ---------------------------------------------------------------------------

theorem isDigit_iff {octet : UInt8} : IsDigit octet ↔ 48 ≤ octet.toNat ∧ octet.toNat ≤ 57 := by
  rw [IsDigit, UInt8.le_iff_toNat_le, UInt8.le_iff_toNat_le]
  exact Iff.rfl

theorem toNat_digitOctet {digit : Nat} (h : digit < 10) :
    (digitOctet digit).toNat = 48 + digit := by
  rw [digitOctet, UInt8.toNat_ofNat']
  omega

theorem isDigit_digitOctet {digit : Nat} (h : digit < 10) : IsDigit (digitOctet digit) := by
  rw [isDigit_iff, toNat_digitOctet h]
  omega

theorem digitOctet_of_isDigit {octet : UInt8} (h : IsDigit octet) :
    digitOctet (octet.toNat - 48) = octet := by
  rw [isDigit_iff] at h
  rw [digitOctet, Nat.add_sub_cancel' h.1, UInt8.ofNat_toNat]

theorem decimalValue_cons (start : Nat) (octet : UInt8) (rest : List UInt8) :
    decimalValue start (octet :: rest) =
      decimalValue (start * 10 + (octet.toNat - 48)) rest := List.foldl_cons ..

theorem decimalValue_concat (start : Nat) (front : List UInt8) (octet : UInt8) :
    decimalValue start (front ++ [octet]) =
      decimalValue start front * 10 + (octet.toNat - 48) := by
  rw [decimalValue, List.foldl_append]
  rfl

/-- More digits never spell less. -/
theorem le_decimalValue (start : Nat) (text : List UInt8) : start ≤ decimalValue start text := by
  induction text generalizing start with
  | nil => exact Nat.le_refl start
  | cons octet rest ih =>
    rw [decimalValue_cons]
    have hrest := ih (start * 10 + (octet.toNat - 48))
    omega

-- ---------------------------------------------------------------------------
-- Decimals
-- ---------------------------------------------------------------------------

/-- The last digit stands behind the decimal of the rest, if there is a rest. -/
theorem decimal_eq (n : Nat) :
    decimal n = if n < 10 then [digitOctet n] else decimal (n / 10) ++ [digitOctet (n % 10)] := by
  rw [decimal, Nat.toDigits_eq_if (by decide)]
  split
  · rename_i hsmall
    rw [List.map_singleton, Nat.toNat_digitChar_of_lt_ten hsmall, digitOctet]
  · rw [List.map_append, List.map_singleton,
      Nat.toNat_digitChar_of_lt_ten (Nat.mod_lt n (by decide)), decimal, digitOctet]

theorem decimal_ne_nil (n : Nat) : decimal n ≠ [] := by
  rw [decimal, Ne, List.map_eq_nil_iff]
  exact Nat.toDigits_ne_nil

theorem length_decimal_le_iff (n : Nat) {count : Nat} (h : 0 < count) :
    (decimal n).length ≤ count ↔ n < 10 ^ count := by
  rw [decimal, List.length_map]
  exact Nat.length_toDigits_le_iff (by decide) h

@[simp] theorem decimalValue_decimal (n : Nat) : decimalValue 0 (decimal n) = n := by
  induction n using Nat.strong_induction_on with
  | _ n ih =>
    rw [decimal_eq]
    split
    · rename_i hsmall
      rw [decimalValue_cons, toNat_digitOctet hsmall, decimalValue, List.foldl_nil]
      omega
    · rw [decimalValue_concat, ih (n / 10) (by omega),
        toNat_digitOctet (Nat.mod_lt n (by decide))]
      omega

theorem isDigit_of_mem_decimal {n : Nat} {octet : UInt8} (h : octet ∈ decimal n) :
    IsDigit octet := by
  induction n using Nat.strong_induction_on with
  | _ n ih =>
    rw [decimal_eq] at h
    split at h
    · rename_i hsmall
      rw [List.mem_singleton] at h
      rw [h]
      exact isDigit_digitOctet hsmall
    · rw [List.mem_append, List.mem_singleton] at h
      rcases h with hfront | hlast
      · exact ih (n / 10) (by omega) hfront
      · rw [hlast]
        exact isDigit_digitOctet (Nat.mod_lt n (by decide))

/-- Only the decimal of zero begins with a zero. -/
theorem head?_decimal {n : Nat} (h : 0 < n) : (decimal n).head? ≠ some zeroOctet := by
  induction n using Nat.strong_induction_on with
  | _ n ih =>
    rw [decimal_eq]
    split
    · rename_i hsmall
      rw [List.head?_cons, Ne, Option.some.injEq, ← UInt8.toNat_inj, toNat_digitOctet hsmall]
      show ¬ 48 + n = 48
      omega
    · rw [List.head?_append_of_ne_nil _ (decimal_ne_nil _)]
      exact ih (n / 10) (by omega) (by omega)

theorem canonical_decimal (n : Nat) : Canonical (decimal n) where
  ne_nil := decimal_ne_nil n
  digits := fun _ => isDigit_of_mem_decimal
  leading := by
    intro hlong
    apply head?_decimal
    by_contra hzero
    have hshort := (length_decimal_le_iff n (by decide : 0 < 1)).mpr (by omega)
    omega

-- ---------------------------------------------------------------------------
-- Canonical texts
-- ---------------------------------------------------------------------------

/-- Digits that do not begin with a zero spell a positive number. -/
theorem decimalValue_pos {text : List UInt8} (hdigits : ∀ octet ∈ text, IsDigit octet)
    (hne : text ≠ []) (hleading : text.head? ≠ some zeroOctet) : 0 < decimalValue 0 text := by
  obtain ⟨octet, rest, rfl⟩ := List.exists_cons_of_ne_nil hne
  have hdigit := isDigit_iff.mp (hdigits octet List.mem_cons_self)
  rw [List.head?_cons, Ne, Option.some.injEq, ← UInt8.toNat_inj] at hleading
  have hzero : zeroOctet.toNat = 48 := rfl
  have hle := le_decimalValue (0 * 10 + (octet.toNat - 48)) rest
  rw [decimalValue_cons]
  omega

/-- **A canonical text is the decimal of its value.** -/
theorem decimal_decimalValue {text : List UInt8} (h : Canonical text) :
    decimal (decimalValue 0 text) = text := by
  induction text using List.reverseRecOn with
  | nil => exact absurd rfl h.ne_nil
  | append_singleton front octet ih =>
    have hdigit : IsDigit octet := h.digits octet (by simp)
    have hbounds := isDigit_iff.mp hdigit
    rw [decimalValue_concat]
    by_cases hfront : front = []
    · rw [hfront, decimalValue, List.foldl_nil, Nat.zero_mul, Nat.zero_add, decimal_eq,
        if_pos (by omega), digitOctet_of_isDigit hdigit]
      rfl
    · -- the front is canonical, and does not begin with a zero
      have hdigits : ∀ other ∈ front, IsDigit other := fun other hother =>
        h.digits other (List.mem_append_left _ hother)
      have hleading : front.head? ≠ some zeroOctet := by
        have hlong : 1 < (front ++ [octet]).length := by
          have hpos := List.length_pos_iff.mpr hfront
          rw [List.length_append, List.length_singleton]
          omega
        have hhead := h.leading hlong
        rwa [List.head?_append_of_ne_nil _ hfront] at hhead
      have hpos := decimalValue_pos hdigits hfront hleading
      have hvalue := ih ⟨hfront, hdigits, fun _ => hleading⟩
      generalize decimalValue 0 front = value at hpos hvalue
      have hquotient : (value * 10 + (octet.toNat - 48)) / 10 = value := by omega
      have hremainder : (value * 10 + (octet.toNat - 48)) % 10 = octet.toNat - 48 := by omega
      rw [decimal_eq, if_neg (by omega), hquotient, hremainder, hvalue,
        digitOctet_of_isDigit hdigit]

end SiliconSwitch.Library
