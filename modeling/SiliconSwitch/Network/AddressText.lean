import Mathlib.Data.List.TakeWhile
import SiliconSwitch.Library.Decimal
import SiliconSwitch.Network.Address

/-!
# Address and prefix text

`Ipv4Address::parse` and `to_string`, and the same of `Ipv4Prefix`, over strings of
octets. A position in the text is the rest of the text from there.

* `parseOctet_eq_some`           — one turn of the loop takes a canonical decimal;
* `Ipv4Address.parse_eq_some`    — `parse` accepts exactly what `to_string` writes;
* `Ipv4Prefix.parse_eq_some`     — the grammar of prefixes;
* `address_text`                 — so both texts are canonical.
-/

namespace SiliconSwitch.Network

open SiliconSwitch.Library

def dotOctet : UInt8 := 46
def slashOctet : UInt8 := 47

-- ---------------------------------------------------------------------------
-- Addresses
-- ---------------------------------------------------------------------------

namespace Ipv4Address

def octetCount : Nat := 4

/-- The constructor from `Octets`. -/
def ofOctets (first second third fourth : UInt8) : Ipv4Address :=
  ⟨(first.toUInt32 <<< 24) ||| (second.toUInt32 <<< 16) ||| (third.toUInt32 <<< 8) |||
    fourth.toUInt32⟩

def octets (address : Ipv4Address) : List UInt8 :=
  [(address.value >>> 24).toUInt8, ((address.value >>> 16) &&& 0xFF).toUInt8,
    ((address.value >>> 8) &&& 0xFF).toUInt8, (address.value &&& 0xFF).toUInt8]

/-- The inner loop of `parse`, with the value and the count of the digits so far. -/
def scanOctet : List UInt8 → UInt16 → Nat → Option (UInt16 × Nat × List UInt8)
  | [], octetValue, digitCount => some (octetValue, digitCount, [])
  | character :: rest, octetValue, digitCount =>
    if character = dotOctet then some (octetValue, digitCount, character :: rest)
    else if ¬ IsDigit character then none
    else if digitCount = 3 then none
    else
      let octetValue := octetValue * 10 + (character - zeroOctet).toUInt16
      if octetValue > 255 then none else scanOctet rest octetValue (digitCount + 1)

/-- One turn of the loop over the octets, up to the separator. -/
def parseOctet (text : List UInt8) : Option (UInt8 × List UInt8) :=
  if text = [] then none
  else
    match scanOctet text 0 0 with
    | none => none
    | some (octetValue, digitCount, rest) =>
      if digitCount = 0 then none
      else if digitCount > 1 ∧ text.head? = some zeroOctet then none
      else some (octetValue.toUInt8, rest)

/-- The loop, with the octets that are still to come. -/
def parseOctets : Nat → List UInt8 → Option (List UInt8)
  | 0, _ => some []
  | remaining + 1, text =>
    match parseOctet text with
    | none => none
    | some (octet, rest) =>
      if remaining = 0 then (if rest ≠ [] then none else some [octet])
      else
        match rest with
        | [] => none
        | character :: rest =>
          if character ≠ dotOctet then none
          else (parseOctets remaining rest).map fun octets => octet :: octets

def parse (text : List UInt8) : Option Ipv4Address :=
  match parseOctets octetCount text with
  | some [first, second, third, fourth] => some (ofOctets first second third fourth)
  | _ => none

/-- The loop of `to_string`: a dot behind every octet but the last. -/
def octetsText : List UInt8 → List UInt8
  | [] => []
  | [octet] => decimal octet.toNat
  | octet :: next :: rest => decimal octet.toNat ++ dotOctet :: octetsText (next :: rest)

def toString (address : Ipv4Address) : List UInt8 := octetsText address.octets

-- ---------------------------------------------------------------------------
-- Octets
-- ---------------------------------------------------------------------------

/-- Bits that are shifted past others are added to them. -/
theorem shiftLeft_or {low count : Nat} (h : low < 2 ^ count) (high : Nat) :
    high <<< count ||| low = high * 2 ^ count + low := by
  rw [← Nat.shiftLeft_add_eq_or_of_lt h, Nat.shiftLeft_eq]

theorem toNat_ofOctets (first second third fourth : UInt8) :
    (ofOctets first second third fourth).value.toNat =
      first.toNat * 2 ^ 24 + second.toNat * 2 ^ 16 + third.toNat * 2 ^ 8 + fourth.toNat := by
  have hfirst := first.toNat_lt
  have hsecond := second.toNat_lt
  have hthird := third.toNat_lt
  have hfourth := fourth.toNat_lt
  -- no octet is shifted out of the word
  have hshift : ∀ octet count : Nat, octet < 2 ^ 8 → count ≤ 24 →
      octet <<< count % 2 ^ 32 = octet <<< count := by
    intro octet count hoctet hcount
    rw [Nat.shiftLeft_eq]
    refine Nat.mod_eq_of_lt (Nat.lt_of_lt_of_le
      (Nat.mul_lt_mul_of_pos_right hoctet (Nat.two_pow_pos count)) ?_)
    rw [← Nat.pow_add]
    exact Nat.pow_le_pow_right (by decide) (by omega)
  have hlow := shiftLeft_or hfourth third.toNat
  have hmiddle := shiftLeft_or
    (show third.toNat * 2 ^ 8 + fourth.toNat < 2 ^ 16 by omega) second.toNat
  have hhigh := shiftLeft_or
    (show second.toNat * 2 ^ 16 + (third.toNat * 2 ^ 8 + fourth.toNat) < 2 ^ 24 by omega)
    first.toNat
  show ((first.toUInt32 <<< 24 ||| second.toUInt32 <<< 16) ||| third.toUInt32 <<< 8 |||
    fourth.toUInt32).toNat = _
  simp only [UInt32.toNat_or, UInt32.toNat_shiftLeft, UInt8.toNat_toUInt32]
  show first.toNat <<< 24 % 2 ^ 32 ||| second.toNat <<< 16 % 2 ^ 32 |||
    third.toNat <<< 8 % 2 ^ 32 ||| fourth.toNat = _
  rw [hshift _ _ hfirst (by decide), hshift _ _ hsecond (by decide), hshift _ _ hthird (by decide),
    Nat.or_assoc, Nat.or_assoc, hlow, hmiddle, hhigh]
  omega

/-- The octets of an address are the digits of its value in base 256. -/
theorem octets_eq (address : Ipv4Address) :
    address.octets = [UInt8.ofNat (address.value.toNat / 2 ^ 24),
      UInt8.ofNat (address.value.toNat / 2 ^ 16 % 256),
      UInt8.ofNat (address.value.toNat / 2 ^ 8 % 256), UInt8.ofNat (address.value.toNat % 256)] := by
  have hmask : ∀ word : UInt32, (word &&& 0xFF).toUInt8 = UInt8.ofNat (word.toNat % 256) := by
    intro word
    rw [← UInt8.toNat_inj, UInt32.toNat_toUInt8, UInt32.toNat_and, UInt8.toNat_ofNat']
    have hand : word.toNat &&& (0xFF : UInt32).toNat = word.toNat % 2 ^ 8 :=
      Nat.and_two_pow_sub_one_eq_mod word.toNat 8
    rw [hand]
    rfl
  have hshift : ∀ count : UInt32, count.toNat < 32 →
      (address.value >>> count).toNat = address.value.toNat / 2 ^ count.toNat := by
    intro count hcount
    rw [UInt32.toNat_shiftRight, Nat.mod_eq_of_lt hcount, Nat.shiftRight_eq_div_pow]
  have hfirst : (address.value >>> 24).toUInt8 = UInt8.ofNat (address.value.toNat / 2 ^ 24) := by
    rw [← UInt8.toNat_inj, UInt32.toNat_toUInt8, hshift 24 (by decide), UInt8.toNat_ofNat']
    rfl
  rw [octets, hfirst, hmask, hmask, hmask, hshift 16 (by decide), hshift 8 (by decide)]
  rfl

theorem octets_ofOctets (first second third fourth : UInt8) :
    (ofOctets first second third fourth).octets = [first, second, third, fourth] := by
  have hfirst := first.toNat_lt
  have hsecond := second.toNat_lt
  have hthird := third.toNat_lt
  have hfourth := fourth.toNat_lt
  rw [octets_eq, toNat_ofOctets, List.cons.injEq, List.cons.injEq, List.cons.injEq,
    List.cons.injEq]
  refine ⟨?_, ?_, ?_, ?_, rfl⟩
  all_goals
    rw [← UInt8.toNat_inj, UInt8.toNat_ofNat']
    omega

/-- Every address has four octets, and is built from them. -/
theorem exists_octets (address : Ipv4Address) :
    ∃ first second third fourth, address.octets = [first, second, third, fourth] ∧
      ofOctets first second third fourth = address := by
  refine ⟨_, _, _, _, octets_eq address, ?_⟩
  obtain ⟨value⟩ := address
  rw [Ipv4Address.mk.injEq, ← UInt32.toNat_inj, toNat_ofOctets]
  have hvalue := value.toNat_lt
  simp only [UInt8.toNat_ofNat']
  omega

-- ---------------------------------------------------------------------------
-- The scanning loop
-- ---------------------------------------------------------------------------

theorem not_isDigit_dotOctet : ¬ IsDigit dotOctet := by decide

/-- The value that a further digit makes, as the code computes it. -/
theorem toNat_append_digit {octetValue : UInt16} (hvalue : octetValue.toNat ≤ 255)
    {character : UInt8} (hdigit : IsDigit character) :
    (octetValue * 10 + (character - zeroOctet).toUInt16).toNat =
      octetValue.toNat * 10 + (character.toNat - 48) := by
  obtain ⟨hlow, hhigh⟩ := isDigit_iff.mp hdigit
  have hdifference : (character - zeroOctet).toNat = character.toNat - 48 :=
    UInt8.toNat_sub_of_le _ _ (UInt8.le_iff_toNat_le.mpr hlow)
  have hten : (10 : UInt16).toNat = 10 := rfl
  rw [UInt16.toNat_add, UInt16.toNat_mul, UInt8.toNat_toUInt16, hdifference, hten]
  omega

/-- One turn of the inner loop: it stops at a dot, and goes on past a digit. -/
theorem scanOctet_cons {character : UInt8} {rest : List UInt8} {octetValue : UInt16}
    {digitCount : Nat} {result : UInt16 × Nat × List UInt8} :
    scanOctet (character :: rest) octetValue digitCount = some result ↔
      (character = dotOctet ∧ result = (octetValue, digitCount, character :: rest)) ∨
      (IsDigit character ∧ digitCount ≠ 3 ∧
        octetValue * 10 + (character - zeroOctet).toUInt16 ≤ 255 ∧
        scanOctet rest (octetValue * 10 + (character - zeroOctet).toUInt16) (digitCount + 1) =
          some result) := by
  rw [scanOctet]
  by_cases hdot : character = dotOctet
  · rw [if_pos hdot, Option.some.injEq, eq_comm, hdot]
    simp only [true_and, not_isDigit_dotOctet, false_and, or_false]
  · rw [if_neg hdot]
    by_cases hdigit : IsDigit character
    · rw [if_neg (not_not.mpr hdigit), Option.ite_none_left_eq_some, Option.ite_none_left_eq_some,
        gt_iff_lt, UInt16.not_lt]
      simp only [hdot, hdigit, false_and, true_and, false_or, ne_eq]
    · rw [if_pos hdigit]
      simp only [hdot, hdigit, false_and, reduceCtorEq, or_self]

/-- **What the inner loop takes**: digits up to a dot or the end, at most three of them, that
spell an octet behind the digits so far. -/
theorem scanOctet_eq_some {text after : List UInt8} {octetValue result : UInt16}
    {digitCount digits : Nat} (hvalue : octetValue.toNat ≤ 255) (hcount : digitCount ≤ 3) :
    scanOctet text octetValue digitCount = some (result, digits, after) ↔
      ∃ taken, text = taken ++ after ∧ (∀ character ∈ taken, IsDigit character) ∧
        (∀ character ∈ after.head?, character = dotOctet) ∧
        digits = digitCount + taken.length ∧ digits ≤ 3 ∧
        result.toNat = decimalValue octetValue.toNat taken ∧ result.toNat ≤ 255 := by
  induction text generalizing octetValue digitCount with
  | nil =>
    rw [scanOctet, Option.some.injEq, Prod.mk.injEq, Prod.mk.injEq]
    constructor
    · rintro ⟨rfl, rfl, rfl⟩
      exact ⟨[], rfl, by simp, by simp, rfl, hcount, rfl, hvalue⟩
    · rintro ⟨taken, hsplit, _, _, hdigits, _, hresult, _⟩
      obtain ⟨rfl, rfl⟩ := List.append_eq_nil_iff.mp hsplit.symm
      exact ⟨(UInt16.toNat_inj.mp hresult).symm, hdigits.symm, rfl⟩
  | cons character rest ih =>
    rw [scanOctet_cons, Prod.mk.injEq, Prod.mk.injEq]
    constructor
    · rintro (⟨hdot, rfl, rfl, rfl⟩ | ⟨hdigit, hthree, hsmall, hrest⟩)
      · exact ⟨[], rfl, by simp, by simpa using hdot, rfl, hcount, rfl, hvalue⟩
      · have hnext := toNat_append_digit hvalue hdigit
        have hbound : octetValue.toNat * 10 + (character.toNat - 48) ≤ 255 :=
          hnext ▸ UInt16.le_iff_toNat_le.mp hsmall
        rw [ih (hnext ▸ hbound) (by omega), hnext] at hrest
        obtain ⟨others, hsplit, hothers, hafter, hdigits, hle, hresult, hoctet⟩ := hrest
        refine ⟨character :: others, by rw [hsplit, List.cons_append],
          List.forall_mem_cons.mpr ⟨hdigit, hothers⟩, hafter, ?_, hle, hresult, hoctet⟩
        rw [hdigits, List.length_cons]
        omega
    · rintro ⟨taken, hsplit, htaken, hafter, hdigits, hle, hresult, hoctet⟩
      cases taken with
      | nil =>
        rw [List.nil_append] at hsplit
        rw [← hsplit] at hafter
        exact Or.inl ⟨hafter character rfl, UInt16.toNat_inj.mp hresult, hdigits, hsplit.symm⟩
      | cons first others =>
        rw [List.cons_append, List.cons.injEq] at hsplit
        obtain ⟨rfl, hrest⟩ := hsplit
        obtain ⟨hdigit, hothers⟩ := List.forall_mem_cons.mp htaken
        have hnext := toNat_append_digit hvalue hdigit
        rw [List.length_cons] at hdigits
        rw [decimalValue_cons] at hresult
        have hbound : octetValue.toNat * 10 + (character.toNat - 48) ≤ 255 := by
          have hgrows := le_decimalValue (octetValue.toNat * 10 + (character.toNat - 48)) others
          omega
        refine Or.inr ⟨hdigit, by omega, UInt16.le_iff_toNat_le.mpr (hnext ▸ hbound), ?_⟩
        rw [ih (hnext ▸ hbound) (by omega), hnext]
        exact ⟨others, hrest, hothers, hafter, by omega, hle, hresult, hoctet⟩

/-- **One turn of the loop** takes the canonical decimal of an octet, up to a dot or the end. -/
theorem parseOctet_eq_some {text rest : List UInt8} {octet : UInt8} :
    parseOctet text = some (octet, rest) ↔
      text = decimal octet.toNat ++ rest ∧ ∀ character ∈ rest.head?, character = dotOctet := by
  rw [parseOctet]
  constructor
  · intro h
    rw [Option.ite_none_left_eq_some] at h
    obtain ⟨_, h⟩ := h
    cases hscan : scanOctet text 0 0 with
    | none =>
      rw [hscan] at h
      simp at h
    | some scanned =>
      obtain ⟨result, digits, after⟩ := scanned
      rw [hscan] at h
      dsimp only at h
      rw [Option.ite_none_left_eq_some, Option.ite_none_left_eq_some, Option.some.injEq,
        Prod.mk.injEq] at h
      obtain ⟨hsome, hleading, hoctet, rfl⟩ := h
      obtain ⟨taken, hsplit, htaken, hafter, hdigits, _, hresult, hbound⟩ :=
        (scanOctet_eq_some (by decide) (by decide)).mp hscan
      have hne : taken ≠ [] := by
        rw [← List.length_pos_iff]
        omega
      have hcanonical : Canonical taken := by
        refine ⟨hne, htaken, fun hlong hzero => hleading ⟨by omega, ?_⟩⟩
        rw [hsplit, List.head?_append_of_ne_nil _ hne]
        exact hzero
      have hvalue : octet.toNat = decimalValue 0 taken := by
        rw [← hoctet, UInt16.toNat_toUInt8, hresult]
        exact Nat.mod_eq_of_lt (by rw [← hresult]; omega)
      rw [hvalue, decimal_decimalValue hcanonical]
      exact ⟨hsplit, hafter⟩
  · rintro ⟨hsplit, hafter⟩
    have hoctet := octet.toNat_lt
    have hlength := (length_decimal_le_iff octet.toNat (by decide : 0 < 3)).mpr (by omega)
    have hpos := List.length_pos_iff.mpr (decimal_ne_nil octet.toNat)
    have hscan : scanOctet text 0 0 =
        some (octet.toUInt16, (decimal octet.toNat).length, rest) := by
      refine (scanOctet_eq_some (by decide) (by decide)).mpr ⟨decimal octet.toNat, hsplit,
        fun _ => isDigit_of_mem_decimal, hafter, (Nat.zero_add _).symm, hlength, ?_, ?_⟩
      · exact (decimalValue_decimal octet.toNat).symm
      · rw [UInt8.toNat_toUInt16]
        omega
    have hleading : ¬ ((decimal octet.toNat).length > 1 ∧ text.head? = some zeroOctet) := by
      rintro ⟨hlong, hzero⟩
      rw [hsplit, List.head?_append_of_ne_nil _ (decimal_ne_nil _)] at hzero
      exact (canonical_decimal octet.toNat).leading hlong hzero
    have hne : text ≠ [] := by
      rw [hsplit]
      exact List.append_ne_nil_of_left_ne_nil (decimal_ne_nil _) _
    rw [if_neg hne, hscan]
    dsimp only
    rw [if_neg (by omega), if_neg hleading]
    simp

-- ---------------------------------------------------------------------------
-- The text of an address
-- ---------------------------------------------------------------------------

theorem octetsText_cons (octet : UInt8) {rest : List UInt8} (hne : rest ≠ []) :
    octetsText (octet :: rest) = decimal octet.toNat ++ dotOctet :: octetsText rest := by
  cases rest with
  | nil => exact absurd rfl hne
  | cons next rest => rfl

/-- **The loop over the octets** takes the texts of as many octets, and nothing else. -/
theorem parseOctets_eq_some {remaining : Nat} {text octets : List UInt8} :
    parseOctets (remaining + 1) text = some octets ↔
      octets.length = remaining + 1 ∧ text = octetsText octets := by
  induction remaining generalizing text octets with
  | zero =>
    rw [parseOctets]
    constructor
    · intro h
      cases hoctet : parseOctet text with
      | none =>
        rw [hoctet] at h
        simp at h
      | some parsed =>
        obtain ⟨octet, rest⟩ := parsed
        rw [hoctet] at h
        dsimp only at h
        rw [if_pos rfl, Option.ite_none_left_eq_some, not_not, Option.some.injEq] at h
        obtain ⟨rfl, rfl⟩ := h
        obtain ⟨htext, _⟩ := parseOctet_eq_some.mp hoctet
        rw [List.append_nil] at htext
        exact ⟨rfl, htext⟩
    · rintro ⟨hlength, htext⟩
      obtain ⟨octet, rfl⟩ := List.length_eq_one_iff.mp hlength
      have hoctet : parseOctet text = some (octet, []) :=
        parseOctet_eq_some.mpr ⟨by rw [htext, octetsText, List.append_nil], by simp⟩
      rw [hoctet]
      rfl
  | succ remaining ih =>
    rw [parseOctets]
    constructor
    · intro h
      cases hoctet : parseOctet text with
      | none =>
        rw [hoctet] at h
        simp at h
      | some parsed =>
        obtain ⟨octet, rest⟩ := parsed
        rw [hoctet] at h
        dsimp only at h
        rw [if_neg (Nat.succ_ne_zero remaining)] at h
        obtain ⟨htext, hdot⟩ := parseOctet_eq_some.mp hoctet
        cases rest with
        | nil => simp at h
        | cons character rest =>
          dsimp only at h
          rw [Option.ite_none_left_eq_some, Option.map_eq_some_iff] at h
          obtain ⟨_, others, hothers, rfl⟩ := h
          obtain ⟨hlength, hrest⟩ := ih.mp hothers
          have hne : others ≠ [] := by
            rw [← List.length_pos_iff]
            omega
          rw [octetsText_cons octet hne, ← hrest, htext, hdot character rfl, List.length_cons,
            hlength]
          exact ⟨rfl, rfl⟩
    · rintro ⟨hlength, htext⟩
      obtain ⟨octet, others, rfl⟩ := List.exists_cons_of_length_eq_add_one hlength
      rw [List.length_cons, Nat.add_right_cancel_iff] at hlength
      have hne : others ≠ [] := by
        rw [← List.length_pos_iff]
        omega
      rw [octetsText_cons octet hne] at htext
      have hoctet : parseOctet text = some (octet, dotOctet :: octetsText others) :=
        parseOctet_eq_some.mpr ⟨htext, by simp⟩
      rw [hoctet]
      dsimp only
      rw [if_neg (Nat.succ_ne_zero remaining), if_neg (by simp), ih.mpr ⟨hlength, rfl⟩]
      rfl

/-- **`parse` accepts exactly what `to_string` writes.** -/
theorem parse_eq_some {text : List UInt8} {address : Ipv4Address} :
    parse text = some address ↔ text = address.toString := by
  rw [parse, octetCount, toString]
  constructor
  · intro h
    split at h
    · rename_i first second third fourth hoctets
      rw [Option.some.injEq] at h
      rw [← h, octets_ofOctets]
      exact (parseOctets_eq_some.mp hoctets).2
    · simp at h
  · intro htext
    obtain ⟨first, second, third, fourth, hoctets, haddress⟩ := address.exists_octets
    rw [hoctets] at htext
    have hparsed : parseOctets 4 text = some [first, second, third, fourth] :=
      parseOctets_eq_some.mpr ⟨rfl, htext⟩
    rw [hparsed]
    exact congrArg some haddress

/-- The text of an address consists of digits and dots. -/
theorem mem_toString {address : Ipv4Address} {character : UInt8}
    (h : character ∈ address.toString) : IsDigit character ∨ character = dotOctet := by
  obtain ⟨first, second, third, fourth, hoctets, _⟩ := address.exists_octets
  rw [toString, hoctets] at h
  simp only [octetsText, List.mem_append, List.mem_cons] at h
  rcases h with h | rfl | h | rfl | h | rfl | h
  · exact Or.inl (isDigit_of_mem_decimal h)
  · exact Or.inr rfl
  · exact Or.inl (isDigit_of_mem_decimal h)
  · exact Or.inr rfl
  · exact Or.inl (isDigit_of_mem_decimal h)
  · exact Or.inr rfl
  · exact Or.inl (isDigit_of_mem_decimal h)

end Ipv4Address

-- ---------------------------------------------------------------------------
-- Prefixes
-- ---------------------------------------------------------------------------

inductive Errc
  | invalidArgument
  | resultOutOfRange
deriving DecidableEq

/-- What `from_chars` leaves: the value, the text that it has not read, and the error. -/
structure FromCharsResult where
  value : UInt32
  rest : List UInt8
  errc : Option Errc
deriving DecidableEq

/-- `std::from_chars` for an `unsigned int`: the digits at the front of the text, without a
sign. A failure leaves the value as it was. -/
def fromChars (text : List UInt8) (value : UInt32) : FromCharsResult :=
  let digits := text.takeWhile fun character => IsDigit character
  if digits = [] then ⟨value, text, some .invalidArgument⟩
  else if decimalValue 0 digits ≥ 2 ^ 32 then
    ⟨value, text.drop digits.length, some .resultOutOfRange⟩
  else ⟨UInt32.ofNat (decimalValue 0 digits), text.drop digits.length, none⟩

namespace Ipv4Prefix

def parse (text : List UInt8) : Option Ipv4Prefix :=
  match text.findIdx? fun character => character = slashOctet with
  | none => none
  | some separatorPosition =>
    if slashOctet ∈ text.drop (separatorPosition + 1) then none
    else
      let addressText := text.take separatorPosition
      let lengthText := text.drop (separatorPosition + 1)
      match Ipv4Address.parse addressText with
      | none => none
      | some address =>
        if lengthText = [] ∨ (lengthText.length > 1 ∧ lengthText.head? = some zeroOctet) then none
        else
          let conversion := fromChars lengthText 0
          if conversion.errc ≠ none ∨ conversion.rest ≠ [] ∨ conversion.value > 32 then none
          else create address conversion.value.toUInt8

def toString (net : Ipv4Prefix) : List UInt8 :=
  net.networkAddress.toString ++ [slashOctet] ++ decimal net.length.toNat

end Ipv4Prefix

-- ---------------------------------------------------------------------------
-- The text of a prefix
-- ---------------------------------------------------------------------------

/-- The first place of a character in a text. -/
theorem findIdx?_character {text : List UInt8} {character : UInt8} {position : Nat} :
    (text.findIdx? fun other => other = character) = some position ↔
      ∃ front back, text = front ++ character :: back ∧ character ∉ front ∧
        position = front.length := by
  constructor
  · intro h
    obtain ⟨hlt, hfound, hbefore⟩ := List.findIdx?_eq_some_iff_getElem.mp h
    refine ⟨text.take position, text.drop (position + 1), ?_, fun hmem => ?_, ?_⟩
    · rw [← of_decide_eq_true hfound, List.getElem_cons_drop, List.take_append_drop]
    · obtain ⟨index, hindex, heq⟩ := List.mem_take_iff_getElem.mp hmem
      exact hbefore index (by omega) (decide_eq_true heq)
    · exact (List.length_take_of_le hlt.le).symm
  · rintro ⟨front, back, rfl, habsent, rfl⟩
    have hnone : (front.findIdx? fun other => other = character) = none := by
      rw [List.findIdx?_eq_none_iff]
      intro other hother
      exact decide_eq_false fun heq => habsent (heq ▸ hother)
    rw [List.findIdx?_append, hnone, List.findIdx?_cons, if_pos (decide_eq_true rfl),
      Option.none_or, Option.map_some, Nat.zero_add]

/-- `from_chars` reads a text to its end, without an error, if it is a number in digits that
fits the integer. -/
theorem fromChars_eq_iff {text : List UInt8} {value result : UInt32} :
    fromChars text value = ⟨result, [], none⟩ ↔
      text ≠ [] ∧ (∀ character ∈ text, IsDigit character) ∧ decimalValue 0 text < 2 ^ 32 ∧
        result = UInt32.ofNat (decimalValue 0 text) := by
  rw [fromChars]
  constructor
  · intro h
    split_ifs at h with hnone hlarge
    · simp at h
    · simp at h
    · rw [FromCharsResult.mk.injEq, List.drop_eq_nil_iff] at h
      obtain ⟨hresult, hread, -⟩ := h
      have hall : (text.takeWhile fun character => IsDigit character) = text :=
        (List.takeWhile_prefix _).eq_of_length_le hread
      rw [hall] at hnone hlarge hresult
      rw [List.takeWhile_eq_self_iff] at hall
      exact ⟨hnone, fun character hmem => of_decide_eq_true (hall character hmem),
        Nat.lt_of_not_ge hlarge, hresult.symm⟩
  · rintro ⟨hne, hdigits, hsmall, rfl⟩
    have hall : (text.takeWhile fun character => IsDigit character) = text :=
      List.takeWhile_eq_self_iff.mpr fun character hmem => decide_eq_true (hdigits character hmem)
    rw [hall, if_neg hne, if_neg (Nat.not_le.mpr hsmall), List.drop_length]

namespace Ipv4Prefix

theorem exists_create (address : Ipv4Address) {length : Nat} (h : length ≤ 32) :
    ∃ net, create address (UInt8.ofNat length) = some net := by
  have hlength : ¬ UInt8.ofNat length > 32 := by
    rw [gt_iff_lt, UInt8.not_lt, UInt8.le_iff_toNat_le, UInt8.toNat_ofNat']
    exact (Nat.mod_le _ _).trans h
  exact ⟨_, dif_neg hlength⟩

/-- The checks of the length leave the canonical decimals up to 32. -/
theorem lengthText_iff {text : List UInt8} {value : UInt8} :
    (¬ (text = [] ∨ (text.length > 1 ∧ text.head? = some zeroOctet)) ∧
      ¬ ((fromChars text 0).errc ≠ none ∨ (fromChars text 0).rest ≠ [] ∨
        (fromChars text 0).value > 32) ∧ (fromChars text 0).value.toUInt8 = value) ↔
      ∃ length ≤ 32, text = decimal length ∧ value = UInt8.ofNat length := by
  constructor
  · rintro ⟨hshape, hread, hvalue⟩
    rw [not_or] at hshape
    rw [not_or, not_or, not_not, not_not] at hread
    obtain ⟨herrc, hrest, hsmall⟩ := hread
    generalize hconversion : fromChars text 0 = conversion at herrc hrest hsmall hvalue
    obtain ⟨result, rest, errc⟩ := conversion
    subst herrc hrest
    obtain ⟨_, hdigits, hfits, rfl⟩ := fromChars_eq_iff.mp hconversion
    have hcanonical : Canonical text :=
      ⟨hshape.1, hdigits, fun hlong hzero => hshape.2 ⟨hlong, hzero⟩⟩
    refine ⟨decimalValue 0 text, ?_, (decimal_decimalValue hcanonical).symm, ?_⟩
    · rw [UInt32.not_lt, UInt32.le_iff_toNat_le, UInt32.toNat_ofNat_of_lt' hfits] at hsmall
      exact hsmall
    · rw [← hvalue, ← UInt8.toNat_inj, UInt32.toNat_toUInt8, UInt32.toNat_ofNat_of_lt' hfits,
        UInt8.toNat_ofNat']
  · rintro ⟨length, hlength, rfl, rfl⟩
    have hcanonical := canonical_decimal length
    have hfits : length < 2 ^ 32 := by omega
    have hconversion : fromChars (decimal length) 0 = ⟨UInt32.ofNat length, [], none⟩ := by
      refine fromChars_eq_iff.mpr ⟨hcanonical.ne_nil, hcanonical.digits, ?_, ?_⟩
      · rw [decimalValue_decimal]
        exact hfits
      · rw [decimalValue_decimal]
    have hsmall : UInt32.ofNat length ≤ 32 := by
      rw [UInt32.le_iff_toNat_le, UInt32.toNat_ofNat_of_lt' hfits]
      exact hlength
    rw [hconversion]
    refine ⟨?_, by simpa using hsmall, ?_⟩
    · rw [not_or, not_and]
      exact ⟨hcanonical.ne_nil, hcanonical.leading⟩
    · rw [← UInt8.toNat_inj, UInt32.toNat_toUInt8, UInt32.toNat_ofNat_of_lt' hfits,
        UInt8.toNat_ofNat']

/-- **The grammar of prefixes**: the text of an address, one slash, and the canonical decimal
of a length. -/
theorem parse_eq_some {text : List UInt8} {net : Ipv4Prefix} :
    parse text = some net ↔
      ∃ (address : Ipv4Address) (length : Nat), length ≤ 32 ∧
        text = address.toString ++ [slashOctet] ++ decimal length ∧
        create address (UInt8.ofNat length) = some net := by
  rw [parse]
  constructor
  · intro h
    split at h
    · simp at h
    rename_i position hposition
    obtain ⟨front, back, rfl, _, rfl⟩ := findIdx?_character.mp hposition
    have hback : (front ++ slashOctet :: back).drop (front.length + 1) = back := by
      rw [← List.drop_drop, List.drop_left, List.drop_one, List.tail_cons]
    rw [hback, List.take_left, Option.ite_none_left_eq_some] at h
    obtain ⟨_, h⟩ := h
    dsimp only at h
    split at h
    · simp at h
    rename_i address haddress
    rw [Option.ite_none_left_eq_some, Option.ite_none_left_eq_some] at h
    obtain ⟨hshape, hread, hcreate⟩ := h
    obtain ⟨length, hlength, rfl, hvalue⟩ := lengthText_iff.mp ⟨hshape, hread, rfl⟩
    rw [hvalue] at hcreate
    refine ⟨address, length, hlength, ?_, hcreate⟩
    rw [← Ipv4Address.parse_eq_some.mp haddress, List.append_assoc]
    rfl
  · rintro ⟨address, length, hlength, htext, hcreate⟩
    rw [List.append_assoc, List.singleton_append] at htext
    have hslash : ¬ IsDigit slashOctet := by decide
    have hfront : slashOctet ∉ address.toString := by
      intro hmem
      rcases Ipv4Address.mem_toString hmem with hdigit | hdot
      · exact hslash hdigit
      · exact absurd hdot (by decide)
    have hback : slashOctet ∉ decimal length := fun hmem => hslash (isDigit_of_mem_decimal hmem)
    have hposition : (text.findIdx? fun other => other = slashOctet) =
        some address.toString.length :=
      findIdx?_character.mpr ⟨_, _, htext, hfront, rfl⟩
    have haddressText : text.take address.toString.length = address.toString := by
      rw [htext, List.take_left]
    have hlengthText : text.drop (address.toString.length + 1) = decimal length := by
      rw [htext, ← List.drop_drop, List.drop_left, List.drop_one, List.tail_cons]
    obtain ⟨hshape, hread, hvalue⟩ := lengthText_iff.mpr ⟨length, hlength, rfl, rfl⟩
    rw [hposition]
    dsimp only
    rw [hlengthText, if_neg hback, haddressText, Ipv4Address.parse_eq_some.mpr rfl]
    dsimp only
    rw [if_neg hshape, if_neg hread, hvalue]
    exact hcreate

/-- **A prefix parses back from its text.** -/
theorem parse_toString (net : Ipv4Prefix) : parse net.toString = some net := by
  refine parse_eq_some.mpr ⟨net.networkAddress, net.length.toNat,
    UInt8.le_iff_toNat_le.mp net.length_le, rfl, ?_⟩
  rw [UInt8.ofNat_toNat]
  exact create_networkAddress net

/-- A prefix whose address has no host bits keeps the address. -/
theorem toString_of_create {address : Ipv4Address} {length : Nat} {net : Ipv4Prefix}
    (hlength : length ≤ 32)
    (hhost : address.value &&& maskValue (UInt8.ofNat length) = address.value)
    (hcreate : create address (UInt8.ofNat length) = some net) :
    net.toString = address.toString ++ [slashOctet] ++ decimal length := by
  rw [create] at hcreate
  split at hcreate
  · simp at hcreate
  · rw [Option.some.injEq] at hcreate
    have hsmall : length < 2 ^ 8 := by omega
    rw [← hcreate]
    show (⟨address.value &&& maskValue (UInt8.ofNat length)⟩ : Ipv4Address).toString ++
      [slashOctet] ++ decimal (UInt8.ofNat length).toNat = _
    rw [hhost, UInt8.toNat_ofNat_of_lt' hsmall]

end Ipv4Prefix

/-- **Address and prefix texts are canonical**: `parse` of an address is the inverse of
`to_string`, on all strings; `parse` of a prefix accepts an address, one slash and the
canonical decimal of a length, and returns what `create` makes of them; so a prefix parses back
from its text, and a text without host bits is written again as it was. -/
theorem address_text :
    (∀ (text : List UInt8) (address : Ipv4Address),
      Ipv4Address.parse text = some address ↔ text = address.toString) ∧
    (∀ text : List UInt8, (∃ net, Ipv4Prefix.parse text = some net) ↔
      ∃ (address : Ipv4Address) (length : Nat), length ≤ 32 ∧
        text = address.toString ++ [slashOctet] ++ decimal length) ∧
    (∀ (address : Ipv4Address) (length : Nat), length ≤ 32 →
      Ipv4Prefix.parse (address.toString ++ [slashOctet] ++ decimal length) =
        Ipv4Prefix.create address (UInt8.ofNat length)) ∧
    (∀ net : Ipv4Prefix, Ipv4Prefix.parse net.toString = some net) ∧
    ∀ (address : Ipv4Address) (length : Nat), length ≤ 32 →
      address.value &&& maskValue (UInt8.ofNat length) = address.value →
      ∃ net, Ipv4Prefix.parse (address.toString ++ [slashOctet] ++ decimal length) = some net ∧
        net.toString = address.toString ++ [slashOctet] ++ decimal length := by
  have hparse : ∀ (address : Ipv4Address) (length : Nat), length ≤ 32 → ∀ net,
      Ipv4Prefix.create address (UInt8.ofNat length) = some net →
      Ipv4Prefix.parse (address.toString ++ [slashOctet] ++ decimal length) = some net :=
    fun address length hlength net hcreate =>
      Ipv4Prefix.parse_eq_some.mpr ⟨address, length, hlength, rfl, hcreate⟩
  refine ⟨fun text address => Ipv4Address.parse_eq_some, fun text => ?_, ?_,
    Ipv4Prefix.parse_toString, ?_⟩
  · constructor
    · rintro ⟨net, hnet⟩
      obtain ⟨address, length, hlength, htext, _⟩ := Ipv4Prefix.parse_eq_some.mp hnet
      exact ⟨address, length, hlength, htext⟩
    · rintro ⟨address, length, hlength, rfl⟩
      obtain ⟨net, hcreate⟩ := Ipv4Prefix.exists_create address hlength
      exact ⟨net, hparse address length hlength net hcreate⟩
  · intro address length hlength
    obtain ⟨net, hcreate⟩ := Ipv4Prefix.exists_create address hlength
    rw [hparse address length hlength net hcreate, hcreate]
  · intro address length hlength hhost
    obtain ⟨net, hcreate⟩ := Ipv4Prefix.exists_create address hlength
    exact ⟨net, hparse address length hlength net hcreate,
      Ipv4Prefix.toString_of_create hlength hhost hcreate⟩

end SiliconSwitch.Network
