import SiliconSwitch.Network.Address

/-!
# MAC address text

`MacAddress::parse` and `to_string`, over strings of octets. As in the text of IPv4 addresses,
a position in the text is the rest of the text from there.

* `hexDigitValue_eq_some` — a digit by what it is in upper case;
* `parseBytes_eq_some`    — the loop of `parse` against the loop of `to_string`;
* `mac_text`              — `parse` accepts what `to_string` writes, up to the case of letters.
-/

namespace SiliconSwitch.Network

def colonOctet : UInt8 := 58

/-- `hex_digit_value`. -/
def hexDigitValue (character : UInt8) : Option UInt8 :=
  if 48 ≤ character ∧ character ≤ 57 then some (character - 48)
  else if 97 ≤ character ∧ character ≤ 102 then some (character - 97 + 10)
  else if 65 ≤ character ∧ character ≤ 70 then some (character - 65 + 10)
  else none

namespace MacAddress

/-- The digits of `to_string`. -/
def hexadecimalDigits : List UInt8 :=
  [48, 49, 50, 51, 52, 53, 54, 55, 56, 57, 65, 66, 67, 68, 69, 70]

def hexadecimalDigit (nibble : UInt8) : UInt8 := hexadecimalDigits.getD nibble.toNat 0

def ofNibbles (highNibble lowNibble : UInt8) : UInt8 :=
  ((highNibble.toUInt16 <<< 4) ||| lowNibble.toUInt16).toUInt8

/-- One turn of the loop of `parse`, up to the separator. The text is never too short: its
length is tested before. -/
def parseByte : List UInt8 → Option (UInt8 × List UInt8)
  | high :: low :: rest =>
    match hexDigitValue high, hexDigitValue low with
    | some highNibble, some lowNibble => some (ofNibbles highNibble lowNibble, rest)
    | _, _ => none
  | _ => none

/-- The loop, with the bytes that are still to come. -/
def parseBytes : Nat → List UInt8 → Option (List UInt8)
  | 0, _ => some []
  | remaining + 1, text =>
    match parseByte text with
    | none => none
    | some (byte, rest) =>
      if remaining ≠ 0 ∧ rest.head? ≠ some colonOctet then none
      else (parseBytes remaining rest.tail).map fun bytes => byte :: bytes

/-- What the loop has found out at the end of a turn. -/
theorem parseBytes_succ {remaining : Nat} {text bytes : List UInt8} :
    parseBytes (remaining + 1) text = some bytes ↔
      ∃ byte rest others, parseByte text = some (byte, rest) ∧
        (remaining ≠ 0 → rest.head? = some colonOctet) ∧
        parseBytes remaining rest.tail = some others ∧ bytes = byte :: others := by
  rw [parseBytes]
  constructor
  · intro h
    cases hbyte : parseByte text with
    | none =>
      rw [hbyte] at h
      simp at h
    | some parsed =>
      obtain ⟨byte, rest⟩ := parsed
      rw [hbyte] at h
      dsimp only at h
      rw [Option.ite_none_left_eq_some, Option.map_eq_some_iff] at h
      obtain ⟨hcolon, others, hothers, rfl⟩ := h
      exact ⟨byte, rest, others, rfl, fun hlast => by_contra fun hne => hcolon ⟨hlast, hne⟩,
        hothers, rfl⟩
  · rintro ⟨byte, rest, others, hbyte, hcolon, hothers, rfl⟩
    rw [hbyte]
    dsimp only
    rw [if_neg (fun hrefused => hrefused.2 (hcolon hrefused.1)), hothers]
    rfl

theorem length_parseBytes {remaining : Nat} {text bytes : List UInt8}
    (h : parseBytes remaining text = some bytes) : bytes.length = remaining := by
  induction remaining generalizing text bytes with
  | zero =>
    rw [parseBytes, Option.some.injEq] at h
    rw [← h]
    rfl
  | succ remaining ih =>
    obtain ⟨_, _, others, _, _, hothers, rfl⟩ := parseBytes_succ.mp h
    rw [List.length_cons, ih hothers]

def expectedLength : Nat := 17

def parse (text : List UInt8) : Option MacAddress :=
  if text.length ≠ expectedLength then none
  else
    match h : parseBytes 6 text with
    | none => none
    | some bytes => some ⟨bytes, length_parseBytes h⟩

/-- The loop of `to_string`, whose result has a colon where no digit is written. -/
def bytesText : List UInt8 → List UInt8
  | [] => []
  | [byte] => [hexadecimalDigit (byte >>> 4), hexadecimalDigit (byte &&& 0x0F)]
  | byte :: next :: rest =>
    hexadecimalDigit (byte >>> 4) :: hexadecimalDigit (byte &&& 0x0F) :: colonOctet ::
      bytesText (next :: rest)

def toString (mac : MacAddress) : List UInt8 := bytesText mac.bytes

-- ---------------------------------------------------------------------------
-- Digits and nibbles
-- ---------------------------------------------------------------------------

/-- The upper case of a letter that is a digit; any other octet is left. -/
def upper (character : UInt8) : UInt8 :=
  if 97 ≤ character ∧ character ≤ 102 then character - 32 else character

theorem upper_digit_of_value : ∀ code < 256, ∀ nibble ∈ hexDigitValue (UInt8.ofNat code),
    nibble < 16 ∧ upper (UInt8.ofNat code) = hexadecimalDigit nibble := by
  decide +kernel

theorem value_of_upper_digit : ∀ code < 256, ∀ nibble < 16,
    upper (UInt8.ofNat code) = hexadecimalDigit (UInt8.ofNat nibble) →
      hexDigitValue (UInt8.ofNat code) = some (UInt8.ofNat nibble) := by
  decide +kernel

/-- The value of a digit, by what the digit is in upper case. -/
theorem hexDigitValue_eq_some {character nibble : UInt8} :
    hexDigitValue character = some nibble ↔
      nibble < 16 ∧ upper character = hexadecimalDigit nibble := by
  have hcharacter := UInt8.ofNat_toNat (x := character)
  have hnibble := UInt8.ofNat_toNat (x := nibble)
  constructor
  · intro h
    have hdigit := upper_digit_of_value character.toNat character.toNat_lt nibble
    rw [hcharacter] at hdigit
    exact hdigit h
  · rintro ⟨hsmall, hupper⟩
    have hvalue := value_of_upper_digit character.toNat character.toNat_lt nibble.toNat
      (UInt8.lt_iff_toNat_lt.mp hsmall)
    rw [hcharacter, hnibble] at hvalue
    exact hvalue hupper

theorem upper_eq_colonOctet : ∀ code < 256,
    upper (UInt8.ofNat code) = colonOctet → UInt8.ofNat code = colonOctet := by
  decide +kernel

theorem nibbles_ofNibbles : ∀ highNibble < 16, ∀ lowNibble < 16,
    ofNibbles (UInt8.ofNat highNibble) (UInt8.ofNat lowNibble) >>> 4 = UInt8.ofNat highNibble ∧
      ofNibbles (UInt8.ofNat highNibble) (UInt8.ofNat lowNibble) &&& 0x0F =
        UInt8.ofNat lowNibble := by
  decide +kernel

theorem ofNibbles_nibbles : ∀ code < 256,
    UInt8.ofNat code >>> 4 < 16 ∧ UInt8.ofNat code &&& 0x0F < 16 ∧
      ofNibbles (UInt8.ofNat code >>> 4) (UInt8.ofNat code &&& 0x0F) = UInt8.ofNat code := by
  decide +kernel

-- ---------------------------------------------------------------------------
-- The text of an address
-- ---------------------------------------------------------------------------

/-- **One turn of the loop** takes the two digits of a byte, in any case. -/
theorem parseByte_eq_some {text rest : List UInt8} {byte : UInt8} :
    parseByte text = some (byte, rest) ↔
      ∃ high low, text = high :: low :: rest ∧ upper high = hexadecimalDigit (byte >>> 4) ∧
        upper low = hexadecimalDigit (byte &&& 0x0F) := by
  constructor
  · intro h
    unfold parseByte at h
    split at h
    · rename_i high low rest
      split at h
      · rename_i highNibble lowNibble hhigh hlow
        rw [Option.some.injEq, Prod.mk.injEq] at h
        obtain ⟨hbyte, rfl⟩ := h
        rw [hexDigitValue_eq_some] at hhigh hlow
        have hparts := nibbles_ofNibbles highNibble.toNat (UInt8.lt_iff_toNat_lt.mp hhigh.1)
          lowNibble.toNat (UInt8.lt_iff_toNat_lt.mp hlow.1)
        rw [UInt8.ofNat_toNat, UInt8.ofNat_toNat, hbyte] at hparts
        rw [hparts.1, hparts.2]
        exact ⟨high, low, rfl, hhigh.2, hlow.2⟩
      · simp at h
    · simp at h
  · rintro ⟨high, low, rfl, hhigh, hlow⟩
    have hparts := ofNibbles_nibbles byte.toNat byte.toNat_lt
    rw [UInt8.ofNat_toNat] at hparts
    obtain ⟨hhighSmall, hlowSmall, hbyte⟩ := hparts
    rw [parseByte, hexDigitValue_eq_some.mpr ⟨hhighSmall, hhigh⟩,
      hexDigitValue_eq_some.mpr ⟨hlowSmall, hlow⟩]
    dsimp only
    rw [hbyte]

theorem bytesText_cons (byte : UInt8) {rest : List UInt8} (hne : rest ≠ []) :
    bytesText (byte :: rest) =
      hexadecimalDigit (byte >>> 4) :: hexadecimalDigit (byte &&& 0x0F) :: colonOctet ::
        bytesText rest := by
  cases rest with
  | nil => exact absurd rfl hne
  | cons next rest => rfl

theorem upper_eq_colonOctet_iff {character : UInt8} :
    upper character = colonOctet ↔ character = colonOctet := by
  constructor
  · intro h
    have hcolon := upper_eq_colonOctet character.toNat character.toNat_lt
    rw [UInt8.ofNat_toNat] at hcolon
    exact hcolon h
  · rintro rfl
    rfl

/-- **The loop of `parse`** takes what the loop of `to_string` writes of as many bytes, in any
case, from a text of the right length. -/
theorem parseBytes_eq_some {remaining : Nat} {text bytes : List UInt8}
    (hlength : text.length + 1 = 3 * (remaining + 1)) :
    parseBytes (remaining + 1) text = some bytes ↔
      bytes.length = remaining + 1 ∧ text.map upper = bytesText bytes := by
  rw [parseBytes_succ]
  induction remaining generalizing text bytes with
  | zero =>
    constructor
    · rintro ⟨byte, rest, others, hbyte, _, hothers, rfl⟩
      obtain ⟨high, low, rfl, hhigh, hlow⟩ := parseByte_eq_some.mp hbyte
      rw [List.length_cons, List.length_cons] at hlength
      obtain rfl := List.eq_nil_of_length_eq_zero (by omega : rest.length = 0)
      obtain rfl := Option.some.inj hothers
      rw [List.map_cons, List.map_cons, hhigh, hlow]
      exact ⟨rfl, rfl⟩
    · rintro ⟨hone, htext⟩
      obtain ⟨byte, rfl⟩ := List.length_eq_one_iff.mp hone
      obtain ⟨high, low, rfl⟩ := List.length_eq_two.mp (by omega : text.length = 2)
      rw [List.map_cons, List.map_cons, bytesText, List.cons.injEq, List.cons.injEq] at htext
      exact ⟨byte, [], [], parseByte_eq_some.mpr ⟨high, low, rfl, htext.1, htext.2.1⟩,
        fun hmore => absurd rfl hmore, rfl, rfl⟩
  | succ remaining ih =>
    constructor
    · rintro ⟨byte, rest, others, hbyte, hcolon, hothers, rfl⟩
      obtain ⟨high, low, rfl, hhigh, hlow⟩ := parseByte_eq_some.mp hbyte
      obtain ⟨later, rfl⟩ := List.head?_eq_some_iff.mp (hcolon (Nat.succ_ne_zero remaining))
      rw [List.length_cons, List.length_cons, List.length_cons] at hlength
      have hlater : later.length + 1 = 3 * (remaining + 1) := by omega
      obtain ⟨hcount, htext⟩ := (ih hlater).mp (parseBytes_succ.mp hothers)
      have hne : others ≠ [] := by
        rw [← List.length_pos_iff]
        omega
      rw [List.map_cons, List.map_cons, List.map_cons, hhigh, hlow, htext, bytesText_cons byte hne,
        List.length_cons, hcount]
      exact ⟨rfl, rfl⟩
    · rintro ⟨hcount, htext⟩
      obtain ⟨byte, others, rfl⟩ := List.exists_cons_of_length_eq_add_one hcount
      rw [List.length_cons, Nat.add_right_cancel_iff] at hcount
      have hne : others ≠ [] := by
        rw [← List.length_pos_iff]
        omega
      rw [bytesText_cons byte hne] at htext
      obtain ⟨high, text, rfl, hhigh, htext⟩ := List.map_eq_cons_iff.mp htext
      obtain ⟨low, text, rfl, hlow, htext⟩ := List.map_eq_cons_iff.mp htext
      obtain ⟨colon, later, rfl, hcolon, hothers⟩ := List.map_eq_cons_iff.mp htext
      rw [upper_eq_colonOctet_iff] at hcolon
      rw [List.length_cons, List.length_cons, List.length_cons] at hlength
      have hlater : later.length + 1 = 3 * (remaining + 1) := by omega
      exact ⟨byte, colon :: later, others,
        parseByte_eq_some.mpr ⟨high, low, rfl, hhigh, hlow⟩, fun _ => congrArg some hcolon,
        parseBytes_succ.mpr ((ih hlater).mpr ⟨hcount, hothers⟩), rfl⟩

theorem length_bytesText {remaining : Nat} {bytes : List UInt8}
    (h : bytes.length = remaining + 1) : (bytesText bytes).length + 1 = 3 * (remaining + 1) := by
  induction remaining generalizing bytes with
  | zero =>
    obtain ⟨byte, rfl⟩ := List.length_eq_one_iff.mp h
    rfl
  | succ remaining ih =>
    obtain ⟨byte, others, rfl⟩ := List.exists_cons_of_length_eq_add_one h
    rw [List.length_cons, Nat.add_right_cancel_iff] at h
    have hne : others ≠ [] := by
      rw [← List.length_pos_iff]
      omega
    have hothers := ih h
    rw [bytesText_cons byte hne, List.length_cons, List.length_cons, List.length_cons]
    omega

theorem length_toString (mac : MacAddress) : mac.toString.length = expectedLength := by
  have hlength := length_bytesText mac.byte_count
  unfold toString expectedLength
  omega

theorem upper_hexadecimalDigit : ∀ code < 256,
    upper (hexadecimalDigit (UInt8.ofNat code)) = hexadecimalDigit (UInt8.ofNat code) := by
  decide +kernel

/-- What `to_string` writes is in upper case. -/
theorem upper_bytesText (bytes : List UInt8) : (bytesText bytes).map upper = bytesText bytes := by
  have hdigit : ∀ nibble, upper (hexadecimalDigit nibble) = hexadecimalDigit nibble := by
    intro nibble
    have hcode := upper_hexadecimalDigit nibble.toNat nibble.toNat_lt
    rw [UInt8.ofNat_toNat] at hcode
    exact hcode
  have hcolon : upper colonOctet = colonOctet := rfl
  induction bytes with
  | nil => rfl
  | cons byte rest ih =>
    by_cases hrest : rest = []
    · rw [hrest, bytesText, List.map_cons, List.map_cons, hdigit, hdigit, List.map_nil]
    · rw [bytesText_cons byte hrest, List.map_cons, List.map_cons, List.map_cons, hdigit, hdigit,
        hcolon, ih]

theorem parse_eq_some_iff {text : List UInt8} {mac : MacAddress} :
    parse text = some mac ↔ text.length = expectedLength ∧ parseBytes 6 text = some mac.bytes := by
  unfold parse
  by_cases hlength : text.length = expectedLength
  · rw [if_neg (not_not.mpr hlength), and_iff_right hlength]
    split
    · rename_i hnone
      rw [hnone]
      exact iff_of_false nofun nofun
    · rename_i bytes hsome
      constructor
      · intro h
        rw [Option.some.injEq] at h
        rw [← h]
        exact hsome
      · intro h
        rw [Option.some.injEq, MacAddress.mk.injEq]
        exact Option.some.inj (hsome.symm.trans h)
  · rw [if_pos hlength]
    exact iff_of_false nofun fun h => hlength h.1

/-- **The text of a MAC address.** `parse` accepts exactly the texts that `to_string` writes, up
to the case of the letters; so `to_string` writes one of them. -/
theorem mac_text (text : List UInt8) (mac : MacAddress) :
    (parse text = some mac ↔ text.map upper = mac.toString) ∧ parse mac.toString = some mac := by
  have haccepts : ∀ text, parse text = some mac ↔ text.map upper = mac.toString := by
    intro text
    rw [parse_eq_some_iff]
    constructor
    · rintro ⟨hlength, hbytes⟩
      have hsize : text.length + 1 = 3 * (5 + 1) := by rw [hlength, expectedLength]
      exact ((parseBytes_eq_some hsize).mp hbytes).2
    · intro htext
      have hlength : text.length = expectedLength := by
        rw [← length_toString mac, ← htext, List.length_map]
      have hsize : text.length + 1 = 3 * (5 + 1) := by rw [hlength, expectedLength]
      exact ⟨hlength, (parseBytes_eq_some hsize).mpr ⟨mac.byte_count, htext⟩⟩
  exact ⟨haccepts text, (haccepts mac.toString).mpr (upper_bytesText mac.bytes)⟩

end MacAddress

end SiliconSwitch.Network
