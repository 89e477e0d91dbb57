import Mathlib.Tactic

/-!
# Big-endian wire integers

Fixed-width unsigned integers read from and written into byte buffers, most
significant byte first. Nothing here names a protocol: a type becomes readable
by an instance of `WireInteger`, and a codec is checked by the two lemmas every
fixed-offset format needs:

* `readBigEndian_encode_append` / `readBigEndian_append_right` — a field is read
  back from the front of a buffer, and a read skips what stands before it;
* `writeBigEndian_zeros` — writing the next field of a zero-filled buffer
  appends its encoding to what was written so far; fields written in another order
  are placed by `writeBigEndian_append_left` and `writeBigEndian_append_right`.

`readWithin` and `putBigEndian` are the same for a caller that has checked the
size of the buffer before, or does not look at the outcome.
-/

namespace SiliconSwitch.Library

/-- An unsigned integer type of a fixed number of bytes. `ofNat` is the
narrowing cast: it reduces modulo `256 ^ size`. -/
class WireInteger (α : Type) where
  size : Nat
  toNat : α → Nat
  ofNat : Nat → α
  toNat_ofNat : ∀ n, toNat (ofNat n) = n % 256 ^ size
  ofNat_toNat : ∀ a, ofNat (toNat a) = a

namespace WireInteger

instance : WireInteger UInt8 where
  size := 1
  toNat := UInt8.toNat
  ofNat := UInt8.ofNat
  toNat_ofNat n := by simp
  ofNat_toNat a := by simp

instance : WireInteger UInt16 where
  size := 2
  toNat := UInt16.toNat
  ofNat := UInt16.ofNat
  toNat_ofNat n := by simp
  ofNat_toNat a := by simp

instance : WireInteger UInt32 where
  size := 4
  toNat := UInt32.toNat
  ofNat := UInt32.ofNat
  toNat_ofNat n := by simp
  ofNat_toNat a := by simp

instance : WireInteger UInt64 where
  size := 8
  toNat := UInt64.toNat
  ofNat := UInt64.ofNat
  toNat_ofNat n := by simp
  ofNat_toNat a := by simp

@[simp] theorem size_uint8 : size UInt8 = 1 := rfl
@[simp] theorem size_uint16 : size UInt16 = 2 := rfl
@[simp] theorem size_uint32 : size UInt32 = 4 := rfl
@[simp] theorem size_uint64 : size UInt64 = 8 := rfl

end WireInteger

open WireInteger

-- ---------------------------------------------------------------------------
-- Encodings
-- ---------------------------------------------------------------------------

/-- The `width` bytes of `value`, most significant first. -/
def toBigEndian (width value : Nat) : List UInt8 :=
  (List.range width).map fun index => UInt8.ofNat (value >>> ((width - index - 1) * 8))

/-- The number a byte string spells, most significant byte first. -/
def fromBigEndian (bytes : List UInt8) : Nat :=
  bytes.foldl (fun value byte => value * 256 + byte.toNat) 0

/-- The bytes of a wire integer. -/
def encode {α : Type} [WireInteger α] (value : α) : List UInt8 :=
  toBigEndian (size α) (toNat value)

@[simp] theorem length_toBigEndian (width value : Nat) :
    (toBigEndian width value).length = width := by
  simp [toBigEndian]

@[simp] theorem length_encode {α : Type} [WireInteger α] (value : α) :
    (encode value).length = size α := by
  simp [encode]

theorem toBigEndian_succ (width value : Nat) :
    toBigEndian (width + 1) value =
      UInt8.ofNat (value >>> (width * 8)) :: toBigEndian width value := by
  rw [toBigEndian, List.range_succ_eq_map, List.map_cons, List.map_map]
  congr 1
  apply List.map_congr_left
  intro index _
  simp only [Function.comp]
  congr 3
  omega

theorem foldl_bigEndian (bytes : List UInt8) (start : Nat) :
    bytes.foldl (fun value byte => value * 256 + byte.toNat) start =
      start * 256 ^ bytes.length + fromBigEndian bytes := by
  induction bytes generalizing start with
  | nil => simp [fromBigEndian]
  | cons byte rest ih =>
    rw [fromBigEndian, List.foldl_cons, List.foldl_cons, ih, ih (0 * 256 + byte.toNat),
      List.length_cons, pow_succ]
    ring

theorem fromBigEndian_cons (byte : UInt8) (rest : List UInt8) :
    fromBigEndian (byte :: rest) = byte.toNat * 256 ^ rest.length + fromBigEndian rest := by
  rw [fromBigEndian, List.foldl_cons, foldl_bigEndian]
  ring

theorem fromBigEndian_concat (bytes : List UInt8) (byte : UInt8) :
    fromBigEndian (bytes ++ [byte]) = fromBigEndian bytes * 256 + byte.toNat := by
  rw [fromBigEndian, List.foldl_append]
  rfl

theorem fromBigEndian_lt (bytes : List UInt8) : fromBigEndian bytes < 256 ^ bytes.length := by
  induction bytes with
  | nil => simp [fromBigEndian]
  | cons byte rest ih =>
    have hbyte : byte.toNat + 1 ≤ 256 := byte.toNat_lt
    have hmul := Nat.mul_le_mul_right (256 ^ rest.length) hbyte
    rw [fromBigEndian_cons, List.length_cons, pow_succ]
    linarith

/-- Decoding an encoding gives the number back, up to the width. -/
theorem fromBigEndian_toBigEndian (width value : Nat) :
    fromBigEndian (toBigEndian width value) = value % 256 ^ width := by
  induction width with
  | zero => simp [toBigEndian, fromBigEndian, Nat.mod_one]
  | succ width ih =>
    rw [toBigEndian_succ, fromBigEndian_cons, ih, length_toBigEndian, UInt8.toNat_ofNat',
      Nat.shiftRight_eq_div_pow, Nat.mul_comm width 8, pow_mul]
    show value / 256 ^ width % 256 * 256 ^ width + value % 256 ^ width = _
    rw [pow_succ, Nat.mod_mul]
    ring

/-- Encoding what a byte string spells gives the byte string back. -/
theorem toBigEndian_fromBigEndian (bytes : List UInt8) :
    toBigEndian bytes.length (fromBigEndian bytes) = bytes := by
  have key : ∀ (rest : List UInt8) (high : Nat),
      toBigEndian rest.length (high * 256 ^ rest.length + fromBigEndian rest) = rest := by
    intro rest
    induction rest with
    | nil => simp [toBigEndian]
    | cons byte rest ih =>
      intro high
      have hlt := fromBigEndian_lt rest
      have hsplit : high * 256 ^ (rest.length + 1) + fromBigEndian (byte :: rest) =
          (high * 256 + byte.toNat) * 256 ^ rest.length + fromBigEndian rest := by
        rw [fromBigEndian_cons, pow_succ]
        ring
      rw [List.length_cons, toBigEndian_succ, hsplit, ih]
      congr 1
      -- the leading byte is what remains after shifting the rest away
      apply UInt8.toNat_inj.mp
      rw [UInt8.toNat_ofNat', Nat.shiftRight_eq_div_pow, Nat.mul_comm _ 8, pow_mul]
      show ((high * 256 + byte.toNat) * 256 ^ rest.length + fromBigEndian rest) /
        256 ^ rest.length % 256 = byte.toNat
      rw [Nat.mul_comm _ (256 ^ rest.length), Nat.mul_add_div (by positivity),
        Nat.div_eq_of_lt hlt]
      have := byte.toNat_lt
      omega
  simpa using key bytes 0

theorem fromBigEndian_encode {α : Type} [WireInteger α] (value : α) :
    ofNat (fromBigEndian (encode value)) = value := by
  have hlt : toNat value = toNat value % 256 ^ size α := by
    conv_lhs => rw [← ofNat_toNat value, toNat_ofNat]
  rw [encode, fromBigEndian_toBigEndian, ← hlt, ofNat_toNat]

/-- The narrowing cast does not show in the bytes of a number that fits. -/
theorem encode_ofNat {α : Type} [WireInteger α] {value : Nat} (h : value < 256 ^ size α) :
    encode (ofNat value : α) = toBigEndian (size α) value := by
  rw [encode, toNat_ofNat, Nat.mod_eq_of_lt h]

-- ---------------------------------------------------------------------------
-- Checked reads
-- ---------------------------------------------------------------------------

/-- Read a wire integer at `offset`: a bounds check, then the shift-and-or loop
over its bytes. -/
def readBigEndian (α : Type) [WireInteger α] (bytes : List UInt8) (offset : Nat) : Option α :=
  if offset > bytes.length ∨ size α > bytes.length - offset then none
  else
    some ((List.range (size α)).foldl
      (fun value index =>
        ofNat ((toNat value <<< 8) ||| (bytes.getD (offset + index) 0).toNat)) (ofNat 0))

private theorem shift_or_byte (value : Nat) (byte : UInt8) :
    (value <<< 8) ||| byte.toNat = value * 256 + byte.toNat := by
  have hbyte : byte.toNat < 2 ^ 8 := byte.toNat_lt
  rw [← Nat.shiftLeft_add_eq_or_of_lt hbyte, Nat.shiftLeft_eq]

/-- The loop of `readBigEndian` truncates at every step what the plain sum
truncates once. -/
private theorem foldl_ofNat {α : Type} [WireInteger α] (byteAt : Nat → UInt8) (count : Nat) :
    (List.range count).foldl
      (fun (value : α) index => ofNat ((toNat value <<< 8) ||| (byteAt index).toNat)) (ofNat 0) =
      ofNat (fromBigEndian ((List.range count).map byteAt)) := by
  induction count with
  | zero => rfl
  | succ count ih =>
    rw [List.range_succ, List.foldl_append, ih, List.map_append]
    simp only [List.foldl_cons, List.foldl_nil, List.map_cons, List.map_nil]
    rw [shift_or_byte, fromBigEndian_concat]
    have hinjective : Function.Injective (toNat : α → Nat) :=
      Function.LeftInverse.injective ofNat_toNat
    apply hinjective
    rw [toNat_ofNat, toNat_ofNat, toNat_ofNat, Nat.add_mod, Nat.mul_mod, Nat.mod_mod,
      ← Nat.mul_mod, ← Nat.add_mod]

/-- A read inside the buffer decodes the slice at its offset. -/
theorem readBigEndian_of_le {α : Type} [WireInteger α] {bytes : List UInt8} {offset : Nat}
    (h : offset + size α ≤ bytes.length) :
    readBigEndian α bytes offset =
      some (ofNat (fromBigEndian ((bytes.drop offset).take (size α)))) := by
  have hguard : ¬ (offset > bytes.length ∨ size α > bytes.length - offset) := by omega
  rw [readBigEndian, if_neg hguard, foldl_ofNat]
  congr 3
  apply List.ext_getElem
  · simp
    omega
  · intro index h1 h2
    simp only [List.length_map, List.length_range] at h1
    simp only [List.getElem_map, List.getElem_range, List.getElem_take, List.getElem_drop]
    rw [List.getD_eq_getElem?_getD, List.getElem?_eq_getElem (by omega), Option.getD_some]

theorem exists_readBigEndian {α : Type} [WireInteger α] {bytes : List UInt8} {offset : Nat}
    (h : offset + size α ≤ bytes.length) : ∃ value, readBigEndian α bytes offset = some value :=
  ⟨_, readBigEndian_of_le h⟩

theorem readBigEndian_eq_none {α : Type} [WireInteger α] {bytes : List UInt8} {offset : Nat}
    (h : bytes.length < offset + size α) : readBigEndian α bytes offset = none := by
  rw [readBigEndian, if_pos (by omega)]

/-- Reading an integer of one byte is indexing. -/
theorem readBigEndian_uint8 {bytes : List UInt8} {offset : Nat} (h : offset < bytes.length) :
    readBigEndian UInt8 bytes offset = some (bytes.getD offset 0) := by
  have hguard : ¬ (offset > bytes.length ∨ size UInt8 > bytes.length - offset) := by
    rw [size_uint8]
    omega
  rw [readBigEndian, if_neg hguard]
  show some (UInt8.ofNat ((0 <<< 8) ||| (bytes.getD (offset + 0) 0).toNat)) = _
  rw [Nat.zero_shiftLeft, Nat.zero_or, Nat.add_zero, UInt8.ofNat_toNat]

/-- A field standing at the front of the buffer is read back. -/
@[simp] theorem readBigEndian_encode_append {α : Type} [WireInteger α] (value : α)
    (rest : List UInt8) : readBigEndian α (encode value ++ rest) 0 = some value := by
  rw [readBigEndian_of_le (by simp)]
  simp only [List.drop_zero, List.take_left' (length_encode value), fromBigEndian_encode]

/-- A read past a prefix does not see the prefix. -/
theorem readBigEndian_append_right {α : Type} [WireInteger α] {front rest : List UInt8}
    {offset : Nat} (h : front.length ≤ offset) :
    readBigEndian α (front ++ rest) offset = readBigEndian α rest (offset - front.length) := by
  by_cases hfit : offset + size α ≤ (front ++ rest).length
  · rw [readBigEndian_of_le hfit]
    rw [List.length_append] at hfit
    rw [readBigEndian_of_le (by omega), List.drop_append, List.drop_eq_nil_of_le h, List.nil_append]
  · rw [readBigEndian_eq_none (by omega)]
    rw [List.length_append] at hfit
    rw [readBigEndian_eq_none (by omega)]

/-- A slice of a buffer is one of every longer buffer. -/
theorem slice_of_append {bytes : List UInt8} {offset count : Nat}
    (h : offset + count ≤ bytes.length) (extra : List UInt8) :
    ((bytes ++ extra).drop offset).take count = (bytes.drop offset).take count := by
  rw [List.drop_append_of_le_length (by omega), List.take_append_of_le_length]
  rw [List.length_drop]
  omega

/-- A read that succeeds is inside the buffer. -/
theorem le_of_readBigEndian {α : Type} [WireInteger α] {bytes : List UInt8} {offset : Nat}
    {value : α} (h : readBigEndian α bytes offset = some value) :
    offset + size α ≤ bytes.length := by
  by_contra hshort
  rw [readBigEndian_eq_none (by omega)] at h
  simp at h

/-- A read that succeeds does not see what follows the buffer. -/
theorem readBigEndian_append_left {α : Type} [WireInteger α] {bytes : List UInt8} {offset : Nat}
    {value : α} (h : readBigEndian α bytes offset = some value) (extra : List UInt8) :
    readBigEndian α (bytes ++ extra) offset = some value := by
  have hroom : offset + size α ≤ bytes.length := le_of_readBigEndian h
  rw [readBigEndian_of_le hroom] at h
  rw [readBigEndian_of_le (by rw [List.length_append]; omega), slice_of_append hroom, h]

/-- A read that the size of the buffer cannot refuse. -/
def readWithin (α : Type) [WireInteger α] (bytes : List UInt8) (offset : Nat)
    (h : offset + size α ≤ bytes.length) : α :=
  (readBigEndian α bytes offset).get (by rw [readBigEndian_of_le h]; rfl)

theorem readWithin_eq {α : Type} [WireInteger α] {bytes : List UInt8} {offset : Nat}
    {h : offset + size α ≤ bytes.length} {value : α}
    (hread : readBigEndian α bytes offset = some value) :
    readWithin α bytes offset h = value := by
  unfold readWithin
  simp only [hread, Option.get_some]

/-- The number read is what the slice at the offset spells. -/
theorem toNat_readWithin {α : Type} [WireInteger α] {bytes : List UInt8} {offset : Nat}
    (h : offset + size α ≤ bytes.length) :
    toNat (readWithin α bytes offset h) =
      fromBigEndian ((bytes.drop offset).take (size α)) := by
  rw [readWithin_eq (readBigEndian_of_le h), toNat_ofNat]
  apply Nat.mod_eq_of_lt
  refine (fromBigEndian_lt _).trans_le (Nat.pow_le_pow_right (by decide) ?_)
  exact List.length_take_le _ _

/-- Writing back what was read gives the slice at the offset. -/
theorem encode_readWithin {α : Type} [WireInteger α] {bytes : List UInt8} {offset : Nat}
    (h : offset + size α ≤ bytes.length) :
    encode (readWithin α bytes offset h) = (bytes.drop offset).take (size α) := by
  have hlength : ((bytes.drop offset).take (size α)).length = size α := by
    rw [List.length_take, List.length_drop]
    omega
  have hspelled := toBigEndian_fromBigEndian ((bytes.drop offset).take (size α))
  rw [hlength] at hspelled
  rw [encode, toNat_readWithin, hspelled]

/-- Writing back what a checked read gave is the slice at the offset. -/
theorem encode_of_read {α : Type} [WireInteger α] {bytes : List UInt8} {offset : Nat} {value : α}
    (hread : readBigEndian α bytes offset = some value) :
    encode value = (bytes.drop offset).take (size α) := by
  rw [← readWithin_eq hread (h := le_of_readBigEndian hread), encode_readWithin]

/-- Two octets that are indexed are a slice. -/
theorem slice_two {bytes : List UInt8} {offset : Nat} (h : offset + 2 ≤ bytes.length) :
    (bytes.drop offset).take 2 = [bytes.getD offset 0, bytes.getD (offset + 1) 0] := by
  have hindex : ∀ index (hindex : index < bytes.length), bytes.getD index 0 = bytes[index] := by
    intro index hindex
    rw [List.getD_eq_getElem?_getD, List.getElem?_eq_getElem hindex, Option.getD_some]
  rw [List.drop_eq_getElem_cons (by omega), List.drop_eq_getElem_cons (by omega),
    hindex offset (by omega), hindex (offset + 1) (by omega)]
  rfl

/-- Two adjacent fields are one slice. -/
theorem slice_append (bytes : List UInt8) (offset first second : Nat) :
    (bytes.drop offset).take first ++ (bytes.drop (offset + first)).take second =
      (bytes.drop offset).take (first + second) := by
  rw [List.take_add, List.drop_drop]

-- ---------------------------------------------------------------------------
-- Checked writes
-- ---------------------------------------------------------------------------

/-- Overwrite the bytes at `offset` by `new`. -/
def splice (bytes : List UInt8) (offset : Nat) (new : List UInt8) : List UInt8 :=
  bytes.take offset ++ new ++ bytes.drop (offset + new.length)

/-- Write a wire integer at `offset`, all of its bytes or none. -/
def writeBigEndian {α : Type} [WireInteger α] (value : α) (bytes : List UInt8) (offset : Nat) :
    Option (List UInt8) :=
  if offset > bytes.length ∨ size α > bytes.length - offset then none
  else some (splice bytes offset (encode value))

/-- The zero-initialised buffer a serializer starts from. -/
def zeros (count : Nat) : List UInt8 := List.replicate count 0

@[simp] theorem length_zeros (count : Nat) : (zeros count).length = count := by
  simp [zeros]

@[simp] theorem zeros_zero : zeros 0 = [] := rfl

/-- Overwriting the first zeros appends to what was written so far. -/
theorem splice_zeros {front new : List UInt8} {offset count : Nat}
    (hoffset : offset = front.length) :
    splice (front ++ zeros count) offset new = front ++ new ++ zeros (count - new.length) := by
  subst hoffset
  rw [splice, List.take_left' rfl, List.drop_append,
    List.drop_eq_nil_of_le (Nat.le_add_right ..), List.nil_append, Nat.add_sub_cancel_left, zeros,
    List.drop_replicate]
  rfl

/-- Overwriting the front of a buffer replaces as many bytes as there are new ones. -/
theorem splice_append_left {old new : List UInt8} (h : old.length = new.length)
    (rest : List UInt8) : splice (old ++ rest) 0 new = new ++ rest := by
  rw [splice, List.take_zero, List.nil_append, Nat.zero_add, List.drop_left' h]

/-- Overwriting past a prefix leaves the prefix alone. -/
theorem splice_append_right {front rest new : List UInt8} {offset : Nat}
    (h : front.length ≤ offset) :
    splice (front ++ rest) offset new = front ++ splice rest (offset - front.length) new := by
  obtain ⟨past, rfl⟩ := Nat.exists_eq_add_of_le h
  rw [Nat.add_sub_cancel_left, splice, splice, List.take_length_add_append, Nat.add_assoc,
    List.drop_length_add_append]
  simp only [List.append_assoc]

theorem writeBigEndian_zeros {α : Type} [WireInteger α] (value : α) {front : List UInt8}
    {offset count : Nat} (hoffset : offset = front.length) (hroom : size α ≤ count) :
    writeBigEndian value (front ++ zeros count) offset =
      some (front ++ encode value ++ zeros (count - size α)) := by
  have hguard : ¬ (offset > (front ++ zeros count).length ∨
      size α > (front ++ zeros count).length - offset) := by
    simp only [List.length_append, length_zeros]
    omega
  rw [writeBigEndian, if_neg hguard, splice_zeros hoffset, length_encode]

/-- A write at the front of a buffer replaces as many bytes as it is wide. -/
theorem writeBigEndian_append_left {α : Type} [WireInteger α] (value : α) {old : List UInt8}
    (h : old.length = size α) (rest : List UInt8) :
    writeBigEndian value (old ++ rest) 0 = some (encode value ++ rest) := by
  rw [writeBigEndian, if_neg (by rw [List.length_append]; omega),
    splice_append_left (by rw [h, length_encode])]

/-- A write past a prefix leaves the prefix alone. -/
theorem writeBigEndian_append_right {α : Type} [WireInteger α] (value : α)
    {front rest : List UInt8} {offset : Nat} (h : front.length ≤ offset) :
    writeBigEndian value (front ++ rest) offset =
      (writeBigEndian value rest (offset - front.length)).map fun written => front ++ written := by
  have hguard : (offset > (front ++ rest).length ∨
      size α > (front ++ rest).length - offset) ↔
      (offset - front.length > rest.length ∨
        size α > rest.length - (offset - front.length)) := by
    rw [List.length_append]
    omega
  simp only [writeBigEndian, hguard]
  split
  · rfl
  · rw [Option.map_some, splice_append_right h]

/-- A write whose success is not looked at: a refused one leaves the buffer alone. -/
def putBigEndian {α : Type} [WireInteger α] (value : α) (bytes : List UInt8) (offset : Nat) :
    List UInt8 :=
  (writeBigEndian value bytes offset).getD bytes

/-- A buffer of zeros to be filled from its start. -/
theorem zeros_eq_nil_append {size fields : Nat} (h : size = fields) :
    zeros size = [] ++ zeros fields := by
  rw [h, List.nil_append]

theorem putBigEndian_zeros {α : Type} [WireInteger α] (value : α) {front : List UInt8}
    {offset count : Nat} (hoffset : offset = front.length) (hroom : size α ≤ count) :
    putBigEndian value (front ++ zeros count) offset =
      front ++ encode value ++ zeros (count - size α) := by
  unfold putBigEndian
  rw [writeBigEndian_zeros value hoffset hroom, Option.getD_some]

@[simp] theorem length_splice {bytes new : List UInt8} {offset : Nat}
    (h : offset + new.length ≤ bytes.length) :
    (splice bytes offset new).length = bytes.length := by
  simp only [splice, List.length_append, List.length_take, List.length_drop]
  omega

/-- A write inside the buffer succeeds and keeps its length. -/
theorem exists_writeBigEndian {α : Type} [WireInteger α] (value : α) {bytes : List UInt8}
    (offset : Nat) (h : offset + size α ≤ bytes.length) :
    ∃ written, writeBigEndian value bytes offset = some written ∧
      written.length = bytes.length := by
  refine ⟨splice bytes offset (encode value), ?_, length_splice (by simpa using h)⟩
  rw [writeBigEndian, if_neg (by omega)]

end SiliconSwitch.Library
