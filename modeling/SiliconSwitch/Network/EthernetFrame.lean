import SiliconSwitch.Library.Codec
import SiliconSwitch.Network.Address

/-!
# Ethernet frames

`EthernetFrame::create`, `parse` and `serialize`. `layout` is the octet layout
of a frame, stated independently of the buffer writes of the source, and for
payloads of any length:

* `serialize_eq_layout` — the buffer writes of `serialize` produce the layout;
* `parse_layout` — `parse` accepts the layout of a frame exactly if its payload
  is within `maximumPayloadSize`, and returns that frame;
* `parse_serialize` — so a frame that was parsed once parses again to itself;
* `serialize_of_parse` — an accepted byte string is the serialized frame;
* `ethernet_round_trip_iff` — which created frames parse back to themselves.
-/

namespace SiliconSwitch.Network

open SiliconSwitch.Library

namespace EthernetFrame

def headerSize : Nat := 14
def taggedHeaderSize : Nat := 18
def maximumPayloadSize : Nat := 1500

end EthernetFrame

structure EthernetFrame where
  destination : MacAddress
  source : MacAddress
  etherType : EtherType
  payload : List UInt8
  vlanTag : Option VlanTag
  payload_le : payload.length ≤ EthernetFrame.maximumPayloadSize
deriving DecidableEq

namespace EthernetFrame

theorem empty_payload_le : ([] : List UInt8).length ≤ maximumPayloadSize := Nat.zero_le _

def create (destination source : MacAddress) (etherType : EtherType) (payload : List UInt8)
    (vlanTag : Option VlanTag) : Option EthernetFrame :=
  if h : payload.length > maximumPayloadSize then none
  else some ⟨destination, source, etherType, payload, vlanTag, Nat.le_of_not_gt h⟩

/-- The end of `parse`, once the EtherType and the start of the payload are known. -/
def parsePayload (bytes : List UInt8) (hsize : headerSize ≤ bytes.length) (payloadOffset : Nat)
    (etherType : EtherType) (vlanTag : Option VlanTag) : Option EthernetFrame :=
  if bytes.length - payloadOffset > maximumPayloadSize then none
  else
    create
      (MacAddress.read bytes 0 (by unfold headerSize at hsize; omega))
      (MacAddress.read bytes 6 (by unfold headerSize at hsize; omega))
      etherType (bytes.drop payloadOffset) vlanTag

def parse (bytes : List UInt8) : Option EthernetFrame :=
  if hsize : bytes.length < headerSize then none
  else
    match readBigEndian UInt16 bytes 12 with
    | none => none
    | some outer =>
      if outer = EtherType.vlanTagged.value then
        if bytes.length < taggedHeaderSize then none
        else
          match readBigEndian UInt16 bytes 14, readBigEndian UInt16 bytes 16 with
          | some control, some inner =>
            match VlanTag.fromTagControlInformation control with
            | none => none
            | some tag =>
              parsePayload bytes (Nat.le_of_not_lt hsize) taggedHeaderSize ⟨inner⟩ (some tag)
          | _, _ => none
      else parsePayload bytes (Nat.le_of_not_lt hsize) headerSize ⟨outer⟩ none

def serialize (frame : EthernetFrame) : List UInt8 :=
  let serializedHeaderSize := if frame.vlanTag.isSome then taggedHeaderSize else headerSize
  let bytes := zeros (serializedHeaderSize + frame.payload.length)
  let bytes := splice bytes 0 frame.destination.bytes
  let bytes := splice bytes 6 frame.source.bytes
  let outer := if frame.vlanTag.isSome then EtherType.vlanTagged else frame.etherType
  match writeBigEndian outer.value bytes 12 with
  | none => []
  | some bytes =>
    match frame.vlanTag with
    | none => splice bytes serializedHeaderSize frame.payload
    | some tag =>
      match writeBigEndian tag.tagControlInformation bytes 14 with
      | none => []
      | some bytes =>
        match writeBigEndian frame.etherType.value bytes 16 with
        | none => []
        | some bytes => splice bytes serializedHeaderSize frame.payload

-- ---------------------------------------------------------------------------
-- The octet layout
-- ---------------------------------------------------------------------------

/-- The octets of the 802.1Q tag, none for an untagged frame. -/
def tagBytes : Option VlanTag → List UInt8
  | none => []
  | some tag => encode EtherType.vlanTagged.value ++ encode tag.tagControlInformation

/-- The octets of a frame: addresses, tag, EtherType, payload. -/
def layout (destination source : MacAddress) (etherType : EtherType) (payload : List UInt8)
    (vlanTag : Option VlanTag) : List UInt8 :=
  destination.bytes ++ (source.bytes ++ (tagBytes vlanTag ++ (encode etherType.value ++ payload)))

/-- The header length of a frame with this tag. -/
def headerLength (vlanTag : Option VlanTag) : Nat :=
  if vlanTag.isSome then taggedHeaderSize else headerSize

theorem length_layout (destination source : MacAddress) (etherType : EtherType)
    (payload : List UInt8) (vlanTag : Option VlanTag) :
    (layout destination source etherType payload vlanTag).length =
      headerLength vlanTag + payload.length := by
  cases vlanTag with
  | none =>
    simp [layout, tagBytes, headerLength, headerSize, destination.byte_count, source.byte_count]
    omega
  | some tag =>
    simp [layout, tagBytes, headerLength, taggedHeaderSize, destination.byte_count,
      source.byte_count]
    omega

/-- The buffer writes of `serialize` produce the octet layout. -/
theorem serialize_eq_layout (frame : EthernetFrame) :
    frame.serialize =
      layout frame.destination frame.source frame.etherType frame.payload frame.vlanTag := by
  obtain ⟨destination, source, etherType, payload, vlanTag, hpayload⟩ := frame
  have haddresses : ∀ count : Nat,
      splice (splice (zeros (12 + count)) 0 destination.bytes) 6 source.bytes =
        destination.bytes ++ source.bytes ++ zeros count := by
    intro count
    have hfirst : splice ([] ++ zeros (12 + count)) 0 destination.bytes =
        [] ++ destination.bytes ++ zeros (12 + count - destination.bytes.length) :=
      splice_zeros rfl
    rw [List.nil_append, List.nil_append] at hfirst
    rw [hfirst, splice_zeros destination.byte_count.symm, destination.byte_count,
      source.byte_count]
    congr 2
    omega
  have hlength : 12 = (destination.bytes ++ source.bytes).length := by
    simp [destination.byte_count, source.byte_count]
  cases vlanTag with
  | none =>
    simp only [serialize, layout, tagBytes, headerSize, Option.isSome_none, Bool.false_eq_true,
      if_false, List.nil_append]
    rw [show 14 + payload.length = 12 + (2 + payload.length) by omega, haddresses,
      writeBigEndian_zeros _ hlength (by simp)]
    simp only [WireInteger.size_uint16, Nat.add_sub_cancel_left]
    rw [splice_zeros (by simp [destination.byte_count, source.byte_count]), Nat.sub_self]
    simp
  | some tag =>
    simp only [serialize, layout, tagBytes, taggedHeaderSize, Option.isSome_some, if_true]
    rw [show 18 + payload.length = 12 + (2 + (2 + (2 + payload.length))) by omega, haddresses,
      writeBigEndian_zeros _ hlength (by simp)]
    simp only [WireInteger.size_uint16, Nat.add_sub_cancel_left]
    rw [writeBigEndian_zeros _ (by simp [destination.byte_count, source.byte_count]) (by simp)]
    simp only [WireInteger.size_uint16, Nat.add_sub_cancel_left]
    rw [writeBigEndian_zeros _ (by simp [destination.byte_count, source.byte_count]) (by simp)]
    simp only [WireInteger.size_uint16, Nat.add_sub_cancel_left]
    rw [splice_zeros (by simp [destination.byte_count, source.byte_count]), Nat.sub_self]
    simp

theorem length_serialize (frame : EthernetFrame) :
    frame.serialize.length = headerLength frame.vlanTag + frame.payload.length := by
  rw [serialize_eq_layout, length_layout]

/-- Copying out an address that starts at `offset`. -/
theorem read_append {front rest : List UInt8} {mac : MacAddress} {offset : Nat}
    (hoffset : offset = front.length) (h : offset + 6 ≤ (front ++ (mac.bytes ++ rest)).length) :
    MacAddress.read (front ++ (mac.bytes ++ rest)) offset h = mac := by
  apply MacAddress.read_eq
  rw [hoffset, List.drop_left' rfl, List.take_left' mac.byte_count]

theorem parsePayload_layout {destination source : MacAddress} {etherType : EtherType}
    {payload : List UInt8} {vlanTag : Option VlanTag} {payloadOffset : Nat}
    (hoffset : payloadOffset = headerLength vlanTag)
    (hsize : headerSize ≤ (layout destination source etherType payload vlanTag).length) :
    parsePayload (layout destination source etherType payload vlanTag) hsize payloadOffset
      etherType vlanTag = create destination source etherType payload vlanTag := by
  have hlength := length_layout destination source etherType payload vlanTag
  have hdestination : MacAddress.read (layout destination source etherType payload vlanTag) 0
      (by unfold headerSize at hsize; omega) = destination :=
    @read_append [] _ destination 0 rfl _
  have hsource : MacAddress.read (layout destination source etherType payload vlanTag) 6
      (by unfold headerSize at hsize; omega) = source :=
    read_append destination.byte_count.symm _
  have hdrop : (layout destination source etherType payload vlanTag).drop payloadOffset =
      payload := by
    have hsplit : layout destination source etherType payload vlanTag =
        (destination.bytes ++ (source.bytes ++ (tagBytes vlanTag ++ encode etherType.value))) ++
          payload := by
      simp [layout]
    rw [hsplit, List.drop_left']
    rw [hsplit, List.length_append] at hlength
    omega
  rw [parsePayload, hdestination, hsource, hdrop]
  by_cases hlarge : payload.length > maximumPayloadSize
  · rw [if_pos (by omega), create, dif_pos hlarge]
  · rw [if_neg (by omega)]

/-- `parse` accepts the octets of a well-formed frame exactly if the payload is
within the limit of `create`, and returns that frame. -/
theorem parse_layout (destination source : MacAddress) (etherType : EtherType)
    (payload : List UInt8) (vlanTag : Option VlanTag)
    (huntagged : vlanTag = none → etherType ≠ EtherType.vlanTagged) :
    parse (layout destination source etherType payload vlanTag) =
      create destination source etherType payload vlanTag := by
  have hlength := length_layout destination source etherType payload vlanTag
  -- what follows the two addresses is read at an offset of its own
  have hpast : ∀ {rest : List UInt8} {offset : Nat}, 12 ≤ offset →
      readBigEndian UInt16 (destination.bytes ++ (source.bytes ++ rest)) offset =
        readBigEndian UInt16 rest (offset - 12) := by
    intro rest offset hoffset
    rw [readBigEndian_append_right (by rw [destination.byte_count]; omega),
      readBigEndian_append_right (by rw [destination.byte_count, source.byte_count]; omega),
      destination.byte_count, source.byte_count, Nat.sub_sub]
  cases vlanTag with
  | none =>
    simp only [headerLength, headerSize, Option.isSome_none, Bool.false_eq_true, if_false]
      at hlength
    have houter : readBigEndian UInt16 (layout destination source etherType payload none) 12 =
        some etherType.value := by
      rw [layout, hpast (Nat.le_refl 12), tagBytes, List.nil_append]
      exact readBigEndian_encode_append ..
    have hplain : etherType.value ≠ EtherType.vlanTagged.value := by
      intro heq
      exact huntagged rfl (by cases etherType; exact congrArg EtherType.mk heq)
    rw [parse, dif_neg (by unfold headerSize; omega), houter]
    simp only [if_neg hplain]
    exact parsePayload_layout rfl _
  | some tag =>
    simp only [headerLength, taggedHeaderSize, Option.isSome_some, if_true] at hlength
    have houter : readBigEndian UInt16 (layout destination source etherType payload (some tag)) 12
        = some EtherType.vlanTagged.value := by
      rw [layout, hpast (Nat.le_refl 12), tagBytes, List.append_assoc]
      exact readBigEndian_encode_append ..
    have hcontrol : readBigEndian UInt16
        (layout destination source etherType payload (some tag)) 14 =
          some tag.tagControlInformation := by
      rw [layout, hpast (by omega), tagBytes, List.append_assoc,
        readBigEndian_append_right (by simp)]
      simp only [length_encode, WireInteger.size_uint16]
      exact readBigEndian_encode_append ..
    have hinner : readBigEndian UInt16
        (layout destination source etherType payload (some tag)) 16 = some etherType.value := by
      rw [layout, hpast (by omega), tagBytes, List.append_assoc,
        readBigEndian_append_right (by simp), readBigEndian_append_right (by simp)]
      simp only [length_encode, WireInteger.size_uint16]
      exact readBigEndian_encode_append ..
    rw [parse, dif_neg (by unfold headerSize; omega), houter]
    simp only [if_true]
    rw [if_neg (by unfold taggedHeaderSize; omega), hcontrol, hinner]
    simp only [VlanTag.fromTagControlInformation_tagControlInformation]
    exact parsePayload_layout rfl _

/-- A serialized frame parses back to itself. -/
theorem parse_serialize {frame : EthernetFrame}
    (huntagged : frame.vlanTag = none → frame.etherType ≠ EtherType.vlanTagged) :
    parse frame.serialize = some frame := by
  rw [serialize_eq_layout, parse_layout _ _ _ _ _ huntagged, create,
    dif_neg (Nat.not_lt_of_le frame.payload_le)]

theorem create_eq_some {destination source : MacAddress} {etherType : EtherType}
    {payload : List UInt8} {vlanTag : Option VlanTag} {frame : EthernetFrame}
    (h : create destination source etherType payload vlanTag = some frame) :
    frame.destination = destination ∧ frame.source = source ∧ frame.etherType = etherType ∧
      frame.payload = payload ∧ frame.vlanTag = vlanTag := by
  rw [create, Option.dite_none_left_eq_some] at h
  obtain ⟨_, h⟩ := h
  rw [Option.some.injEq] at h
  subst h
  exact ⟨rfl, rfl, rfl, rfl, rfl⟩

/-- The end of the parser hands its arguments to `create`. -/
theorem create_of_parsePayload {bytes : List UInt8} {hsize : headerSize ≤ bytes.length}
    {payloadOffset : Nat} {etherType : EtherType} {vlanTag : Option VlanTag}
    {frame : EthernetFrame}
    (h : parsePayload bytes hsize payloadOffset etherType vlanTag = some frame) :
    create (MacAddress.read bytes 0 (by unfold headerSize at hsize; omega))
      (MacAddress.read bytes 6 (by unfold headerSize at hsize; omega))
      etherType (bytes.drop payloadOffset) vlanTag = some frame := by
  rw [parsePayload, Option.ite_none_left_eq_some] at h
  exact h.2

/-- The fields that the end of the parser was given. -/
theorem parsePayload_some {bytes : List UInt8} {hsize : headerSize ≤ bytes.length}
    {payloadOffset : Nat} {etherType : EtherType} {vlanTag : Option VlanTag}
    {frame : EthernetFrame}
    (h : parsePayload bytes hsize payloadOffset etherType vlanTag = some frame) :
    frame.etherType = etherType ∧ frame.vlanTag = vlanTag := by
  obtain ⟨-, -, htype, -, htag⟩ := create_eq_some (create_of_parsePayload h)
  exact ⟨htype, htag⟩

/-- What the end of the parser makes is serialized with the header it was given. -/
theorem serialize_of_parsePayload {bytes : List UInt8} {hsize : headerSize ≤ bytes.length}
    {payloadOffset : Nat} {etherType : EtherType} {vlanTag : Option VlanTag}
    {frame : EthernetFrame}
    (h : parsePayload bytes hsize payloadOffset etherType vlanTag = some frame) :
    frame.serialize =
      bytes.take 12 ++ (tagBytes vlanTag ++ (encode etherType.value ++
        bytes.drop payloadOffset)) := by
  obtain ⟨hdestination, hsource, htype, hpayload, htag⟩ :=
    create_eq_some (create_of_parsePayload h)
  have haddresses : (bytes.drop 0).take 6 ++ (bytes.drop 6).take 6 = bytes.take 12 :=
    slice_append bytes 0 6 6
  rw [serialize_eq_layout, hdestination, hsource, htype, hpayload, htag, layout,
    ← List.append_assoc, ← haddresses]
  rfl

/-- The two ways through the parser: the outer EtherType announces a tag, and the tag and
the inner EtherType are read, or it is the EtherType of the frame. -/
theorem parse_cases {bytes : List UInt8} {frame : EthernetFrame} (h : parse bytes = some frame) :
    ∃ (hsize : headerSize ≤ bytes.length) (outer : UInt16),
      readBigEndian UInt16 bytes 12 = some outer ∧
      ((outer = EtherType.vlanTagged.value ∧ ∃ control inner tag,
          readBigEndian UInt16 bytes 14 = some control ∧
          readBigEndian UInt16 bytes 16 = some inner ∧
          VlanTag.fromTagControlInformation control = some tag ∧
          parsePayload bytes hsize taggedHeaderSize ⟨inner⟩ (some tag) = some frame) ∨
        (outer ≠ EtherType.vlanTagged.value ∧
          parsePayload bytes hsize headerSize ⟨outer⟩ none = some frame)) := by
  rw [parse, Option.dite_none_left_eq_some] at h
  obtain ⟨hsize, h⟩ := h
  split at h
  · simp at h
  rename_i outer houter
  refine ⟨Nat.le_of_not_lt hsize, outer, houter, ?_⟩
  split at h
  · rename_i htagged
    rw [Option.ite_none_left_eq_some] at h
    obtain ⟨_, h⟩ := h
    split at h
    · rename_i control inner hcontrol hinner
      split at h
      · simp at h
      rename_i tag htag
      exact Or.inl ⟨htagged, control, inner, tag, hcontrol, hinner, htag, h⟩
    · simp at h
  · rename_i hplain
    exact Or.inr ⟨hplain, h⟩

/-- An untagged frame was parsed for another EtherType than the one of the tag. -/
theorem untagged_of_parse {bytes : List UInt8} {frame : EthernetFrame}
    (h : parse bytes = some frame) :
    frame.vlanTag = none → frame.etherType ≠ EtherType.vlanTagged := by
  intro huntagged
  obtain ⟨_, outer, -, ⟨-, _, _, tag, -, -, -, hpayload⟩ | ⟨hplain, hpayload⟩⟩ := parse_cases h
  · rw [(parsePayload_some hpayload).2] at huntagged
    simp at huntagged
  · rw [(parsePayload_some hpayload).1]
    exact fun heq => hplain (congrArg EtherType.value heq)

-- ---------------------------------------------------------------------------
-- The format
-- ---------------------------------------------------------------------------

/-- **An accepted byte string is the serialized frame**, for both header layouts. -/
theorem serialize_of_parse {bytes : List UInt8} {frame : EthernetFrame}
    (h : parse bytes = some frame) : frame.serialize = bytes := by
  have hsplit {front : List UInt8} {offset : Nat}
      (hfront : bytes.take 12 ++ front = bytes.take offset) :
      bytes.take 12 ++ (front ++ bytes.drop offset) = bytes := by
    rw [← List.append_assoc, hfront, List.take_append_drop]
  obtain ⟨_, outer, houter, hcases⟩ := parse_cases h
  have houterBytes : encode outer = (bytes.drop 12).take 2 := encode_of_read houter
  rcases hcases with ⟨htagged, control, inner, tag, hcontrol, hinner, htag, hpayload⟩ |
    ⟨-, hpayload⟩
  · -- the tag protocol identifier, the control information and the inner EtherType
    have hcontrolBytes : encode control = (bytes.drop 14).take 2 := encode_of_read hcontrol
    have hinnerBytes : encode inner = (bytes.drop 16).take 2 := encode_of_read hinner
    rw [serialize_of_parsePayload hpayload, tagBytes,
      VlanTag.tagControlInformation_of_decoded htag, ← htagged, houterBytes, hcontrolBytes,
      slice_append bytes 12 2 2]
    rw [← List.append_assoc ((bytes.drop 12).take 4), hinnerBytes, slice_append bytes 12 4 2]
    exact hsplit (slice_append bytes 0 12 6)
  · rw [serialize_of_parsePayload hpayload, tagBytes, List.nil_append, houterBytes]
    exact hsplit (slice_append bytes 0 12 2)

/-- A frame is in the image of the parser unless it is untagged with the EtherType of
the tag. -/
theorem exact_parse :
    Exact (fun frame : EthernetFrame =>
      frame.vlanTag = none → frame.etherType ≠ EtherType.vlanTagged) serialize parse where
  decode_encode := fun _ huntagged => parse_serialize huntagged
  encode_decode := fun _ _ => serialize_of_parse
  valid_decode := fun _ _ => untagged_of_parse

/-- **A created frame parses back to itself unless it is untagged with EtherType 0x8100**,
which `create` accepts and the parser takes for a tag. -/
theorem ethernet_round_trip_iff {destination source : MacAddress} {etherType : EtherType}
    {payload : List UInt8} {vlanTag : Option VlanTag} {frame : EthernetFrame}
    (h : create destination source etherType payload vlanTag = some frame) :
    parse frame.serialize = some frame ↔
      ¬ (vlanTag = none ∧ etherType = EtherType.vlanTagged) := by
  obtain ⟨-, -, htype, -, htag⟩ := create_eq_some h
  rw [exact_parse.decode_encode_iff, htype, htag, not_and]

theorem ethernet_round_trip_of_tagged :
    ∃ frame, create MacAddress.unspecified MacAddress.unspecified EtherType.vlanTagged [0, 1, 8, 0]
        (some ⟨⟨1, by decide, by decide⟩, 0, false, by decide⟩) = some frame ∧
      parse frame.serialize = some frame := by
  obtain ⟨frame, hframe⟩ : ∃ frame, create MacAddress.unspecified MacAddress.unspecified
      EtherType.vlanTagged [0, 1, 8, 0]
        (some ⟨⟨1, by decide, by decide⟩, 0, false, by decide⟩) = some frame := ⟨_, rfl⟩
  have htagged : ¬ ((some ⟨⟨1, by decide, by decide⟩, 0, false, by decide⟩ : Option VlanTag) =
      none ∧ EtherType.vlanTagged = EtherType.vlanTagged) := by simp
  exact ⟨frame, hframe, (ethernet_round_trip_iff hframe).mpr htagged⟩

/-- Such a frame is refused when its payload is too short for a tag, and read as a tagged
frame when it is not. -/
theorem untagged_vlan_type_lost :
    (∃ frame, create MacAddress.unspecified MacAddress.unspecified EtherType.vlanTagged []
        none = some frame ∧
      parse frame.serialize = none) ∧
    ∃ frame tagged, create MacAddress.unspecified MacAddress.unspecified EtherType.vlanTagged
        [0, 1, 8, 0] none = some frame ∧
      parse frame.serialize = some tagged ∧ tagged ≠ frame :=
  ⟨⟨_, rfl, by decide⟩, ⟨_, _, rfl, rfl, by decide⟩⟩

end EthernetFrame

end SiliconSwitch.Network
