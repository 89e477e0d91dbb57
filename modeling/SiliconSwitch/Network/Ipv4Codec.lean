import SiliconSwitch.Network.InternetChecksum

/-!
# The IPv4 wire format

The octet layout of an IPv4 header, and the round trip of a packet.

* `Ipv4Packet.serialize_eq_layout` — the buffer writes of `serialize` produce the layout;
* `Ipv4Packet.parse_serialize`  — a serialized packet parses back to itself;
* `Ipv4Packet.headerWith_of_parse` — what is accepted is a packet's octets with a checksum
  that validates;
* `Ipv4Packet.ipv4_format`      — so the format is exact up to the second zero.
-/

namespace SiliconSwitch.Network

open SiliconSwitch.Library SiliconSwitch.Library.OnesComplement

-- ---------------------------------------------------------------------------
-- The octet layout
-- ---------------------------------------------------------------------------

namespace Ipv4Packet

/-- The flags and the fragment offset of a packet. -/
def flagsAndFragment (packet : Ipv4Packet) : UInt16 :=
  if packet.dontFragment then dontFragmentMask else 0

/-- The header octets before the checksum. -/
def headerFront (packet : Ipv4Packet) : List UInt8 :=
  [versionAndHeaderLength, supportedDifferentiatedServices] ++
    (encode (UInt16.ofNat (headerSize + packet.payload.length)) ++
      (encode packet.identification ++
        (encode packet.flagsAndFragment ++ [packet.timeToLive, packet.protocol.value])))

/-- The header octets after the checksum. -/
def headerBack (packet : Ipv4Packet) : List UInt8 :=
  encode packet.source.value ++ encode packet.destination.value

/-- The checksum of a packet's header. -/
def headerChecksum (packet : Ipv4Packet) : UInt16 :=
  computeInternetChecksum (packet.headerFront ++ (zeros 2 ++ packet.headerBack))

/-- The octets of a header. -/
def header (packet : Ipv4Packet) : List UInt8 :=
  packet.headerFront ++ (encode packet.headerChecksum ++ packet.headerBack)

@[simp] theorem length_headerFront (packet : Ipv4Packet) : packet.headerFront.length = 10 := by
  simp [headerFront]

@[simp] theorem length_headerBack (packet : Ipv4Packet) : packet.headerBack.length = 8 := by
  simp [headerBack]

@[simp] theorem length_header (packet : Ipv4Packet) : packet.header.length = headerSize := by
  simp [header, headerSize]

/-- The octets of a header with `checksum` in the place of its own. -/
def headerWith (packet : Ipv4Packet) (checksum : UInt16) : List UInt8 :=
  packet.headerFront ++ (encode checksum ++ packet.headerBack)

theorem header_eq (packet : Ipv4Packet) :
    packet.header = packet.headerWith packet.headerChecksum := rfl

@[simp] theorem length_headerWith (packet : Ipv4Packet) (checksum : UInt16) :
    (packet.headerWith checksum).length = headerSize := by
  simp [headerWith, headerSize]

theorem hasValidInternetChecksum_header (packet : Ipv4Packet) :
    hasValidInternetChecksum packet.header = true :=
  (hasValidInternetChecksum_iff (by simp) _ _).mpr (Or.inl rfl)

/-- The buffer writes of `serialize` produce the octet layout. -/
theorem serialize_eq_layout (packet : Ipv4Packet) :
    packet.serialize = packet.header ++ packet.payload := by
  -- the zero-filled buffer, cut where the fields are written
  have hbuffer : (((((zeros (headerSize + packet.payload.length)).set 0
      versionAndHeaderLength).set 1 supportedDifferentiatedServices).set 8
        packet.timeToLive).set 9 packet.protocol.value) =
      [versionAndHeaderLength, supportedDifferentiatedServices] ++ (zeros 2 ++ (zeros 2 ++
        (zeros 2 ++ ([packet.timeToLive, packet.protocol.value] ++ (zeros 2 ++ (zeros 4 ++
          (zeros 4 ++ zeros packet.payload.length))))))) := by
    rw [zeros, headerSize, List.replicate_add]
    rfl
  have htotal : 2 + (2 + (2 + (2 + (2 + (2 + (4 + (4 + packet.payload.length))))))) =
      headerSize + packet.payload.length := by
    unfold headerSize
    omega
  -- the buffer once all fields but `field`, the checksum, have been written
  have hwritten : ∀ field : List UInt8,
      [versionAndHeaderLength, supportedDifferentiatedServices] ++
        (encode (UInt16.ofNat (headerSize + packet.payload.length)) ++
          (encode packet.identification ++
            (encode (if packet.dontFragment then dontFragmentMask else 0) ++
              ([packet.timeToLive, packet.protocol.value] ++ (field ++
                (encode packet.source.value ++ (encode packet.destination.value ++
                  zeros packet.payload.length))))))) =
      packet.headerFront ++ (field ++ packet.headerBack) ++ zeros packet.payload.length := by
    intro field
    simp only [headerFront, headerBack, flagsAndFragment, List.append_assoc]
  simp only [serialize, hbuffer]
  simp (disch := simp) only [writeBigEndian_append_right, writeBigEndian_append_left,
    length_encode, length_zeros, List.length_cons, List.length_nil, List.length_append,
    WireInteger.size_uint16, WireInteger.size_uint32, Nat.reduceSub, Nat.reduceAdd,
    Nat.zero_add, Option.map_some, Option.bind_some, htotal, hwritten]
  -- the checksum, over a header with zeros in its place
  have hchecksum : writeBigEndian packet.headerChecksum
      (packet.headerFront ++ (zeros 2 ++ packet.headerBack) ++ zeros packet.payload.length) 10 =
        some (packet.header ++ zeros packet.payload.length) := by
    rw [header, List.append_assoc, List.append_assoc]
    simp (disch := simp) only [writeBigEndian_append_right, writeBigEndian_append_left,
      length_headerFront, Nat.sub_self, Option.map_some, List.append_assoc]
  rw [List.take_left' (by simp [headerSize]), ← headerChecksum, hchecksum]
  dsimp only
  rw [splice_zeros (length_header packet).symm, Nat.sub_self, zeros_zero, List.append_nil]

/-- The header as one list of fields, in front of what follows it. -/
theorem headerWith_append (packet : Ipv4Packet) (checksum : UInt16) (rest : List UInt8) :
    packet.headerWith checksum ++ rest =
      [versionAndHeaderLength, supportedDifferentiatedServices] ++
        (encode (UInt16.ofNat (headerSize + packet.payload.length)) ++
          (encode packet.identification ++
            (encode packet.flagsAndFragment ++
              ([packet.timeToLive, packet.protocol.value] ++
                (encode checksum ++
                  (encode packet.source.value ++
                    (encode packet.destination.value ++ rest))))))) := by
  simp only [headerWith, headerFront, headerBack, List.append_assoc]

theorem flagsAndFragment_unsupported (packet : Ipv4Packet) :
    packet.flagsAndFragment &&& unsupportedFragmentationMask = 0 := by
  rw [flagsAndFragment]
  split <;> rfl

theorem flagsAndFragment_dontFragment (packet : Ipv4Packet) :
    (packet.flagsAndFragment &&& dontFragmentMask != 0) = packet.dontFragment := by
  rw [flagsAndFragment]
  cases packet.dontFragment <;> rfl

/-- The supported flags say no more than whether the packet may be fragmented. -/
theorem flagsAndFragment_of_supported {flags : UInt16}
    (h : flags &&& unsupportedFragmentationMask = 0) :
    (if (flags &&& dontFragmentMask != 0) = true then dontFragmentMask else 0) = flags := by
  have hsupported : flags &&& dontFragmentMask = flags := by
    apply UInt16.toBitVec_inj.mp
    have hrest : flags.toBitVec &&& 0xBFFF#16 = 0#16 := congrArg UInt16.toBitVec h
    have hmask : flags.toBitVec &&& (0xBFFF#16 ||| 0x4000#16) = flags.toBitVec :=
      BitVec.and_allOnes
    rw [BitVec.and_or_distrib_left, hrest, BitVec.zero_or] at hmask
    exact hmask
  have hbit := and_bit (show dontFragmentMask.toNat = 2 ^ 14 from rfl) flags
  rw [hsupported] at hbit ⊢
  rw [hbit]
  cases flags.toNat.testBit 14 <;> rfl

/-- What `parse` reads from a packet, whatever stands in its checksum field. -/
theorem fields_headerWith (packet : Ipv4Packet) (checksum : UInt16) (rest : List UInt8) :
    (packet.headerWith checksum ++ rest).getD 0 0 = versionAndHeaderLength ∧
      (packet.headerWith checksum ++ rest).getD 1 0 = supportedDifferentiatedServices ∧
      readBigEndian UInt16 (packet.headerWith checksum ++ rest) 2 =
        some (UInt16.ofNat (headerSize + packet.payload.length)) ∧
      readBigEndian UInt16 (packet.headerWith checksum ++ rest) 4 =
        some packet.identification ∧
      readBigEndian UInt16 (packet.headerWith checksum ++ rest) 6 =
        some packet.flagsAndFragment ∧
      (packet.headerWith checksum ++ rest).getD 8 0 = packet.timeToLive ∧
      (packet.headerWith checksum ++ rest).getD 9 0 = packet.protocol.value ∧
      readBigEndian UInt32 (packet.headerWith checksum ++ rest) 12 = some packet.source.value ∧
      readBigEndian UInt32 (packet.headerWith checksum ++ rest) 16 =
        some packet.destination.value := by
  rw [headerWith_append]
  refine ⟨rfl, rfl, ?_⟩
  simp (disch := simp) only [readBigEndian_append_right, readBigEndian_encode_append,
    List.getD_append_right, length_encode, List.length_cons, List.length_nil,
    WireInteger.size_uint16, WireInteger.size_uint32, Nat.reduceSub, Nat.reduceAdd, Nat.zero_add]
  exact ⟨trivial, trivial, trivial, rfl, rfl, trivial, trivial⟩

/-- A packet parses back from its octets with any checksum that validates. -/
theorem parse_headerWith {packet : Ipv4Packet} {checksum : UInt16}
    (hvalid : hasValidInternetChecksum (packet.headerWith checksum) = true) :
    parse (packet.headerWith checksum ++ packet.payload) = some packet := by
  obtain ⟨hversion, hservices, htotal, hidentification, hflags, httl, hprotocol, hsource,
    hdestination⟩ := fields_headerWith packet checksum packet.payload
  have hlength : (packet.headerWith checksum ++ packet.payload).length =
      headerSize + packet.payload.length := by
    rw [List.length_append, length_headerWith]
  have hheader : (packet.headerWith checksum ++ packet.payload).take headerSize =
      packet.headerWith checksum := List.take_left' (length_headerWith packet checksum)
  have hpayload : (packet.headerWith checksum ++ packet.payload).drop headerSize =
      packet.payload := List.drop_left' (length_headerWith packet checksum)
  have hfits : (UInt16.ofNat (headerSize + packet.payload.length)).toNat =
      headerSize + packet.payload.length := by
    have hfits := packet.payload_le
    unfold maximumPayloadSize maximumPacketSize headerSize at hfits
    rw [UInt16.toNat_ofNat', headerSize]
    exact Nat.mod_eq_of_lt (by omega)
  have haccepted : ¬ ((packet.headerWith checksum ++ packet.payload).length < headerSize ∨
      (packet.headerWith checksum ++ packet.payload).getD 0 0 ≠ versionAndHeaderLength ∨
      (packet.headerWith checksum ++ packet.payload).getD 1 0 ≠
        supportedDifferentiatedServices) := by
    rw [hversion, hservices, hlength]
    simp
  rw [parse, if_neg haccepted, htotal, hidentification, hflags, hsource, hdestination]
  dsimp only
  rw [hfits, hheader, hpayload, hlength, httl, hprotocol, flagsAndFragment_unsupported,
    flagsAndFragment_dontFragment, hvalid, if_neg]
  · rw [create, dif_neg]
    rintro (hlarge | hzero)
    · exact absurd packet.payload_le (Nat.not_le_of_gt hlarge)
    · exact packet.timeToLive_ne_zero hzero
  · simp [packet.timeToLive_ne_zero]

/-- **A serialized packet parses back to itself.** -/
theorem parse_serialize (packet : Ipv4Packet) : parse packet.serialize = some packet := by
  rw [serialize_eq_layout, header_eq]
  exact parse_headerWith packet.hasValidInternetChecksum_header

/-- **What is accepted is a packet's octets**, with a checksum that validates. -/
theorem headerWith_of_parse {bytes : List UInt8} {packet : Ipv4Packet}
    (h : parse bytes = some packet) :
    ∃ checksum, bytes = packet.headerWith checksum ++ packet.payload ∧
      hasValidInternetChecksum (packet.headerWith checksum) = true := by
  unfold parse at h
  rw [Option.ite_none_left_eq_some] at h
  obtain ⟨hstart, h⟩ := h
  simp only [not_or, not_not, Nat.not_lt] at hstart
  obtain ⟨hsize, hversion, hservices⟩ := hstart
  have hroom : 20 ≤ bytes.length := hsize
  split at h
  · rename_i total identification flags source destination htotal hidentification hflags hsource
      hdestination
    rw [Option.ite_none_left_eq_some] at h
    obtain ⟨hfields, h⟩ := h
    simp only [not_or, not_not, Bool.not_eq_false] at hfields
    obtain ⟨hlength, -, hsupported, -, hvalid⟩ := hfields
    rw [create, Option.dite_none_left_eq_some] at h
    obtain ⟨_, h⟩ := h
    rw [Option.some.injEq] at h
    subst h
    obtain ⟨checksum, hchecksum⟩ : ∃ checksum, readBigEndian UInt16 bytes 10 = some checksum :=
      exists_readBigEndian (by rw [WireInteger.size_uint16]; omega)
    have hcount : UInt16.ofNat (headerSize + (bytes.drop headerSize).length) = total := by
      rw [List.length_drop, Nat.add_sub_cancel' hsize, ← hlength, UInt16.ofNat_toNat]
    have hfirst : [versionAndHeaderLength, supportedDifferentiatedServices] =
        (bytes.drop 0).take 2 := by
      rw [slice_two (by omega), hversion, hservices]
    have hmiddle : [bytes.getD 8 0, bytes.getD 9 0] = (bytes.drop 8).take 2 :=
      (slice_two (by omega)).symm
    refine ⟨checksum, ?_, ?_⟩
    all_goals
      rw [headerWith, headerFront, headerBack, flagsAndFragment]
      dsimp only
      rw [flagsAndFragment_of_supported hsupported, hcount, hfirst, hmiddle,
        encode_of_read htotal, encode_of_read hidentification, encode_of_read hflags,
        encode_of_read hchecksum, encode_of_read hsource, encode_of_read hdestination]
      simp only [WireInteger.size_uint16, WireInteger.size_uint32]
      rw [slice_append bytes 6 2 2, slice_append bytes 4 2 4, slice_append bytes 2 2 6,
        slice_append bytes 0 2 8, slice_append bytes 12 4 4, slice_append bytes 10 2 8,
        slice_append bytes 0 10 10]
    · exact (List.take_append_drop 20 bytes).symm
    · exact hvalid
  · simp at h

-- ---------------------------------------------------------------------------
-- The format
-- ---------------------------------------------------------------------------

/-- The header words of a byte string other than its checksum. -/
def otherWords (bytes : List UInt8) : List UInt8 := bytes.take 10 ++ (bytes.drop 12).take 8

theorem otherWords_headerWith (packet : Ipv4Packet) (checksum : UInt16) (rest : List UInt8) :
    otherWords (packet.headerWith checksum ++ rest) = packet.headerFront ++ packet.headerBack := by
  have hsplit : packet.headerWith checksum ++ rest =
      (packet.headerFront ++ encode checksum) ++ (packet.headerBack ++ rest) := by
    simp only [headerWith, List.append_assoc]
  rw [otherWords, hsplit, List.drop_left' (by simp), List.take_left' (length_headerBack packet),
    List.append_assoc, List.take_left' (length_headerFront packet)]

theorem readBigEndian_headerWith (packet : Ipv4Packet) (checksum : UInt16) (rest : List UInt8) :
    readBigEndian UInt16 (packet.headerWith checksum ++ rest) 10 = some checksum := by
  rw [headerWith, List.append_assoc, List.append_assoc,
    readBigEndian_append_right (Nat.le_of_eq (length_headerFront packet)), length_headerFront]
  exact readBigEndian_encode_append checksum _

theorem headerWith_append_inj {packet : Ipv4Packet} {first second : UInt16} {rest : List UInt8} :
    packet.headerWith first ++ rest = packet.headerWith second ++ rest ↔ first = second := by
  constructor
  · intro heq
    have hread := readBigEndian_headerWith packet first rest
    rw [heq, readBigEndian_headerWith, Option.some.injEq] at hread
    exact hread.symm
  · rintro rfl
    rfl

/-- The checksum is in two octets of the header, and in no other. -/
theorem getElem?_headerWith (packet : Ipv4Packet) (first second : UInt16) (rest : List UInt8)
    {index : Nat} (hhigh : index ≠ 10) (hlow : index ≠ 11) :
    (packet.headerWith first ++ rest)[index]? = (packet.headerWith second ++ rest)[index]? := by
  simp only [headerWith, List.append_assoc]
  have hfront := length_headerFront packet
  rcases Nat.lt_or_ge index 10 with hbefore | hafter
  · rw [List.getElem?_append_left (by omega), List.getElem?_append_left (by omega)]
  · have hskip : ∀ checksum : UInt16,
        (packet.headerFront ++ (encode checksum ++ (packet.headerBack ++ rest)))[index]? =
          (packet.headerBack ++ rest)[index - 12]? := by
      intro checksum
      have hfield : (encode checksum).length = 2 := length_encode checksum
      rw [List.getElem?_append_right (by omega), List.getElem?_append_right (by omega), hfront,
        hfield, Nat.sub_sub]
    rw [hskip first, hskip second]

/-- The checksum is zero if the other words sum to all ones. -/
theorem headerChecksum_eq_zero (packet : Ipv4Packet) :
    packet.headerChecksum = 0 ↔
      residue wordBase (wordTotal (packet.headerFront ++ packet.headerBack)) = 0xFFFF := by
  have heven : packet.headerFront.length % 2 = 0 := by simp
  rw [headerChecksum, computeInternetChecksum_eq_zero, wordTotal_field heven (length_zeros 2),
    wordTotal_append heven]
  rfl

/-- **The wire format is exact up to the checksum alias.** A created packet parses back from
its octets. An accepted byte string is as long as the serialized packet and agrees with it
outside the checksum field. It differs there exactly if it stores all ones where the
computed checksum is zero, that is where the other words of the header sum to all ones. -/
theorem ipv4_format :
    (∀ (source destination : Ipv4Address) (protocol : IpProtocol) (payload : List UInt8)
        (timeToLive : UInt8) (identification : UInt16) (dontFragment : Bool)
        (packet : Ipv4Packet),
      create source destination protocol payload timeToLive identification dontFragment =
        some packet →
      parse packet.serialize = some packet) ∧
    ∀ (bytes : List UInt8) (packet : Ipv4Packet), parse bytes = some packet →
      packet.serialize.length = bytes.length ∧
      (∀ index, index ≠ 10 → index ≠ 11 → packet.serialize[index]? = bytes[index]?) ∧
      (packet.serialize ≠ bytes ↔
        readBigEndian UInt16 bytes 10 = some 0xFFFF ∧
          readBigEndian UInt16 packet.serialize 10 = some 0) ∧
      (packet.serialize ≠ bytes ↔
        readBigEndian UInt16 bytes 10 = some 0xFFFF ∧
          residue wordBase (wordTotal (otherWords bytes)) = 0xFFFF) := by
  refine ⟨fun _ _ _ _ _ _ _ packet _ => parse_serialize packet, ?_⟩
  intro bytes packet hparse
  obtain ⟨stored, rfl, hvalid⟩ := headerWith_of_parse hparse
  rw [headerWith, hasValidInternetChecksum_iff (by simp), ← headerChecksum] at hvalid
  have hserialize : packet.serialize =
      packet.headerWith packet.headerChecksum ++ packet.payload := by
    rw [serialize_eq_layout, header_eq]
  have halias : packet.serialize ≠ packet.headerWith stored ++ packet.payload ↔
      stored = 0xFFFF ∧ packet.headerChecksum = 0 := by
    rw [hserialize, ne_eq, headerWith_append_inj]
    constructor
    · intro hdiffer
      rcases hvalid with hsame | ⟨hzero, hones⟩
      · exact absurd hsame.symm hdiffer
      · exact ⟨hones, hzero⟩
    · rintro ⟨rfl, hzero⟩
      rw [hzero]
      decide
  refine ⟨?_, ?_, ?_, ?_⟩
  · rw [hserialize, List.length_append, List.length_append, length_headerWith, length_headerWith]
  · intro index hhigh hlow
    rw [hserialize]
    exact getElem?_headerWith packet _ _ _ hhigh hlow
  · rw [halias, hserialize, readBigEndian_headerWith, readBigEndian_headerWith,
      Option.some.injEq, Option.some.injEq]
  · rw [halias, otherWords_headerWith, readBigEndian_headerWith, Option.some.injEq,
      headerChecksum_eq_zero]

end Ipv4Packet

end SiliconSwitch.Network
