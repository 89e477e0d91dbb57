import SiliconSwitch.Library.Codec
import SiliconSwitch.Network.Packet

/-!
# The ARP wire format

The octet layout of an ARP packet, and that the parser accepts exactly what the
encoder writes for the packets of `create_request` and `create_reply`.

* `serialize_eq_layout` — the buffer writes of `serialize` produce the layout;
* `parse_serialize` — a serialized packet parses back to itself;
* `serialize_of_parse` — an accepted byte string is the serialized packet;
* `arp_image` — so the accepted byte strings are the image of the encoder.
-/

namespace SiliconSwitch.Network.ArpPacket

open SiliconSwitch.Library

-- ---------------------------------------------------------------------------
-- The factories
-- ---------------------------------------------------------------------------

/-- `create_request` or `create_reply` returns the packet. -/
def Obtainable (packet : ArpPacket) : Prop :=
  (∃ senderMac senderIp targetIp, createRequest senderMac senderIp targetIp = some packet) ∨
    ∃ senderMac senderIp targetMac targetIp,
      createReply senderMac senderIp targetMac targetIp = some packet

/-- `create_parsed_packet` returns the packet of its arguments, if they make one. -/
theorem createParsedPacket_eq_some {operation : ArpOperation} {senderMac targetMac : MacAddress}
    {senderIp targetIp : Ipv4Address} {packet : ArpPacket} :
    createParsedPacket operation senderMac senderIp targetMac targetIp = some packet ↔
      packet.operation = operation ∧ packet.senderMac = senderMac ∧
        packet.senderIp = senderIp ∧ packet.targetMac = targetMac ∧
        packet.targetIp = targetIp := by
  constructor
  · intro h
    cases operation with
    | request =>
      rw [createParsedPacket, createRequest] at h
      split_ifs at h with htarget hsender
      rw [Option.some.injEq] at h
      subst h
      exact ⟨rfl, rfl, rfl, (not_not.mp htarget).symm, rfl⟩
    | reply =>
      rw [createParsedPacket, createReply] at h
      split_ifs at h with hvalid
      rw [Option.some.injEq] at h
      subst h
      exact ⟨rfl, rfl, rfl, rfl, rfl⟩
  · rintro ⟨rfl, rfl, rfl, rfl, rfl⟩
    obtain ⟨operation, senderMac, senderIp, targetMac, targetIp, hsender, htarget⟩ := packet
    cases operation with
    | request =>
      dsimp only at htarget
      subst htarget
      rw [createParsedPacket, if_neg (not_not.mpr rfl), createRequest]
      exact dif_pos hsender
    | reply =>
      rw [createParsedPacket, createReply]
      exact dif_pos ⟨hsender, htarget⟩

/-- Every packet comes from one of the factories. -/
theorem obtainable (packet : ArpPacket) : packet.Obtainable := by
  have hmade := createParsedPacket_eq_some.mpr
    (show packet.operation = packet.operation ∧ packet.senderMac = packet.senderMac ∧
      packet.senderIp = packet.senderIp ∧ packet.targetMac = packet.targetMac ∧
      packet.targetIp = packet.targetIp from ⟨rfl, rfl, rfl, rfl, rfl⟩)
  cases hoperation : packet.operation with
  | request =>
    rw [hoperation, createParsedPacket] at hmade
    split at hmade
    · simp at hmade
    · exact Or.inl ⟨_, _, _, hmade⟩
  | reply =>
    rw [hoperation, createParsedPacket] at hmade
    exact Or.inr ⟨_, _, _, _, hmade⟩

-- ---------------------------------------------------------------------------
-- The octet layout
-- ---------------------------------------------------------------------------

/-- The octets of a packet, field after field. -/
def layout (packet : ArpPacket) : List UInt8 :=
  encode ethernetHardwareType ++ (encode EtherType.ipv4.value ++
    ([ethernetAddressLength, ipv4AddressLength] ++ (encode packet.operation.value ++
      (packet.senderMac.bytes ++ (encode packet.senderIp.value ++
        (packet.targetMac.bytes ++ encode packet.targetIp.value))))))

@[simp] theorem length_layout (packet : ArpPacket) : packet.layout.length = serializedSize := by
  simp [layout, serializedSize, packet.senderMac.byte_count, packet.targetMac.byte_count]

/-- The buffer writes of `serialize` produce the octet layout. -/
theorem serialize_eq_layout (packet : ArpPacket) : packet.serialize = packet.layout := by
  -- the zero-filled buffer, cut where the fields are written
  have hbuffer : zeros serializedSize =
      zeros 2 ++ (zeros 2 ++ (zeros 2 ++ (zeros 2 ++ (zeros 6 ++ (zeros 4 ++ (zeros 6 ++
        (zeros 4 ++ []))))))) := rfl
  have hlengths : ∀ rest, ((zeros 2 ++ rest).set 0 ethernetAddressLength).set 1 ipv4AddressLength =
      [ethernetAddressLength, ipv4AddressLength] ++ rest := fun _ => rfl
  simp only [serialize, hbuffer]
  simp (disch := simp) only [writeBigEndian_append_right, writeBigEndian_append_left,
    length_encode, length_zeros, WireInteger.size_uint16, WireInteger.size_uint32,
    Nat.reduceSub, Option.map_some, Option.bind_some]
  -- the two length octets go into the third field, the addresses into theirs
  simp (disch := simp) only [List.set_append_right, length_encode, WireInteger.size_uint16,
    Nat.reduceSub, hlengths]
  simp (disch := simp [packet.senderMac.byte_count, packet.targetMac.byte_count]) only
    [splice_append_right, splice_append_left, length_encode, WireInteger.size_uint16,
      WireInteger.size_uint32, List.length_cons, List.length_nil, packet.senderMac.byte_count,
      Nat.reduceSub, Nat.reduceAdd, Nat.zero_add, List.append_nil]
  rfl

/-- What `parse` reads from the layout. -/
theorem fields_layout (packet : ArpPacket) :
    readBigEndian UInt16 packet.layout 0 = some ethernetHardwareType ∧
      readBigEndian UInt16 packet.layout 2 = some EtherType.ipv4.value ∧
      packet.layout.getD 4 0 = ethernetAddressLength ∧
      packet.layout.getD 5 0 = ipv4AddressLength ∧
      readBigEndian UInt16 packet.layout 6 = some packet.operation.value ∧
      readBigEndian UInt32 packet.layout 14 = some packet.senderIp.value ∧
      readBigEndian UInt32 packet.layout 24 = some packet.targetIp.value := by
  -- the last field stands in front of nothing
  rw [layout, ← List.append_nil (encode packet.targetIp.value)]
  simp (disch := simp [packet.senderMac.byte_count, packet.targetMac.byte_count]) only
    [readBigEndian_append_right, readBigEndian_encode_append, List.getD_append_right,
      length_encode, WireInteger.size_uint16, WireInteger.size_uint32, List.length_cons,
      List.length_nil, packet.senderMac.byte_count, packet.targetMac.byte_count,
      Nat.reduceSub, Nat.reduceAdd, Nat.zero_add]
  exact ⟨trivial, trivial, rfl, rfl, trivial, trivial, trivial⟩

/-- The addresses that `parse` copies out of the layout. -/
theorem addresses_layout (packet : ArpPacket) :
    (packet.layout.drop 8).take 6 = packet.senderMac.bytes ∧
      (packet.layout.drop 18).take 6 = packet.targetMac.bytes := by
  have hsender : packet.layout =
      (encode ethernetHardwareType ++ (encode EtherType.ipv4.value ++
        ([ethernetAddressLength, ipv4AddressLength] ++ encode packet.operation.value))) ++
      (packet.senderMac.bytes ++ (encode packet.senderIp.value ++
        (packet.targetMac.bytes ++ encode packet.targetIp.value))) := by
    simp only [layout, List.append_assoc]
  have htarget : packet.layout =
      (encode ethernetHardwareType ++ (encode EtherType.ipv4.value ++
        ([ethernetAddressLength, ipv4AddressLength] ++ (encode packet.operation.value ++
          (packet.senderMac.bytes ++ encode packet.senderIp.value))))) ++
      (packet.targetMac.bytes ++ encode packet.targetIp.value) := by
    simp only [layout, List.append_assoc]
  constructor
  · rw [hsender, List.drop_left' (by simp), List.take_left' packet.senderMac.byte_count]
  · rw [htarget, List.drop_left' (by simp [packet.senderMac.byte_count]),
      List.take_left' packet.targetMac.byte_count]

-- ---------------------------------------------------------------------------
-- The format
-- ---------------------------------------------------------------------------

/-- **A serialized packet parses back to itself.** -/
theorem parse_serialize (packet : ArpPacket) : parse packet.serialize = some packet := by
  obtain ⟨hhardware, hprotocol, hmacLength, hipLength, hoperation, hsenderIp, htargetIp⟩ :=
    fields_layout packet
  obtain ⟨hsender, htarget⟩ := addresses_layout packet
  have hmade {operation : ArpOperation} (h : packet.operation = operation) :
      createParsedPacket operation (MacAddress.read packet.layout 8 (by simp [serializedSize]))
        ⟨packet.senderIp.value⟩ (MacAddress.read packet.layout 18 (by simp [serializedSize]))
        ⟨packet.targetIp.value⟩ = some packet :=
    createParsedPacket_eq_some.mpr ⟨h, (MacAddress.read_eq hsender).symm, rfl,
      (MacAddress.read_eq htarget).symm, rfl⟩
  rw [serialize_eq_layout, parse, dif_neg (not_not.mpr (length_layout packet))]
  simp only [hhardware, hprotocol, hmacLength, hipLength, hoperation, hsenderIp, htargetIp]
  rw [if_neg (by simp)]
  cases hkind : packet.operation with
  | request =>
    rw [if_pos rfl]
    exact hmade hkind
  | reply =>
    rw [if_neg (by decide), if_pos rfl]
    exact hmade hkind

/-- **An accepted byte string is the serialized packet.** -/
theorem serialize_of_parse {bytes : List UInt8} {packet : ArpPacket}
    (h : parse bytes = some packet) : packet.serialize = bytes := by
  unfold parse at h
  rw [Option.dite_none_left_eq_some] at h
  obtain ⟨hsize, h⟩ := h
  rw [not_not, serializedSize] at hsize
  split at h
  · rename_i hardwareType protocolType operation senderIp targetIp hhardware hprotocol hoperation
      hsenderIp htargetIp
    rw [Option.ite_none_left_eq_some] at h
    obtain ⟨hfixed, h⟩ := h
    simp only [not_or, not_not] at hfixed
    obtain ⟨rfl, rfl, hmacLength, hipLength⟩ := hfixed
    have hkind : ∃ kind : ArpOperation, kind.value = operation ∧
        createParsedPacket kind (MacAddress.read bytes 8 (by omega)) ⟨senderIp⟩
          (MacAddress.read bytes 18 (by omega)) ⟨targetIp⟩ = some packet := by
      dsimp only at h
      split_ifs at h with hrequest hreply
      · exact ⟨.request, hrequest.symm, h⟩
      · exact ⟨.reply, hreply.symm, h⟩
    obtain ⟨kind, rfl, hmade⟩ := hkind
    obtain ⟨rfl, hsender, hsender', htarget, htarget'⟩ := createParsedPacket_eq_some.mp hmade
    have hlengths : [ethernetAddressLength, ipv4AddressLength] = (bytes.drop 4).take 2 := by
      rw [slice_two (by omega), hmacLength, hipLength]
    rw [serialize_eq_layout, layout, hsender, hsender', htarget, htarget', hlengths]
    -- every field is the slice it was read from
    simp only [encode_of_read hhardware, encode_of_read hprotocol, encode_of_read hoperation,
      encode_of_read hsenderIp, encode_of_read htargetIp, WireInteger.size_uint16,
      WireInteger.size_uint32, MacAddress.read]
    rw [slice_append bytes 18 6 4, slice_append bytes 14 4 10, slice_append bytes 8 6 14,
      slice_append bytes 6 2 20, slice_append bytes 4 2 22, slice_append bytes 2 2 24,
      slice_append bytes 0 2 26]
    exact List.take_of_length_le (Nat.le_of_eq hsize)
  · simp at h

theorem exact_parse : Exact Obtainable serialize parse where
  decode_encode := fun packet _ => parse_serialize packet
  encode_decode := fun _ _ => serialize_of_parse
  valid_decode := fun _ packet _ => packet.obtainable

/-- **The parser accepts the image of the encoder**: the octets of the packets that
`create_request` and `create_reply` return, each for its packet. -/
theorem arp_image (bytes : List UInt8) :
    ((∃ packet, parse bytes = some packet) ↔
      ∃ packet : ArpPacket, packet.Obtainable ∧ packet.serialize = bytes) ∧
    (∀ packet : ArpPacket, packet.Obtainable → packet.serialize = bytes →
      parse bytes = some packet) ∧
    ∀ packet, parse bytes = some packet → packet.serialize = bytes := by
  refine ⟨exact_parse.accepts_iff, ?_, ?_⟩
  · intro packet hobtainable hbytes
    exact exact_parse.decode_eq_some.mpr ⟨hobtainable, hbytes⟩
  · intro packet hparse
    exact exact_parse.encode_decode bytes packet hparse

end SiliconSwitch.Network.ArpPacket
