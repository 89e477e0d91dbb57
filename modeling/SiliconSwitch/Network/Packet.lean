import SiliconSwitch.Network.Address

/-!
# IPv4 and ARP packets

The Internet checksum, `Ipv4Packet` and `ArpPacket`, with the checked parsers
and the buffer writes of the source.
-/

namespace SiliconSwitch.Network

open SiliconSwitch.Library

-- ---------------------------------------------------------------------------
-- Internet checksum
-- ---------------------------------------------------------------------------

def foldCarry (value : UInt32) : UInt32 := (value &&& (0xFFFF : UInt32)) + (value >>> (16 : UInt32))

/-- The loop of `compute_internet_checksum`: whole words, then an odd last byte. -/
def checksumLoop (sum : UInt32) : List UInt8 → UInt32
  | high :: low :: rest =>
    let word : UInt16 := (high.toUInt16 <<< 8) ||| low.toUInt16
    checksumLoop (foldCarry (sum + word.toUInt32)) rest
  | [last] =>
    let finalWord : UInt16 := last.toUInt16 <<< 8
    foldCarry (sum + finalWord.toUInt32)
  | [] => sum

def computeInternetChecksum (bytes : List UInt8) : UInt16 :=
  (~~~foldCarry (checksumLoop 0 bytes) &&& (0xFFFF : UInt32)).toUInt16

def hasValidInternetChecksum (bytes : List UInt8) : Bool :=
  !bytes.isEmpty && computeInternetChecksum bytes == 0

-- ---------------------------------------------------------------------------
-- IPv4 packets
-- ---------------------------------------------------------------------------

namespace Ipv4Packet

def headerSize : Nat := 20
def maximumPacketSize : Nat := 65535
def maximumPayloadSize : Nat := maximumPacketSize - headerSize

def versionAndHeaderLength : UInt8 := 0x45
def supportedDifferentiatedServices : UInt8 := 0
def dontFragmentMask : UInt16 := 0x4000
def unsupportedFragmentationMask : UInt16 := 0xBFFF

end Ipv4Packet

structure Ipv4Packet where
  source : Ipv4Address
  destination : Ipv4Address
  protocol : IpProtocol
  payload : List UInt8
  timeToLive : UInt8
  identification : UInt16
  dontFragment : Bool
  payload_le : payload.length ≤ Ipv4Packet.maximumPayloadSize
  timeToLive_ne_zero : timeToLive ≠ 0
deriving DecidableEq

namespace Ipv4Packet

def create (source destination : Ipv4Address) (protocol : IpProtocol) (payload : List UInt8)
    (timeToLive : UInt8) (identification : UInt16) (dontFragment : Bool) : Option Ipv4Packet :=
  if h : payload.length > maximumPayloadSize ∨ timeToLive = 0 then none
  else some {
    source, destination, protocol, payload, timeToLive, identification, dontFragment
    payload_le := by omega
    timeToLive_ne_zero := fun hzero => h (Or.inr hzero) }

def parse (bytes : List UInt8) : Option Ipv4Packet :=
  if bytes.length < headerSize ∨ bytes.getD 0 0 ≠ versionAndHeaderLength ∨
      bytes.getD 1 0 ≠ supportedDifferentiatedServices then none
  else
    match readBigEndian UInt16 bytes 2, readBigEndian UInt16 bytes 4, readBigEndian UInt16 bytes 6,
      readBigEndian UInt32 bytes 12, readBigEndian UInt32 bytes 16 with
    | some totalLength, some identification, some flagsAndFragment, some source, some destination =>
      if totalLength.toNat ≠ bytes.length ∨ totalLength.toNat < headerSize ∨
          (flagsAndFragment &&& unsupportedFragmentationMask) ≠ 0 ∨ bytes.getD 8 0 = 0 ∨
          hasValidInternetChecksum (bytes.take headerSize) = false then none
      else
        create ⟨source⟩ ⟨destination⟩ ⟨bytes.getD 9 0⟩ (bytes.drop headerSize) (bytes.getD 8 0)
          identification ((flagsAndFragment &&& dontFragmentMask) != 0)
    | _, _, _, _, _ => none

def serialize (packet : Ipv4Packet) : List UInt8 :=
  let bytes := zeros (headerSize + packet.payload.length)
  let bytes := bytes.set 0 versionAndHeaderLength
  let bytes := bytes.set 1 supportedDifferentiatedServices
  let bytes := bytes.set 8 packet.timeToLive
  let bytes := bytes.set 9 packet.protocol.value
  let totalLength := UInt16.ofNat bytes.length
  let flagsAndFragment := if packet.dontFragment then dontFragmentMask else 0
  let header := (writeBigEndian totalLength bytes 2).bind fun bytes =>
    (writeBigEndian packet.identification bytes 4).bind fun bytes =>
    (writeBigEndian flagsAndFragment bytes 6).bind fun bytes =>
    (writeBigEndian packet.source.value bytes 12).bind fun bytes =>
    writeBigEndian packet.destination.value bytes 16
  match header with
  | none => []
  | some bytes =>
    match writeBigEndian (computeInternetChecksum (bytes.take headerSize)) bytes 10 with
    | none => []
    | some bytes => splice bytes headerSize packet.payload

/-- A parsed packet has the bytes that it was parsed from, header and payload. -/
theorem length_payload_of_parse {bytes : List UInt8} {packet : Ipv4Packet}
    (h : parse bytes = some packet) : headerSize + packet.payload.length = bytes.length := by
  rw [parse, Option.ite_none_left_eq_some] at h
  obtain ⟨hheader, h⟩ := h
  rw [not_or, Nat.not_lt] at hheader
  split at h
  · rw [Option.ite_none_left_eq_some, create, Option.dite_none_left_eq_some] at h
    obtain ⟨_, _, h⟩ := h
    rw [Option.some.injEq] at h
    rw [← h, List.length_drop]
    omega
  · simp at h

theorem length_serialize (packet : Ipv4Packet) :
    packet.serialize.length = headerSize + packet.payload.length := by
  -- every header field lies inside the buffer, so no write fails
  have hroom : ∀ {bytes : List UInt8} {offset width : Nat},
      bytes.length = headerSize + packet.payload.length → offset + width ≤ 20 →
      offset + width ≤ bytes.length := by
    intro bytes offset width hbytes hfit
    unfold headerSize at hbytes
    omega
  simp only [serialize]
  generalize hstart : (((((zeros (headerSize + packet.payload.length)).set 0
    versionAndHeaderLength).set 1 supportedDifferentiatedServices).set 8 packet.timeToLive).set 9
    packet.protocol.value) = start
  have hlength : start.length = headerSize + packet.payload.length := by
    simp [← hstart]
  obtain ⟨b1, h1, hl1⟩ := exists_writeBigEndian (UInt16.ofNat start.length) 2
    (hroom hlength (by simp))
  obtain ⟨b2, h2, hl2⟩ := exists_writeBigEndian packet.identification 4
    (hroom (hl1.trans hlength) (by simp))
  obtain ⟨b3, h3, hl3⟩ := exists_writeBigEndian
    (if packet.dontFragment then dontFragmentMask else 0) 6
    (hroom (hl2.trans (hl1.trans hlength)) (by simp))
  obtain ⟨b4, h4, hl4⟩ := exists_writeBigEndian packet.source.value 12
    (hroom (hl3.trans (hl2.trans (hl1.trans hlength))) (by simp))
  obtain ⟨b5, h5, hl5⟩ := exists_writeBigEndian packet.destination.value 16
    (hroom (hl4.trans (hl3.trans (hl2.trans (hl1.trans hlength)))) (by simp))
  have hall : b5.length = headerSize + packet.payload.length := by omega
  obtain ⟨b6, h6, hl6⟩ := exists_writeBigEndian
    (computeInternetChecksum (b5.take headerSize)) 10 (hroom hall (by simp))
  simp only [h1, h2, h3, h4, h5, h6, Option.bind_some]
  rw [length_splice (by omega), hl6, hall]

end Ipv4Packet

-- ---------------------------------------------------------------------------
-- ARP packets
-- ---------------------------------------------------------------------------

inductive ArpOperation
  | request
  | reply
deriving DecidableEq

namespace ArpOperation

def value : ArpOperation → UInt16
  | request => 1
  | reply => 2

end ArpOperation

/-- A request leaves the target MAC unspecified; a reply names a unicast one. -/
structure ArpPacket where
  operation : ArpOperation
  senderMac : MacAddress
  senderIp : Ipv4Address
  targetMac : MacAddress
  targetIp : Ipv4Address
  senderMac_valid : senderMac.isNonzeroUnicast = true
  targetMac_valid : match operation with
    | .request => targetMac = MacAddress.unspecified
    | .reply => targetMac.isNonzeroUnicast = true
deriving DecidableEq

namespace ArpPacket

def serializedSize : Nat := 28
def ethernetHardwareType : UInt16 := 1
def ethernetAddressLength : UInt8 := 6
def ipv4AddressLength : UInt8 := 4

/-- `is_valid_unicast`. -/
def isValidUnicast (address : MacAddress) : Bool := address.isNonzeroUnicast

def createRequest (senderMac : MacAddress) (senderIp targetIp : Ipv4Address) : Option ArpPacket :=
  if h : isValidUnicast senderMac then
    some ⟨.request, senderMac, senderIp, MacAddress.unspecified, targetIp, h, rfl⟩
  else none

def createReply (senderMac : MacAddress) (senderIp : Ipv4Address) (targetMac : MacAddress)
    (targetIp : Ipv4Address) : Option ArpPacket :=
  if h : isValidUnicast senderMac ∧ isValidUnicast targetMac then
    some ⟨.reply, senderMac, senderIp, targetMac, targetIp, h.1, h.2⟩
  else none

/-- `create_parsed_packet`. -/
def createParsedPacket (operation : ArpOperation) (senderMac : MacAddress)
    (senderIp : Ipv4Address) (targetMac : MacAddress) (targetIp : Ipv4Address) :
    Option ArpPacket :=
  match operation with
  | .request =>
    if targetMac ≠ MacAddress.unspecified then none
    else createRequest senderMac senderIp targetIp
  | .reply => createReply senderMac senderIp targetMac targetIp

def parse (bytes : List UInt8) : Option ArpPacket :=
  if hsize : bytes.length ≠ serializedSize then none
  else
    match readBigEndian UInt16 bytes 0, readBigEndian UInt16 bytes 2, readBigEndian UInt16 bytes 6,
      readBigEndian UInt32 bytes 14, readBigEndian UInt32 bytes 24 with
    | some hardwareType, some protocolType, some operation, some senderIp, some targetIp =>
      if hardwareType ≠ ethernetHardwareType ∨ protocolType ≠ EtherType.ipv4.value ∨
          bytes.getD 4 0 ≠ ethernetAddressLength ∨ bytes.getD 5 0 ≠ ipv4AddressLength then none
      else
        let create := fun operation => createParsedPacket operation
          (MacAddress.read bytes 8 (by unfold serializedSize at hsize; omega)) ⟨senderIp⟩
          (MacAddress.read bytes 18 (by unfold serializedSize at hsize; omega)) ⟨targetIp⟩
        if operation = ArpOperation.request.value then create .request
        else if operation = ArpOperation.reply.value then create .reply
        else none
    | _, _, _, _, _ => none

def serialize (packet : ArpPacket) : List UInt8 :=
  let fields := (writeBigEndian ethernetHardwareType (zeros serializedSize) 0).bind fun bytes =>
    (writeBigEndian EtherType.ipv4.value bytes 2).bind fun bytes =>
    (writeBigEndian packet.operation.value bytes 6).bind fun bytes =>
    (writeBigEndian packet.senderIp.value bytes 14).bind fun bytes =>
    writeBigEndian packet.targetIp.value bytes 24
  match fields with
  | none => []
  | some bytes =>
    let bytes := bytes.set 4 ethernetAddressLength
    let bytes := bytes.set 5 ipv4AddressLength
    let bytes := splice bytes 8 packet.senderMac.bytes
    splice bytes 18 packet.targetMac.bytes

end ArpPacket

end SiliconSwitch.Network
