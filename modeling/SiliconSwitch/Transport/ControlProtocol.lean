import SiliconSwitch.Library.BigEndian
import SiliconSwitch.Library.Codec

/-!
# Control messages

The message of the control protocol: `ControlMessage::create`, `parse` and
`serialize`. The payload bound is a field of the structure.

* `serialize_eq_layout` — the buffer writes of `serialize` give the wire layout;
* `parse_serialize`     — parsing a serialized message gives it back;
* `serialize_of_parse`  — an accepted byte string is the serialized message.
-/

namespace SiliconSwitch.Transport

open SiliconSwitch.Library

-- ---------------------------------------------------------------------------
-- Types
-- ---------------------------------------------------------------------------

inductive ControlMessageType
  | createPort
  | removePort
  | setPortState
  | createVlan
  | removeVlan
  | addVlanMember
  | setRouterInterface
  | addOrReplaceRoute
  | removeRoute
  | addOrReplaceNeighbor
  | removeNeighbor
  | configureFaults
  | queryCounters
  | response
deriving DecidableEq

namespace ControlMessageType

/-- The value of the enumerator on the wire. -/
def code : ControlMessageType → UInt16
  | .createPort => 1
  | .removePort => 2
  | .setPortState => 3
  | .createVlan => 10
  | .removeVlan => 11
  | .addVlanMember => 12
  | .setRouterInterface => 20
  | .addOrReplaceRoute => 21
  | .removeRoute => 22
  | .addOrReplaceNeighbor => 23
  | .removeNeighbor => 24
  | .configureFaults => 30
  | .queryCounters => 40
  | .response => 100

/-- The cases of `known`. -/
def knownTypes : List ControlMessageType :=
  [.createPort, .removePort, .setPortState, .createVlan, .removeVlan, .addVlanMember,
   .setRouterInterface, .addOrReplaceRoute, .removeRoute, .addOrReplaceNeighbor,
   .removeNeighbor, .configureFaults, .queryCounters, .response]

/-- The cast of a 16-bit value, with `known`: no other value is a type. -/
def ofCode (code : UInt16) : Option ControlMessageType :=
  knownTypes.find? fun type => type.code == code

@[simp] theorem ofCode_code (type : ControlMessageType) : ofCode type.code = some type := by
  cases type <;> rfl

theorem code_of_ofCode {code : UInt16} {type : ControlMessageType} (h : ofCode code = some type) :
    type.code = code := by
  simpa using List.find?_some h

end ControlMessageType

inductive ControlParseError
  | truncated
  | invalidMagic
  | unsupportedVersion
  | unknownMessageType
  | payloadTooLarge
  | lengthMismatch
deriving DecidableEq

def controlMagic : UInt32 := 0x53534350

namespace ControlMessage

def currentVersion : UInt16 := 1
def headerSize : Nat := 16
def maximumPayloadSize : Nat := 1048576

end ControlMessage

structure ControlMessage where
  type : ControlMessageType
  requestId : UInt32
  payload : List UInt8
  payload_le : payload.length ≤ ControlMessage.maximumPayloadSize
deriving DecidableEq

namespace ControlMessage

/-- The enumeration of the source can hold any 16-bit value, which `known` checks. -/
def create (type : UInt16) (requestId : UInt32) (payload : List UInt8) : Option ControlMessage :=
  match ControlMessageType.ofCode type with
  | none => none
  | some type =>
    if h : payload.length > maximumPayloadSize then none
    else some { type, requestId, payload, payload_le := Nat.le_of_not_lt h }

-- The reads go through `value()`, which the size check above keeps from throwing.
def parse (bytes : List UInt8) : Except ControlParseError ControlMessage :=
  if hsize : bytes.length < headerSize then .error .truncated
  else
    have hheader : 16 ≤ bytes.length := Nat.le_of_not_lt hsize
    let wireMagic := readWithin UInt32 bytes 0 (by simp; omega)
    let version := readWithin UInt16 bytes 4 (by simp; omega)
    let rawType := readWithin UInt16 bytes 6 (by simp; omega)
    let request := readWithin UInt32 bytes 8 (by simp; omega)
    let length := readWithin UInt32 bytes 12 (by simp; omega)
    if wireMagic ≠ controlMagic then .error .invalidMagic
    else if version ≠ currentVersion then .error .unsupportedVersion
    else
      match ControlMessageType.ofCode rawType with
      | none => .error .unknownMessageType
      | some type =>
        if hlarge : length.toNat > maximumPayloadSize then .error .payloadTooLarge
        else if hlength : bytes.length ≠ headerSize + length.toNat then .error .lengthMismatch
        else
          .ok {
            type, requestId := request
            payload := bytes.drop headerSize
            payload_le := by rw [List.length_drop]; omega }

def serialize (message : ControlMessage) : List UInt8 :=
  let bytes := zeros (headerSize + message.payload.length)
  let bytes := putBigEndian controlMagic bytes 0
  let bytes := putBigEndian currentVersion bytes 4
  let bytes := putBigEndian message.type.code bytes 6
  let bytes := putBigEndian message.requestId bytes 8
  let bytes := putBigEndian (UInt32.ofNat message.payload.length) bytes 12
  splice bytes headerSize message.payload

theorem create_code (type : ControlMessageType) (requestId : UInt32) {payload : List UInt8}
    (h : payload.length ≤ maximumPayloadSize) :
    create type.code requestId payload = some ⟨type, requestId, payload, h⟩ := by
  rw [create, ControlMessageType.ofCode_code]
  exact dif_neg (Nat.not_lt.mpr h)

-- ---------------------------------------------------------------------------
-- The wire layout
-- ---------------------------------------------------------------------------

/-- The octets of the header, field after field. -/
def header (message : ControlMessage) : List UInt8 :=
  encode controlMagic ++ (encode currentVersion ++ (encode message.type.code ++
    (encode message.requestId ++ encode (UInt32.ofNat message.payload.length))))

@[simp] theorem length_header (message : ControlMessage) :
    message.header.length = headerSize := by
  simp [header, headerSize]

/-- The buffer writes of `serialize` produce the header and the payload. -/
theorem serialize_eq_layout (message : ControlMessage) :
    message.serialize = message.header ++ message.payload := by
  -- each write finds its offset at the end of what is already written
  have hsize : headerSize + message.payload.length =
      4 + (2 + (2 + (4 + (4 + message.payload.length)))) := by
    rw [headerSize]
    omega
  unfold serialize
  rw [zeros_eq_nil_append hsize]
  simp (disch := simp) only [putBigEndian_zeros, WireInteger.size_uint16,
    WireInteger.size_uint32, Nat.add_sub_cancel_left]
  rw [splice_zeros (by simp [headerSize]), Nat.sub_self]
  simp [header]

/-- The length field holds the length of the payload. -/
theorem toNat_length_payload (message : ControlMessage) :
    (UInt32.ofNat message.payload.length).toNat = message.payload.length := by
  have hpayload := message.payload_le
  apply UInt32.toNat_ofNat_of_lt'
  unfold maximumPayloadSize at hpayload
  show message.payload.length < 2 ^ 32
  omega

@[simp] theorem length_serialize (message : ControlMessage) :
    message.serialize.length = headerSize + message.payload.length := by
  rw [serialize_eq_layout, List.length_append, length_header]

/-- The reads of `parse` find the fields of the header. -/
theorem readBigEndian_serialize (message : ControlMessage) :
    readBigEndian UInt32 message.serialize 0 = some controlMagic ∧
      readBigEndian UInt16 message.serialize 4 = some currentVersion ∧
      readBigEndian UInt16 message.serialize 6 = some message.type.code ∧
      readBigEndian UInt32 message.serialize 8 = some message.requestId ∧
      readBigEndian UInt32 message.serialize 12 =
        some (UInt32.ofNat message.payload.length) := by
  rw [serialize_eq_layout, header]
  simp only [List.append_assoc]
  -- skip the fields before the offset, then decode the one that starts there
  refine ⟨?_, ?_, ?_, ?_, ?_⟩ <;>
    simp (disch := simp) only [readBigEndian_append_right, length_encode,
      WireInteger.size_uint16, WireInteger.size_uint32, Nat.reduceSub, Nat.sub_self,
      readBigEndian_encode_append]

/-- **Parsing a serialized message gives it back.** -/
theorem parse_serialize (message : ControlMessage) : parse message.serialize = .ok message := by
  obtain ⟨hmagic, hversion, hcode, hrequest, hlength⟩ := readBigEndian_serialize message
  have hsize : message.serialize.length = headerSize + message.payload.length :=
    length_serialize message
  have hpayload : message.payload.length ≤ maximumPayloadSize := message.payload_le
  have hrest : message.serialize.drop headerSize = message.payload := by
    rw [serialize_eq_layout, List.drop_left' (length_header message)]
  unfold parse
  rw [dif_neg (by omega)]
  simp only [readWithin_eq hmagic, readWithin_eq hversion, readWithin_eq hcode,
    readWithin_eq hrequest, readWithin_eq hlength, toNat_length_payload]
  rw [if_neg (not_not.mpr rfl), if_neg (not_not.mpr rfl)]
  simp only [ControlMessageType.ofCode_code]
  rw [dif_neg (by omega), dif_neg (not_not.mpr hsize)]
  simp only [hrest]

/-- **An accepted byte string is the serialized message.** -/
theorem serialize_of_parse {bytes : List UInt8} {message : ControlMessage}
    (h : parse bytes = .ok message) : message.serialize = bytes := by
  unfold parse at h
  rw [dite_error_eq_ok] at h
  obtain ⟨hsize, h⟩ := h
  have hheader : 16 ≤ bytes.length := Nat.le_of_not_lt hsize
  dsimp only at h
  rw [ite_error_eq_ok, ite_error_eq_ok, not_not, not_not] at h
  obtain ⟨hmagic, hversion, h⟩ := h
  split at h
  · simp at h
  rename_i type hcode
  rw [dite_error_eq_ok] at h
  obtain ⟨_, h⟩ := h
  rw [dite_error_eq_ok] at h
  obtain ⟨hlength, h⟩ := h
  rw [not_not] at hlength
  rw [Except.ok.injEq] at h
  subst h
  have hcount : UInt32.ofNat (bytes.drop headerSize).length =
      readWithin UInt32 bytes 12 (by simp; omega) := by
    rw [List.length_drop, Nat.sub_eq_of_eq_add' hlength, UInt32.ofNat_toNat]
  rw [serialize_eq_layout, header]
  dsimp only
  -- every field of the header is the slice it was read from
  rw [hcount, ← hmagic, ← hversion, ControlMessageType.code_of_ofCode hcode]
  simp only [encode_readWithin, WireInteger.size_uint32, WireInteger.size_uint16]
  rw [slice_append bytes 8 4 4, slice_append bytes 6 2 8, slice_append bytes 4 2 10,
    slice_append bytes 0 4 12]
  exact List.take_append_drop 16 bytes

end ControlMessage

end SiliconSwitch.Transport
