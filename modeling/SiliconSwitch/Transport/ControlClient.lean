import SiliconSwitch.Transport.ControlProtocol
import SiliconSwitch.Transport.Tcp

/-!
# The Python control client

`control_client.py`: the `encode` and `decode` of its `ControlMessage`, beside the
codec of the switch, and `ControlClient.request`. A request identifier is an
unbounded integer there, and a message is not checked before it is encoded.

## Results

* `decode_toOption`    — both decoders accept the same byte strings, as the same
  messages.
* `encode_toPython`    — both encoders give the same octets.
* `codecs_agree`       — the two codecs are one.
* `writes_sendFrame`, `receivesFrame_receiveFrame` — the frames of a request.
-/

namespace SiliconSwitch.ControlClient

open SiliconSwitch.Library

-- ---------------------------------------------------------------------------
-- Exceptions and packed integers
-- ---------------------------------------------------------------------------

/-- The exceptions that the client raises, with those of `struct` and of a socket. -/
inductive ClientError
  | valueError (message : String)
  | runtimeError (message : String)
  | connectionError (message : String)
  | structError
  | osError (error : Transport.SocketError)
deriving DecidableEq

/-- One unsigned field of `struct.Struct.pack`, in network order. -/
def packUnsigned (width : Nat) (value : Int) : Except ClientError (List UInt8) :=
  if 0 ≤ value ∧ value < 256 ^ width then .ok (toBigEndian width value.toNat)
  else .error .structError

/-- One unsigned field of `struct.Struct.unpack_from`. -/
def unpackUnsigned (width : Nat) (data : List UInt8) (offset : Nat) : Nat :=
  fromBigEndian ((data.drop offset).take width)

theorem packUnsigned_of_lt {width value : Nat} (h : value < 256 ^ width) :
    packUnsigned width value = .ok (toBigEndian width value) := by
  rw [packUnsigned, if_pos ⟨Int.natCast_nonneg value, by exact_mod_cast h⟩, Int.toNat_natCast]

/-- A field packs to the octets that the switch writes. -/
theorem packUnsigned_toNat {α : Type} [WireInteger α] (value : α) :
    packUnsigned (WireInteger.size α) (WireInteger.toNat value : Nat) = .ok (encode value) := by
  apply packUnsigned_of_lt
  rw [← WireInteger.ofNat_toNat value, WireInteger.toNat_ofNat]
  exact Nat.mod_lt _ (by positivity)

/-- A field unpacks to the number that the switch reads. -/
theorem unpackUnsigned_eq {α : Type} [WireInteger α] {data : List UInt8} {offset : Nat}
    (h : offset + WireInteger.size α ≤ data.length) :
    unpackUnsigned (WireInteger.size α) data offset =
      WireInteger.toNat (readWithin α data offset h) :=
  (toNat_readWithin h).symm

-- ---------------------------------------------------------------------------
-- Messages
-- ---------------------------------------------------------------------------

inductive ControlMessageType
  | createPort
  | removePort
  | setPortState
  | createVlan
  | removeVlan
  | addVlanMember
  | setRouterInterface
  | addOrReplaceRoute
  | removeRoute
  | addOrReplaceNeighbor
  | removeNeighbor
  | configureFaults
  | queryCounters
  | response
deriving DecidableEq

namespace ControlMessageType

/-- The value of the member of the `IntEnum`. -/
def value : ControlMessageType → Nat
  | .createPort => 1
  | .removePort => 2
  | .setPortState => 3
  | .createVlan => 10
  | .removeVlan => 11
  | .addVlanMember => 12
  | .setRouterInterface => 20
  | .addOrReplaceRoute => 21
  | .removeRoute => 22
  | .addOrReplaceNeighbor => 23
  | .removeNeighbor => 24
  | .configureFaults => 30
  | .queryCounters => 40
  | .response => 100

def members : List ControlMessageType :=
  [.createPort, .removePort, .setPortState, .createVlan, .removeVlan, .addVlanMember,
   .setRouterInterface, .addOrReplaceRoute, .removeRoute, .addOrReplaceNeighbor,
   .removeNeighbor, .configureFaults, .queryCounters, .response]

/-- `ControlMessageType(raw_type)`, which raises for a value of no member. -/
def ofValue (raw : Nat) : Option ControlMessageType :=
  members.find? fun type => type.value == raw

end ControlMessageType

structure ControlMessage where
  messageType : ControlMessageType
  requestId : Int
  payload : List UInt8
deriving DecidableEq

namespace ControlMessage

def magic : Nat := 0x53534350
def version : Nat := 1
def headerSize : Nat := 16
def maximumPayload : Nat := 1048576

/-- `HEADER.pack`, of the format `!IHHII`. -/
def packHeader (magic version type requestId length : Int) : Except ClientError (List UInt8) := do
  let magic ← packUnsigned 4 magic
  let version ← packUnsigned 2 version
  let type ← packUnsigned 2 type
  let requestId ← packUnsigned 4 requestId
  let length ← packUnsigned 4 length
  return magic ++ (version ++ (type ++ (requestId ++ length)))

def encode (message : ControlMessage) : Except ClientError (List UInt8) :=
  if ¬ (0 ≤ message.requestId ∧ message.requestId ≤ 0xFFFFFFFF) then
    .error (.valueError "request_id is outside the uint32 range")
  else if message.payload.length > maximumPayload then
    .error (.valueError "control payload is too large")
  else do
    let header ← packHeader magic version message.messageType.value message.requestId
      message.payload.length
    return header ++ message.payload

def decode (data : List UInt8) : Except ClientError ControlMessage :=
  if data.length < headerSize then .error (.valueError "truncated control message")
  else
    let wireMagic := unpackUnsigned 4 data 0
    let wireVersion := unpackUnsigned 2 data 4
    let rawType := unpackUnsigned 2 data 6
    let requestId := unpackUnsigned 4 data 8
    let length := unpackUnsigned 4 data 12
    if wireMagic ≠ magic then .error (.valueError "invalid control message magic")
    else if wireVersion ≠ version then
      .error (.valueError "unsupported control protocol version")
    else if length > maximumPayload ∨ data.length ≠ headerSize + length then
      .error (.valueError "invalid control payload length")
    else
      match ControlMessageType.ofValue rawType with
      | none => .error (.valueError "unknown control message type")
      | some messageType => .ok ⟨messageType, requestId, data.drop headerSize⟩

end ControlMessage

-- ---------------------------------------------------------------------------
-- The same messages on both sides
-- ---------------------------------------------------------------------------

/-- The member of the same name. -/
def toPythonType : Transport.ControlMessageType → ControlMessageType
  | .createPort => .createPort
  | .removePort => .removePort
  | .setPortState => .setPortState
  | .createVlan => .createVlan
  | .removeVlan => .removeVlan
  | .addVlanMember => .addVlanMember
  | .setRouterInterface => .setRouterInterface
  | .addOrReplaceRoute => .addOrReplaceRoute
  | .removeRoute => .removeRoute
  | .addOrReplaceNeighbor => .addOrReplaceNeighbor
  | .removeNeighbor => .removeNeighbor
  | .configureFaults => .configureFaults
  | .queryCounters => .queryCounters
  | .response => .response

/-- The same type, request identifier and payload. -/
def toPython (message : Transport.ControlMessage) : ControlMessage :=
  ⟨toPythonType message.type, message.requestId.toNat, message.payload⟩

theorem value_toPythonType (type : Transport.ControlMessageType) :
    (toPythonType type).value = type.code.toNat := by
  cases type <;> rfl

/-- The two type lists name the same values. -/
theorem ofValue_toNat (code : UInt16) :
    ControlMessageType.ofValue code.toNat =
      (Transport.ControlMessageType.ofCode code).map toPythonType := by
  have hmembers : ControlMessageType.members =
      Transport.ControlMessageType.knownTypes.map toPythonType := rfl
  rw [ControlMessageType.ofValue, hmembers, List.find?_map, Transport.ControlMessageType.ofCode]
  congr 2
  funext type
  rw [Function.comp, value_toPythonType]
  apply Bool.eq_iff_iff.mpr
  rw [beq_iff_eq, beq_iff_eq, UInt16.toNat_inj]

theorem toNat_eq_magic (value : UInt32) :
    WireInteger.toNat value = ControlMessage.magic ↔ value = Transport.controlMagic :=
  UInt32.toNat_inj (b := Transport.controlMagic)

theorem toNat_eq_version (value : UInt16) :
    WireInteger.toNat value = ControlMessage.version ↔
      value = Transport.ControlMessage.currentVersion :=
  UInt16.toNat_inj (b := Transport.ControlMessage.currentVersion)

theorem headerSize_eq : ControlMessage.headerSize = Transport.ControlMessage.headerSize := rfl

theorem maximumPayload_eq :
    ControlMessage.maximumPayload = Transport.ControlMessage.maximumPayloadSize := rfl

/-- Both decoders accept the same byte strings, as the same messages: they make
the same checks, in another order. -/
theorem decode_toOption (bytes : List UInt8) :
    (ControlMessage.decode bytes).toOption =
      (Transport.ControlMessage.parse bytes).toOption.map toPython := by
  by_cases hsize : bytes.length < ControlMessage.headerSize
  · have hsize' : bytes.length < Transport.ControlMessage.headerSize := hsize
    rw [ControlMessage.decode, if_pos hsize, Transport.ControlMessage.parse, dif_pos hsize']
    rfl
  · have hsize' : ¬ bytes.length < Transport.ControlMessage.headerSize := hsize
    have hheader : 16 ≤ bytes.length := Nat.le_of_not_lt hsize
    have hmagic : unpackUnsigned 4 bytes 0 =
        WireInteger.toNat (readWithin UInt32 bytes 0 (by simp; omega)) :=
      unpackUnsigned_eq (α := UInt32) _
    have hversion : unpackUnsigned 2 bytes 4 =
        WireInteger.toNat (readWithin UInt16 bytes 4 (by simp; omega)) :=
      unpackUnsigned_eq (α := UInt16) _
    have htype : unpackUnsigned 2 bytes 6 =
        (readWithin UInt16 bytes 6 (by simp; omega)).toNat :=
      unpackUnsigned_eq (α := UInt16) _
    have hrequest : unpackUnsigned 4 bytes 8 =
        (readWithin UInt32 bytes 8 (by simp; omega)).toNat :=
      unpackUnsigned_eq (α := UInt32) _
    have hlength : unpackUnsigned 4 bytes 12 =
        (readWithin UInt32 bytes 12 (by simp; omega)).toNat :=
      unpackUnsigned_eq (α := UInt32) _
    rw [ControlMessage.decode, if_neg hsize, Transport.ControlMessage.parse, dif_neg hsize']
    simp only [hmagic, hversion, htype, hrequest, hlength, ne_eq, toNat_eq_magic,
      toNat_eq_version, ofValue_toNat, headerSize_eq, maximumPayload_eq]
    split
    · rfl
    · split
      · rfl
      · -- the type is looked up before the length is checked, or after
        cases hfound : Transport.ControlMessageType.ofCode
            (readWithin UInt16 bytes 6 (by simp; omega)) with
        | none => split <;> rfl
        | some type =>
          split
          · rename_i hbad
            dsimp only
            split
            · rfl
            · rename_i hsmall
              rw [dif_pos (hbad.resolve_left hsmall)]
              rfl
          · rename_i hgood
            rw [not_or] at hgood
            dsimp only
            rw [dif_neg hgood.1, dif_neg hgood.2]
            rfl

-- ---------------------------------------------------------------------------
-- The same octets on both sides
-- ---------------------------------------------------------------------------

/-- Both encoders give the same octets. -/
theorem encode_toPython (message : Transport.ControlMessage) :
    (toPython message).encode = .ok message.serialize := by
  have hrequest : 0 ≤ (toPython message).requestId ∧ (toPython message).requestId ≤ 0xFFFFFFFF := by
    have := message.requestId.toNat_lt
    simp only [toPython]
    omega
  have hpayload : ¬ (toPython message).payload.length > ControlMessage.maximumPayload :=
    Nat.not_lt.mpr message.payload_le
  have hmagic : packUnsigned 4 ControlMessage.magic = .ok (encode Transport.controlMagic) :=
    packUnsigned_toNat Transport.controlMagic
  have hversion : packUnsigned 2 ControlMessage.version =
      .ok (encode Transport.ControlMessage.currentVersion) :=
    packUnsigned_toNat Transport.ControlMessage.currentVersion
  have htype : packUnsigned 2 (toPython message).messageType.value =
      .ok (encode message.type.code) := by
    rw [toPython, value_toPythonType]
    exact packUnsigned_toNat message.type.code
  have hid : packUnsigned 4 (toPython message).requestId = .ok (encode message.requestId) :=
    packUnsigned_toNat message.requestId
  have hlength : packUnsigned 4 (toPython message).payload.length =
      .ok (encode (UInt32.ofNat message.payload.length)) := by
    have hpacked := packUnsigned_toNat (UInt32.ofNat message.payload.length)
    rwa [show WireInteger.toNat (UInt32.ofNat message.payload.length) = message.payload.length from
      message.toNat_length_payload] at hpacked
  rw [ControlMessage.encode, if_neg (not_not.mpr hrequest), if_neg hpayload,
    ControlMessage.packHeader, hmagic, hversion, htype, hid, hlength,
    Transport.ControlMessage.serialize_eq_layout, Transport.ControlMessage.header]
  rfl

/-- A message that the client accepts is one that the switch accepts. -/
theorem exists_of_decode {bytes : List UInt8} {message : ControlMessage}
    (h : ControlMessage.decode bytes = .ok message) :
    ∃ original, Transport.ControlMessage.parse bytes = .ok original ∧
      message = toPython original := by
  have hsame := decode_toOption bytes
  rw [h] at hsame
  cases hparse : Transport.ControlMessage.parse bytes with
  | error reason =>
    rw [hparse] at hsame
    simp [Except.toOption] at hsame
  | ok original =>
    rw [hparse] at hsame
    exact ⟨original, rfl, Option.some.inj hsame⟩

theorem decode_of_parse {bytes : List UInt8} {original : Transport.ControlMessage}
    (h : Transport.ControlMessage.parse bytes = .ok original) :
    ControlMessage.decode bytes = .ok (toPython original) := by
  have hsame := decode_toOption bytes
  rw [h] at hsame
  cases hdecode : ControlMessage.decode bytes with
  | error reason =>
    rw [hdecode] at hsame
    simp [Except.toOption] at hsame
  | ok message =>
    rw [hdecode] at hsame
    rw [Option.some.inj hsame]

/-- **One codec.** The switch and the client accept the same byte strings, as the
same messages; of every known type, request identifier and payload up to the
maximum both make the same octets, which both read back; and both encode what they
have accepted to the octets it came from. -/
theorem codecs_agree :
    (∀ bytes, (ControlMessage.decode bytes).toOption =
      (Transport.ControlMessage.parse bytes).toOption.map toPython) ∧
    (∀ (type : Transport.ControlMessageType) (requestId : UInt32) (payload : List UInt8),
      payload.length ≤ Transport.ControlMessage.maximumPayloadSize →
      ∃ message, Transport.ControlMessage.create type.code requestId payload = some message ∧
        ControlMessage.encode ⟨toPythonType type, requestId.toNat, payload⟩ =
          .ok message.serialize ∧
        Transport.ControlMessage.parse message.serialize = .ok message ∧
        ControlMessage.decode message.serialize =
          .ok ⟨toPythonType type, requestId.toNat, payload⟩) ∧
    (∀ bytes message, Transport.ControlMessage.parse bytes = .ok message →
      message.serialize = bytes) ∧
    ∀ bytes message, ControlMessage.decode bytes = .ok message → message.encode = .ok bytes := by
  refine ⟨decode_toOption, ?_, fun bytes message => Transport.ControlMessage.serialize_of_parse, ?_⟩
  · intro type requestId payload hpayload
    let message : Transport.ControlMessage := ⟨type, requestId, payload, hpayload⟩
    have hparse := message.parse_serialize
    exact ⟨message, Transport.ControlMessage.create_code type requestId hpayload,
      encode_toPython message, hparse, decode_of_parse hparse⟩
  · intro bytes message hdecode
    obtain ⟨original, hparse, rfl⟩ := exists_of_decode hdecode
    rw [encode_toPython, Transport.ControlMessage.serialize_of_parse hparse]

-- ---------------------------------------------------------------------------
-- Requests
-- ---------------------------------------------------------------------------

/-- `socket.sendall`, which calls again whatever a call has sent. -/
def sendall (bytes : List UInt8) : Transfer Transport.SocketError ClientError Unit :=
  sendBytes none .osError bytes

/-- `_receive_exact`. An interrupted `recv` is called again. -/
def receiveExact (size : Nat) :
    Transfer Transport.SocketError ClientError { bytes : List UInt8 // bytes.length = size } :=
  receiveBytes (.connectionError "control connection closed") .osError size

/-- What `request` sends for an encoded message. -/
def sendFrame (encoded : List UInt8) : Transfer Transport.SocketError ClientError Unit := do
  let length ← Transfer.ofExcept (packUnsigned 4 encoded.length)
  sendall (length ++ encoded)

/-- What `request` receives before it decodes. -/
def receiveFrame : Transfer Transport.SocketError ClientError (List UInt8) := do
  let header ← receiveExact 4
  let frameLength := unpackUnsigned 4 header.1 0
  if frameLength > ControlMessage.headerSize + ControlMessage.maximumPayload then
    Transfer.fail (.valueError "control response frame is too large")
  else do
    let received ← receiveExact frameLength
    return received.1

/-- `request` on a connected socket. -/
def exchange (messageType : ControlMessageType) (requestId : Nat) (payload : List UInt8) :
    Transfer Transport.SocketError ClientError ControlMessage := do
  let encoded ← Transfer.ofExcept (ControlMessage.encode ⟨messageType, requestId, payload⟩)
  sendFrame encoded
  let received ← receiveFrame
  let response ← Transfer.ofExcept (ControlMessage.decode received)
  if response.messageType ≠ .response then
    Transfer.fail (.valueError "server returned a non-response message")
  else if response.requestId ≠ requestId then
    Transfer.fail (.valueError "control response request_id does not match")
  else return response

structure Client where
  socket : Option (Socket Transport.SocketError)
  nextRequestId : Nat

/-- `ControlClient.request`. The identifier advances whatever the exchange does. -/
def Client.request (client : Client) (messageType : ControlMessageType) (payload : List UInt8) :
    Progress ClientError ControlMessage × Client :=
  match client.socket with
  | none => (.failed (.runtimeError "control client is not connected"), client)
  | some socket =>
    let requestId := client.nextRequestId
    let result := exchange messageType requestId payload socket
    (result.1, ⟨some result.2, if requestId = 0xFFFFFFFF then 1 else requestId + 1⟩)

/-- The client sends the frames that the switch sends. -/
theorem writes_sendFrame {encoded : List UInt8} (h : encoded.length < 256 ^ 4) :
    Writes (sendFrame encoded) (frame encoded) := by
  have hsent : sendFrame encoded = sendall (frame encoded) := by
    unfold sendFrame
    rw [packUnsigned_of_lt h]
    rfl
  rw [hsent]
  exact writes_sendBytes _ _ _

/-- The client reads the length that the switch reads. -/
theorem receiveFrame_eq :
    receiveFrame =
      Library.receiveFrame (.connectionError "control connection closed")
        (.valueError "control response frame is too large") .osError
        (ControlMessage.headerSize + ControlMessage.maximumPayload) := by
  apply congrArg (Transfer.bind (receiveExact 4))
  funext header
  have hlength : unpackUnsigned 4 header.1 0 = fromBigEndian header.1 := by
    rw [unpackUnsigned, List.drop_zero, List.take_of_length_le (by rw [header.2])]
  dsimp only
  rw [hlength]
  rfl

theorem receivesFrame_receiveFrame (socket : Socket Transport.SocketError)
    (hfair : Fair socket.outcomes) :
    ReceivesFrame (.connectionError "control connection closed")
      (.valueError "control response frame is too large")
      (ControlMessage.headerSize + ControlMessage.maximumPayload) socket (receiveFrame socket) := by
  rw [receiveFrame_eq]
  exact Library.receivesFrame_receiveFrame _ _ _ _ socket hfair

end SiliconSwitch.ControlClient
