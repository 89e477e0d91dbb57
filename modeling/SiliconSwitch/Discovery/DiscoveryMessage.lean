import SiliconSwitch.Library.BigEndian
import SiliconSwitch.Library.Codec

/-!
# Discovery messages

The datagram of the discovery protocol: the factories `query` and `advertisement`,
`parse` and `serialize`. The constructor of the source is private, so what the
factories put into a message is a field of the structure.

* `serialize_eq_layout` — the buffer writes of `serialize` give the wire layout;
* `parse_serialize` — every message but the query of identifier zero parses back;
* `serialize_of_parse` — an accepted byte string is the serialized message up to the
  capability field, which the branch of a query does not look at;
* `discovery_format_iff` — which messages and which datagrams are kept exactly.
-/

namespace SiliconSwitch.Discovery

open SiliconSwitch.Library

-- ---------------------------------------------------------------------------
-- Types
-- ---------------------------------------------------------------------------

inductive DiscoveryMessageType
  | query
  | advertisement
deriving DecidableEq

namespace DiscoveryMessageType

/-- The value of the enumerator on the wire. -/
def code : DiscoveryMessageType → UInt8
  | .query => 1
  | .advertisement => 2

/-- The cast of a wire value, and the check that it is an enumerator. -/
def ofCode (code : UInt8) : Option DiscoveryMessageType :=
  if code = 1 then some .query else if code = 2 then some .advertisement else none

@[simp] theorem ofCode_code (type : DiscoveryMessageType) : ofCode type.code = some type := by
  cases type <;> rfl

theorem code_of_ofCode {code : UInt8} {type : DiscoveryMessageType}
    (h : ofCode code = some type) : type.code = code := by
  unfold ofCode at h
  split_ifs at h with hquery hadvertisement
  · rw [hquery, ← Option.some.inj h]
    rfl
  · rw [hadvertisement, ← Option.some.inj h]
    rfl

end DiscoveryMessageType

inductive MachineRole
  | unspecified
  | leader
  | observer
deriving DecidableEq

namespace MachineRole

/-- The value of the enumerator on the wire. -/
def code : MachineRole → UInt8
  | .unspecified => 0
  | .leader => 1
  | .observer => 2

/-- The cast of a wire value, with `valid_role`: no other value is a role. -/
def ofCode (code : UInt8) : Option MachineRole :=
  if code = 0 then some .unspecified
  else if code = 1 then some .leader
  else if code = 2 then some .observer
  else none

@[simp] theorem ofCode_code (role : MachineRole) : ofCode role.code = some role := by
  cases role <;> rfl

theorem code_of_ofCode {code : UInt8} {role : MachineRole} (h : ofCode code = some role) :
    role.code = code := by
  unfold ofCode at h
  split_ifs at h with hunspecified hleader hobserver
  · rw [hunspecified, ← Option.some.inj h]
    rfl
  · rw [hleader, ← Option.some.inj h]
    rfl
  · rw [hobserver, ← Option.some.inj h]
    rfl

end MachineRole

/-- A set of flags. -/
structure Capability where
  bits : UInt32
deriving DecidableEq

def Capability.none : Capability := ⟨0⟩

inductive DiscoveryParseError
  | truncated
  | invalidMagic
  | unsupportedVersion
  | unknownType
  | invalidRole
  | invalidFields
  | lengthMismatch
deriving DecidableEq

def discoveryMagic : UInt32 := 0x53534431
def knownCapabilities : UInt32 := 0x7

namespace DiscoveryMessage

def currentVersion : UInt16 := 1
def headerSize : Nat := 33
def maximumNameSize : Nat := 63

/-- `valid_ports` of `advertisement`. -/
def validPorts (role : MachineRole) (controlPort statePort : UInt16) : Bool :=
  statePort != 0 && (role != .leader || controlPort != 0)

/-- The guard of `advertisement`, for a role that `valid_role` has let through. -/
def Refused (requestId nodeId : UInt64) (role : MachineRole) (capabilities : Capability)
    (controlPort statePort : UInt16) (name : List UInt8) : Prop :=
  requestId = 0 ∨ nodeId = 0 ∨ role = .unspecified ∨ !validPorts role controlPort statePort ∨
    name = [] ∨ name.length > maximumNameSize ∨
    capabilities.bits &&& ~~~knownCapabilities ≠ 0

instance (requestId nodeId : UInt64) (role : MachineRole) (capabilities : Capability)
    (controlPort statePort : UInt16) (name : List UInt8) :
    Decidable (Refused requestId nodeId role capabilities controlPort statePort name) :=
  inferInstanceAs (Decidable (_ ∨ _))

end DiscoveryMessage

structure DiscoveryMessage where
  type : DiscoveryMessageType
  role : MachineRole
  capabilities : Capability
  requestId : UInt64
  nodeId : UInt64
  controlPort : UInt16
  statePort : UInt16
  name : List UInt8
  of_query : type = .query →
    role = .unspecified ∧ capabilities = Capability.none ∧ nodeId = 0 ∧ controlPort = 0 ∧
      statePort = 0 ∧ name = []
  of_advertisement : type = .advertisement →
    ¬ DiscoveryMessage.Refused requestId nodeId role capabilities controlPort statePort name
deriving DecidableEq

namespace DiscoveryMessage

/-- `DiscoveryMessage::query`, which looks at no argument. -/
def query (requestId : UInt64) : DiscoveryMessage where
  type := .query
  role := .unspecified
  capabilities := Capability.none
  requestId := requestId
  nodeId := 0
  controlPort := 0
  statePort := 0
  name := []
  of_query := fun _ => ⟨rfl, rfl, rfl, rfl, rfl, rfl⟩
  of_advertisement := fun h => by simp at h

/-- `DiscoveryMessage::advertisement`. The role is any value that the enumeration of the
source can hold. -/
def advertisement (requestId nodeId : UInt64) (role : UInt8) (capabilities : Capability)
    (controlPort statePort : UInt16) (name : List UInt8) : Option DiscoveryMessage :=
  match MachineRole.ofCode role with
  | none => none
  | some role =>
    if h : Refused requestId nodeId role capabilities controlPort statePort name then none
    else
      some {
        type := .advertisement
        role, capabilities, requestId, nodeId, controlPort, statePort, name
        of_query := fun htype => by simp at htype
        of_advertisement := fun _ => h }

-- A single octet is read and written as a wire integer of one byte. The reads cannot fail
-- behind the size check.
def parse (bytes : List UInt8) : Except DiscoveryParseError DiscoveryMessage :=
  if hsize : bytes.length < headerSize then .error .truncated
  else
    have hheader : 33 ≤ bytes.length := Nat.le_of_not_lt hsize
    let magic := readWithin UInt32 bytes 0 (by simp; omega)
    let version := readWithin UInt16 bytes 4 (by simp; omega)
    let type := readWithin UInt8 bytes 6 (by simp; omega)
    let role := readWithin UInt8 bytes 7 (by simp; omega)
    let capabilities : Capability := ⟨readWithin UInt32 bytes 8 (by simp; omega)⟩
    let requestId := readWithin UInt64 bytes 12 (by simp; omega)
    let nodeId := readWithin UInt64 bytes 20 (by simp; omega)
    let controlPort := readWithin UInt16 bytes 28 (by simp; omega)
    let statePort := readWithin UInt16 bytes 30 (by simp; omega)
    let nameSize := (readWithin UInt8 bytes 32 (by simp; omega)).toNat
    if magic ≠ discoveryMagic then .error .invalidMagic
    else if version ≠ currentVersion then .error .unsupportedVersion
    else
      match DiscoveryMessageType.ofCode type with
      | none => .error .unknownType
      | some type =>
        match MachineRole.ofCode role with
        | none => .error .invalidRole
        | some knownRole =>
          if nameSize > maximumNameSize ∨ bytes.length ≠ headerSize + nameSize then
            .error .lengthMismatch
          else
            let name := bytes.drop headerSize
            match type with
            | .query =>
              -- the capabilities are not among the fields that have to be clear
              if requestId = 0 ∨ nodeId ≠ 0 ∨ knownRole ≠ .unspecified ∨ controlPort ≠ 0 ∨
                  statePort ≠ 0 ∨ name ≠ [] then
                .error .invalidFields
              else .ok (query requestId)
            | .advertisement =>
              match advertisement requestId nodeId role capabilities controlPort statePort
                  name with
              | none => .error .invalidFields
              | some message => .ok message

def serialize (message : DiscoveryMessage) : List UInt8 :=
  let bytes := zeros (headerSize + message.name.length)
  let bytes := putBigEndian discoveryMagic bytes 0
  let bytes := putBigEndian currentVersion bytes 4
  let bytes := putBigEndian message.type.code bytes 6
  let bytes := putBigEndian message.role.code bytes 7
  let bytes := putBigEndian message.capabilities.bits bytes 8
  let bytes := putBigEndian message.requestId bytes 12
  let bytes := putBigEndian message.nodeId bytes 20
  let bytes := putBigEndian message.controlPort bytes 28
  let bytes := putBigEndian message.statePort bytes 30
  let bytes := putBigEndian (UInt8.ofNat message.name.length) bytes 32
  splice bytes headerSize message.name

theorem advertisement_eq_some {requestId nodeId : UInt64} {role : UInt8}
    {capabilities : Capability} {controlPort statePort : UInt16} {name : List UInt8}
    {message : DiscoveryMessage}
    (h : advertisement requestId nodeId role capabilities controlPort statePort name =
      some message) :
    message.type = .advertisement ∧ message.role.code = role ∧
      message.capabilities = capabilities ∧ message.requestId = requestId ∧
      message.nodeId = nodeId ∧ message.controlPort = controlPort ∧
      message.statePort = statePort ∧ message.name = name := by
  unfold advertisement at h
  split at h
  · simp at h
  · rename_i known hrole
    split at h
    · simp at h
    · rw [Option.some.injEq] at h
      subst h
      exact ⟨rfl, MachineRole.code_of_ofCode hrole, rfl, rfl, rfl, rfl, rfl, rfl⟩

/-- The factories build every message. -/
theorem eq_query_or_advertisement (message : DiscoveryMessage) :
    message = query message.requestId ∨
      advertisement message.requestId message.nodeId message.role.code message.capabilities
        message.controlPort message.statePort message.name = some message := by
  obtain ⟨type, role, capabilities, requestId, nodeId, controlPort, statePort, name, hquery,
    hadvertisement⟩ := message
  cases type with
  | query =>
    obtain ⟨rfl, rfl, rfl, rfl, rfl, rfl⟩ := hquery rfl
    exact Or.inl rfl
  | advertisement =>
    right
    simp only [advertisement, MachineRole.ofCode_code]
    exact dif_neg (hadvertisement rfl)

-- ---------------------------------------------------------------------------
-- The wire layout
-- ---------------------------------------------------------------------------

/-- The octets of the header, field after field. -/
def header (message : DiscoveryMessage) : List UInt8 :=
  encode discoveryMagic ++ (encode currentVersion ++ (encode message.type.code ++
    (encode message.role.code ++ (encode message.capabilities.bits ++
      (encode message.requestId ++ (encode message.nodeId ++ (encode message.controlPort ++
        (encode message.statePort ++ encode (UInt8.ofNat message.name.length)))))))))

@[simp] theorem length_header (message : DiscoveryMessage) :
    message.header.length = headerSize := by
  simp [header, headerSize]

/-- The buffer writes of `serialize` produce the header and the name. -/
theorem serialize_eq_layout (message : DiscoveryMessage) :
    message.serialize = message.header ++ message.name := by
  -- each write finds its offset at the end of what is already written
  have hsize : headerSize + message.name.length =
      4 + (2 + (1 + (1 + (4 + (8 + (8 + (2 + (2 + (1 + message.name.length))))))))) := by
    rw [headerSize]
    omega
  unfold serialize
  rw [zeros_eq_nil_append hsize]
  simp (disch := simp) only [putBigEndian_zeros, WireInteger.size_uint8,
    WireInteger.size_uint16, WireInteger.size_uint32, WireInteger.size_uint64,
    Nat.add_sub_cancel_left]
  rw [splice_zeros (by simp [headerSize]), Nat.sub_self]
  simp [header]

@[simp] theorem length_serialize (message : DiscoveryMessage) :
    message.serialize.length = headerSize + message.name.length := by
  rw [serialize_eq_layout, List.length_append, length_header]

theorem length_name_le (message : DiscoveryMessage) :
    message.name.length ≤ maximumNameSize := by
  cases htype : message.type with
  | query =>
    have hname : message.name = [] := (message.of_query htype).2.2.2.2.2
    rw [hname]
    exact Nat.zero_le _
  | advertisement =>
    have haccepted := message.of_advertisement htype
    rw [Refused] at haccepted
    omega

/-- The length octet holds the length of the name. -/
theorem toNat_length_name (message : DiscoveryMessage) :
    (UInt8.ofNat message.name.length).toNat = message.name.length := by
  have hname : message.name.length ≤ maximumNameSize := length_name_le message
  apply UInt8.toNat_ofNat_of_lt'
  unfold maximumNameSize at hname
  show message.name.length < 2 ^ 8
  omega

-- ---------------------------------------------------------------------------
-- What `parse` reads
-- ---------------------------------------------------------------------------

/-- A message and the octets that `parse` makes it from: every field is read from its
place, but the capabilities of a query. -/
structure ReadFrom (bytes : List UInt8) (message : DiscoveryMessage) : Prop where
  magic : readBigEndian UInt32 bytes 0 = some discoveryMagic
  version : readBigEndian UInt16 bytes 4 = some currentVersion
  type : readBigEndian UInt8 bytes 6 = some message.type.code
  role : readBigEndian UInt8 bytes 7 = some message.role.code
  capabilities : message.type = .advertisement →
    readBigEndian UInt32 bytes 8 = some message.capabilities.bits
  requestId : readBigEndian UInt64 bytes 12 = some message.requestId
  nodeId : readBigEndian UInt64 bytes 20 = some message.nodeId
  controlPort : readBigEndian UInt16 bytes 28 = some message.controlPort
  statePort : readBigEndian UInt16 bytes 30 = some message.statePort
  nameSize : readBigEndian UInt8 bytes 32 = some (UInt8.ofNat message.name.length)
  name : bytes.drop headerSize = message.name
  length : bytes.length = headerSize + message.name.length

/-- The reads of `parse` find the fields of the header. -/
theorem readFrom_serialize (message : DiscoveryMessage) :
    ReadFrom message.serialize message := by
  constructor
  case name => rw [serialize_eq_layout, List.drop_left' (length_header message)]
  case length => exact length_serialize message
  all_goals
    try intro _
    rw [serialize_eq_layout, header]
    simp only [List.append_assoc]
    -- skip the fields before the offset, then decode the one that starts there
    simp (disch := simp) only [readBigEndian_append_right, length_encode,
      WireInteger.size_uint8, WireInteger.size_uint16, WireInteger.size_uint32,
      WireInteger.size_uint64, Nat.reduceSub, Nat.sub_self, readBigEndian_encode_append]

/-- What is read from a datagram is accepted, unless it is the query of identifier zero. -/
theorem parse_of_readFrom {bytes : List UInt8} {message : DiscoveryMessage}
    (h : ReadFrom bytes message) (hquery : message.type = .query → message.requestId ≠ 0) :
    parse bytes = .ok message := by
  have hname : message.name.length ≤ maximumNameSize := length_name_le message
  have hlength : bytes.length = headerSize + message.name.length := h.length
  unfold parse
  rw [dif_neg (by omega)]
  simp only [readWithin_eq h.magic, readWithin_eq h.version, readWithin_eq h.type,
    readWithin_eq h.role, readWithin_eq h.requestId, readWithin_eq h.nodeId,
    readWithin_eq h.controlPort, readWithin_eq h.statePort, readWithin_eq h.nameSize,
    toNat_length_name, h.name, DiscoveryMessageType.ofCode_code, MachineRole.ofCode_code]
  rw [if_neg (not_not.mpr rfl), if_neg (not_not.mpr rfl), if_neg (by omega)]
  cases htype : message.type with
  | query =>
    obtain ⟨hrole, -, hnode, hcontrol, hstate, hempty⟩ := message.of_query htype
    have hmessage : message = query message.requestId := by
      rcases eq_query_or_advertisement message with heq | hadvertisement
      · exact heq
      · rw [(advertisement_eq_some hadvertisement).1] at htype
        simp at htype
    have hclear : ¬ (message.requestId = 0 ∨ message.nodeId ≠ 0 ∨ message.role ≠ .unspecified ∨
        message.controlPort ≠ 0 ∨ message.statePort ≠ 0 ∨ message.name ≠ []) := by
      simp [hquery htype, hrole, hnode, hcontrol, hstate, hempty]
    rw [if_neg hclear, ← hmessage]
  | advertisement =>
    have hmade : advertisement message.requestId message.nodeId message.role.code
        message.capabilities message.controlPort message.statePort message.name =
        some message := by
      rcases eq_query_or_advertisement message with heq | hadvertisement
      · rw [heq] at htype
        simp [query] at htype
      · exact hadvertisement
    simp only [readWithin_eq (h.capabilities htype), hmade]

/-- The values in the fields of a datagram. -/
structure Holds (bytes : List UInt8) (type role : UInt8) (capabilities : UInt32)
    (requestId nodeId : UInt64) (controlPort statePort : UInt16) (nameSize : UInt8) : Prop where
  length : bytes.length = headerSize + nameSize.toNat
  magic : readBigEndian UInt32 bytes 0 = some discoveryMagic
  version : readBigEndian UInt16 bytes 4 = some currentVersion
  type : readBigEndian UInt8 bytes 6 = some type
  role : readBigEndian UInt8 bytes 7 = some role
  capabilities : readBigEndian UInt32 bytes 8 = some capabilities
  requestId : readBigEndian UInt64 bytes 12 = some requestId
  nodeId : readBigEndian UInt64 bytes 20 = some nodeId
  controlPort : readBigEndian UInt16 bytes 28 = some controlPort
  statePort : readBigEndian UInt16 bytes 30 = some statePort
  nameSize : readBigEndian UInt8 bytes 32 = some nameSize

variable {bytes : List UInt8} {type role nameSize : UInt8} {capabilities : UInt32}
  {requestId nodeId : UInt64} {controlPort statePort : UInt16} {message : DiscoveryMessage}

/-- The octets behind the header are as many as the length octet says. -/
theorem Holds.length_drop (h : Holds bytes type role capabilities requestId nodeId controlPort
      statePort nameSize) :
    (bytes.drop headerSize).length = nameSize.toNat := by
  rw [List.length_drop, Nat.sub_eq_of_eq_add' h.length]

/-- The factory fills in what the query branch has found clear. -/
theorem Holds.readFrom_query (h : Holds bytes DiscoveryMessageType.query.code
      MachineRole.unspecified.code capabilities requestId 0 0 0 nameSize)
    (hempty : bytes.drop headerSize = []) : ReadFrom bytes (query requestId) := by
  have hcount := h.length_drop
  rw [hempty, List.length_nil] at hcount
  have hzero : nameSize = 0 := UInt8.toNat_inj.mp hcount.symm
  refine ⟨h.magic, h.version, h.type, h.role, fun htype => ?_, h.requestId, h.nodeId,
    h.controlPort, h.statePort, ?_, hempty, ?_⟩
  · simp [query] at htype
  · rw [h.nameSize, hzero]
    rfl
  · rw [h.length, ← hcount]
    rfl

/-- The factory takes every field of an advertisement as it was read. -/
theorem Holds.readFrom_advertisement (h : Holds bytes DiscoveryMessageType.advertisement.code role
      capabilities requestId nodeId controlPort statePort nameSize)
    (hmade : advertisement requestId nodeId role ⟨capabilities⟩ controlPort statePort
      (bytes.drop headerSize) = some message) : ReadFrom bytes message := by
  have hcount := h.length_drop
  obtain ⟨htype, hrole, hflags, rfl, rfl, rfl, rfl, hname⟩ := advertisement_eq_some hmade
  rw [← hname] at hcount
  refine ⟨h.magic, h.version, ?_, ?_, fun _ => ?_, h.requestId, h.nodeId, h.controlPort,
    h.statePort, ?_, hname.symm, ?_⟩
  · rw [h.type, htype]
  · rw [h.role, hrole]
  · rw [h.capabilities, hflags]
  · rw [h.nameSize, hcount, UInt8.ofNat_toNat]
  · rw [h.length, hcount]

/-- What is accepted has been read from the datagram. -/
theorem readFrom_of_parse (h : parse bytes = .ok message) :
    ReadFrom bytes message ∧ (message.type = .query → message.requestId ≠ 0) := by
  unfold parse at h
  rw [dite_error_eq_ok] at h
  obtain ⟨hsize, h⟩ := h
  have hheader : 33 ≤ bytes.length := Nat.le_of_not_lt hsize
  have hread (α : Type) [WireInteger α] (offset : Nat)
      (hroom : offset + WireInteger.size α ≤ bytes.length) :
      ∃ value, readBigEndian α bytes offset = some value := exists_readBigEndian hroom
  obtain ⟨magic, hmagic⟩ := hread UInt32 0 (by simp; omega)
  obtain ⟨version, hversion⟩ := hread UInt16 4 (by simp; omega)
  obtain ⟨code, hcode⟩ := hread UInt8 6 (by simp; omega)
  obtain ⟨roleCode, hrole⟩ := hread UInt8 7 (by simp; omega)
  obtain ⟨capabilities, hcapabilities⟩ := hread UInt32 8 (by simp; omega)
  obtain ⟨requestId, hrequest⟩ := hread UInt64 12 (by simp; omega)
  obtain ⟨nodeId, hnode⟩ := hread UInt64 20 (by simp; omega)
  obtain ⟨controlPort, hcontrol⟩ := hread UInt16 28 (by simp; omega)
  obtain ⟨statePort, hstate⟩ := hread UInt16 30 (by simp; omega)
  obtain ⟨nameSize, hnameSize⟩ := hread UInt8 32 (by simp; omega)
  simp only [readWithin_eq hmagic, readWithin_eq hversion, readWithin_eq hcode,
    readWithin_eq hrole, readWithin_eq hcapabilities, readWithin_eq hrequest,
    readWithin_eq hnode, readWithin_eq hcontrol, readWithin_eq hstate,
    readWithin_eq hnameSize] at h
  rw [ite_error_eq_ok, ite_error_eq_ok, not_not, not_not] at h
  obtain ⟨rfl, rfl, h⟩ := h
  split at h
  · simp at h
  rename_i type htype
  split at h
  · simp at h
  rename_i role hknown
  rw [ite_error_eq_ok, not_or, not_not] at h
  obtain ⟨⟨-, hlength⟩, h⟩ := h
  obtain rfl : type.code = code := DiscoveryMessageType.code_of_ofCode htype
  obtain rfl : role.code = roleCode := MachineRole.code_of_ofCode hknown
  have hholds : Holds bytes type.code role.code capabilities requestId nodeId controlPort statePort
      nameSize :=
    ⟨hlength, hmagic, hversion, hcode, hrole, hcapabilities, hrequest, hnode, hcontrol, hstate,
      hnameSize⟩
  split at h
  · rw [ite_error_eq_ok, Except.ok.injEq] at h
    obtain ⟨hclear, rfl⟩ := h
    simp only [not_or, not_not] at hclear
    obtain ⟨hrequestId, rfl, rfl, rfl, rfl, hempty⟩ := hclear
    exact ⟨hholds.readFrom_query hempty, fun _ => hrequestId⟩
  · split at h
    · simp at h
    rename_i made hmade
    rw [Except.ok.injEq] at h
    subst h
    refine ⟨hholds.readFrom_advertisement hmade, fun hquery => ?_⟩
    rw [(advertisement_eq_some hmade).1] at hquery
    simp at hquery

theorem parse_eq_ok {bytes : List UInt8} {message : DiscoveryMessage} :
    parse bytes = .ok message ↔
      ReadFrom bytes message ∧ (message.type = .query → message.requestId ≠ 0) :=
  ⟨readFrom_of_parse, fun h => parse_of_readFrom h.1 h.2⟩

-- ---------------------------------------------------------------------------
-- The format
-- ---------------------------------------------------------------------------

/-- **A message parses back exactly if it is not the query of identifier zero.** -/
theorem parse_serialize_iff (message : DiscoveryMessage) :
    parse message.serialize = .ok message ↔
      (message.type = .query → message.requestId ≠ 0) := by
  rw [parse_eq_ok]
  exact and_iff_right (readFrom_serialize message)

/-- **An accepted byte string is the serialized message up to the capabilities.** -/
theorem serialize_of_parse {bytes : List UInt8} {message : DiscoveryMessage}
    (h : parse bytes = .ok message) :
    message.serialize =
      bytes.take 8 ++ (encode message.capabilities.bits ++ bytes.drop 12) := by
  obtain ⟨hread, -⟩ := readFrom_of_parse h
  have hfront : (bytes.drop 0).take 4 ++ ((bytes.drop 4).take 2 ++ ((bytes.drop 6).take 1 ++
      (bytes.drop 7).take 1)) = bytes.take 8 := by
    rw [slice_append bytes 6 1 1, slice_append bytes 4 2 2, slice_append bytes 0 4 4]
    rfl
  have hback : (bytes.drop 12).take 8 ++ ((bytes.drop 20).take 8 ++ ((bytes.drop 28).take 2 ++
      ((bytes.drop 30).take 2 ++ (bytes.drop 32).take 1))) ++ bytes.drop 33 =
      bytes.drop 12 := by
    have hsplit := List.take_append_drop 21 (bytes.drop 12)
    rw [List.drop_drop] at hsplit
    rw [slice_append bytes 30 2 1, slice_append bytes 28 2 3, slice_append bytes 20 8 5,
      slice_append bytes 12 8 13]
    exact hsplit
  rw [serialize_eq_layout, header, encode_of_read hread.magic, encode_of_read hread.version,
    encode_of_read hread.type, encode_of_read hread.role, encode_of_read hread.requestId,
    encode_of_read hread.nodeId, encode_of_read hread.controlPort,
    encode_of_read hread.statePort, encode_of_read hread.nameSize, ← hread.name, ← hfront]
  conv_rhs => rw [← hback]
  simp only [List.append_assoc, WireInteger.size_uint8, WireInteger.size_uint16,
    WireInteger.size_uint32, WireInteger.size_uint64, headerSize]

/-- So it is the whole of it exactly if the capabilities stand where they are read. -/
theorem serialize_eq_iff {bytes : List UInt8} {message : DiscoveryMessage}
    (h : parse bytes = .ok message) :
    message.serialize = bytes ↔ encode message.capabilities.bits = (bytes.drop 8).take 4 := by
  have hbytes : bytes = bytes.take 8 ++ ((bytes.drop 8).take 4 ++ bytes.drop 12) := by
    rw [← List.drop_drop (i := 4) (j := 8), List.take_append_drop, List.take_append_drop]
  have hlength : (encode message.capabilities.bits).length = ((bytes.drop 8).take 4).length := by
    have hsize := (readFrom_of_parse h).1.length
    rw [length_encode, List.length_take, List.length_drop, hsize, headerSize]
    rw [WireInteger.size_uint32]
    omega
  rw [serialize_of_parse h]
  conv_lhs => rhs; rw [hbytes]
  rw [List.append_cancel_left_eq]
  exact ⟨fun heq => (List.append_inj heq hlength).1, fun heq => by rw [heq]⟩

/-- Nothing else is accepted for an advertisement. -/
theorem serialize_of_parse_advertisement {bytes : List UInt8} {message : DiscoveryMessage}
    (h : parse bytes = .ok message) (htype : message.type = .advertisement) :
    message.serialize = bytes := by
  rw [serialize_eq_iff h]
  exact encode_of_read ((readFrom_of_parse h).1.capabilities htype)

/-- **Which messages and which datagrams are kept exactly.** A query parses back unless its
identifier is zero; an advertisement always does. An accepted datagram is what its message
serializes to, unless it is a query with capabilities. -/
theorem discovery_format_iff (requestId nodeId : UInt64) (role : UInt8)
    (capabilities : Capability) (controlPort statePort : UInt16) (name bytes : List UInt8) :
    (parse (query requestId).serialize = .ok (query requestId) ↔ requestId ≠ 0) ∧
    (∀ message, advertisement requestId nodeId role capabilities controlPort statePort name =
        some message →
      parse message.serialize = .ok message) ∧
    ∀ message, parse bytes = .ok message →
      (message.serialize = bytes ↔
        (bytes.getD 6 0 = DiscoveryMessageType.query.code → (bytes.drop 8).take 4 = zeros 4)) := by
  refine ⟨?_, ?_, ?_⟩
  · rw [parse_serialize_iff]
    exact forall_prop_of_true rfl
  · intro message hmade
    obtain ⟨htype, -⟩ := advertisement_eq_some hmade
    rw [parse_serialize_iff, htype]
    intro hquery
    simp at hquery
  · intro message hparse
    obtain ⟨hread, -⟩ := readFrom_of_parse hparse
    have hlong : 6 < bytes.length := by
      rw [hread.length, headerSize]
      omega
    have hoctet : bytes.getD 6 0 = message.type.code :=
      Option.some.inj ((readBigEndian_uint8 hlong).symm.trans hread.type)
    rw [serialize_eq_iff hparse, hoctet]
    cases htype : message.type with
    | query =>
      have hnone : message.capabilities = Capability.none := (message.of_query htype).2.1
      rw [hnone]
      constructor
      · rintro heq -
        rw [← heq]
        decide
      · intro hclear
        rw [hclear rfl]
        decide
    | advertisement =>
      rw [encode_of_read (hread.capabilities htype)]
      simp [DiscoveryMessageType.code]

/-- A query with a capability is accepted, and its query has none; the query of identifier
zero is built, and refused. -/
theorem query_capabilities_dropped :
    ((parse (putBigEndian (1 : UInt32) (query 1).serialize 8)).toOption =
        some (query 1) ∧
      (query 1).serialize ≠ putBigEndian (1 : UInt32) (query 1).serialize 8) ∧
    parse (query 0).serialize = .error .invalidFields := by
  decide

end DiscoveryMessage

end SiliconSwitch.Discovery
