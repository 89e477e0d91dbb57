import SiliconSwitch.Library.BigEndian
import SiliconSwitch.Library.Codec

/-!
# State updates

The datagram of the scene-synchronization protocol: `StateUpdate::create`,
`parse` and `serialize`. What `create` refuses is a field of the structure, so
every `StateUpdate` is a valid one.

* `serialize_eq_layout` — the buffer writes of `serialize` give the wire layout;
* `parse_serialize` — parsing a serialized update gives it back;
* `serialize_of_parse` — an accepted byte string is the serialized update;
* `state_update_format` — so datagrams and creatable updates are one to one.
-/

namespace SiliconSwitch.Transport

open SiliconSwitch.Library

-- ---------------------------------------------------------------------------
-- Types
-- ---------------------------------------------------------------------------

inductive StateUpdateType
  | snapshot
  | delta
  | heartbeat
  | resyncRequest
deriving DecidableEq

namespace StateUpdateType

/-- The value of the enumerator on the wire. -/
def code : StateUpdateType → UInt16
  | .snapshot => 1
  | .delta => 2
  | .heartbeat => 3
  | .resyncRequest => 4

/-- The cast of a wire value, with `is_known`: no other value is a type. -/
def ofCode (code : UInt16) : Option StateUpdateType :=
  if code = 1 then some .snapshot
  else if code = 2 then some .delta
  else if code = 3 then some .heartbeat
  else if code = 4 then some .resyncRequest
  else none

@[simp] theorem ofCode_code (type : StateUpdateType) : ofCode type.code = some type := by
  cases type <;> rfl

theorem code_of_ofCode {code : UInt16} {type : StateUpdateType} (h : ofCode code = some type) :
    type.code = code := by
  unfold ofCode at h
  split_ifs at h with hsnapshot hdelta hheartbeat hresync
  · rw [hsnapshot, ← Option.some.inj h]
    rfl
  · rw [hdelta, ← Option.some.inj h]
    rfl
  · rw [hheartbeat, ← Option.some.inj h]
    rfl
  · rw [hresync, ← Option.some.inj h]
    rfl

end StateUpdateType

inductive StateUpdateParseError
  | truncated
  | invalidMagic
  | unsupportedVersion
  | unknownType
  | payloadTooLarge
  | lengthMismatch
  | invalidRevision
deriving DecidableEq

/-- `revisions_are_valid`. -/
def revisionsAreValid (type : StateUpdateType) (baseRevision revision : UInt64) : Bool :=
  match type with
  | .snapshot => baseRevision == 0 && decide (revision > 0)
  | .delta => decide (revision > baseRevision)
  | _ => decide (baseRevision ≤ revision)

def stateUpdateMagic : UInt32 := 0x53535550

namespace StateUpdate

def currentVersion : UInt16 := 1
def headerSize : Nat := 52
def maximumPayloadSize : Nat := 60 * 1024

end StateUpdate

structure StateUpdate where
  type : StateUpdateType
  sessionId : UInt64
  sequence : UInt64
  timestampMicroseconds : UInt64
  baseRevision : UInt64
  revision : UInt64
  payload : List UInt8
  sessionId_ne : sessionId ≠ 0
  sequence_ne : sequence ≠ 0
  payload_le : payload.length ≤ StateUpdate.maximumPayloadSize
  revisions_valid : revisionsAreValid type baseRevision revision = true
deriving DecidableEq

namespace StateUpdate

def create (type : StateUpdateType) (sessionId sequence timestampMicroseconds baseRevision
    revision : UInt64) (payload : List UInt8) : Option StateUpdate :=
  if h : sessionId = 0 ∨ sequence = 0 ∨ payload.length > maximumPayloadSize ∨
      !revisionsAreValid type baseRevision revision then none
  else
    some {
      type, sessionId, sequence, timestampMicroseconds, baseRevision, revision, payload
      sessionId_ne := fun hsession => h (Or.inl hsession)
      sequence_ne := fun hsequence => h (Or.inr (Or.inl hsequence))
      payload_le := Nat.le_of_not_gt fun hlarge => h (Or.inr (Or.inr (Or.inl hlarge)))
      revisions_valid := by
        rw [not_or, not_or, not_or] at h
        simpa using h.2.2.2 }

/-- `create` on any value that the enumeration of the source can hold, which `is_known`
checks. -/
def createOfCode (code : UInt16) (sessionId sequence timestampMicroseconds baseRevision
    revision : UInt64) (payload : List UInt8) : Option StateUpdate :=
  match StateUpdateType.ofCode code with
  | none => none
  | some type =>
    create type sessionId sequence timestampMicroseconds baseRevision revision payload

-- The reads go through `value()`, which the size check above keeps from throwing.
def parse (bytes : List UInt8) : Except StateUpdateParseError StateUpdate :=
  if hsize : bytes.length < headerSize then .error .truncated
  else
    have hheader : 52 ≤ bytes.length := Nat.le_of_not_lt hsize
    let magic := readWithin UInt32 bytes 0 (by simp; omega)
    let version := readWithin UInt16 bytes 4 (by simp; omega)
    let code := readWithin UInt16 bytes 6 (by simp; omega)
    let sessionId := readWithin UInt64 bytes 8 (by simp; omega)
    let sequence := readWithin UInt64 bytes 16 (by simp; omega)
    let timestampMicroseconds := readWithin UInt64 bytes 24 (by simp; omega)
    let baseRevision := readWithin UInt64 bytes 32 (by simp; omega)
    let revision := readWithin UInt64 bytes 40 (by simp; omega)
    let length := readWithin UInt32 bytes 48 (by simp; omega)
    if magic ≠ stateUpdateMagic then .error .invalidMagic
    else if version ≠ currentVersion then .error .unsupportedVersion
    else
      match StateUpdateType.ofCode code with
      | none => .error .unknownType
      | some type =>
        if hlarge : length.toNat > maximumPayloadSize then .error .payloadTooLarge
        else if hlength : bytes.length ≠ headerSize + length.toNat then .error .lengthMismatch
        else if hvalid : sessionId = 0 ∨ sequence = 0 ∨
            !revisionsAreValid type baseRevision revision then .error .invalidRevision
        else
          .ok {
            type, sessionId, sequence, timestampMicroseconds, baseRevision, revision
            payload := bytes.drop headerSize
            sessionId_ne := fun hsession => hvalid (Or.inl hsession)
            sequence_ne := fun hsequence => hvalid (Or.inr (Or.inl hsequence))
            payload_le := by rw [List.length_drop]; omega
            revisions_valid := by
              rw [not_or, not_or] at hvalid
              simpa using hvalid.2.2 }

def serialize (update : StateUpdate) : List UInt8 :=
  let bytes := zeros (headerSize + update.payload.length)
  let bytes := putBigEndian stateUpdateMagic bytes 0
  let bytes := putBigEndian currentVersion bytes 4
  let bytes := putBigEndian update.type.code bytes 6
  let bytes := putBigEndian update.sessionId bytes 8
  let bytes := putBigEndian update.sequence bytes 16
  let bytes := putBigEndian update.timestampMicroseconds bytes 24
  let bytes := putBigEndian update.baseRevision bytes 32
  let bytes := putBigEndian update.revision bytes 40
  let bytes := putBigEndian (UInt32.ofNat update.payload.length) bytes 48
  splice bytes headerSize update.payload

/-- What `create` asks of its arguments. -/
theorem exists_create_iff {type : StateUpdateType} {sessionId sequence timestampMicroseconds
    baseRevision revision : UInt64} {payload : List UInt8} :
    (∃ update, create type sessionId sequence timestampMicroseconds baseRevision revision payload =
      some update) ↔
      sessionId ≠ 0 ∧ sequence ≠ 0 ∧ payload.length ≤ maximumPayloadSize ∧
        revisionsAreValid type baseRevision revision = true := by
  have hchecks : (sessionId = 0 ∨ sequence = 0 ∨ payload.length > maximumPayloadSize ∨
      !revisionsAreValid type baseRevision revision) ↔
      ¬ (sessionId ≠ 0 ∧ sequence ≠ 0 ∧ payload.length ≤ maximumPayloadSize ∧
        revisionsAreValid type baseRevision revision = true) := by
    rw [not_and_or, not_and_or, not_and_or, not_not, not_not, Nat.not_le, Bool.not_eq_true,
      Bool.not_eq_true']
  rw [create]
  split
  · rename_i hrefused
    constructor
    · rintro ⟨update, hnone⟩
      simp at hnone
    · intro hvalid
      exact absurd hvalid (hchecks.mp hrefused)
  · rename_i haccepted
    constructor
    · intro _
      rwa [hchecks, not_not] at haccepted
    · intro _
      exact ⟨_, rfl⟩

/-- A created update carries what it was created from. -/
theorem create_eq_some {type : StateUpdateType} {sessionId sequence timestampMicroseconds
    baseRevision revision : UInt64} {payload : List UInt8} {update : StateUpdate}
    (h : create type sessionId sequence timestampMicroseconds baseRevision revision payload =
      some update) :
    update.type = type ∧ update.sessionId = sessionId ∧ update.sequence = sequence ∧
      update.timestampMicroseconds = timestampMicroseconds ∧
      update.baseRevision = baseRevision ∧ update.revision = revision ∧
      update.payload = payload := by
  unfold create at h
  split at h
  · simp at h
  · rw [Option.some.injEq] at h
    subst h
    exact ⟨rfl, rfl, rfl, rfl, rfl, rfl, rfl⟩

-- ---------------------------------------------------------------------------
-- The wire layout
-- ---------------------------------------------------------------------------

/-- The octets of the header, field after field. -/
def header (update : StateUpdate) : List UInt8 :=
  encode stateUpdateMagic ++ (encode currentVersion ++ (encode update.type.code ++
    (encode update.sessionId ++ (encode update.sequence ++
      (encode update.timestampMicroseconds ++ (encode update.baseRevision ++
        (encode update.revision ++ encode (UInt32.ofNat update.payload.length))))))))

@[simp] theorem length_header (update : StateUpdate) : update.header.length = headerSize := by
  simp [header, headerSize]

/-- The buffer writes of `serialize` produce the header and the payload. -/
theorem serialize_eq_layout (update : StateUpdate) :
    update.serialize = update.header ++ update.payload := by
  -- each write finds its offset at the end of what is already written
  have hsize : headerSize + update.payload.length =
      4 + (2 + (2 + (8 + (8 + (8 + (8 + (8 + (4 + update.payload.length)))))))) := by
    rw [headerSize]
    omega
  unfold serialize
  rw [zeros_eq_nil_append hsize]
  simp (disch := simp) only [putBigEndian_zeros, WireInteger.size_uint16,
    WireInteger.size_uint32, WireInteger.size_uint64, Nat.add_sub_cancel_left]
  rw [splice_zeros (by simp [headerSize]), Nat.sub_self]
  simp [header]

@[simp] theorem length_serialize (update : StateUpdate) :
    update.serialize.length = headerSize + update.payload.length := by
  rw [serialize_eq_layout, List.length_append, length_header]

/-- The reads of `parse` find the fields of the header. -/
theorem readBigEndian_serialize (update : StateUpdate) :
    readBigEndian UInt32 update.serialize 0 = some stateUpdateMagic ∧
      readBigEndian UInt16 update.serialize 4 = some currentVersion ∧
      readBigEndian UInt16 update.serialize 6 = some update.type.code ∧
      readBigEndian UInt64 update.serialize 8 = some update.sessionId ∧
      readBigEndian UInt64 update.serialize 16 = some update.sequence ∧
      readBigEndian UInt64 update.serialize 24 = some update.timestampMicroseconds ∧
      readBigEndian UInt64 update.serialize 32 = some update.baseRevision ∧
      readBigEndian UInt64 update.serialize 40 = some update.revision ∧
      readBigEndian UInt32 update.serialize 48 =
        some (UInt32.ofNat update.payload.length) := by
  rw [serialize_eq_layout, header]
  simp only [List.append_assoc]
  -- skip the fields before the offset, then decode the one that starts there
  refine ⟨?_, ?_, ?_, ?_, ?_, ?_, ?_, ?_, ?_⟩ <;>
    simp (disch := simp) only [readBigEndian_append_right, length_encode,
      WireInteger.size_uint16, WireInteger.size_uint32, WireInteger.size_uint64,
      Nat.reduceSub, Nat.sub_self, readBigEndian_encode_append]

/-- The length field holds the length of the payload. -/
theorem toNat_length_payload (update : StateUpdate) :
    (UInt32.ofNat update.payload.length).toNat = update.payload.length := by
  have hpayload : update.payload.length ≤ maximumPayloadSize := update.payload_le
  apply UInt32.toNat_ofNat_of_lt'
  unfold maximumPayloadSize at hpayload
  show update.payload.length < 2 ^ 32
  omega

/-- **Parsing a serialized update gives it back.** -/
theorem parse_serialize (update : StateUpdate) : parse update.serialize = .ok update := by
  obtain ⟨hmagic, hversion, hcode, hsession, hsequence, htimestamp, hbase, hrevision, hlength⟩ :=
    readBigEndian_serialize update
  have hsize : update.serialize.length = headerSize + update.payload.length :=
    length_serialize update
  have hpayload : update.payload.length ≤ maximumPayloadSize := update.payload_le
  have hrest : update.serialize.drop headerSize = update.payload := by
    rw [serialize_eq_layout, List.drop_left' (length_header update)]
  have hvalid : ¬ (update.sessionId = 0 ∨ update.sequence = 0 ∨
      (!revisionsAreValid update.type update.baseRevision update.revision) = true) := by
    simp [update.sessionId_ne, update.sequence_ne, update.revisions_valid]
  unfold parse
  rw [dif_neg (by omega)]
  simp only [readWithin_eq hmagic, readWithin_eq hversion, readWithin_eq hcode,
    readWithin_eq hsession, readWithin_eq hsequence, readWithin_eq htimestamp,
    readWithin_eq hbase, readWithin_eq hrevision, readWithin_eq hlength, toNat_length_payload]
  rw [if_neg (not_not.mpr rfl), if_neg (not_not.mpr rfl)]
  simp only [StateUpdateType.ofCode_code]
  rw [dif_neg (by omega), dif_neg (not_not.mpr hsize), dif_neg hvalid]
  simp only [hrest]

/-- **An accepted byte string is the serialized update.** -/
theorem serialize_of_parse {bytes : List UInt8} {update : StateUpdate}
    (h : parse bytes = .ok update) : update.serialize = bytes := by
  unfold parse at h
  rw [dite_error_eq_ok] at h
  obtain ⟨hsize, h⟩ := h
  have hheader : 52 ≤ bytes.length := Nat.le_of_not_lt hsize
  dsimp only at h
  rw [ite_error_eq_ok, ite_error_eq_ok, not_not, not_not] at h
  obtain ⟨hmagic, hversion, h⟩ := h
  split at h
  · simp at h
  rename_i type hcode
  rw [dite_error_eq_ok] at h
  obtain ⟨hlarge, h⟩ := h
  rw [dite_error_eq_ok] at h
  obtain ⟨hlength, h⟩ := h
  rw [dite_error_eq_ok] at h
  obtain ⟨hvalid, h⟩ := h
  rw [not_not] at hlength
  rw [Except.ok.injEq] at h
  subst h
  have hcount : UInt32.ofNat (bytes.drop headerSize).length =
      readWithin UInt32 bytes 48 (by simp; omega) := by
    rw [List.length_drop, Nat.sub_eq_of_eq_add' hlength, UInt32.ofNat_toNat]
  rw [serialize_eq_layout, header]
  dsimp only
  -- every field of the header is the slice it was read from
  rw [hcount, ← hmagic, ← hversion, StateUpdateType.code_of_ofCode hcode]
  simp only [encode_readWithin, WireInteger.size_uint64, WireInteger.size_uint32,
    WireInteger.size_uint16]
  rw [slice_append bytes 40 8 4, slice_append bytes 32 8 12, slice_append bytes 24 8 20,
    slice_append bytes 16 8 28, slice_append bytes 8 8 36, slice_append bytes 6 2 44,
    slice_append bytes 4 2 46, slice_append bytes 0 4 48]
  exact List.take_append_drop 52 bytes

-- ---------------------------------------------------------------------------
-- The format
-- ---------------------------------------------------------------------------

theorem toOption_parse {bytes : List UInt8} {update : StateUpdate} :
    (parse bytes).toOption = some update ↔ parse bytes = .ok update := by
  cases parse bytes with
  | error reason => simp [Except.toOption]
  | ok parsed => simp [Except.toOption]

/-- Every update is valid: what `create` refuses is not an update. -/
theorem exact_parse : Exact (fun _ => True) serialize fun bytes => (parse bytes).toOption where
  decode_encode := fun update _ => toOption_parse.mpr (parse_serialize update)
  encode_decode := fun _ _ hparse => serialize_of_parse (toOption_parse.mp hparse)
  valid_decode := fun _ _ _ => trivial

theorem createOfCode_eq_some {code : UInt16} {sessionId sequence timestampMicroseconds
    baseRevision revision : UInt64} {payload : List UInt8} {update : StateUpdate} :
    createOfCode code sessionId sequence timestampMicroseconds baseRevision revision payload =
        some update ↔
      update.type.code = code ∧ update.sessionId = sessionId ∧ update.sequence = sequence ∧
        update.timestampMicroseconds = timestampMicroseconds ∧
        update.baseRevision = baseRevision ∧ update.revision = revision ∧
        update.payload = payload := by
  constructor
  · intro h
    rw [createOfCode] at h
    split at h
    · simp at h
    · rename_i type hcode
      obtain ⟨rfl, hfields⟩ := create_eq_some h
      exact ⟨StateUpdateType.code_of_ofCode hcode, hfields⟩
  · rintro ⟨rfl, rfl, rfl, rfl, rfl, rfl, rfl⟩
    rw [createOfCode, StateUpdateType.ofCode_code]
    refine dif_neg ?_
    simp [update.sessionId_ne, update.sequence_ne, update.revisions_valid, update.payload_le]

/-- **The wire format is exact.** A created update parses back from its datagram with all
seven fields. An accepted datagram holds an update that `create` accepts, and is what
that update serializes to; no other datagram holds the same update. -/
theorem state_update_format :
    (∀ (code : UInt16) (sessionId sequence timestampMicroseconds baseRevision revision : UInt64)
        (payload : List UInt8) (update : StateUpdate),
      createOfCode code sessionId sequence timestampMicroseconds baseRevision revision payload =
        some update →
      parse update.serialize = .ok update ∧
        update.type.code = code ∧ update.sessionId = sessionId ∧ update.sequence = sequence ∧
        update.timestampMicroseconds = timestampMicroseconds ∧
        update.baseRevision = baseRevision ∧ update.revision = revision ∧
        update.payload = payload) ∧
    (∀ (bytes : List UInt8) (update : StateUpdate), parse bytes = .ok update →
      createOfCode update.type.code update.sessionId update.sequence
          update.timestampMicroseconds update.baseRevision update.revision update.payload =
        some update ∧
      update.serialize = bytes) ∧
    ∀ (first second : List UInt8) (update : StateUpdate), parse first = .ok update →
      parse second = .ok update → first = second := by
  refine ⟨?_, ?_, ?_⟩
  · intro code sessionId sequence timestampMicroseconds baseRevision revision payload update hcreate
    exact ⟨parse_serialize update, createOfCode_eq_some.mp hcreate⟩
  · intro bytes update hparse
    exact ⟨createOfCode_eq_some.mpr ⟨rfl, rfl, rfl, rfl, rfl, rfl, rfl⟩,
      serialize_of_parse hparse⟩
  · intro first second update hfirst hsecond
    exact exact_parse.eq_of_decode (toOption_parse.mpr hfirst) (toOption_parse.mpr hsecond)

end StateUpdate

end SiliconSwitch.Transport
