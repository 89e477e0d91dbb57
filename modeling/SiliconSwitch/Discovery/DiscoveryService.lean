import SiliconSwitch.Discovery.LabConfiguration
import SiliconSwitch.Transport.Udp

/-!
# The discovery service

`DiscoveryResponder::respond_once`, `DiscoveryClient::discover_one` and `discover_all`,
over the datagrams on their way to the socket and the outcome of what is sent.

* `respondOnce_malformed_iff`  — which datagrams the responder calls malformed;
* `collect_eq`                 — the loop of `discover_all`, as the first records of each node;
* `hearing_iff`                — where the receive buffer makes an advertisement;
* `discover_all_iff`           — when `discover_all` collects the advertisements, and no more.
-/

namespace SiliconSwitch.Discovery

open SiliconSwitch.Library SiliconSwitch.Transport

inductive DiscoveryServiceError
  | networkError
  | malformedMessage
  | unexpectedMessage
  | requestMismatch
deriving DecidableEq

/-- The outcome of `send_to_ipv4`, by the address, the port and the payload. -/
abbrev Send : Type := List UInt8 → UInt16 → List UInt8 → Except UdpError Nat

/-- The size that the calls of the service pass to `receive`. -/
def receiveSize : Nat := DiscoveryMessage.headerSize + DiscoveryMessage.maximumNameSize

/-- The record of an advertisement, with the address that it came from. -/
def DiscoveredMachine.ofAdvertisement (advertisement : DiscoveryMessage)
    (sourceAddress : List UInt8) : DiscoveredMachine where
  nodeId := advertisement.nodeId
  name := advertisement.name
  address := sourceAddress
  role := advertisement.role
  capabilities := advertisement.capabilities
  controlPort := advertisement.controlPort
  statePort := advertisement.statePort

-- ---------------------------------------------------------------------------
-- The responder
-- ---------------------------------------------------------------------------

structure DiscoveryResponder where
  advertisement : DiscoveryMessage

def DiscoveryResponder.respondOnce (responder : DiscoveryResponder) (send : Send)
    (incoming : Except UdpError UdpDatagram) : Except DiscoveryServiceError (List UInt8) :=
  match UdpSocket.receive receiveSize incoming with
  | .error _ => .error .networkError
  | .ok datagram =>
    match DiscoveryMessage.parse datagram.payload with
    | .error _ => .error .malformedMessage
    | .ok query =>
      if query.type ≠ .query then .error .unexpectedMessage
      else
        match DiscoveryMessage.advertisement query.requestId responder.advertisement.nodeId
          responder.advertisement.role.code responder.advertisement.capabilities
          responder.advertisement.controlPort responder.advertisement.statePort
          responder.advertisement.name with
        | none => .error .malformedMessage
        | some response =>
          match send datagram.sourceAddress datagram.sourcePort response.serialize with
          | .error _ => .error .networkError
          | .ok _ => .ok datagram.sourceAddress

-- ---------------------------------------------------------------------------
-- The client
-- ---------------------------------------------------------------------------

namespace DiscoveryClient

def discoverOne (send : Send) (destination : List UInt8) (port : UInt16) (requestId : UInt64)
    (incoming : Except UdpError UdpDatagram) :
    Except DiscoveryServiceError DiscoveredMachine :=
  match send destination port (DiscoveryMessage.query requestId).serialize with
  | .error _ => .error .networkError
  | .ok _ =>
    match UdpSocket.receive receiveSize incoming with
    | .error _ => .error .networkError
    | .ok datagram =>
      match DiscoveryMessage.parse datagram.payload with
      | .error _ => .error .malformedMessage
      | .ok advertisement =>
        if advertisement.type ≠ .advertisement then .error .unexpectedMessage
        else if advertisement.requestId ≠ requestId then .error .requestMismatch
        else .ok (.ofAdvertisement advertisement datagram.sourceAddress)

/-- The loop of `discover_all`, over the datagrams that arrive before `receive` fails. -/
def collect (requestId : UInt64) (maximumResults : Nat) :
    List UdpDatagram → List DiscoveredMachine → List DiscoveredMachine
  | [], machines => machines
  | incoming :: rest, machines =>
    if machines.length < maximumResults then
      match UdpSocket.receive receiveSize (.ok incoming) with
      | .error _ => machines
      | .ok datagram =>
        match DiscoveryMessage.parse datagram.payload with
        | .error _ => collect requestId maximumResults rest machines
        | .ok advertisement =>
          if advertisement.type ≠ .advertisement ∨ advertisement.requestId ≠ requestId then
            collect requestId maximumResults rest machines
          else
            let duplicate := machines.find? fun machine => machine.nodeId = advertisement.nodeId
            if duplicate.isSome then collect requestId maximumResults rest machines
            else
              collect requestId maximumResults rest
                (machines ++ [.ofAdvertisement advertisement datagram.sourceAddress])
    else machines

def discoverAll (send : Send) (destination : List UInt8) (port : UInt16) (requestId : UInt64)
    (maximumResults : Nat) (incoming : List UdpDatagram) :
    Except DiscoveryServiceError (List DiscoveredMachine) :=
  match send destination port (DiscoveryMessage.query requestId).serialize with
  | .error _ => .error .networkError
  | .ok _ => .ok (collect requestId maximumResults incoming [])

end DiscoveryClient

-- ---------------------------------------------------------------------------
-- Messages in the receive buffer
-- ---------------------------------------------------------------------------

/-- A byte string that `parse` accepts. -/
def Accepted (bytes : List UInt8) : Prop := ∃ message, DiscoveryMessage.parse bytes = .ok message

/-- The buffer of the service holds every message. -/
theorem length_of_parse {bytes : List UInt8} {message : DiscoveryMessage}
    (h : DiscoveryMessage.parse bytes = .ok message) :
    bytes.length = DiscoveryMessage.headerSize + message.name.length :=
  (DiscoveryMessage.readFrom_of_parse h).1.length

theorem Accepted.length_le {bytes : List UInt8} (h : Accepted bytes) :
    bytes.length ≤ receiveSize := by
  obtain ⟨message, hparse⟩ := h
  rw [length_of_parse hparse, receiveSize]
  exact Nat.add_le_add_left message.length_name_le _

/-- A datagram that ends in its buffer is received as it is. -/
theorem take_of_accepted {bytes : List UInt8} (h : Accepted bytes) :
    bytes.take receiveSize = bytes :=
  List.take_of_length_le h.length_le

/-- An overlong datagram begins with an advertisement: a query is shorter than the buffer. -/
theorem overlong_accepted_iff {bytes : List UInt8} :
    UdpSocket.Overlong Accepted receiveSize bytes ↔
      ∃ (message : DiscoveryMessage) (trailing : List UInt8), message.type = .advertisement ∧
        message.name.length = DiscoveryMessage.maximumNameSize ∧ trailing ≠ [] ∧
          bytes = message.serialize ++ trailing := by
  constructor
  · rintro ⟨start, trailing, ⟨message, hparse⟩, hlength, hne, hbytes⟩
    have hname : message.name.length = DiscoveryMessage.maximumNameSize := by
      rw [length_of_parse hparse, receiveSize] at hlength
      exact Nat.add_left_cancel hlength
    have htype : message.type = .advertisement := by
      cases htype : message.type with
      | advertisement => rfl
      | query =>
        rw [(message.of_query htype).2.2.2.2.2] at hname
        simp [DiscoveryMessage.maximumNameSize] at hname
    rw [← DiscoveryMessage.serialize_of_parse_advertisement hparse htype] at hbytes
    exact ⟨message, trailing, htype, hname, hne, hbytes⟩
  · rintro ⟨message, trailing, htype, hname, hne, hbytes⟩
    have hparse : DiscoveryMessage.parse message.serialize = .ok message := by
      rw [DiscoveryMessage.parse_serialize_iff, htype]
      intro hquery
      simp at hquery
    refine ⟨message.serialize, trailing, ⟨message, hparse⟩, ?_, hne, hbytes⟩
    rw [DiscoveryMessage.length_serialize, hname, receiveSize]

/-- The responder answers a query with its own advertisement, if it has one. -/
theorem advertisement_eq_none_iff (message : DiscoveryMessage) {requestId : UInt64}
    (hrequest : requestId ≠ 0) :
    DiscoveryMessage.advertisement requestId message.nodeId message.role.code
        message.capabilities message.controlPort message.statePort message.name = none ↔
      message.type = .query := by
  simp only [DiscoveryMessage.advertisement, MachineRole.ofCode_code]
  cases htype : message.type with
  | query =>
    have hrefused : DiscoveryMessage.Refused requestId message.nodeId message.role
        message.capabilities message.controlPort message.statePort message.name :=
      Or.inr (Or.inl (message.of_query htype).2.2.1)
    rw [dif_pos hrefused]
    simp
  | advertisement =>
    have haccepted : ¬ DiscoveryMessage.Refused requestId message.nodeId message.role
        message.capabilities message.controlPort message.statePort message.name := by
      have hown := message.of_advertisement htype
      rw [DiscoveryMessage.Refused, not_or] at hown ⊢
      exact ⟨hrequest, hown.2⟩
    rw [dif_neg haccepted]
    simp

/-- **Which datagrams the responder calls malformed**: those whose buffer does not parse, and
the queries, if it has no advertisement to answer with. -/
theorem respondOnce_malformed_iff (responder : DiscoveryResponder) (send : Send)
    (datagram : UdpDatagram) :
    responder.respondOnce send (.ok datagram) = .error .malformedMessage ↔
      ∀ message, DiscoveryMessage.parse (datagram.payload.take receiveSize) = .ok message →
        message.type = .query ∧ responder.advertisement.type = .query := by
  unfold DiscoveryResponder.respondOnce UdpSocket.receive
  dsimp only
  cases hparse : DiscoveryMessage.parse (datagram.payload.take receiveSize) with
  | error reason => simp
  | ok query =>
    simp only [Except.ok.injEq, forall_eq']
    by_cases htype : query.type = .query
    · have hrequest : query.requestId ≠ 0 := (DiscoveryMessage.readFrom_of_parse hparse).2 htype
      have hanswer := advertisement_eq_none_iff responder.advertisement hrequest
      rw [if_neg (not_not.mpr htype), ← hanswer, and_iff_right htype]
      split
      · rename_i hnone
        simp [hnone]
      · rename_i response hsome
        split <;> simp [hsome]
    · rw [if_pos htype]
      simp [htype]

/-- `discover_one` calls malformed what does not parse in its buffer. -/
theorem discoverOne_malformed_iff (octets : Nat) (destination : List UInt8) (port : UInt16)
    (requestId : UInt64) (datagram : UdpDatagram) :
    DiscoveryClient.discoverOne (fun _ _ _ => .ok octets) destination port requestId
        (.ok datagram) = .error .malformedMessage ↔
      ¬ Accepted (datagram.payload.take receiveSize) := by
  unfold DiscoveryClient.discoverOne UdpSocket.receive Accepted
  dsimp only
  cases DiscoveryMessage.parse (datagram.payload.take receiveSize) with
  | error reason => simp
  | ok advertisement =>
    dsimp only
    split
    · simp
    · split <;> simp

-- ---------------------------------------------------------------------------
-- Collecting advertisements
-- ---------------------------------------------------------------------------

/-- The machine that a datagram advertises for the request. -/
def advertised (requestId : UInt64) (datagram : UdpDatagram) : Option DiscoveredMachine :=
  match DiscoveryMessage.parse datagram.payload with
  | .error _ => none
  | .ok message =>
    if message.type = .advertisement ∧ message.requestId = requestId then
      some (.ofAdvertisement message datagram.sourceAddress)
    else none

/-- The same of what the receive buffer takes. -/
def received (requestId : UInt64) (datagram : UdpDatagram) : Option DiscoveredMachine :=
  advertised requestId { datagram with payload := datagram.payload.take receiveSize }

/-- What `discover_all` should collect: the first advertisement of each node. -/
def advertisedMachines (requestId : UInt64) (datagrams : List UdpDatagram) :
    List DiscoveredMachine :=
  firsts DiscoveredMachine.nodeId (datagrams.filterMap (advertised requestId))

theorem advertised_eq_some {requestId : UInt64} {datagram : UdpDatagram}
    {machine : DiscoveredMachine} :
    advertised requestId datagram = some machine ↔
      ∃ message, DiscoveryMessage.parse datagram.payload = .ok message ∧
        message.type = .advertisement ∧ message.requestId = requestId ∧
        machine = .ofAdvertisement message datagram.sourceAddress := by
  unfold advertised
  cases DiscoveryMessage.parse datagram.payload with
  | error reason => simp
  | ok message =>
    simp only [Except.ok.injEq, exists_eq_left', Option.ite_none_right_eq_some,
      Option.some.injEq, and_assoc]
    exact and_congr_right fun _ => and_congr_right fun _ => eq_comm

/-- One turn of the loop. -/
theorem collect_cons (requestId : UInt64) (maximumResults : Nat) (incoming : UdpDatagram)
    (rest : List UdpDatagram) (machines : List DiscoveredMachine) :
    DiscoveryClient.collect requestId maximumResults (incoming :: rest) machines =
      if machines.length < maximumResults then
        match received requestId incoming with
        | none => DiscoveryClient.collect requestId maximumResults rest machines
        | some machine =>
          if machine.nodeId ∈ machines.map DiscoveredMachine.nodeId then
            DiscoveryClient.collect requestId maximumResults rest machines
          else DiscoveryClient.collect requestId maximumResults rest (machines ++ [machine])
      else machines := by
  rw [DiscoveryClient.collect]
  refine if_congr Iff.rfl ?_ rfl
  unfold received advertised UdpSocket.receive
  dsimp only
  cases DiscoveryMessage.parse (incoming.payload.take receiveSize) with
  | error reason => rfl
  | ok advertisement =>
    dsimp only
    by_cases hrelevant : advertisement.type = .advertisement ∧ advertisement.requestId = requestId
    · have hpassed : ¬ (advertisement.type ≠ .advertisement ∨
          advertisement.requestId ≠ requestId) := by
        rw [not_or, not_not, not_not]
        exact hrelevant
      rw [if_neg hpassed, if_pos hrelevant]
      refine if_congr ?_ rfl rfl
      rw [List.find?_isSome, List.mem_map]
      refine exists_congr fun machine => and_congr_right fun _ => ?_
      exact decide_eq_true_iff
    · have hskipped : advertisement.type ≠ .advertisement ∨
          advertisement.requestId ≠ requestId := not_and_or.mp hrelevant
      rw [if_pos hskipped, if_neg hrelevant]

/-- **The loop of `discover_all`** collects the first records of each node, up to the limit.
`heard` are the records of the datagrams before. -/
theorem collect_eq (requestId : UInt64) (maximumResults : Nat) (datagrams : List UdpDatagram)
    (heard : List DiscoveredMachine) :
    DiscoveryClient.collect requestId maximumResults datagrams
        ((firsts DiscoveredMachine.nodeId heard).take maximumResults) =
      (firsts DiscoveredMachine.nodeId
        (heard ++ datagrams.filterMap (received requestId))).take maximumResults := by
  induction datagrams generalizing heard with
  | nil => rw [DiscoveryClient.collect, List.filterMap_nil, List.append_nil]
  | cons incoming rest ih =>
    rw [collect_cons]
    by_cases hroom : (firsts DiscoveredMachine.nodeId heard).length < maximumResults
    · -- the list is not full, so it holds every node heard so far
      have hall : (firsts DiscoveredMachine.nodeId heard).take maximumResults =
          firsts DiscoveredMachine.nodeId heard := List.take_of_length_le hroom.le
      rw [hall, if_pos hroom]
      cases hreceived : received requestId incoming with
      | none =>
        rw [List.filterMap_cons_none hreceived, ← ih heard, hall]
      | some machine =>
        have hnext := ih (heard ++ [machine])
        rw [firsts_concat] at hnext
        rw [List.filterMap_cons_some hreceived, List.append_cons, ← hnext]
        dsimp only
        split
        · rw [hall]
        · rw [List.take_of_length_le]
          rw [List.length_append, List.length_singleton]
          exact hroom
    · have hfull : maximumResults ≤ (firsts DiscoveredMachine.nodeId heard).length :=
        Nat.le_of_not_lt hroom
      rw [if_neg (by rw [List.length_take_of_le hfull]; exact Nat.lt_irrefl _),
        take_firsts_append_of_le hfull]

/-- `discover_all`, once its query is sent. -/
theorem discoverAll_eq (octets : Nat) (destination : List UInt8) (port : UInt16)
    (requestId : UInt64) (maximumResults : Nat) (datagrams : List UdpDatagram) :
    DiscoveryClient.discoverAll (fun _ _ _ => .ok octets) destination port requestId
        maximumResults datagrams =
      .ok ((firsts DiscoveredMachine.nodeId
        (datagrams.filterMap (received requestId))).take maximumResults) := by
  have hloop := collect_eq requestId maximumResults datagrams []
  rw [firsts, List.take_nil, List.nil_append] at hloop
  rw [DiscoveryClient.discoverAll, hloop]

-- ---------------------------------------------------------------------------
-- Overlong advertisements
-- ---------------------------------------------------------------------------

/-- The datagram begins with an advertisement for the request, under a name of maximum size,
and does not end with it. -/
structure OverlongAdvertisement (requestId : UInt64) (message : DiscoveryMessage)
    (datagram : UdpDatagram) : Prop where
  type : message.type = .advertisement
  requestId : message.requestId = requestId
  name : message.name.length = DiscoveryMessage.maximumNameSize
  payload : ∃ trailing, trailing ≠ [] ∧ datagram.payload = message.serialize ++ trailing

/-- A whole message is received as it is. -/
theorem received_of_advertised {requestId : UInt64} {datagram : UdpDatagram}
    {machine : DiscoveredMachine} (h : advertised requestId datagram = some machine) :
    received requestId datagram = some machine := by
  obtain ⟨message, hparse, _⟩ := advertised_eq_some.mp h
  rw [received, take_of_accepted ⟨message, hparse⟩]
  exact h

/-- **Where the buffer makes an advertisement** of a datagram that is none. -/
theorem received_not_advertised_iff {requestId : UInt64} {datagram : UdpDatagram}
    {machine : DiscoveredMachine} :
    advertised requestId datagram = none ∧ received requestId datagram = some machine ↔
      ∃ message, OverlongAdvertisement requestId message datagram ∧
        machine = .ofAdvertisement message datagram.sourceAddress := by
  constructor
  · rintro ⟨hnone, hsome⟩
    obtain ⟨message, hparse, htype, hrequest, hmachine⟩ := advertised_eq_some.mp hsome
    have hlong : receiveSize < datagram.payload.length := by
      by_contra hshort
      rw [received, List.take_of_length_le (Nat.le_of_not_lt hshort), hnone] at hsome
      simp at hsome
    have hserialize : message.serialize = datagram.payload.take receiveSize :=
      DiscoveryMessage.serialize_of_parse_advertisement hparse htype
    refine ⟨message, ⟨htype, hrequest, ?_, datagram.payload.drop receiveSize, ?_, ?_⟩, hmachine⟩
    · have hlength := length_of_parse hparse
      rw [List.length_take_of_le hlong.le, receiveSize] at hlength
      exact (Nat.add_left_cancel hlength).symm
    · rw [← List.length_pos_iff, List.length_drop]
      omega
    · rw [hserialize, List.take_append_drop]
  · rintro ⟨message, ⟨htype, hrequest, hname, trailing, hne, hpayload⟩, hmachine⟩
    have hlength : message.serialize.length = receiveSize := by
      rw [DiscoveryMessage.length_serialize, hname, receiveSize]
    constructor
    · cases hadvertised : advertised requestId datagram with
      | none => rfl
      | some other =>
        obtain ⟨whole, hparse, _⟩ := advertised_eq_some.mp hadvertised
        have hle := Accepted.length_le ⟨whole, hparse⟩
        have hpos := List.length_pos_iff.mpr hne
        rw [hpayload, List.length_append, hlength] at hle
        omega
    · have hparse : DiscoveryMessage.parse message.serialize = .ok message := by
        rw [DiscoveryMessage.parse_serialize_iff, htype]
        intro hquery
        simp at hquery
      refine advertised_eq_some.mpr ⟨message, ?_, htype, hrequest, hmachine⟩
      rw [hpayload, List.take_left' hlength]
      exact hparse

/-- **When `discover_all` collects the advertisements and no more.** Wherever the reception
ends, the result is the first `maximumResults` of the advertised machines, exactly if every
overlong advertisement comes after a proper one of its node, or after so many machines. -/
theorem discover_all_iff (octets : Nat) (destination : List UInt8) (port : UInt16)
    (requestId : UInt64) (maximumResults : Nat) (datagrams : List UdpDatagram) :
    (∀ front back, datagrams = front ++ back →
      DiscoveryClient.discoverAll (fun _ _ _ => .ok octets) destination port requestId
          maximumResults front =
        .ok ((advertisedMachines requestId front).take maximumResults)) ↔
    ∀ front datagram back message, datagrams = front ++ datagram :: back →
      OverlongAdvertisement requestId message datagram →
        message.nodeId ∈
            (front.filterMap (advertised requestId)).map DiscoveredMachine.nodeId ∨
          maximumResults ≤ (advertisedMachines requestId front).length := by
  have hlist := take_firsts_eq_iff DiscoveredMachine.nodeId (advertised requestId)
    (received requestId) (fun _ _ => received_of_advertised) maximumResults datagrams
  simp only [discoverAll_eq, Except.ok.injEq, advertisedMachines]
  rw [hlist]
  constructor
  · intro h front datagram back message hsplit hoverlong
    obtain ⟨hnone, hsome⟩ := received_not_advertised_iff.mpr ⟨message, hoverlong, rfl⟩
    exact h front datagram back _ hsplit hnone hsome
  · intro h front datagram back machine hsplit hnone hsome
    obtain ⟨message, hoverlong, rfl⟩ := received_not_advertised_iff.mp ⟨hnone, hsome⟩
    exact h front datagram back message hsplit hoverlong

namespace ServiceExample

/-- The advertisement of an observer, under a name of maximum size. -/
def message : DiscoveryMessage where
  type := .advertisement
  role := .observer
  capabilities := Capability.none
  requestId := 1
  nodeId := 2
  controlPort := 0
  statePort := 8000
  name := List.replicate 63 97
  of_query := fun htype => by simp at htype
  of_advertisement := fun _ => by decide

/-- A datagram with one octet too many. -/
def overlong : UdpDatagram := ⟨[], 9000, message.serialize ++ [0]⟩

end ServiceExample

open ServiceExample in
/-- An overlong advertisement is collected, although it does not parse. -/
theorem overlong_advertisement_collected :
    DiscoveryClient.discoverAll (fun _ _ _ => .ok 33) [] 9000 1 4 [overlong] ≠
        .ok ((advertisedMachines 1 [overlong]).take 4) ∧
      DiscoveryClient.discoverAll (fun _ _ _ => .ok 33) [] 9000 1 4 [overlong] =
        .ok [.ofAdvertisement message []] := by
  decide +kernel

end SiliconSwitch.Discovery
