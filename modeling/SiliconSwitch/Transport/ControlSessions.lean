import SiliconSwitch.Library.Exchange
import SiliconSwitch.Transport.Framing

/-!
# Sessions of the control client

Whole runs of `ControlClient`: `connect`, `close` and `request` in any order, over any
number of connections. A `Dialogue` is a client over connections of whole messages: a
request puts its message on the connection and takes one frame from it, unless it cannot be
encoded at all.

## Results

* `follows_request`        — a request over bytes is the request of the dialogue;
* `issued_eq`              — the identifiers are 1, 2, 3 and so on, round the 32-bit ones
  without 0;
* `requests_follow_dialogue` — the runs of the client are those of the dialogue.

A connection is out of step for good once it has carried a frame too many: the dialogue
takes one frame for each request, whatever is in it.
-/

namespace SiliconSwitch.ControlClient

open SiliconSwitch.Library

-- ---------------------------------------------------------------------------
-- The client
-- ---------------------------------------------------------------------------

/-- A call on a client; `created` is what `create_connection` gives. -/
inductive ClientCall (σ : Type)
  | connect (created : Except Transport.SocketError σ)
  | close
  | request (messageType : ControlMessageType) (payload : List UInt8)

namespace Client

def new : Client := ⟨none, 1⟩

def connect (client : Client)
    (created : Except Transport.SocketError (Socket Transport.SocketError)) :
    Except ClientError Unit × Client :=
  match client.socket with
  | some _ => (.ok (), client)
  | none =>
    match created with
    | .error error => (.error (.osError error), client)
    | .ok socket => (.ok (), { client with socket := some socket })

def close (client : Client) : Client := { client with socket := none }

/-- What a call returns: a message, or nothing. -/
def call (client : Client) :
    ClientCall (Socket Transport.SocketError) →
      Progress ClientError (Option ControlMessage) × Client
  | .connect created =>
    match client.connect created with
    | (.ok (), client) => (.returned none, client)
    | (.error error, client) => (.failed error, client)
  | .close => (.returned none, client.close)
  | .request messageType payload =>
    match client.request messageType payload with
    | (.returned response, client) => (.returned (some response), client)
    | (.failed error, client) => (.failed error, client)
    | (.running, client) => (.running, client)

/-- A run of calls. There is no later call while one is running. -/
def run (client : Client) :
    List (ClientCall (Socket Transport.SocketError)) →
      List (Progress ClientError (Option ControlMessage)) × Client
  | [] => ([], client)
  | call :: rest =>
    match client.call call with
    | (.running, client) => ([.running], client)
    | (progress, client) =>
      let later := client.run rest
      (progress :: later.1, later.2)

end Client

-- ---------------------------------------------------------------------------
-- The dialogue
-- ---------------------------------------------------------------------------

/-- What `request` makes of the frame that it receives. -/
def verdict (requestId : Nat) (received : List UInt8) : Except ClientError ControlMessage :=
  match ControlMessage.decode received with
  | .error error => .error error
  | .ok response =>
    if response.messageType ≠ .response then
      .error (.valueError "server returned a non-response message")
    else if response.requestId ≠ requestId then
      .error (.valueError "control response request_id does not match")
    else .ok response

def following (requestId : Nat) : Nat := if requestId = 0xFFFFFFFF then 1 else requestId + 1

/-- A connection of whole messages. -/
structure Connection where
  sent : List ControlMessage
  /-- The frames to be received before the connection is closed at the other end. -/
  toCome : List (List UInt8)

structure Dialogue where
  connection : Option Connection
  nextRequestId : Nat

namespace Dialogue

def new : Dialogue := ⟨none, 1⟩

/-- A request whose payload is too large has its identifier all the same. -/
def request (dialogue : Dialogue) (messageType : ControlMessageType) (payload : List UInt8) :
    Except ClientError ControlMessage × Dialogue :=
  match dialogue.connection with
  | none => (.error (.runtimeError "control client is not connected"), dialogue)
  | some ⟨sent, toCome⟩ =>
    let requestId := dialogue.nextRequestId
    if payload.length > ControlMessage.maximumPayload then
      (.error (.valueError "control payload is too large"),
       ⟨some ⟨sent, toCome⟩, following requestId⟩)
    else
      match toCome with
      | [] =>
        (.error (.connectionError "control connection closed"),
         ⟨some ⟨sent ++ [⟨messageType, requestId, payload⟩], []⟩, following requestId⟩)
      | received :: later =>
        (verdict requestId received,
         ⟨some ⟨sent ++ [⟨messageType, requestId, payload⟩], later⟩, following requestId⟩)

def call (dialogue : Dialogue) :
    ClientCall (List (List UInt8)) → Except ClientError (Option ControlMessage) × Dialogue
  | .connect created =>
    match dialogue.connection, created with
    | some _, _ => (.ok none, dialogue)
    | none, .error error => (.error (.osError error), dialogue)
    | none, .ok toCome => (.ok none, { dialogue with connection := some ⟨[], toCome⟩ })
  | .close => (.ok none, { dialogue with connection := none })
  | .request messageType payload =>
    let result := dialogue.request messageType payload
    (result.1.map some, result.2)

def run (dialogue : Dialogue) :
    List (ClientCall (List (List UInt8))) →
      List (Except ClientError (Option ControlMessage)) × Dialogue
  | [] => ([], dialogue)
  | call :: rest =>
    let result := dialogue.call call
    let later := result.2.run rest
    (result.1 :: later.1, later.2)

end Dialogue

-- ---------------------------------------------------------------------------
-- What is sent
-- ---------------------------------------------------------------------------

theorem exists_toPythonType (type : ControlMessageType) :
    ∃ original, toPythonType original = type := by
  cases type
  · exact ⟨.createPort, rfl⟩
  · exact ⟨.removePort, rfl⟩
  · exact ⟨.setPortState, rfl⟩
  · exact ⟨.createVlan, rfl⟩
  · exact ⟨.removeVlan, rfl⟩
  · exact ⟨.addVlanMember, rfl⟩
  · exact ⟨.setRouterInterface, rfl⟩
  · exact ⟨.addOrReplaceRoute, rfl⟩
  · exact ⟨.removeRoute, rfl⟩
  · exact ⟨.addOrReplaceNeighbor, rfl⟩
  · exact ⟨.removeNeighbor, rfl⟩
  · exact ⟨.configureFaults, rfl⟩
  · exact ⟨.queryCounters, rfl⟩
  · exact ⟨.response, rfl⟩

/-- A request that is not too large is a message of the switch. -/
theorem exists_original {requestId : Nat} (hrequest : requestId ≤ 0xFFFFFFFF)
    (type : ControlMessageType) {payload : List UInt8}
    (hpayload : ¬ payload.length > ControlMessage.maximumPayload) :
    ∃ original : Transport.ControlMessage,
      toPython original = ⟨type, requestId, payload⟩ ∧ original.payload = payload := by
  obtain ⟨originalType, rfl⟩ := exists_toPythonType type
  have hfits : payload.length ≤ Transport.ControlMessage.maximumPayloadSize := by
    rw [← maximumPayload_eq]
    exact Nat.le_of_not_lt hpayload
  have hbound : requestId < 4294967296 := by omega
  have hkept : (UInt32.ofNat requestId).toNat = requestId := by
    rw [UInt32.toNat_ofNat', Nat.mod_eq_of_lt hbound]
  exact ⟨⟨originalType, UInt32.ofNat requestId, payload, hfits⟩, by rw [toPython, hkept], rfl⟩

/-- A request that is too large is not sent. -/
theorem encode_of_large {requestId : Nat} (hrequest : requestId ≤ 0xFFFFFFFF)
    (type : ControlMessageType) {payload : List UInt8}
    (hpayload : payload.length > ControlMessage.maximumPayload) :
    ControlMessage.encode ⟨type, requestId, payload⟩ =
      .error (.valueError "control payload is too large") := by
  have hrange : (0 : Int) ≤ requestId ∧ (requestId : Int) ≤ 0xFFFFFFFF := by omega
  rw [ControlMessage.encode, if_neg (not_not.mpr hrange), if_pos hpayload]

/-- The progress of a call that has come to its end. -/
def toProgress {α : Type} : Except ClientError α → Progress ClientError α
  | .ok value => .returned value
  | .error error => .failed error

/-- The checks of `request`, as a transfer. -/
def checked (requestId : Nat) (received : List UInt8) :
    Transfer Transport.SocketError ClientError ControlMessage :=
  Transfer.ofExcept (verdict requestId received)

theorem checked_apply (requestId : Nat) (received : List UInt8)
    (socket : Socket Transport.SocketError) :
    checked requestId received socket = (toProgress (verdict requestId received), socket) := by
  unfold checked
  cases verdict requestId received with
  | error error => rfl
  | ok response => rfl

/-- An exchange encodes, sends a frame, receives one and looks at it. -/
theorem exchange_eq (type : ControlMessageType) (requestId : Nat) (payload : List UInt8) :
    exchange type requestId payload =
      (Transfer.ofExcept (ControlMessage.encode ⟨type, requestId, payload⟩)).bind fun encoded =>
        ((sendFrame encoded).bind fun _ => receiveFrame).bind (checked requestId) := by
  unfold exchange
  refine congrArg (Transfer.bind _) (funext fun encoded => ?_)
  rw [Transfer.bind_assoc]
  refine congrArg (Transfer.bind _) (funext fun _ => ?_)
  refine congrArg (Transfer.bind _) (funext fun received => ?_)
  unfold checked verdict
  cases ControlMessage.decode received with
  | error error => rfl
  | ok response =>
    show (if response.messageType ≠ .response then _ else _) = _
    by_cases htype : response.messageType ≠ .response
    · rw [if_pos htype]
      dsimp only
      rw [if_pos htype]
      rfl
    · rw [if_neg htype]
      dsimp only
      rw [if_neg htype]
      by_cases hid : response.requestId ≠ requestId
      · rw [if_pos hid, if_pos hid]
        rfl
      · rw [if_neg hid, if_neg hid]
        rfl

/-- An exchange of a message on a connection, in two steps. -/
theorem exchange_of_message (original : Transport.ControlMessage) {type : ControlMessageType}
    {requestId : Nat} {payload : List UInt8}
    (h : toPython original = ⟨type, requestId, payload⟩) :
    exchange type requestId payload =
      ((sendFrame original.serialize).bind fun _ => receiveFrame).bind (checked requestId) := by
  rw [exchange_eq, ← h, encode_toPython, Transfer.ofExcept_ok_bind]

theorem maximumResponseSize_lt : Transport.maximumResponseSize < 256 ^ 4 := by
  unfold Transport.maximumResponseSize ControlMessage.headerSize ControlMessage.maximumPayload
  omega

theorem drains_receive :
    Drains (.valueError "control response frame is too large") receiveFrame := by
  rw [receiveFrame_eq]
  exact drains_receiveFrame _ _ _ _

-- ---------------------------------------------------------------------------
-- Following a dialogue
-- ---------------------------------------------------------------------------

/-- A socket has sent the messages of a connection, as the switch serializes them, and is to
receive its frames. -/
def Conducts (socket : Socket Transport.SocketError) (connection : Connection) : Prop :=
  ∃ requests : List Transport.ControlMessage, connection.sent = requests.map toPython ∧
    Carries Transport.maximumResponseSize socket
      (requests.map Transport.ControlMessage.serialize) connection.toCome

/-- A client is where a dialogue is. -/
structure Follows (client : Client) (dialogue : Dialogue) : Prop where
  nextRequestId : client.nextRequestId = dialogue.nextRequestId
  inRange : dialogue.nextRequestId ≤ 0xFFFFFFFF
  connection : Option.Rel Conducts client.socket dialogue.connection

/-- The socket has calls enough for all that is to come and `need` more. -/
def Client.Spares (need : Nat) (client : Client) : Prop :=
  ∀ socket ∈ client.socket, socket.incoming.length + need ≤ transfers socket.outcomes

theorem Client.Spares.mono {client : Client} {less more : Nat} (h : client.Spares more)
    (hle : less ≤ more) : client.Spares less := by
  intro socket hsocket
  have hspares := h socket hsocket
  omega

/-- What a call comes to that is to give what the dialogue gives. -/
inductive Comes {α : Type} (ideal : Except ClientError α × Dialogue) (need : Nat)
    (client : Client) : Progress ClientError α × Client → Prop
  | done {after : Client} (hfollows : Follows after ideal.2)
    (hspares : ∀ rest, client.Spares (need + rest) → after.Spares rest) :
    Comes ideal need client (toProgress ideal.1, after)
  | waiting {after : Client} (hshort : ¬ client.Spares need) :
    Comes ideal need client (.running, after)

theorem following_le {requestId : Nat} (h : requestId ≤ 0xFFFFFFFF) :
    following requestId ≤ 0xFFFFFFFF := by
  unfold following
  split <;> omega

/-- The calls for a request: its frame, and one to find the end of the stream. -/
def requestNeed (payload : List UInt8) : Nat :=
  4 + (ControlMessage.headerSize + payload.length) + 1

/-- **A request is the request of the dialogue.** -/
theorem follows_request {client : Client} {dialogue : Dialogue} (h : Follows client dialogue)
    (messageType : ControlMessageType) (payload : List UInt8) :
    Comes (dialogue.request messageType payload) (requestNeed payload) client
      (client.request messageType payload) := by
  obtain ⟨socket, requestId⟩ := client
  obtain ⟨connection, nextRequestId⟩ := dialogue
  obtain ⟨hid, hrange, hconnection⟩ := h
  dsimp only at hid hrange hconnection
  subst hid
  have hnext := following_le hrange
  cases hconnection with
  | none =>
    refine .done ⟨rfl, hrange, .none⟩ fun rest hspares => ?_
    intro socket hsocket
    cases hsocket
  | @some socket connection hconducts =>
    obtain ⟨requests, hsent, hcarries⟩ := hconducts
    obtain ⟨sent, toCome⟩ := connection
    dsimp only at hsent hcarries
    unfold Client.request Dialogue.request
    dsimp only
    by_cases hlarge : payload.length > ControlMessage.maximumPayload
    · -- nothing is sent, and the identifier is spent
      have hnothing : exchange messageType requestId payload socket =
          (.failed (.valueError "control payload is too large"), socket) := by
        rw [exchange_eq, encode_of_large hrange messageType hlarge, Transfer.ofExcept_error_bind]
      rw [hnothing, if_pos hlarge]
      refine .done ⟨rfl, hnext, .some ⟨requests, hsent, hcarries⟩⟩ fun rest hspares => ?_
      exact hspares.mono (Nat.le_add_left _ _)
    · obtain ⟨original, horiginal, hpayload⟩ := exists_original hrange messageType hlarge
      have hlength : (frame original.serialize).length + 1 = requestNeed payload := by
        rw [length_frame, Transport.ControlMessage.length_serialize, hpayload, requestNeed,
          headerSize_eq]
      have hsize : original.serialize.length < 256 ^ 4 := by
        unfold ControlMessage.maximumPayload at hlarge
        rw [Transport.ControlMessage.length_serialize, hpayload]
        unfold Transport.ControlMessage.headerSize
        omega
      have hexchange := carries_exchange maximumResponseSize_lt (fun h => by cases h)
        (writes_sendFrame hsize) receivesFrame_receiveFrame drains_receive hcarries
      have hrequests : (requests ++ [original]).map Transport.ControlMessage.serialize =
          requests.map Transport.ControlMessage.serialize ++ [original.serialize] :=
        List.map_append
      have hsentAfter : sent ++ [⟨messageType, requestId, payload⟩] =
          (requests ++ [original]).map toPython := by
        rw [List.map_append, List.map_singleton, horiginal, hsent]
      rw [exchange_of_message original horiginal, if_neg hlarge]
      rw [Transfer.bind_apply ((sendFrame original.serialize).bind fun _ => receiveFrame)]
      generalize (sendFrame original.serialize).bind (fun _ => receiveFrame) socket = result
        at hexchange
      cases hexchange with
      | @answered after received later htoCome hafter hused =>
        subst htoCome
        rw [← hrequests] at hafter
        dsimp only
        rw [checked_apply]
        refine .done ⟨rfl, hnext, .some ⟨requests ++ [original], hsentAfter, hafter⟩⟩ ?_
        intro rest hspares socket' hsocket'
        cases hsocket'
        have hcalls := hspares socket rfl
        show after.incoming.length + rest ≤ transfers after.outcomes
        omega
      | @ended after htoCome hafter hused =>
        subst htoCome
        rw [← hrequests] at hafter
        refine .done ⟨rfl, hnext, .some ⟨requests ++ [original], hsentAfter, hafter⟩⟩ ?_
        intro rest hspares socket' hsocket'
        cases hsocket'
        have hcalls := hspares socket rfl
        show after.incoming.length + rest ≤ transfers after.outcomes
        omega
      | waiting hshort =>
        refine .waiting fun hspares => ?_
        have hcalls := hspares socket rfl
        omega

-- ---------------------------------------------------------------------------
-- Runs
-- ---------------------------------------------------------------------------

/-- A call over bytes is a call over messages: a connection that is made carries frames. -/
inductive Opens :
    ClientCall (Socket Transport.SocketError) → ClientCall (List (List UInt8)) → Prop
  | refused (error : Transport.SocketError) :
    Opens (.connect (.error error)) (.connect (.error error))
  | opened {socket : Socket Transport.SocketError} {toCome : List (List UInt8)}
    (h : Carries Transport.maximumResponseSize socket [] toCome) :
    Opens (.connect (.ok socket)) (.connect (.ok toCome))
  | close : Opens .close .close
  | request (messageType : ControlMessageType) (payload : List UInt8) :
    Opens (.request messageType payload) (.request messageType payload)

namespace ClientCall

def need {σ : Type} : ClientCall σ → Nat
  | .request _ payload => requestNeed payload
  | _ => 0

/-- The calls that all the requests of a run may take. -/
def needs {σ : Type} (calls : List (ClientCall σ)) : Nat := (calls.map need).sum

/-- A connection that is made has calls enough for `rest` more than all that is to come. -/
def Spares (rest : Nat) : ClientCall (Socket Transport.SocketError) → Prop
  | .connect (.ok socket) => socket.incoming.length + rest ≤ transfers socket.outcomes
  | _ => True

theorem Spares.mono {call : ClientCall (Socket Transport.SocketError)} {less more : Nat}
    (h : call.Spares more) (hle : less ≤ more) : call.Spares less := by
  match call, h with
  | .connect (.ok socket), h =>
    have hspares : socket.incoming.length + more ≤ transfers socket.outcomes := h
    show socket.incoming.length + less ≤ transfers socket.outcomes
    omega
  | .connect (.error _), _ => exact trivial
  | .close, _ => exact trivial
  | .request _ _, _ => exact trivial

end ClientCall

/-- Every call is the call of the dialogue. -/
theorem follows_call {client : Client} {dialogue : Dialogue} (h : Follows client dialogue)
    {call : ClientCall (Socket Transport.SocketError)} {whole : ClientCall (List (List UInt8))}
    (hcall : Opens call whole) :
    (∃ after, client.call call = (toProgress (dialogue.call whole).1, after) ∧
      Follows after (dialogue.call whole).2 ∧
      ∀ rest, client.Spares (call.need + rest) → call.Spares rest → after.Spares rest) ∨
    ∃ after, client.call call = (.running, after) ∧ ¬ client.Spares call.need := by
  cases hcall with
  | request messageType payload =>
    have hrequest := follows_request h messageType payload
    unfold Client.call Dialogue.call
    dsimp only
    generalize dialogue.request messageType payload = ideal at hrequest
    generalize client.request messageType payload = result at hrequest
    obtain ⟨answer, next⟩ := ideal
    cases hrequest with
    | @done after hfollows hspares =>
      refine .inl ⟨after, ?_, hfollows, fun rest hclient _ => hspares rest hclient⟩
      cases answer with
      | error error => rfl
      | ok response => rfl
    | @waiting after hshort => exact .inr ⟨after, rfl, hshort⟩
  | close =>
    refine .inl ⟨client.close, rfl, ⟨h.nextRequestId, h.inRange, .none⟩, ?_⟩
    intro rest _ _ socket hsocket
    cases hsocket
  | refused error =>
    refine .inl ⟨client, ?_, ?_, fun rest hspares _ => hspares.mono (Nat.le_add_left _ _)⟩
    · obtain ⟨socket, requestId⟩ := client
      obtain ⟨connection, nextRequestId⟩ := dialogue
      cases h.connection with
      | none => rfl
      | some hconducts => rfl
    · obtain ⟨connection, nextRequestId⟩ := dialogue
      cases connection with
      | none => exact h
      | some connection => exact h
  | @opened created toCome hcarries =>
    obtain ⟨socket, requestId⟩ := client
    obtain ⟨connection, nextRequestId⟩ := dialogue
    obtain ⟨hid, hrange, hconnection⟩ := h
    dsimp only at hid hrange hconnection
    cases hconnection with
    | some hconducts =>
      -- `create_connection` is not called
      exact .inl ⟨_, rfl, ⟨hid, hrange, .some hconducts⟩,
        fun rest hspares _ => hspares.mono (Nat.le_add_left _ _)⟩
    | none =>
      refine .inl ⟨⟨some created, requestId⟩, rfl, ⟨hid, hrange, .some ⟨[], rfl, hcarries⟩⟩, ?_⟩
      intro rest _ hcreated socket hsocket
      cases hsocket
      exact hcreated

/-- What a run comes to that is to follow a dialogue: the same answers, or the first of them
and then a call that is still running. -/
inductive InStep (ideal : List (Except ClientError (Option ControlMessage)) × Dialogue) :
    List (Progress ClientError (Option ControlMessage)) × Client → Prop
  | finished {client : Client} (h : Follows client ideal.2) :
    InStep ideal (ideal.1.map toProgress, client)
  | waiting {answered : List (Except ClientError (Option ControlMessage))} {client : Client}
    (h : answered <+: ideal.1) (hfewer : answered.length < ideal.1.length) :
    InStep ideal (answered.map toProgress ++ [.running], client)

/-- A call that is answered comes before the run of the others. -/
theorem Client.run_answered {client after : Client}
    {call : ClientCall (Socket Transport.SocketError)}
    {answer : Except ClientError (Option ControlMessage)}
    (h : client.call call = (toProgress answer, after))
    (calls : List (ClientCall (Socket Transport.SocketError))) :
    client.run (call :: calls) =
      (toProgress answer :: (after.run calls).1, (after.run calls).2) := by
  rw [Client.run, h]
  cases answer with
  | error error => rfl
  | ok value => rfl

theorem InStep.cons {ideal : List (Except ClientError (Option ControlMessage)) × Dialogue}
    {result : List (Progress ClientError (Option ControlMessage)) × Client}
    (answer : Except ClientError (Option ControlMessage)) (h : InStep ideal result) :
    InStep (answer :: ideal.1, ideal.2) (toProgress answer :: result.1, result.2) := by
  cases h with
  | finished hfollows => exact @InStep.finished (answer :: ideal.1, ideal.2) _ hfollows
  | @waiting answered client hprefix hfewer =>
    exact @InStep.waiting (answer :: ideal.1, ideal.2) (answer :: answered) client
      (List.cons_prefix_cons.mpr ⟨rfl, hprefix⟩) (Nat.succ_lt_succ hfewer)

/-- **A run of the client is a run of the dialogue**, from any client that is where the
dialogue is. -/
theorem inStep_run {calls : List (ClientCall (Socket Transport.SocketError))}
    {wholes : List (ClientCall (List (List UInt8)))} (hcalls : List.Forall₂ Opens calls wholes)
    {client : Client} {dialogue : Dialogue} (h : Follows client dialogue) :
    InStep (dialogue.run wholes) (client.run calls) := by
  induction hcalls generalizing client dialogue with
  | nil => exact .finished h
  | @cons call whole calls wholes hcall _ ih =>
    rcases follows_call h hcall with ⟨after, hanswer, hfollows, _⟩ | ⟨after, hanswer, _⟩
    · rw [Client.run_answered hanswer]
      exact (ih hfollows).cons _
    · rw [Client.run, hanswer]
      exact InStep.waiting List.nil_prefix (Nat.succ_pos _)

/-- With calls enough no request is left running. -/
theorem run_eq_of_spares {calls : List (ClientCall (Socket Transport.SocketError))}
    {wholes : List (ClientCall (List (List UInt8)))} (hcalls : List.Forall₂ Opens calls wholes)
    {client : Client} {dialogue : Dialogue} (h : Follows client dialogue)
    (hspares : client.Spares (ClientCall.needs calls))
    (hopened : ∀ call ∈ calls, call.Spares (ClientCall.needs calls)) :
    ∃ after, client.run calls = ((dialogue.run wholes).1.map toProgress, after) ∧
      Follows after (dialogue.run wholes).2 := by
  induction hcalls generalizing client dialogue with
  | nil => exact ⟨client, rfl, h⟩
  | @cons call whole calls wholes hcall _ ih =>
    have hneeds : ClientCall.needs (call :: calls) = call.need + ClientCall.needs calls := by
      rw [ClientCall.needs, List.map_cons, List.sum_cons]
      rfl
    rw [hneeds] at hspares hopened
    have hlater : ∀ other ∈ call :: calls, other.Spares (ClientCall.needs calls) :=
      fun other hother => (hopened other hother).mono (Nat.le_add_left _ _)
    rcases follows_call h hcall with ⟨after, hanswer, hfollows, hkept⟩ | ⟨after, hanswer, hshort⟩
    · obtain ⟨final, hrun, hfinal⟩ := ih hfollows
        (hkept _ hspares (hlater call List.mem_cons_self))
        fun other hother => hlater other (List.mem_cons_of_mem _ hother)
      refine ⟨final, ?_, hfinal⟩
      rw [Client.run_answered hanswer, hrun]
      rfl
    · exact absurd (hspares.mono (Nat.le_add_right _ _)) hshort

-- ---------------------------------------------------------------------------
-- Identifiers
-- ---------------------------------------------------------------------------

/-- The identifier of the request number `index`, from 0. -/
def identifier (index : Nat) : Nat := index % 0xFFFFFFFF + 1

theorem following_identifier (index : Nat) :
    following (identifier index) = identifier (index + 1) := by
  unfold following identifier
  split <;> omega

namespace Dialogue

/-- The identifiers of the requests of a run that are made on a connection. -/
def issued (dialogue : Dialogue) : List (ClientCall (List (List UInt8))) → List Nat
  | [] => []
  | call :: rest =>
    let later := (dialogue.call call).2.issued rest
    match call, dialogue.connection with
    | .request _ _, some _ => dialogue.nextRequestId :: later
    | _, _ => later

end Dialogue

/-- The identifiers of the responses that requests have returned. -/
def accepted (answers : List (Progress ClientError (Option ControlMessage))) : List Int :=
  answers.filterMap fun
    | .returned (some response) => some response.requestId
    | _ => none

theorem accepted_append (front back : List (Progress ClientError (Option ControlMessage))) :
    accepted (front ++ back) = accepted front ++ accepted back :=
  List.filterMap_append

theorem requestId_of_verdict {requestId : Nat} {received : List UInt8} {response : ControlMessage}
    (h : verdict requestId received = .ok response) : response.requestId = requestId := by
  unfold verdict at h
  cases hdecode : ControlMessage.decode received with
  | error error =>
    rw [hdecode] at h
    cases h
  | ok message =>
    rw [hdecode] at h
    dsimp only at h
    split at h
    · cases h
    · split at h
      · cases h
      · rename_i _ hid
        cases h
        exact not_not.mp hid

namespace Dialogue

/-- A request on a connection has the next identifier, and spends it. -/
theorem request_spends {dialogue : Dialogue} {connection : Connection}
    (h : dialogue.connection = some connection) (messageType : ControlMessageType)
    (payload : List UInt8) :
    (dialogue.request messageType payload).2.nextRequestId = following dialogue.nextRequestId ∧
      ∀ response, (dialogue.request messageType payload).1 = .ok response →
        response.requestId = dialogue.nextRequestId := by
  obtain ⟨sent, toCome⟩ := connection
  unfold request
  rw [h]
  dsimp only
  split
  · exact ⟨rfl, fun response hresponse => by cases hresponse⟩
  · cases toCome with
    | nil => exact ⟨rfl, fun response hresponse => by cases hresponse⟩
    | cons received later => exact ⟨rfl, fun response => requestId_of_verdict⟩

theorem issued_request {dialogue : Dialogue} {connection : Connection}
    (h : dialogue.connection = some connection) (messageType : ControlMessageType)
    (payload : List UInt8) (rest : List (ClientCall (List (List UInt8)))) :
    dialogue.issued (.request messageType payload :: rest) =
      dialogue.nextRequestId :: (dialogue.call (.request messageType payload)).2.issued rest := by
  rw [issued.eq_def]
  dsimp only
  rw [h]

/-- A call is a request on a connection, or spends no identifier and returns no response. -/
theorem spends_or_spares (dialogue : Dialogue) (call : ClientCall (List (List UInt8))) :
    (∃ messageType payload connection, call = .request messageType payload ∧
      dialogue.connection = some connection) ∨
    (dialogue.call call).2.nextRequestId = dialogue.nextRequestId ∧
      accepted [toProgress (dialogue.call call).1] = [] ∧
      ∀ rest, dialogue.issued (call :: rest) = (dialogue.call call).2.issued rest := by
  obtain ⟨connection, nextRequestId⟩ := dialogue
  cases call with
  | connect created =>
    cases connection with
    | some connection => exact .inr ⟨rfl, rfl, fun rest => rfl⟩
    | none =>
      cases created with
      | error error => exact .inr ⟨rfl, rfl, fun rest => rfl⟩
      | ok toCome => exact .inr ⟨rfl, rfl, fun rest => rfl⟩
  | close => exact .inr ⟨rfl, rfl, fun rest => rfl⟩
  | request messageType payload =>
    cases connection with
    | some connection => exact .inl ⟨messageType, payload, connection, rfl, rfl⟩
    | none => exact .inr ⟨rfl, rfl, fun rest => rfl⟩

/-- **The identifiers of a run** are the next ones, in order. -/
theorem issued_eq {dialogue : Dialogue} {index : Nat}
    (h : dialogue.nextRequestId = identifier index)
    (calls : List (ClientCall (List (List UInt8)))) :
    dialogue.issued calls =
      (List.range' index (dialogue.issued calls).length).map identifier := by
  induction calls generalizing dialogue index with
  | nil => rfl
  | cons call rest ih =>
    rcases spends_or_spares dialogue call with
      ⟨messageType, payload, connection, rfl, hconnection⟩ | ⟨hkept, _, hissued⟩
    · have hnext := (request_spends hconnection messageType payload).1
      rw [h, following_identifier] at hnext
      have hlater : (dialogue.call (.request messageType payload)).2.issued rest = _ := ih hnext
      rw [issued_request hconnection, h, List.length_cons, List.range'_succ, List.map_cons,
        ← hlater]
    · rw [hissued]
      exact ih (hkept.trans h)

/-- The responses that are returned have identifiers of the run, in that order. -/
theorem accepted_sublist (dialogue : Dialogue) (calls : List (ClientCall (List (List UInt8)))) :
    (accepted ((dialogue.run calls).1.map toProgress)).Sublist
      ((dialogue.issued calls).map Int.ofNat) := by
  induction calls generalizing dialogue with
  | nil => exact List.Sublist.slnil
  | cons call rest ih =>
    have hlater := ih (dialogue.call call).2
    have hfirst : accepted ((dialogue.run (call :: rest)).1.map toProgress) =
        accepted [toProgress (dialogue.call call).1] ++
          accepted (((dialogue.call call).2.run rest).1.map toProgress) :=
      accepted_append [_] _
    rw [hfirst]
    rcases spends_or_spares dialogue call with
      ⟨messageType, payload, connection, rfl, hconnection⟩ | ⟨_, hnothing, hissued⟩
    · have hown := (request_spends hconnection messageType payload).2
      rw [issued_request hconnection, List.map_cons]
      cases hanswer : (dialogue.request messageType payload).1 with
      | error error =>
        have hnothing :
            accepted [toProgress (dialogue.call (.request messageType payload)).1] = [] := by
          rw [call, hanswer]
          rfl
        rw [hnothing, List.nil_append]
        exact hlater.cons _
      | ok response =>
        have hresponse :
            accepted [toProgress (dialogue.call (.request messageType payload)).1] =
              [Int.ofNat dialogue.nextRequestId] := by
          rw [call, hanswer]
          show [response.requestId] = _
          rw [hown response hanswer]
          rfl
        rw [hresponse, List.singleton_append]
        exact hlater.cons_cons _
    · rw [hnothing, hissued, List.nil_append]
      exact hlater

end Dialogue

/-- Fewer than all the identifiers in a row are different ones. -/
theorem nodup_identifiers {count : Nat} (h : count ≤ 0xFFFFFFFF) :
    ((List.range' 0 count).map identifier).Nodup := by
  refine List.Nodup.map_on ?_ List.nodup_range'
  intro first hfirst second hsecond hsame
  rw [List.mem_range'_1] at hfirst hsecond
  unfold identifier at hsame
  omega

-- ---------------------------------------------------------------------------
-- Runs of a new client
-- ---------------------------------------------------------------------------

theorem follows_new : Follows Client.new Dialogue.new :=
  ⟨rfl, by decide, .none⟩

/-- **The client keeps step with its switch.** In a run of any calls, over connections whose
calls do not fail and whose other ends send whole frames, not too large for the client, until
they end, every call gives what the dialogue gives: the n-th request sent on a connection has
its n-th frame, which is returned if it is the response of that identifier and refused
otherwise, and what has been sent is the requests, as the switch reads them. No call is left
running on a connection with calls enough. The identifiers run from 1 to the last of 32 bits
and then again, and the responses that are returned have identifiers of them in that order. -/
theorem requests_follow_dialogue {calls : List (ClientCall (Socket Transport.SocketError))}
    {wholes : List (ClientCall (List (List UInt8)))} (hcalls : List.Forall₂ Opens calls wholes) :
    InStep (Dialogue.new.run wholes) (Client.new.run calls) ∧
    ((∀ call ∈ calls, call.Spares (ClientCall.needs calls)) →
      ∃ client, Client.new.run calls = ((Dialogue.new.run wholes).1.map toProgress, client) ∧
        Follows client (Dialogue.new.run wholes).2) ∧
    ∃ count, Dialogue.new.issued wholes = (List.range' 0 count).map identifier ∧
      (accepted (Client.new.run calls).1).Sublist ((Dialogue.new.issued wholes).map Int.ofNat) ∧
      (count ≤ 0xFFFFFFFF → (accepted (Client.new.run calls).1).Nodup) := by
  have hrun := inStep_run hcalls follows_new
  have hissued := @Dialogue.issued_eq Dialogue.new 0 rfl wholes
  have hsublist : (accepted (Client.new.run calls).1).Sublist
      ((Dialogue.new.issued wholes).map Int.ofNat) := by
    have hideal := Dialogue.accepted_sublist Dialogue.new wholes
    generalize Client.new.run calls = result at hrun
    cases hrun with
    | finished hfollows => exact hideal
    | @waiting answered client hprefix hfewer =>
      obtain ⟨later, hlater⟩ := hprefix
      rw [← hlater, List.map_append, accepted_append] at hideal
      rw [accepted_append]
      have hnone : accepted [Progress.running] = [] := rfl
      rw [hnone, List.append_nil]
      exact (List.sublist_append_left _ _).trans hideal
  refine ⟨hrun, fun hspares => ?_, _, hissued, hsublist, fun hcount => ?_⟩
  · refine run_eq_of_spares hcalls follows_new ?_ hspares
    intro socket hsocket
    cases hsocket
  · refine hsublist.nodup ?_
    rw [hissued]
    exact (nodup_identifiers hcount).map fun _ _ => Int.ofNat.inj

/-- The response to the first request, which the switch sends twice. -/
def repeated : List UInt8 :=
  [0x53, 0x53, 0x43, 0x50, 0, 1, 0, 100, 0, 0, 0, 1, 0, 0, 0, 1, 0x2A]

def repeatedSocket : Socket Transport.SocketError :=
  ⟨List.replicate 130 (.transferred 48), [], frames [repeated, repeated]⟩

theorem carries_repeatedSocket :
    Carries Transport.maximumResponseSize repeatedSocket [] [repeated, repeated] := by
  refine ⟨?_, rfl, ⟨[], cut_nil _, (List.append_nil _).symm⟩, ?_⟩
  · intro outcome houtcome
    rw [List.eq_of_mem_replicate houtcome]
    exact Nat.succ_pos _
  · intro payload hpayload
    simp only [List.mem_cons, List.not_mem_nil, or_false, or_self] at hpayload
    subst hpayload
    decide

/-- Three requests over that connection: one returns, the next is refused although the switch
has answered, and the last finds the end. -/
theorem requests_follow_dialogue_repeated :
    ∃ client, Client.new.run
        [.connect (.ok repeatedSocket), .request .queryCounters [], .request .queryCounters [],
          .request .removePort [0, 3], .close] =
      ([.returned none, .returned (some ⟨.response, 1, [0x2A]⟩),
        .failed (.valueError "control response request_id does not match"),
        .failed (.connectionError "control connection closed"), .returned none], client) := by
  obtain ⟨_, hspares, _⟩ := requests_follow_dialogue
    (.cons (.opened carries_repeatedSocket) (.cons (.request .queryCounters [])
      (.cons (.request .queryCounters []) (.cons (.request .removePort [0, 3])
        (.cons .close .nil)))))
  have hneeds : repeatedSocket.incoming.length + 65 ≤ transfers repeatedSocket.outcomes := by
    decide +kernel
  obtain ⟨client, hrun, _⟩ := hspares (by
    intro call hcall
    simp only [List.mem_cons, List.not_mem_nil, or_false] at hcall
    rcases hcall with rfl | rfl | rfl | rfl | rfl
    · exact hneeds
    · exact trivial
    · exact trivial
    · exact trivial
    · exact trivial)
  exact ⟨client, hrun⟩

end SiliconSwitch.ControlClient
