import SiliconSwitch.Discovery.DiscoveryService
import SiliconSwitch.Library.Transition

/-!
# Discovery over a network

Any number of responders, and of clients that each run `discover_all` once. The network may
deliver a datagram to anyone, any number of times, late or never, so queries reach several
responders or none, and clients hear the queries and the answers that are meant for others.

* `respondOnce_ok_iff`  — what a responder sends when it succeeds;
* `received_answer`     — what a client makes of an answer, and of a query;
* `genuine_step`        — every datagram is a query of a client or an answer to one;
* `discovered_genuine`  — so a client lists the machines that have answered its request, each
  once and as they are, and misses none that it has heard while it had room.
-/

namespace SiliconSwitch.Discovery

open SiliconSwitch.Library SiliconSwitch.Transport

-- ---------------------------------------------------------------------------
-- The answer of a responder
-- ---------------------------------------------------------------------------

namespace DiscoveryResponder

/-- The response that `respond_once` makes of the datagram in its buffer. -/
def answer (responder : DiscoveryResponder) (payload : List UInt8) : Option DiscoveryMessage :=
  match DiscoveryMessage.parse (payload.take receiveSize) with
  | .error _ => none
  | .ok query =>
    if query.type ≠ .query then none
    else
      DiscoveryMessage.advertisement query.requestId responder.advertisement.nodeId
        responder.advertisement.role.code responder.advertisement.capabilities
        responder.advertisement.controlPort responder.advertisement.statePort
        responder.advertisement.name

/-- **A responder succeeds by sending its answer** to where the datagram came from. -/
theorem respondOnce_ok_iff {responder : DiscoveryResponder} {send : Send}
    {datagram : UdpDatagram} {address : List UInt8} :
    responder.respondOnce send (.ok datagram) = .ok address ↔
      ∃ response octets, responder.answer datagram.payload = some response ∧
        send datagram.sourceAddress datagram.sourcePort response.serialize = .ok octets ∧
        datagram.sourceAddress = address := by
  unfold respondOnce answer UdpSocket.receive
  dsimp only
  cases DiscoveryMessage.parse (datagram.payload.take receiveSize) with
  | error reason => simp
  | ok query =>
    dsimp only
    by_cases htype : query.type = .query
    · rw [if_neg (not_not.mpr htype), if_neg (not_not.mpr htype)]
      split
      · rename_i hnone
        simp [hnone]
      · rename_i response hsome
        rw [hsome]
        split
        · rename_i hfailed
          simp [hfailed]
        · rename_i octets hsent
          simp [hsent]
    · rw [if_pos htype, if_pos htype]
      simp

/-- A responder answers queries only, under their request. -/
theorem answer_eq_some {responder : DiscoveryResponder} {payload : List UInt8}
    {response : DiscoveryMessage} (h : responder.answer payload = some response) :
    ∃ query, DiscoveryMessage.parse (payload.take receiveSize) = .ok query ∧
      query.type = .query ∧
      DiscoveryMessage.advertisement query.requestId responder.advertisement.nodeId
        responder.advertisement.role.code responder.advertisement.capabilities
        responder.advertisement.controlPort responder.advertisement.statePort
        responder.advertisement.name = some response := by
  unfold answer at h
  cases hparse : DiscoveryMessage.parse (payload.take receiveSize) with
  | error reason =>
    rw [hparse] at h
    simp at h
  | ok query =>
    rw [hparse] at h
    dsimp only at h
    by_cases htype : query.type = .query
    · rw [if_neg (not_not.mpr htype)] at h
      exact ⟨query, rfl, htype, h⟩
    · rw [if_pos htype] at h
      simp at h

end DiscoveryResponder

-- ---------------------------------------------------------------------------
-- Responders, clients and network
-- ---------------------------------------------------------------------------

section System

variable {κ ι : Type}

/-- Responders and clients at their addresses. -/
structure Site (κ ι : Type) where
  responder : κ → DiscoveryResponder
  responderAddress : κ → List UInt8
  responderPort : κ → UInt16
  clientAddress : ι → List UInt8
  clientPort : ι → UInt16
  requestId : ι → UInt64
  maximumResults : ι → Nat

/-- Every datagram sent so far; what each client has received since its query, if it has sent
one; and who has answered which request. -/
structure SiteState (κ ι : Type) where
  sent : List UdpDatagram
  heard : ι → Option (List UdpDatagram)
  answered : List (κ × UInt64)

inductive SiteEvent (κ ι : Type)
  | discover (client : ι)
  | respond (responder : κ) (datagram : UdpDatagram)
  | hear (client : ι) (datagram : UdpDatagram)

namespace Site

def start (_site : Site κ ι) : SiteState κ ι := ⟨[], fun _ => none, []⟩

def queryDatagram (site : Site κ ι) (i : ι) : UdpDatagram :=
  ⟨site.clientAddress i, site.clientPort i, (DiscoveryMessage.query (site.requestId i)).serialize⟩

/-- What a client has listed after these datagrams. -/
def machines (site : Site κ ι) (i : ι) (datagrams : List UdpDatagram) : List DiscoveredMachine :=
  DiscoveryClient.collect (site.requestId i) (site.maximumResults i) datagrams []

/-- A responder sends its answer, if it has one. -/
def respond (site : Site κ ι) (state : SiteState κ ι) (k : κ) (datagram : UdpDatagram) :
    SiteState κ ι :=
  match (site.responder k).answer datagram.payload with
  | none => state
  | some response =>
    { state with
      sent := state.sent ++
        [⟨site.responderAddress k, site.responderPort k, response.serialize⟩]
      answered := state.answered ++ [(k, response.requestId)] }

variable [DecidableEq ι]

/-- A client sends its query and begins to listen. -/
def discover (site : Site κ ι) (state : SiteState κ ι) (i : ι) : SiteState κ ι :=
  { state with
    sent := state.sent ++ [site.queryDatagram i]
    heard := Function.update state.heard i (some []) }

/-- A client has received these datagrams. -/
def hear (state : SiteState κ ι) (i : ι) (datagrams : List UdpDatagram) : SiteState κ ι :=
  { state with heard := Function.update state.heard i (some datagrams) }

theorem heard_discover (site : Site κ ι) (state : SiteState κ ι) (i j : ι) :
    (site.discover state i).heard j = if j = i then some [] else state.heard j :=
  Function.update_apply ..

theorem heard_hear (state : SiteState κ ι) (i j : ι) (datagrams : List UdpDatagram) :
    (hear state i datagrams).heard j = if j = i then some datagrams else state.heard j :=
  Function.update_apply ..

inductive Step (site : Site κ ι) (state : SiteState κ ι) : SiteEvent κ ι → SiteState κ ι → Prop
  | discover {i : ι} (hfresh : state.heard i = none) :
      Step site state (.discover i) (site.discover state i)
  | respond {k : κ} {datagram : UdpDatagram} {send : Send} {address : List UInt8}
      (hsent : datagram ∈ state.sent)
      (hresponds : (site.responder k).respondOnce send (.ok datagram) = .ok address) :
      Step site state (.respond k datagram) (site.respond state k datagram)
  | hear {i : ι} {datagrams : List UdpDatagram} {datagram : UdpDatagram}
      (hlistens : state.heard i = some datagrams)
      (hroom : (site.machines i datagrams).length < site.maximumResults i)
      (hsent : datagram ∈ state.sent) :
      Step site state (.hear i datagram) (hear state i (datagrams ++ [datagram]))

def system (site : Site κ ι) : System (SiteState κ ι) (SiteEvent κ ι) where
  initial state := state = site.start
  step := Step site

end Site

-- ---------------------------------------------------------------------------
-- Queries and answers
-- ---------------------------------------------------------------------------

/-- The datagram is the answer of the responder to the request. -/
def Answers (site : Site κ ι) (k : κ) (requestId : UInt64) (datagram : UdpDatagram) : Prop :=
  ∃ response, DiscoveryMessage.advertisement requestId (site.responder k).advertisement.nodeId
      (site.responder k).advertisement.role.code (site.responder k).advertisement.capabilities
      (site.responder k).advertisement.controlPort (site.responder k).advertisement.statePort
      (site.responder k).advertisement.name = some response ∧
    datagram = ⟨site.responderAddress k, site.responderPort k, response.serialize⟩

/-- The machine that a responder advertises. -/
def advertisedBy (site : Site κ ι) (k : κ) : DiscoveredMachine :=
  .ofAdvertisement (site.responder k).advertisement (site.responderAddress k)

theorem take_serialize (message : DiscoveryMessage) :
    message.serialize.take receiveSize = message.serialize := by
  refine List.take_of_length_le ?_
  rw [DiscoveryMessage.length_serialize, receiveSize]
  exact Nat.add_le_add_left message.length_name_le _

/-- Whatever is parsed from a message has its type and its request. -/
theorem fields_of_parse_serialize {message parsed : DiscoveryMessage}
    (h : DiscoveryMessage.parse message.serialize = .ok parsed) :
    parsed.type = message.type ∧ parsed.requestId = message.requestId := by
  have hparsed := (DiscoveryMessage.readFrom_of_parse h).1
  have hmessage := DiscoveryMessage.readFrom_serialize message
  have htype : message.type.code = parsed.type.code :=
    Option.some.inj (hmessage.type.symm.trans hparsed.type)
  have hrequest : message.requestId = parsed.requestId :=
    Option.some.inj (hmessage.requestId.symm.trans hparsed.requestId)
  have hcodes := congrArg DiscoveryMessageType.ofCode htype
  rw [DiscoveryMessageType.ofCode_code, DiscoveryMessageType.ofCode_code, Option.some.injEq]
    at hcodes
  exact ⟨hcodes.symm, hrequest.symm⟩

theorem parse_advertisement {message : DiscoveryMessage} (htype : message.type = .advertisement) :
    DiscoveryMessage.parse message.serialize = .ok message := by
  rw [DiscoveryMessage.parse_serialize_iff, htype]
  intro hquery
  simp at hquery

/-- A response says of its machine what the advertisement of the responder does. -/
theorem ofAdvertisement_response {requestId : UInt64} {message response : DiscoveryMessage}
    (h : DiscoveryMessage.advertisement requestId message.nodeId message.role.code
      message.capabilities message.controlPort message.statePort message.name = some response)
    (address : List UInt8) :
    DiscoveredMachine.ofAdvertisement response address = .ofAdvertisement message address := by
  obtain ⟨_, hrole, hcapabilities, _, hnode, hcontrol, hstate, hname⟩ :=
    DiscoveryMessage.advertisement_eq_some h
  have hsame : response.role = message.role := by
    have hcodes := congrArg MachineRole.ofCode hrole
    rw [MachineRole.ofCode_code, MachineRole.ofCode_code, Option.some.injEq] at hcodes
    exact hcodes
  unfold DiscoveredMachine.ofAdvertisement
  rw [hsame, hcapabilities, hnode, hcontrol, hstate, hname]

/-- **What a client makes of an answer**: the machine of the responder, if the answer is for
its own request, and nothing otherwise. -/
theorem received_answer {site : Site κ ι} {k : κ} {answered requestId : UInt64}
    {datagram : UdpDatagram} (h : Answers site k answered datagram) :
    received requestId datagram =
      if answered = requestId then some (advertisedBy site k) else none := by
  obtain ⟨response, hresponse, rfl⟩ := h
  obtain ⟨htype, _, _, hrequest, _⟩ := DiscoveryMessage.advertisement_eq_some hresponse
  have hmachine := ofAdvertisement_response hresponse (site.responderAddress k)
  unfold received advertised
  dsimp only
  rw [take_serialize, parse_advertisement htype]
  dsimp only
  by_cases hsame : answered = requestId
  · rw [if_pos ⟨htype, hrequest.trans hsame⟩, if_pos hsame, hmachine]
    rfl
  · rw [if_neg fun hboth => hsame (hrequest.symm.trans hboth.2), if_neg hsame]

/-- A client makes nothing of a query. -/
theorem received_query (site : Site κ ι) (i : ι) (requestId : UInt64) :
    received requestId (site.queryDatagram i) = none := by
  unfold received advertised Site.queryDatagram
  dsimp only
  rw [take_serialize]
  cases hparse : DiscoveryMessage.parse
      (DiscoveryMessage.query (site.requestId i)).serialize with
  | error reason => rfl
  | ok message =>
    have htype : message.type = .query := (fields_of_parse_serialize hparse).1
    dsimp only
    rw [if_neg]
    rintro ⟨hadvertisement, _⟩
    rw [htype] at hadvertisement
    simp at hadvertisement

/-- A responder answers a query under the request of its client. -/
theorem answers_query {site : Site κ ι} {k : κ} {i : ι} {response : DiscoveryMessage}
    (h : (site.responder k).answer (site.queryDatagram i).payload = some response) :
    response.requestId = site.requestId i ∧
      Answers site k (site.requestId i)
        ⟨site.responderAddress k, site.responderPort k, response.serialize⟩ := by
  obtain ⟨query, hparse, _, hresponse⟩ := DiscoveryResponder.answer_eq_some h
  unfold Site.queryDatagram at hparse
  dsimp only at hparse
  rw [take_serialize] at hparse
  have hrequest : query.requestId = site.requestId i := (fields_of_parse_serialize hparse).2
  rw [hrequest] at hresponse
  exact ⟨(DiscoveryMessage.advertisement_eq_some hresponse).2.2.2.1, response, hresponse, rfl⟩

/-- A responder does not answer an answer. -/
theorem answer_of_answers {site : Site κ ι} {k other : κ} {requestId : UInt64}
    {datagram : UdpDatagram} (h : Answers site other requestId datagram) :
    (site.responder k).answer datagram.payload = none := by
  obtain ⟨response, hresponse, rfl⟩ := h
  have htype := (DiscoveryMessage.advertisement_eq_some hresponse).1
  unfold DiscoveryResponder.answer
  dsimp only
  rw [take_serialize, parse_advertisement htype]
  dsimp only
  rw [htype, if_pos (by decide)]

-- ---------------------------------------------------------------------------
-- The invariant
-- ---------------------------------------------------------------------------

/-- A datagram is the query of a client that listens, or an answer that was given. -/
def Known (site : Site κ ι) (state : SiteState κ ι) (datagram : UdpDatagram) : Prop :=
  (∃ i, state.heard i ≠ none ∧ datagram = site.queryDatagram i) ∨
    ∃ k requestId, (k, requestId) ∈ state.answered ∧ Answers site k requestId datagram

/-- What every reachable state satisfies. -/
structure Genuine (site : Site κ ι) (state : SiteState κ ι) : Prop where
  sent : ∀ datagram ∈ state.sent, Known site state datagram
  heard : ∀ i datagrams, state.heard i = some datagrams → datagrams ⊆ state.sent
  answered : ∀ k requestId, (k, requestId) ∈ state.answered →
    ∃ i, site.requestId i = requestId ∧ state.heard i ≠ none

/-- What was known stays known. -/
theorem Known.mono {site : Site κ ι} {before after : SiteState κ ι} {datagram : UdpDatagram}
    (h : Known site before datagram)
    (hheard : ∀ i, before.heard i ≠ none → after.heard i ≠ none)
    (hanswered : before.answered ⊆ after.answered) : Known site after datagram := by
  rcases h with ⟨i, hlistens, hdatagram⟩ | ⟨k, requestId, hmem, hanswers⟩
  · exact Or.inl ⟨i, hheard i hlistens, hdatagram⟩
  · exact Or.inr ⟨k, requestId, hanswered hmem, hanswers⟩

/-- What a client takes for a record is an answer to its own request. -/
theorem received_of_known {site : Site κ ι} {state : SiteState κ ι} {datagram : UdpDatagram}
    (h : Known site state datagram) {requestId : UInt64} {machine : DiscoveredMachine}
    (hreceived : received requestId datagram = some machine) :
    ∃ k, (k, requestId) ∈ state.answered ∧ machine = advertisedBy site k := by
  rcases h with ⟨i, _, rfl⟩ | ⟨k, answered, hmem, hanswers⟩
  · rw [received_query] at hreceived
    simp at hreceived
  · rw [received_answer hanswers, Option.ite_none_right_eq_some, Option.some.injEq] at hreceived
    obtain ⟨rfl, hmachine⟩ := hreceived
    exact ⟨k, hmem, hmachine.symm⟩

theorem genuine_start (site : Site κ ι) : Genuine site site.start where
  sent := by
    intro datagram hmem
    simp [Site.start] at hmem
  heard := by
    intro i datagrams hheard
    simp [Site.start] at hheard
  answered := by
    intro k requestId hmem
    simp [Site.start] at hmem

theorem genuine_respond {site : Site κ ι} {state : SiteState κ ι} (h : Genuine site state)
    (k : κ) {datagram : UdpDatagram} (hsent : datagram ∈ state.sent) :
    Genuine site (site.respond state k datagram) := by
  unfold Site.respond
  cases hanswer : (site.responder k).answer datagram.payload with
  | none => exact h
  | some response =>
    -- only a query is answered
    rcases h.sent datagram hsent with ⟨i, hlistens, rfl⟩ | ⟨other, requestId, _, hanswers⟩
    · obtain ⟨hrequest, hanswers⟩ := answers_query hanswer
      dsimp only
      rw [hrequest]
      exact {
        sent := by
          intro other hother
          rw [List.mem_append, List.mem_singleton] at hother
          rcases hother with hold | rfl
          · exact (h.sent other hold).mono (fun _ => id) (List.subset_append_left ..)
          · exact Or.inr ⟨k, site.requestId i, List.mem_append_right _ (List.mem_singleton_self _),
              hanswers⟩
        heard := fun client datagrams hheard =>
          List.Subset.trans (h.heard client datagrams hheard) (List.subset_append_left ..)
        answered := by
          intro other requestId hmem
          rw [List.mem_append, List.mem_singleton, Prod.mk.injEq] at hmem
          rcases hmem with hold | ⟨_, rfl⟩
          · exact h.answered other requestId hold
          · exact ⟨i, rfl, hlistens⟩ }
    · rw [answer_of_answers hanswers] at hanswer
      simp at hanswer

variable [DecidableEq ι]

theorem genuine_discover {site : Site κ ι} {state : SiteState κ ι} (h : Genuine site state)
    (i : ι) : Genuine site (site.discover state i) := by
  have hkept : ∀ j, state.heard j ≠ none → (site.discover state i).heard j ≠ none := by
    intro j hlistens
    rw [Site.heard_discover]
    split
    · simp
    · exact hlistens
  exact {
    sent := by
      intro datagram hmem
      rcases List.mem_append.mp hmem with hold | hnew
      · exact (h.sent datagram hold).mono hkept (List.Subset.refl _)
      · refine Or.inl ⟨i, ?_, List.mem_singleton.mp hnew⟩
        rw [Site.heard_discover, if_pos rfl]
        simp
    heard := by
      intro j datagrams hheard
      rw [Site.heard_discover] at hheard
      split at hheard
      · rw [← Option.some.inj hheard]
        exact List.nil_subset _
      · exact List.Subset.trans (h.heard j datagrams hheard) (List.subset_append_left ..)
    answered := by
      intro k requestId hmem
      obtain ⟨j, hrequest, hlistens⟩ := h.answered k requestId hmem
      exact ⟨j, hrequest, hkept j hlistens⟩ }

theorem genuine_hear {site : Site κ ι} {state : SiteState κ ι} (h : Genuine site state)
    {i : ι} {datagrams : List UdpDatagram} {datagram : UdpDatagram}
    (hlistens : state.heard i = some datagrams) (hsent : datagram ∈ state.sent) :
    Genuine site (Site.hear state i (datagrams ++ [datagram])) := by
  have hkept : ∀ j, state.heard j ≠ none →
      (Site.hear state i (datagrams ++ [datagram])).heard j ≠ none := by
    intro j hother
    rw [Site.heard_hear]
    split
    · simp
    · exact hother
  exact {
    sent := fun other hother => (h.sent other hother).mono hkept (List.Subset.refl _)
    heard := by
      intro j others hheard
      rw [Site.heard_hear] at hheard
      split at hheard
      · rw [← Option.some.inj hheard]
        exact List.append_subset.mpr
          ⟨h.heard i datagrams hlistens, List.cons_subset.mpr ⟨hsent, List.nil_subset _⟩⟩
      · exact h.heard j others hheard
    answered := by
      intro k requestId hmem
      obtain ⟨j, hrequest, hother⟩ := h.answered k requestId hmem
      exact ⟨j, hrequest, hkept j hother⟩ }

/-- Every event keeps the invariant. -/
theorem genuine_step {site : Site κ ι} {state after : SiteState κ ι} {event : SiteEvent κ ι}
    (h : Genuine site state) (hstep : Site.Step site state event after) : Genuine site after := by
  cases hstep with
  | discover _ => exact genuine_discover h _
  | respond hsent _ => exact genuine_respond h _ hsent
  | hear hlistens _ hsent => exact genuine_hear h hlistens hsent

theorem genuine_of_reachable {site : Site κ ι} {state : SiteState κ ι}
    (h : site.system.Reachable state) : Genuine site state := by
  refine System.Reachable.invariant (I := Genuine site) ?_ ?_ h
  · rintro _ rfl
    exact genuine_start site
  · intro _ _ _ hbefore hstep
    exact genuine_step hbefore hstep

-- ---------------------------------------------------------------------------
-- What a client lists
-- ---------------------------------------------------------------------------

/-- **A client discovers the machines that have answered it.** However the queries and the
answers of all clients interleave, are repeated, delayed or lost, `discover_all` lists at most
so many machines, no node twice, and each of them is a responder that has answered the request
id of this client, with its own record and address; another client may have the same id. Where
the client has heard the answer of a responder, its node is listed, unless the list is full.
Only request ids of clients are ever answered. -/
theorem discovered_genuine {site : Site κ ι} {state : SiteState κ ι}
    (h : site.system.Reachable state) {i : ι} {datagrams : List UdpDatagram}
    (hheard : state.heard i = some datagrams) (octets : Nat) (destination : List UInt8)
    (port : UInt16) :
    ∃ machines, DiscoveryClient.discoverAll (fun _ _ _ => .ok octets) destination port
        (site.requestId i) (site.maximumResults i) datagrams = .ok machines ∧
      machines.length ≤ site.maximumResults i ∧
      (machines.map DiscoveredMachine.nodeId).Nodup ∧
      (∀ machine ∈ machines, ∃ k, (k, site.requestId i) ∈ state.answered ∧
        machine = advertisedBy site k) ∧
      (∀ k, ∀ datagram ∈ datagrams, Answers site k (site.requestId i) datagram →
        (site.responder k).advertisement.nodeId ∈ machines.map DiscoveredMachine.nodeId ∨
          machines.length = site.maximumResults i) ∧
      ∀ k requestId, (k, requestId) ∈ state.answered →
        ∃ client, site.requestId client = requestId ∧ state.heard client ≠ none := by
  have hgenuine := genuine_of_reachable h
  have hlist := discoverAll_eq octets destination port (site.requestId i) (site.maximumResults i)
    datagrams
  generalize hall : firsts DiscoveredMachine.nodeId
    (datagrams.filterMap (received (site.requestId i))) = all at hlist
  refine ⟨all.take (site.maximumResults i), hlist, List.length_take_le .., ?_, ?_, ?_,
    hgenuine.answered⟩
  · have hnodup : (all.map DiscoveredMachine.nodeId).Nodup := by
      rw [← hall]
      exact nodup_firsts ..
    exact hnodup.sublist ((List.take_sublist ..).map _)
  · intro machine hmem
    have hfirst : machine ∈ datagrams.filterMap (received (site.requestId i)) := by
      refine (firsts_sublist DiscoveredMachine.nodeId _).subset ?_
      rw [hall]
      exact List.mem_of_mem_take hmem
    obtain ⟨datagram, hdatagram, hreceived⟩ := List.mem_filterMap.mp hfirst
    have hsent := hgenuine.heard i datagrams hheard hdatagram
    exact received_of_known (hgenuine.sent datagram hsent) hreceived
  · intro k datagram hdatagram hanswers
    have hreceived : received (site.requestId i) datagram = some (advertisedBy site k) := by
      rw [received_answer hanswers, if_pos rfl]
    have hnode : (site.responder k).advertisement.nodeId ∈ all.map DiscoveredMachine.nodeId := by
      rw [← hall, mem_map_firsts]
      exact List.mem_map.mpr
        ⟨advertisedBy site k, List.mem_filterMap.mpr ⟨datagram, hdatagram, hreceived⟩, rfl⟩
    by_cases hroom : all.length ≤ site.maximumResults i
    · left
      rwa [List.take_of_length_le hroom]
    · right
      exact List.length_take_of_le (Nat.le_of_not_le hroom)

end System

namespace NetworkExample

/-- One responder, the observer of `ServiceExample`, and two clients with requests 5 and 6. -/
def site : Site Unit Bool where
  responder _ := ⟨ServiceExample.message⟩
  responderAddress _ := [49, 48]
  responderPort _ := 9000
  clientAddress i := if i then [49, 49] else [49, 50]
  clientPort _ := 50000
  requestId i := if i then 5 else 6
  maximumResults _ := 4

/-- Both clients have asked, and both have been answered. -/
def asked : SiteState Unit Bool := site.discover (site.discover site.start true) false

def answered : SiteState Unit Bool :=
  site.respond (site.respond asked () (site.queryDatagram true)) () (site.queryDatagram false)

def firstAnswer : UdpDatagram := answered.sent.getD 2 (site.queryDatagram true)

def secondAnswer : UdpDatagram := answered.sent.getD 3 (site.queryDatagram true)

/-- The first client has heard the answer to the second one, and then its own. -/
def heard : List UdpDatagram := [secondAnswer] ++ [firstAnswer]

def overheard : SiteState Unit Bool := Site.hear answered true ([] ++ [secondAnswer])

def final : SiteState Unit Bool := Site.hear overheard true heard

theorem reachable_answered : site.system.Reachable answered := by
  have hasked : site.system.Reachable asked :=
    .step _ (.step _ (.initial rfl) (.discover rfl)) (.discover rfl)
  have hfirst : (site.responder ()).respondOnce (fun _ _ _ => .ok 96)
      (.ok (site.queryDatagram true)) = .ok [49, 49] := by decide +kernel
  have hsecond : (site.responder ()).respondOnce (fun _ _ _ => .ok 96)
      (.ok (site.queryDatagram false)) = .ok [49, 50] := by decide +kernel
  exact .step _ (.step _ hasked (.respond (by decide +kernel) hfirst))
    (.respond (by decide +kernel) hsecond)

theorem reachable_final : site.system.Reachable final := by
  have hroom : (site.machines true []).length < site.maximumResults true := by decide
  have hmore : (site.machines true [secondAnswer]).length < site.maximumResults true := by
    decide +kernel
  have hoverheard : site.system.Reachable overheard :=
    .step _ reachable_answered (.hear rfl hroom (by decide +kernel))
  have hstep : Site.Step site overheard (.hear true firstAnswer) final :=
    .hear rfl hmore (by decide +kernel)
  exact .step _ hoverheard hstep

end NetworkExample

open NetworkExample in
/-- The first client lists the responder once, for its own request. -/
theorem discovered_genuine_twoClients :
    site.machines true heard = [advertisedBy site ()] ∧
      ∃ machines, DiscoveryClient.discoverAll (fun _ _ _ => .ok 33) [] 9000 5 4 heard =
          .ok machines ∧ machines.length ≤ 4 ∧
        ∀ machine ∈ machines, ∃ k, (k, 5) ∈ final.answered ∧ machine = advertisedBy site k := by
  obtain ⟨machines, hresult, hlength, _, hmachines, _⟩ :=
    discovered_genuine reachable_final (show final.heard true = some heard from rfl) 33 [] 9000
  exact ⟨by decide +kernel, machines, hresult, hlength, hmachines⟩

end SiliconSwitch.Discovery
