import SiliconSwitch.Asic.Aging
import SiliconSwitch.Asic.Link
import SiliconSwitch.Asic.PacketEffects

/-!
# Who gets a bridged frame

Where a frame goes is decided by the MAC table, which is the log of the frames heard
before. Here the whole outcome of a bridged frame is read off that log, without the
table: the port at which its destination was heard last, if that is a member of its VLAN,
or all members, less those that cannot take it.

* `floodPorts_eq_filter` — a flood keeps the order of the member list;
* `accepted_eq_filter` — without faults the copies that fail are those for full or
  unfit ports;
* `result_of_egress`, `queue_of_egress` — so the others are reported and queued;
* `delivery_from_history` — outputs, disposition and queues of a bridged frame.
-/

namespace SiliconSwitch.Asic.SoftwareAsic

open SiliconSwitch.Library SiliconSwitch.Network SiliconSwitch.Routing SiliconSwitch.Switching

-- ---------------------------------------------------------------------------
-- Floods
-- ---------------------------------------------------------------------------

/-- Over distinct members, the loop of `flood` leaves out the ingress port only. -/
theorem floodPorts_eq_filter {vlanPorts : List PortId} (hnodup : vlanPorts.Nodup)
    (ingressPort : PortId) :
    floodPorts ingressPort vlanPorts = vlanPorts.filter fun id => id ≠ ingressPort := by
  have hloop : ∀ (rest outputs : List PortId), rest.Nodup → (∀ id ∈ rest, id ∉ outputs) →
      rest.foldl (fun outputs port =>
          if port ≠ ingressPort ∧ port ∉ outputs then outputs ++ [port] else outputs) outputs =
        outputs ++ rest.filter fun id => id ≠ ingressPort := by
    intro rest
    induction rest with
    | nil => exact fun outputs _ _ => (List.append_nil outputs).symm
    | cons head rest ih =>
      intro outputs hrest hfresh
      rw [List.nodup_cons] at hrest
      have hhead := hfresh head (List.mem_cons_self ..)
      rw [List.foldl_cons]
      by_cases hingress : head = ingressPort
      · rw [if_neg (by simp [hingress]), List.filter_cons_of_neg (by simp [hingress])]
        exact ih outputs hrest.2 fun id hid => hfresh id (List.mem_cons_of_mem _ hid)
      · rw [if_pos ⟨hingress, hhead⟩, List.filter_cons_of_pos (by simpa using hingress),
          ih (outputs ++ [head]) hrest.2, List.append_assoc]
        · rfl
        · intro id hid
          rw [List.mem_append, List.mem_singleton, not_or]
          refine ⟨hfresh id (List.mem_cons_of_mem _ hid), ?_⟩
          rintro rfl
          exact hrest.1 hid
  exact hloop vlanPorts [] hnodup (by simp)

-- ---------------------------------------------------------------------------
-- Copies
-- ---------------------------------------------------------------------------

/-- Whether a frame of this size would be queued on the port: it is up, and its MTU and its
queue admit the frame. -/
def takes (asic : SoftwareAsic) (size : Nat) (id : PortId) : Bool :=
  match asic.ports.find? id, asic.queues.find? id with
  | some port, some queue => port.operational && size ≤ port.mtu && queue.admits
  | _, _ => false

theorem takes_eq_true {asic : SoftwareAsic} {size : Nat} {id : PortId} :
    asic.takes size id = true ↔ ∃ port queue, asic.ports.find? id = some port ∧
      port.operational = true ∧ asic.queues.find? id = some queue ∧ size ≤ port.mtu ∧
      queue.admits = true := by
  rw [takes]
  cases asic.ports.find? id with
  | none => simp
  | some port =>
    cases asic.queues.find? id with
    | none => simp
    | some queue => simp [and_assoc]

/-- Without faults a copy is enqueued on exactly the ports that take it. -/
theorem isEnqueued_eq_takes (asic : SoftwareAsic) {injector : FaultInjector}
    (hdisabled : injector.config.Disabled) (frame : List UInt8) (id : PortId) :
    (copyFate asic injector frame id).isEnqueued = asic.takes frame.length id := by
  rw [Bool.eq_iff_iff, takes_eq_true]
  constructor
  · intro henqueued
    cases hfate : copyFate asic injector frame id with
    | enqueued bytes => exact ((copyFate_enqueued_iff hdisabled).mp hfate).2
    | unavailable | faulted | oversized | congested =>
      rw [hfate] at henqueued
      simp [CopyFate.isEnqueued] at henqueued
  · intro htakes
    rw [(copyFate_enqueued_iff hdisabled).mpr ⟨rfl, htakes⟩]
    rfl

theorem accepted_eq_filter {asic : SoftwareAsic} {injector : FaultInjector}
    (hdisabled : injector.config.Disabled) (frame : List UInt8) (requested : List PortId) :
    accepted (copies asic injector frame requested) =
      requested.filter fun id => asic.takes frame.length id := by
  induction requested generalizing injector with
  | nil => rfl
  | cons id rest ih =>
    have hrest : accepted (copies asic
        ((copyFate asic injector frame id).injectorAfter injector) frame rest) =
        rest.filter fun other => asic.takes frame.length other :=
      ih (by rw [injectorAfter_config]; exact hdisabled)
    have hhead := isEnqueued_eq_takes asic hdisabled frame id
    rw [copies, accepted, List.filter_cons, hhead, List.filter_cons, ← hrest, accepted]
    split <;> rfl

-- ---------------------------------------------------------------------------
-- Addressees
-- ---------------------------------------------------------------------------

/-- Where the destination was heard last, if it is one host and was heard at all. -/
def heardAt (log : LearningLog) (vlan : VlanId) (destination : MacAddress) : Option PortId :=
  if destination.isUnicast then (log (vlan, destination)).map Prod.fst else none

/-- The ports that a frame is meant for: the one where its destination was heard, if it is a
member of the VLAN, or every member, but never the one it came in by. -/
def addressees (asic : SoftwareAsic) (log : LearningLog) (vlan : VlanId) (ingressPort : PortId)
    (destination : MacAddress) : List PortId :=
  let ports := match heardAt log vlan destination with
    | some port => if port ∈ asic.memberList vlan then [port] else []
    | none => asic.memberList vlan
  ports.filter fun id => id ≠ ingressPort

section Decision

variable {frame : EthernetFrame} {vlan : VlanId} {ingressPort : PortId}

/-- A frame for many hosts is flooded, or dropped for want of another member. -/
theorem bridge_group {vlanPorts : List PortId} {macTable : MacTable}
    (hgroup : frame.destination.isUnicast = false) :
    bridge frame vlan ingressPort vlanPorts macTable =
      if (floodPorts ingressPort vlanPorts).isEmpty then .drop (some vlan) .noEligibleEgressPort
      else .flood vlan (floodPorts ingressPort vlanPorts) := by
  have hmulticast : frame.destination.isMulticast = true := by
    simpa [MacAddress.isUnicast] using hgroup
  cases hbroadcast : frame.destination.isBroadcast with
  | true =>
    simp only [bridge, decideL2Forwarding, hbroadcast, flood, if_true]
    split_ifs <;> rfl
  | false =>
    simp only [bridge, decideL2Forwarding, hbroadcast, hmulticast, flood, Bool.false_eq_true,
      if_false, if_true]
    split_ifs <;> rfl

/-- What the bridge makes of a frame, given the ports that it is meant for. -/
def Reaches (asic : SoftwareAsic) (log : LearningLog) (vlan : VlanId) (ingressPort : PortId)
    (destination : MacAddress) (decision : PipelineDecision) : Prop :=
  (asic.addressees log vlan ingressPort destination = [] ∧
    ∃ reason, decision = .drop (some vlan) reason) ∨
  (asic.addressees log vlan ingressPort destination ≠ [] ∧
    decision =
      if (heardAt log vlan destination).isSome then
        .switchKnownUnicast vlan (asic.addressees log vlan ingressPort destination)
      else .flood vlan (asic.addressees log vlan ingressPort destination))

/-- A flood reaches the members, for a destination that was not heard. -/
theorem reaches_of_flood {asic : SoftwareAsic} (hnodup : (asic.memberList vlan).Nodup)
    {log : LearningLog} {destination : MacAddress}
    (hunheard : heardAt log vlan destination = none) :
    Reaches asic log vlan ingressPort destination
      (if (floodPorts ingressPort (asic.memberList vlan)).isEmpty then
        .drop (some vlan) .noEligibleEgressPort
      else .flood vlan (floodPorts ingressPort (asic.memberList vlan))) := by
  have haddressees : asic.addressees log vlan ingressPort destination =
      (asic.memberList vlan).filter fun id => id ≠ ingressPort := by
    rw [addressees, hunheard]
  rw [Reaches, haddressees, hunheard, floodPorts_eq_filter hnodup ingressPort]
  cases (asic.memberList vlan).filter fun id => id ≠ ingressPort with
  | nil => exact Or.inl ⟨rfl, _, rfl⟩
  | cons head rest => exact Or.inr ⟨by simp, rfl⟩

/-- **The bridge decides by the log**, on a table that holds what the log says. -/
theorem reaches_bridge {asic : SoftwareAsic} (hnodup : (asic.memberList vlan).Nodup)
    {macTable : MacTable} {log : LearningLog}
    (hlog : ∀ key, macTable.entries.find? key =
      (log key).map fun learned => ⟨learned.1, .dynamic, learned.2⟩) :
    Reaches asic log vlan ingressPort frame.destination
      (bridge frame vlan ingressPort (asic.memberList vlan) macTable) := by
  cases hunicast : frame.destination.isUnicast with
  | false =>
    rw [bridge_group hunicast]
    exact reaches_of_flood hnodup (by simp [heardAt, hunicast])
  | true =>
    have hlookup : macTable.lookup vlan frame.destination =
        (log (vlan, frame.destination)).map fun learned => ⟨learned.1, .dynamic, learned.2⟩ :=
      hlog (vlan, frame.destination)
    cases hheard : log (vlan, frame.destination) with
    | none =>
      rw [hheard] at hlookup
      rw [bridge_unknown hunicast hlookup]
      exact reaches_of_flood hnodup (by simp [heardAt, hunicast, hheard])
    | some learned =>
      obtain ⟨port, learnedAt⟩ := learned
      rw [hheard] at hlookup
      have hport : heardAt log vlan frame.destination = some port := by
        simp [heardAt, hunicast, hheard]
      rw [bridge_known hunicast hlookup, Reaches, addressees, hport]
      dsimp only
      by_cases hingress : port = ingressPort
      · -- the destination is behind the ingress port
        left
        rw [if_pos hingress, hingress]
        refine ⟨?_, _, rfl⟩
        split <;> simp
      · rw [if_neg hingress]
        by_cases hmember : port ∈ asic.memberList vlan
        · right
          rw [if_neg (not_not.mpr hmember), if_pos hmember]
          simp [hingress]
        · left
          rw [if_pos hmember, if_neg hmember]
          exact ⟨rfl, _, rfl⟩

end Decision

-- ---------------------------------------------------------------------------
-- Delivery
-- ---------------------------------------------------------------------------

/-- The ports that get a frame of this size. -/
def receivers (asic : SoftwareAsic) (log : LearningLog) (vlan : VlanId) (ingressPort : PortId)
    (destination : MacAddress) (size : Nat) : List PortId :=
  (asic.addressees log vlan ingressPort destination).filter fun id => asic.takes size id

section Delivery

variable {asic : SoftwareAsic} {log : LearningLog} {ingressPort : PortId} {bytes : List UInt8}
  {now : TimePoint} {port : VirtualPort} {frame : EthernetFrame} {vlan : VlanId}

/-- Without faults the octets of a frame that arrives are its serialization. -/
theorem serialize_of_arrival (hdisabled : asic.faultInjector.config.Disabled)
    (harrival : asic.arrival ingressPort bytes = .ok (port, frame)) : frame.serialize = bytes := by
  obtain ⟨_, _, ⟨injected, hinject, hparse⟩, _⟩ := arrival_ok harrival
  rw [FaultInjector.process_of_disabled hdisabled, Except.ok.injEq] at hinject
  subst hinject
  exact EthernetFrame.serialize_of_parse hparse

/-- The decision on a frame that is classified, learnable and not for a router interface. -/
theorem pipeline_of_log (hlogs : Logs asic log)
    (harrival : asic.arrival ingressPort bytes = .ok (port, frame))
    (hclassify : classifyVlanIngress frame port.vlanConfig = .ok vlan)
    (hsource : isLearnable frame.source = true)
    (hinterface : asic.routerInterfaces.find? vlan ≠ some frame.destination) :
    ∃ macTable : MacTable,
      (∀ key, macTable.entries.find? key =
        (log.after asic (.processPacket ingressPort bytes now) key).map fun learned =>
          ⟨learned.1, .dynamic, learned.2⟩) ∧
      (asic.pipeline ingressPort port frame now).1 =
        bridge frame vlan ingressPort (asic.memberList vlan) macTable := by
  obtain ⟨hlearned, hcases⟩ := @pipeline_of_classify asic port frame vlan hclassify ingressPort now
  have hafter := logs_processPacket hlogs ingressPort bytes now
  have htable : (asic.processPacket ingressPort bytes now).2.macTable =
      (asic.macTable.learn vlan frame.source ingressPort now).2 := by
    rw [processPacket_macTable, harrival]
    exact hlearned
  rw [Logs, htable] at hafter
  refine ⟨_, hafter, ?_⟩
  rcases hcases with ⟨hrejected, _⟩ | ⟨hconflict, _⟩ | ⟨_, _, hdecide⟩
  · rw [MacTable.learn_fst_eq_rejected, hsource] at hrejected
    simp at hrejected
  · obtain ⟨entry, hentry, hstatic, _⟩ := MacTable.static_of_learn_fst hconflict
    rw [hlogs.dynamic _ entry hentry] at hstatic
    simp at hstatic
  · rw [hdecide, decideLearned, if_neg hinterface]

/-- The log and the invariant, after any run. -/
theorem logged_run {capacity : Nat} {hcapacity : 0 < capacity} {operations : List Operation}
    (hrun : run loggedStep (create capacity hcapacity, fun _ => none) operations = (asic, log)) :
    Logs asic log ∧ Programmed asic := by
  have hall := run_invariant
    (I := fun state : SoftwareAsic × LearningLog => Logs state.1 state.2 ∧ Programmed state.1)
    (fun _ operation h => ⟨logs_step operation h.1, programmed_step operation h.2⟩)
    (s := (create capacity hcapacity, fun _ => none))
    ⟨fun key => by simp [create, MacTable.create], programmed_create capacity hcapacity⟩
    operations
  rw [hrun] at hall
  exact hall

/-- A frame that the pipeline filters is for nobody. -/
theorem processPacket_of_filtered {reason : PipelineDropReason}
    (hverdict : asic.verdict ingressPort bytes now = .filtered reason) :
    (asic.processPacket ingressPort bytes now).1.outputPorts = [] ∧
      (asic.processPacket ingressPort bytes now).1.disposition = .dropped ∧
      (asic.processPacket ingressPort bytes now).2.queues = asic.queues := by
  have hexit : ∀ disposition requested frame,
      asic.verdict ingressPort bytes now ≠ .egress disposition requested frame := by
    simp [hverdict]
  have hqueues := processPacket_queues hexit
  obtain ⟨latency, hresult⟩ := processPacket_exits hexit
  rw [hresult, hverdict] at hqueues ⊢
  exact ⟨rfl, rfl, hqueues⟩

section Egress

variable {disposition : PacketDisposition} {requested : List PortId} {sent : List UInt8}

/-- Without faults a copy goes to the requested ports that take it. -/
theorem result_of_egress (hdisabled : asic.faultInjector.config.Disabled)
    (hverdict : asic.verdict ingressPort bytes now = .egress disposition requested sent) :
    (asic.processPacket ingressPort bytes now).1.outputPorts =
        (requested.filter fun id => asic.takes sent.length id) ∧
      (asic.processPacket ingressPort bytes now).1.disposition =
        if (requested.filter fun id => asic.takes sent.length id) = [] then .dropped
        else disposition := by
  have hadvanced : asic.faultInjector.advance.config.Disabled := hdisabled
  have haccepted : accepted (copies asic asic.faultInjector.advance sent requested) =
      requested.filter fun id => asic.takes sent.length id :=
    accepted_eq_filter hadvanced sent requested
  refine ⟨(processPacket_outputPorts hverdict).trans haccepted, ?_⟩
  rw [processPacket_fst, packetCopies, hverdict, requestedCopies, packetResult, haccepted]
  cases requested.filter fun id => asic.takes sent.length id <;> rfl

/-- And is queued there, behind what waits already. -/
theorem queue_of_egress (hdisabled : asic.faultInjector.config.Disabled)
    (hverdict : asic.verdict ingressPort bytes now = .egress disposition requested sent)
    {id : PortId} {queue : PacketQueue} (hqueue : asic.queues.find? id = some queue) :
    ∃ after, (asic.processPacket ingressPort bytes now).2.queues.find? id = some after ∧
      after.queue =
        if id ∈ requested.filter (fun id => asic.takes sent.length id) then queue.queue ++ [sent]
        else queue.queue := by
  have hadvanced : asic.faultInjector.advance.config.Disabled := hdisabled
  have htables := processPacket_tables hverdict
  by_cases hrequested : id ∈ requested
  · obtain ⟨fate, hcopy⟩ := exists_mem_copies asic asic.faultInjector.advance sent hrequested
    have hfind := (htables.1 id fate hcopy).2
    rw [hqueue, Option.map_some] at hfind
    refine ⟨_, hfind, ?_⟩
    obtain ⟨current, hconfig, hfate⟩ := mem_copies hcopy
    have hcurrent : current.config.Disabled := by
      rw [hconfig]
      exact hadvanced
    have htakes := isEnqueued_eq_takes asic hcurrent sent id
    cases htaken : asic.takes sent.length id with
    | true =>
      rw [if_pos (List.mem_filter.mpr ⟨hrequested, htaken⟩)]
      have hfits := takes_eq_true.mp htaken
      have henqueued := (copyFate_enqueued_iff hcurrent).mpr ⟨rfl, hfits⟩
      obtain ⟨_, found, _, _, hfound, _, hroom⟩ := hfits
      rw [hqueue, Option.some.injEq] at hfound
      subst hfound
      rw [hfate, henqueued]
      exact onQueue_enqueued hroom sent
    | false =>
      rw [if_neg (by simp [htaken])]
      rw [htaken, ← hfate] at htakes
      cases fate with
      | enqueued copied => simp [CopyFate.isEnqueued] at htakes
      | unavailable | faulted | oversized | congested => rfl
  · rw [(htables.2 id hrequested).2, if_neg fun hmem => hrequested (List.mem_filter.mp hmem).1]
    exact ⟨queue, hqueue, rfl⟩

end Egress

/-- **Who gets a bridged frame, from what was heard.** After any run, without faults, a
frame of a learnable host that no router interface owns goes to the port at which its
destination was heard last, this frame included, if that port is a member of its VLAN, or, for
a destination that was not heard or is a group, to every member of its VLAN; never back, and
not to a port that is down, too narrow or full. It is queued there octet for octet, and nothing
else is queued. -/
theorem delivery_from_history (capacity : Nat) (hcapacity : 0 < capacity)
    (operations : List Operation)
    (hrun : run loggedStep (create capacity hcapacity, fun _ => none) operations = (asic, log))
    (hdisabled : asic.faultInjector.config.Disabled)
    (harrival : asic.arrival ingressPort bytes = .ok (port, frame))
    (hclassify : classifyVlanIngress frame port.vlanConfig = .ok vlan)
    (hsource : isLearnable frame.source = true)
    (hinterface : asic.routerInterfaces.find? vlan ≠ some frame.destination) :
    let heard := log.after asic (.processPacket ingressPort bytes now)
    let reached := asic.receivers heard vlan ingressPort frame.destination bytes.length
    (asic.processPacket ingressPort bytes now).1.outputPorts = reached ∧
      (asic.processPacket ingressPort bytes now).1.disposition =
        (if reached = [] then .dropped
        else if (heardAt heard vlan frame.destination).isSome then .switched else .flooded) ∧
      ∀ id queue, asic.queues.find? id = some queue →
        ∃ after, (asic.processPacket ingressPort bytes now).2.queues.find? id = some after ∧
          after.queue = if id ∈ reached then queue.queue ++ [bytes] else queue.queue := by
  intro heard reached
  obtain ⟨hlogs, hprogrammed⟩ := logged_run hrun
  obtain ⟨macTable, hheard, hpipeline⟩ :=
    @pipeline_of_log asic log ingressPort bytes now port frame vlan hlogs harrival hclassify
      hsource hinterface
  have hoctets := serialize_of_arrival hdisabled harrival
  rcases @reaches_bridge frame vlan ingressPort asic (hprogrammed.members_nodup vlan) macTable
    heard hheard with ⟨hnone, reason, hdrop⟩ | ⟨_, hbridge⟩
  · -- nobody is addressed, and the pipeline filters the frame
    have hverdict : asic.verdict ingressPort bytes now = .filtered reason := by
      rw [verdict, harrival]
      dsimp only
      rw [hpipeline, hdrop]
      rfl
    have hunreached : reached = [] := by
      show (asic.addressees heard vlan ingressPort frame.destination).filter _ = []
      rw [hnone]
      rfl
    obtain ⟨houtputs, hdropped, hqueues⟩ := processPacket_of_filtered hverdict
    rw [hunreached, hqueues]
    exact ⟨houtputs, hdropped, fun id queue hqueue => ⟨queue, hqueue, by simp⟩⟩
  · have hverdict : asic.verdict ingressPort bytes now =
        .egress (if (heardAt heard vlan frame.destination).isSome then .switched else .flooded)
          (asic.addressees heard vlan ingressPort frame.destination) bytes := by
      rw [verdict, harrival]
      dsimp only
      rw [hpipeline, hbridge, ← hoctets]
      split <;> rfl
    obtain ⟨houtputs, hdisposition⟩ := result_of_egress hdisabled hverdict
    exact ⟨houtputs, hdisposition, fun id queue hqueue => queue_of_egress hdisabled hverdict hqueue⟩

end Delivery

/-- The log of what is learned does not change what the calls do. -/
theorem fst_run_loggedStep (state : SoftwareAsic × LearningLog) (operations : List Operation) :
    (run loggedStep state operations).1 = run step state.1 operations := by
  induction operations generalizing state with
  | nil => rfl
  | cons operation rest ih => rw [run_cons, run_cons, ih, loggedStep]

open Example in
/-- Host 2 was heard at the second port, and gets the frame there. -/
theorem delivery_from_history_heard :
    ((device silentRun).processPacket firstPort (frameBytes 1 2 [9]) 5).1.outputPorts =
      [secondPort] := by
  have hdevice : (run loggedStep (create 8 (by decide), fun _ => none) silentRun).1 =
      device silentRun :=
    fst_run_loggedStep (create 8 (by decide), fun _ => none) silentRun
  have hdelivered := (@delivery_from_history (device silentRun)
    (run loggedStep (create 8 (by decide), fun _ => none) silentRun).2 firstPort
    (frameBytes 1 2 [9]) 5
    (((device silentRun).ports.find? firstPort).getD (accessPort firstPort))
    ⟨hostMac 2, hostMac 1, ⟨0x88B5⟩, [9], none, by decide⟩ vlan 8 (by decide) silentRun
    (Prod.ext hdevice rfl) ⟨rfl, rfl, rfl, rfl⟩ rfl (by decide +kernel) (by decide)
    (by decide +kernel)).1
  rw [hdelivered]
  decide +kernel

end SiliconSwitch.Asic.SoftwareAsic
