import SiliconSwitch.Asic.Invariants

/-!
# Failed control operations

A control operation that returns another status than success may still have
written to the device: the subscripts of `remove_vlan` and `add_vlan_member` insert
an empty member list. `Alike` relates two devices that differ by such lists only.

## Results

* `bisimulation_alike`        — no call tells such devices apart.
* `alike_of_failed`           — a failed operation leaves a device alike.
* `failed_control_operation`  — so every later call answers as without it.
-/

namespace SiliconSwitch.Asic.SoftwareAsic

open SiliconSwitch.Library SiliconSwitch.Network SiliconSwitch.Routing SiliconSwitch.Switching

-- ---------------------------------------------------------------------------
-- Calls and answers
-- ---------------------------------------------------------------------------

/-- The whole interface of the device: its operations and its queries. -/
inductive Call
  | operation (operation : Operation)
  | counters
  | hasPort (port : PortId)
  | hasVlan (vlan : VlanId)
  | findRoute (routePrefix : Ipv4Prefix)
  | findNeighbor (address : Ipv4Address) (now : TimePoint)

/-- What a call returns, or the exception of a throwing lookup. -/
inductive Answer
  | status (status : AsicStatus)
  | thrown (error : LookupError)
  | packet (result : PacketProcessingResult)
  | bytes (bytes : Option (List UInt8))
  | counters (counters : TrafficCounter → Nat)
  | found (found : Bool)
  | route (route : Option RouteEntry)
  | neighbor (mac : Option MacAddress)

def Answer.ofExcept : Except LookupError AsicStatus → Answer
  | .ok result => status result
  | .error error => thrown error

/-- The answer to an operation. -/
def answer (asic : SoftwareAsic) : Operation → Answer
  | .createPort port queueCapacity => .status (asic.createPort port queueCapacity).1
  | .removePort port => .ofExcept (asic.removePort port).1
  | .setPortState port admin link => .status (asic.setPortState port admin link).1
  | .createVlan vlan => .status (asic.createVlan vlan).1
  | .removeVlan vlan => .status (asic.removeVlan vlan).1
  | .addVlanMember vlan port => .ofExcept (asic.addVlanMember vlan port).1
  | .setRouterInterface vlan mac => .status (asic.setRouterInterface vlan mac).1
  | .addOrReplaceRoute route => .status (asic.addOrReplaceRoute route).1
  | .removeRoute routePrefix => .status (asic.removeRoute routePrefix).1
  | .addOrReplaceNeighbor address mac learnedAt =>
    .status (asic.addOrReplaceNeighbor address mac learnedAt).1
  | .removeNeighbor address => .status (asic.removeNeighbor address).1
  | .configureFaults config => .status (asic.configureFaults config).1
  | .processPacket ingressPort bytes now => .packet (asic.processPacket ingressPort bytes now).1
  | .dequeuePacket port => .bytes (asic.dequeuePacket port).1

/-- A call of the interface: its answer and the device after it. -/
def respond (asic : SoftwareAsic) : Call → Answer × SoftwareAsic
  | .operation operation => (asic.answer operation, asic.step operation)
  | .counters => (.counters asic.statistics.get, asic)
  | .hasPort port => (.found (asic.hasPort port), asic)
  | .hasVlan vlan => (.found (asic.hasVlan vlan), asic)
  | .findRoute routePrefix => (.route (asic.routeTable.findExact routePrefix), asic)
  | .findNeighbor address now => (.neighbor (asic.arpCache.lookup address now), asic)

-- ---------------------------------------------------------------------------
-- Devices with other member tables
-- ---------------------------------------------------------------------------

def withMembers (asic : SoftwareAsic) (members : Table VlanId (List PortId)) : SoftwareAsic :=
  { asic with vlanMembers := members }

/-- The same device but for empty member lists. -/
def Alike (first second : SoftwareAsic) : Prop :=
  ∃ members, second = first.withMembers members ∧
    ∀ vlan, second.memberList vlan = first.memberList vlan

theorem Alike.refl (asic : SoftwareAsic) : Alike asic asic := ⟨asic.vlanMembers, rfl, fun _ => rfl⟩

/-- What does not write the member table keeps the member lists equal. -/
theorem memberList_withMembers {asic after : SoftwareAsic} {members : Table VlanId (List PortId)}
    (h : ∀ vlan, (asic.withMembers members).memberList vlan = asic.memberList vlan)
    (hafter : after.vlanMembers = asic.vlanMembers) (vlan : VlanId) :
    (after.withMembers members).memberList vlan = after.memberList vlan := by
  have hsame : after.memberList vlan = asic.memberList vlan := by
    rw [memberList, hafter, memberList]
  rw [hsame]
  exact h vlan

section Commute

variable (asic : SoftwareAsic) (members : Table VlanId (List PortId))

theorem createPort_withMembers (port : VirtualPort) (capacity : Nat) :
    (asic.withMembers members).createPort port capacity =
      ((asic.createPort port capacity).1,
       (asic.createPort port capacity).2.withMembers members) := by
  unfold createPort
  split
  · rfl
  · cases hport : asic.ports.find? port.id with
    | none => simp [withMembers, hport]
    | some existing => simp [withMembers, hport]

theorem setPortState_withMembers (port : PortId) (admin link : Bool) :
    (asic.withMembers members).setPortState port admin link =
      ((asic.setPortState port admin link).1,
       (asic.setPortState port admin link).2.withMembers members) := by
  unfold setPortState
  cases hport : asic.ports.find? port with
  | none => simp [withMembers, hport]
  | some existing => simp [withMembers, hport]

theorem setRouterInterface_withMembers (vlan : VlanId) (mac : MacAddress) :
    (asic.withMembers members).setRouterInterface vlan mac =
      ((asic.setRouterInterface vlan mac).1,
       (asic.setRouterInterface vlan mac).2.withMembers members) := by
  unfold setRouterInterface
  by_cases hvlan : vlan ∈ asic.vlans
  · by_cases hvalid : validRouterMac mac = true
    · simp [withMembers, hvlan, hvalid]
    · simp [withMembers, hvlan, hvalid]
  · simp [withMembers, hvlan]

theorem addOrReplaceRoute_withMembers (route : RouteEntry) :
    (asic.withMembers members).addOrReplaceRoute route =
      ((asic.addOrReplaceRoute route).1,
       (asic.addOrReplaceRoute route).2.withMembers members) := by
  unfold addOrReplaceRoute
  cases hport : asic.ports.find? route.outputPort with
  | none => simp [withMembers, hport]
  | some existing => simp [withMembers, hport]

theorem configureFaults_withMembers (config : FaultInjectionConfig) :
    (asic.withMembers members).configureFaults config =
      ((asic.configureFaults config).1, (asic.configureFaults config).2.withMembers members) := by
  unfold configureFaults
  cases hinjector : asic.faultInjector.setConfig config with
  | none => simp [withMembers, hinjector]
  | some injector => simp [withMembers, hinjector]

theorem dequeuePacket_withMembers (port : PortId) :
    (asic.withMembers members).dequeuePacket port =
      ((asic.dequeuePacket port).1, (asic.dequeuePacket port).2.withMembers members) := by
  unfold dequeuePacket
  cases hqueue : asic.queues.find? port with
  | none => simp [withMembers, hqueue]
  | some queue => simp [withMembers, hqueue, setQueue]

theorem injectFault_withMembers (port : PortId) (bytes : List UInt8) :
    (asic.withMembers members).injectFault port bytes =
      ((asic.injectFault port bytes).1, (asic.injectFault port bytes).2.withMembers members) := rfl

theorem countCorruption_withMembers (packet : FaultInjectedPacket) :
    (asic.withMembers members).countCorruption packet =
      (asic.countCorruption packet).withMembers members := by
  unfold countCorruption
  split <;> rfl

/-- The egress loop on a device with other members. -/
def EgressLoop.withMembers (loop : EgressLoop) (members : Table VlanId (List PortId)) :
    EgressLoop :=
  { loop with asic := loop.asic.withMembers members }

theorem enqueueOutput_withMembers (frame : List UInt8) (loop : EgressLoop) (id : PortId) :
    enqueueOutput frame (loop.withMembers members) id =
      (enqueueOutput frame loop id).withMembers members := by
  unfold enqueueOutput EgressLoop.withMembers
  dsimp only
  rw [show (loop.asic.withMembers members).ports = loop.asic.ports from rfl,
    show (loop.asic.withMembers members).queues = loop.asic.queues from rfl]
  cases hport : loop.asic.ports.find? id with
  | none => rfl
  | some port =>
    cases hqueue : loop.asic.queues.find? id with
    | none => rfl
    | some queue =>
      dsimp only
      split
      · rfl
      · rw [injectFault_withMembers]
        generalize loop.asic.injectFault id frame = fault
        obtain ⟨result, after⟩ := fault
        cases result with
        | error reason => rfl
        | ok packet =>
          dsimp only
          rw [countCorruption_withMembers]
          split
          · rfl
          · split <;> rfl

theorem enqueueOutputs_withMembers (disposition : PacketDisposition) (requested : List PortId)
    (frame : List UInt8) (latency : Duration) :
    (asic.withMembers members).enqueueOutputs disposition requested frame latency =
      ((asic.enqueueOutputs disposition requested frame latency).1,
       (asic.enqueueOutputs disposition requested frame latency).2.withMembers members) := by
  have hfold : ∀ loop : EgressLoop,
      requested.foldl (enqueueOutput frame) (loop.withMembers members) =
        (requested.foldl (enqueueOutput frame) loop).withMembers members := by
    induction requested with
    | nil => exact fun _ => rfl
    | cons id rest ih =>
      intro loop
      rw [List.foldl_cons, List.foldl_cons, enqueueOutput_withMembers, ih]
  unfold enqueueOutputs
  rw [show (⟨asic.withMembers members, latency, []⟩ : EgressLoop) =
    EgressLoop.withMembers ⟨asic, latency, []⟩ members from rfl, hfold]
  dsimp only [EgressLoop.withMembers]
  split <;> rfl

theorem deliverToControlPlane_withMembers (frame : EthernetFrame) (latency : Duration)
    (now : TimePoint) :
    (asic.withMembers members).deliverToControlPlane frame latency now =
      ((asic.deliverToControlPlane frame latency now).1,
       (asic.deliverToControlPlane frame latency now).2.withMembers members) := by
  unfold deliverToControlPlane
  split <;> rfl

theorem routeForwarded_withMembers (forwarded : ForwardedIpv4Packet) (latency : Duration)
    (now : TimePoint) :
    (asic.withMembers members).routeForwarded forwarded latency now =
      ((asic.routeForwarded forwarded latency now).1,
       (asic.routeForwarded forwarded latency now).2.withMembers members) := by
  unfold routeForwarded
  rw [show (asic.withMembers members).ports = asic.ports from rfl,
    show (asic.withMembers members).arpCache = asic.arpCache from rfl]
  cases hport : asic.ports.find? forwarded.outputPort with
  | none => rfl
  | some egress =>
    dsimp only
    split
    · rfl
    · split <;> rfl

theorem routeIpv4_withMembers (frame : EthernetFrame) (latency : Duration) (now : TimePoint) :
    (asic.withMembers members).routeIpv4 frame latency now =
      ((asic.routeIpv4 frame latency now).1,
       (asic.routeIpv4 frame latency now).2.withMembers members) := by
  unfold routeIpv4
  rw [show (asic.withMembers members).routeTable = asic.routeTable from rfl]
  split
  · rfl
  · split
    · rfl
    · rfl
    · exact routeForwarded_withMembers asic members _ latency now

variable {asic members}

/-- The only read of the member table on the packet path. -/
theorem processFrame_withMembers
    (h : ∀ vlan, (asic.withMembers members).memberList vlan = asic.memberList vlan)
    (ingressPort : PortId) (port : VirtualPort) (frame : EthernetFrame) (latency : Duration)
    (now : TimePoint) :
    (asic.withMembers members).processFrame ingressPort port frame latency now =
      ((asic.processFrame ingressPort port frame latency now).1,
       (asic.processFrame ingressPort port frame latency now).2.withMembers members) := by
  have hpipeline : (asic.withMembers members).pipeline ingressPort port frame now =
      asic.pipeline ingressPort port frame now := by
    unfold pipeline
    rw [h]
    rfl
  unfold processFrame
  rw [hpipeline]
  generalize asic.pipeline ingressPort port frame now = decided
  obtain ⟨decision, macTable⟩ := decided
  cases decision with
  | drop vlan reason => rfl
  | deliverToControlPlane vlan =>
    exact deliverToControlPlane_withMembers { asic with macTable } members frame latency now
  | routeIpv4 vlan => exact routeIpv4_withMembers { asic with macTable } members frame latency now
  | flood vlan outputPorts => rfl
  | switchKnownUnicast vlan outputPorts => rfl

theorem ingress_withMembers
    (h : ∀ vlan, (asic.withMembers members).memberList vlan = asic.memberList vlan)
    (ingressPort : PortId) (bytes : List UInt8) (now : TimePoint) :
    (asic.withMembers members).ingress ingressPort bytes now =
      ((asic.ingress ingressPort bytes now).1,
       (asic.ingress ingressPort bytes now).2.withMembers members) := by
  unfold ingress
  rw [show (asic.withMembers members).ports = asic.ports from rfl]
  cases hport : asic.ports.find? ingressPort with
  | none => rfl
  | some port =>
    dsimp only
    split
    · rfl
    · rw [show (((asic.withMembers members).count .ingressPackets).increment .ingressBytes
          bytes.length) = ((asic.count .ingressPackets).increment .ingressBytes
          bytes.length).withMembers members from rfl, injectFault_withMembers]
      generalize hfault : ((asic.count .ingressPackets).increment .ingressBytes
        bytes.length).injectFault ingressPort bytes = fault
      obtain ⟨result, injected⟩ := fault
      have hinjected : injected.vlanMembers = asic.vlanMembers :=
        (congrArg (fun fault => fault.2.vlanMembers) hfault).symm
      cases result with
      | error reason => rfl
      | ok packet =>
        dsimp only
        rw [countCorruption_withMembers]
        have hcounted : (injected.countCorruption packet).vlanMembers = asic.vlanMembers := by
          rw [← hinjected]
          unfold countCorruption
          split <;> rfl
        split
        · rfl
        · split
          · rfl
          · rename_i frame _ _ received _
            have hlists : ∀ vlan,
                (((injected.countCorruption packet).setPort ingressPort received).withMembers
                  members).memberList vlan =
                ((injected.countCorruption packet).setPort ingressPort received).memberList vlan :=
              memberList_withMembers h hcounted
            exact processFrame_withMembers hlists ingressPort received frame packet.latency now

theorem processPacket_withMembers
    (h : ∀ vlan, (asic.withMembers members).memberList vlan = asic.memberList vlan)
    (ingressPort : PortId) (bytes : List UInt8) (now : TimePoint) :
    (asic.withMembers members).processPacket ingressPort bytes now =
      ((asic.processPacket ingressPort bytes now).1,
       (asic.processPacket ingressPort bytes now).2.withMembers members) := by
  unfold processPacket
  rw [ingress_withMembers h]
  generalize asic.ingress ingressPort bytes now = reached
  obtain ⟨result, after⟩ := reached
  cases result with
  | error result => rfl
  | ok request => exact enqueueOutputs_withMembers after members _ _ _ _

end Commute

-- ---------------------------------------------------------------------------
-- Operations on the member table
-- ---------------------------------------------------------------------------

/-- Two devices with the same member lists, and otherwise the same. -/
theorem Alike.of_find? (asic : SoftwareAsic) {first second : Table VlanId (List PortId)}
    (h : ∀ vlan, (second.find? vlan).getD [] = (first.find? vlan).getD []) :
    Alike (asic.withMembers first) (asic.withMembers second) :=
  ⟨second, rfl, h⟩

theorem alike_subscriptMembers (asic : SoftwareAsic) (vlan : VlanId) :
    Alike asic (asic.subscriptMembers vlan) :=
  ⟨_, rfl, memberList_subscriptMembers asic vlan⟩

section Members

variable {asic : SoftwareAsic} {members : Table VlanId (List PortId)}
  (h : ∀ vlan, (asic.withMembers members).memberList vlan = asic.memberList vlan)

include h

theorem subscriptMembers_alike (vlan : VlanId) :
    Alike (asic.subscriptMembers vlan) ((asic.withMembers members).subscriptMembers vlan) := by
  refine Alike.of_find? _ fun other => ?_
  have hfirst := memberList_subscriptMembers asic vlan other
  have hsecond := memberList_subscriptMembers (asic.withMembers members) vlan other
  exact hsecond.trans ((h other).trans hfirst.symm)

theorem removePort_alike (port : PortId) :
    (asic.removePort port).1 = ((asic.withMembers members).removePort port).1 ∧
      Alike (asic.removePort port).2 ((asic.withMembers members).removePort port).2 := by
  have hfilter : ∀ vlan,
      ((members.mapValues fun list => list.filter fun id => id ≠ port).find? vlan).getD [] =
        ((asic.vlanMembers.mapValues fun list => list.filter fun id => id ≠ port).find? vlan).getD
          [] := by
    intro vlan
    have hlist : (members.find? vlan).getD [] = (asic.vlanMembers.find? vlan).getD [] := h vlan
    rw [Table.find?_mapValues, Table.find?_mapValues]
    -- filtering an absent list gives the empty list as well
    have hdefault : ∀ list : Option (List PortId),
        (list.map fun list => list.filter fun id => id ≠ port).getD [] =
          (list.getD []).filter fun id => id ≠ port :=
      fun list => Option.getD_map _ [] list
    rw [hdefault, hdefault, hlist]
  unfold removePort
  rw [show (asic.withMembers members).ports = asic.ports from rfl]
  cases hport : asic.ports.find? port with
  | none => exact ⟨rfl, members, rfl, h⟩
  | some existing =>
    dsimp only
    rw [show (asic.withMembers members).queues = asic.queues from rfl]
    cases hqueue : asic.queues.find? port with
    | none => exact ⟨rfl, Alike.of_find? _ hfilter⟩
    | some queue =>
      exact ⟨rfl, Alike.of_find?
        { asic with queues := asic.queues.erase port, ports := asic.ports.erase port } hfilter⟩

theorem removeVlan_alike (vlan : VlanId) :
    (asic.removeVlan vlan).1 = ((asic.withMembers members).removeVlan vlan).1 ∧
      Alike (asic.removeVlan vlan).2 ((asic.withMembers members).removeVlan vlan).2 := by
  have hsubscript := subscriptMembers_alike h vlan
  have hlist : ((asic.withMembers members).subscriptMembers vlan).memberList vlan =
      (asic.subscriptMembers vlan).memberList vlan := by
    rw [memberList_subscriptMembers, memberList_subscriptMembers, h]
  unfold removeVlan
  rw [show (asic.withMembers members).vlans = asic.vlans from rfl]
  split
  · exact ⟨rfl, members, rfl, h⟩
  · dsimp only
    rw [hlist, show ((asic.withMembers members).subscriptMembers vlan).routerInterfaces =
      (asic.subscriptMembers vlan).routerInterfaces from rfl]
    split
    · exact ⟨rfl, hsubscript⟩
    · refine ⟨rfl, Alike.of_find? { asic with vlans := asic.vlans.erase vlan } fun other => ?_⟩
      rw [Table.find?_erase, Table.find?_erase]
      split
      · rfl
      · obtain ⟨_, _, hsame⟩ := hsubscript
        exact hsame other

theorem addVlanMember_alike (vlan : VlanId) (port : PortId) :
    (asic.addVlanMember vlan port).1 = ((asic.withMembers members).addVlanMember vlan port).1 ∧
      Alike (asic.addVlanMember vlan port).2
        ((asic.withMembers members).addVlanMember vlan port).2 := by
  have hsubscript := subscriptMembers_alike h vlan
  have hlist : ((asic.withMembers members).subscriptMembers vlan).memberList vlan =
      (asic.subscriptMembers vlan).memberList vlan := by
    rw [memberList_subscriptMembers, memberList_subscriptMembers, h]
  unfold addVlanMember
  rw [show (asic.withMembers members).vlans = asic.vlans from rfl,
    show (asic.withMembers members).ports = asic.ports from rfl]
  split
  · exact ⟨rfl, members, rfl, h⟩
  · dsimp only
    rw [hlist, show ((asic.withMembers members).subscriptMembers vlan).ports =
      (asic.subscriptMembers vlan).ports from rfl]
    split
    · exact ⟨rfl, hsubscript⟩
    · split
      · exact ⟨rfl, hsubscript⟩
      · split
        · exact ⟨rfl, hsubscript⟩
        · refine ⟨rfl, Alike.of_find? _ fun other => ?_⟩
          rw [Table.find?_set, Table.find?_set]
          split
          · rfl
          · obtain ⟨_, _, hsame⟩ := hsubscript
            exact hsame other

end Members

-- ---------------------------------------------------------------------------
-- The bisimulation
-- ---------------------------------------------------------------------------

/-- A call that commutes with the exchange of the member table answers alike, and
leaves the table as it was. -/
theorem alike_of_commutes {β : Type} {f : SoftwareAsic → β × SoftwareAsic} {asic : SoftwareAsic}
    (hcommutes : ∀ members,
      (∀ vlan, (asic.withMembers members).memberList vlan = asic.memberList vlan) →
      f (asic.withMembers members) = ((f asic).1, (f asic).2.withMembers members))
    {members : Table VlanId (List PortId)}
    (h : ∀ vlan, (asic.withMembers members).memberList vlan = asic.memberList vlan) :
    (f asic).1 = (f (asic.withMembers members)).1 ∧
      Alike (f asic).2 (f (asic.withMembers members)).2 := by
  -- with its own table the device is what it was, so the call has not written it
  have hsame := hcommutes asic.vlanMembers fun _ => rfl
  have hframe : (f asic).2.vlanMembers = asic.vlanMembers :=
    congrArg (fun result => result.2.vlanMembers) hsame
  rw [hcommutes members h]
  exact ⟨rfl, members, rfl, memberList_withMembers h hframe⟩

/-- **No call tells alike devices apart.** -/
theorem bisimulation_alike : Bisimulation respond Alike := by
  rintro asic _ call ⟨members, rfl, h⟩
  cases call with
  | operation operation =>
    cases operation with
    | createPort port capacity =>
      obtain ⟨hanswer, hafter⟩ := alike_of_commutes (f := fun asic => asic.createPort port capacity)
        (fun members _ => createPort_withMembers asic members port capacity) h
      exact ⟨congrArg Answer.status hanswer, hafter⟩
    | removePort port =>
      obtain ⟨hanswer, hafter⟩ := removePort_alike h port
      exact ⟨congrArg Answer.ofExcept hanswer, hafter⟩
    | setPortState port admin link =>
      obtain ⟨hanswer, hafter⟩ := alike_of_commutes
        (f := fun asic => asic.setPortState port admin link)
        (fun members _ => setPortState_withMembers asic members port admin link) h
      exact ⟨congrArg Answer.status hanswer, hafter⟩
    | createVlan vlan => exact ⟨rfl, members, rfl, h⟩
    | removeVlan vlan =>
      obtain ⟨hanswer, hafter⟩ := removeVlan_alike h vlan
      exact ⟨congrArg Answer.status hanswer, hafter⟩
    | addVlanMember vlan port =>
      obtain ⟨hanswer, hafter⟩ := addVlanMember_alike h vlan port
      exact ⟨congrArg Answer.ofExcept hanswer, hafter⟩
    | setRouterInterface vlan mac =>
      obtain ⟨hanswer, hafter⟩ := alike_of_commutes
        (f := fun asic => asic.setRouterInterface vlan mac)
        (fun members _ => setRouterInterface_withMembers asic members vlan mac) h
      exact ⟨congrArg Answer.status hanswer, hafter⟩
    | addOrReplaceRoute route =>
      obtain ⟨hanswer, hafter⟩ := alike_of_commutes (f := fun asic => asic.addOrReplaceRoute route)
        (fun members _ => addOrReplaceRoute_withMembers asic members route) h
      exact ⟨congrArg Answer.status hanswer, hafter⟩
    | removeRoute routePrefix => exact ⟨rfl, members, rfl, h⟩
    | addOrReplaceNeighbor address mac learnedAt => exact ⟨rfl, members, rfl, h⟩
    | removeNeighbor address => exact ⟨rfl, members, rfl, h⟩
    | configureFaults config =>
      obtain ⟨hanswer, hafter⟩ := alike_of_commutes (f := fun asic => asic.configureFaults config)
        (fun members _ => configureFaults_withMembers asic members config) h
      exact ⟨congrArg Answer.status hanswer, hafter⟩
    | processPacket ingressPort bytes now =>
      obtain ⟨hanswer, hafter⟩ := alike_of_commutes
        (f := fun asic => asic.processPacket ingressPort bytes now)
        (fun members hmembers => processPacket_withMembers hmembers ingressPort bytes now) h
      exact ⟨congrArg Answer.packet hanswer, hafter⟩
    | dequeuePacket port =>
      obtain ⟨hanswer, hafter⟩ := alike_of_commutes (f := fun asic => asic.dequeuePacket port)
        (fun members _ => dequeuePacket_withMembers asic members port) h
      exact ⟨congrArg Answer.bytes hanswer, hafter⟩
  | counters => exact ⟨rfl, members, rfl, h⟩
  | hasPort port => exact ⟨rfl, members, rfl, h⟩
  | hasVlan vlan => exact ⟨rfl, members, rfl, h⟩
  | findRoute routePrefix => exact ⟨rfl, members, rfl, h⟩
  | findNeighbor address now => exact ⟨rfl, members, rfl, h⟩

-- ---------------------------------------------------------------------------
-- Failed operations
-- ---------------------------------------------------------------------------

theorem alike_of_eq {before after : SoftwareAsic} (h : after = before) : Alike before after := by
  rw [h]
  exact Alike.refl before

theorem createPort_failed (asic : SoftwareAsic) (port : VirtualPort) (capacity : Nat) :
    (asic.createPort port capacity).1 ≠ .success →
      Alike asic (asic.createPort port capacity).2 := by
  rw [createPort]
  split
  · exact fun _ => Alike.refl asic
  · split
    · exact fun _ => Alike.refl asic
    · exact fun hfailed => absurd rfl hfailed

theorem removePort_failed (asic : SoftwareAsic) (port : PortId) {status : AsicStatus} :
    (asic.removePort port).1 = .ok status → status ≠ .success →
      Alike asic (asic.removePort port).2 := by
  rw [removePort]
  split
  · exact fun _ _ => Alike.refl asic
  · dsimp only
    split
    · intro hanswer
      simp at hanswer
    · intro hanswer hfailed
      rw [Except.ok.injEq] at hanswer
      exact absurd hanswer.symm hfailed

theorem setPortState_failed (asic : SoftwareAsic) (port : PortId) (admin link : Bool) :
    (asic.setPortState port admin link).1 ≠ .success →
      Alike asic (asic.setPortState port admin link).2 := by
  rw [setPortState]
  split
  · exact fun _ => Alike.refl asic
  · exact fun hfailed => absurd rfl hfailed

theorem createVlan_failed (asic : SoftwareAsic) (vlan : VlanId) :
    (asic.createVlan vlan).1 ≠ .success → Alike asic (asic.createVlan vlan).2 := by
  rw [createVlan]
  split
  · rename_i hvlan
    exact fun _ => alike_of_eq (by rw [Finset.insert_eq_of_mem hvlan])
  · exact fun hfailed => absurd rfl hfailed

/-- The failure that writes: the subscript comes before the test of the list. -/
theorem removeVlan_failed (asic : SoftwareAsic) (vlan : VlanId) :
    (asic.removeVlan vlan).1 ≠ .success → Alike asic (asic.removeVlan vlan).2 := by
  rw [removeVlan]
  split
  · exact fun _ => Alike.refl asic
  · dsimp only
    split
    · exact fun _ => alike_subscriptMembers asic vlan
    · exact fun hfailed => absurd rfl hfailed

theorem addVlanMember_failed (asic : SoftwareAsic) (vlan : VlanId) (port : PortId)
    {status : AsicStatus} :
    (asic.addVlanMember vlan port).1 = .ok status → status ≠ .success →
      Alike asic (asic.addVlanMember vlan port).2 := by
  rw [addVlanMember]
  split
  · exact fun _ _ => Alike.refl asic
  · dsimp only
    split
    · exact fun _ _ => alike_subscriptMembers asic vlan
    · split
      · exact fun _ _ => alike_subscriptMembers asic vlan
      · split
        · exact fun _ _ => alike_subscriptMembers asic vlan
        · intro hanswer hfailed
          rw [Except.ok.injEq] at hanswer
          exact absurd hanswer.symm hfailed

theorem setRouterInterface_failed (asic : SoftwareAsic) (vlan : VlanId) (mac : MacAddress) :
    (asic.setRouterInterface vlan mac).1 ≠ .success →
      Alike asic (asic.setRouterInterface vlan mac).2 := by
  rw [setRouterInterface]
  split
  · exact fun _ => Alike.refl asic
  · split
    · exact fun _ => Alike.refl asic
    · exact fun hfailed => absurd rfl hfailed

theorem addOrReplaceRoute_failed (asic : SoftwareAsic) (route : RouteEntry) :
    (asic.addOrReplaceRoute route).1 ≠ .success →
      Alike asic (asic.addOrReplaceRoute route).2 := by
  rw [addOrReplaceRoute]
  split
  · exact fun _ => Alike.refl asic
  · exact fun hfailed => absurd rfl hfailed

theorem removeRoute_failed (asic : SoftwareAsic) (routePrefix : Ipv4Prefix) :
    (asic.removeRoute routePrefix).1 ≠ .success →
      Alike asic (asic.removeRoute routePrefix).2 := by
  rw [removeRoute]
  dsimp only
  split
  · exact fun hfailed => absurd rfl hfailed
  · rename_i hmissing
    rw [Bool.not_eq_true] at hmissing
    exact fun _ => alike_of_eq (by rw [Ipv4RouteTable.remove_of_missing hmissing])

theorem addOrReplaceNeighbor_failed (asic : SoftwareAsic) (address : Ipv4Address)
    (mac : MacAddress) (learnedAt : TimePoint) :
    (asic.addOrReplaceNeighbor address mac learnedAt).1 ≠ .success →
      Alike asic (asic.addOrReplaceNeighbor address mac learnedAt).2 := by
  rw [addOrReplaceNeighbor]
  dsimp only
  split
  · rename_i hrejected
    exact fun _ => alike_of_eq (by rw [ArpCache.addOrReplace_of_rejected hrejected])
  · exact fun hfailed => absurd rfl hfailed

theorem removeNeighbor_failed (asic : SoftwareAsic) (address : Ipv4Address) :
    (asic.removeNeighbor address).1 ≠ .success → Alike asic (asic.removeNeighbor address).2 := by
  rw [removeNeighbor]
  dsimp only
  split
  · exact fun hfailed => absurd rfl hfailed
  · rename_i hmissing
    rw [Bool.not_eq_true] at hmissing
    exact fun _ => alike_of_eq (by rw [ArpCache.remove_of_missing hmissing])

theorem configureFaults_failed (asic : SoftwareAsic) (config : FaultInjectionConfig) :
    (asic.configureFaults config).1 ≠ .success → Alike asic (asic.configureFaults config).2 := by
  rw [configureFaults]
  split
  · exact fun _ => Alike.refl asic
  · exact fun hfailed => absurd rfl hfailed

/-- **A failed control operation leaves the device alike.** -/
theorem alike_of_failed {asic : SoftwareAsic} {operation : Operation} {status : AsicStatus}
    (hanswer : asic.answer operation = .status status) (hfailed : status ≠ .success) :
    Alike asic (asic.step operation) := by
  -- an operation that always returns a status, and one whose lookup may throw
  have plain : ∀ {result : AsicStatus × SoftwareAsic},
      (result.1 ≠ .success → Alike asic result.2) → Answer.status result.1 = .status status →
      Alike asic result.2 := by
    intro result halike hstatus
    rw [Answer.status.injEq] at hstatus
    exact halike (by rw [hstatus]; exact hfailed)
  have throwing : ∀ {result : Except LookupError AsicStatus × SoftwareAsic},
      (result.1 = .ok status → status ≠ .success → Alike asic result.2) →
      Answer.ofExcept result.1 = .status status → Alike asic result.2 := by
    intro result halike hstatus
    obtain ⟨outcome, after⟩ := result
    cases outcome with
    | error error => simp [Answer.ofExcept] at hstatus
    | ok returned =>
      rw [Answer.ofExcept, Answer.status.injEq] at hstatus
      exact halike (by rw [hstatus]) hfailed
  cases operation with
  | createPort port capacity => exact plain (createPort_failed asic port capacity) hanswer
  | removePort port => exact throwing (removePort_failed asic port) hanswer
  | setPortState port admin link => exact plain (setPortState_failed asic port admin link) hanswer
  | createVlan vlan => exact plain (createVlan_failed asic vlan) hanswer
  | removeVlan vlan => exact plain (removeVlan_failed asic vlan) hanswer
  | addVlanMember vlan port => exact throwing (addVlanMember_failed asic vlan port) hanswer
  | setRouterInterface vlan mac => exact plain (setRouterInterface_failed asic vlan mac) hanswer
  | addOrReplaceRoute route => exact plain (addOrReplaceRoute_failed asic route) hanswer
  | removeRoute routePrefix => exact plain (removeRoute_failed asic routePrefix) hanswer
  | addOrReplaceNeighbor address mac learnedAt =>
    exact plain (addOrReplaceNeighbor_failed asic address mac learnedAt) hanswer
  | removeNeighbor address => exact plain (removeNeighbor_failed asic address) hanswer
  | configureFaults config => exact plain (configureFaults_failed asic config) hanswer
  | processPacket ingressPort bytes now => simp [answer] at hanswer
  | dequeuePacket port => simp [answer] at hanswer

/-- **A failed control operation has no effect**: after it, every list of calls is
answered as if it had not been called. -/
theorem failed_control_operation {asic : SoftwareAsic} {operation : Operation}
    {status : AsicStatus} (hanswer : asic.answer operation = .status status)
    (hfailed : status ≠ .success) (calls : List Call) :
    outputs respond (asic.step operation) calls = outputs respond asic calls :=
  (bisimulation_alike.outputs_eq (alike_of_failed hanswer hfailed) calls).symm

open Example in
/-- Removing the VLAN of two members fails, and does not show in a later flood. -/
theorem failed_control_operation_removeVlan :
    outputs respond ((device twoPorts).step (.removeVlan vlan))
        [.operation (.processPacket firstPort (frameBytes 1 2 []) 0), .counters] =
      outputs respond (device twoPorts)
        [.operation (.processPacket firstPort (frameBytes 1 2 []) 0), .counters] := by
  have hanswer : (device twoPorts).answer (.removeVlan vlan) = .status .dependencyMissing :=
    congrArg Answer.status
      (by decide +kernel : ((device twoPorts).removeVlan vlan).1 = .dependencyMissing)
  exact failed_control_operation hanswer (by decide) _

end SiliconSwitch.Asic.SoftwareAsic
