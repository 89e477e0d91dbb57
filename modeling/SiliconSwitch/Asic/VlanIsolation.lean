import SiliconSwitch.Asic.Invariants

/-!
# VLAN isolation

Which ports a bridged frame reaches, and what the ingress side asks of a port.

* `vlan_egress_isolation` — copies of a bridged frame go to programmed members
  of the frame's VLAN only, and without faults a flood reaches all that can take it;
* `vlan_ingress_admission` — a frame is bridged, routed or learned in a VLAN that
  its port's own configuration accepts; bridging and routing need the VLAN to be
  created. Membership of the ingress port is not asked for:
  `nonmember_ingress` runs frames that are bridged, routed and learned without it, and
  one that is learned in a VLAN that has not been created.
-/

namespace SiliconSwitch.Asic.SoftwareAsic

open SiliconSwitch.Library SiliconSwitch.Network SiliconSwitch.Routing SiliconSwitch.Switching

/-- A bridging decision: a flood or a switched frame. -/
def Bridges (decision : PipelineDecision) (vlan : VlanId) (outputPorts : List PortId) : Prop :=
  decision = .flood vlan outputPorts ∨ decision = .switchKnownUnicast vlan outputPorts

/-- The ports of a bridging decision are programmed members of the frame's VLAN. -/
theorem bridges_members {asic : SoftwareAsic} (h : Programmed asic) {ingressPort : PortId}
    {port : VirtualPort} {frame : EthernetFrame} {now : TimePoint} {vlan : VlanId}
    {outputPorts : List PortId}
    (hbridges : Bridges (asic.pipeline ingressPort port frame now).1 vlan outputPorts) :
    classifyVlanIngress frame port.vlanConfig = .ok vlan ∧ vlan ∈ asic.vlans ∧
      outputPorts ≠ [] ∧ outputPorts.Nodup ∧
      ∀ id ∈ outputPorts, id ≠ ingressPort ∧ id ∈ asic.memberList vlan ∧
        ∃ egress, asic.ports.find? id = some egress ∧ egress.vlanConfig.allows vlan = true := by
  obtain ⟨hclassify, hnonempty, hnodup, hports, _⟩ := processL2L3Ingress_bridged hbridges
  rw [memberLookupVlan_of_classify hclassify] at hports
  have hmember : ∀ id ∈ outputPorts, id ≠ ingressPort ∧ id ∈ asic.memberList vlan ∧
      ∃ egress, asic.ports.find? id = some egress ∧ egress.vlanConfig.allows vlan = true :=
    fun id hid => ⟨(hports id hid).2, (hports id hid).1,
      (h.members vlan id (hports id hid).1).2⟩
  obtain ⟨first, hfirst⟩ := List.exists_mem_of_ne_nil outputPorts hnonempty
  exact ⟨hclassify, (h.members vlan first (hports first hfirst).1).1, hnonempty, hnodup, hmember⟩

-- ---------------------------------------------------------------------------
-- Egress
-- ---------------------------------------------------------------------------

/-- A switched or flooded packet has reached `enqueue_outputs` as such. -/
theorem verdict_of_disposition {asic : SoftwareAsic} {ingressPort : PortId}
    {bytes : List UInt8} {now : TimePoint}
    (hdisposition : (asic.processPacket ingressPort bytes now).1.disposition = .switched ∨
      (asic.processPacket ingressPort bytes now).1.disposition = .flooded) :
    ∃ requested frame, asic.verdict ingressPort bytes now =
      .egress (asic.processPacket ingressPort bytes now).1.disposition requested frame := by
  obtain ⟨latency, hresult⟩ := processPacket_result asic ingressPort bytes now
  rw [hresult] at hdisposition ⊢
  rw [packetCopies] at hdisposition ⊢
  cases hverdict : asic.verdict ingressPort bytes now with
  | egress disposition requested frame =>
    rw [hverdict] at hdisposition
    simp only [packetResult, requestedCopies] at hdisposition ⊢
    by_cases hempty :
        (accepted (copies asic asic.faultInjector.advance frame requested)).isEmpty = true
    · simp [hempty, dropped] at hdisposition
    · rw [Bool.not_eq_true] at hempty
      simp only [hempty, Bool.false_eq_true, if_false]
      exact ⟨requested, frame, rfl⟩
  | _ =>
    rw [hverdict] at hdisposition
    simp [packetResult, Verdict.disposition] at hdisposition

/-- The decision was to bridge the frame that arrived: a routed packet has another
disposition. -/
theorem bridges_of_disposition {asic : SoftwareAsic} {ingressPort : PortId}
    {bytes : List UInt8} {now : TimePoint}
    (hdisposition : (asic.processPacket ingressPort bytes now).1.disposition = .switched ∨
      (asic.processPacket ingressPort bytes now).1.disposition = .flooded) :
    ∃ port frame vlan requested, asic.arrival ingressPort bytes = .ok (port, frame) ∧
      Bridges (asic.pipeline ingressPort port frame now).1 vlan requested ∧
      asic.verdict ingressPort bytes now =
        .egress (asic.processPacket ingressPort bytes now).1.disposition requested
          frame.serialize := by
  obtain ⟨requested, bytesOut, hverdict⟩ := verdict_of_disposition hdisposition
  obtain ⟨port, frame, harrival, hdecision⟩ := verdict_egress hverdict
  rcases hdecision with ⟨vlan, hflood, _, rfl⟩ | ⟨vlan, hswitch, _, rfl⟩ | ⟨_, _, hroute⟩
  · exact ⟨port, frame, vlan, requested, harrival, Or.inl hflood, hverdict⟩
  · exact ⟨port, frame, vlan, requested, harrival, Or.inr hswitch, hverdict⟩
  · obtain ⟨_, _, _, _, _, _, _, _, _, hrouted, _⟩ := routeVerdict_egress hroute
    rw [hrouted] at hdisposition
    simp at hdisposition

/-- Without faults, the copy to an operational port whose MTU and queue admit the
frame is enqueued as it is. -/
theorem copyFate_of_disabled {asic : SoftwareAsic} {injector : FaultInjector}
    {frame : List UInt8} {id : PortId} {port : VirtualPort} {queue : PacketQueue}
    (hdisabled : injector.config.Disabled) (hport : asic.ports.find? id = some port)
    (hup : port.operational = true) (hqueue : asic.queues.find? id = some queue)
    (hmtu : frame.length ≤ port.mtu) (hroom : queue.admits = true) :
    copyFate asic injector frame id = .enqueued frame := by
  rw [copyFate, hport, hqueue]
  simp [hup, FaultInjector.process_of_disabled hdisabled, Nat.not_lt_of_le hmtu, hroom]

/-- What a port's queue holds after an accepted copy. -/
theorem onQueue_enqueued {queue : PacketQueue} (hroom : queue.admits = true)
    (bytes : List UInt8) :
    ((CopyFate.enqueued bytes).onQueue queue).queue = queue.queue ++ [bytes] := by
  rw [CopyFate.onQueue, (BoundedQueue.tryEnqueue_spec queue bytes).2.1, if_pos hroom]

/-- **VLAN egress isolation.** A switched or flooded frame was classified into the
VLAN whose members are looked up, and its output ports are distinct operational
programmed members of it other than the ingress port. Without faults, a flood
is enqueued on every operational member whose MTU and queue admit it. -/
theorem vlan_egress_isolation {asic : SoftwareAsic} (h : asic.Reachable) (ingressPort : PortId)
    (bytes : List UInt8) (now : TimePoint) :
    ((asic.processPacket ingressPort bytes now).1.disposition = .switched ∨
        (asic.processPacket ingressPort bytes now).1.disposition = .flooded →
      ∃ port frame vlan, asic.arrival ingressPort bytes = .ok (port, frame) ∧
        classifyVlanIngress frame port.vlanConfig = .ok vlan ∧
        memberLookupVlan port.vlanConfig frame = vlan ∧
        (asic.processPacket ingressPort bytes now).1.outputPorts.Nodup ∧
        ∀ id ∈ (asic.processPacket ingressPort bytes now).1.outputPorts,
          id ≠ ingressPort ∧ vlan ∈ asic.vlans ∧ id ∈ asic.memberList vlan ∧
            ∃ egress, asic.ports.find? id = some egress ∧ egress.operational = true ∧
              egress.vlanConfig.allows vlan = true) ∧
      ∀ port frame vlan outputPorts, asic.arrival ingressPort bytes = .ok (port, frame) →
        (asic.pipeline ingressPort port frame now).1 = .flood vlan outputPorts →
        asic.faultInjector.config.Disabled →
        ∀ id egress queue, id ∈ asic.memberList vlan → id ≠ ingressPort →
          asic.ports.find? id = some egress → egress.operational = true →
          asic.queues.find? id = some queue → queue.admits = true →
          frame.serialize.length ≤ egress.mtu →
          id ∈ (asic.processPacket ingressPort bytes now).1.outputPorts ∧
            ∃ after, (asic.processPacket ingressPort bytes now).2.queues.find? id = some after ∧
              after.queue = queue.queue ++ [frame.serialize] := by
  have hprogrammed := h.programmed
  constructor
  · intro hdisposition
    obtain ⟨port, frame, vlan, requested, harrival, hbridges, hverdict⟩ :=
      bridges_of_disposition hdisposition
    have houtputs := processPacket_outputPorts hverdict
    obtain ⟨hclassify, hvlan, _, hnodup, hmembers⟩ := bridges_members hprogrammed hbridges
    refine ⟨port, frame, vlan, harrival, hclassify, memberLookupVlan_of_classify hclassify, ?_, ?_⟩
    · rw [houtputs]
      exact hnodup.sublist (accepted_sublist ..)
    · intro id hid
      rw [houtputs] at hid
      obtain ⟨hne, hmember, egress, hegress, hallows⟩ :=
        hmembers id ((accepted_sublist ..).subset hid)
      obtain ⟨copied, hcopy⟩ := mem_accepted.mp hid
      -- an accepted copy went to a port that was up
      obtain ⟨_, operational, hoperational, hup⟩ := up_of_mem_copies hcopy (by simp)
      rw [hegress, Option.some.injEq] at hoperational
      subst hoperational
      exact ⟨hne, hvlan, hmember, egress, hegress, hup, hallows⟩
  · intro port frame vlan outputPorts harrival hflood hdisabled id egress queue hmember hne hegress
      hup hqueue hroom hmtu
    obtain ⟨hclassify, _, _, _, hall⟩ := processL2L3Ingress_bridged (Or.inl hflood)
    -- a flood is requested for every member, and nothing stops this copy
    have hrequested : id ∈ outputPorts := by
      refine hall hflood id ?_ hne
      rw [memberLookupVlan_of_classify hclassify]
      exact hmember
    have hverdict : asic.verdict ingressPort bytes now =
        .egress .flooded outputPorts frame.serialize := by
      rw [verdict, harrival]
      simp only [hflood, decisionVerdict]
    obtain ⟨fate, hcopy⟩ := exists_mem_copies asic asic.faultInjector.advance frame.serialize
      hrequested
    obtain ⟨injector, hconfig, hfate⟩ := mem_copies hcopy
    rw [copyFate_of_disabled (by rw [hconfig]; exact hdisabled) hegress hup hqueue hmtu hroom]
      at hfate
    subst hfate
    have haccepted := mem_accepted.mpr ⟨_, hcopy⟩
    constructor
    · rw [processPacket_outputPorts hverdict]
      exact haccepted
    · have htables := (processPacket_tables hverdict).1 id _ hcopy
      rw [htables.2, hqueue]
      exact ⟨_, rfl, onQueue_enqueued hroom frame.serialize⟩

open Example in
/-- The frame of `frameBytes 1 2 []`. -/
def unknownFrame : EthernetFrame :=
  ⟨hostMac 2, hostMac 1, ⟨0x88B5⟩, [], none, EthernetFrame.empty_payload_le⟩

open Example in
/-- A frame for an unknown host reaches the other member, and only members. -/
theorem vlan_egress_isolation_twoPorts :
    (∃ member, member ∈ (device twoPorts).vlans ∧
      ∀ id ∈ ((device twoPorts).processPacket firstPort (frameBytes 1 2 []) 0).1.outputPorts,
        id ≠ firstPort ∧ id ∈ (device twoPorts).memberList member) ∧
      secondPort ∈
        ((device twoPorts).processPacket firstPort (frameBytes 1 2 []) 0).1.outputPorts := by
  have hisolation := vlan_egress_isolation (reachable_device twoPorts) firstPort
    (frameBytes 1 2 []) 0
  have hflooded : ((device twoPorts).processPacket firstPort (frameBytes 1 2 []) 0).1.disposition =
      .flooded := by decide +kernel
  have hsecond := hisolation.2 (accessPort firstPort) unknownFrame vlan [secondPort] rfl
    (by decide +kernel) ⟨rfl, rfl, rfl, rfl⟩ secondPort (accessPort secondPort)
    (BoundedQueue.create 4 (by decide)) (by decide +kernel) (by decide) rfl rfl rfl
    (by decide) (by decide +kernel)
  obtain ⟨_, _, member, _, _, _, _, hports⟩ := hisolation.1 (Or.inr hflooded)
  exact ⟨⟨member, (hports secondPort hsecond.1).2.1, fun id hid =>
    ⟨(hports id hid).1, (hports id hid).2.2.1⟩⟩, hsecond.1⟩

-- ---------------------------------------------------------------------------
-- Ingress
-- ---------------------------------------------------------------------------

/-- The frame of this call is bridged to other ports in `vlan`. -/
def BridgedIn (asic : SoftwareAsic) (ingressPort : PortId) (bytes : List UInt8) (now : TimePoint)
    (vlan : VlanId) : Prop :=
  ∃ port frame outputPorts, asic.arrival ingressPort bytes = .ok (port, frame) ∧
    Bridges (asic.pipeline ingressPort port frame now).1 vlan outputPorts

/-- The frame of this call is routed through the router interface of `vlan`. -/
def RoutedIn (asic : SoftwareAsic) (ingressPort : PortId) (bytes : List UInt8) (now : TimePoint)
    (vlan : VlanId) : Prop :=
  ∃ port frame, asic.arrival ingressPort bytes = .ok (port, frame) ∧
    (asic.pipeline ingressPort port frame now).1 = .routeIpv4 vlan

/-- The call changes an entry of `vlan` in the MAC table. -/
def LearnedIn (asic : SoftwareAsic) (ingressPort : PortId) (bytes : List UInt8) (now : TimePoint)
    (vlan : VlanId) : Prop :=
  ∃ mac, (asic.processPacket ingressPort bytes now).2.macTable.lookup vlan mac ≠
    asic.macTable.lookup vlan mac

/-- The ingress port exists and is operational, and its own VLAN configuration
classifies the frame it receives into `vlan`. -/
def AdmittedIn (asic : SoftwareAsic) (ingressPort : PortId) (bytes : List UInt8) (vlan : VlanId) :
    Prop :=
  ∃ port frame, asic.arrival ingressPort bytes = .ok (port, frame) ∧
    asic.ports.find? ingressPort = some port ∧ port.operational = true ∧
    classifyVlanIngress frame port.vlanConfig = .ok vlan ∧ port.vlanConfig.allows vlan = true

theorem admittedIn_of_classify {asic : SoftwareAsic} {ingressPort : PortId} {bytes : List UInt8}
    {vlan : VlanId} {port : VirtualPort} {frame : EthernetFrame}
    (harrival : asic.arrival ingressPort bytes = .ok (port, frame))
    (hclassify : classifyVlanIngress frame port.vlanConfig = .ok vlan) :
    AdmittedIn asic ingressPort bytes vlan := by
  obtain ⟨hport, hup, _⟩ := arrival_ok harrival
  exact ⟨port, frame, harrival, hport, hup, hclassify, allows_of_classifyVlanIngress hclassify⟩

/-- A routed frame was classified into a VLAN that has a router interface. -/
theorem routeIpv4_vlan {asic : SoftwareAsic} {ingressPort : PortId} {port : VirtualPort}
    {frame : EthernetFrame} {now : TimePoint} {vlan : VlanId}
    (h : (asic.pipeline ingressPort port frame now).1 = .routeIpv4 vlan) :
    classifyVlanIngress frame port.vlanConfig = .ok vlan ∧
      ∃ mac, asic.routerInterfaces.find? vlan = some mac := by
  obtain ⟨classified, hclassify, _, hdecide⟩ := pipeline_of_not_drop h (by simp)
  rcases decideLearned_vlan frame classified ingressPort (asic.memberList classified)
    (asic.macTable.learn classified frame.source ingressPort now).2 asic.routerInterfaces with
    ⟨reason, hdrop⟩ | ⟨hsome, hroute | hcontrol⟩ | ⟨action, _, _, hbridge⟩
  · rw [hdrop] at hdecide
    simp at hdecide
  · rw [hroute, PipelineDecision.routeIpv4.injEq] at hdecide
    subst hdecide
    exact ⟨hclassify, Option.isSome_iff_exists.mp hsome⟩
  · rw [hcontrol] at hdecide
    simp at hdecide
  · -- a bridging decision is a flood or a switched frame
    rw [hbridge] at hdecide
    split at hdecide <;> simp at hdecide

/-- A bridging decision on a frame that arrived ends in `enqueue_outputs`. -/
theorem verdict_of_bridges {asic : SoftwareAsic} {ingressPort : PortId} {bytes : List UInt8}
    {now : TimePoint} {port : VirtualPort} {frame : EthernetFrame} {vlan : VlanId}
    {outputPorts : List PortId}
    (harrival : asic.arrival ingressPort bytes = .ok (port, frame))
    (hbridges : Bridges (asic.pipeline ingressPort port frame now).1 vlan outputPorts) :
    ∃ disposition, asic.verdict ingressPort bytes now =
      .egress disposition outputPorts frame.serialize := by
  rw [verdict, harrival]
  rcases hbridges with hflood | hswitch
  · simp only [hflood, decisionVerdict]
    exact ⟨_, rfl⟩
  · simp only [hswitch, decisionVerdict]
    exact ⟨_, rfl⟩

/-- **VLAN ingress admission.** A frame is bridged or routed in a VLAN only if the
VLAN is created, copies of a bridged frame go to programmed members of it only,
and a frame is bridged, routed or learned in a VLAN only if the configuration of
its operational port classifies it there. -/
theorem vlan_ingress_admission {asic : SoftwareAsic} (h : asic.Reachable) (ingressPort : PortId)
    (bytes : List UInt8) (now : TimePoint) (vlan : VlanId) :
    (BridgedIn asic ingressPort bytes now vlan →
      vlan ∈ asic.vlans ∧ AdmittedIn asic ingressPort bytes vlan ∧
        ∀ id ∈ (asic.processPacket ingressPort bytes now).1.outputPorts,
          id ∈ asic.memberList vlan) ∧
    (RoutedIn asic ingressPort bytes now vlan →
      vlan ∈ asic.vlans ∧ AdmittedIn asic ingressPort bytes vlan) ∧
    (LearnedIn asic ingressPort bytes now vlan → AdmittedIn asic ingressPort bytes vlan) := by
  have hprogrammed := h.programmed
  refine ⟨?_, ?_, ?_⟩
  · rintro ⟨port, frame, outputPorts, harrival, hbridges⟩
    obtain ⟨hclassify, hvlan, _, _, hmembers⟩ := bridges_members hprogrammed hbridges
    refine ⟨hvlan, admittedIn_of_classify harrival hclassify, ?_⟩
    obtain ⟨disposition, hverdict⟩ := verdict_of_bridges harrival hbridges
    intro id hid
    rw [processPacket_outputPorts hverdict] at hid
    exact (hmembers id ((accepted_sublist ..).subset hid)).2.1
  · rintro ⟨port, frame, harrival, hroute⟩
    obtain ⟨hclassify, mac, hinterface⟩ := routeIpv4_vlan hroute
    exact ⟨(hprogrammed.routerInterfaces vlan mac hinterface).1,
      admittedIn_of_classify harrival hclassify⟩
  · rintro ⟨mac, hchanged⟩
    rcases processPacket_macTable_cases asic ingressPort bytes now with
      hsame | ⟨port, frame, classified, harrival, hclassify, hlearn⟩
    · rw [hsame] at hchanged
      exact absurd rfl hchanged
    · by_cases hkey : (vlan, mac) = (classified, frame.source)
      · rw [Prod.mk.injEq] at hkey
        rw [hkey.1]
        exact admittedIn_of_classify harrival hclassify
      · rw [hlearn, MacTable.lookup, MacTable.lookup, MacTable.find?_learn_of_ne hkey] at hchanged
        exact absurd rfl hchanged

open Example in
/-- A frame of the first port is flooded in a VLAN of two members. -/
theorem vlan_ingress_admission_twoPorts : AdmittedIn (device twoPorts) firstPort
    (frameBytes 1 2 []) vlan :=
  ((vlan_ingress_admission (reachable_device twoPorts) firstPort (frameBytes 1 2 []) 0 vlan).1
    ⟨accessPort firstPort, unknownFrame, [secondPort], rfl, Or.inl (by decide +kernel)⟩).2.1

/-- What membership of the ingress port would promise. -/
def IngressMembership (asic : SoftwareAsic) (ingressPort : PortId) (bytes : List UInt8)
    (now : TimePoint) : Prop :=
  ∀ vlan, BridgedIn asic ingressPort bytes now vlan ∨ RoutedIn asic ingressPort bytes now vlan ∨
      LearnedIn asic ingressPort bytes now vlan →
    vlan ∈ asic.vlans ∧ ingressPort ∈ asic.memberList vlan

open Example in
/-- The second port alone is a member of the VLAN. -/
def oneMember : List Operation :=
  [.createPort (accessPort firstPort) 4, .createPort (accessPort secondPort) 4, .createVlan vlan,
   .addVlanMember vlan secondPort]

namespace Example

/-- A datagram from 10.0.3.9 to 10.0.4.7. -/
def strayDatagram : Ipv4Packet :=
  ⟨⟨0x0A000309⟩, ⟨0x0A000407⟩, ⟨6⟩, [8, 3], 33, 0, false, by decide, by decide⟩

/-- The frame that carries it to the router interface. -/
def strayFrame : EthernetFrame :=
  carrierFrame (hostMac 3) (hostMac 0xFD) strayDatagram (by decide +kernel)

/-- The VLAN has a router interface, and a route and a neighbor behind its one member. -/
def oneMemberRouter : List Operation :=
  oneMember ++ [.setRouterInterface vlan (hostMac 0xFD),
    .addOrReplaceRoute ⟨⟨⟨0x0A000400⟩, 22, by decide, by decide⟩, none, secondPort,
      RouteEntry.connected_valid⟩,
    .addOrReplaceNeighbor ⟨0x0A000407⟩ (hostMac 7) 0]

/-- A port configured for a VLAN that nobody has created. -/
def lonePort : List Operation := [.createPort (accessPort firstPort) 4]

end Example

open Example in
/-- A port that is no member has a frame flooded to the members and learned, and another
routed; and a frame is learned in a VLAN that has not been created. -/
theorem nonmember_ingress :
    (device oneMember).Reachable ∧
      ¬ IngressMembership (device oneMember) firstPort (frameBytes 1 2 []) 0 ∧
      ((device oneMember).processPacket firstPort (frameBytes 1 2 []) 0).1 =
        ⟨.flooded, .none, [secondPort], 0⟩ ∧
      ((device oneMember).processPacket firstPort (frameBytes 1 2 []) 0).2.macTable.lookup vlan
        (hostMac 1) = some ⟨firstPort, .dynamic, 0⟩ ∧
      (firstPort ∉ (device oneMemberRouter).memberList vlan ∧
        RoutedIn (device oneMemberRouter) firstPort strayFrame.serialize 0 vlan ∧
        ((device oneMemberRouter).processPacket firstPort strayFrame.serialize 0).1 =
          ⟨.routed, .none, [secondPort], 0⟩) ∧
      vlan ∉ (device lonePort).vlans ∧
        LearnedIn (device lonePort) firstPort (frameBytes 1 2 []) 0 vlan := by
  refine ⟨reachable_device oneMember, ?_, by decide +kernel, by decide +kernel,
    ⟨by decide +kernel, ?_, by decide +kernel⟩, by decide +kernel, ?_⟩
  · intro hmembership
    have hmember := (hmembership vlan (Or.inl
      ⟨accessPort firstPort, unknownFrame, [secondPort], rfl, Or.inl (by decide +kernel)⟩)).2
    exact absurd hmember (by decide +kernel)
  · exact ⟨accessPort firstPort, strayFrame, rfl, by decide +kernel⟩
  · exact ⟨hostMac 1, by decide +kernel⟩

end SiliconSwitch.Asic.SoftwareAsic
