import SiliconSwitch.Asic.Invariants

/-!
# The size checks

A frame's size is checked three times: `EthernetFrame::parse` bounds the payload
by 1500, `VirtualPort::receive` compares the payload with the ingress MTU, and
`enqueue_outputs` compares the whole serialized frame with the egress MTU.

* `sizesAgree_iff` — a frame whose payload fits both MTUs passes all three in
  every reachable state exactly if its payload is at most 1500 and, where its
  source may be forwarded at all, its serialized size fits the egress MTU too.
-/

namespace SiliconSwitch.Asic.SoftwareAsic

open SiliconSwitch.Library SiliconSwitch.Network SiliconSwitch.Routing SiliconSwitch.Switching

/-- A well-formed frame on a link, of any payload length: only an untagged frame
cannot have the EtherType of the tag. -/
structure LinkFrame where
  destination : MacAddress
  source : MacAddress
  etherType : EtherType
  payload : List UInt8
  vlanTag : Option VlanTag
  untagged : vlanTag = none → etherType ≠ EtherType.vlanTagged

namespace LinkFrame

def bytes (frame : LinkFrame) : List UInt8 :=
  EthernetFrame.layout frame.destination frame.source frame.etherType frame.payload frame.vlanTag

theorem length_bytes (frame : LinkFrame) :
    frame.bytes.length = EthernetFrame.headerLength frame.vlanTag + frame.payload.length :=
  EthernetFrame.length_layout ..

/-- The parser's view of the frame. -/
theorem parse_bytes (frame : LinkFrame) :
    EthernetFrame.parse frame.bytes =
      EthernetFrame.create frame.destination frame.source frame.etherType frame.payload
        frame.vlanTag :=
  EthernetFrame.parse_layout _ _ _ _ _ frame.untagged

/-- A parsed frame has the fields of the link frame, and a payload within the limit. -/
theorem of_parse_bytes {frame : LinkFrame} {received : EthernetFrame}
    (h : EthernetFrame.parse frame.bytes = some received) :
    received.source = frame.source ∧ received.payload = frame.payload ∧
      received.vlanTag = frame.vlanTag ∧
      frame.payload.length ≤ EthernetFrame.maximumPayloadSize := by
  rw [frame.parse_bytes, EthernetFrame.create] at h
  split at h
  · simp at h
  · rename_i hfits
    rw [← Option.some.inj h]
    exact ⟨rfl, rfl, rfl, Nat.le_of_not_gt hfits⟩

end LinkFrame

/-- No size check discards the frame on its way from port `ingressPort`, or its copy
to port `egressPort`: the parser accepts what the injector lets through, and the
size errors of the two ports do not move. -/
structure SizeAccepted (asic : SoftwareAsic) (ingressPort egressPort : PortId)
    (frame : LinkFrame) (now : TimePoint) : Prop where
  parsed : ∀ injected, (asic.faultInjector.process ingressPort frame.bytes).1 = .ok injected →
    EthernetFrame.parse injected.bytes ≠ none
  received : ((asic.processPacket ingressPort frame.bytes now).2.ports.find? ingressPort).map
      (fun port => port.counters.receiveErrors) =
    (asic.ports.find? ingressPort).map fun port => port.counters.receiveErrors
  transmitted : ((asic.processPacket ingressPort frame.bytes now).2.ports.find? egressPort).map
      (fun port => port.counters.transmitErrors) =
    (asic.ports.find? egressPort).map fun port => port.counters.transmitErrors

/-- The frame passes the size checks between any two operational ports of these
MTUs, in every reachable state. -/
def SizesAgree (frame : LinkFrame) (ingressMtu egressMtu : Nat) : Prop :=
  ∀ asic : SoftwareAsic, asic.Reachable → ∀ ingressPort egressPort ingress egress now,
    asic.ports.find? ingressPort = some ingress → ingress.operational = true →
    ingress.mtu = ingressMtu →
    asic.ports.find? egressPort = some egress → egress.operational = true →
    egress.mtu = egressMtu →
    SizeAccepted asic ingressPort egressPort frame now

-- ---------------------------------------------------------------------------
-- Enough
-- ---------------------------------------------------------------------------

/-- The injector may change the destination of a frame, and nothing else. -/
theorem process_bytes {injector : FaultInjector} {port : PortId} {frame : LinkFrame}
    {injected : FaultInjectedPacket}
    (h : (injector.process port frame.bytes).1 = .ok injected) :
    ∃ seen : MacAddress, injected.bytes = LinkFrame.bytes { frame with destination := seen } := by
  obtain ⟨destination, source, etherType, payload, vlanTag, huntagged⟩ := frame
  have hflip : FaultInjector.corruptFront
      (EthernetFrame.layout destination source etherType payload vlanTag) =
        EthernetFrame.layout ⟨FaultInjector.corruptFront destination.bytes,
          (FaultInjector.length_corruptFront _).trans destination.byte_count⟩ source etherType
          payload vlanTag := by
    -- only the first octet is flipped, and the destination comes first
    obtain ⟨bytes, hcount⟩ := destination
    cases bytes with
    | nil => simp at hcount
    | cons front rest => rfl
  rw [FaultInjector.process, FaultInjector.inject] at h
  split at h
  · simp at h
  · split at h
    · simp at h
    · split at h
      · simp at h
      · split at h
        · rw [Except.ok.injEq] at h
          rw [← h]
          exact ⟨_, hflip⟩
        · rw [Except.ok.injEq] at h
          rw [← h]
          exact ⟨destination, rfl⟩

/-- What a presented link frame looks like: the frame up to its destination. -/
theorem presented_linkFrame {asic : SoftwareAsic} {ingressPort : PortId} {frame : LinkFrame}
    {port : VirtualPort} {received : EthernetFrame}
    (h : asic.presented ingressPort frame.bytes = .ok (port, received)) :
    received.source = frame.source ∧ received.payload = frame.payload ∧
      received.vlanTag = frame.vlanTag := by
  obtain ⟨_, _, injected, hinjected, hparsed⟩ := presented_ok h
  obtain ⟨seen, hseen⟩ := process_bytes hinjected
  rw [hseen] at hparsed
  obtain ⟨hsource, hpayload, htag, _⟩ := LinkFrame.of_parse_bytes hparsed
  exact ⟨hsource, hpayload, htag⟩

theorem receive_errors (port : VirtualPort) (size : Nat) :
    (port.receive size).2.counters.transmitErrors = port.counters.transmitErrors ∧
      (size ≤ port.mtu →
        (port.receive size).2.counters.receiveErrors = port.counters.receiveErrors) := by
  rw [VirtualPort.receive]
  split
  · exact ⟨rfl, fun _ => rfl⟩
  · split
    · rename_i hlarge
      exact ⟨rfl, fun hfits => absurd hlarge (Nat.not_lt_of_le hfits)⟩
    · exact ⟨rfl, fun _ => rfl⟩

theorem transmit_errors (port : VirtualPort) (size : Nat) :
    (port.transmit size).2.counters.receiveErrors = port.counters.receiveErrors ∧
      (size ≤ port.mtu →
        (port.transmit size).2.counters.transmitErrors = port.counters.transmitErrors) := by
  rw [VirtualPort.transmit]
  split
  · exact ⟨rfl, fun _ => rfl⟩
  · split
    · rename_i hlarge
      exact ⟨rfl, fun hfits => absurd hlarge (Nat.not_lt_of_le hfits)⟩
    · exact ⟨rfl, fun _ => rfl⟩

theorem onPort_receiveErrors (fate : CopyFate) (size : Nat) (port : VirtualPort) :
    (fate.onPort size port).counters.receiveErrors = port.counters.receiveErrors := by
  cases fate with
  | oversized | enqueued => exact (transmit_errors port size).1
  | unavailable | faulted | congested => rfl

/-- A copy that fits its port leaves the size errors of the port alone. -/
theorem onPort_transmitErrors (fate : CopyFate) {size : Nat} {port : VirtualPort}
    (hfits : size ≤ port.mtu) :
    (fate.onPort size port).counters.transmitErrors = port.counters.transmitErrors := by
  cases fate with
  | oversized | enqueued => exact (transmit_errors port size).2 hfits
  | unavailable | faulted | congested => rfl

/-- The bytes that a frame asks to enqueue are no longer than the frame, and its
source is one that may be learned. -/
theorem length_requested {asic : SoftwareAsic} {ingressPort : PortId} {frame : LinkFrame}
    {now : TimePoint} {disposition : PacketDisposition} {requested : List PortId}
    {bytesOut : List UInt8}
    (h : asic.verdict ingressPort frame.bytes now = .egress disposition requested bytesOut) :
    bytesOut.length ≤ frame.bytes.length ∧ frame.source.isNonzeroUnicast = true := by
  obtain ⟨port, received, harrival, hdecision⟩ := verdict_egress h
  obtain ⟨hsource, hpayload, htag⟩ :=
    presented_linkFrame (presented_of_arrival harrival).1
  have hserialized : received.serialize.length = frame.bytes.length := by
    rw [EthernetFrame.length_serialize, LinkFrame.length_bytes, hpayload, htag]
  have hlearnable : frame.source.isNonzeroUnicast = true := by
    rw [← hsource]
    rcases hdecision with ⟨vlan, hflood, _⟩ | ⟨vlan, hswitch, _⟩ | ⟨vlan, hroute, _⟩
    · obtain ⟨_, _, hlearnable, _⟩ := pipeline_of_not_drop hflood (by simp)
      exact hlearnable
    · obtain ⟨_, _, hlearnable, _⟩ := pipeline_of_not_drop hswitch (by simp)
      exact hlearnable
    · obtain ⟨_, _, hlearnable, _⟩ := pipeline_of_not_drop hroute (by simp)
      exact hlearnable
  refine ⟨?_, hlearnable⟩
  rcases hdecision with ⟨_, _, _, rfl⟩ | ⟨_, _, _, rfl⟩ | ⟨_, _, hroute⟩
  · exact Nat.le_of_eq hserialized
  · exact Nat.le_of_eq hserialized
  · -- the routed frame is untagged, around a packet of the received payload's size
    obtain ⟨packet, forwarded, _, encapsulated, hpacket, hforwarded, _, _, hencapsulated, _, _, rfl⟩ :=
      routeVerdict_egress hroute
    obtain ⟨huntagged, hencapsulatedPayload⟩ := encapsulateIpv4InEthernet_ok hencapsulated
    obtain ⟨_, _, _, hpayloadKept⟩ := forward_ok hforwarded
    rw [EthernetFrame.length_serialize, huntagged, hencapsulatedPayload,
      Ipv4Packet.length_serialize, hpayloadKept, Ipv4Packet.length_payload_of_parse hpacket,
      LinkFrame.length_bytes, hpayload]
    cases frame.vlanTag <;> simp [EthernetFrame.headerLength, EthernetFrame.headerSize,
      EthernetFrame.taggedHeaderSize]

/-- What presenting a frame does to the size errors of a port: nothing on the
transmit side, and nothing on the receive side if the payload fits. -/
theorem receivedPorts_errors {asic : SoftwareAsic} {ingressPort : PortId} {frame : LinkFrame}
    {ingress : VirtualPort} (hport : asic.ports.find? ingressPort = some ingress)
    (hfits : frame.payload.length ≤ ingress.mtu) (id : PortId) :
    ∀ current, asic.ports.find? id = some current →
      ∃ received, (asic.receivedPorts ingressPort frame.bytes).find? id = some received ∧
        received.mtu = current.mtu ∧
        received.counters.receiveErrors = current.counters.receiveErrors ∧
        received.counters.transmitErrors = current.counters.transmitErrors := by
  intro current hcurrent
  rw [receivedPorts]
  split
  · exact ⟨current, hcurrent, rfl, rfl, rfl⟩
  · rename_i port seen hpresented
    rw [(presented_ok hpresented).1, Option.some.injEq] at hport
    subst hport
    rw [← (presented_linkFrame hpresented).2.1] at hfits
    rw [Table.find?_set]
    split
    · rename_i heq
      rw [heq, (presented_ok hpresented).1, Option.some.injEq] at hcurrent
      subst hcurrent
      have herrors := receive_errors port seen.payload.length
      exact ⟨_, rfl, (VirtualPort.sameConfiguration_receive port _).mtu, herrors.2 hfits,
        herrors.1⟩
    · exact ⟨current, hcurrent, rfl, rfl, rfl⟩

/-- Frames that the parser accepts and whose serialized size fits the egress MTU
pass the three checks. -/
theorem sizesAgree_of_fits {frame : LinkFrame} {ingressMtu egressMtu : Nat}
    (hingress : frame.payload.length ≤ ingressMtu)
    (hparser : frame.payload.length ≤ EthernetFrame.maximumPayloadSize)
    (hegress : frame.source.isNonzeroUnicast = true → frame.bytes.length ≤ egressMtu) :
    SizesAgree frame ingressMtu egressMtu := by
  intro asic _ ingressPort egressPort ingress egress now hport _ hmtuIn hout _ hmtuOut
  rw [← hmtuIn] at hingress
  rw [← hmtuOut] at hegress
  constructor
  · intro injected hinjected
    obtain ⟨seen, hseen⟩ := process_bytes hinjected
    rw [hseen, LinkFrame.parse_bytes, EthernetFrame.create, dif_neg (Nat.not_lt_of_le hparser)]
    simp
  · obtain ⟨received, hreceived, _, herrors, _⟩ :=
      receivedPorts_errors hport hingress ingressPort ingress hport
    rw [hport]
    rcases processPacket_port asic ingressPort frame.bytes now ingressPort with
      hsame | ⟨_, _, bytesOut, fate, _, hcopied⟩
    · rw [hsame, hreceived, Option.map_some, Option.map_some, herrors]
    · rw [hcopied, hreceived, Option.map_some, Option.map_some, Option.map_some,
        onPort_receiveErrors, herrors]
  · obtain ⟨received, hreceived, hmtu, _, herrors⟩ :=
      receivedPorts_errors hport hingress egressPort egress hout
    rw [hout]
    rcases processPacket_port asic ingressPort frame.bytes now egressPort with
      hsame | ⟨_, _, bytesOut, fate, hverdict, hcopied⟩
    · rw [hsame, hreceived, Option.map_some, Option.map_some, herrors]
    · obtain ⟨hlength, hlearnable⟩ := length_requested hverdict
      have hfits : bytesOut.length ≤ received.mtu := by
        rw [hmtu]
        exact hlength.trans (hegress hlearnable)
      rw [hcopied, hreceived, Option.map_some, Option.map_some, Option.map_some,
        onPort_transmitErrors fate hfits, herrors]

-- ---------------------------------------------------------------------------
-- Necessary
-- ---------------------------------------------------------------------------

-- For a frame that is too long for the egress MTU, a device that floods it there.
-- Its MAC table has one entry, which a frame of another VLAN takes first, so that
-- the frame's own source is not learned and no destination is known.

def frameVlan : Option VlanTag → VlanId
  | none => Example.vlan
  | some tag => tag.vlanId

/-- A port configuration that classifies frames of this tag into `frameVlan`. -/
def ingressConfig : Option VlanTag → VlanPortConfig
  | none => .access Example.vlan
  | some tag => .trunk {tag.vlanId} none (Finset.singleton_nonempty _) (by simp)

def otherVlan (vlan : VlanId) : VlanId :=
  if vlan = Example.vlan then ⟨11, by decide, by decide⟩ else Example.vlan

/-- A trunk of the VLAN that takes untagged frames into another one. -/
def egressConfig (vlan : VlanId) : VlanPortConfig :=
  .trunk {vlan, otherVlan vlan} (some (otherVlan vlan)) (by simp) (by simp)

def sizedPort (id : PortId) (mtu : Nat)
    (hmtu : VirtualPort.minimumMtu ≤ mtu ∧ mtu ≤ VirtualPort.maximumMtu)
    (config : VlanPortConfig) : VirtualPort :=
  { Example.accessPort id with mtu, mtu_bounds := hmtu, vlanConfig := config }

/-- Two ports, of which the second is a member of the VLAN. -/
def oneMemberPorts (ingress egress : VirtualPort) (vlan : VlanId) : List Operation :=
  [.createPort ingress 4, .createPort egress 4, .createVlan vlan, .addVlanMember vlan egress.id]

/-- The frame that takes the one MAC entry, and its octets. -/
def fillerFrame : EthernetFrame :=
  ⟨Example.hostMac 2, Example.hostMac 1, ⟨0x88B5⟩, [], none, EthernetFrame.empty_payload_le⟩

def overflowOperations (ingress egress : VirtualPort) (vlan : VlanId) : List Operation :=
  oneMemberPorts ingress egress vlan ++
    [.processPacket egress.id (Example.frameBytes 1 2 []) 0]

theorem otherVlan_ne (vlan : VlanId) : vlan ≠ otherVlan vlan := by
  rw [otherVlan]
  split
  · rename_i heq
    rw [heq]
    decide
  · rename_i hne
    exact hne

theorem classify_ingressConfig {frame : EthernetFrame} {tag : Option VlanTag}
    (htag : frame.vlanTag = tag) :
    classifyVlanIngress frame (ingressConfig tag) = .ok (frameVlan tag) := by
  cases tag with
  | none => simp [classifyVlanIngress, ingressConfig, frameVlan, htag]
  | some tag =>
    simp [classifyVlanIngress, ingressConfig, frameVlan, htag, VlanPortConfig.allows,
      VlanPortConfig.allowedVlans]

theorem disabled_create : FaultInjector.create.config.Disabled := ⟨rfl, rfl, rfl, rfl⟩

/-- The programmed state of `oneMemberPorts`. -/
theorem oneMemberPorts_state {ingress egress : VirtualPort} {vlan : VlanId}
    (hids : ingress.id ≠ egress.id) (hallows : egress.vlanConfig.allows vlan = true) :
    let asic := run step (create 1 (by decide)) (oneMemberPorts ingress egress vlan)
    asic.ports.find? ingress.id = some ingress ∧ asic.ports.find? egress.id = some egress ∧
      asic.memberList vlan = [egress.id] ∧ asic.routerInterfaces = Table.empty ∧
      asic.macTable = (create 1 (by decide)).macTable ∧
      asic.faultInjector = FaultInjector.create := by
  refine ⟨?_, ?_, ?_, ?_, ?_, ?_⟩ <;>
    simp [oneMemberPorts, run, step, createPort, createVlan, addVlanMember, create,
      Table.find?_emplace, hids, hids.symm, subscriptMembers, memberList, hallows]

/-- Without faults an operational port is presented what the parser makes of the bytes. -/
theorem arrival_of_disabled {asic : SoftwareAsic} {ingressPort : PortId} {bytes : List UInt8}
    {port : VirtualPort} {frame : EthernetFrame}
    (hdisabled : asic.faultInjector.config.Disabled)
    (hport : asic.ports.find? ingressPort = some port) (hup : port.operational = true)
    (hparse : EthernetFrame.parse bytes = some frame) (hfits : frame.payload.length ≤ port.mtu) :
    asic.arrival ingressPort bytes = .ok (port, frame) := by
  rw [arrival, presented, hport]
  simp [hup, FaultInjector.process_of_disabled hdisabled, hparse, Nat.not_lt_of_le hfits]

/-- The one entry of the fresh table is taken by the filler frame. -/
theorem learn_filler (vlan : VlanId) (port : PortId) :
    let learned := ((create 1 (by decide)).macTable.learn (otherVlan vlan) fillerFrame.source
      port 0).2
    learned.capacity ≤ learned.entries.size ∧
      ∀ mac, learned.entries.find? (vlan, mac) = none := by
  constructor
  · rw [otherVlan]
    split <;> rfl
  · intro mac
    rw [MacTable.find?_learn_of_ne fun heq => otherVlan_ne vlan (Prod.mk.inj heq).1]
    rfl

/-- The device that floods the frames of `vlan` to the egress port, and learns no more. -/
structure Overflows (asic : SoftwareAsic) (ingress egress : VirtualPort) (vlan : VlanId) :
    Prop where
  ingressPort : ∃ port, asic.ports.find? ingress.id = some port ∧
    VirtualPort.SameConfiguration ingress port
  egressPort : ∃ port, asic.ports.find? egress.id = some port ∧
    VirtualPort.SameConfiguration egress port
  members : asic.memberList vlan = [egress.id]
  routerInterfaces : asic.routerInterfaces = Table.empty
  faults : asic.faultInjector.config.Disabled
  full : asic.macTable.capacity ≤ asic.macTable.entries.size
  unknown : ∀ mac, asic.macTable.entries.find? (vlan, mac) = none

theorem overflows_run {ingress egress : VirtualPort} {vlan : VlanId}
    (hids : ingress.id ≠ egress.id) (hup : egress.operational = true)
    (hconfig : egress.vlanConfig = egressConfig vlan) :
    Overflows (run step (create 1 (by decide)) (overflowOperations ingress egress vlan)) ingress
      egress vlan := by
  have hallows : egress.vlanConfig.allows vlan = true := by
    simp [hconfig, egressConfig, VlanPortConfig.allows, VlanPortConfig.allowedVlans]
  obtain ⟨hingress, hegress, hmembers, hinterfaces, hmac, hfaults⟩ :=
    oneMemberPorts_state hids hallows
  rw [overflowOperations, run_concat, step]
  -- what follows needs the programmed state only, not the calls that made it
  generalize run step (create 1 (by decide)) (oneMemberPorts ingress egress vlan) = before
    at hingress hegress hmembers hinterfaces hmac hfaults
  have hsame := sameProgramming_processPacket before egress.id (Example.frameBytes 1 2 []) 0
  have harrival : before.arrival egress.id (Example.frameBytes 1 2 []) =
      .ok (egress, fillerFrame) :=
    arrival_of_disabled (by rw [hfaults]; exact disabled_create) hegress hup rfl
      (Nat.zero_le _)
  have hlearned : (before.processPacket egress.id (Example.frameBytes 1 2 []) 0).2.macTable =
      ((create 1 (by decide)).macTable.learn (otherVlan vlan) fillerFrame.source egress.id 0).2 := by
    have hclassify : classifyVlanIngress fillerFrame egress.vlanConfig = .ok (otherVlan vlan) := by
      simp [hconfig, classifyVlanIngress, egressConfig, fillerFrame]
    rw [processPacket_macTable, harrival, ← hmac]
    exact (pipeline_of_classify hclassify egress.id 0).1
  have hfiller := learn_filler vlan egress.id
  exact {
    ingressPort := hsame.port_of_some hingress
    egressPort := hsame.port_of_some hegress
    members := (hsame.memberList vlan).trans hmembers
    routerInterfaces := hsame.routerInterfaces.trans hinterfaces
    faults := by
      rw [hsame.faultConfig, hfaults]
      exact disabled_create
    full := by
      rw [hlearned]
      exact hfiller.1
    unknown := by
      rw [hlearned]
      exact hfiller.2 }

/-- Such a device floods a frame of the VLAN whose source may be learned. -/
theorem Overflows.verdict {asic : SoftwareAsic} {ingress egress port : VirtualPort}
    {vlan : VlanId} (h : Overflows asic ingress egress vlan) (hids : ingress.id ≠ egress.id)
    {received : EthernetFrame} {bytes : List UInt8}
    (harrival : asic.arrival ingress.id bytes = .ok (port, received))
    (hclassify : classifyVlanIngress received port.vlanConfig = .ok vlan)
    (hlearnable : received.source.isNonzeroUnicast = true) (now : TimePoint) :
    asic.verdict ingress.id bytes now =
      .egress .flooded [egress.id] received.serialize := by
  have hfull : (asic.macTable.learn vlan received.source ingress.id now).1 = .tableFull :=
    MacTable.learn_fst_eq_tableFull.mpr ⟨hlearnable, h.unknown _, h.full⟩
  -- with no room to learn the source, the table still knows no host of the VLAN
  have hunknown : ∀ mac, (asic.macTable.learn vlan received.source ingress.id now).2.lookup vlan
      mac = none := by
    intro mac
    rw [MacTable.lookup]
    by_cases hkey : (vlan, mac) = (vlan, received.source)
    · rw [hkey, MacTable.find?_learn_self (by simp [h.unknown]), hfull]
      exact h.unknown _
    · rw [MacTable.find?_learn_of_ne hkey]
      exact h.unknown mac
  have hflood : ∀ action, flood action ingress.id [egress.id] = .forward action [egress.id] := by
    intro action
    simp [flood, floodPorts, hids.symm]
  -- so every kind of destination is flooded
  have hdecide : ∃ action, action ≠ .knownUnicast ∧
      decideL2Forwarding received vlan ingress.id [egress.id]
        (asic.macTable.learn vlan received.source ingress.id now).2 =
          .forward action [egress.id] := by
    rw [decideL2Forwarding]
    split
    · exact ⟨_, by simp, hflood _⟩
    · split
      · exact ⟨_, by simp, hflood _⟩
      · rw [hunknown]
        exact ⟨_, by simp, hflood _⟩
  obtain ⟨action, haction, hforward⟩ := hdecide
  have hdecision : (asic.pipeline ingress.id port received now).1 = .flood vlan [egress.id] := by
    obtain ⟨_, hcases⟩ := @pipeline_of_classify asic port received vlan hclassify ingress.id now
    rw [hfull] at hcases
    simp only [reduceCtorEq, false_and, false_or, ne_eq, not_false_eq_true, true_and] at hcases
    rw [hcases, h.members, h.routerInterfaces, decideLearned, Table.find?_empty,
      if_neg (by simp), bridge, hforward]
    cases action with
    | knownUnicast => exact absurd rfl haction
    | unknownUnicastFlood | broadcastFlood | multicastFlood => rfl
  rw [SoftwareAsic.verdict, harrival]
  simp only [hdecision, decisionVerdict]

/-- A flooded copy that exceeds the egress MTU is a size error of its port. -/
theorem not_accepted_of_overflows {asic : SoftwareAsic} (hprogrammed : Programmed asic)
    {ingress egress : VirtualPort} {frame : LinkFrame} {received : EthernetFrame}
    (h : Overflows asic ingress egress (frameVlan frame.vlanTag)) (hids : ingress.id ≠ egress.id)
    (hingress : ingress.operational = true ∧ frame.payload.length ≤ ingress.mtu ∧
      ingress.vlanConfig = ingressConfig frame.vlanTag)
    (hegress : egress.operational = true) (hlarge : egress.mtu < frame.bytes.length)
    (hlearnable : frame.source.isNonzeroUnicast = true)
    (hparse : EthernetFrame.parse frame.bytes = some received) (now : TimePoint) :
    ¬ SizeAccepted asic ingress.id egress.id frame now := by
  obtain ⟨port, hport, hconfig⟩ := h.ingressPort
  obtain ⟨target, htarget, htargetConfig⟩ := h.egressPort
  obtain ⟨hsource, hpayload, htag, _⟩ := LinkFrame.of_parse_bytes hparse
  have harrival : asic.arrival ingress.id frame.bytes = .ok (port, received) := by
    refine arrival_of_disabled h.faults hport (hconfig.operational.trans hingress.1) hparse ?_
    rw [hpayload, hconfig.mtu]
    exact hingress.2.1
  have hclassify : classifyVlanIngress received port.vlanConfig = .ok (frameVlan frame.vlanTag) := by
    rw [hconfig.vlanConfig, hingress.2.2]
    exact classify_ingressConfig htag
  have hverdict := h.verdict hids harrival hclassify (by rw [hsource]; exact hlearnable) now
  have hlength : received.serialize.length = frame.bytes.length := by
    rw [EthernetFrame.length_serialize, hpayload, htag, frame.length_bytes]
  -- the copy finds its port up and its queue there, and exceeds the MTU
  have hfate : copyFate asic asic.faultInjector.advance received.serialize egress.id =
      .oversized := by
    cases hqueue : asic.queues.find? egress.id with
    | none =>
      rw [(hprogrammed.queue_iff _).mp hqueue] at htarget
      simp at htarget
    | some queue =>
      have hpasses := FaultInjector.process_of_disabled
        (show asic.faultInjector.advance.config.Disabled from h.faults) egress.id
        received.serialize
      rw [copyFate, htarget, hqueue]
      simp [htargetConfig.operational, hegress, htargetConfig.mtu,
        hpasses, hlength, hlarge]
  have hcopied := ((processPacket_tables hverdict).1 egress.id .oversized
    (by rw [copies, hfate]; exact List.mem_cons_self ..)).1
  have hleft : (asic.receivedPorts ingress.id frame.bytes).find? egress.id = some target := by
    rw [receivedPorts]
    split
    · exact htarget
    · rw [Table.find?_set_of_ne hids.symm]
      exact htarget
  intro haccepted
  have htransmitted := haccepted.transmitted
  rw [hcopied, hleft, htarget] at htransmitted
  have hmtu : received.serialize.length > target.mtu := by
    rw [hlength, htargetConfig.mtu]
    exact hlarge
  simp [CopyFate.onPort, VirtualPort.transmit, htargetConfig.operational, hegress, hmtu,
    VirtualPort.withCounters] at htransmitted

/-- **The size checks agree on a frame exactly if the parser's limit admits its
payload and, unless its source keeps it from being forwarded, the egress MTU
admits its header as well.** -/
theorem sizesAgree_iff (frame : LinkFrame) {ingressMtu egressMtu : Nat}
    (hingressMtu : VirtualPort.minimumMtu ≤ ingressMtu ∧ ingressMtu ≤ VirtualPort.maximumMtu)
    (hegressMtu : VirtualPort.minimumMtu ≤ egressMtu ∧ egressMtu ≤ VirtualPort.maximumMtu)
    (hingress : frame.payload.length ≤ ingressMtu) :
    SizesAgree frame ingressMtu egressMtu ↔
      frame.payload.length ≤ EthernetFrame.maximumPayloadSize ∧
        (frame.source.isNonzeroUnicast = true →
          EthernetFrame.headerLength frame.vlanTag + frame.payload.length ≤ egressMtu) := by
  constructor
  · intro hagree
    let vlan := frameVlan frame.vlanTag
    let ingress := sizedPort Example.firstPort ingressMtu hingressMtu (ingressConfig frame.vlanTag)
    let egress := sizedPort Example.secondPort egressMtu hegressMtu (egressConfig vlan)
    have hids : ingress.id ≠ egress.id := by
      show Example.firstPort ≠ Example.secondPort
      decide
    have hoverflows : Overflows _ ingress egress vlan := overflows_run hids rfl rfl
    have hreachable : (run step (create 1 (by decide))
        (overflowOperations ingress egress vlan)).Reachable := ⟨1, by decide, _, rfl⟩
    generalize run step (create 1 (by decide)) (overflowOperations ingress egress vlan) = asic
      at hoverflows hreachable
    obtain ⟨port, hport, hconfig⟩ := hoverflows.ingressPort
    obtain ⟨target, htarget, htargetConfig⟩ := hoverflows.egressPort
    have haccepted : SizeAccepted asic ingress.id egress.id frame 0 :=
      hagree asic hreachable _ _ port target 0 hport hconfig.operational hconfig.mtu htarget
        htargetConfig.operational htargetConfig.mtu
    have hparsed := haccepted.parsed _ (FaultInjector.process_of_disabled hoverflows.faults _ _)
    obtain ⟨received, hparse⟩ := Option.ne_none_iff_exists'.mp hparsed
    constructor
    · obtain ⟨_, _, _, hfits⟩ := LinkFrame.of_parse_bytes hparse
      exact hfits
    · intro hlearnable
      rw [← frame.length_bytes]
      by_contra hlarge
      exact not_accepted_of_overflows hreachable.programmed hoverflows hids
        ⟨rfl, hingress, rfl⟩ rfl (Nat.lt_of_not_le hlarge) hlearnable hparse 0 haccepted
  · rintro ⟨hparser, hegress⟩
    rw [← frame.length_bytes] at hegress
    exact sizesAgree_of_fits hingress hparser hegress

open Example in
/-- An untagged frame between two hosts. -/
def hostFrame (payload : List UInt8) : LinkFrame :=
  ⟨hostMac 2, hostMac 1, ⟨0x88B5⟩, payload, none, by decide⟩

theorem sizesAgree_small : SizesAgree (hostFrame [1, 2, 3]) 1500 1500 :=
  (sizesAgree_iff (hostFrame [1, 2, 3]) (by decide) (by decide) (by decide)).mpr
    ⟨by decide, fun _ => by decide⟩

theorem smallMtu_bounds : VirtualPort.minimumMtu ≤ 64 ∧ 64 ≤ VirtualPort.maximumMtu := by decide

open Example in
/-- Two member ports of the smallest MTU. -/
def smallPorts : List Operation :=
  [.createPort (sizedPort firstPort 64 smallMtu_bounds (.access vlan)) 4,
   .createPort (sizedPort secondPort 64 smallMtu_bounds (.access vlan)) 4, .createVlan vlan,
   .addVlanMember vlan firstPort, .addVlanMember vlan secondPort]

open Example in
/-- A payload of exactly the MTU of both ports is received by one and discarded
for its size by the other, which measures the header as well. -/
theorem egress_measures_header :
    (device smallPorts).Reachable ∧
      ¬ SizeAccepted (device smallPorts) firstPort secondPort
        (hostFrame (List.replicate 64 0)) 0 ∧
      ((device smallPorts).processPacket firstPort
        (hostFrame (List.replicate 64 0)).bytes 0).1 = dropped .queueCongestion 0 := by
  refine ⟨reachable_device smallPorts, fun haccepted => ?_, by decide +kernel⟩
  exact absurd haccepted.transmitted (by decide +kernel)

end SiliconSwitch.Asic.SoftwareAsic
