import SiliconSwitch.Switching.MacTable
import SiliconSwitch.Switching.Port

/-!
# The ingress pipeline

VLAN classification, source learning, router-interface ownership and the
Layer 2 decision: `classify_vlan_ingress`, `decide_l2_forwarding` and
`process_l2_l3_ingress`.

A decision class of the source, with its action and optional reason, is an
inductive type with one constructor per action, so a dropped decision always
has its reason and a forwarded one its ports.
-/

namespace SiliconSwitch.Switching

open SiliconSwitch.Library SiliconSwitch.Network SiliconSwitch.Routing

-- ---------------------------------------------------------------------------
-- VLAN classification
-- ---------------------------------------------------------------------------

inductive VlanIngressDropReason
  | taggedFrameOnAccessPort
  | untaggedFrameWithoutNativeVlan
  | vlanNotAllowed
deriving DecidableEq

/-- `classify_vlan_ingress`. -/
def classifyVlanIngress (frame : EthernetFrame) (portConfig : VlanPortConfig) :
    Except VlanIngressDropReason VlanId :=
  match portConfig with
  | .access vlan =>
    if frame.vlanTag.isSome then .error .taggedFrameOnAccessPort else .ok vlan
  | .trunk _ native _ _ =>
    match frame.vlanTag with
    | none =>
      match native with
      | none => .error .untaggedFrameWithoutNativeVlan
      | some vlan => .ok vlan
    | some tag =>
      if portConfig.allows tag.vlanId then .ok tag.vlanId else .error .vlanNotAllowed

/-- A frame is only classified into a VLAN that the port allows. -/
theorem allows_of_classifyVlanIngress {frame : EthernetFrame} {config : VlanPortConfig}
    {vlan : VlanId} (h : classifyVlanIngress frame config = .ok vlan) :
    config.allows vlan = true := by
  cases config with
  | access accessVlan =>
    rw [classifyVlanIngress] at h
    split at h
    · simp at h
    · rw [Except.ok.injEq] at h
      simp [VlanPortConfig.allows, VlanPortConfig.allowedVlans, h]
  | trunk allowed native hnonempty hnative =>
    cases htag : frame.vlanTag with
    | none =>
      simp only [classifyVlanIngress, htag] at h
      cases native with
      | none => simp at h
      | some nativeVlan =>
        rw [Except.ok.injEq] at h
        simpa [VlanPortConfig.allows, VlanPortConfig.allowedVlans, ← h] using hnative nativeVlan rfl
    | some tag =>
      simp only [classifyVlanIngress, htag] at h
      split at h
      · rename_i hallowed
        rw [Except.ok.injEq] at h
        rw [← h]
        exact hallowed
      · simp at h

-- ---------------------------------------------------------------------------
-- Layer 2 forwarding
-- ---------------------------------------------------------------------------

inductive L2ForwardingAction
  | knownUnicast
  | unknownUnicastFlood
  | broadcastFlood
  | multicastFlood
deriving DecidableEq

inductive L2ForwardingDropReason
  | sameIngressPort
  | destinationNotInVlan
  | noEligibleEgressPort
deriving DecidableEq

inductive L2ForwardingDecision
  | forward (action : L2ForwardingAction) (outputPorts : List PortId)
  | drop (reason : L2ForwardingDropReason)
deriving DecidableEq

/-- The loop of `flood`: every VLAN port but the ingress port, once. -/
def floodPorts (ingressPort : PortId) (vlanPorts : List PortId) : List PortId :=
  vlanPorts.foldl
    (fun outputs port =>
      if port ≠ ingressPort ∧ port ∉ outputs then outputs ++ [port] else outputs) []

def flood (action : L2ForwardingAction) (ingressPort : PortId) (vlanPorts : List PortId) :
    L2ForwardingDecision :=
  let outputs := floodPorts ingressPort vlanPorts
  if outputs.isEmpty then .drop .noEligibleEgressPort else .forward action outputs

/-- `decide_l2_forwarding`. -/
def decideL2Forwarding (frame : EthernetFrame) (vlan : VlanId) (ingressPort : PortId)
    (vlanPorts : List PortId) (macTable : MacTable) : L2ForwardingDecision :=
  if frame.destination.isBroadcast then flood .broadcastFlood ingressPort vlanPorts
  else if frame.destination.isMulticast then flood .multicastFlood ingressPort vlanPorts
  else
    match macTable.lookup vlan frame.destination with
    | none => flood .unknownUnicastFlood ingressPort vlanPorts
    | some destination =>
      if destination.port = ingressPort then .drop .sameIngressPort
      else if destination.port ∉ vlanPorts then .drop .destinationNotInVlan
      else .forward .knownUnicast [destination.port]

/-- Flooding reaches exactly the VLAN ports other than the ingress port, each once. -/
theorem floodPorts_spec (ingressPort : PortId) (vlanPorts : List PortId) :
    (floodPorts ingressPort vlanPorts).Nodup ∧
      ∀ port, port ∈ floodPorts ingressPort vlanPorts ↔
        port ∈ vlanPorts ∧ port ≠ ingressPort := by
  -- `outputs` is what the loop has collected from the ports before `rest`
  have hloop : ∀ (rest outputs : List PortId), outputs.Nodup →
      (rest.foldl (fun outputs port =>
        if port ≠ ingressPort ∧ port ∉ outputs then outputs ++ [port] else outputs) outputs).Nodup ∧
      ∀ port, port ∈ rest.foldl (fun outputs port =>
        if port ≠ ingressPort ∧ port ∉ outputs then outputs ++ [port] else outputs) outputs ↔
          port ∈ outputs ∨ (port ∈ rest ∧ port ≠ ingressPort) := by
    intro rest
    induction rest with
    | nil => simp
    | cons head rest ih =>
      intro outputs hnodup
      -- the port is taken, or skipped as the ingress port or as a repetition
      rw [List.foldl_cons]
      by_cases hnew : head ≠ ingressPort ∧ head ∉ outputs
      · rw [if_pos hnew]
        have hnext := ih (outputs ++ [head])
          (List.Nodup.append hnodup (List.nodup_singleton _) (by simpa using hnew.2))
        refine ⟨hnext.1, fun port => ?_⟩
        rw [hnext.2, List.mem_append, List.mem_singleton, List.mem_cons]
        constructor
        · rintro ((hold | rfl) | ⟨hrest, hne⟩)
          · exact Or.inl hold
          · exact Or.inr ⟨Or.inl rfl, hnew.1⟩
          · exact Or.inr ⟨Or.inr hrest, hne⟩
        · rintro (hold | ⟨rfl | hrest, hne⟩)
          · exact Or.inl (Or.inl hold)
          · exact Or.inl (Or.inr rfl)
          · exact Or.inr ⟨hrest, hne⟩
      · rw [if_neg hnew]
        have hnext := ih outputs hnodup
        refine ⟨hnext.1, fun port => ?_⟩
        rw [hnext.2, List.mem_cons]
        constructor
        · exact fun h => h.imp_right fun ⟨hrest, hne⟩ => ⟨Or.inr hrest, hne⟩
        · rintro (hold | ⟨rfl | hrest, hne⟩)
          · exact Or.inl hold
          · by_contra habsent
            exact hnew ⟨hne, fun hmem => habsent (Or.inl hmem)⟩
          · exact Or.inr ⟨hrest, hne⟩
  have h := hloop vlanPorts [] List.nodup_nil
  exact ⟨h.1, fun port => by rw [floodPorts, h.2]; simp⟩

/-- Every forwarded copy goes to a VLAN port other than the ingress port. -/
theorem decideL2Forwarding_forward {frame : EthernetFrame} {vlan : VlanId} {ingressPort : PortId}
    {vlanPorts : List PortId} {macTable : MacTable} {action : L2ForwardingAction}
    {outputPorts : List PortId}
    (h : decideL2Forwarding frame vlan ingressPort vlanPorts macTable =
      .forward action outputPorts) :
    outputPorts ≠ [] ∧ outputPorts.Nodup ∧
      (∀ port ∈ outputPorts, port ∈ vlanPorts ∧ port ≠ ingressPort) ∧
      (action ≠ .knownUnicast →
        ∀ port ∈ vlanPorts, port ≠ ingressPort → port ∈ outputPorts) := by
  have hflood : ∀ floodAction : L2ForwardingAction,
      flood floodAction ingressPort vlanPorts = .forward action outputPorts →
      outputPorts ≠ [] ∧ outputPorts.Nodup ∧
        (∀ port ∈ outputPorts, port ∈ vlanPorts ∧ port ≠ ingressPort) ∧
        (action ≠ .knownUnicast →
          ∀ port ∈ vlanPorts, port ≠ ingressPort → port ∈ outputPorts) := by
    intro floodAction hforward
    rw [flood] at hforward
    split at hforward
    · simp at hforward
    · rename_i hsome
      rw [L2ForwardingDecision.forward.injEq] at hforward
      obtain ⟨_, rfl⟩ := hforward
      have hspec := floodPorts_spec ingressPort vlanPorts
      refine ⟨by simpa using hsome, hspec.1, fun port hport => (hspec.2 port).mp hport, ?_⟩
      exact fun _ port hmem hne => (hspec.2 port).mpr ⟨hmem, hne⟩
  rw [decideL2Forwarding] at h
  split at h
  · exact hflood _ h
  · split at h
    · exact hflood _ h
    · split at h
      · exact hflood _ h
      · rename_i destination _
        split at h
        · simp at h
        · rename_i hingress
          split at h
          · simp at h
          · rename_i hmember
            rw [L2ForwardingDecision.forward.injEq] at h
            obtain ⟨rfl, rfl⟩ := h
            refine ⟨by simp, List.nodup_singleton _, ?_, fun hne => absurd rfl hne⟩
            intro port hport
            rw [List.mem_singleton] at hport
            rw [hport]
            exact ⟨not_not.mp hmember, hingress⟩

-- ---------------------------------------------------------------------------
-- The combined pipeline
-- ---------------------------------------------------------------------------

inductive PipelineDropReason
  | taggedFrameOnAccessPort
  | untaggedFrameWithoutNativeVlan
  | vlanNotAllowed
  | invalidSourceMac
  | staticMacConflict
  | sameIngressPort
  | destinationNotInVlan
  | noEligibleEgressPort
  | unsupportedRouterProtocol
deriving DecidableEq

inductive PipelineDecision
  | switchKnownUnicast (vlan : VlanId) (outputPorts : List PortId)
  | flood (vlan : VlanId) (outputPorts : List PortId)
  | routeIpv4 (vlan : VlanId)
  | deliverToControlPlane (vlan : VlanId)
  | drop (vlan : Option VlanId) (reason : PipelineDropReason)
deriving DecidableEq

def mapVlanDrop : VlanIngressDropReason → PipelineDropReason
  | .taggedFrameOnAccessPort => .taggedFrameOnAccessPort
  | .untaggedFrameWithoutNativeVlan => .untaggedFrameWithoutNativeVlan
  | .vlanNotAllowed => .vlanNotAllowed

def mapL2Drop : L2ForwardingDropReason → PipelineDropReason
  | .sameIngressPort => .sameIngressPort
  | .destinationNotInVlan => .destinationNotInVlan
  | .noEligibleEgressPort => .noEligibleEgressPort

abbrev RouterInterfaces : Type := Table VlanId MacAddress

/-- The end of `process_l2_l3_ingress`: a frame that no router interface owns. -/
def bridge (frame : EthernetFrame) (vlan : VlanId) (ingressPort : PortId)
    (vlanPorts : List PortId) (macTable : MacTable) : PipelineDecision :=
  match decideL2Forwarding frame vlan ingressPort vlanPorts macTable with
  | .drop reason => .drop (some vlan) (mapL2Drop reason)
  | .forward .knownUnicast outputPorts => .switchKnownUnicast vlan outputPorts
  | .forward _ outputPorts => .flood vlan outputPorts

/-- A unicast frame for a host without an entry is flooded, or dropped for want of
another member. -/
theorem bridge_unknown {frame : EthernetFrame} {vlan : VlanId} {ingressPort : PortId}
    {vlanPorts : List PortId} {macTable : MacTable}
    (hunicast : frame.destination.isUnicast = true)
    (hunknown : macTable.lookup vlan frame.destination = none) :
    bridge frame vlan ingressPort vlanPorts macTable =
      if (floodPorts ingressPort vlanPorts).isEmpty then .drop (some vlan) .noEligibleEgressPort
      else .flood vlan (floodPorts ingressPort vlanPorts) := by
  have hmulticast : frame.destination.isMulticast = false := by
    simpa [MacAddress.isUnicast] using hunicast
  have hbroadcast : frame.destination.isBroadcast = false :=
    frame.destination.not_isBroadcast_of_isUnicast hunicast
  simp only [bridge, decideL2Forwarding, hbroadcast, hmulticast, hunknown, flood,
    Bool.false_eq_true, if_false]
  split_ifs <;> rfl

/-- A unicast frame for a host with an entry is sent to the entry's port, or
filtered for it. -/
theorem bridge_known {frame : EthernetFrame} {vlan : VlanId} {ingressPort : PortId}
    {vlanPorts : List PortId} {macTable : MacTable} {entry : MacTableEntry}
    (hunicast : frame.destination.isUnicast = true)
    (hknown : macTable.lookup vlan frame.destination = some entry) :
    bridge frame vlan ingressPort vlanPorts macTable =
      if entry.port = ingressPort then .drop (some vlan) .sameIngressPort
      else if entry.port ∉ vlanPorts then .drop (some vlan) .destinationNotInVlan
      else .switchKnownUnicast vlan [entry.port] := by
  have hmulticast : frame.destination.isMulticast = false := by
    simpa [MacAddress.isUnicast] using hunicast
  have hbroadcast : frame.destination.isBroadcast = false :=
    frame.destination.not_isBroadcast_of_isUnicast hunicast
  simp only [bridge, decideL2Forwarding, hbroadcast, hmulticast, hknown,
    Bool.false_eq_true, if_false]
  split_ifs <;> rfl

/-- The decision once the source has been learned without objection. -/
def decideLearned (frame : EthernetFrame) (vlan : VlanId) (ingressPort : PortId)
    (vlanPorts : List PortId) (macTable : MacTable) (routerInterfaces : RouterInterfaces) :
    PipelineDecision :=
  if routerInterfaces.find? vlan = some frame.destination then
    if frame.etherType = EtherType.ipv4 then .routeIpv4 vlan
    else if frame.etherType = EtherType.arp then .deliverToControlPlane vlan
    else .drop (some vlan) .unsupportedRouterProtocol
  else bridge frame vlan ingressPort vlanPorts macTable

/-- `process_l2_l3_ingress`, returning the decision and the MAC table after learning. -/
def processL2L3Ingress (frame : EthernetFrame) (ingressPort : PortId) (portConfig : VlanPortConfig)
    (vlanPorts : List PortId) (macTable : MacTable) (routerInterfaces : RouterInterfaces)
    (now : TimePoint) : PipelineDecision × MacTable :=
  match classifyVlanIngress frame portConfig with
  | .error reason => (.drop none (mapVlanDrop reason), macTable)
  | .ok vlan =>
    match macTable.learn vlan frame.source ingressPort now with
    | (.rejected, macTable) => (.drop (some vlan) .invalidSourceMac, macTable)
    | (.staticConflict, macTable) => (.drop (some vlan) .staticMacConflict, macTable)
    | (_, macTable) =>
      (decideLearned frame vlan ingressPort vlanPorts macTable routerInterfaces, macTable)

-- ---------------------------------------------------------------------------
-- What the pipeline can do
-- ---------------------------------------------------------------------------

/-- The stages of the pipeline: an unclassified frame is dropped before learning;
a classified one is learned, and then dropped for its source or decided on. -/
theorem processL2L3Ingress_cases (frame : EthernetFrame) (ingressPort : PortId)
    (portConfig : VlanPortConfig) (vlanPorts : List PortId) (macTable : MacTable)
    (routerInterfaces : RouterInterfaces) (now : TimePoint) :
    (∃ reason, classifyVlanIngress frame portConfig = .error reason ∧
      processL2L3Ingress frame ingressPort portConfig vlanPorts macTable routerInterfaces now =
        (.drop none (mapVlanDrop reason), macTable)) ∨
    ∃ vlan, classifyVlanIngress frame portConfig = .ok vlan ∧
      (processL2L3Ingress frame ingressPort portConfig vlanPorts macTable routerInterfaces
        now).2 = (macTable.learn vlan frame.source ingressPort now).2 ∧
      (((macTable.learn vlan frame.source ingressPort now).1 = .rejected ∧
          (processL2L3Ingress frame ingressPort portConfig vlanPorts macTable routerInterfaces
            now).1 = .drop (some vlan) .invalidSourceMac) ∨
        ((macTable.learn vlan frame.source ingressPort now).1 = .staticConflict ∧
          (processL2L3Ingress frame ingressPort portConfig vlanPorts macTable routerInterfaces
            now).1 = .drop (some vlan) .staticMacConflict) ∨
        ((macTable.learn vlan frame.source ingressPort now).1 ≠ .rejected ∧
          (macTable.learn vlan frame.source ingressPort now).1 ≠ .staticConflict ∧
          (processL2L3Ingress frame ingressPort portConfig vlanPorts macTable routerInterfaces
            now).1 = decideLearned frame vlan ingressPort vlanPorts
              (macTable.learn vlan frame.source ingressPort now).2 routerInterfaces)) := by
  rw [processL2L3Ingress]
  cases classifyVlanIngress frame portConfig with
  | error reason => exact Or.inl ⟨reason, rfl, rfl⟩
  | ok vlan =>
    refine Or.inr ⟨vlan, rfl, ?_⟩
    dsimp only
    obtain ⟨update, learned⟩ := macTable.learn vlan frame.source ingressPort now
    cases update with
    | rejected => exact ⟨rfl, Or.inl ⟨rfl, rfl⟩⟩
    | staticConflict => exact ⟨rfl, Or.inr (Or.inl ⟨rfl, rfl⟩)⟩
    | inserted | refreshed | moved | tableFull =>
      exact ⟨rfl, Or.inr (Or.inr ⟨by simp, by simp, rfl⟩)⟩

/-- What is decided on a learned frame concerns its own VLAN. -/
theorem decideLearned_vlan (frame : EthernetFrame) (vlan : VlanId) (ingressPort : PortId)
    (vlanPorts : List PortId) (macTable : MacTable) (routerInterfaces : RouterInterfaces) :
    (∃ reason, decideLearned frame vlan ingressPort vlanPorts macTable routerInterfaces =
      .drop (some vlan) reason) ∨
    ((routerInterfaces.find? vlan).isSome = true ∧
      (decideLearned frame vlan ingressPort vlanPorts macTable routerInterfaces =
          .routeIpv4 vlan ∨
        decideLearned frame vlan ingressPort vlanPorts macTable routerInterfaces =
          .deliverToControlPlane vlan)) ∨
    ∃ action outputPorts,
      decideL2Forwarding frame vlan ingressPort vlanPorts macTable =
        .forward action outputPorts ∧
      decideLearned frame vlan ingressPort vlanPorts macTable routerInterfaces =
        if action = .knownUnicast then .switchKnownUnicast vlan outputPorts
        else .flood vlan outputPorts := by
  rw [decideLearned]
  split
  · rename_i hrouter
    have hsome : (routerInterfaces.find? vlan).isSome = true := by rw [hrouter]; rfl
    split
    · exact Or.inr (Or.inl ⟨hsome, Or.inl rfl⟩)
    · split
      · exact Or.inr (Or.inl ⟨hsome, Or.inr rfl⟩)
      · exact Or.inl ⟨_, rfl⟩
  · rw [bridge]
    cases decideL2Forwarding frame vlan ingressPort vlanPorts macTable with
    | drop reason => exact Or.inl ⟨_, rfl⟩
    | forward action outputPorts =>
      refine Or.inr (Or.inr ⟨action, outputPorts, rfl, ?_⟩)
      cases action <;> rfl

/-- **A bridged frame** was classified into the VLAN it is bridged in, and its
copies go to distinct ports of that VLAN other than the ingress port; a flooded
one goes to all of them. -/
theorem processL2L3Ingress_bridged {frame : EthernetFrame} {ingressPort : PortId}
    {portConfig : VlanPortConfig} {vlanPorts : List PortId} {macTable : MacTable}
    {routerInterfaces : RouterInterfaces} {now : TimePoint} {vlan : VlanId}
    {outputPorts : List PortId}
    (h : (processL2L3Ingress frame ingressPort portConfig vlanPorts macTable routerInterfaces
        now).1 = .flood vlan outputPorts ∨
      (processL2L3Ingress frame ingressPort portConfig vlanPorts macTable routerInterfaces
        now).1 = .switchKnownUnicast vlan outputPorts) :
    classifyVlanIngress frame portConfig = .ok vlan ∧ outputPorts ≠ [] ∧ outputPorts.Nodup ∧
      (∀ port ∈ outputPorts, port ∈ vlanPorts ∧ port ≠ ingressPort) ∧
      ((processL2L3Ingress frame ingressPort portConfig vlanPorts macTable routerInterfaces
          now).1 = .flood vlan outputPorts →
        ∀ port ∈ vlanPorts, port ≠ ingressPort → port ∈ outputPorts) := by
  rcases processL2L3Ingress_cases frame ingressPort portConfig vlanPorts macTable
    routerInterfaces now with ⟨reason, _, hdrop⟩ | ⟨classified, hclassify, _, hdecision⟩
  · rw [hdrop] at h
    simp at h
  · rcases hdecision with ⟨_, hdrop⟩ | ⟨_, hdrop⟩ | ⟨_, _, hdecide⟩
    · rw [hdrop] at h
      simp at h
    · rw [hdrop] at h
      simp at h
    · rw [hdecide] at h ⊢
      rcases decideLearned_vlan frame classified ingressPort vlanPorts
        (macTable.learn classified frame.source ingressPort now).2 routerInterfaces with
        ⟨reason, hdrop⟩ | ⟨_, hroute | hcontrol⟩ | ⟨action, outputs, hforward, hbridge⟩
      · rw [hdrop] at h
        simp at h
      · rw [hroute] at h
        simp at h
      · rw [hcontrol] at h
        simp at h
      · have hports := decideL2Forwarding_forward hforward
        rw [hbridge] at h ⊢
        by_cases haction : action = .knownUnicast
        · rw [if_pos haction] at h ⊢
          simp only [reduceCtorEq, PipelineDecision.switchKnownUnicast.injEq, false_or] at h
          obtain ⟨rfl, rfl⟩ := h
          exact ⟨hclassify, hports.1, hports.2.1, hports.2.2.1, by simp⟩
        · rw [if_neg haction] at h ⊢
          simp only [reduceCtorEq, PipelineDecision.flood.injEq, or_false] at h
          obtain ⟨rfl, rfl⟩ := h
          exact ⟨hclassify, hports.1, hports.2.1, hports.2.2.1, fun _ => hports.2.2.2 haction⟩

end SiliconSwitch.Switching
