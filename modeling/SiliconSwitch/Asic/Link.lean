import SiliconSwitch.Asic.VlanIsolation

/-!
# Across a link

A bridged frame leaves a port as it came in: `process_packet` queues the octets of
the parsed frame, and nothing on the path adds, removes or rewrites a VLAN tag. The
port at the other end, configured like the egress port, classifies it anew.

* `queued_of_bridged` — what a bridged frame adds to the queue of an output port;
* `bridged_reemission` — octet for octet what came in, unless it was corrupted;
* `classify_across` — the classification at the other end, in all cases;
* `vlan_across_link` — when it gives the VLAN that the frame was bridged in;
* `native_vlan_mismatch` — a frame that an access port sends into another VLAN.
-/

namespace SiliconSwitch.Asic.SoftwareAsic

open SiliconSwitch.Library SiliconSwitch.Network SiliconSwitch.Routing SiliconSwitch.Switching

-- ---------------------------------------------------------------------------
-- What is queued
-- ---------------------------------------------------------------------------

/-- Without faults, a copy is enqueued exactly if its port is up, and its MTU and queue
admit the frame. -/
theorem copyFate_enqueued_iff {asic : SoftwareAsic} {injector : FaultInjector}
    {frame : List UInt8} {id : PortId} (hdisabled : injector.config.Disabled)
    {bytes : List UInt8} :
    copyFate asic injector frame id = .enqueued bytes ↔
      bytes = frame ∧ ∃ port queue, asic.ports.find? id = some port ∧
        port.operational = true ∧ asic.queues.find? id = some queue ∧
        frame.length ≤ port.mtu ∧ queue.admits = true := by
  rw [copyFate_eq_enqueued, FaultInjector.process_of_disabled hdisabled]
  constructor
  · rintro ⟨port, queue, packet, hport, hup, hqueue, hinject, rfl, hmtu, hroom⟩
    rw [Except.ok.injEq] at hinject
    subst hinject
    exact ⟨rfl, port, queue, hport, hup, hqueue, hmtu, hroom⟩
  · rintro ⟨rfl, port, queue, hport, hup, hqueue, hmtu, hroom⟩
    exact ⟨port, queue, _, hport, hup, hqueue, rfl, rfl, hmtu, hroom⟩

/-- Without faults an accepted copy is the frame itself, and its queue admitted it. -/
theorem enqueued_of_disabled {asic : SoftwareAsic} {injector : FaultInjector}
    {frame : List UInt8} {requested : List PortId} {id : PortId} {copied : List UInt8}
    (hdisabled : injector.config.Disabled)
    (hcopy : (id, CopyFate.enqueued copied) ∈ copies asic injector frame requested) :
    copied = frame ∧ ∃ port queue, asic.ports.find? id = some port ∧
      port.operational = true ∧ asic.queues.find? id = some queue ∧
      frame.length ≤ port.mtu ∧ queue.admits = true := by
  obtain ⟨current, hconfig, hfate⟩ := mem_copies hcopy
  exact (copyFate_enqueued_iff (by rw [hconfig]; exact hdisabled)).mp hfate.symm

/-- **What a bridged frame adds to the queue of an output port**: its octets as they
came in. -/
theorem queued_of_bridged {asic : SoftwareAsic} (h : Programmed asic)
    (hdisabled : asic.faultInjector.config.Disabled) {ingressPort : PortId} {bytes : List UInt8}
    {now : TimePoint} {port : VirtualPort} {frame : EthernetFrame} {vlan : VlanId}
    {outputPorts : List PortId} (harrival : asic.arrival ingressPort bytes = .ok (port, frame))
    (hbridges : Bridges (asic.pipeline ingressPort port frame now).1 vlan outputPorts)
    {id : PortId} (hid : id ∈ (asic.processPacket ingressPort bytes now).1.outputPorts) :
    ∃ egress queue after, asic.ports.find? id = some egress ∧
      egress.vlanConfig.allows vlan = true ∧ asic.queues.find? id = some queue ∧
      (asic.processPacket ingressPort bytes now).2.queues.find? id = some after ∧
      after.queue = queue.queue ++ [frame.serialize] := by
  obtain ⟨disposition, hverdict⟩ := verdict_of_bridges harrival hbridges
  rw [processPacket_outputPorts hverdict, mem_accepted] at hid
  obtain ⟨copied, hcopy⟩ := hid
  obtain ⟨rfl, _, queue, _, _, hqueue, _, hroom⟩ :=
    enqueued_of_disabled (by rw [FaultInjector.advance_config]; exact hdisabled) hcopy
  obtain ⟨_, _, _, _, hmembers⟩ := bridges_members h hbridges
  obtain ⟨_, _, egress, hegress, hallows⟩ := hmembers id (requested_of_mem_copies hcopy)
  have hafter := ((processPacket_tables hverdict).1 id _ hcopy).2
  rw [hqueue, Option.map_some] at hafter
  exact ⟨egress, queue, _, hegress, hallows, hqueue, hafter, onQueue_enqueued hroom _⟩

/-- **A bridged frame is re-emitted unchanged.** Decoding and encoding again gives back every
byte string that is accepted. So what a bridged frame adds to the queue of each output port
is what the fault injector makes of the octets that came in, and these octets themselves if
it corrupts neither the packet nor the copy, as it never does when it is disabled. -/
theorem bridged_reemission :
    (∀ (bytes : List UInt8) (frame : EthernetFrame), EthernetFrame.parse bytes = some frame →
      frame.serialize = bytes) ∧
    ∀ (asic : SoftwareAsic) (ingressPort : PortId) (bytes : List UInt8) (now : TimePoint),
      (asic.processPacket ingressPort bytes now).1.disposition = .switched ∨
        (asic.processPacket ingressPort bytes now).1.disposition = .flooded →
      ∃ injected, (asic.faultInjector.process ingressPort bytes).1 = .ok injected ∧
        ∀ id ∈ (asic.processPacket ingressPort bytes now).1.outputPorts,
          ∃ queue after current copied, asic.queues.find? id = some queue ∧
            (asic.processPacket ingressPort bytes now).2.queues.find? id = some after ∧
            after.queue = queue.queue ++ [copied.bytes] ∧
            current.config = asic.faultInjector.config ∧
            (FaultInjector.process current id injected.bytes).1 = .ok copied ∧
            (injected.corrupted = false → copied.corrupted = false → copied.bytes = bytes) ∧
            (asic.faultInjector.config.Disabled → copied.bytes = bytes) := by
  refine ⟨fun _ _ => EthernetFrame.serialize_of_parse, ?_⟩
  intro asic ingressPort bytes now hdisposition
  obtain ⟨port, frame, vlan, requested, harrival, hbridges, hverdict⟩ :=
    bridges_of_disposition hdisposition
  obtain ⟨_, _, ⟨injected, hinjected, hparse⟩, _⟩ := arrival_ok harrival
  have hoctets : frame.serialize = injected.bytes := EthernetFrame.serialize_of_parse hparse
  rw [hoctets] at hverdict
  refine ⟨injected, hinjected, ?_⟩
  intro id hid
  rw [processPacket_outputPorts hverdict, mem_accepted] at hid
  obtain ⟨sent, hcopy⟩ := hid
  obtain ⟨current, hconfig, hfate⟩ := mem_copies hcopy
  rw [FaultInjector.advance_config] at hconfig
  obtain ⟨_, queue, copied, _, _, hqueue, hcopied, rfl, _, hroom⟩ :=
    copyFate_eq_enqueued.mp hfate.symm
  have hafter := ((processPacket_tables hverdict).1 id _ hcopy).2
  rw [hqueue, Option.map_some] at hafter
  refine ⟨queue, _, current, copied, hqueue, hafter, onQueue_enqueued hroom _, hconfig, hcopied,
    ?_, ?_⟩
  · intro hingress hegress
    rw [FaultInjector.process_uncorrupted hcopied hegress,
      FaultInjector.process_uncorrupted hinjected hingress]
  · intro hdisabled
    rw [FaultInjector.process_of_disabled hdisabled, Except.ok.injEq] at hinjected
    rw [FaultInjector.process_of_disabled (by rw [hconfig]; exact hdisabled),
      Except.ok.injEq] at hcopied
    rw [← hcopied, ← hinjected]

open Example in
/-- A flooded frame stands in the queue of the other port as it came in. -/
theorem bridged_reemission_twoPorts :
    ∃ queue after,
      (device twoPorts).queues.find? secondPort = some queue ∧
      ((device twoPorts).processPacket firstPort (frameBytes 1 2 []) 0).2.queues.find?
        secondPort = some after ∧
      after.queue = queue.queue ++ [frameBytes 1 2 []] := by
  have hflooded : ((device twoPorts).processPacket firstPort (frameBytes 1 2 []) 0).1.disposition =
      .flooded := by decide +kernel
  obtain ⟨injected, _, hports⟩ := bridged_reemission.2 (device twoPorts) firstPort
    (frameBytes 1 2 []) 0 (Or.inr hflooded)
  obtain ⟨queue, after, _, copied, hqueue, hafter, hqueued, _, _, _, hsame⟩ :=
    hports secondPort (by decide +kernel)
  rw [hsame ⟨rfl, rfl, rfl, rfl⟩] at hqueued
  exact ⟨queue, after, hqueue, hafter, hqueued⟩

/-- The octets that are queued parse back to the frame that arrived. -/
theorem parse_serialize_of_arrival {asic : SoftwareAsic} {ingressPort : PortId}
    {bytes : List UInt8} {port : VirtualPort} {frame : EthernetFrame}
    (harrival : asic.arrival ingressPort bytes = .ok (port, frame)) :
    EthernetFrame.parse frame.serialize = some frame := by
  obtain ⟨_, _, ⟨_, _, hparse⟩, _⟩ := arrival_ok harrival
  exact EthernetFrame.parse_serialize (EthernetFrame.untagged_of_parse hparse)

-- ---------------------------------------------------------------------------
-- The other end
-- ---------------------------------------------------------------------------

/-- The frames that a port of this configuration sends and receives in the same VLAN:
untagged ones on an access port, tagged ones and those of the native VLAN on a trunk. -/
def keepsVlan (config : VlanPortConfig) (vlan : VlanId) (frame : EthernetFrame) : Bool :=
  match config with
  | .access _ => frame.vlanTag.isNone
  | .trunk _ native _ _ => frame.vlanTag.isSome || native == some vlan

/-- A tagged frame is only classified into the VLAN of its tag. -/
theorem vlanId_of_classify {frame : EthernetFrame} {config : VlanPortConfig} {vlan : VlanId}
    (h : classifyVlanIngress frame config = .ok vlan) {tag : VlanTag}
    (htag : frame.vlanTag = some tag) : tag.vlanId = vlan := by
  cases config with
  | access accessVlan => simp [classifyVlanIngress, htag] at h
  | trunk allowed native hnonempty hnative =>
    simp only [classifyVlanIngress, htag] at h
    split at h
    · exact Except.ok.inj h
    · simp at h

/-- **The classification at the other end** of a frame bridged in `vlan` to a port that
allows it: an access port refuses its tag, a trunk without a native VLAN its want of
one, and a trunk with a native VLAN takes an untagged frame for its own. -/
theorem classify_across {frame : EthernetFrame} {ingress egress : VlanPortConfig} {vlan : VlanId}
    (hclassify : classifyVlanIngress frame ingress = .ok vlan)
    (hallows : egress.allows vlan = true) :
    classifyVlanIngress frame egress =
      if keepsVlan egress vlan frame then .ok vlan
      else
        match egress.nativeVlan with
        | some native => .ok native
        | none =>
          if egress.isAccess then .error .taggedFrameOnAccessPort
          else .error .untaggedFrameWithoutNativeVlan := by
  cases egress with
  | access accessVlan =>
    have hsame : vlan = accessVlan := by
      simpa [VlanPortConfig.allows, VlanPortConfig.allowedVlans] using hallows
    cases htag : frame.vlanTag with
    | none => simp [classifyVlanIngress, keepsVlan, htag, hsame]
    | some tag =>
      simp [classifyVlanIngress, keepsVlan, htag, VlanPortConfig.nativeVlan,
        VlanPortConfig.isAccess]
  | trunk allowed native hnonempty hnative =>
    cases htag : frame.vlanTag with
    | some tag =>
      have hvlan := vlanId_of_classify hclassify htag
      simp [classifyVlanIngress, keepsVlan, htag, hvlan, hallows]
    | none =>
      cases native with
      | none =>
        simp [classifyVlanIngress, keepsVlan, htag, VlanPortConfig.nativeVlan,
          VlanPortConfig.isAccess]
      | some nativeVlan =>
        by_cases hnative : nativeVlan = vlan
        · simp [classifyVlanIngress, keepsVlan, htag, hnative]
        · simp [classifyVlanIngress, keepsVlan, htag, hnative, VlanPortConfig.nativeVlan]

/-- **A frame across a link.** Without faults, the octets that a frame bridged in `vlan`
adds to the queue of an output port parse as the very frame that came in. A port of
the same configuration accepts them into `vlan` exactly if they are untagged on an
access port, or tagged or of the native VLAN on a trunk. -/
theorem vlan_across_link {asic : SoftwareAsic} (h : asic.Reachable)
    (hdisabled : asic.faultInjector.config.Disabled) {ingressPort : PortId} {bytes : List UInt8}
    {now : TimePoint} {port : VirtualPort} {frame : EthernetFrame} {vlan : VlanId}
    {outputPorts : List PortId} (harrival : asic.arrival ingressPort bytes = .ok (port, frame))
    (hbridges : Bridges (asic.pipeline ingressPort port frame now).1 vlan outputPorts)
    {id : PortId} (hid : id ∈ (asic.processPacket ingressPort bytes now).1.outputPorts) :
    ∃ egress queue after queued, asic.ports.find? id = some egress ∧
      asic.queues.find? id = some queue ∧
      (asic.processPacket ingressPort bytes now).2.queues.find? id = some after ∧
      after.queue = queue.queue ++ [queued] ∧ EthernetFrame.parse queued = some frame ∧
      (classifyVlanIngress frame egress.vlanConfig = .ok vlan ↔
        keepsVlan egress.vlanConfig vlan frame = true) := by
  obtain ⟨egress, queue, after, hegress, hallows, hqueue, hafter, hqueued⟩ :=
    queued_of_bridged h.programmed hdisabled harrival hbridges hid
  obtain ⟨hclassify, _⟩ := bridges_members h.programmed hbridges
  refine ⟨egress, queue, after, frame.serialize, hegress, hqueue, hafter, hqueued,
    parse_serialize_of_arrival harrival, ?_⟩
  rw [classify_across hclassify hallows]
  constructor
  · intro hok
    by_contra hleaves
    rw [if_neg hleaves] at hok
    -- a frame that is not kept is refused or changes to another VLAN
    split at hok
    · rename_i native hnative
      rw [Except.ok.injEq] at hok
      subst hok
      cases hconfig : egress.vlanConfig with
      | access accessVlan => simp [hconfig, VlanPortConfig.nativeVlan] at hnative
      | trunk allowed trunkNative _ _ =>
        rw [hconfig, VlanPortConfig.nativeVlan] at hnative
        rw [hconfig, keepsVlan, hnative] at hleaves
        simp at hleaves
    · split at hok <;> simp at hok
  · intro hkeeps
    rw [if_pos hkeeps]

open Example in
/-- A frame that one access port floods to another stays in their VLAN. -/
theorem vlan_across_link_twoPorts :
    ∃ egress, (device twoPorts).ports.find? secondPort = some egress ∧
      (classifyVlanIngress unknownFrame egress.vlanConfig = .ok vlan ↔
        keepsVlan egress.vlanConfig vlan unknownFrame = true) := by
  obtain ⟨egress, _, _, _, hegress, _, _, _, _, hkeeps⟩ :=
    @vlan_across_link (device twoPorts) (reachable_device twoPorts) ⟨rfl, rfl, rfl, rfl⟩ firstPort
      (frameBytes 1 2 []) 0 (accessPort firstPort) unknownFrame vlan [secondPort] rfl
      (Or.inl (by decide +kernel)) secondPort (by decide +kernel)
  exact ⟨egress, hegress, hkeeps⟩

/-- Every frame that the call bridges in a VLAN stays in it across a link. -/
def StaysInVlan (asic : SoftwareAsic) (ingressPort : PortId) (bytes : List UInt8)
    (now : TimePoint) : Prop :=
  ∀ port frame vlan outputPorts, asic.arrival ingressPort bytes = .ok (port, frame) →
    Bridges (asic.pipeline ingressPort port frame now).1 vlan outputPorts →
    ∀ id ∈ (asic.processPacket ingressPort bytes now).1.outputPorts,
      ∃ egress after queued received, asic.ports.find? id = some egress ∧
        (asic.processPacket ingressPort bytes now).2.queues.find? id = some after ∧
        after.queue.getLast? = some queued ∧ EthernetFrame.parse queued = some received ∧
        classifyVlanIngress received egress.vlanConfig = .ok vlan

namespace Example

def nativeVlan : VlanId := ⟨20, by decide, by decide⟩

/-- An operational trunk of both VLANs, of which `nativeVlan` goes untagged. -/
def trunkPort (id : PortId) : VirtualPort :=
  { accessPort id with
    vlanConfig := .trunk {vlan, nativeVlan} (some nativeVlan) ⟨vlan, by decide⟩ (by decide) }

/-- An access port and a trunk, both members of the VLAN of the access port. -/
def accessAndTrunk : List Operation :=
  [.createPort (accessPort firstPort) 4, .createPort (trunkPort secondPort) 4, .createVlan vlan,
   .addVlanMember vlan firstPort, .addVlanMember vlan secondPort]

end Example

open Example in
/-- An untagged frame of the access VLAN leaves the trunk untagged, and belongs to the
native VLAN at the other end. -/
theorem native_vlan_mismatch :
    (device accessAndTrunk).Reachable ∧
      (device accessAndTrunk).faultInjector.config.Disabled ∧
      ¬ StaysInVlan (device accessAndTrunk) firstPort (frameBytes 1 2 []) 0 := by
  refine ⟨reachable_device accessAndTrunk, ⟨rfl, rfl, rfl, rfl⟩, ?_⟩
  intro hstays
  obtain ⟨egress, after, queued, received, hegress, hafter, hqueued, hparse, hclassify⟩ :=
    hstays (accessPort firstPort) unknownFrame vlan [secondPort] rfl
      (Or.inl (by decide +kernel)) secondPort (by decide +kernel)
  have htrunk : (device accessAndTrunk).ports.find? secondPort = some (trunkPort secondPort) := rfl
  rw [htrunk, Option.some.injEq] at hegress
  subst hegress
  have hbytes : (((device accessAndTrunk).processPacket firstPort (frameBytes 1 2 []) 0).2.queues.find?
      secondPort).bind (fun queue => queue.queue.getLast?) = some (frameBytes 1 2 []) := by
    decide +kernel
  rw [hafter, Option.bind_some, hqueued, Option.some.injEq] at hbytes
  rw [hbytes, show EthernetFrame.parse (frameBytes 1 2 []) = some unknownFrame by decide +kernel,
    Option.some.injEq] at hparse
  subst hparse
  have hnative : classifyVlanIngress unknownFrame (trunkPort secondPort).vlanConfig =
      .ok nativeVlan := by decide +kernel
  rw [hnative] at hclassify
  exact absurd hclassify (by decide +kernel)

end SiliconSwitch.Asic.SoftwareAsic
