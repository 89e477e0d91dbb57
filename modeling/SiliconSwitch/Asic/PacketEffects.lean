import SiliconSwitch.Asic.Egress

/-!
# Latencies and neighbors

Two effects of `process_packet` that the books of its exits leave out: the latency it
reports and what it enters in the ARP cache.

* `ingress_of_early`, `ingress_of_arrival` — the body of `process_packet` up to the
  pipeline, as a drop or as the pipeline's stage on a state that forwards alike;
* `processPacket_latency` — the injected latency, from the exit;
* `processPacket_fst` — so the result is a function of the exit and the copies;
* `processPacket_arpCache` — the cache changes by the sender of an ARP packet that the
  control plane gets, and in no other way.
-/

namespace SiliconSwitch.Asic.SoftwareAsic

open SiliconSwitch.Library SiliconSwitch.Network SiliconSwitch.Routing SiliconSwitch.Switching

-- ---------------------------------------------------------------------------
-- Up to the pipeline
-- ---------------------------------------------------------------------------

/-- The latency that a packet with this exit reports: none before the injector has let
it through. -/
def verdictLatency (asic : SoftwareAsic) : Verdict → Duration
  | .unavailable | .faulted _ => 0
  | _ => asic.faultInjector.config.latency

/-- A packet that takes an exit before the pipeline is dropped there. -/
theorem ingress_of_early {asic : SoftwareAsic} {ingressPort : PortId} {bytes : List UInt8}
    {early : Verdict} (h : asic.arrival ingressPort bytes = .error early) (now : TimePoint) :
    ∃ left, asic.ingress ingressPort bytes now =
        (.error (dropped early.dropReason (asic.verdictLatency early)), left) ∧
      SameForwarding asic left := by
  rw [arrival, presented] at h
  rw [ingress]
  cases hport : asic.ports.find? ingressPort with
  | none =>
    simp only [hport, Except.error.injEq] at h
    subst h
    exact ⟨asic, rfl, .refl asic⟩
  | some port =>
    simp only [hport] at h ⊢
    cases hup : port.operational with
    | false =>
      simp only [hup, Bool.not_false, if_true, Except.error.injEq] at h
      subst h
      exact ⟨asic, rfl, .refl asic⟩
    | true =>
      simp only [hup, Bool.not_true, Bool.false_eq_true, if_false] at h ⊢
      have harrives := arrives_injectFault asic ingressPort bytes
      have hfault : (((asic.count .ingressPackets).increment .ingressBytes
          bytes.length).injectFault ingressPort bytes).1 =
            (asic.faultInjector.process ingressPort bytes).1 := rfl
      generalize ((asic.count .ingressPackets).increment .ingressBytes
        bytes.length).injectFault ingressPort bytes = injection at harrives hfault
      obtain ⟨outcome, arrived⟩ := injection
      simp only at hfault harrives
      subst hfault
      cases hinject : (asic.faultInjector.process ingressPort bytes).1 with
      | error reason =>
        simp only [hinject, Except.error.injEq] at h
        subst h
        exact ⟨_, rfl, harrives.toSameForwarding.trans (sameForwarding_count arrived _)⟩
      | ok injected =>
        have hlatency := (FaultInjector.process_ok hinject).2
        have hcorrupted := harrives.countCorruption injected
        simp only [hinject] at h ⊢
        cases hparse : EthernetFrame.parse injected.bytes with
        | none =>
          simp only [hparse, Except.error.injEq] at h
          subst h
          rw [hlatency]
          exact ⟨_, rfl, hcorrupted.toSameForwarding.trans (sameForwarding_count _ _)⟩
        | some frame =>
          simp only [hparse] at h ⊢
          have hfits := VirtualPort.receive_fst hup frame.payload.length
          have hsame := VirtualPort.sameConfiguration_receive port frame.payload.length
          generalize port.receive frame.payload.length = receipt at hfits hsame
          obtain ⟨accepted, received⟩ := receipt
          dsimp only at hfits hsame
          by_cases hlarge : port.mtu < frame.payload.length
          · rw [if_pos hlarge, Except.error.injEq] at h
            subst h
            rw [decide_eq_false (Nat.not_le_of_gt hlarge)] at hfits
            subst hfits
            rw [hlatency]
            obtain ⟨current, hcurrent, hconfig⟩ := hcorrupted.port_of_some hport
            exact ⟨_, rfl, (hcorrupted.setPort hcurrent
              ⟨hsame.id.trans hconfig.id.symm, hsame.mac.trans hconfig.mac.symm,
                hsame.mtu.trans hconfig.mtu.symm, hsame.vlanConfig.trans hconfig.vlanConfig.symm,
                hsame.operational.trans hconfig.operational.symm⟩).toSameForwarding⟩
          · rw [if_neg hlarge] at h
            simp at h

/-- A packet that arrives goes on from a state that forwards alike. -/
theorem ingress_of_arrival {asic : SoftwareAsic} {ingressPort : PortId} {bytes : List UInt8}
    {port : VirtualPort} {frame : EthernetFrame}
    (h : asic.arrival ingressPort bytes = .ok (port, frame)) (now : TimePoint) :
    ∃ arrived received, asic.ingress ingressPort bytes now =
        arrived.processFrame ingressPort received frame asic.faultInjector.config.latency now ∧
      SameForwarding asic arrived ∧ VirtualPort.SameConfiguration port received := by
  obtain ⟨hport, hup, ⟨injected, hinject, hparse⟩, hsmall⟩ := arrival_ok h
  have hlatency := (FaultInjector.process_ok hinject).2
  rw [ingress, hport]
  simp only [hup, Bool.not_true, Bool.false_eq_true, if_false]
  have harrives := arrives_injectFault asic ingressPort bytes
  have hfault : (((asic.count .ingressPackets).increment .ingressBytes
      bytes.length).injectFault ingressPort bytes).1 =
        (asic.faultInjector.process ingressPort bytes).1 := rfl
  generalize ((asic.count .ingressPackets).increment .ingressBytes
    bytes.length).injectFault ingressPort bytes = injection at harrives hfault
  obtain ⟨outcome, arrived⟩ := injection
  simp only at hfault harrives
  subst hfault
  have hcorrupted := harrives.countCorruption injected
  simp only [hinject, hparse]
  have hfits := VirtualPort.receive_fst hup frame.payload.length
  have hsame := VirtualPort.sameConfiguration_receive port frame.payload.length
  generalize port.receive frame.payload.length = receipt at hfits hsame
  obtain ⟨accepted, received⟩ := receipt
  dsimp only at hfits hsame
  rw [decide_eq_true hsmall] at hfits
  subst hfits
  obtain ⟨current, hcurrent, hconfig⟩ := hcorrupted.port_of_some hport
  rw [← hlatency]
  exact ⟨_, received, rfl, (hcorrupted.setPort hcurrent
    ⟨hsame.id.trans hconfig.id.symm, hsame.mac.trans hconfig.mac.symm,
      hsame.mtu.trans hconfig.mtu.symm, hsame.vlanConfig.trans hconfig.vlanConfig.symm,
      hsame.operational.trans hconfig.operational.symm⟩).toSameForwarding, hsame⟩

-- ---------------------------------------------------------------------------
-- Latency
-- ---------------------------------------------------------------------------

/-- The injector is asked before the pipeline decides. -/
theorem decisionVerdict_ne_faulted (asic : SoftwareAsic) (decision : PipelineDecision)
    (frame : EthernetFrame) (now : TimePoint) (reason : FaultDropReason) :
    asic.decisionVerdict decision frame now ≠ .faulted reason := by
  cases decision with
  | drop | flood | switchKnownUnicast => simp [decisionVerdict]
  | deliverToControlPlane =>
    rw [decisionVerdict]
    split <;> simp
  | routeIpv4 =>
    rw [decisionVerdict, routeVerdict]
    split
    · simp
    · split
      · simp
      · simp
      · rw [forwardedVerdict]
        split
        · simp
        · split
          · simp
          · split <;> simp

/-- The latency that an outcome of the body carries. -/
def outcomeLatency : Except PacketProcessingResult EgressRequest → Duration
  | .error result => result.injectedLatency
  | .ok request => request.latency

/-- The stages after the pipeline hand the latency on. -/
theorem processFrame_latency (asic : SoftwareAsic) (ingressPort : PortId) (port : VirtualPort)
    (frame : EthernetFrame) (latency : Duration) (now : TimePoint) :
    outcomeLatency (asic.processFrame ingressPort port frame latency now).1 = latency := by
  rw [processFrame]
  generalize asic.pipeline ingressPort port frame now = decided
  obtain ⟨decision, macTable⟩ := decided
  cases decision with
  | drop | flood | switchKnownUnicast => rfl
  | deliverToControlPlane vlan =>
    dsimp only
    rw [deliverToControlPlane]
    split <;> rfl
  | routeIpv4 vlan =>
    dsimp only
    rw [routeIpv4]
    split
    · rfl
    · split
      · rfl
      · rfl
      · rw [routeForwarded]
        split
        · rfl
        · split
          · rfl
          · split <;> rfl

/-- Every copy adds the configured latency, which the packet has met already. -/
theorem enqueueOutput_latency (frame : List UInt8) {loop : EgressLoop}
    (h : loop.latency = loop.asic.faultInjector.config.latency) (id : PortId) :
    (enqueueOutput frame loop id).latency = loop.latency := by
  rw [enqueueOutput]
  split
  · rename_i port queue _ _
    split
    · rfl
    · split
      · rfl
      · rename_i packet asic hfault
        have hpacket : (loop.asic.faultInjector.process id frame).1 = .ok packet :=
          congrArg Prod.fst hfault
        have hmax : max loop.latency packet.latency = loop.latency := by
          rw [(FaultInjector.process_ok hpacket).2, ← h, max_self]
        dsimp only
        split
        · exact hmax
        · split <;> exact hmax
  · rfl

theorem foldl_enqueueOutput_latency (frame : List UInt8) (requested : List PortId)
    {loop : EgressLoop} (h : loop.latency = loop.asic.faultInjector.config.latency) :
    (requested.foldl (enqueueOutput frame) loop).latency = loop.latency := by
  induction requested generalizing loop with
  | nil => rfl
  | cons id rest ih =>
    have hstep := enqueueOutput_latency frame h id
    have hconfig := (sameForwarding_enqueueOutput frame loop id).faultConfig
    rw [List.foldl_cons, ih (by rw [hstep, h, hconfig]), hstep]

/-- **The injected latency of a packet** is the configured one, once the injector has let it
through, however many copies are made of it. -/
theorem processPacket_latency (asic : SoftwareAsic) (ingressPort : PortId) (bytes : List UInt8)
    (now : TimePoint) :
    (asic.processPacket ingressPort bytes now).1.injectedLatency =
      asic.verdictLatency (asic.verdict ingressPort bytes now) := by
  rw [processPacket]
  cases harrival : asic.arrival ingressPort bytes with
  | error early =>
    obtain ⟨left, hingress, _⟩ := ingress_of_early harrival now
    rw [hingress, verdict, harrival]
    rfl
  | ok arrived =>
    obtain ⟨port, frame⟩ := arrived
    obtain ⟨current, received, hingress, hsame, _⟩ := ingress_of_arrival harrival now
    have hlatency := processFrame_latency current ingressPort received frame
      asic.faultInjector.config.latency now
    have hleft := (ingress_leaves asic ingressPort bytes now).1.programming.faultConfig
    have hverdict : asic.verdictLatency (asic.verdict ingressPort bytes now) =
        asic.faultInjector.config.latency := by
      rw [verdict, harrival]
      dsimp only
      generalize hdecision : asic.decisionVerdict
        (asic.pipeline ingressPort port frame now).1 frame now = exit
      have havailable := decisionVerdict_ne_unavailable asic
        (asic.pipeline ingressPort port frame now).1 frame now
      have hunfaulted := decisionVerdict_ne_faulted asic
        (asic.pipeline ingressPort port frame now).1 frame now
      rw [hdecision] at havailable hunfaulted
      cases exit with
      | unavailable => exact absurd rfl havailable
      | faulted reason => exact absurd rfl (hunfaulted reason)
      | _ => rfl
    rw [hverdict]
    rw [← hingress] at hlatency
    generalize asic.ingress ingressPort bytes now = left at hlatency hleft
    obtain ⟨outcome, left⟩ := left
    cases outcome with
    | error result => exact hlatency
    | ok request =>
      dsimp only [outcomeLatency] at hlatency hleft
      have hstart : request.latency = left.faultInjector.config.latency := by rw [hlatency, hleft]
      have hloop := @foldl_enqueueOutput_latency request.frame request.requested
        ⟨left, request.latency, []⟩ hstart
      dsimp only
      rw [enqueueOutputs]
      split
      · exact hloop.trans hlatency
      · exact hloop.trans hlatency

/-- **The whole result of a packet**, from its exit and its copies. -/
theorem processPacket_fst (asic : SoftwareAsic) (ingressPort : PortId) (bytes : List UInt8)
    (now : TimePoint) :
    (asic.processPacket ingressPort bytes now).1 =
      packetResult (asic.verdict ingressPort bytes now)
        (asic.packetCopies ingressPort bytes now)
        (asic.verdictLatency (asic.verdict ingressPort bytes now)) := by
  obtain ⟨latency, hresult⟩ := processPacket_result asic ingressPort bytes now
  have hlatency := processPacket_latency asic ingressPort bytes now
  have hcarried : ∀ verdict copies, (packetResult verdict copies latency).injectedLatency =
      latency := by
    intro verdict copies
    cases verdict with
    | egress disposition requested frame =>
      rw [packetResult]
      split <;> rfl
    | _ => rfl
  rw [hresult, hcarried] at hlatency
  rw [hresult, ← hlatency]

/-- A packet that asks for no copies leaves the queues alone. -/
theorem processPacket_queues {asic : SoftwareAsic} {ingressPort : PortId} {bytes : List UInt8}
    {now : TimePoint}
    (hexit : ∀ disposition requested frame,
      asic.verdict ingressPort bytes now ≠ .egress disposition requested frame) :
    (asic.processPacket ingressPort bytes now).2.queues = asic.queues := by
  obtain ⟨latency, hexits⟩ := processPacket_exits hexit
  rw [hexits]
  exact (ingress_leaves asic ingressPort bytes now).1.queues

-- ---------------------------------------------------------------------------
-- Neighbors
-- ---------------------------------------------------------------------------

/-- The sender that a packet announces to the control plane, if it is an ARP packet for it. -/
def heardNeighbor (asic : SoftwareAsic) (ingressPort : PortId) (bytes : List UInt8)
    (now : TimePoint) : Option (Ipv4Address × MacAddress) :=
  match asic.arrival ingressPort bytes with
  | .error _ => none
  | .ok (port, frame) =>
    match (asic.pipeline ingressPort port frame now).1 with
    | .deliverToControlPlane _ =>
      (ArpPacket.parse frame.payload).map fun arp => (arp.senderIp, arp.senderMac)
    | _ => none

/-- The cache once an announced sender has been entered. -/
def learnNeighbor (cache : ArpCache) (now : TimePoint) :
    Option (Ipv4Address × MacAddress) → ArpCache
  | none => cache
  | some (address, mac) => (cache.addOrReplace address mac now).2

theorem processFrame_arpCache (asic : SoftwareAsic) (ingressPort : PortId) (port : VirtualPort)
    (frame : EthernetFrame) (latency : Duration) (now : TimePoint) :
    (asic.processFrame ingressPort port frame latency now).2.arpCache =
      learnNeighbor asic.arpCache now
        (match (asic.pipeline ingressPort port frame now).1 with
        | .deliverToControlPlane _ =>
          (ArpPacket.parse frame.payload).map fun arp => (arp.senderIp, arp.senderMac)
        | _ => none) := by
  rw [processFrame]
  generalize asic.pipeline ingressPort port frame now = decided
  obtain ⟨decision, macTable⟩ := decided
  cases decision with
  | drop | flood | switchKnownUnicast => rfl
  | deliverToControlPlane vlan =>
    dsimp only
    rw [deliverToControlPlane]
    cases ArpPacket.parse frame.payload with
    | none => rfl
    | some arp => rfl
  | routeIpv4 vlan =>
    dsimp only
    rw [routeIpv4]
    split
    · rfl
    · split
      · rfl
      · rfl
      · rw [routeForwarded]
        split
        · rfl
        · split
          · rfl
          · split <;> rfl

/-- **The ARP cache changes by what a packet announces to the control plane.** -/
theorem processPacket_arpCache (asic : SoftwareAsic) (ingressPort : PortId) (bytes : List UInt8)
    (now : TimePoint) :
    (asic.processPacket ingressPort bytes now).2.arpCache =
      learnNeighbor asic.arpCache now (asic.heardNeighbor ingressPort bytes now) := by
  rw [(sameForwarding_processPacket_ingress asic ingressPort bytes now).arpCache, heardNeighbor]
  cases harrival : asic.arrival ingressPort bytes with
  | error early =>
    obtain ⟨left, hingress, hsame⟩ := ingress_of_early harrival now
    rw [hingress]
    exact hsame.arpCache
  | ok arrived =>
    obtain ⟨port, frame⟩ := arrived
    obtain ⟨current, received, hingress, hsame, hconfig⟩ := ingress_of_arrival harrival now
    rw [hingress, processFrame_arpCache, hsame.arpCache, pipeline_congr hsame hconfig]

end SiliconSwitch.Asic.SoftwareAsic
