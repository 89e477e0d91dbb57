import SiliconSwitch.Asic.Frame

/-!
# Where a packet leaves the ingress path

`verdict` classifies a call of `process_packet` by the exit of its body that it
takes, as a function of the state before the call. `Leaves` says what each exit
does: the result it reports, the one counter it increments, and that it leaves
the programmed configuration alone.

* `arrival` — the frame that reaches the pipeline, or why none does;
* `Verdict.counter`, `Verdict.dropReason` — the books of `process_packet`;
* `ingress_leaves` — the body of `process_packet` keeps these books, and its MAC
  table changes by learning from an arrived frame and in no other way;
* `verdict_egress` — the decisions that lead to `enqueue_outputs`;
* `pipeline_of_classify` — the decision on a frame whose VLAN is accepted.
-/

namespace SiliconSwitch.Asic

open SiliconSwitch.Library SiliconSwitch.Network SiliconSwitch.Routing SiliconSwitch.Switching

-- ---------------------------------------------------------------------------
-- The exits
-- ---------------------------------------------------------------------------

inductive Verdict
  | unavailable
  | faulted (reason : FaultDropReason)
  | malformedFrame
  | oversized
  | filtered (reason : PipelineDropReason)
  | malformedArp
  | controlPlane
  | malformedIpv4
  | routeMiss
  | ttlExpired
  | egressUnavailable
  | neighborMiss
  | egress (disposition : PacketDisposition) (requested : List PortId) (frame : List UInt8)
deriving DecidableEq

namespace Verdict

/-- The counter that an exit increments beside those of the packet's arrival. -/
def counter : Verdict → Option TrafficCounter
  | faulted reason => some (SoftwareAsic.faultCounter reason)
  | malformedFrame | malformedArp | malformedIpv4 => some .parseErrors
  | filtered reason => some (SoftwareAsic.pipelineDropCounter reason)
  | routeMiss => some .routeMisses
  | ttlExpired => some .ttlExpirations
  | neighborMiss => some .neighborMisses
  | unavailable | oversized | controlPlane | egressUnavailable | egress .. => none

/-- The counters of lost packets. -/
def dropCounters : List TrafficCounter :=
  [.parseErrors, .routeMisses, .ttlExpirations, .vlanDrops, .neighborMisses, .filteredFrames,
   .queueDrops, .faultDrops, .resourceExhaustion]

theorem counter_mem_dropCounters (verdict : Verdict) {counter : TrafficCounter}
    (h : verdict.counter = some counter) : counter ∈ dropCounters := by
  cases verdict with
  | faulted reason =>
    rw [← Option.some.inj h]
    cases reason <;> decide
  | filtered reason =>
    rw [← Option.some.inj h]
    cases reason <;> decide
  | unavailable | oversized | controlPlane | egressUnavailable | egress =>
    simp [Verdict.counter] at h
  | malformedFrame | malformedArp | malformedIpv4 | routeMiss | ttlExpired | neighborMiss =>
    rw [← Option.some.inj h]
    decide

def dropReason : Verdict → PacketDropReason
  | unavailable | oversized => .ingressPortUnavailable
  | faulted reason => SoftwareAsic.faultDropReason reason
  | malformedFrame | malformedArp => .malformedFrame
  | filtered _ => .vlanRejected
  | malformedIpv4 => .malformedIpv4
  | routeMiss => .routeMiss
  | ttlExpired => .ttlExpired
  | egressUnavailable => .egressPortUnavailable
  | neighborMiss => .neighborMiss
  | controlPlane | egress .. => .none

def disposition : Verdict → PacketDisposition
  | controlPlane => .deliveredToControlPlane
  | egress disposition .. => disposition
  | _ => .dropped

/-- The outcome of the body that belongs to an exit, up to the injected latency. -/
def Reports (verdict : Verdict) (outcome : Except PacketProcessingResult SoftwareAsic.EgressRequest) :
    Prop :=
  match verdict with
  | egress disposition requested frame =>
    ∃ latency, outcome = .ok ⟨disposition, requested, frame, latency⟩
  | verdict => ∃ latency, outcome = .error ⟨verdict.disposition, verdict.dropReason, [], latency⟩

end Verdict

namespace SoftwareAsic

/-- The frame that `process_packet` presents to its port, with the port, or the
exit that the packet takes before. -/
def presented (asic : SoftwareAsic) (ingressPort : PortId) (bytes : List UInt8) :
    Except Verdict (VirtualPort × EthernetFrame) :=
  match asic.ports.find? ingressPort with
  | none => .error .unavailable
  | some port =>
    if !port.operational then .error .unavailable
    else
      match (asic.faultInjector.process ingressPort bytes).1 with
      | .error reason => .error (.faulted reason)
      | .ok injected =>
        match EthernetFrame.parse injected.bytes with
        | none => .error .malformedFrame
        | some frame => .ok (port, frame)

/-- The frame that `process_packet` hands to the pipeline: one that its port
receives. -/
def arrival (asic : SoftwareAsic) (ingressPort : PortId) (bytes : List UInt8) :
    Except Verdict (VirtualPort × EthernetFrame) :=
  match asic.presented ingressPort bytes with
  | .error verdict => .error verdict
  | .ok (port, frame) =>
    if port.mtu < frame.payload.length then .error .oversized else .ok (port, frame)

/-- The ports once the ingress port has counted what it was presented. -/
def receivedPorts (asic : SoftwareAsic) (ingressPort : PortId) (bytes : List UInt8) :
    Table PortId VirtualPort :=
  match asic.presented ingressPort bytes with
  | .error _ => asic.ports
  | .ok (port, frame) => asic.ports.set ingressPort (port.receive frame.payload.length).2

def forwardedVerdict (asic : SoftwareAsic) (forwarded : ForwardedIpv4Packet) (now : TimePoint) :
    Verdict :=
  match asic.ports.find? forwarded.outputPort with
  | none => .egressUnavailable
  | some egress =>
    if !egress.operational then .egressUnavailable
    else
      match encapsulateIpv4InEthernet forwarded egress.macAddress asic.arpCache now with
      | .error .neighborNotFound => .neighborMiss
      | .error _ => .egressUnavailable
      | .ok encapsulated => .egress .routed [forwarded.outputPort] encapsulated.serialize

def routeVerdict (asic : SoftwareAsic) (frame : EthernetFrame) (now : TimePoint) : Verdict :=
  match Ipv4Packet.parse frame.payload with
  | none => .malformedIpv4
  | some packet =>
    match forward asic.routeTable packet with
    | .error .routeNotFound => .routeMiss
    | .error .timeToLiveExpired => .ttlExpired
    | .ok forwarded => asic.forwardedVerdict forwarded now

/-- The exit of a frame on which the pipeline has decided. -/
def decisionVerdict (asic : SoftwareAsic) (decision : PipelineDecision) (frame : EthernetFrame)
    (now : TimePoint) : Verdict :=
  match decision with
  | .drop _ reason => .filtered reason
  | .deliverToControlPlane _ =>
    match ArpPacket.parse frame.payload with
    | none => .malformedArp
    | some _ => .controlPlane
  | .routeIpv4 _ => asic.routeVerdict frame now
  | .flood _ outputPorts => .egress .flooded outputPorts frame.serialize
  | .switchKnownUnicast _ outputPorts => .egress .switched outputPorts frame.serialize

/-- The exit of `process_packet` that a packet takes. -/
def verdict (asic : SoftwareAsic) (ingressPort : PortId) (bytes : List UInt8) (now : TimePoint) :
    Verdict :=
  match asic.arrival ingressPort bytes with
  | .error verdict => verdict
  | .ok (port, frame) =>
    asic.decisionVerdict (asic.pipeline ingressPort port frame now).1 frame now

-- ---------------------------------------------------------------------------
-- What an exit does
-- ---------------------------------------------------------------------------

/-- The outcome `after` of a stage of the packet path that started in `before`
and takes the exit `verdict`. -/
structure Concludes (verdict : Verdict) (before : SoftwareAsic)
    (after : Except PacketProcessingResult EgressRequest × SoftwareAsic) : Prop where
  reports : verdict.Reports after.1
  programming : SameProgramming before after.2
  macTable : after.2.macTable = before.macTable
  ports : after.2.ports = before.ports
  queues : after.2.queues = before.queues
  faultInjector : after.2.faultInjector = before.faultInjector
  statistics : ∀ counter, after.2.statistics.get counter =
    before.statistics.get counter + if verdict.counter = some counter then 1 else 0

/-- An early return that changes no state. -/
theorem Concludes.unchanged {verdict : Verdict} {asic : SoftwareAsic}
    {outcome : Except PacketProcessingResult EgressRequest} (hreports : verdict.Reports outcome)
    (hcounter : verdict.counter = none) : Concludes verdict asic (outcome, asic) where
  reports := hreports
  programming := (SameForwarding.refl asic).toSameProgramming
  macTable := rfl
  ports := rfl
  queues := rfl
  faultInjector := rfl
  statistics := by simp [hcounter]

/-- An early return that increments one counter. -/
theorem Concludes.counted {verdict : Verdict} {asic : SoftwareAsic} {counter : TrafficCounter}
    {outcome : Except PacketProcessingResult EgressRequest} (hreports : verdict.Reports outcome)
    (hcounter : verdict.counter = some counter) :
    Concludes verdict asic (outcome, asic.count counter) where
  reports := hreports
  programming := (sameForwarding_count asic counter).toSameProgramming
  macTable := rfl
  ports := rfl
  queues := rfl
  faultInjector := rfl
  statistics := by
    intro other
    simp only [count, increment, TrafficStatistics.get_increment, hcounter, Option.some.injEq,
      eq_comm]

theorem routeForwarded_concludes (asic : SoftwareAsic) (forwarded : ForwardedIpv4Packet)
    (latency : Duration) (now : TimePoint) :
    Concludes (asic.forwardedVerdict forwarded now) asic
      (asic.routeForwarded forwarded latency now) := by
  rw [routeForwarded, forwardedVerdict]
  cases asic.ports.find? forwarded.outputPort with
  | none => exact .unchanged ⟨latency, rfl⟩ rfl
  | some egress =>
    dsimp only
    cases egress.operational with
    | false => exact .unchanged ⟨latency, rfl⟩ rfl
    | true =>
      simp only [Bool.not_true, Bool.false_eq_true, if_false]
      cases encapsulateIpv4InEthernet forwarded egress.macAddress asic.arpCache now with
      | ok encapsulated => exact .unchanged ⟨latency, rfl⟩ rfl
      | error failure =>
        cases failure with
        | neighborNotFound => exact .counted ⟨latency, rfl⟩ rfl
        | invalidSourceMac => exact .unchanged ⟨latency, rfl⟩ rfl
        | packetTooLarge => exact .unchanged ⟨latency, rfl⟩ rfl

theorem routeIpv4_concludes (asic : SoftwareAsic) (frame : EthernetFrame) (latency : Duration)
    (now : TimePoint) :
    Concludes (asic.routeVerdict frame now) asic (asic.routeIpv4 frame latency now) := by
  rw [routeIpv4, routeVerdict]
  cases Ipv4Packet.parse frame.payload with
  | none => exact .counted ⟨latency, rfl⟩ rfl
  | some packet =>
    dsimp only
    cases forward asic.routeTable packet with
    | ok forwarded => exact routeForwarded_concludes asic forwarded latency now
    | error reason =>
      cases reason with
      | routeNotFound => exact .counted ⟨latency, rfl⟩ rfl
      | timeToLiveExpired => exact .counted ⟨latency, rfl⟩ rfl

theorem deliverToControlPlane_concludes (asic : SoftwareAsic) (vlan : VlanId)
    (frame : EthernetFrame) (latency : Duration) (now : TimePoint) :
    Concludes (asic.decisionVerdict (.deliverToControlPlane vlan) frame now) asic
      (asic.deliverToControlPlane frame latency now) := by
  rw [deliverToControlPlane, decisionVerdict]
  cases ArpPacket.parse frame.payload with
  | none => exact .counted ⟨latency, rfl⟩ rfl
  | some arp =>
    exact {
      reports := ⟨latency, rfl⟩
      programming := .of_eq rfl rfl rfl rfl rfl rfl rfl
      macTable := rfl
      ports := rfl
      queues := rfl
      faultInjector := rfl
      statistics := fun _ => rfl }

/-- The path from the member lookup on takes the exit of the pipeline's decision,
after the MAC table has learned. -/
theorem processFrame_concludes (asic : SoftwareAsic) (ingressPort : PortId) (port : VirtualPort)
    (frame : EthernetFrame) (latency : Duration) (now : TimePoint) :
    Concludes (asic.decisionVerdict (asic.pipeline ingressPort port frame now).1 frame now)
      { asic with macTable := (asic.pipeline ingressPort port frame now).2 }
      (asic.processFrame ingressPort port frame latency now) := by
  rw [processFrame]
  obtain ⟨decision, macTable⟩ := asic.pipeline ingressPort port frame now
  dsimp only
  let learned := { asic with macTable := macTable }
  cases decision with
  | drop vlan reason => exact .counted ⟨latency, rfl⟩ rfl
  | deliverToControlPlane vlan => exact deliverToControlPlane_concludes learned vlan frame latency now
  | routeIpv4 vlan => exact routeIpv4_concludes learned frame latency now
  | flood vlan outputPorts => exact .unchanged ⟨latency, rfl⟩ rfl
  | switchKnownUnicast vlan outputPorts => exact .unchanged ⟨latency, rfl⟩ rfl

-- ---------------------------------------------------------------------------
-- The body of `process_packet`
-- ---------------------------------------------------------------------------

/-- The counters of a packet's arrival, which every packet of an operational
port moves. -/
def arrivalCounters : List TrafficCounter := [.ingressPackets, .ingressBytes, .corruptedPackets]

/-- What the stages before the pipeline change: the statistics of the packet's
arrival and the injector's sequence number. -/
structure Arrives (before after : SoftwareAsic) : Prop extends SameForwarding before after where
  queues_eq : after.queues = before.queues
  faultInjector : after.faultInjector = before.faultInjector.advance
  statistics : ∀ counter, counter ∉ arrivalCounters →
    after.statistics.get counter = before.statistics.get counter
  ingressPackets :
    after.statistics.get .ingressPackets = before.statistics.get .ingressPackets + 1

theorem arrives_injectFault (asic : SoftwareAsic) (ingressPort : PortId) (bytes : List UInt8) :
    Arrives asic
      (((asic.count .ingressPackets).increment .ingressBytes bytes.length).injectFault
        ingressPort bytes).2 where
  toSameForwarding :=
    ((sameForwarding_count asic _).trans (sameForwarding_increment _ _ _)).trans
      (sameForwarding_injectFault _ ingressPort bytes)
  queues_eq := rfl
  faultInjector := rfl
  statistics := by
    intro counter hcounter
    simp only [arrivalCounters, List.mem_cons, not_or] at hcounter
    simp [injectFault, count, increment, TrafficStatistics.get_increment, hcounter]
  ingressPackets := by
    simp [injectFault, count, increment, TrafficStatistics.get_increment]

theorem Arrives.countCorruption {before after : SoftwareAsic} (h : Arrives before after)
    (packet : FaultInjectedPacket) : Arrives before (after.countCorruption packet) := by
  rw [SoftwareAsic.countCorruption]
  split
  · exact {
      toSameForwarding := h.toSameForwarding.trans (sameForwarding_count after _)
      queues_eq := h.queues_eq
      faultInjector := h.faultInjector
      statistics := by
        intro counter hcounter
        rw [count, increment, TrafficStatistics.get_increment, h.statistics counter hcounter,
          if_neg (by rintro rfl; exact hcounter (by decide)), Nat.add_zero]
      ingressPackets := by
        rw [count, increment, TrafficStatistics.get_increment, h.ingressPackets,
          if_neg (by decide), Nat.add_zero] }
  · exact h

theorem Arrives.setPort {before after : SoftwareAsic} (h : Arrives before after) {id : PortId}
    {current port : VirtualPort} (hfind : after.ports.find? id = some current)
    (hsame : VirtualPort.SameConfiguration current port) : Arrives before (after.setPort id port) where
  toSameForwarding := h.toSameForwarding.trans (sameForwarding_setPort hfind hsame)
  queues_eq := h.queues_eq
  faultInjector := h.faultInjector
  statistics := h.statistics
  ingressPackets := h.ingressPackets

/-- The exit of a decision depends on the programmed state and the ARP cache only. -/
theorem decisionVerdict_congr {before after : SoftwareAsic} (h : SameForwarding before after)
    (decision : PipelineDecision) (frame : EthernetFrame) (now : TimePoint) :
    after.decisionVerdict decision frame now = before.decisionVerdict decision frame now := by
  have hforwarded : ∀ forwarded : ForwardedIpv4Packet,
      after.forwardedVerdict forwarded now = before.forwardedVerdict forwarded now := by
    intro forwarded
    rw [forwardedVerdict, forwardedVerdict, h.arpCache]
    cases hport : before.ports.find? forwarded.outputPort with
    | none => rw [(h.port_none_iff _).mpr hport]
    | some port =>
      obtain ⟨current, hcurrent, hsame⟩ := h.port_of_some hport
      simp only [hcurrent, hsame.operational, hsame.mac]
  have hroute : after.routeVerdict frame now = before.routeVerdict frame now := by
    simp only [routeVerdict, h.routeTable, hforwarded]
  cases decision with
  | routeIpv4 vlan => exact hroute
  | drop | deliverToControlPlane | flood | switchKnownUnicast => rfl

theorem pipeline_congr {before after : SoftwareAsic} (h : SameForwarding before after)
    {port current : VirtualPort} (hsame : VirtualPort.SameConfiguration port current)
    (ingressPort : PortId) (frame : EthernetFrame) (now : TimePoint) :
    after.pipeline ingressPort current frame now = before.pipeline ingressPort port frame now := by
  rw [pipeline, pipeline, hsame.vlanConfig, h.memberList, h.macTable, h.routerInterfaces]

/-- What the body of `process_packet` does on the exit `verdict`. -/
structure Leaves (verdict : Verdict) (before : SoftwareAsic)
    (after : Except PacketProcessingResult EgressRequest × SoftwareAsic) : Prop where
  reports : verdict.Reports after.1
  programming : SameProgramming before after.2
  queues : after.2.queues = before.queues
  faultInjector : after.2.faultInjector =
    if verdict = .unavailable then before.faultInjector else before.faultInjector.advance
  statistics : ∀ counter, counter ∉ arrivalCounters → after.2.statistics.get counter =
    before.statistics.get counter + if verdict.counter = some counter then 1 else 0
  ingressPackets : after.2.statistics.get .ingressPackets =
    before.statistics.get .ingressPackets + if verdict = .unavailable then 0 else 1

theorem counter_notMem_arrivalCounters {verdict : Verdict} {counter : TrafficCounter}
    (h : verdict.counter = some counter) : counter ∉ arrivalCounters := by
  have hdisjoint : ∀ other ∈ Verdict.dropCounters, other ∉ arrivalCounters := by decide
  exact hdisjoint counter (verdict.counter_mem_dropCounters h)

/-- An exit after the packet has arrived. -/
theorem Arrives.leaves {verdict : Verdict} {before arrived learned : SoftwareAsic}
    {after : Except PacketProcessingResult EgressRequest × SoftwareAsic}
    (h : Arrives before arrived) (hlearned : ∃ macTable, learned = { arrived with macTable })
    (hconcludes : Concludes verdict learned after) (havailable : verdict ≠ .unavailable) :
    Leaves verdict before after := by
  obtain ⟨macTable, rfl⟩ := hlearned
  have hswap : SameProgramming arrived { arrived with macTable } :=
    .of_eq rfl rfl rfl rfl rfl rfl rfl
  exact {
    reports := hconcludes.reports
    programming := (h.toSameProgramming.trans hswap).trans hconcludes.programming
    queues := hconcludes.queues.trans h.queues_eq
    faultInjector := by
      rw [if_neg havailable, hconcludes.faultInjector]
      exact h.faultInjector
    statistics := by
      intro counter hcounter
      rw [hconcludes.statistics]
      exact congrArg (· + _) (h.statistics counter hcounter)
    ingressPackets := by
      rw [hconcludes.statistics, if_neg havailable, if_neg, Nat.add_zero]
      · exact h.ingressPackets
      · exact fun hcounter => counter_notMem_arrivalCounters hcounter (by decide) }

theorem decisionVerdict_ne_unavailable (asic : SoftwareAsic) (decision : PipelineDecision)
    (frame : EthernetFrame) (now : TimePoint) :
    asic.decisionVerdict decision frame now ≠ .unavailable := by
  cases decision with
  | drop | flood | switchKnownUnicast => simp [decisionVerdict]
  | deliverToControlPlane =>
    rw [decisionVerdict]
    split <;> simp
  | routeIpv4 =>
    rw [decisionVerdict, routeVerdict]
    split
    · simp
    · split
      · simp
      · simp
      · rw [forwardedVerdict]
        split
        · simp
        · split
          · simp
          · split <;> simp

/-- **The body of `process_packet` keeps the books of its exits.** Its MAC table
changes by learning from an arrived frame, its ports by counting a presented one. -/
theorem ingress_leaves (asic : SoftwareAsic) (ingressPort : PortId) (bytes : List UInt8)
    (now : TimePoint) :
    Leaves (asic.verdict ingressPort bytes now) asic (asic.ingress ingressPort bytes now) ∧
      (asic.ingress ingressPort bytes now).2.macTable =
        (match asic.arrival ingressPort bytes with
        | .error _ => asic.macTable
        | .ok (port, frame) => (asic.pipeline ingressPort port frame now).2) ∧
      (asic.ingress ingressPort bytes now).2.ports = asic.receivedPorts ingressPort bytes := by
  have hunavailable : Leaves .unavailable asic (.error (dropped .ingressPortUnavailable 0), asic) :=
    { reports := ⟨0, rfl⟩
      programming := (SameForwarding.refl asic).toSameProgramming
      queues := rfl
      faultInjector := rfl
      statistics := fun _ _ => rfl
      ingressPackets := rfl }
  rw [verdict, arrival, receivedPorts, presented, ingress]
  -- one case for each early return of the body, in the order of the source
  cases hport : asic.ports.find? ingressPort with
  | none => exact ⟨hunavailable, rfl, rfl⟩
  | some port =>
    dsimp only
    cases hup : port.operational with
    | false => exact ⟨hunavailable, rfl, rfl⟩
    | true =>
      simp only [Bool.not_true, Bool.false_eq_true, if_false]
      -- the injector is asked after the two arrival counters, and reads neither
      have harrives := arrives_injectFault asic ingressPort bytes
      have hfault : (((asic.count .ingressPackets).increment .ingressBytes
          bytes.length).injectFault ingressPort bytes).1 =
            (asic.faultInjector.process ingressPort bytes).1 := rfl
      have hports : (((asic.count .ingressPackets).increment .ingressBytes
          bytes.length).injectFault ingressPort bytes).2.ports = asic.ports := rfl
      generalize ((asic.count .ingressPackets).increment .ingressBytes
        bytes.length).injectFault ingressPort bytes = injection at harrives hfault hports
      obtain ⟨outcome, arrived⟩ := injection
      simp only at hfault harrives hports
      subst hfault
      cases hinject : (asic.faultInjector.process ingressPort bytes).1 with
      | error reason =>
        exact ⟨harrives.leaves ⟨_, rfl⟩ (.counted ⟨0, rfl⟩ rfl) (by simp), harrives.macTable,
          hports⟩
      | ok injected =>
        dsimp only
        have hcorrupted := harrives.countCorruption injected
        rw [← countCorruption_ports arrived injected] at hports
        cases EthernetFrame.parse injected.bytes with
        | none =>
          exact ⟨hcorrupted.leaves ⟨_, rfl⟩ (.counted ⟨injected.latency, rfl⟩ rfl) (by simp),
            hcorrupted.macTable, hports⟩
        | some frame =>
          dsimp only
          -- `receive` counts the frame even where it refuses it
          have hfits := VirtualPort.receive_fst hup frame.payload.length
          have hsame := VirtualPort.sameConfiguration_receive port frame.payload.length
          generalize port.receive frame.payload.length = receipt at hfits hsame
          obtain ⟨accepted, received⟩ := receipt
          dsimp only at hfits hsame
          obtain ⟨current, hcurrent, hconfig⟩ := hcorrupted.port_of_some hport
          have hset : Arrives asic ((arrived.countCorruption injected).setPort ingressPort received) := by
            refine hcorrupted.setPort hcurrent ?_
            exact ⟨hsame.id.trans hconfig.id.symm, hsame.mac.trans hconfig.mac.symm,
              hsame.mtu.trans hconfig.mtu.symm, hsame.vlanConfig.trans hconfig.vlanConfig.symm,
              hsame.operational.trans hconfig.operational.symm⟩
          have hreceived : ((arrived.countCorruption injected).setPort ingressPort received).ports =
              asic.ports.set ingressPort received := by rw [SoftwareAsic.setPort, hports]
          by_cases hlarge : port.mtu < frame.payload.length
          · rw [if_pos hlarge]
            rw [decide_eq_false (Nat.not_le_of_gt hlarge)] at hfits
            subst hfits
            exact ⟨hset.leaves ⟨_, rfl⟩ (.unchanged ⟨injected.latency, rfl⟩ rfl) (by simp),
              hset.macTable, hreceived⟩
          · rw [if_neg hlarge]
            rw [decide_eq_true (Nat.le_of_not_gt hlarge)] at hfits
            subst hfits
            dsimp only
            -- the pipeline runs on the updated state, where it decides the same
            have hframe := processFrame_concludes
              ((arrived.countCorruption injected).setPort ingressPort received) ingressPort
              received frame injected.latency now
            rw [decisionVerdict_congr hset.toSameForwarding,
              pipeline_congr hset.toSameForwarding hsame] at hframe
            exact ⟨hset.leaves ⟨_, rfl⟩ hframe (decisionVerdict_ne_unavailable asic _ frame now),
              hframe.macTable, hframe.ports.trans hreceived⟩

-- ---------------------------------------------------------------------------
-- Reading a verdict back
-- ---------------------------------------------------------------------------

/-- A frame is presented to an operational port, after the injector and the parser
have let it through. -/
theorem presented_ok {asic : SoftwareAsic} {ingressPort : PortId} {bytes : List UInt8}
    {port : VirtualPort} {frame : EthernetFrame}
    (h : asic.presented ingressPort bytes = .ok (port, frame)) :
    asic.ports.find? ingressPort = some port ∧ port.operational = true ∧
      ∃ injected, (asic.faultInjector.process ingressPort bytes).1 = .ok injected ∧
        EthernetFrame.parse injected.bytes = some frame := by
  rw [presented] at h
  split at h
  · simp at h
  · rename_i found hfound
    split at h
    · simp at h
    · rename_i hup
      split at h
      · simp at h
      · rename_i injected hinjected
        split at h
        · simp at h
        · rename_i parsed hparsed
          simp only [Except.ok.injEq, Prod.mk.injEq] at h
          obtain ⟨rfl, rfl⟩ := h
          exact ⟨hfound, by simpa using hup, injected, hinjected, hparsed⟩

/-- A frame that arrives has been presented, and its payload fits the port. -/
theorem presented_of_arrival {asic : SoftwareAsic} {ingressPort : PortId} {bytes : List UInt8}
    {port : VirtualPort} {frame : EthernetFrame}
    (h : asic.arrival ingressPort bytes = .ok (port, frame)) :
    asic.presented ingressPort bytes = .ok (port, frame) ∧ frame.payload.length ≤ port.mtu := by
  rw [arrival] at h
  split at h
  · simp at h
  · rename_i found parsed hpresented
    split at h
    · simp at h
    · rename_i hfits
      simp only [Except.ok.injEq, Prod.mk.injEq] at h
      obtain ⟨rfl, rfl⟩ := h
      exact ⟨hpresented, Nat.le_of_not_gt hfits⟩

/-- A frame arrives through an operational port that its payload fits. -/
theorem arrival_ok {asic : SoftwareAsic} {ingressPort : PortId} {bytes : List UInt8}
    {port : VirtualPort} {frame : EthernetFrame}
    (h : asic.arrival ingressPort bytes = .ok (port, frame)) :
    asic.ports.find? ingressPort = some port ∧ port.operational = true ∧
      (∃ injected, (asic.faultInjector.process ingressPort bytes).1 = .ok injected ∧
        EthernetFrame.parse injected.bytes = some frame) ∧
      frame.payload.length ≤ port.mtu := by
  obtain ⟨hpresented, hfits⟩ := presented_of_arrival h
  obtain ⟨hfound, hup, hparsed⟩ := presented_ok hpresented
  exact ⟨hfound, hup, hparsed, hfits⟩

/-- No exit before the pipeline asks for copies. -/
theorem arrival_error_ne_egress {asic : SoftwareAsic} {ingressPort : PortId}
    {bytes : List UInt8} {early : Verdict} {disposition : PacketDisposition}
    {requested : List PortId} {frame : List UInt8}
    (h : asic.arrival ingressPort bytes = .error early) :
    early ≠ .egress disposition requested frame := by
  rw [arrival] at h
  split at h
  · rename_i earlier hpresented
    rw [Except.error.injEq] at h
    rw [← h]
    rw [presented] at hpresented
    split at hpresented
    · simp [← Except.error.inj hpresented]
    · split at hpresented
      · simp [← Except.error.inj hpresented]
      · split at hpresented
        · simp [← Except.error.inj hpresented]
        · split at hpresented
          · simp [← Except.error.inj hpresented]
          · simp at hpresented
  · split at h
    · simp [← Except.error.inj h]
    · simp at h

/-- The packet of a routed frame that reaches `enqueue_outputs`. -/
theorem routeVerdict_egress {asic : SoftwareAsic} {received : EthernetFrame} {now : TimePoint}
    {disposition : PacketDisposition} {requested : List PortId} {frame : List UInt8}
    (h : asic.routeVerdict received now = .egress disposition requested frame) :
    ∃ packet forwarded egress encapsulated,
      Ipv4Packet.parse received.payload = some packet ∧
      forward asic.routeTable packet = .ok forwarded ∧
      asic.ports.find? forwarded.outputPort = some egress ∧ egress.operational = true ∧
      encapsulateIpv4InEthernet forwarded egress.macAddress asic.arpCache now =
        .ok encapsulated ∧
      disposition = .routed ∧ requested = [forwarded.outputPort] ∧
      frame = encapsulated.serialize := by
  rw [routeVerdict] at h
  split at h
  · simp at h
  · rename_i packet hpacket
    split at h
    · simp at h
    · simp at h
    · rename_i forwarded hforwarded
      rw [forwardedVerdict] at h
      split at h
      · simp at h
      · rename_i egress hegress
        split at h
        · simp at h
        · rename_i hup
          split at h
          · simp at h
          · simp at h
          · rename_i encapsulated hencapsulated
            rw [Verdict.egress.injEq] at h
            obtain ⟨rfl, rfl, rfl⟩ := h
            exact ⟨packet, forwarded, egress, encapsulated, hpacket, hforwarded, hegress,
              by simpa using hup, hencapsulated, rfl, rfl, rfl⟩

/-- The decisions that lead to `enqueue_outputs`. -/
theorem verdict_egress {asic : SoftwareAsic} {ingressPort : PortId} {bytes : List UInt8}
    {now : TimePoint} {disposition : PacketDisposition} {requested : List PortId}
    {frame : List UInt8}
    (h : asic.verdict ingressPort bytes now = .egress disposition requested frame) :
    ∃ port received, asic.arrival ingressPort bytes = .ok (port, received) ∧
      ((∃ vlan, (asic.pipeline ingressPort port received now).1 = .flood vlan requested ∧
          disposition = .flooded ∧ frame = received.serialize) ∨
        (∃ vlan, (asic.pipeline ingressPort port received now).1 =
            .switchKnownUnicast vlan requested ∧
          disposition = .switched ∧ frame = received.serialize) ∨
        (∃ vlan, (asic.pipeline ingressPort port received now).1 = .routeIpv4 vlan ∧
          asic.routeVerdict received now = .egress disposition requested frame)) := by
  rw [verdict] at h
  split at h
  · rename_i early hearly
    exact absurd h (arrival_error_ne_egress hearly)
  · rename_i port received harrival
    refine ⟨port, received, harrival, ?_⟩
    cases hdecision : (asic.pipeline ingressPort port received now).1 with
    | drop vlan reason =>
      rw [hdecision] at h
      simp [decisionVerdict] at h
    | deliverToControlPlane vlan =>
      rw [hdecision, decisionVerdict] at h
      split at h <;> simp at h
    | routeIpv4 vlan =>
      rw [hdecision] at h
      exact Or.inr (Or.inr ⟨vlan, rfl, h⟩)
    | flood vlan outputPorts =>
      rw [hdecision, decisionVerdict, Verdict.egress.injEq] at h
      obtain ⟨rfl, rfl, rfl⟩ := h
      exact Or.inl ⟨vlan, rfl, rfl, rfl⟩
    | switchKnownUnicast vlan outputPorts =>
      rw [hdecision, decisionVerdict, Verdict.egress.injEq] at h
      obtain ⟨rfl, rfl, rfl⟩ := h
      exact Or.inr (Or.inl ⟨vlan, rfl, rfl, rfl⟩)

/-- A packet asks for copies to distinct ports, and not to be dropped. -/
theorem nodup_of_verdict_egress {asic : SoftwareAsic} {ingressPort : PortId} {bytes : List UInt8}
    {now : TimePoint} {disposition : PacketDisposition} {requested : List PortId}
    {frame : List UInt8}
    (h : asic.verdict ingressPort bytes now = .egress disposition requested frame) :
    requested.Nodup ∧ disposition ≠ .dropped := by
  obtain ⟨port, received, _, hdecision⟩ := verdict_egress h
  rcases hdecision with ⟨vlan, hflood, rfl, _⟩ | ⟨vlan, hswitch, rfl, _⟩ | ⟨_, _, hroute⟩
  · exact ⟨(processL2L3Ingress_bridged (Or.inl hflood)).2.2.1, by simp⟩
  · exact ⟨(processL2L3Ingress_bridged (Or.inr hswitch)).2.2.1, by simp⟩
  · obtain ⟨_, forwarded, _, _, _, _, _, _, _, rfl, rfl, _⟩ := routeVerdict_egress hroute
    exact ⟨List.nodup_singleton _, by simp⟩

-- ---------------------------------------------------------------------------
-- The two computations of the VLAN
-- ---------------------------------------------------------------------------

/-- Where the classification accepts a frame, the member lookup uses its VLAN. -/
theorem memberLookupVlan_of_classify {frame : EthernetFrame} {config : VlanPortConfig}
    {vlan : VlanId} (h : classifyVlanIngress frame config = .ok vlan) :
    memberLookupVlan config frame = vlan := by
  cases config with
  | access accessVlan =>
    rw [classifyVlanIngress] at h
    split at h
    · simp at h
    · exact Except.ok.inj h
  | trunk allowed native hnonempty hnative =>
    cases htag : frame.vlanTag with
    | none =>
      cases native with
      | none => simp [classifyVlanIngress, htag] at h
      | some nativeVlan =>
        simp only [classifyVlanIngress, htag, Except.ok.injEq] at h
        simp [memberLookupVlan, htag, h]
    | some tag =>
      simp only [classifyVlanIngress, htag] at h
      split at h
      · simp only [memberLookupVlan, htag]
        exact Except.ok.inj h
      · simp at h

/-- An unclassified frame is dropped before learning. -/
theorem pipeline_of_unclassified (asic : SoftwareAsic) {port : VirtualPort}
    {frame : EthernetFrame} {reason : VlanIngressDropReason}
    (hclassify : classifyVlanIngress frame port.vlanConfig = .error reason)
    (ingressPort : PortId) (now : TimePoint) :
    asic.pipeline ingressPort port frame now =
      (.drop none (mapVlanDrop reason), asic.macTable) := by
  rw [pipeline, processL2L3Ingress, hclassify]

/-- A classified frame is learned, and then dropped for its source or decided on
among the members of its VLAN. -/
theorem pipeline_of_classify {asic : SoftwareAsic} {port : VirtualPort} {frame : EthernetFrame}
    {vlan : VlanId} (hclassify : classifyVlanIngress frame port.vlanConfig = .ok vlan)
    (ingressPort : PortId) (now : TimePoint) :
    (asic.pipeline ingressPort port frame now).2 =
        (asic.macTable.learn vlan frame.source ingressPort now).2 ∧
      (((asic.macTable.learn vlan frame.source ingressPort now).1 = .rejected ∧
          (asic.pipeline ingressPort port frame now).1 = .drop (some vlan) .invalidSourceMac) ∨
        ((asic.macTable.learn vlan frame.source ingressPort now).1 = .staticConflict ∧
          (asic.pipeline ingressPort port frame now).1 = .drop (some vlan) .staticMacConflict) ∨
        ((asic.macTable.learn vlan frame.source ingressPort now).1 ≠ .rejected ∧
          (asic.macTable.learn vlan frame.source ingressPort now).1 ≠ .staticConflict ∧
          (asic.pipeline ingressPort port frame now).1 =
            decideLearned frame vlan ingressPort (asic.memberList vlan)
              (asic.macTable.learn vlan frame.source ingressPort now).2
              asic.routerInterfaces)) := by
  unfold pipeline
  rw [memberLookupVlan_of_classify hclassify]
  rcases processL2L3Ingress_cases frame ingressPort port.vlanConfig (asic.memberList vlan)
    asic.macTable asic.routerInterfaces now with
    ⟨reason, hreject, _⟩ | ⟨classified, haccept, hlearn, hcases⟩
  · rw [hclassify] at hreject
    simp at hreject
  · rw [hclassify, Except.ok.injEq] at haccept
    subst haccept
    exact ⟨hlearn, hcases⟩

/-- A decision other than a drop was made on a classified frame whose source may be
learned. -/
theorem pipeline_of_not_drop {asic : SoftwareAsic} {ingressPort : PortId} {port : VirtualPort}
    {frame : EthernetFrame} {now : TimePoint} {decision : PipelineDecision}
    (h : (asic.pipeline ingressPort port frame now).1 = decision)
    (hforwarded : ∀ vlan reason, decision ≠ .drop vlan reason) :
    ∃ vlan, classifyVlanIngress frame port.vlanConfig = .ok vlan ∧
      isLearnable frame.source = true ∧
      decideLearned frame vlan ingressPort (asic.memberList vlan)
        (asic.macTable.learn vlan frame.source ingressPort now).2
        asic.routerInterfaces = decision := by
  cases hclassify : classifyVlanIngress frame port.vlanConfig with
  | error reason =>
    rw [asic.pipeline_of_unclassified hclassify] at h
    exact absurd h.symm (hforwarded _ _)
  | ok vlan =>
    obtain ⟨_, hcases⟩ := @pipeline_of_classify asic port frame vlan hclassify ingressPort now
    rcases hcases with ⟨_, hdrop⟩ | ⟨_, hdrop⟩ | ⟨haccepted, _, hdecide⟩
    · exact absurd (h.symm.trans hdrop) (hforwarded _ _)
    · exact absurd (h.symm.trans hdrop) (hforwarded _ _)
    · refine ⟨vlan, rfl, ?_, hdecide.symm.trans h⟩
      rw [ne_eq, MacTable.learn_fst_eq_rejected, Bool.not_eq_false] at haccepted
      exact haccepted

end SoftwareAsic

end SiliconSwitch.Asic
