import SiliconSwitch.Asic.FailedCalls
import SiliconSwitch.Asic.PacketEffects
import SiliconSwitch.Library.Unwinding

/-!
# Counters and answers

A caller of the device sees the result of each packet, and the counters. How far the
counters of any run can be told from the results, as natural numbers that do not wrap.

* `respond_statistics` — a counter moves as the answers weigh, if a packet's does;
* `reported_processPacket` — five counters move by what the result of a packet reports;
* `counters_from_answers` — so over a run they are the totals of the answers; VLAN drops
  and filtered frames are so together, and arrivals up to the packets of no port.
-/

namespace SiliconSwitch.Asic.SoftwareAsic

open SiliconSwitch.Library SiliconSwitch.Network SiliconSwitch.Routing SiliconSwitch.Switching

/-- What the result of a packet reports about a counter. -/
def reported (counter : TrafficCounter) (result : PacketProcessingResult) : Nat :=
  match counter with
  | .egressPackets => result.outputPorts.length
  | .parseErrors =>
    if result.dropReason = .malformedFrame ∨ result.dropReason = .malformedIpv4 then 1 else 0
  | .routeMisses => if result.dropReason = .routeMiss then 1 else 0
  | .ttlExpirations => if result.dropReason = .ttlExpired then 1 else 0
  | .neighborMisses => if result.dropReason = .neighborMiss then 1 else 0
  | _ => 0

/-- The counters that results report. -/
def audited : List TrafficCounter :=
  [.egressPackets, .parseErrors, .routeMisses, .ttlExpirations, .neighborMisses]

/-- What an answer weighs, if it is the result of a packet. -/
def weigh (measure : PacketProcessingResult → Nat) : Answer → Nat
  | .packet result => measure result
  | _ => 0

/-- What the answers of a run weigh together. -/
def tally (measure : PacketProcessingResult → Nat) (answers : List Answer) : Nat :=
  (answers.map (weigh measure)).sum

-- ---------------------------------------------------------------------------
-- One call
-- ---------------------------------------------------------------------------

/-- A call moves a counter as its answer weighs, if a packet does. -/
theorem respond_statistics {quantity : TrafficStatistics → Nat}
    {measure : PacketProcessingResult → Nat} {r : Nat → Nat → Prop} [Std.Refl r]
    (h : ∀ asic ingressPort bytes now,
      r (quantity (processPacket asic ingressPort bytes now).2.statistics)
        (quantity asic.statistics + measure (asic.processPacket ingressPort bytes now).1))
    (asic : SoftwareAsic) (call : Call) :
    r (quantity (asic.respond call).2.statistics)
      (quantity asic.statistics + weigh measure (asic.respond call).1) := by
  cases call with
  | operation operation =>
    -- only packets are counted
    have huncounted : operation.writes .statistics = false →
        weigh measure (asic.answer operation) = 0 →
        r (quantity (asic.step operation).statistics)
          (quantity asic.statistics + weigh measure (asic.answer operation)) := by
      intro hcontrol hanswer
      have hsame : (asic.step operation).statistics = asic.statistics :=
        asic.step_frame operation hcontrol
      rw [hsame, hanswer]
      exact Std.Refl.refl _
    cases operation with
    | processPacket ingressPort bytes now => exact h asic ingressPort bytes now
    | removePort port =>
      refine huncounted rfl ?_
      rw [answer]
      cases (asic.removePort port).1 <;> rfl
    | addVlanMember vlan port =>
      refine huncounted rfl ?_
      rw [answer]
      cases (asic.addVlanMember vlan port).1 <;> rfl
    | _ => exact huncounted rfl rfl
  | counters | hasPort | hasVlan | findRoute | findNeighbor => exact Std.Refl.refl _

-- ---------------------------------------------------------------------------
-- One packet
-- ---------------------------------------------------------------------------

/-- The copies that leave are the ones that are counted as leaving. -/
theorem countCopies_egressPackets (copies : List (PortId × CopyFate)) :
    countCopies .egressPackets copies = (accepted copies).length := by
  have hfate : ∀ fate : CopyFate, fate.counter = some .egressPackets ↔ fate.isEnqueued = true := by
    intro fate
    cases fate with
    | faulted reason => cases reason <;> simp [CopyFate.counter, CopyFate.isEnqueued, faultCounter]
    | unavailable | oversized | congested | enqueued =>
      simp [CopyFate.counter, CopyFate.isEnqueued]
  rw [countCopies, List.countP_eq_length_filter, accepted, List.length_map]
  refine congrArg List.length (List.filter_congr fun copy _ => ?_)
  rw [Bool.eq_iff_iff, decide_eq_true_eq]
  exact hfate copy.2

/-- What is counted for a copy that does not leave is a fault or a full queue. -/
theorem countCopies_eq_zero {counter : TrafficCounter} (copies : List (PortId × CopyFate))
    (h : counter ∉ [TrafficCounter.faultDrops, .resourceExhaustion, .queueDrops, .egressPackets]) :
    countCopies counter copies = 0 := by
  rw [countCopies, List.countP_eq_zero]
  rintro ⟨id, fate⟩ _
  simp only [List.mem_cons, List.not_mem_nil, or_false, not_or] at h
  obtain ⟨hfault, hresource, hqueue, hegress⟩ := h
  cases fate with
  | faulted reason => cases reason <;> simp [CopyFate.counter, faultCounter, Ne.symm hfault,
      Ne.symm hresource]
  | unavailable | oversized | congested | enqueued =>
    simp [CopyFate.counter, Ne.symm hqueue, Ne.symm hegress]

/-- An exit is counted where its reason reports it. -/
theorem counter_eq_reported (verdict : Verdict) (latency : Duration) {counter : TrafficCounter}
    (h : counter ∈ [TrafficCounter.parseErrors, .routeMisses, .ttlExpirations, .neighborMisses]) :
    (if verdict.counter = some counter then 1 else 0) =
      reported counter ⟨verdict.disposition, verdict.dropReason, [], latency⟩ := by
  simp only [List.mem_cons, List.not_mem_nil, or_false] at h
  cases verdict with
  | faulted reason =>
    rcases h with rfl | rfl | rfl | rfl <;> cases reason <;> rfl
  | filtered reason =>
    rcases h with rfl | rfl | rfl | rfl <;> cases reason <;> rfl
  | unavailable | malformedFrame | oversized | malformedArp | controlPlane | malformedIpv4
  | routeMiss | ttlExpired | egressUnavailable | neighborMiss | egress =>
    rcases h with rfl | rfl | rfl | rfl <;> rfl

/-- The result of a packet that asks for no copies. -/
theorem packetResult_of_exit {verdict : Verdict}
    (h : ∀ disposition requested frame, verdict ≠ .egress disposition requested frame)
    (copies : List (PortId × CopyFate)) (latency : Duration) :
    packetResult verdict copies latency =
      ⟨verdict.disposition, verdict.dropReason, [], latency⟩ := by
  cases verdict with
  | egress disposition requested frame => exact absurd rfl (h disposition requested frame)
  | _ => rfl

/-- The result of a packet that asks for copies. -/
theorem packetResult_egress (disposition : PacketDisposition) (requested : List PortId)
    (frame : List UInt8) (copies : List (PortId × CopyFate)) (latency : Duration) :
    (packetResult (.egress disposition requested frame) copies latency).outputPorts =
        accepted copies ∧
      ((packetResult (.egress disposition requested frame) copies latency).dropReason = .none ∨
        (packetResult (.egress disposition requested frame) copies latency).dropReason =
          .queueCongestion) := by
  rw [packetResult]
  by_cases hempty : (accepted copies).isEmpty = true
  · rw [if_pos hempty, List.isEmpty_iff.mp hempty]
    exact ⟨rfl, Or.inr rfl⟩
  · rw [if_neg hempty]
    exact ⟨rfl, Or.inl rfl⟩

/-- **Five counters move by what the result of a packet reports.** -/
theorem reported_processPacket (asic : SoftwareAsic) (ingressPort : PortId) (bytes : List UInt8)
    (now : TimePoint) {counter : TrafficCounter} (h : counter ∈ audited) :
    (asic.processPacket ingressPort bytes now).2.statistics.get counter =
      asic.statistics.get counter +
        reported counter (asic.processPacket ingressPort bytes now).1 := by
  have hstatistics := @processPacket_statistics asic ingressPort bytes now counter
    (by revert counter; decide) (by revert counter; decide)
  rw [hstatistics, processPacket_fst, packetCopies, Nat.add_assoc]
  refine congrArg (asic.statistics.get counter + ·) ?_
  generalize asic.verdictLatency (asic.verdict ingressPort bytes now) = latency
  rw [audited, List.mem_cons] at h
  have hcopies : counter ∈ [TrafficCounter.parseErrors, .routeMisses, .ttlExpirations,
      .neighborMisses] → ∀ copies, countCopies counter copies = 0 := by
    intro hothers copies
    refine countCopies_eq_zero copies ?_
    clear h hstatistics
    revert counter
    decide
  by_cases hexit : ∀ disposition requested frame,
      asic.verdict ingressPort bytes now ≠ .egress disposition requested frame
  · rw [packetResult_of_exit hexit, requestedCopies_of_exit asic hexit]
    rcases h with rfl | hothers
    · have hcounter : (asic.verdict ingressPort bytes now).counter ≠ some .egressPackets :=
        fun hcounter => absurd (Verdict.counter_mem_dropCounters _ hcounter) (by decide)
      rw [if_neg hcounter]
      rfl
    · rw [hcopies hothers, Nat.add_zero]
      exact counter_eq_reported _ latency hothers
  · push Not at hexit
    obtain ⟨disposition, requested, frame, hverdict⟩ := hexit
    have huncounted : (Verdict.egress disposition requested frame).counter ≠ some counter := by
      simp [Verdict.counter]
    rw [hverdict, if_neg huncounted, Nat.zero_add]
    obtain ⟨houtputs, hreason⟩ := packetResult_egress disposition requested frame
      (requestedCopies asic (.egress disposition requested frame)) latency
    rcases h with rfl | hothers
    · rw [countCopies_egressPackets, reported, houtputs]
    · rw [hcopies hothers]
      simp only [List.mem_cons, List.not_mem_nil, or_false] at hothers
      rcases hothers with rfl | rfl | rfl | rfl <;> rcases hreason with hreason | hreason <;>
        simp [reported, hreason]

/-- A packet that the pipeline drops is counted as one of two kinds and reported as one. -/
theorem filtered_processPacket (asic : SoftwareAsic) (ingressPort : PortId) (bytes : List UInt8)
    (now : TimePoint) :
    (asic.processPacket ingressPort bytes now).2.statistics.get .vlanDrops +
        (asic.processPacket ingressPort bytes now).2.statistics.get .filteredFrames =
      asic.statistics.get .vlanDrops + asic.statistics.get .filteredFrames +
        (if (asic.processPacket ingressPort bytes now).1.dropReason = .vlanRejected then 1
          else 0) := by
  rw [processPacket_statistics asic ingressPort bytes now (by decide) (by decide),
    processPacket_statistics asic ingressPort bytes now (by decide) (by decide),
    countCopies_eq_zero _ (by decide), countCopies_eq_zero _ (by decide), processPacket_fst]
  generalize asic.verdictLatency (asic.verdict ingressPort bytes now) = latency
  generalize asic.packetCopies ingressPort bytes now = copies
  cases asic.verdict ingressPort bytes now with
  | filtered reason =>
    cases reason <;>
      simp [Verdict.counter, pipelineDropCounter, packetResult, Verdict.dropReason] <;> omega
  | faulted reason =>
    cases reason <;>
      simp [Verdict.counter, faultCounter, packetResult, Verdict.dropReason, faultDropReason]
  | egress disposition requested frame =>
    obtain ⟨_, hreason⟩ := packetResult_egress disposition requested frame copies latency
    rcases hreason with hreason | hreason <;> simp [Verdict.counter, hreason]
  | _ => simp [Verdict.counter, packetResult, Verdict.dropReason]

/-- A packet is counted on arrival unless its port is missing or down, and then it is
reported so. -/
theorem ingressPackets_processPacket (asic : SoftwareAsic) (ingressPort : PortId)
    (bytes : List UInt8) (now : TimePoint) :
    (asic.statistics.get .ingressPackets +
        if (asic.processPacket ingressPort bytes now).1.dropReason = .ingressPortUnavailable then 0
        else 1) ≤ (asic.processPacket ingressPort bytes now).2.statistics.get .ingressPackets ∧
      (asic.processPacket ingressPort bytes now).2.statistics.get .ingressPackets ≤
        asic.statistics.get .ingressPackets + 1 := by
  rw [processPacket_countCopies asic ingressPort bytes now (by decide),
    countCopies_eq_zero _ (by decide), Nat.add_zero,
    (ingress_leaves asic ingressPort bytes now).1.ingressPackets]
  by_cases hunavailable : asic.verdict ingressPort bytes now = .unavailable
  · have hreason : (asic.processPacket ingressPort bytes now).1.dropReason =
        .ingressPortUnavailable := by
      rw [processPacket_fst, hunavailable]
      rfl
    rw [if_pos hunavailable, if_pos hreason]
    omega
  · rw [if_neg hunavailable]
    split <;> omega

-- ---------------------------------------------------------------------------
-- Runs
-- ---------------------------------------------------------------------------

/-- A sum of counters that starts at zero and moves with each packet as its result weighs is
the total of the answers. -/
theorem total_of_answers {quantity : TrafficStatistics → Nat}
    {measure : PacketProcessingResult → Nat}
    (h : ∀ asic ingressPort bytes now,
      quantity (processPacket asic ingressPort bytes now).2.statistics =
        quantity asic.statistics + measure (asic.processPacket ingressPort bytes now).1)
    (asic : SoftwareAsic) (hzero : quantity asic.statistics = 0) (calls : List Call) :
    quantity (run (fun state call => (respond state call).2) asic calls).statistics =
      tally measure (outputs respond asic calls) := by
  have hcall := fun state call => (respond_statistics (r := Eq) h state call)
  have hlower := @add_outputs_le _ _ _ respond (fun state => quantity state.statistics)
    (weigh measure) (fun state call => (hcall state call).ge) asic calls
  have hupper := @le_add_outputs _ _ _ respond (fun state => quantity state.statistics)
    (weigh measure) (fun state call => (hcall state call).le) asic calls
  rw [hzero, Nat.zero_add] at hlower hupper
  exact Nat.le_antisymm hupper hlower

/-- Arrivals lie between the packets that were not refused at their port and all packets. -/
theorem ingressPackets_bounds (asic : SoftwareAsic)
    (hzero : asic.statistics.get .ingressPackets = 0) (calls : List Call) :
    tally (fun result => if result.dropReason = .ingressPortUnavailable then 0 else 1)
        (outputs respond asic calls) ≤
      (run (fun state call => (respond state call).2) asic calls).statistics.get .ingressPackets ∧
    (run (fun state call => (respond state call).2) asic calls).statistics.get .ingressPackets ≤
      tally (fun _ => 1) (outputs respond asic calls) := by
  let arrivals : TrafficStatistics → Nat := fun statistics => statistics.get .ingressPackets
  have hlower := @add_outputs_le _ _ _ respond (fun state => arrivals state.statistics)
    (weigh fun result => if result.dropReason = .ingressPortUnavailable then 0 else 1)
    (@respond_statistics arrivals _ (· ≥ ·) _ fun state ingressPort bytes now =>
      (ingressPackets_processPacket state ingressPort bytes now).1) asic calls
  have hupper := @le_add_outputs _ _ _ respond (fun state => arrivals state.statistics)
    (weigh fun _ => 1) (@respond_statistics arrivals _ (· ≤ ·) _ fun state ingressPort bytes now =>
      (ingressPackets_processPacket state ingressPort bytes now).2) asic calls
  rw [show arrivals asic.statistics = 0 from hzero, Nat.zero_add] at hlower hupper
  exact ⟨hlower, hupper⟩

/-- **The counters are the totals of the answers.** After any calls on a fresh device, the
frames sent, the parse errors, the route and neighbor misses and the expired packets are
what the results have reported; VLAN drops and filtered frames are so in total; and the
arrivals are at least the packets that were not refused at their port, at most all. -/
theorem counters_from_answers (capacity : Nat) (hcapacity : 0 < capacity) (calls : List Call)
    {asic : SoftwareAsic}
    (hrun : run (fun state call => (respond state call).2) (create capacity hcapacity) calls = asic)
    {told : List Answer} (htold : outputs respond (create capacity hcapacity) calls = told) :
    (∀ counter ∈ audited, asic.statistics.get counter = tally (reported counter) told) ∧
    asic.statistics.get .vlanDrops + asic.statistics.get .filteredFrames =
      tally (fun result => if result.dropReason = .vlanRejected then 1 else 0) told ∧
    tally (fun result => if result.dropReason = .ingressPortUnavailable then 0 else 1) told ≤
      asic.statistics.get .ingressPackets ∧
    asic.statistics.get .ingressPackets ≤ tally (fun _ => 1) told := by
  subst hrun htold
  refine ⟨?_, ?_, ingressPackets_bounds _ rfl calls⟩
  · intro counter hcounter
    exact @total_of_answers (fun statistics => statistics.get counter) (reported counter)
      (fun state ingressPort bytes now =>
        reported_processPacket state ingressPort bytes now hcounter) _ rfl calls
  · exact @total_of_answers
      (fun statistics => statistics.get .vlanDrops + statistics.get .filteredFrames) _
      filtered_processPacket _ rfl calls

open Example in
/-- One malformed frame and one flood to one port, and a query in between. -/
theorem counters_from_answers_flood :
    (run (fun state call => (respond state call).2) (create 8 (by decide))
        (twoPorts.map Call.operation ++ [.operation (.processPacket firstPort [1, 2] 0), .counters,
          .operation (.processPacket firstPort (frameBytes 1 2 [3]) 5)])).statistics.get
      .egressPackets = 1 := by
  have htotals := counters_from_answers 8 (by decide)
    (twoPorts.map Call.operation ++ [.operation (.processPacket firstPort [1, 2] 0), .counters,
      .operation (.processPacket firstPort (frameBytes 1 2 [3]) 5)]) rfl rfl
  rw [htotals.1 .egressPackets (by decide)]
  decide +kernel

end SiliconSwitch.Asic.SoftwareAsic
