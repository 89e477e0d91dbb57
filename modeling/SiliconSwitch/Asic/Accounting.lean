import SiliconSwitch.Asic.Invariants

/-!
# The books of the packet path

Whether a packet that is counted on arrival is counted again where it is lost,
and whether the reason that `process_packet` reports names the counter that
moved. Both are decided by the exit and the copies of the packet.

* `noSilentLoss_iff` — no loss is silent exactly if the packet avoids the exits
  and the copies without a counter: an oversized packet on either side, a routed
  packet whose egress port is down, copies to no operational port at all;
* `truthful_iff` — the reported reason is true exactly if the pipeline drops for
  a VLAN cause only and a packet without accepted copies has met a full queue.
-/

namespace SiliconSwitch.Asic.SoftwareAsic

open SiliconSwitch.Library SiliconSwitch.Network SiliconSwitch.Routing SiliconSwitch.Switching
open Verdict (dropCounters)

/-- The call increases the counter. -/
def Increases (asic : SoftwareAsic) (ingressPort : PortId) (bytes : List UInt8)
    (now : TimePoint) (counter : TrafficCounter) : Prop :=
  asic.statistics.get counter <
    (asic.processPacket ingressPort bytes now).2.statistics.get counter

/-- A drop counter increases through the exit of the packet or through a copy. -/
theorem increases_iff (asic : SoftwareAsic) (ingressPort : PortId) (bytes : List UInt8)
    (now : TimePoint) {counter : TrafficCounter} (hcounter : counter ∈ dropCounters) :
    Increases asic ingressPort bytes now counter ↔
      (asic.verdict ingressPort bytes now).counter = some counter ∨
        ∃ copy ∈ asic.packetCopies ingressPort bytes now, copy.2.counter = some counter := by
  have harrival : counter ∉ arrivalCounters := by
    revert counter
    decide
  have hcopy : counter ∉ copyCounters := by
    revert counter
    decide
  have hcopies : 0 < countCopies counter (asic.packetCopies ingressPort bytes now) ↔
      ∃ copy ∈ asic.packetCopies ingressPort bytes now, copy.2.counter = some counter := by
    rw [countCopies, List.countP_pos_iff]
    simp only [decide_eq_true_eq]
  rw [Increases, processPacket_statistics asic ingressPort bytes now harrival hcopy, ← hcopies]
  split
  · rename_i hexit
    exact iff_of_true (by omega) (Or.inl hexit)
  · rename_i hexit
    constructor
    · exact fun hlt => Or.inr (by omega)
    · rintro (heq | hpos)
      · exact absurd heq hexit
      · omega

theorem increases_of_exit {asic : SoftwareAsic} {ingressPort : PortId} {bytes : List UInt8}
    {now : TimePoint} {counter : TrafficCounter}
    (h : (asic.verdict ingressPort bytes now).counter = some counter) :
    ∃ counter ∈ dropCounters, Increases asic ingressPort bytes now counter := by
  have hmem := Verdict.counter_mem_dropCounters _ h
  exact ⟨counter, hmem, (increases_iff asic ingressPort bytes now hmem).mpr (Or.inl h)⟩

/-- An exit of its own counter and no copies increases that counter only. -/
theorem increases_iff_of_exit (asic : SoftwareAsic) (ingressPort : PortId) (bytes : List UInt8)
    (now : TimePoint)
    (h : ∀ disposition requested frame,
      asic.verdict ingressPort bytes now ≠ .egress disposition requested frame)
    {counter : TrafficCounter} (hcounter : counter ∈ dropCounters) :
    Increases asic ingressPort bytes now counter ↔
      (asic.verdict ingressPort bytes now).counter = some counter := by
  rw [increases_iff asic ingressPort bytes now hcounter, packetCopies,
    requestedCopies_of_exit asic h]
  simp

/-- A packet is counted on arrival unless its port is missing or down. -/
theorem ingressPackets_increases_iff (asic : SoftwareAsic) (ingressPort : PortId)
    (bytes : List UInt8) (now : TimePoint) :
    Increases asic ingressPort bytes now .ingressPackets ↔
      asic.verdict ingressPort bytes now ≠ .unavailable := by
  have hnone : countCopies .ingressPackets (asic.packetCopies ingressPort bytes now) = 0 := by
    rw [countCopies, List.countP_eq_zero]
    rintro ⟨id, fate⟩ _
    cases fate with
    | faulted reason => cases reason <;> simp [CopyFate.counter, faultCounter]
    | unavailable | oversized | congested | enqueued => simp [CopyFate.counter]
  rw [Increases, processPacket_countCopies asic ingressPort bytes now (by decide),
    (ingress_leaves asic ingressPort bytes now).1.ingressPackets, hnone]
  split
  · rename_i heq
    simp [heq]
  · rename_i hne
    simp [hne]

-- ---------------------------------------------------------------------------
-- No silent loss
-- ---------------------------------------------------------------------------

/-- The loop of `enqueue_outputs` after the ports in `front`. -/
def egressLoop (asic : SoftwareAsic) (ingressPort : PortId) (bytes : List UInt8)
    (now : TimePoint) (request : EgressRequest) (front : List PortId) : EgressLoop :=
  front.foldl (enqueueOutput request.frame)
    ⟨(asic.ingress ingressPort bytes now).2, request.latency, []⟩

/-- Exactly one of `egress_packets` and the drop counters moves, by one. -/
def CopyCounted (before after : EgressLoop) : Prop :=
  ∃ counter ∈ TrafficCounter.egressPackets :: dropCounters,
    ∀ other ∈ TrafficCounter.egressPackets :: dropCounters,
      after.asic.statistics.get other =
        before.asic.statistics.get other + if other = counter then 1 else 0

/-- A packet that is counted on arrival and dropped moves a drop counter, and each
copy to an operational port moves exactly one counter. -/
def NoSilentLoss (asic : SoftwareAsic) (ingressPort : PortId) (bytes : List UInt8)
    (now : TimePoint) : Prop :=
  Increases asic ingressPort bytes now .ingressPackets →
    ((asic.processPacket ingressPort bytes now).1.disposition = .dropped →
      ∃ counter ∈ dropCounters, Increases asic ingressPort bytes now counter) ∧
    ∀ request, (asic.ingress ingressPort bytes now).1 = .ok request →
      ∀ front id back, request.requested = front ++ id :: back →
        ∀ port, asic.ports.find? id = some port → port.operational = true →
          CopyCounted (egressLoop asic ingressPort bytes now request front)
            (egressLoop asic ingressPort bytes now request (front ++ [id]))

/-- The packet takes none of the branches without a counter: its payload fits the
ingress port, a routed packet's output port is up, some requested port is up, and
no copy that reaches the egress MTU check exceeds it. -/
def LossesCounted (asic : SoftwareAsic) (ingressPort : PortId) (bytes : List UInt8)
    (now : TimePoint) : Prop :=
  asic.verdict ingressPort bytes now ≠ .oversized ∧
    asic.verdict ingressPort bytes now ≠ .egressUnavailable ∧
    ∀ disposition requested frame,
      asic.verdict ingressPort bytes now = .egress disposition requested frame →
      (∃ id ∈ requested, ∃ port, asic.ports.find? id = some port ∧ port.operational = true) ∧
        ∀ copy ∈ copies asic asic.faultInjector.advance frame requested, copy.2 ≠ .oversized

/-- The request of the tail call is the one of the exit. -/
theorem verdict_of_ingress_ok {asic : SoftwareAsic} {ingressPort : PortId} {bytes : List UInt8}
    {now : TimePoint} {request : EgressRequest}
    (h : (asic.ingress ingressPort bytes now).1 = .ok request) :
    asic.verdict ingressPort bytes now =
      .egress request.disposition request.requested request.frame := by
  have hreports := (ingress_leaves asic ingressPort bytes now).1.reports
  rw [h] at hreports
  cases hverdict : asic.verdict ingressPort bytes now with
  | egress disposition requested frame =>
    rw [hverdict] at hreports
    obtain ⟨latency, heq⟩ := hreports
    rw [Except.ok.inj heq]
  | _ =>
    rw [hverdict] at hreports
    obtain ⟨_, heq⟩ := hreports
    simp at heq

theorem exists_ingress_ok {asic : SoftwareAsic} {ingressPort : PortId} {bytes : List UInt8}
    {now : TimePoint} {disposition : PacketDisposition} {requested : List PortId}
    {frame : List UInt8}
    (h : asic.verdict ingressPort bytes now = .egress disposition requested frame) :
    ∃ latency, (asic.ingress ingressPort bytes now).1 =
      .ok ⟨disposition, requested, frame, latency⟩ := by
  have hreports := (ingress_leaves asic ingressPort bytes now).1.reports
  rw [h] at hreports
  exact hreports

/-- The iteration for a requested port meets its fate in `copies`, and moves the
counters of that fate. -/
theorem egressLoop_statistics {asic : SoftwareAsic} {ingressPort : PortId} {bytes : List UInt8}
    {now : TimePoint} {request : EgressRequest} {front back : List PortId} {id : PortId}
    {fate : CopyFate} (hrequest : (asic.ingress ingressPort bytes now).1 = .ok request)
    (hsplit : request.requested = front ++ id :: back)
    (hcopy : (id, fate) ∈
      copies asic asic.faultInjector.advance request.frame request.requested)
    {counter : TrafficCounter} (hcounter : counter ∉ copyCounters) :
    (egressLoop asic ingressPort bytes now request (front ++ [id])).asic.statistics.get counter =
      (egressLoop asic ingressPort bytes now request front).asic.statistics.get counter +
        if fate.counter = some counter then 1 else 0 := by
  have hverdict := verdict_of_ingress_ok hrequest
  have hnodup := (nodup_of_verdict_egress hverdict).1
  have hleaves := (ingress_leaves asic ingressPort bytes now).1
  rw [hverdict] at hleaves
  have hcopies := copies_of_leaves hleaves
  rw [requestedCopies] at hcopies
  rw [← hcopies, hsplit] at hcopy
  have hturn := copyFate_at_turn (by rw [← hsplit]; exact hnodup)
    ⟨(asic.ingress ingressPort bytes now).2, request.latency, []⟩ hcopy
  have heffect := enqueueOutput_effect request.frame
    (egressLoop asic ingressPort bytes now request front) id
  rw [egressLoop, List.foldl_append, List.foldl_cons, List.foldl_nil]
  rw [egressLoop] at heffect ⊢
  rw [hturn] at heffect
  exact heffect.statistics counter hcounter

theorem counter_mem_of_fate {fate : CopyFate} (havailable : fate ≠ .unavailable)
    (hsize : fate ≠ .oversized) :
    ∃ counter ∈ TrafficCounter.egressPackets :: dropCounters, fate.counter = some counter := by
  cases fate with
  | unavailable => exact absurd rfl havailable
  | oversized => exact absurd rfl hsize
  | faulted reason => exact ⟨_, by cases reason <;> decide, rfl⟩
  | congested => exact ⟨.queueDrops, by decide, rfl⟩
  | enqueued bytes => exact ⟨.egressPackets, by decide, rfl⟩

/-- One iteration is counted exactly if its copy has a counter. -/
theorem copyCounted_iff {asic : SoftwareAsic} {ingressPort : PortId} {bytes : List UInt8}
    {now : TimePoint} {request : EgressRequest} {front back : List PortId} {id : PortId}
    {fate : CopyFate} (hrequest : (asic.ingress ingressPort bytes now).1 = .ok request)
    (hsplit : request.requested = front ++ id :: back)
    (hcopy : (id, fate) ∈
      copies asic asic.faultInjector.advance request.frame request.requested)
    (havailable : fate ≠ .unavailable) :
    CopyCounted (egressLoop asic ingressPort bytes now request front)
        (egressLoop asic ingressPort bytes now request (front ++ [id])) ↔
      fate ≠ .oversized := by
  have htracked : ∀ counter ∈ TrafficCounter.egressPackets :: dropCounters,
      counter ∉ copyCounters := by decide
  have hmoves : ∀ counter ∈ TrafficCounter.egressPackets :: dropCounters,
      (egressLoop asic ingressPort bytes now request (front ++ [id])).asic.statistics.get counter =
        (egressLoop asic ingressPort bytes now request front).asic.statistics.get counter +
          if fate.counter = some counter then 1 else 0 :=
    fun counter hcounter =>
      egressLoop_statistics hrequest hsplit hcopy (htracked counter hcounter)
  constructor
  · rintro ⟨counter, hmem, hmoved⟩ rfl
    have hincrement := hmoved counter hmem
    rw [hmoves counter hmem] at hincrement
    simp [CopyFate.counter] at hincrement
  · intro hsize
    obtain ⟨counter, hmem, hfate⟩ := counter_mem_of_fate havailable hsize
    refine ⟨counter, hmem, fun other hother => ?_⟩
    rw [hmoves other hother, hfate]
    simp only [Option.some.injEq, eq_comm]

/-- A requested port that is up and has a queue gets a copy that is not skipped. -/
theorem exists_available_copy {asic : SoftwareAsic} (h : Programmed asic)
    (injector : FaultInjector) (frame : List UInt8) {requested : List PortId} {id : PortId}
    {port : VirtualPort} (hmem : id ∈ requested) (hport : asic.ports.find? id = some port)
    (hup : port.operational = true) :
    ∃ fate, (id, fate) ∈ copies asic injector frame requested ∧ fate ≠ .unavailable := by
  obtain ⟨fate, hcopy⟩ := exists_mem_copies asic injector frame hmem
  refine ⟨fate, hcopy, ?_⟩
  obtain ⟨current, _, hfate⟩ := mem_copies hcopy
  cases hqueue : asic.queues.find? id with
  | none =>
    rw [(h.queue_iff id).mp hqueue] at hport
    simp at hport
  | some queue =>
    rw [hfate]
    exact copyFate_ne_unavailable hport hup hqueue

/-- The result of an exit without copies. -/
theorem processPacket_of_exit {asic : SoftwareAsic} {ingressPort : PortId} {bytes : List UInt8}
    {now : TimePoint}
    (h : ∀ disposition requested frame,
      asic.verdict ingressPort bytes now ≠ .egress disposition requested frame) :
    (asic.processPacket ingressPort bytes now).1.disposition =
        (asic.verdict ingressPort bytes now).disposition ∧
      (asic.processPacket ingressPort bytes now).1.dropReason =
        (asic.verdict ingressPort bytes now).dropReason := by
  obtain ⟨latency, hresult⟩ := processPacket_result asic ingressPort bytes now
  rw [hresult]
  cases hverdict : asic.verdict ingressPort bytes now with
  | egress disposition requested frame => exact absurd hverdict (h disposition requested frame)
  | _ => exact ⟨rfl, rfl⟩

/-- The result of a packet with copies depends on whether one was accepted. -/
theorem processPacket_of_egress {asic : SoftwareAsic} {ingressPort : PortId} {bytes : List UInt8}
    {now : TimePoint} {disposition : PacketDisposition} {requested : List PortId}
    {frame : List UInt8}
    (h : asic.verdict ingressPort bytes now = .egress disposition requested frame) :
    ((∃ copy ∈ copies asic asic.faultInjector.advance frame requested,
          copy.2.isEnqueued = true) ∧
        (asic.processPacket ingressPort bytes now).1.disposition = disposition ∧
        (asic.processPacket ingressPort bytes now).1.dropReason = .none) ∨
      ((∀ copy ∈ copies asic asic.faultInjector.advance frame requested,
          copy.2.isEnqueued = false) ∧
        (asic.processPacket ingressPort bytes now).1.disposition = .dropped ∧
        (asic.processPacket ingressPort bytes now).1.dropReason = .queueCongestion) := by
  obtain ⟨latency, hresult⟩ := processPacket_result asic ingressPort bytes now
  rw [hresult, packetCopies, h, packetResult, requestedCopies]
  generalize copies asic asic.faultInjector.advance frame requested = made
  cases hempty : (accepted made).isEmpty with
  | true =>
    rw [if_pos rfl]
    refine Or.inr ⟨?_, rfl, rfl⟩
    rw [accepted, List.isEmpty_iff, List.map_eq_nil_iff, List.filter_eq_nil_iff] at hempty
    intro copy hcopy
    simpa using hempty copy hcopy
  | false =>
    rw [if_neg Bool.false_ne_true]
    refine Or.inl ⟨?_, rfl, rfl⟩
    rw [List.isEmpty_eq_false_iff] at hempty
    obtain ⟨id, hid⟩ := List.exists_mem_of_ne_nil _ hempty
    obtain ⟨bytesOut, hcopy⟩ := mem_accepted.mp hid
    exact ⟨_, hcopy, rfl⟩

/-- A dropped packet that avoids the uncounted branches moves a drop counter. -/
theorem drop_counted {asic : SoftwareAsic} (h : Programmed asic) {ingressPort : PortId}
    {bytes : List UInt8} {now : TimePoint}
    (hcounted : LossesCounted asic ingressPort bytes now)
    (harrived : asic.verdict ingressPort bytes now ≠ .unavailable)
    (hdropped : (asic.processPacket ingressPort bytes now).1.disposition = .dropped) :
    ∃ counter ∈ dropCounters, Increases asic ingressPort bytes now counter := by
  obtain ⟨hsize, hegress, hcopies⟩ := hcounted
  cases hverdict : asic.verdict ingressPort bytes now with
  | egress disposition requested frame =>
    obtain ⟨⟨id, hmem, port, hport, hup⟩, hfits⟩ := hcopies disposition requested frame hverdict
    rcases processPacket_of_egress hverdict with ⟨_, hkept, _⟩ | ⟨hrefused, _, _⟩
    · rw [hkept] at hdropped
      exact absurd hdropped (nodup_of_verdict_egress hverdict).2
    · -- the copy to the port that is up was refused, and refusing it was counted
      obtain ⟨fate, hcopy, havailable⟩ :=
        exists_available_copy h asic.faultInjector.advance frame hmem hport hup
      obtain ⟨counter, hcounter, hfate⟩ := counter_mem_of_fate havailable (hfits _ hcopy)
      have hdrop : counter ∈ dropCounters := by
        rw [List.mem_cons] at hcounter
        refine hcounter.resolve_left ?_
        rintro rfl
        have hnot := hrefused _ hcopy
        cases fate with
        | enqueued => simp [CopyFate.isEnqueued] at hnot
        | faulted reason => cases reason <;> simp [CopyFate.counter, faultCounter] at hfate
        | unavailable | oversized | congested => simp [CopyFate.counter] at hfate
      refine ⟨counter, hdrop, (increases_iff asic ingressPort bytes now hdrop).mpr (Or.inr ?_)⟩
      rw [packetCopies, hverdict]
      exact ⟨_, hcopy, hfate⟩
  | unavailable => exact absurd hverdict harrived
  | oversized => exact absurd hverdict hsize
  | egressUnavailable => exact absurd hverdict hegress
  | controlPlane =>
    rw [(processPacket_of_exit (by simp [hverdict])).1, hverdict] at hdropped
    simp [Verdict.disposition] at hdropped
  | faulted | filtered | malformedFrame | malformedArp | malformedIpv4 | routeMiss | ttlExpired
  | neighborMiss => exact increases_of_exit (by rw [hverdict]; rfl)

/-- An exit that drops without a counter moves no drop counter. -/
theorem silent_of_exit {asic : SoftwareAsic} {ingressPort : PortId} {bytes : List UInt8}
    {now : TimePoint}
    (hexit : asic.verdict ingressPort bytes now = .oversized ∨
      asic.verdict ingressPort bytes now = .egressUnavailable) :
    ¬ NoSilentLoss asic ingressPort bytes now := by
  intro hloss
  have hnoCopies : ∀ disposition requested frame,
      asic.verdict ingressPort bytes now ≠ .egress disposition requested frame := by
    intro disposition requested frame
    rcases hexit with hexit | hexit <;> rw [hexit] <;> simp
  have hcounted : Increases asic ingressPort bytes now .ingressPackets := by
    rw [ingressPackets_increases_iff]
    rcases hexit with hexit | hexit <;> rw [hexit] <;> simp
  have hdropped : (asic.processPacket ingressPort bytes now).1.disposition = .dropped := by
    rw [(processPacket_of_exit hnoCopies).1]
    rcases hexit with hexit | hexit <;> rw [hexit] <;> rfl
  obtain ⟨counter, hmem, hincreases⟩ := (hloss hcounted).1 hdropped
  rw [increases_iff_of_exit asic ingressPort bytes now hnoCopies hmem] at hincreases
  rcases hexit with hexit | hexit <;> rw [hexit] at hincreases <;>
    simp [Verdict.counter] at hincreases

/-- A packet whose requested ports are all down is dropped without a counter. -/
theorem silent_of_skipped {asic : SoftwareAsic} {ingressPort : PortId} {bytes : List UInt8}
    {now : TimePoint} {disposition : PacketDisposition} {requested : List PortId}
    {frame : List UInt8}
    (hverdict : asic.verdict ingressPort bytes now = .egress disposition requested frame)
    (hdown : ¬ ∃ id ∈ requested, ∃ port,
      asic.ports.find? id = some port ∧ port.operational = true) :
    ¬ NoSilentLoss asic ingressPort bytes now := by
  intro hloss
  have harrived : Increases asic ingressPort bytes now .ingressPackets := by
    rw [ingressPackets_increases_iff, hverdict]
    simp
  have hskipped : ∀ copy ∈ copies asic asic.faultInjector.advance frame requested,
      copy.2 = .unavailable := by
    rintro ⟨id, fate⟩ hcopy
    by_contra havailable
    obtain ⟨hmem, hup⟩ := up_of_mem_copies hcopy havailable
    exact hdown ⟨id, hmem, hup⟩
  have hdropped : (asic.processPacket ingressPort bytes now).1.disposition = .dropped := by
    rcases processPacket_of_egress hverdict with ⟨⟨copy, hcopy, haccepted⟩, _⟩ | ⟨_, hdropped, _⟩
    · rw [hskipped copy hcopy] at haccepted
      simp [CopyFate.isEnqueued] at haccepted
    · exact hdropped
  obtain ⟨counter, hmem, hincreases⟩ := (hloss harrived).1 hdropped
  -- neither the exit nor a skipped copy has a counter
  rw [increases_iff asic ingressPort bytes now hmem, packetCopies, hverdict] at hincreases
  rcases hincreases with hexit | ⟨copy, hcopy, hcounter⟩
  · simp [Verdict.counter] at hexit
  · rw [hskipped copy hcopy] at hcounter
    simp [CopyFate.counter] at hcounter

/-- **No loss is silent exactly if the packet takes none of the branches without a
counter.** -/
theorem noSilentLoss_iff {asic : SoftwareAsic} (h : asic.Reachable) (ingressPort : PortId)
    (bytes : List UInt8) (now : TimePoint) :
    NoSilentLoss asic ingressPort bytes now ↔ LossesCounted asic ingressPort bytes now := by
  have hprogrammed := h.programmed
  constructor
  · intro hloss
    refine ⟨fun hsize => silent_of_exit (Or.inl hsize) hloss,
      fun hdown => silent_of_exit (Or.inr hdown) hloss, ?_⟩
    intro disposition requested frame hverdict
    have harrived : Increases asic ingressPort bytes now .ingressPackets := by
      rw [ingressPackets_increases_iff, hverdict]
      simp
    constructor
    · by_contra hdown
      exact silent_of_skipped hverdict hdown hloss
    · rintro ⟨id, fate⟩ hcopy
      by_cases havailable : fate = .unavailable
      · simp [havailable]
      · -- its own iteration is counted, so its fate has a counter
        obtain ⟨hmem, port, hport, hup⟩ := up_of_mem_copies hcopy havailable
        obtain ⟨latency, hrequest⟩ := exists_ingress_ok hverdict
        obtain ⟨front, back, hsplit⟩ := List.append_of_mem hmem
        exact (copyCounted_iff hrequest hsplit hcopy havailable).mp
          ((hloss harrived).2 _ hrequest front id back hsplit port hport hup)
  · intro hcounted harrived
    rw [ingressPackets_increases_iff] at harrived
    refine ⟨drop_counted hprogrammed hcounted harrived, ?_⟩
    intro request hrequest front id back hsplit port hport hup
    have hverdict := verdict_of_ingress_ok hrequest
    have hmem : id ∈ request.requested := by
      rw [hsplit]
      simp
    obtain ⟨fate, hcopy, havailable⟩ :=
      exists_available_copy hprogrammed asic.faultInjector.advance request.frame hmem hport hup
    exact (copyCounted_iff hrequest hsplit hcopy havailable).mpr
      ((hcounted.2.2 _ _ _ hverdict).2 _ hcopy)

open Example in
/-- A flooded frame of the small device loses nothing silently. -/
theorem noSilentLoss_twoPorts :
    NoSilentLoss (device twoPorts) firstPort (frameBytes 1 2 []) 0 := by
  have hverdict : (device twoPorts).verdict firstPort (frameBytes 1 2 []) 0 =
      .egress .flooded [secondPort] (frameBytes 1 2 []) := by decide +kernel
  refine (noSilentLoss_iff (reachable_device twoPorts) firstPort (frameBytes 1 2 []) 0).mpr ?_
  refine ⟨by rw [hverdict]; simp, by rw [hverdict]; simp, ?_⟩
  intro disposition requested frame h
  rw [hverdict, Verdict.egress.injEq] at h
  obtain ⟨_, rfl, rfl⟩ := h
  exact ⟨⟨secondPort, by simp, accessPort secondPort, rfl, rfl⟩, by decide +kernel⟩

open Example in
/-- A port of the smallest MTU. -/
def smallPort : Operation :=
  .createPort { accessPort firstPort with mtu := 64, mtu_bounds := by decide } 4

open Example in
/-- A payload above the ingress MTU is counted on arrival and dropped without
any drop counter. -/
theorem silent_oversized_ingress :
    (device [smallPort]).Reachable ∧
      ¬ NoSilentLoss (device [smallPort]) firstPort (frameBytes 1 2 (List.replicate 65 0)) 0 ∧
      ((device [smallPort]).processPacket firstPort
        (frameBytes 1 2 (List.replicate 65 0)) 0).1.disposition = .dropped := by
  refine ⟨reachable_device [smallPort], ?_, by decide +kernel⟩
  exact silent_of_exit (Or.inl (by decide +kernel))

-- ---------------------------------------------------------------------------
-- Truthful reasons
-- ---------------------------------------------------------------------------

/-- The counter of the cause that a reason names. -/
def reasonCounter : PacketDropReason → Option TrafficCounter
  | .malformedFrame | .malformedIpv4 => some .parseErrors
  | .vlanRejected => some .vlanDrops
  | .routeMiss => some .routeMisses
  | .ttlExpired => some .ttlExpirations
  | .neighborMiss => some .neighborMisses
  | .injectedFault => some .faultDrops
  | .resourceExhaustion => some .resourceExhaustion
  | .queueCongestion => some .queueDrops
  | .none | .ingressPortUnavailable | .forwardingFiltered | .egressPortUnavailable => none

/-- The reported reason comes with its counter, and a filtered frame is reported
as filtered. -/
def Truthful (asic : SoftwareAsic) (ingressPort : PortId) (bytes : List UInt8)
    (now : TimePoint) : Prop :=
  (∀ counter, reasonCounter (asic.processPacket ingressPort bytes now).1.dropReason =
      some counter → Increases asic ingressPort bytes now counter) ∧
    (Increases asic ingressPort bytes now .filteredFrames →
      (asic.processPacket ingressPort bytes now).1.dropReason = .forwardingFiltered)

/-- The pipeline drops for a VLAN cause only, and a packet that reaches
`enqueue_outputs` has a copy that is enqueued or refused by a queue. -/
def ReasonMatches (asic : SoftwareAsic) (ingressPort : PortId) (bytes : List UInt8)
    (now : TimePoint) : Prop :=
  (∀ reason, asic.verdict ingressPort bytes now = .filtered reason →
      pipelineDropCounter reason = .vlanDrops) ∧
    ∀ disposition requested frame,
      asic.verdict ingressPort bytes now = .egress disposition requested frame →
      ∃ copy ∈ copies asic asic.faultInjector.advance frame requested,
        copy.2.isEnqueued = true ∨ copy.2 = .congested

theorem reasonCounter_mem {reason : PacketDropReason} {counter : TrafficCounter}
    (h : reasonCounter reason = some counter) : counter ∈ dropCounters := by
  cases reason with
  | none | ingressPortUnavailable | forwardingFiltered | egressPortUnavailable =>
    simp [reasonCounter] at h
  | malformedFrame | vlanRejected | malformedIpv4 | routeMiss | ttlExpired | neighborMiss
  | queueCongestion | injectedFault | resourceExhaustion =>
    rw [← Option.some.inj h]
    decide

/-- Only a full or closed queue counts a queue drop, and no copy a filtered frame. -/
theorem copy_counter_eq {fate : CopyFate} :
    (fate.counter = some .queueDrops ↔ fate = .congested) ∧
      fate.counter ≠ some .filteredFrames := by
  cases fate with
  | faulted reason => cases reason <;> simp [CopyFate.counter, faultCounter]
  | unavailable | oversized | congested | enqueued => simp [CopyFate.counter]

/-- Away from the egress loop, the reason of an exit is true exactly if the exit is
no filtered frame of a non-VLAN cause. -/
theorem truthful_of_exit {asic : SoftwareAsic} {ingressPort : PortId} {bytes : List UInt8}
    {now : TimePoint}
    (h : ∀ disposition requested frame,
      asic.verdict ingressPort bytes now ≠ .egress disposition requested frame) :
    Truthful asic ingressPort bytes now ↔
      ∀ reason, asic.verdict ingressPort bytes now = .filtered reason →
        pipelineDropCounter reason = .vlanDrops := by
  have hmoves : ∀ counter ∈ dropCounters, Increases asic ingressPort bytes now counter ↔
      (asic.verdict ingressPort bytes now).counter = some counter :=
    fun _ => increases_iff_of_exit asic ingressPort bytes now h
  rw [Truthful, (processPacket_of_exit h).2]
  cases hverdict : asic.verdict ingressPort bytes now with
  | egress disposition requested frame => exact absurd hverdict (h disposition requested frame)
  | filtered reason =>
    rw [hverdict] at hmoves
    constructor
    · rintro ⟨htrue, _⟩ other heq
      rw [Verdict.filtered.injEq] at heq
      have hvlan := (hmoves .vlanDrops (by decide)).mp (htrue .vlanDrops rfl)
      rw [← heq]
      exact Option.some.inj hvlan
    · intro hvlan
      refine ⟨?_, ?_⟩
      · intro counter hcounter
        rw [hmoves counter (reasonCounter_mem hcounter), Verdict.counter, hvlan reason rfl]
        exact hcounter
      · rw [hmoves .filteredFrames (by decide), Verdict.counter, hvlan reason rfl]
        simp
  | faulted reason =>
    rw [hverdict] at hmoves
    refine iff_of_true ⟨?_, ?_⟩ (by simp)
    · intro counter hcounter
      rw [hmoves counter (reasonCounter_mem hcounter)]
      cases reason <;> exact hcounter
    · rw [hmoves .filteredFrames (by decide)]
      cases reason <;> simp [Verdict.counter, faultCounter]
  | unavailable | oversized | controlPlane | egressUnavailable =>
    rw [hverdict] at hmoves
    refine iff_of_true ⟨by simp [Verdict.dropReason, reasonCounter], ?_⟩ (by simp)
    rw [hmoves .filteredFrames (by decide)]
    simp [Verdict.counter]
  | malformedFrame | malformedArp | malformedIpv4 | routeMiss | ttlExpired | neighborMiss =>
    rw [hverdict] at hmoves
    refine iff_of_true ⟨?_, ?_⟩ (by simp)
    · intro counter hcounter
      rw [hmoves counter (reasonCounter_mem hcounter)]
      exact hcounter
    · rw [hmoves .filteredFrames (by decide)]
      simp [Verdict.counter]

/-- **The reported reason is true exactly if the pipeline drops for a VLAN cause
only, and a packet that ends without an accepted copy has met a queue.** -/
theorem truthful_iff (asic : SoftwareAsic) (ingressPort : PortId) (bytes : List UInt8)
    (now : TimePoint) :
    Truthful asic ingressPort bytes now ↔ ReasonMatches asic ingressPort bytes now := by
  by_cases hegress : ∃ disposition requested frame,
      asic.verdict ingressPort bytes now = .egress disposition requested frame
  · obtain ⟨disposition, requested, frame, hverdict⟩ := hegress
    have hmoves : ∀ counter ∈ dropCounters, Increases asic ingressPort bytes now counter ↔
        ∃ copy ∈ copies asic asic.faultInjector.advance frame requested,
          copy.2.counter = some counter := by
      intro counter hcounter
      rw [increases_iff asic ingressPort bytes now hcounter, packetCopies, hverdict,
        requestedCopies]
      simp [Verdict.counter]
    have hunfiltered : ¬ Increases asic ingressPort bytes now .filteredFrames := by
      rw [hmoves .filteredFrames (by decide)]
      rintro ⟨copy, _, hcounter⟩
      exact copy_counter_eq.2 hcounter
    have hmatches : ReasonMatches asic ingressPort bytes now ↔
        ∃ copy ∈ copies asic asic.faultInjector.advance frame requested,
          copy.2.isEnqueued = true ∨ copy.2 = .congested := by
      rw [ReasonMatches, hverdict]
      constructor
      · exact fun h => h.2 disposition requested frame rfl
      · intro h
        refine ⟨by simp, fun _ _ _ heq => ?_⟩
        rw [Verdict.egress.injEq] at heq
        rw [← heq.2.1, ← heq.2.2]
        exact h
    rw [hmatches, Truthful]
    rcases processPacket_of_egress hverdict with ⟨⟨copy, hcopy, haccepted⟩, _, hreason⟩ |
      ⟨hrefused, _, hreason⟩
    · rw [hreason]
      exact iff_of_true ⟨by simp [reasonCounter], fun h => absurd h hunfiltered⟩
        ⟨copy, hcopy, Or.inl haccepted⟩
    · rw [hreason]
      constructor
      · rintro ⟨htrue, _⟩
        obtain ⟨copy, hcopy, hcounter⟩ := (hmoves .queueDrops (by decide)).mp
          (htrue .queueDrops rfl)
        exact ⟨copy, hcopy, Or.inr (copy_counter_eq.1.mp hcounter)⟩
      · rintro ⟨copy, hcopy, haccepted | hcongested⟩
        · rw [hrefused copy hcopy] at haccepted
          simp at haccepted
        · refine ⟨?_, fun h => absurd h hunfiltered⟩
          intro counter hcounter
          rw [reasonCounter, Option.some.injEq] at hcounter
          rw [← hcounter, hmoves .queueDrops (by decide)]
          exact ⟨copy, hcopy, copy_counter_eq.1.mpr hcongested⟩
  · rw [truthful_of_exit fun disposition requested frame heq =>
      hegress ⟨disposition, requested, frame, heq⟩]
    refine ⟨fun h => ⟨h, fun disposition requested frame heq => ?_⟩, fun h => h.1⟩
    exact absurd ⟨disposition, requested, frame, heq⟩ hegress

open Example in
/-- A frame that the pipeline filters, since its destination is on the ingress
port, counts a filtered frame and is reported as rejected by its VLAN. -/
theorem filtered_reported_as_vlan :
    (device twoPorts).Reachable ∧
      ¬ Truthful (device twoPorts) firstPort (frameBytes 1 1 []) 0 ∧
      ((device twoPorts).processPacket firstPort (frameBytes 1 1 []) 0).1 =
        dropped .vlanRejected 0 := by
  refine ⟨reachable_device twoPorts, ?_, by decide +kernel⟩
  rintro ⟨_, hfiltered⟩
  have hcounted : Increases (device twoPorts) firstPort (frameBytes 1 1 []) 0 .filteredFrames := by
    rw [Increases]
    decide +kernel
  exact absurd (hfiltered hcounted) (by decide +kernel)

end SiliconSwitch.Asic.SoftwareAsic
