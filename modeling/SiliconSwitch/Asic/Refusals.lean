import SiliconSwitch.Asic.View
import SiliconSwitch.Library.Unwinding

/-!
# Refused packets leave no trace

A packet does not arrive if its port is missing or down, if a fault discards it, if it is
no frame or if the frame is too large for the port. The device then counts it, and does
nothing else: while no fault depends on the count of packets, every other call answers as
if the packet had not been sent. So a device recovers from an outage completely.

* `fullView_hidden` — a packet that does not arrive keeps everything that can be seen;
* `fullView_shown`  — every call answers alike on states that look alike;
* `refused_packets_leave_no_trace` — so they can be left out of any run.
-/

namespace SiliconSwitch.Asic.SoftwareAsic

open SiliconSwitch.Library SiliconSwitch.Network SiliconSwitch.Routing SiliconSwitch.Switching

/-- All calls but the packets that do not arrive, and the counters. -/
def arrives (asic : SoftwareAsic) : Call → Bool
  | .operation (.processPacket ingressPort bytes _) =>
    match asic.arrival ingressPort bytes with
    | .error _ => false
    | .ok _ => true
  | .counters => false
  | _ => true

/-- Two states that look the same from all ports. -/
abbrev FullView : SoftwareAsic → SoftwareAsic → Prop := SameView Eq fun _ => true

section View

variable {first second : SoftwareAsic}

theorem FullView.symm (h : FullView first second) : FullView second first :=
  SameView.symm Eq.symm h

theorem FullView.sameForwarding (h : FullView first second) : SameForwarding first second where
  toSameProgramming := h.toSameProgramming
  macTable := h.entries.symm
  arpCache := h.arpCache

/-- A consistent state keeps no queue without its port, so that all queues are watched. -/
theorem FullView.queues (h : FullView first second) (hprogrammed : Programmed first)
    (id : PortId) : second.queues.find? id = first.queues.find? id := by
  cases hport : first.ports.find? id with
  | some port => exact h.viewed id (watches_eq_true.mpr ⟨port, hport, rfl⟩)
  | none =>
    have hfirst := (hprogrammed.queue_iff id).mpr hport
    rw [hfirst, optionRel_none_iff (h.toSameProgramming.queues id), hfirst]

/-- What looks the same is as consistent. -/
theorem FullView.programmed (h : FullView first second) (hprogrammed : Programmed first) :
    Programmed second :=
  hprogrammed.of_sameProgramming h.toSameProgramming (by
    rw [← h.entries]
    exact hprogrammed.dynamic)

/-- **A packet that does not arrive keeps everything that can be seen.** -/
theorem fullView_hidden {asic : SoftwareAsic} {call : Call} (hrefused : asic.arrives call = false) :
    FullView asic (asic.respond call).2 := by
  cases call with
  | operation operation =>
    cases operation with
    | processPacket ingressPort bytes now =>
      cases harrival : asic.arrival ingressPort bytes with
      | ok arrived => simp [arrives, harrival] at hrefused
      | error early =>
        have hexit : ∀ disposition requested frame,
            asic.verdict ingressPort bytes now ≠ .egress disposition requested frame := by
          intro disposition requested frame
          rw [verdict, harrival]
          exact arrival_error_ne_egress harrival
        exact {
          toSameProgramming := sameProgramming_processPacket asic ingressPort bytes now
          arpCache := by
            show (asic.processPacket ingressPort bytes now).2.arpCache = asic.arpCache
            rw [processPacket_arpCache, heardNeighbor, harrival]
            rfl
          entries := by
            show asic.macTable = (asic.processPacket ingressPort bytes now).2.macTable
            rw [processPacket_macTable, harrival]
          viewed := fun id _ => by
            show (asic.processPacket ingressPort bytes now).2.queues.find? id = _
            rw [processPacket_queues hexit] }
    | _ => simp [arrives] at hrefused
  | counters => exact SameView.refl (fun _ => rfl) asic
  | _ => simp [arrives] at hrefused

theorem verdict_of_fullView (h : FullView first second)
    (hunpaced : Unpaced first.faultInjector.config) (ingressPort : PortId) (bytes : List UInt8)
    (now : TimePoint) :
    second.verdict ingressPort bytes now = first.verdict ingressPort bytes now := by
  obtain ⟨hearly, hok⟩ :=
    arrival_of_sameProgramming h.toSameProgramming hunpaced ingressPort bytes
  rw [verdict, verdict]
  cases harrival : first.arrival ingressPort bytes with
  | error early => rw [hearly early harrival]
  | ok arrived =>
    obtain ⟨port, frame⟩ := arrived
    obtain ⟨current, hcurrent, hsame⟩ := hok port frame harrival
    rw [hcurrent]
    dsimp only
    rw [pipeline_congr h.sameForwarding hsame, decisionVerdict_congr h.sameForwarding]

/-- A packet has the same result on states that look alike, and keeps them so. -/
theorem fullView_processPacket (h : FullView first second) (hprogrammed : Programmed first)
    (hunpaced : Unpaced first.faultInjector.config) (ingressPort : PortId) (bytes : List UInt8)
    (now : TimePoint) :
    (first.processPacket ingressPort bytes now).1 =
        (second.processPacket ingressPort bytes now).1 ∧
      FullView (first.processPacket ingressPort bytes now).2
        (second.processPacket ingressPort bytes now).2 := by
  obtain ⟨hresult, hqueues⟩ := processPacket_alike h.toSameProgramming hunpaced
    (verdict_of_fullView h hunpaced ingressPort bytes now)
    fun _ _ _ _ id _ => h.queues hprogrammed id
  obtain ⟨hearly, hok⟩ :=
    arrival_of_sameProgramming h.toSameProgramming hunpaced ingressPort bytes
  refine ⟨hresult, ?_⟩
  exact {
    toSameProgramming :=
      ((sameProgramming_processPacket first ingressPort bytes now).symm.trans
        h.toSameProgramming).trans (sameProgramming_processPacket second ingressPort bytes now)
    arpCache := by
      have hheard : second.heardNeighbor ingressPort bytes now =
          first.heardNeighbor ingressPort bytes now := by
        rw [heardNeighbor, heardNeighbor]
        cases harrival : first.arrival ingressPort bytes with
        | error early => rw [hearly early harrival]
        | ok arrived =>
          obtain ⟨current, hcurrent, hsame⟩ := hok arrived.1 arrived.2 harrival
          rw [hcurrent]
          dsimp only
          rw [pipeline_congr h.sameForwarding hsame]
      rw [processPacket_arpCache, processPacket_arpCache, hheard, h.arpCache]
    entries := by
      rw [processPacket_macTable, processPacket_macTable]
      cases harrival : first.arrival ingressPort bytes with
      | error early =>
        rw [hearly early harrival]
        exact h.entries
      | ok arrived =>
        obtain ⟨current, hcurrent, hsame⟩ := hok arrived.1 arrived.2 harrival
        rw [hcurrent]
        dsimp only
        rw [pipeline_congr h.sameForwarding hsame]
    viewed := fun id _ => hqueues id (h.queues hprogrammed id) }

/-- **Every call that is not of the counters answers alike**, and keeps the states alike. -/
theorem fullView_shown (h : FullView first second) (hprogrammed : Programmed first)
    (hunpaced : Unpaced first.faultInjector.config) {call : Call} (hcall : call ≠ .counters) :
    (first.respond call).1 = (second.respond call).1 ∧
      FullView (first.respond call).2 (second.respond call).2 := by
  have hquery := @sameView_query _ _ _ _ h call
  cases call with
  | operation operation =>
    have hcontrol := @sameView_control _ _ _ _ h hprogrammed (h.programmed hprogrammed) operation
    cases operation with
    | processPacket ingressPort bytes now =>
      obtain ⟨hresult, hview⟩ := fullView_processPacket h hprogrammed hunpaced ingressPort bytes now
      exact ⟨congrArg Answer.packet hresult, hview⟩
    | dequeuePacket port =>
      obtain ⟨hbytes, hview⟩ := sameView_dequeuePacket h (h.queues hprogrammed port)
      exact ⟨congrArg Answer.bytes hbytes, hview⟩
    | _ => exact hcontrol (by simp) (by simp)
  | counters => exact absurd rfl hcall
  | hasPort | hasVlan | findRoute | findNeighbor => exact hquery (by simp) (by simp)

end View

-- ---------------------------------------------------------------------------
-- Runs
-- ---------------------------------------------------------------------------

theorem unwinding_fullView :
    Unwinding respond arrives
      (fun asic => Programmed asic ∧ Unpaced asic.faultInjector.config) FullView where
  symm := FullView.symm
  hidden := fun _ _ h hrefused =>
    SameView.trans Eq.trans (FullView.symm (fullView_hidden hrefused)) h
  shown := fun {_ _} call hfirst _ h harrives =>
    fullView_shown h hfirst.1 hfirst.2 (by rintro rfl; simp [arrives] at harrives)

/-- A run without fault periods, with the invariant beside it. -/
theorem eachStep_unpaced {asic : SoftwareAsic} (h : Programmed asic) {calls : List Call}
    (hunpaced : EachStep (afterCall respond)
      (fun asic _ => Unpaced asic.faultInjector.config) asic calls) :
    EachStep (afterCall respond)
      (fun asic _ => Programmed asic ∧ Unpaced asic.faultInjector.config) asic calls := by
  induction calls generalizing asic with
  | nil => trivial
  | cons call rest ih => exact ⟨⟨h, hunpaced.1⟩, ih (programmed_respond h call) hunpaced.2⟩

/-- **Refused packets leave no trace.** In any run from a reachable state in which no drop
or corruption period is ever configured, take away the queries of the counters and every
packet that does not arrive, because its port is missing or down, a fault has discarded
it, or it is malformed or too large for its port. The calls that remain answer, by
themselves, exactly as they did in the run: results, latencies, dequeued octets, statuses
and lookups. An outage that only refuses packets is over when its cause is. -/
theorem refused_packets_leave_no_trace {asic : SoftwareAsic} (h : asic.Reachable)
    {calls : List Call}
    (hunpaced : EachStep (afterCall respond)
      (fun asic _ => Unpaced asic.faultInjector.config) asic calls) :
    outputs respond asic ((transcript respond arrives asic calls).map Prod.fst) =
      (transcript respond arrives asic calls).map Prod.snd := by
  refine unwinding_fullView.outputs_visible ?_ (SameView.refl (fun _ => rfl) asic)
    (eachStep_unpaced h.programmed hunpaced)
  rintro first second hview ⟨hprogrammed, hpaced⟩
  refine ⟨FullView.programmed hview hprogrammed, ?_⟩
  rw [hview.faultConfig]
  exact hpaced

namespace OutageExample

open Example

/-- The ingress port fails, a packet is lost, and the fault is cleared. -/
def outage : List Call :=
  [.operation (.configureFaults { failedPorts := {firstPort} }),
   .operation (.processPacket firstPort (frameBytes 1 2 [6]) 1),
   .operation (.configureFaults {}),
   .operation (.processPacket firstPort (frameBytes 1 2 [8]) 2)]

end OutageExample

open Example OutageExample in
/-- The packet after the outage is forwarded as if the lost one had not been sent. -/
theorem refused_packets_leave_no_trace_outage :
    outputs respond (device twoPorts)
        [outage[0], outage[2], outage[3]] =
      [.status .success, .status .success, .packet ⟨.flooded, .none, [secondPort], 0⟩] := by
  have htrace := @refused_packets_leave_no_trace (device twoPorts) (reachable_device twoPorts)
    outage ⟨⟨rfl, rfl⟩, ⟨rfl, rfl⟩, ⟨rfl, rfl⟩, ⟨rfl, rfl⟩, trivial⟩
  have hseen : transcript respond arrives (device twoPorts) outage =
      [(outage[0], .status .success), (outage[2], .status .success),
       (outage[3], .packet ⟨.flooded, .none, [secondPort], 0⟩)] := rfl
  rw [hseen] at htrace
  exact htrace

end SiliconSwitch.Asic.SoftwareAsic
