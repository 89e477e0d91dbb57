import SiliconSwitch.Asic.Components
import SiliconSwitch.Library.Periods
import SiliconSwitch.Library.Transition

/-!
# Fault rates

What a `FaultInjector` does to a sequence of packets. A packet's fate depends on its number,
and every packet takes one, so the rates of loss and corruption are exact.

* `getElem?_outcomes` — the fate of each packet of a sequence, from its number;
* `fault_rates`       — how many packets are dropped and how many corrupted.
-/

namespace SiliconSwitch.Asic

open SiliconSwitch.Library SiliconSwitch.Routing

namespace FaultInjector

/-- A packet and what `process` returns for it. -/
abbrev Outcome : Type := List UInt8 × Except FaultDropReason FaultInjectedPacket

/-- `process` on the next packet of a sequence. -/
def offer (injector : FaultInjector) (arrival : PortId × List UInt8) : Outcome × FaultInjector :=
  let (result, injector) := injector.process arrival.1 arrival.2
  ((arrival.2, result), injector)

/-- A sequence of packets, with their outcomes. -/
def outcomes (injector : FaultInjector) (arrivals : List (PortId × List UInt8)) : List Outcome :=
  outputs offer injector arrivals

/-- The injector after a sequence of packets. -/
def processAll (injector : FaultInjector) (arrivals : List (PortId × List UInt8)) :
    FaultInjector :=
  run (fun injector arrival => (injector.offer arrival).2) injector arrivals

/-- The injector as it takes the packet of a number. -/
def numbered (injector : FaultInjector) (number : UInt64) : FaultInjector :=
  { injector with processedPackets := number }

-- ---------------------------------------------------------------------------
-- Outcomes
-- ---------------------------------------------------------------------------

def dropped : Outcome → Bool
  | (_, .error _) => true
  | (_, .ok _) => false

/-- Delivered with the low bit of the first byte flipped, and nothing else. -/
def flipped : Outcome → Bool
  | (front :: rest, .ok injected) => injected.bytes == (front ^^^ 0x01) :: rest
  | _ => false

def unchanged : Outcome → Bool
  | (packet, .ok injected) => injected.bytes == packet
  | _ => false

/-- No port has failed, resources are there, and both periods are set. -/
structure Periodic (config : FaultInjectionConfig) : Prop where
  failedPorts : config.failedPorts = ∅
  resourceExhausted : config.resourceExhausted = false
  drop_pos : 0 < config.dropEveryNthPacket
  corrupt_pos : 0 < config.corruptEveryNthPacket

-- ---------------------------------------------------------------------------
-- Sequences
-- ---------------------------------------------------------------------------

/-- **Every packet takes a number**, whatever becomes of it. -/
theorem processAll_eq (injector : FaultInjector) (arrivals : List (PortId × List UInt8)) :
    injector.processAll arrivals =
      injector.numbered (injector.processedPackets + UInt64.ofNat arrivals.length) := by
  induction arrivals generalizing injector with
  | nil =>
    show injector = injector.numbered (injector.processedPackets + 0)
    rw [UInt64.add_zero]
    rfl
  | cons arrival rest ih =>
    have hlength : UInt64.ofNat (rest.length + 1) = 1 + UInt64.ofNat rest.length := by
      rw [Nat.add_comm, UInt64.ofNat_add]
      rfl
    show injector.advance.processAll rest = _
    rw [ih, List.length_cons, hlength, ← UInt64.add_assoc]
    rfl

/-- **The fate of a packet is decided by its number.** -/
theorem getElem?_outcomes (injector : FaultInjector) (arrivals : List (PortId × List UInt8))
    (k : Nat) :
    (injector.outcomes arrivals)[k]? = arrivals[k]?.map fun arrival =>
      (arrival.2, (injector.numbered (injector.processedPackets + UInt64.ofNat (k + 1))).inject
        arrival.1 arrival.2) := by
  rw [outcomes, getElem?_outputs]
  cases harrival : arrivals[k]? with
  | none => rfl
  | some arrival =>
    have hbefore : (arrivals.take k).length = k :=
      List.length_take_of_le (List.getElem?_eq_some_iff.mp harrival).1.le
    have hreached := injector.processAll_eq (arrivals.take k)
    rw [hbefore] at hreached
    show some (arrival.2, ((injector.processAll (arrivals.take k)).advance).inject _ _) = _
    rw [hreached, UInt64.ofNat_add, ← UInt64.add_assoc]
    rfl

theorem length_outcomes (injector : FaultInjector) (arrivals : List (PortId × List UInt8)) :
    (injector.outcomes arrivals).length = arrivals.length := length_outputs ..

-- ---------------------------------------------------------------------------
-- Periods
-- ---------------------------------------------------------------------------

/-- A period is due at its multiples, as long as the numbers do not wrap. -/
theorem isDue_numbered_iff (injector : FaultInjector) {period : UInt64} (hperiod : 0 < period)
    {number : Nat} (hnumber : number < 2 ^ 64) :
    (injector.numbered (UInt64.ofNat number)).isDue period = true ↔ period.toNat ∣ number := by
  have hne : (period != 0) = true := bne_iff_ne.mpr (UInt64.ne_of_lt hperiod).symm
  rw [isDue, hne, Bool.true_and, beq_iff_eq, ← UInt64.toNat_inj, UInt64.toNat_mod,
    Nat.dvd_iff_mod_eq_zero]
  show (UInt64.ofNat number).toNat % period.toNat = 0 ↔ _
  rw [UInt64.toNat_ofNat_of_lt' hnumber]

/-- Flipping a bit changes a byte. -/
theorem xor_one_ne (front : UInt8) : front ^^^ 0x01 ≠ front := by
  intro h
  have hself : front ^^^ (front ^^^ 0x01) = front ^^^ front := by rw [h]
  rw [← UInt8.xor_assoc, UInt8.xor_self, UInt8.zero_xor] at hself
  exact absurd hself (by decide)

/-- Loss comes first, corruption next, and the rest goes through. -/
theorem inject_of_periodic {injector : FaultInjector} (h : Periodic injector.config)
    {number : Nat} (hnumber : number < 2 ^ 64) (port : PortId) (front : UInt8)
    (rest : List UInt8) :
    (injector.numbered (UInt64.ofNat number)).inject port (front :: rest) =
      if injector.config.dropEveryNthPacket.toNat ∣ number then .error .deterministicPacketLoss
      else if injector.config.corruptEveryNthPacket.toNat ∣ number then
        .ok ⟨(front ^^^ 0x01) :: rest, injector.config.latency, true⟩
      else .ok ⟨front :: rest, injector.config.latency, false⟩ := by
  have hport : port ∉ (injector.numbered (UInt64.ofNat number)).config.failedPorts := by
    show port ∉ injector.config.failedPorts
    rw [h.failedPorts]
    exact Finset.notMem_empty port
  have hresources :
      ¬ (injector.numbered (UInt64.ofNat number)).config.resourceExhausted = true := by
    show ¬ injector.config.resourceExhausted = true
    rw [h.resourceExhausted]
    exact Bool.false_ne_true
  have hdrop := isDue_numbered_iff injector h.drop_pos hnumber
  have hcorrupt := isDue_numbered_iff injector h.corrupt_pos hnumber
  rw [inject, if_neg hport, if_neg hresources]
  by_cases hdropped : injector.config.dropEveryNthPacket.toNat ∣ number
  · rw [if_pos hdropped]
    exact if_pos (hdrop.mpr hdropped)
  · rw [if_neg hdropped]
    refine (if_neg fun hdue => hdropped (hdrop.mp hdue)).trans ?_
    by_cases hflipped : injector.config.corruptEveryNthPacket.toNat ∣ number
    · rw [if_pos hflipped]
      exact if_pos (hcorrupt.mpr hflipped)
    · rw [if_neg hflipped]
      exact if_neg fun hdue => hflipped (hcorrupt.mp hdue)

-- ---------------------------------------------------------------------------
-- Rates
-- ---------------------------------------------------------------------------

section Rates

variable {injector : FaultInjector} {arrivals : List (PortId × List UInt8)}
  (h : Periodic injector.config) (hnonempty : ∀ arrival ∈ arrivals, arrival.2 ≠ [])
  (hlength : arrivals.length < 2 ^ 64)
include h hnonempty hlength

/-- The fate of the packet at a position of a sequence from a reset counter. -/
theorem outcome_cases {k : Nat} {outcome : Outcome}
    (houtcome : (injector.resetSequence.outcomes arrivals)[k]? = some outcome) :
    ∃ front rest, outcome =
      (front :: rest,
        if injector.config.dropEveryNthPacket.toNat ∣ k + 1 then .error .deterministicPacketLoss
        else if injector.config.corruptEveryNthPacket.toNat ∣ k + 1 then
          .ok ⟨(front ^^^ 0x01) :: rest, injector.config.latency, true⟩
        else .ok ⟨front :: rest, injector.config.latency, false⟩) := by
  rw [getElem?_outcomes, Option.map_eq_some_iff] at houtcome
  obtain ⟨⟨port, packet⟩, harrival, rfl⟩ := houtcome
  obtain ⟨hk, -⟩ := List.getElem?_eq_some_iff.mp harrival
  obtain ⟨front, rest, rfl⟩ :=
    List.exists_cons_of_ne_nil (hnonempty _ (List.mem_of_getElem? harrival))
  refine ⟨front, rest, ?_⟩
  have hreset : injector.resetSequence.processedPackets + UInt64.ofNat (k + 1) =
      UInt64.ofNat (k + 1) := UInt64.zero_add _
  have hnumber : k + 1 < 2 ^ 64 := by omega
  rw [hreset, ← inject_of_periodic h hnumber port]
  rfl

theorem countP_dropped :
    (injector.resetSequence.outcomes arrivals).countP dropped =
      arrivals.length / injector.config.dropEveryNthPacket.toNat := by
  rw [← count_dvd, ← length_outcomes injector.resetSequence arrivals]
  refine countP_eq_count fun k outcome houtcome => ?_
  obtain ⟨front, rest, rfl⟩ := outcome_cases h hnonempty hlength houtcome
  by_cases hdrop : injector.config.dropEveryNthPacket.toNat ∣ k + 1
  · simp [hdrop, dropped]
  · by_cases hcorrupt : injector.config.corruptEveryNthPacket.toNat ∣ k + 1
    · simp [hdrop, hcorrupt, dropped]
    · simp [hdrop, hcorrupt, dropped]

theorem countP_flipped :
    (injector.resetSequence.outcomes arrivals).countP flipped =
      arrivals.length / injector.config.corruptEveryNthPacket.toNat -
        arrivals.length / Nat.lcm injector.config.corruptEveryNthPacket.toNat
          injector.config.dropEveryNthPacket.toNat := by
  rw [← count_dvd_not_dvd, ← length_outcomes injector.resetSequence arrivals]
  refine countP_eq_count fun k outcome houtcome => ?_
  obtain ⟨front, rest, rfl⟩ := outcome_cases h hnonempty hlength houtcome
  by_cases hdrop : injector.config.dropEveryNthPacket.toNat ∣ k + 1
  · simp [hdrop, flipped]
  · by_cases hcorrupt : injector.config.corruptEveryNthPacket.toNat ∣ k + 1
    · simp [hdrop, hcorrupt, flipped]
    · simp [hdrop, hcorrupt, flipped, (xor_one_ne front).symm]

/-- What is neither dropped nor corrupted is delivered as it was. -/
theorem unchanged_of_mem {outcome : Outcome}
    (hmem : outcome ∈ injector.resetSequence.outcomes arrivals)
    (hdropped : dropped outcome = false) (hflipped : flipped outcome = false) :
    unchanged outcome = true := by
  obtain ⟨k, houtcome⟩ := List.getElem?_of_mem hmem
  obtain ⟨front, rest, rfl⟩ := outcome_cases h hnonempty hlength houtcome
  by_cases hdrop : injector.config.dropEveryNthPacket.toNat ∣ k + 1
  · simp [hdrop, dropped] at hdropped
  · by_cases hcorrupt : injector.config.corruptEveryNthPacket.toNat ∣ k + 1
    · simp [hdrop, hcorrupt, flipped] at hflipped
    · simp [hdrop, hcorrupt, unchanged]

end Rates

/-- A packet that is rejected for its port or for want of resources takes a number too. -/
theorem process_of_rejected {injector : FaultInjector} {port : PortId}
    (h : port ∈ injector.config.failedPorts ∨ injector.config.resourceExhausted = true)
    (packet : List UInt8) :
    ((injector.process port packet).1 = .error .failedPort ∨
        (injector.process port packet).1 = .error .resourceExhaustion) ∧
      (injector.process port packet).2.processedPackets = injector.processedPackets + 1 := by
  refine ⟨?_, rfl⟩
  by_cases hport : port ∈ injector.config.failedPorts
  · exact Or.inl (if_pos hport)
  · have hresources := h.resolve_left hport
    exact Or.inr ((if_neg hport).trans (if_pos hresources))

/-- **Deterministic fault rates are exact.** Of the packets processed from a reset counter,
every `d`-th is dropped, of the others every `c`-th is corrupted in one bit, and the rest go
through; packets that are rejected for another reason are counted as well. -/
theorem fault_rates :
    (∀ (injector : FaultInjector) (arrivals : List (PortId × List UInt8)),
      Periodic injector.config → (∀ arrival ∈ arrivals, arrival.2 ≠ []) →
      arrivals.length < 2 ^ 64 →
      (injector.resetSequence.outcomes arrivals).countP dropped =
          arrivals.length / injector.config.dropEveryNthPacket.toNat ∧
        (injector.resetSequence.outcomes arrivals).countP flipped =
          arrivals.length / injector.config.corruptEveryNthPacket.toNat -
            arrivals.length / Nat.lcm injector.config.corruptEveryNthPacket.toNat
              injector.config.dropEveryNthPacket.toNat ∧
        ∀ outcome ∈ injector.resetSequence.outcomes arrivals,
          dropped outcome = false → flipped outcome = false → unchanged outcome = true) ∧
    (∀ (injector : FaultInjector) (port : PortId) (packet : List UInt8),
      port ∈ injector.config.failedPorts ∨ injector.config.resourceExhausted = true →
      ((injector.process port packet).1 = .error .failedPort ∨
          (injector.process port packet).1 = .error .resourceExhaustion) ∧
        (injector.process port packet).2.processedPackets = injector.processedPackets + 1) ∧
    ∀ (injector : FaultInjector) (arrivals : List (PortId × List UInt8)),
      (injector.processAll arrivals).processedPackets =
        injector.processedPackets + UInt64.ofNat arrivals.length := by
  refine ⟨fun injector arrivals h hnonempty hlength => ?_,
    fun injector port packet h => process_of_rejected h packet, fun injector arrivals => ?_⟩
  · exact ⟨countP_dropped h hnonempty hlength, countP_flipped h hnonempty hlength,
      fun outcome hmem => unchanged_of_mem h hnonempty hlength hmem⟩
  · rw [processAll_eq]
    rfl

/-- Six packets under the periods 2 and 3: three are dropped and one is corrupted. -/
theorem fault_rates_six :
    let injector : FaultInjector :=
      ⟨{ dropEveryNthPacket := 2, corruptEveryNthPacket := 3 }, 17, Int.le_refl 0⟩
    let arrivals : List (PortId × List UInt8) := List.replicate 6 (⟨41, by decide⟩, [16, 32])
    (injector.resetSequence.outcomes arrivals).countP dropped = 3 ∧
      (injector.resetSequence.outcomes arrivals).countP flipped = 1 := by
  intro injector arrivals
  have hperiodic : Periodic injector.config := ⟨rfl, rfl, by decide, by decide⟩
  have hnonempty : ∀ arrival ∈ arrivals, arrival.2 ≠ [] := by
    intro arrival hmem
    rw [List.eq_of_mem_replicate hmem]
    simp
  obtain ⟨hdropped, hflipped, -⟩ :=
    fault_rates.1 injector arrivals hperiodic hnonempty (by decide)
  exact ⟨hdropped.trans (by decide), hflipped.trans (by decide +kernel)⟩

end FaultInjector

end SiliconSwitch.Asic
