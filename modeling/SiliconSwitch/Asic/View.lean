import SiliconSwitch.Asic.FailedCalls
import SiliconSwitch.Asic.PacketEffects

/-!
# Views of the device

Two devices that look the same to an observer who watches some of the ports: alike
programmed, with the same frames in the watched queues and with MAC tables that agree as
far as the observer is concerned. Port counters, traffic statistics and the sequence
number of the injector are not part of a view.

* `arrival_of_sameProgramming` — without fault periods the same frame arrives.
* `processPacket_alike`        — a packet with the same exit has the same result, and
  leaves watched queues the same.
* `sameView_control`           — control operations answer alike, and keep the view.
* `sameView_query`             — so do the queries, but for the counters.
-/

namespace SiliconSwitch.Asic.SoftwareAsic

open SiliconSwitch.Library SiliconSwitch.Network SiliconSwitch.Routing SiliconSwitch.Switching
open SiliconSwitch.Switching.VirtualPort (SameConfiguration)

-- ---------------------------------------------------------------------------
-- The relation
-- ---------------------------------------------------------------------------

/-- Whether `id` is a port of a configuration that the observer watches. -/
def watches (asic : SoftwareAsic) (sees : VlanPortConfig → Bool) (id : PortId) : Bool :=
  match asic.ports.find? id with
  | none => false
  | some port => sees port.vlanConfig

/-- No fault depends on the count of packets. -/
def Unpaced (config : FaultInjectionConfig) : Prop :=
  config.dropEveryNthPacket = 0 ∧ config.corruptEveryNthPacket = 0

/-- Two states that look the same from the watched ports. -/
structure SameView (mac : MacTable → MacTable → Prop) (sees : VlanPortConfig → Bool)
    (first second : SoftwareAsic) : Prop extends SameProgramming first second where
  arpCache : second.arpCache = first.arpCache
  entries : mac first.macTable second.macTable
  viewed : ∀ id, first.watches sees id = true → second.queues.find? id = first.queues.find? id

section Relations

variable {mac : MacTable → MacTable → Prop} {sees : VlanPortConfig → Bool}
  {first second third : SoftwareAsic}

theorem watches_eq_true {asic : SoftwareAsic} {id : PortId} :
    asic.watches sees id = true ↔
      ∃ port, asic.ports.find? id = some port ∧ sees port.vlanConfig = true := by
  rw [watches]
  cases asic.ports.find? id with
  | none => simp
  | some port => simp

theorem watches_congr (h : SameProgramming first second) (id : PortId) :
    second.watches sees id = first.watches sees id := by
  rw [watches, watches]
  cases hport : first.ports.find? id with
  | none => rw [(h.port_none_iff id).mpr hport]
  | some port =>
    obtain ⟨current, hcurrent, hsame⟩ := h.port_of_some hport
    simp only [hcurrent, hsame.vlanConfig]

theorem optionRel_symm {α : Type} {r : α → α → Prop} {o₁ o₂ : Option α}
    (h : Option.Rel r o₁ o₂) (hsymm : ∀ {a b}, r a b → r b a) : Option.Rel r o₂ o₁ := by
  cases h with
  | none => exact .none
  | some hab => exact .some (hsymm hab)

theorem SameProgramming.symm (h : SameProgramming first second) :
    SameProgramming second first where
  ports := fun id => optionRel_symm (h.ports id) fun hsame =>
    ⟨hsame.id.symm, hsame.mac.symm, hsame.mtu.symm, hsame.vlanConfig.symm, hsame.operational.symm⟩
  queues := fun id => optionRel_symm (h.queues id) fun hsame =>
    ⟨hsame.capacity.symm, hsame.isClosed.symm⟩
  vlans := h.vlans.symm
  vlanMembers := h.vlanMembers.symm
  routerInterfaces := h.routerInterfaces.symm
  routeTable := h.routeTable.symm
  faultConfig := h.faultConfig.symm

namespace SameView

theorem refl (hrefl : ∀ table, mac table table) (asic : SoftwareAsic) :
    SameView mac sees asic asic where
  toSameProgramming := (SameForwarding.refl asic).toSameProgramming
  arpCache := rfl
  entries := hrefl asic.macTable
  viewed := fun _ _ => rfl

theorem symm (hsymm : ∀ {table other}, mac table other → mac other table)
    (h : SameView mac sees first second) : SameView mac sees second first where
  toSameProgramming := h.toSameProgramming.symm
  arpCache := h.arpCache.symm
  entries := hsymm h.entries
  viewed := by
    intro id hid
    rw [watches_congr h.toSameProgramming] at hid
    exact (h.viewed id hid).symm

theorem trans (htrans : ∀ {table other last}, mac table other → mac other last → mac table last)
    (h₁ : SameView mac sees first second) (h₂ : SameView mac sees second third) :
    SameView mac sees first third where
  toSameProgramming := h₁.toSameProgramming.trans h₂.toSameProgramming
  arpCache := h₂.arpCache.trans h₁.arpCache
  entries := htrans h₁.entries h₂.entries
  viewed := by
    intro id hid
    rw [h₂.viewed id (by rw [watches_congr h₁.toSameProgramming]; exact hid), h₁.viewed id hid]

end SameView

end Relations

-- ---------------------------------------------------------------------------
-- Packets
-- ---------------------------------------------------------------------------

section Packets

variable {first second : SoftwareAsic}

/-- Without periods the injector's answer does not depend on the count of packets. -/
theorem process_of_unpaced {injector other : FaultInjector} (hunpaced : Unpaced injector.config)
    (hconfig : other.config = injector.config) (id : PortId) (packet : List UInt8) :
    (other.process id packet).1 = (injector.process id packet).1 := by
  simp only [FaultInjector.process, FaultInjector.inject, FaultInjector.isDue,
    FaultInjector.advance_config, hconfig, hunpaced.1, hunpaced.2, bne_self_eq_false,
    Bool.false_and]

/-- The same frame arrives, through a port of the same configuration, or the same exit is
taken before. -/
theorem arrival_of_sameProgramming (h : SameProgramming first second)
    (hunpaced : Unpaced first.faultInjector.config) (ingressPort : PortId)
    (bytes : List UInt8) :
    (∀ early, first.arrival ingressPort bytes = .error early →
      second.arrival ingressPort bytes = .error early) ∧
      ∀ port frame, first.arrival ingressPort bytes = .ok (port, frame) →
        ∃ current, second.arrival ingressPort bytes = .ok (current, frame) ∧
          SameConfiguration port current := by
  rw [arrival, arrival, presented, presented,
    process_of_unpaced hunpaced h.faultConfig ingressPort bytes]
  cases hport : first.ports.find? ingressPort with
  | none =>
    rw [(h.port_none_iff ingressPort).mpr hport]
    exact ⟨fun _ hearly => hearly, by simp⟩
  | some port =>
    obtain ⟨current, hcurrent, hsame⟩ := h.port_of_some hport
    simp only [hcurrent, hsame.operational]
    cases port.operational with
    | false => exact ⟨fun _ hearly => hearly, by simp⟩
    | true =>
      simp only [Bool.not_true, Bool.false_eq_true, if_false]
      cases (first.faultInjector.process ingressPort bytes).1 with
      | error reason => exact ⟨fun _ hearly => hearly, by simp⟩
      | ok injected =>
        dsimp only
        cases EthernetFrame.parse injected.bytes with
        | none => exact ⟨fun _ hearly => hearly, by simp⟩
        | some frame =>
          dsimp only
          rw [hsame.mtu]
          by_cases hlarge : port.mtu < frame.payload.length
          · rw [if_pos hlarge, if_pos hlarge]
            exact ⟨fun _ hearly => hearly, by simp⟩
          · rw [if_neg hlarge, if_neg hlarge]
            refine ⟨by simp, ?_⟩
            intro found parsed hfound
            simp only [Except.ok.injEq, Prod.mk.injEq] at hfound
            obtain ⟨rfl, rfl⟩ := hfound
            exact ⟨current, rfl, hsame⟩

/-- A copy for a port with the same queue meets the same fate. -/
theorem copyFate_of_queue (h : SameProgramming first second) {injector other : FaultInjector}
    (hunpaced : Unpaced injector.config) (hconfig : other.config = injector.config)
    (frame : List UInt8) {id : PortId}
    (hqueue : second.queues.find? id = first.queues.find? id) :
    copyFate second other frame id = copyFate first injector frame id := by
  rw [copyFate, copyFate, hqueue, process_of_unpaced hunpaced hconfig id frame]
  cases hport : first.ports.find? id with
  | none => rw [(h.port_none_iff id).mpr hport]
  | some port =>
    obtain ⟨current, hcurrent, hsame⟩ := h.port_of_some hport
    rw [hcurrent]
    cases first.queues.find? id with
    | none => rfl
    | some queue => simp only [hsame.operational, hsame.mtu]

theorem copies_of_queues (h : SameProgramming first second) {injector other : FaultInjector}
    (hunpaced : Unpaced injector.config) (hconfig : other.config = injector.config)
    (frame : List UInt8) {requested : List PortId}
    (hqueues : ∀ id ∈ requested, second.queues.find? id = first.queues.find? id) :
    copies second other frame requested = copies first injector frame requested := by
  induction requested generalizing injector other with
  | nil => rfl
  | cons id rest ih =>
    have hfate := copyFate_of_queue h hunpaced hconfig frame (hqueues id (List.mem_cons_self ..))
    rw [copies, copies, hfate]
    refine congrArg _ (ih ?_ ?_ fun next hnext => hqueues next (List.mem_cons_of_mem _ hnext))
    · rw [injectorAfter_config]
      exact hunpaced
    · rw [injectorAfter_config, injectorAfter_config, hconfig]

/-- **A packet that takes the same exit has the same result**, and leaves a queue the same
that was the same. -/
theorem processPacket_alike (h : SameProgramming first second)
    (hunpaced : Unpaced first.faultInjector.config) {ingressPort : PortId} {bytes : List UInt8}
    {now : TimePoint}
    (hverdict : second.verdict ingressPort bytes now = first.verdict ingressPort bytes now)
    (hqueues : ∀ disposition requested frame,
      first.verdict ingressPort bytes now = .egress disposition requested frame →
      ∀ id ∈ requested, second.queues.find? id = first.queues.find? id) :
    (first.processPacket ingressPort bytes now).1 =
        (second.processPacket ingressPort bytes now).1 ∧
      ∀ id, second.queues.find? id = first.queues.find? id →
        (second.processPacket ingressPort bytes now).2.queues.find? id =
          (first.processPacket ingressPort bytes now).2.queues.find? id := by
  have hcopies : ∀ disposition requested frame,
      first.verdict ingressPort bytes now = .egress disposition requested frame →
      copies second second.faultInjector.advance frame requested =
        copies first first.faultInjector.advance frame requested := by
    intro disposition requested frame hexit
    exact @copies_of_queues first second h first.faultInjector.advance
      second.faultInjector.advance hunpaced h.faultConfig frame requested
      (hqueues disposition requested frame hexit)
  constructor
  · have hlatency : second.verdictLatency (first.verdict ingressPort bytes now) =
        first.verdictLatency (first.verdict ingressPort bytes now) := by
      unfold verdictLatency
      rw [h.faultConfig]
    rw [processPacket_fst, processPacket_fst, packetCopies, packetCopies, hverdict, hlatency]
    cases hexit : first.verdict ingressPort bytes now with
    | egress disposition requested frame =>
      rw [requestedCopies, requestedCopies, hcopies _ _ _ hexit]
    | _ => rfl
  · intro id hqueue
    cases hexit : first.verdict ingressPort bytes now with
    | egress disposition requested frame =>
      have htables := processPacket_tables hexit
      have hothers := processPacket_tables (hverdict.trans hexit)
      by_cases hmem : id ∈ requested
      · obtain ⟨fate, hcopy⟩ := exists_mem_copies first first.faultInjector.advance frame hmem
        rw [(htables.1 id fate hcopy).2,
          (hothers.1 id fate (by rw [hcopies _ _ _ hexit]; exact hcopy)).2, hqueue]
      · rw [(htables.2 id hmem).2, (hothers.2 id hmem).2, hqueue]
    | _ =>
      have hquiet := @processPacket_queues first ingressPort bytes now (by simp [hexit])
      have hother := @processPacket_queues second ingressPort bytes now
        (by simp [hverdict.trans hexit])
      rw [hquiet, hother, hqueue]

/-- Taking a packet from a watched queue. -/
theorem sameView_dequeuePacket {mac : MacTable → MacTable → Prop} {sees : VlanPortConfig → Bool}
    (h : SameView mac sees first second) {port : PortId}
    (hqueue : second.queues.find? port = first.queues.find? port) :
    (first.dequeuePacket port).1 = (second.dequeuePacket port).1 ∧
      SameView mac sees (first.dequeuePacket port).2 (second.dequeuePacket port).2 := by
  refine ⟨by simp only [dequeuePacket, hqueue]; cases first.queues.find? port <;> rfl, ?_⟩
  exact {
    toSameProgramming :=
      ((sameForwarding_dequeuePacket first port).toSameProgramming.symm.trans
        h.toSameProgramming).trans (sameForwarding_dequeuePacket second port).toSameProgramming
    arpCache := by
      rw [(sameForwarding_dequeuePacket first port).arpCache,
        (sameForwarding_dequeuePacket second port).arpCache, h.arpCache]
    entries := by
      rw [(sameForwarding_dequeuePacket first port).macTable,
        (sameForwarding_dequeuePacket second port).macTable]
      exact h.entries
    viewed := by
      intro id hid
      rw [watches_congr (sameForwarding_dequeuePacket first port).toSameProgramming] at hid
      rw [dequeuePacket, dequeuePacket, hqueue]
      cases first.queues.find? port with
      | none => exact h.viewed id hid
      | some queue =>
        simp only [setQueue, Table.find?_set]
        rw [h.viewed id hid] }

end Packets

-- ---------------------------------------------------------------------------
-- Control operations
-- ---------------------------------------------------------------------------

section Control

variable {mac : MacTable → MacTable → Prop} {sees : VlanPortConfig → Bool}
  {first second : SoftwareAsic}

theorem sameView_createPort (h : SameView mac sees first second) (hfirst : Programmed first)
    (hsecond : Programmed second) (port : VirtualPort) (capacity : Nat) :
    (first.createPort port capacity).1 = (second.createPort port capacity).1 ∧
      SameView mac sees (first.createPort port capacity).2 (second.createPort port capacity).2 := by
  rw [createPort, createPort]
  split
  · exact ⟨rfl, h⟩
  · cases hport : first.ports.find? port.id with
    | some existing =>
      obtain ⟨current, hcurrent, _⟩ := h.port_of_some hport
      rw [hcurrent]
      exact ⟨rfl, h⟩
    | none =>
      have hother := (h.port_none_iff port.id).mpr hport
      rw [hother]
      dsimp only
      rw [Table.find?_emplace_of_none _ hport, Table.find?_emplace_of_none _ hother,
        Table.find?_emplace_of_none _ ((hfirst.queue_iff port.id).mpr hport),
        Table.find?_emplace_of_none _ ((hsecond.queue_iff port.id).mpr hother)]
      refine ⟨rfl, { h with ports := ?_, queues := ?_, viewed := ?_ }⟩
      · intro id
        rw [Table.find?_set, Table.find?_set]
        split
        · exact .some (SameConfiguration.refl port)
        · exact h.ports id
      · intro id
        dsimp only
        rw [Table.find?_set, Table.find?_set]
        split
        · exact .some (SameBounds.refl _)
        · exact h.queues id
      · intro id hid
        dsimp only
        rw [Table.find?_set, Table.find?_set]
        split
        · rfl
        · rename_i hne
          refine h.viewed id ?_
          rw [watches, Table.find?_set_of_ne hne] at hid
          exact hid

theorem sameView_removePort (h : SameView mac sees first second) (hfirst : Programmed first)
    (hsecond : Programmed second) (id : PortId) :
    (first.removePort id).1 = (second.removePort id).1 ∧
      SameView mac sees (first.removePort id).2 (second.removePort id).2 := by
  cases hport : first.ports.find? id with
  | none =>
    rw [removePort, removePort, hport, (h.port_none_iff id).mpr hport]
    exact ⟨rfl, h⟩
  | some port =>
    obtain ⟨current, hcurrent, _⟩ := h.port_of_some hport
    rw [removePort_eq hfirst hport, removePort_eq hsecond hcurrent]
    refine ⟨rfl, { h with ports := ?_, queues := ?_, vlanMembers := ?_, viewed := ?_ }⟩
    · intro other
      rw [Table.find?_erase, Table.find?_erase]
      split
      · exact .none
      · exact h.ports other
    · intro other
      dsimp only
      rw [Table.find?_erase, Table.find?_erase]
      split
      · exact .none
      · exact h.queues other
    · dsimp only
      rw [h.vlanMembers]
    · intro other hother
      dsimp only
      rw [Table.find?_erase, Table.find?_erase]
      split
      · rfl
      · rename_i hne
        refine h.viewed other ?_
        rw [watches, Table.find?_erase, if_neg hne] at hother
        exact hother

theorem sameView_setPortState (h : SameView mac sees first second) (id : PortId)
    (admin link : Bool) :
    (first.setPortState id admin link).1 = (second.setPortState id admin link).1 ∧
      SameView mac sees (first.setPortState id admin link).2
        (second.setPortState id admin link).2 := by
  rw [setPortState, setPortState]
  cases hport : first.ports.find? id with
  | none =>
    rw [(h.port_none_iff id).mpr hport]
    exact ⟨rfl, h⟩
  | some port =>
    obtain ⟨current, hcurrent, hsame⟩ := h.port_of_some hport
    rw [hcurrent]
    refine ⟨rfl, { h with ports := ?_, viewed := ?_ }⟩
    · intro other
      rw [Table.find?_set, Table.find?_set]
      split
      · exact .some ⟨hsame.id, hsame.mac, hsame.mtu, hsame.vlanConfig, rfl⟩
      · exact h.ports other
    · intro other hother
      refine h.viewed other ?_
      rw [watches] at hother ⊢
      rw [Table.find?_set] at hother
      by_cases heq : other = id
      · rw [if_pos heq] at hother
        rw [heq, hport]
        exact hother
      · rw [if_neg heq] at hother
        exact hother

theorem sameView_subscriptMembers (h : SameView mac sees first second) (own : VlanId) :
    SameView mac sees (first.subscriptMembers own) (second.subscriptMembers own) where
  ports := h.ports
  queues := h.queues
  vlans := h.vlans
  vlanMembers := by rw [subscriptMembers, subscriptMembers, h.vlanMembers]
  routerInterfaces := h.routerInterfaces
  routeTable := h.routeTable
  faultConfig := h.faultConfig
  arpCache := h.arpCache
  entries := h.entries
  viewed := h.viewed

theorem sameView_removeVlan (h : SameView mac sees first second) (own : VlanId) :
    (first.removeVlan own).1 = (second.removeVlan own).1 ∧
      SameView mac sees (first.removeVlan own).2 (second.removeVlan own).2 := by
  have hsubscript := sameView_subscriptMembers h own
  rw [removeVlan, removeVlan, h.vlans]
  split
  · exact ⟨rfl, h⟩
  · dsimp only
    have hdependency : (!((second.subscriptMembers own).memberList own).isEmpty ||
          ((second.subscriptMembers own).routerInterfaces.find? own).isSome) =
        (!((first.subscriptMembers own).memberList own).isEmpty ||
          ((first.subscriptMembers own).routerInterfaces.find? own).isSome) := by
      rw [hsubscript.toSameProgramming.memberList, hsubscript.routerInterfaces]
    rw [hdependency]
    split
    · exact ⟨rfl, hsubscript⟩
    · refine ⟨rfl, { hsubscript with vlans := ?_, vlanMembers := ?_ }⟩
      · dsimp only
        rw [hsubscript.vlans]
      · dsimp only
        rw [hsubscript.vlanMembers]

theorem sameView_addVlanMember (h : SameView mac sees first second) (own : VlanId) (id : PortId) :
    (first.addVlanMember own id).1 = (second.addVlanMember own id).1 ∧
      SameView mac sees (first.addVlanMember own id).2 (second.addVlanMember own id).2 := by
  have hsubscript := sameView_subscriptMembers h own
  rw [addVlanMember, addVlanMember]
  by_cases hmissing : own ∉ first.vlans ∨ first.ports.find? id = none
  · have hother : own ∉ second.vlans ∨ second.ports.find? id = none := by
      rw [h.vlans, h.port_none_iff id]
      exact hmissing
    rw [if_pos hmissing, if_pos hother]
    exact ⟨rfl, h⟩
  · have hother : ¬ (own ∉ second.vlans ∨ second.ports.find? id = none) := by
      rw [h.vlans, h.port_none_iff id]
      exact hmissing
    rw [if_neg hmissing, if_neg hother]
    dsimp only
    rw [hsubscript.toSameProgramming.memberList]
    split
    · exact ⟨rfl, hsubscript⟩
    · cases hport : (first.subscriptMembers own).ports.find? id with
      | none =>
        rw [(hsubscript.port_none_iff id).mpr hport]
        exact ⟨rfl, hsubscript⟩
      | some port =>
        obtain ⟨current, hcurrent, hsame⟩ := hsubscript.port_of_some hport
        rw [hcurrent]
        dsimp only
        rw [hsame.vlanConfig]
        split
        · exact ⟨rfl, hsubscript⟩
        · refine ⟨rfl, { hsubscript with vlanMembers := ?_ }⟩
          dsimp only
          rw [hsubscript.vlanMembers]

theorem sameView_configureFaults (h : SameView mac sees first second)
    (config : FaultInjectionConfig) :
    (first.configureFaults config).1 = (second.configureFaults config).1 ∧
      SameView mac sees (first.configureFaults config).2 (second.configureFaults config).2 := by
  rw [configureFaults, configureFaults, FaultInjector.setConfig, FaultInjector.setConfig]
  split
  · rename_i hnone
    split at hnone
    · rename_i hnegative
      rw [dif_pos hnegative]
      exact ⟨rfl, h⟩
    · simp at hnone
  · rename_i injector hsome
    split at hsome
    · simp at hsome
    · rename_i hnonneg
      rw [dif_neg hnonneg]
      rw [Option.some.injEq] at hsome
      subst hsome
      exact ⟨rfl, { h with faultConfig := rfl }⟩

/-- **A control operation answers alike, and keeps the view.** -/
theorem sameView_control (h : SameView mac sees first second) (hfirst : Programmed first)
    (hsecond : Programmed second) {operation : Operation}
    (hpacket : ∀ ingressPort bytes now, operation ≠ .processPacket ingressPort bytes now)
    (hdequeue : ∀ port, operation ≠ .dequeuePacket port) :
    first.answer operation = second.answer operation ∧
      SameView mac sees (first.step operation) (second.step operation) := by
  cases operation with
  | createPort port queueCapacity =>
    obtain ⟨hstatus, hview⟩ := sameView_createPort h hfirst hsecond port queueCapacity
    exact ⟨congrArg Answer.status hstatus, hview⟩
  | removePort port =>
    obtain ⟨hstatus, hview⟩ := sameView_removePort h hfirst hsecond port
    exact ⟨congrArg Answer.ofExcept hstatus, hview⟩
  | setPortState port admin link =>
    obtain ⟨hstatus, hview⟩ := sameView_setPortState h port admin link
    exact ⟨congrArg Answer.status hstatus, hview⟩
  | createVlan own =>
    rw [answer, answer, step, step, createVlan, createVlan, h.vlans]
    exact ⟨rfl, { h with vlans := rfl }⟩
  | removeVlan own =>
    obtain ⟨hstatus, hview⟩ := sameView_removeVlan h own
    exact ⟨congrArg Answer.status hstatus, hview⟩
  | addVlanMember own port =>
    obtain ⟨hstatus, hview⟩ := sameView_addVlanMember h own port
    exact ⟨congrArg Answer.ofExcept hstatus, hview⟩
  | setRouterInterface own address =>
    rw [answer, answer, step, step, setRouterInterface, setRouterInterface, h.vlans,
      h.routerInterfaces]
    split
    · exact ⟨rfl, h⟩
    · split
      · exact ⟨rfl, h⟩
      · exact ⟨rfl, { h with vlans := rfl, routerInterfaces := rfl }⟩
  | addOrReplaceRoute route =>
    rw [answer, answer, step, step, addOrReplaceRoute, addOrReplaceRoute, h.routeTable]
    cases hport : first.ports.find? route.outputPort with
    | none =>
      rw [(h.port_none_iff route.outputPort).mpr hport]
      exact ⟨rfl, h⟩
    | some port =>
      obtain ⟨current, hcurrent, _⟩ := h.port_of_some hport
      rw [hcurrent]
      exact ⟨rfl, { h with routeTable := rfl }⟩
  | removeRoute routePrefix =>
    rw [answer, answer, step, step, removeRoute, removeRoute, h.routeTable]
    exact ⟨rfl, { h with routeTable := rfl }⟩
  | addOrReplaceNeighbor address neighbor learnedAt =>
    rw [answer, answer, step, step, addOrReplaceNeighbor, addOrReplaceNeighbor, h.arpCache]
    exact ⟨rfl, { h with arpCache := rfl }⟩
  | removeNeighbor address =>
    rw [answer, answer, step, step, removeNeighbor, removeNeighbor, h.arpCache]
    exact ⟨rfl, { h with arpCache := rfl }⟩
  | configureFaults config =>
    obtain ⟨hstatus, hview⟩ := sameView_configureFaults h config
    exact ⟨congrArg Answer.status hstatus, hview⟩
  | processPacket ingressPort bytes now => exact absurd rfl (hpacket ingressPort bytes now)
  | dequeuePacket port => exact absurd rfl (hdequeue port)

end Control

-- ---------------------------------------------------------------------------
-- Queries
-- ---------------------------------------------------------------------------

/-- A query of what is programmed answers alike. -/
theorem sameView_query {mac : MacTable → MacTable → Prop} {sees : VlanPortConfig → Bool}
    {first second : SoftwareAsic} (h : SameView mac sees first second) {call : Call}
    (hoperation : ∀ operation, call ≠ .operation operation) (hcounters : call ≠ .counters) :
    (first.respond call).1 = (second.respond call).1 ∧
      SameView mac sees (first.respond call).2 (second.respond call).2 := by
  cases call with
  | operation operation => exact absurd rfl (hoperation operation)
  | counters => exact absurd rfl hcounters
  | hasPort port =>
    have hsome := optionRel_none_iff (h.ports port)
    have hfound : first.hasPort port = second.hasPort port := by
      rw [hasPort, hasPort]
      cases hport : first.ports.find? port with
      | none => rw [hsome.mpr hport]
      | some found =>
        obtain ⟨current, hcurrent, _⟩ := h.port_of_some hport
        rw [hcurrent]
        rfl
    exact ⟨congrArg Answer.found hfound, h⟩
  | hasVlan own =>
    have hfound : first.hasVlan own = second.hasVlan own := by rw [hasVlan, hasVlan, h.vlans]
    exact ⟨congrArg Answer.found hfound, h⟩
  | findRoute routePrefix =>
    exact ⟨congrArg (fun table : Ipv4RouteTable => Answer.route (table.findExact routePrefix))
      h.routeTable.symm, h⟩
  | findNeighbor address now =>
    exact ⟨congrArg (fun cache : ArpCache => Answer.neighbor (cache.lookup address now))
      h.arpCache.symm, h⟩

/-- Every call of the interface keeps the programmed state consistent. -/
theorem programmed_respond {asic : SoftwareAsic} (h : Programmed asic) (call : Call) :
    Programmed (asic.respond call).2 := by
  cases call with
  | operation operation => exact programmed_step operation h
  | _ => exact h

end SiliconSwitch.Asic.SoftwareAsic
