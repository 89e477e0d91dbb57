import SiliconSwitch.Asic.SoftwareAsic

/-!
# What the packet path leaves alone

`SameProgramming before after` says that two states of the device have the same
programmed configuration: the same ports up to their counters, queues with the
same bounds, and the same VLANs, members, router interfaces, routes and fault
configuration. `SameForwarding` adds the two learned tables.

* `sameForwarding_enqueueOutputs` — the egress loop touches counters, queue
  contents and the injector's sequence number only;
* `sameForwarding_dequeuePacket` — so does taking a packet from a queue.
-/

namespace SiliconSwitch.Asic.SoftwareAsic

open SiliconSwitch.Library SiliconSwitch.Network SiliconSwitch.Routing SiliconSwitch.Switching
open SiliconSwitch.Switching.VirtualPort (SameConfiguration)

-- ---------------------------------------------------------------------------
-- The relations
-- ---------------------------------------------------------------------------

/-- The bounds of a queue, apart from its content. -/
structure SameBounds (before after : PacketQueue) : Prop where
  capacity : after.capacity = before.capacity
  isClosed : after.isClosed = before.isClosed

structure SameProgramming (before after : SoftwareAsic) : Prop where
  ports : ∀ id, Option.Rel SameConfiguration (before.ports.find? id) (after.ports.find? id)
  queues : ∀ id, Option.Rel SameBounds (before.queues.find? id) (after.queues.find? id)
  vlans : after.vlans = before.vlans
  vlanMembers : after.vlanMembers = before.vlanMembers
  routerInterfaces : after.routerInterfaces = before.routerInterfaces
  routeTable : after.routeTable = before.routeTable
  faultConfig : after.faultInjector.config = before.faultInjector.config

structure SameForwarding (before after : SoftwareAsic) : Prop extends
    SameProgramming before after where
  macTable : after.macTable = before.macTable
  arpCache : after.arpCache = before.arpCache

section Relations

variable {first second third : SoftwareAsic}

theorem optionRel_refl {α : Type} {r : α → α → Prop} (hrefl : ∀ a, r a a) (o : Option α) :
    Option.Rel r o o := by
  cases o with
  | none => exact .none
  | some a => exact .some (hrefl a)

theorem optionRel_trans {α : Type} {r : α → α → Prop} {o₁ o₂ o₃ : Option α}
    (h₁ : Option.Rel r o₁ o₂) (h₂ : Option.Rel r o₂ o₃)
    (htrans : ∀ {a b c}, r a b → r b c → r a c) : Option.Rel r o₁ o₃ := by
  cases h₁ with
  | none =>
    cases h₂
    exact .none
  | some hab =>
    cases h₂ with
    | some hbc => exact .some (htrans hab hbc)

/-- Related options are both there or both missing. -/
theorem optionRel_some {α : Type} {r : α → α → Prop} {o₁ o₂ : Option α} {a : α}
    (h : Option.Rel r o₁ o₂) (ha : o₁ = some a) : ∃ b, o₂ = some b ∧ r a b := by
  subst ha
  cases h with
  | some hab => exact ⟨_, rfl, hab⟩

theorem optionRel_some' {α : Type} {r : α → α → Prop} {o₁ o₂ : Option α} {b : α}
    (h : Option.Rel r o₁ o₂) (hb : o₂ = some b) : ∃ a, o₁ = some a ∧ r a b := by
  subst hb
  cases h with
  | some hab => exact ⟨_, rfl, hab⟩

theorem optionRel_none_iff {α : Type} {r : α → α → Prop} {o₁ o₂ : Option α}
    (h : Option.Rel r o₁ o₂) : o₂ = none ↔ o₁ = none := by
  cases h with
  | none => exact Iff.rfl
  | some => simp

theorem SameBounds.refl (queue : PacketQueue) : SameBounds queue queue := ⟨rfl, rfl⟩

theorem SameBounds.trans {a b c : PacketQueue} (h₁ : SameBounds a b) (h₂ : SameBounds b c) :
    SameBounds a c :=
  ⟨h₂.capacity.trans h₁.capacity, h₂.isClosed.trans h₁.isClosed⟩

theorem SameProgramming.trans (h₁ : SameProgramming first second)
    (h₂ : SameProgramming second third) : SameProgramming first third where
  ports := fun id => optionRel_trans (h₁.ports id) (h₂.ports id) SameConfiguration.trans
  queues := fun id => optionRel_trans (h₁.queues id) (h₂.queues id) SameBounds.trans
  vlans := h₂.vlans.trans h₁.vlans
  vlanMembers := h₂.vlanMembers.trans h₁.vlanMembers
  routerInterfaces := h₂.routerInterfaces.trans h₁.routerInterfaces
  routeTable := h₂.routeTable.trans h₁.routeTable
  faultConfig := h₂.faultConfig.trans h₁.faultConfig

/-- Two states that agree field by field where the relation looks. -/
theorem SameProgramming.of_eq (hports : second.ports = first.ports)
    (hqueues : second.queues = first.queues) (hvlans : second.vlans = first.vlans)
    (hmembers : second.vlanMembers = first.vlanMembers)
    (hinterfaces : second.routerInterfaces = first.routerInterfaces)
    (hroutes : second.routeTable = first.routeTable)
    (hfaults : second.faultInjector.config = first.faultInjector.config) :
    SameProgramming first second where
  ports := fun id => by rw [hports]; exact optionRel_refl SameConfiguration.refl _
  queues := fun id => by rw [hqueues]; exact optionRel_refl SameBounds.refl _
  vlans := hvlans
  vlanMembers := hmembers
  routerInterfaces := hinterfaces
  routeTable := hroutes
  faultConfig := hfaults

theorem SameForwarding.trans (h₁ : SameForwarding first second)
    (h₂ : SameForwarding second third) : SameForwarding first third where
  toSameProgramming := h₁.toSameProgramming.trans h₂.toSameProgramming
  macTable := h₂.macTable.trans h₁.macTable
  arpCache := h₂.arpCache.trans h₁.arpCache

theorem SameForwarding.refl (asic : SoftwareAsic) : SameForwarding asic asic where
  toSameProgramming := .of_eq rfl rfl rfl rfl rfl rfl rfl
  macTable := rfl
  arpCache := rfl

/-- A port of one state is a port of the other, with the same configuration. -/
theorem SameProgramming.port_of_some (h : SameProgramming first second) {id : PortId}
    {port : VirtualPort} (hport : first.ports.find? id = some port) :
    ∃ after, second.ports.find? id = some after ∧ SameConfiguration port after :=
  optionRel_some (h.ports id) hport

theorem SameProgramming.port_of_some' (h : SameProgramming first second) {id : PortId}
    {port : VirtualPort} (hport : second.ports.find? id = some port) :
    ∃ before, first.ports.find? id = some before ∧ SameConfiguration before port :=
  optionRel_some' (h.ports id) hport

theorem SameProgramming.port_none_iff (h : SameProgramming first second) (id : PortId) :
    second.ports.find? id = none ↔ first.ports.find? id = none :=
  optionRel_none_iff (h.ports id)

theorem SameProgramming.memberList (h : SameProgramming first second) (vlan : VlanId) :
    second.memberList vlan = first.memberList vlan := by
  rw [SoftwareAsic.memberList, SoftwareAsic.memberList, h.vlanMembers]

end Relations

-- ---------------------------------------------------------------------------
-- The updates of the packet path
-- ---------------------------------------------------------------------------

theorem sameForwarding_increment (asic : SoftwareAsic) (counter : TrafficCounter)
    (amount : Nat) : SameForwarding asic (asic.increment counter amount) where
  toSameProgramming := .of_eq rfl rfl rfl rfl rfl rfl rfl
  macTable := rfl
  arpCache := rfl

theorem sameForwarding_count (asic : SoftwareAsic) (counter : TrafficCounter) :
    SameForwarding asic (asic.count counter) :=
  sameForwarding_increment asic counter 1

theorem countCorruption_ports (asic : SoftwareAsic) (packet : FaultInjectedPacket) :
    (asic.countCorruption packet).ports = asic.ports := by
  rw [countCorruption]
  split <;> rfl

theorem countCorruption_queues (asic : SoftwareAsic) (packet : FaultInjectedPacket) :
    (asic.countCorruption packet).queues = asic.queues := by
  rw [countCorruption]
  split <;> rfl

theorem sameForwarding_countCorruption (asic : SoftwareAsic) (packet : FaultInjectedPacket) :
    SameForwarding asic (asic.countCorruption packet) := by
  rw [countCorruption]
  split
  · exact sameForwarding_count asic _
  · exact .refl asic

theorem sameForwarding_injectFault (asic : SoftwareAsic) (port : PortId) (bytes : List UInt8) :
    SameForwarding asic (asic.injectFault port bytes).2 where
  toSameProgramming := .of_eq rfl rfl rfl rfl rfl rfl rfl
  macTable := rfl
  arpCache := rfl

theorem sameForwarding_setPort {asic : SoftwareAsic} {id : PortId} {before after : VirtualPort}
    (hfind : asic.ports.find? id = some before) (hsame : SameConfiguration before after) :
    SameForwarding asic (asic.setPort id after) where
  ports := by
    intro other
    rw [setPort, Table.find?_set]
    split
    · rename_i heq
      rw [heq, hfind]
      exact .some hsame
    · exact optionRel_refl SameConfiguration.refl _
  queues := fun _ => optionRel_refl SameBounds.refl _
  vlans := rfl
  vlanMembers := rfl
  routerInterfaces := rfl
  routeTable := rfl
  faultConfig := rfl
  macTable := rfl
  arpCache := rfl

theorem sameForwarding_setQueue {asic : SoftwareAsic} {id : PortId} {before after : PacketQueue}
    (hfind : asic.queues.find? id = some before) (hsame : SameBounds before after) :
    SameForwarding asic (asic.setQueue id after) where
  ports := fun _ => optionRel_refl SameConfiguration.refl _
  queues := by
    intro other
    rw [setQueue, Table.find?_set]
    split
    · rename_i heq
      rw [heq, hfind]
      exact .some hsame
    · exact optionRel_refl SameBounds.refl _
  vlans := rfl
  vlanMembers := rfl
  routerInterfaces := rfl
  routeTable := rfl
  faultConfig := rfl
  macTable := rfl
  arpCache := rfl

-- ---------------------------------------------------------------------------
-- Egress
-- ---------------------------------------------------------------------------

theorem sameForwarding_enqueueOutput (frame : List UInt8) (loop : EgressLoop) (id : PortId) :
    SameForwarding loop.asic (enqueueOutput frame loop id).asic := by
  rw [enqueueOutput]
  split
  · rename_i port queue hport hqueue
    split
    · exact .refl _
    · have hinject := sameForwarding_injectFault loop.asic id frame
      split
      · rename_i reason asic hfault
        rw [hfault] at hinject
        exact hinject.trans (sameForwarding_count asic _)
      · rename_i packet asic hfault
        rw [hfault] at hinject
        have hstart := hinject.trans (sameForwarding_countCorruption asic packet)
        have hasic : asic = (loop.asic.injectFault id frame).2 := by rw [hfault]
        have hports : (asic.countCorruption packet).ports.find? id = some port := by
          rw [countCorruption_ports, hasic]
          exact hport
        have hqueues : (asic.countCorruption packet).queues.find? id = some queue := by
          rw [countCorruption_queues, hasic]
          exact hqueue
        dsimp only
        split
        · exact hstart.trans (sameForwarding_setPort hports
            (VirtualPort.sameConfiguration_transmit port _))
        · split
          · rename_i queued henqueue
            have hspec := BoundedQueue.tryEnqueue_spec queue packet.bytes
            rw [henqueue] at hspec
            have hset : SameForwarding (asic.countCorruption packet)
                ((asic.countCorruption packet).setQueue id queued) :=
              sameForwarding_setQueue hqueues ⟨hspec.2.2.1, hspec.2.2.2⟩
            have hport : ((asic.countCorruption packet).setQueue id queued).ports.find? id =
                some port := hports
            exact (((hstart.trans hset).trans (sameForwarding_setPort hport
              (VirtualPort.sameConfiguration_transmit port _))).trans
              (sameForwarding_count _ _)).trans (sameForwarding_increment _ _ _)
          · exact hstart.trans (sameForwarding_count _ _)
  · exact .refl _

theorem sameForwarding_foldl_enqueueOutput (frame : List UInt8) (requested : List PortId)
    (loop : EgressLoop) :
    SameForwarding loop.asic (requested.foldl (enqueueOutput frame) loop).asic := by
  induction requested generalizing loop with
  | nil => exact .refl _
  | cons id rest ih =>
    rw [List.foldl_cons]
    exact (sameForwarding_enqueueOutput frame loop id).trans (ih _)

theorem sameForwarding_enqueueOutputs (asic : SoftwareAsic) (disposition : PacketDisposition)
    (requested : List PortId) (frame : List UInt8) (latency : Duration) :
    SameForwarding asic (asic.enqueueOutputs disposition requested frame latency).2 := by
  have hloop := sameForwarding_foldl_enqueueOutput frame requested ⟨asic, latency, []⟩
  rw [enqueueOutputs]
  split <;> exact hloop

theorem sameForwarding_dequeuePacket (asic : SoftwareAsic) (port : PortId) :
    SameForwarding asic (asic.dequeuePacket port).2 := by
  rw [dequeuePacket]
  split
  · exact .refl asic
  · rename_i queue hqueue
    exact sameForwarding_setQueue hqueue ⟨rfl, rfl⟩

end SiliconSwitch.Asic.SoftwareAsic
