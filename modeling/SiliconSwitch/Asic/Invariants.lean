import SiliconSwitch.Asic.Egress

/-!
# Invariants of the programmed state

`Programmed` collects what every call of the device keeps: ports and queues
under the same keys, open queues, members that exist and allow their VLAN,
interfaces of created VLANs, and a MAC table without static entries.

* `step_frame` — a call leaves alone what it does not write;
* `programmed_step` — every call keeps it, `remove_port` and `remove_vlan` included;
* `Reachable.programmed` — so every reachable state has it;
* `programmed_consistency` — what this says of each table, and of the lookups
  that would throw.
-/

namespace SiliconSwitch.Asic.SoftwareAsic

open SiliconSwitch.Library SiliconSwitch.Network SiliconSwitch.Routing SiliconSwitch.Switching

-- ---------------------------------------------------------------------------
-- The invariant
-- ---------------------------------------------------------------------------

/-- No entry of the table is static: the device only learns. -/
def AllDynamic (macTable : MacTable) : Prop :=
  ∀ key entry, macTable.entries.find? key = some entry → entry.isStatic = false

structure Programmed (asic : SoftwareAsic) : Prop where
  port_id : ∀ id port, asic.ports.find? id = some port → port.id = id
  queue_iff : ∀ id, asic.queues.find? id = none ↔ asic.ports.find? id = none
  queue_open : ∀ id queue, asic.queues.find? id = some queue → queue.isClosed = false
  members_nodup : ∀ vlan, (asic.memberList vlan).Nodup
  members : ∀ vlan, ∀ id ∈ asic.memberList vlan, vlan ∈ asic.vlans ∧
    ∃ port, asic.ports.find? id = some port ∧ port.vlanConfig.allows vlan = true
  routerInterfaces : ∀ vlan mac, asic.routerInterfaces.find? vlan = some mac →
    vlan ∈ asic.vlans ∧ validRouterMac mac = true
  dynamic : AllDynamic asic.macTable

theorem programmed_create (capacity : Nat) (hcapacity : 0 < capacity) :
    Programmed (create capacity hcapacity) where
  port_id := by simp [create]
  queue_iff := by simp [create]
  queue_open := by simp [create]
  members_nodup := by simp [create, memberList]
  members := by simp [create, memberList]
  routerInterfaces := by simp [create]
  dynamic := by simp [AllDynamic, create, MacTable.create]

/-- The invariant looks at six fields only. -/
theorem Programmed.of_eq {before after : SoftwareAsic} (h : Programmed before)
    (hports : after.ports = before.ports) (hqueues : after.queues = before.queues)
    (hvlans : after.vlans = before.vlans) (hmembers : after.vlanMembers = before.vlanMembers)
    (hinterfaces : after.routerInterfaces = before.routerInterfaces)
    (hmac : after.macTable = before.macTable) : Programmed after where
  port_id := by rw [hports]; exact h.port_id
  queue_iff := by rw [hports, hqueues]; exact h.queue_iff
  queue_open := by rw [hqueues]; exact h.queue_open
  members_nodup := by simpa only [memberList, hmembers] using h.members_nodup
  members := by simpa only [memberList, hmembers, hvlans, hports] using h.members
  routerInterfaces := by rw [hinterfaces, hvlans]; exact h.routerInterfaces
  dynamic := by rw [hmac]; exact h.dynamic

/-- The packet path keeps the invariant as far as the MAC table does. -/
theorem Programmed.of_sameProgramming {before after : SoftwareAsic} (h : Programmed before)
    (hsame : SameProgramming before after) (hdynamic : AllDynamic after.macTable) :
    Programmed after where
  port_id := by
    intro id port hport
    obtain ⟨original, horiginal, hconfig⟩ := hsame.port_of_some' hport
    rw [hconfig.id]
    exact h.port_id id original horiginal
  queue_iff := by
    intro id
    rw [optionRel_none_iff (hsame.queues id), h.queue_iff, hsame.port_none_iff]
  queue_open := by
    intro id queue hqueue
    obtain ⟨original, horiginal, hbounds⟩ := optionRel_some' (hsame.queues id) hqueue
    rw [hbounds.isClosed]
    exact h.queue_open id original horiginal
  members_nodup := by
    intro vlan
    rw [hsame.memberList]
    exact h.members_nodup vlan
  members := by
    intro vlan id hmem
    rw [hsame.memberList] at hmem
    obtain ⟨hvlan, port, hport, hallows⟩ := h.members vlan id hmem
    obtain ⟨current, hcurrent, hconfig⟩ := hsame.port_of_some hport
    exact ⟨by rw [hsame.vlans]; exact hvlan, current, hcurrent, by rw [hconfig.vlanConfig]; exact hallows⟩
  routerInterfaces := by
    rw [hsame.routerInterfaces, hsame.vlans]
    exact h.routerInterfaces
  dynamic := hdynamic

-- ---------------------------------------------------------------------------
-- Control operations
-- ---------------------------------------------------------------------------

theorem memberList_subscriptMembers (asic : SoftwareAsic) (vlan other : VlanId) :
    (asic.subscriptMembers vlan).memberList other = asic.memberList other := by
  rw [memberList, memberList, subscriptMembers, Table.find?_emplace]
  split
  · rename_i heq
    rw [heq]
    cases asic.vlanMembers.find? vlan <;> rfl
  · rfl

theorem programmed_subscriptMembers {asic : SoftwareAsic} (h : Programmed asic) (vlan : VlanId) :
    Programmed (asic.subscriptMembers vlan) where
  port_id := h.port_id
  queue_iff := h.queue_iff
  queue_open := h.queue_open
  members_nodup := by
    intro other
    rw [memberList_subscriptMembers]
    exact h.members_nodup other
  members := by
    intro other id hmem
    rw [memberList_subscriptMembers] at hmem
    exact h.members other id hmem
  routerInterfaces := h.routerInterfaces
  dynamic := h.dynamic

theorem programmed_createPort {asic : SoftwareAsic} (h : Programmed asic) (port : VirtualPort)
    (capacity : Nat) : Programmed (asic.createPort port capacity).2 := by
  rw [createPort]
  split
  · exact h
  · split
    · exact h
    · rename_i hcapacity hfresh
      have hfreshQueue : asic.queues.find? port.id = none := (h.queue_iff port.id).mpr hfresh
      -- the new port replaces no other, so members and their ports stay
      have hkeep : ∀ id existing, asic.ports.find? id = some existing →
          (asic.ports.set port.id port).find? id = some existing := by
        intro id existing hfind
        rw [Table.find?_set_of_ne, hfind]
        rintro rfl
        rw [hfresh] at hfind
        simp at hfind
      rw [Table.find?_emplace_of_none _ hfreshQueue, Table.find?_emplace_of_none _ hfresh]
      exact {
        port_id := by
          intro id found hfound
          rw [Table.find?_set] at hfound
          split at hfound
          · rename_i heq
            rw [← Option.some.inj hfound, heq]
          · exact h.port_id id found hfound
        queue_iff := by
          intro id
          dsimp only
          rw [Table.find?_set, Table.find?_set]
          split
          · simp
          · exact h.queue_iff id
        queue_open := by
          intro id queue hqueue
          rw [Table.find?_set] at hqueue
          split at hqueue
          · rw [← Option.some.inj hqueue]
            rfl
          · exact h.queue_open id queue hqueue
        members_nodup := h.members_nodup
        members := by
          intro vlan id hmem
          obtain ⟨hvlan, existing, hfind, hallows⟩ := h.members vlan id hmem
          exact ⟨hvlan, existing, hkeep id existing hfind, hallows⟩
        routerInterfaces := h.routerInterfaces
        dynamic := h.dynamic }

/-- What a successful removal leaves; under the invariant `queues_.at` finds its queue. -/
theorem removePort_eq {asic : SoftwareAsic} (h : Programmed asic) {id : PortId}
    {port : VirtualPort} (hport : asic.ports.find? id = some port) :
    asic.removePort id = (.ok .success,
      { asic with
        vlanMembers := asic.vlanMembers.mapValues fun list => list.filter fun other => other ≠ id
        queues := asic.queues.erase id
        ports := asic.ports.erase id }) := by
  rw [removePort, hport]
  dsimp only
  cases hqueue : asic.queues.find? id with
  | none =>
    rw [(h.queue_iff id).mp hqueue] at hport
    simp at hport
  | some queue => rfl

theorem programmed_removePort {asic : SoftwareAsic} (h : Programmed asic) (id : PortId) :
    Programmed (asic.removePort id).2 := by
  cases hport : asic.ports.find? id with
  | none =>
    rw [removePort, hport]
    exact h
  | some port =>
    rw [removePort_eq h hport]
    have hmembers : ∀ vlan, SoftwareAsic.memberList
        { asic with
          vlanMembers := asic.vlanMembers.mapValues fun list => list.filter fun other => other ≠ id
          queues := asic.queues.erase id
          ports := asic.ports.erase id } vlan =
        (asic.memberList vlan).filter fun other => other ≠ id := by
      intro vlan
      rw [memberList, memberList, Table.find?_mapValues]
      cases asic.vlanMembers.find? vlan <;> rfl
    exact {
      port_id := by
        intro other found hfound
        rw [Table.find?_erase] at hfound
        split at hfound
        · simp at hfound
        · exact h.port_id other found hfound
      queue_iff := by
        intro other
        dsimp only
        rw [Table.find?_erase, Table.find?_erase]
        split
        · simp
        · exact h.queue_iff other
      queue_open := by
        intro other queue hqueue
        rw [Table.find?_erase] at hqueue
        split at hqueue
        · simp at hqueue
        · exact h.queue_open other queue hqueue
      members_nodup := by
        intro vlan
        rw [hmembers]
        exact (h.members_nodup vlan).filter _
      members := by
        intro vlan other hmem
        rw [hmembers, List.mem_filter, decide_eq_true_eq] at hmem
        obtain ⟨hvlan, existing, hfind, hallows⟩ := h.members vlan other hmem.1
        refine ⟨hvlan, existing, ?_, hallows⟩
        rw [Table.find?_erase, if_neg hmem.2]
        exact hfind
      routerInterfaces := h.routerInterfaces
      dynamic := h.dynamic }

theorem programmed_setPortState {asic : SoftwareAsic} (h : Programmed asic) (id : PortId)
    (admin link : Bool) : Programmed (asic.setPortState id admin link).2 := by
  rw [setPortState]
  split
  · exact h
  · rename_i existing hfind
    exact {
      port_id := by
        intro other found hfound
        rw [Table.find?_set] at hfound
        split at hfound
        · rename_i heq
          rw [← Option.some.inj hfound, heq]
          exact h.port_id id existing hfind
        · exact h.port_id other found hfound
      queue_iff := by
        intro other
        dsimp only
        rw [Table.find?_set]
        split
        · rename_i heq
          rw [heq, h.queue_iff, hfind]
          simp
        · exact h.queue_iff other
      queue_open := h.queue_open
      members_nodup := h.members_nodup
      members := by
        intro vlan other hmem
        obtain ⟨hvlan, port, hport, hallows⟩ := h.members vlan other hmem
        refine ⟨hvlan, ?_⟩
        dsimp only
        rw [Table.find?_set]
        split
        · rename_i heq
          rw [heq, hfind, Option.some.injEq] at hport
          exact ⟨_, rfl, by rw [← hport] at hallows; exact hallows⟩
        · exact ⟨port, hport, hallows⟩
      routerInterfaces := h.routerInterfaces
      dynamic := h.dynamic }

theorem programmed_createVlan {asic : SoftwareAsic} (h : Programmed asic) (vlan : VlanId) :
    Programmed (asic.createVlan vlan).2 where
  port_id := h.port_id
  queue_iff := h.queue_iff
  queue_open := h.queue_open
  members_nodup := h.members_nodup
  members := by
    intro other id hmem
    obtain ⟨hvlan, hport⟩ := h.members other id hmem
    exact ⟨Finset.mem_insert_of_mem hvlan, hport⟩
  routerInterfaces := by
    intro other mac hmac
    obtain ⟨hvlan, hvalid⟩ := h.routerInterfaces other mac hmac
    exact ⟨Finset.mem_insert_of_mem hvlan, hvalid⟩
  dynamic := h.dynamic

theorem programmed_removeVlan {asic : SoftwareAsic} (h : Programmed asic) (vlan : VlanId) :
    Programmed (asic.removeVlan vlan).2 := by
  rw [removeVlan]
  split
  · exact h
  · have hsubscript := programmed_subscriptMembers h vlan
    dsimp only
    split
    · exact hsubscript
    · rename_i hdependency
      -- past the dependency check neither a member nor an interface needs the VLAN
      have hinterface : asic.routerInterfaces.find? vlan = none := by
        cases hfind : asic.routerInterfaces.find? vlan with
        | none => rfl
        | some mac => simp [subscriptMembers, hfind] at hdependency
      have hmembers : ∀ other, SoftwareAsic.memberList
          { asic.subscriptMembers vlan with
            vlanMembers := (asic.subscriptMembers vlan).vlanMembers.erase vlan
            vlans := (asic.subscriptMembers vlan).vlans.erase vlan } other =
          if other = vlan then [] else asic.memberList other := by
        intro other
        rw [memberList, Table.find?_erase]
        split
        · rfl
        · exact memberList_subscriptMembers asic vlan other
      exact {
        port_id := h.port_id
        queue_iff := h.queue_iff
        queue_open := h.queue_open
        members_nodup := by
          intro other
          rw [hmembers]
          split
          · exact List.nodup_nil
          · exact h.members_nodup other
        members := by
          intro other id hmem
          rw [hmembers] at hmem
          split at hmem
          · simp at hmem
          · rename_i hne
            obtain ⟨hvlan, hport⟩ := h.members other id hmem
            exact ⟨Finset.mem_erase.mpr ⟨hne, hvlan⟩, hport⟩
        routerInterfaces := by
          intro other mac hmac
          obtain ⟨hvlan, hvalid⟩ := h.routerInterfaces other mac hmac
          refine ⟨Finset.mem_erase.mpr ⟨?_, hvlan⟩, hvalid⟩
          rintro rfl
          rw [subscriptMembers, hinterface] at hmac
          simp at hmac
        dynamic := h.dynamic }

theorem programmed_addVlanMember {asic : SoftwareAsic} (h : Programmed asic) (vlan : VlanId)
    (id : PortId) : Programmed (asic.addVlanMember vlan id).2 := by
  rw [addVlanMember]
  split
  · exact h
  · rename_i hpresent
    have hsubscript := programmed_subscriptMembers h vlan
    dsimp only
    split
    · exact hsubscript
    · rename_i hnew
      split
      · exact hsubscript
      · rename_i existing hfind
        split
        · exact hsubscript
        · rename_i hallows
          rw [not_or, not_not] at hpresent
          have hmembers : ∀ other, SoftwareAsic.memberList
              { asic.subscriptMembers vlan with
                vlanMembers := (asic.subscriptMembers vlan).vlanMembers.set vlan
                  ((asic.subscriptMembers vlan).memberList vlan ++ [id]) } other =
              if other = vlan then asic.memberList vlan ++ [id] else asic.memberList other := by
            intro other
            rw [memberList, Table.find?_set, memberList_subscriptMembers]
            split
            · rfl
            · exact memberList_subscriptMembers asic vlan other
          rw [memberList_subscriptMembers] at hnew
          -- the call's own checks are what the invariant asks of the new member
          exact {
            port_id := h.port_id
            queue_iff := h.queue_iff
            queue_open := h.queue_open
            members_nodup := by
              intro other
              rw [hmembers]
              split
              · exact List.Nodup.append (h.members_nodup vlan) (List.nodup_singleton _)
                  (by simpa using hnew)
              · exact h.members_nodup other
            members := by
              intro other member hmem
              rw [hmembers] at hmem
              split at hmem
              · rename_i heq
                rw [List.mem_append, List.mem_singleton] at hmem
                rcases hmem with hold | rfl
                · rw [heq]
                  exact h.members vlan member hold
                · rw [heq]
                  exact ⟨hpresent.1, existing, hfind, by simpa using hallows⟩
              · exact h.members other member hmem
            routerInterfaces := h.routerInterfaces
            dynamic := h.dynamic }

theorem programmed_setRouterInterface {asic : SoftwareAsic} (h : Programmed asic)
    (vlan : VlanId) (mac : MacAddress) : Programmed (asic.setRouterInterface vlan mac).2 := by
  rw [setRouterInterface]
  split
  · exact h
  · rename_i hvlan
    split
    · exact h
    · rename_i hvalid
      exact {
        port_id := h.port_id
        queue_iff := h.queue_iff
        queue_open := h.queue_open
        members_nodup := h.members_nodup
        members := h.members
        routerInterfaces := by
          intro other found hfound
          rw [Table.find?_set] at hfound
          split at hfound
          · rename_i heq
            rw [heq, ← Option.some.inj hfound]
            exact ⟨not_not.mp hvlan, by simpa using hvalid⟩
          · exact h.routerInterfaces other found hfound
        dynamic := h.dynamic }

-- ---------------------------------------------------------------------------
-- What a call leaves alone
-- ---------------------------------------------------------------------------

inductive Component
  | ports
  | queues
  | macTable
  | routeTable
  | arpCache
  | statistics

def Component.Same (before after : SoftwareAsic) : Component → Prop
  | .ports => after.ports = before.ports
  | .queues => after.queues = before.queues
  | .macTable => after.macTable = before.macTable
  | .routeTable => after.routeTable = before.routeTable
  | .arpCache => after.arpCache = before.arpCache
  | .statistics => after.statistics = before.statistics

/-- Whether a call may write the component. -/
def Operation.writes (component : Component) : Operation → Bool
  | .createPort _ _ | .removePort _ => (component matches .ports | .queues)
  | .setPortState _ _ _ => (component matches .ports)
  | .dequeuePacket _ => (component matches .queues)
  | .addOrReplaceRoute _ | .removeRoute _ => (component matches .routeTable)
  | .addOrReplaceNeighbor _ _ _ | .removeNeighbor _ => (component matches .arpCache)
  | .processPacket _ _ _ =>
    (component matches .ports | .queues | .macTable | .arpCache | .statistics)
  | .createVlan _ | .removeVlan _ | .addVlanMember _ _ | .setRouterInterface _ _
  | .configureFaults _ => false

theorem Component.same_refl (component : Component) (asic : SoftwareAsic) :
    component.Same asic asic := by
  cases component <;> rfl

/-- **A call leaves alone what it does not write.** -/
theorem step_frame (asic : SoftwareAsic) (operation : Operation) {component : Component}
    (h : operation.writes component = false) : component.Same asic (asic.step operation) := by
  have hrefl := component.same_refl asic
  cases operation with
  | createPort port queueCapacity =>
    rw [step, createPort]
    split
    · exact hrefl
    · split
      · exact hrefl
      · cases component with
        | ports | queues => exact Bool.noConfusion h
        | _ => rfl
  | removePort port =>
    rw [step, removePort]
    split
    · exact hrefl
    · dsimp only
      split <;> cases component with
        | ports | queues => exact Bool.noConfusion h
        | _ => rfl
  | setPortState port admin link =>
    rw [step, setPortState]
    split
    · exact hrefl
    · cases component with
      | ports => exact Bool.noConfusion h
      | _ => rfl
  | dequeuePacket port =>
    rw [step, dequeuePacket]
    split
    · exact hrefl
    · cases component with
      | queues => exact Bool.noConfusion h
      | _ => rfl
  | addOrReplaceRoute route =>
    rw [step, addOrReplaceRoute]
    split
    · exact hrefl
    · cases component with
      | routeTable => exact Bool.noConfusion h
      | _ => rfl
  | removeRoute routePrefix =>
    cases component with
    | routeTable => exact Bool.noConfusion h
    | _ => rfl
  | addOrReplaceNeighbor | removeNeighbor =>
    cases component with
    | arpCache => exact Bool.noConfusion h
    | _ => rfl
  | processPacket ingressPort bytes now =>
    cases component with
    | routeTable => exact (sameProgramming_processPacket asic ingressPort bytes now).routeTable
    | _ => exact Bool.noConfusion h
  | createVlan vlan => cases component <;> rfl
  | removeVlan vlan =>
    rw [step, removeVlan]
    split
    · exact hrefl
    · dsimp only
      split <;> cases component <;> rfl
  | addVlanMember vlan port =>
    rw [step, addVlanMember]
    split
    · exact hrefl
    · dsimp only
      split
      · exact hrefl
      · split
        · cases component <;> rfl
        · split <;> cases component <;> rfl
  | setRouterInterface vlan mac =>
    rw [step, setRouterInterface]
    split
    · exact hrefl
    · split
      · exact hrefl
      · cases component <;> rfl
  | configureFaults config =>
    rw [step, configureFaults]
    split
    · exact hrefl
    · cases component <;> rfl

-- ---------------------------------------------------------------------------
-- Packets and runs
-- ---------------------------------------------------------------------------

theorem allDynamic_learn {macTable : MacTable} (h : AllDynamic macTable) (vlan : VlanId)
    (mac : MacAddress) (port : PortId) (now : TimePoint) :
    AllDynamic (macTable.learn vlan mac port now).2 := by
  intro key entry hfind
  by_cases hkey : key = (vlan, mac)
  · rw [hkey, MacTable.find?_learn_self (h (vlan, mac))] at hfind
    split at hfind
    · rw [← Option.some.inj hfind]
      rfl
    · exact h (vlan, mac) entry hfind
  · rw [MacTable.find?_learn_of_ne hkey] at hfind
    exact h key entry hfind

theorem programmed_processPacket {asic : SoftwareAsic} (h : Programmed asic)
    (ingressPort : PortId) (bytes : List UInt8) (now : TimePoint) :
    Programmed (asic.processPacket ingressPort bytes now).2 := by
  refine h.of_sameProgramming (sameProgramming_processPacket asic ingressPort bytes now) ?_
  rcases processPacket_macTable_cases asic ingressPort bytes now with
    hsame | ⟨_, frame, vlan, _, _, hlearn⟩
  · rw [hsame]
    exact h.dynamic
  · rw [hlearn]
    exact allDynamic_learn h.dynamic vlan frame.source ingressPort now

/-- **Every call keeps the programmed state consistent.** -/
theorem programmed_step {asic : SoftwareAsic} (operation : Operation) (h : Programmed asic) :
    Programmed (asic.step operation) := by
  cases operation with
  | createPort port queueCapacity => exact programmed_createPort h port queueCapacity
  | removePort port => exact programmed_removePort h port
  | setPortState port admin link => exact programmed_setPortState h port admin link
  | createVlan vlan => exact programmed_createVlan h vlan
  | removeVlan vlan => exact programmed_removeVlan h vlan
  | addVlanMember vlan port => exact programmed_addVlanMember h vlan port
  | setRouterInterface vlan mac => exact programmed_setRouterInterface h vlan mac
  | addOrReplaceRoute route =>
    rw [step, addOrReplaceRoute]
    split <;> exact h.of_eq rfl rfl rfl rfl rfl rfl
  | removeRoute routePrefix => exact h.of_eq rfl rfl rfl rfl rfl rfl
  | addOrReplaceNeighbor address mac learnedAt => exact h.of_eq rfl rfl rfl rfl rfl rfl
  | removeNeighbor address => exact h.of_eq rfl rfl rfl rfl rfl rfl
  | configureFaults config =>
    rw [step, configureFaults]
    split <;> exact h.of_eq rfl rfl rfl rfl rfl rfl
  | processPacket ingressPort bytes now => exact programmed_processPacket h ingressPort bytes now
  | dequeuePacket port =>
    have hsame := sameForwarding_dequeuePacket asic port
    refine h.of_sameProgramming hsame.toSameProgramming ?_
    rw [step, hsame.macTable]
    exact h.dynamic

/-- Every reachable state is consistently programmed. -/
theorem Reachable.programmed {asic : SoftwareAsic} (h : asic.Reachable) : Programmed asic :=
  h.invariant programmed_create fun _ operation => programmed_step operation

-- ---------------------------------------------------------------------------
-- A small device
-- ---------------------------------------------------------------------------

-- The concrete ports, frames and calls that witnesses and counterexamples run.

namespace Example

def hostMac (host : UInt8) : MacAddress := ⟨[2, 0, 0, 0, 0, host], rfl⟩

def vlan : VlanId := ⟨10, by decide, by decide⟩

def firstPort : PortId := ⟨1, by decide⟩
def secondPort : PortId := ⟨2, by decide⟩

/-- An operational access port of the VLAN. -/
def accessPort (id : PortId) : VirtualPort where
  id
  macAddress := hostMac 0xF0
  speed := .gbps1
  mtu := 1500
  vlanConfig := .access vlan
  adminEnabled := true
  linkUp := true
  counters := {}
  macAddress_valid := by decide
  mtu_bounds := by decide

/-- The octets of an untagged frame of another protocol than IPv4 and ARP. -/
def frameBytes (source destination : UInt8) (payload : List UInt8) : List UInt8 :=
  EthernetFrame.layout (hostMac destination) (hostMac source) ⟨0x88B5⟩ payload none

/-- Two access ports, both members of the VLAN. -/
def twoPorts : List Operation :=
  [.createPort (accessPort firstPort) 4, .createPort (accessPort secondPort) 4, .createVlan vlan,
   .addVlanMember vlan firstPort, .addVlanMember vlan secondPort]

/-- A fresh device after some calls. -/
abbrev device (operations : List Operation) : SoftwareAsic :=
  run step (create 8 (by decide)) operations

theorem reachable_device (operations : List Operation) : (device operations).Reachable :=
  ⟨8, by decide, operations, rfl⟩

end Example

-- ---------------------------------------------------------------------------
-- Consistency
-- ---------------------------------------------------------------------------

/-- Under the invariant `queues_.at` finds the queue of the port it removes. -/
theorem removePort_fst_ne_outOfRange {asic : SoftwareAsic} (h : Programmed asic) (id : PortId) :
    (asic.removePort id).1 ≠ .error .outOfRange := by
  cases hport : asic.ports.find? id with
  | none => simp [removePort, hport]
  | some port => simp [removePort_eq h hport]

/-- `ports_.at` looks up a port that the first check has found. -/
theorem addVlanMember_fst_ne_outOfRange (asic : SoftwareAsic) (vlan : VlanId) (id : PortId) :
    (asic.addVlanMember vlan id).1 ≠ .error .outOfRange := by
  rw [addVlanMember]
  split
  · simp
  · rename_i hpresent
    rw [not_or, not_not] at hpresent
    dsimp only
    split
    · simp
    · split
      · rename_i hmissing
        exact absurd hmissing hpresent.2
      · split <;> simp

/-- **Programmed-state consistency** of every reachable state: ports and queues
under the same keys, open queues with room for a packet, members and interfaces of
created VLANs only, a MAC table within its capacity, and no throwing lookup. -/
theorem programmed_consistency {asic : SoftwareAsic} (h : asic.Reachable) :
    (∀ id, asic.queues.find? id = none ↔ asic.ports.find? id = none) ∧
      (∀ id port, asic.ports.find? id = some port → port.id = id) ∧
      (∀ id queue, asic.queues.find? id = some queue →
        queue.isClosed = false ∧ 0 < queue.capacity) ∧
      (∀ vlan, asic.memberList vlan ≠ [] → vlan ∈ asic.vlans) ∧
      (∀ vlan, (asic.memberList vlan).Nodup ∧ ∀ id ∈ asic.memberList vlan,
        ∃ port, asic.ports.find? id = some port ∧ port.vlanConfig.allows vlan = true) ∧
      (∀ vlan mac, asic.routerInterfaces.find? vlan = some mac →
        vlan ∈ asic.vlans ∧ mac ≠ MacAddress.unspecified ∧ mac.isUnicast = true) ∧
      asic.macTable.entries.size ≤ asic.macTable.capacity ∧
      (∀ id, (asic.removePort id).1 ≠ .error .outOfRange) ∧
      ∀ vlan id, (asic.addVlanMember vlan id).1 ≠ .error .outOfRange := by
  have hprogrammed := h.programmed
  refine ⟨hprogrammed.queue_iff, hprogrammed.port_id, ?_, ?_, ?_, ?_, asic.macTable.size_le,
    removePort_fst_ne_outOfRange hprogrammed, addVlanMember_fst_ne_outOfRange asic⟩
  · intro id queue hqueue
    exact ⟨hprogrammed.queue_open id queue hqueue, queue.capacity_pos⟩
  · intro vlan hnonempty
    obtain ⟨member, hmember⟩ := List.exists_mem_of_ne_nil _ hnonempty
    exact (hprogrammed.members vlan member hmember).1
  · intro vlan
    exact ⟨hprogrammed.members_nodup vlan, fun id hmem => (hprogrammed.members vlan id hmem).2⟩
  · intro vlan mac hmac
    obtain ⟨hvlan, hvalid⟩ := hprogrammed.routerInterfaces vlan mac hmac
    rw [validRouterMac, MacAddress.isNonzeroUnicast, Bool.and_eq_true, bne_iff_ne] at hvalid
    exact ⟨hvlan, hvalid⟩

open Example in
/-- Both members of the small device's VLAN exist and allow it. -/
theorem programmed_consistency_twoPorts :
    (device twoPorts).memberList vlan = [firstPort, secondPort] ∧
      ∀ id ∈ (device twoPorts).memberList vlan,
        ∃ port, (device twoPorts).ports.find? id = some port ∧ port.vlanConfig.allows vlan = true :=
  ⟨by decide +kernel,
    ((programmed_consistency (reachable_device twoPorts)).2.2.2.2.1 vlan).2⟩

end SiliconSwitch.Asic.SoftwareAsic
