import SiliconSwitch.Switching.Pipeline

/-!
# VLANs do not interfere

Two runs of the ingress pipeline, on MAC tables that agree on one VLAN.

* `SameVlan`            — the tables hold the same entries for a VLAN;
* `learn_of_room`       — with room left, learning is a function of the key's entry;
* `learn_sameVlan`      — so it reports the same on both tables, and keeps them alike;
* `vlan_noninterference` — and so does the whole pipeline.
-/

namespace SiliconSwitch.Switching

open SiliconSwitch.Library SiliconSwitch.Network SiliconSwitch.Routing

/-- The tables hold the same entries for the VLAN. -/
def SameVlan (vlan : VlanId) (first second : MacTable) : Prop :=
  ∀ macAddress, first.lookup vlan macAddress = second.lookup vlan macAddress

/-- The table has room for one more entry. -/
def MacTable.HasRoom (table : MacTable) : Prop := table.entries.size < table.capacity

instance (table : MacTable) : Decidable table.HasRoom :=
  inferInstanceAs (Decidable (table.entries.size < table.capacity))

-- ---------------------------------------------------------------------------
-- Learning
-- ---------------------------------------------------------------------------

/-- What learning reports of a key and leaves for it, by the entry before. -/
def learning (ingressPort : PortId) (learnedAt : TimePoint) :
    Option MacTableEntry → MacTableUpdate × Option MacTableEntry
  | none => (.inserted, some ⟨ingressPort, .dynamic, learnedAt⟩)
  | some existing =>
    if existing.isStatic then
      (if existing.port ≠ ingressPort then .staticConflict else .refreshed, some existing)
    else
      (if existing.port ≠ ingressPort then .moved else .refreshed,
        some ⟨ingressPort, .dynamic, learnedAt⟩)

theorem learn_of_room {table : MacTable} (hroom : table.HasRoom) {vlan : VlanId}
    {macAddress : MacAddress} (hlearnable : isLearnable macAddress = true)
    {found : Option MacTableEntry} (hfound : table.lookup vlan macAddress = found)
    (ingressPort : PortId) (learnedAt : TimePoint) :
    ((table.learn vlan macAddress ingressPort learnedAt).1,
        (table.learn vlan macAddress ingressPort learnedAt).2.lookup vlan macAddress) =
      learning ingressPort learnedAt found := by
  rw [MacTable.learn, dif_pos hlearnable]
  unfold MacTable.update
  split
  · rename_i hfind
    obtain rfl : found = none := hfound.symm.trans hfind
    split
    · rename_i hfull
      exact absurd hroom (Nat.not_lt_of_le hfull)
    · exact congrArg (Prod.mk _) (Table.find?_set_self ..)
  · rename_i existing hfind
    obtain rfl : found = some existing := hfound.symm.trans hfind
    rw [learning]
    cases existing.isStatic with
    | true =>
      -- a static entry stays, whatever the port
      simp only [Bool.true_and, beq_self_eq_true, if_true]
      split
      · exact congrArg (Prod.mk _) hfind
      · exact congrArg (Prod.mk _) hfind
    | false =>
      simp only [Bool.false_and, Bool.false_eq_true, if_false]
      exact congrArg (Prod.mk _) (Table.find?_set_self ..)

/-- **Learning in a VLAN is a matter of that VLAN**: tables that agree on it report the same
and go on to agree. -/
theorem learn_sameVlan {vlan : VlanId} {first second : MacTable}
    (hsame : SameVlan vlan first second) (hfirst : first.HasRoom) (hsecond : second.HasRoom)
    (macAddress : MacAddress) (ingressPort : PortId) (learnedAt : TimePoint) :
    (first.learn vlan macAddress ingressPort learnedAt).1 =
        (second.learn vlan macAddress ingressPort learnedAt).1 ∧
      SameVlan vlan (first.learn vlan macAddress ingressPort learnedAt).2
        (second.learn vlan macAddress ingressPort learnedAt).2 := by
  cases hlearnable : isLearnable macAddress with
  | false =>
    rw [MacTable.learn, MacTable.learn, dif_neg (by simp [hlearnable]),
      dif_neg (by simp [hlearnable])]
    exact ⟨rfl, hsame⟩
  | true =>
    have hone := learn_of_room hfirst hlearnable (hsame macAddress) ingressPort learnedAt
    have htwo := learn_of_room hsecond hlearnable
      (rfl : second.lookup vlan macAddress = _) ingressPort learnedAt
    rw [← htwo, Prod.mk.injEq] at hone
    refine ⟨hone.1, fun other => ?_⟩
    by_cases hother : other = macAddress
    · rw [hother]
      exact hone.2
    · rw [MacTable.lookup_learn_of_ne hother, MacTable.lookup_learn_of_ne hother]
      exact hsame other

-- ---------------------------------------------------------------------------
-- The decision
-- ---------------------------------------------------------------------------

/-- The decision looks the destination up in the frame's VLAN, and nothing else. -/
theorem decideLearned_sameVlan {vlan : VlanId} {first second : MacTable}
    (hsame : SameVlan vlan first second) (frame : EthernetFrame) (ingressPort : PortId)
    (vlanPorts : List PortId) (routerInterfaces : RouterInterfaces) :
    decideLearned frame vlan ingressPort vlanPorts first routerInterfaces =
      decideLearned frame vlan ingressPort vlanPorts second routerInterfaces := by
  have hbridge : bridge frame vlan ingressPort vlanPorts first =
      bridge frame vlan ingressPort vlanPorts second := by
    rw [bridge, bridge, decideL2Forwarding, decideL2Forwarding, hsame frame.destination]
  rw [decideLearned, decideLearned, hbridge]

/-- What a classified frame meets, by the report of learning its source. -/
def decideAfter (frame : EthernetFrame) (vlan : VlanId) (ingressPort : PortId)
    (vlanPorts : List PortId) (routerInterfaces : RouterInterfaces) (update : MacTableUpdate)
    (learned : MacTable) : PipelineDecision :=
  match update with
  | .rejected => .drop (some vlan) .invalidSourceMac
  | .staticConflict => .drop (some vlan) .staticMacConflict
  | _ => decideLearned frame vlan ingressPort vlanPorts learned routerInterfaces

theorem decideAfter_sameVlan {vlan : VlanId} {first second : MacTable}
    (hsame : SameVlan vlan first second) (frame : EthernetFrame) (ingressPort : PortId)
    (vlanPorts : List PortId) (routerInterfaces : RouterInterfaces) (update : MacTableUpdate) :
    decideAfter frame vlan ingressPort vlanPorts routerInterfaces update first =
      decideAfter frame vlan ingressPort vlanPorts routerInterfaces update second := by
  have hdecide := decideLearned_sameVlan hsame frame ingressPort vlanPorts routerInterfaces
  cases update with
  | rejected | staticConflict => rfl
  | inserted | refreshed | moved | tableFull => exact hdecide

/-- The pipeline of a classified frame: learn its source, then decide. -/
theorem processL2L3Ingress_of_classify {frame : EthernetFrame} {portConfig : VlanPortConfig}
    {vlan : VlanId} (hclassify : classifyVlanIngress frame portConfig = .ok vlan)
    (ingressPort : PortId) (vlanPorts : List PortId) (table : MacTable)
    (routerInterfaces : RouterInterfaces) (now : TimePoint) :
    processL2L3Ingress frame ingressPort portConfig vlanPorts table routerInterfaces now =
      (decideAfter frame vlan ingressPort vlanPorts routerInterfaces
          (table.learn vlan frame.source ingressPort now).1
          (table.learn vlan frame.source ingressPort now).2,
        (table.learn vlan frame.source ingressPort now).2) := by
  simp only [processL2L3Ingress, hclassify]
  obtain ⟨update, learned⟩ := table.learn vlan frame.source ingressPort now
  cases update <;> rfl

-- ---------------------------------------------------------------------------
-- The pipeline
-- ---------------------------------------------------------------------------

/-- **Forwarding in a VLAN does not depend on the MAC entries of another.** A frame classified
into `vlan` meets the same decision on two tables that agree on `vlan` and have room left, and
leaves them in agreement; and on any table it leaves the entries of every other VLAN alone. -/
theorem vlan_noninterference {frame : EthernetFrame} {portConfig : VlanPortConfig} {vlan : VlanId}
    (hclassify : classifyVlanIngress frame portConfig = .ok vlan) (ingressPort : PortId)
    (vlanPorts : List PortId) (routerInterfaces : RouterInterfaces) (now : TimePoint) :
    (∀ first second : MacTable, SameVlan vlan first second → first.HasRoom → second.HasRoom →
      (processL2L3Ingress frame ingressPort portConfig vlanPorts first routerInterfaces now).1 =
          (processL2L3Ingress frame ingressPort portConfig vlanPorts second routerInterfaces
            now).1 ∧
        SameVlan vlan
          (processL2L3Ingress frame ingressPort portConfig vlanPorts first routerInterfaces now).2
          (processL2L3Ingress frame ingressPort portConfig vlanPorts second routerInterfaces
            now).2) ∧
    ∀ (table : MacTable) (other : VlanId) (macAddress : MacAddress), other ≠ vlan →
      (processL2L3Ingress frame ingressPort portConfig vlanPorts table routerInterfaces
        now).2.lookup other macAddress = table.lookup other macAddress := by
  have hstages := processL2L3Ingress_of_classify hclassify ingressPort vlanPorts
  constructor
  · intro first second hsame hfirst hsecond
    obtain ⟨hreport, hafter⟩ := learn_sameVlan hsame hfirst hsecond frame.source ingressPort now
    rw [hstages first, hstages second, hreport]
    exact ⟨decideAfter_sameVlan hafter frame ingressPort vlanPorts routerInterfaces _, hafter⟩
  · intro table other macAddress hne
    have hkey : (other, macAddress) ≠ (vlan, frame.source) := by
      intro heq
      exact hne (Prod.mk.inj heq).1
    rw [hstages table]
    exact MacTable.find?_learn_of_ne hkey

namespace NoninterferenceExample

def vlan : VlanId := ⟨25, by decide, by decide⟩
def otherVlan : VlanId := ⟨30, by decide, by decide⟩
def ingressPort : PortId := ⟨3, by decide⟩
def host (first : UInt8) : MacAddress := ⟨[first, 1, 1, 1, 1, 1], rfl⟩

/-- A frame from the second host to the first. -/
def frame : EthernetFrame where
  destination := host 4
  source := host 6
  etherType := ⟨0x88B5⟩
  payload := []
  vlanTag := none
  payload_le := EthernetFrame.empty_payload_le

def table : MacTable := MacTable.create 6 7 (by decide) (by decide)

/-- The table with the frame's destination learned in another VLAN. -/
def otherTable : MacTable := (table.learn otherVlan (host 4) ingressPort 0).2

theorem sameVlan_otherTable : SameVlan vlan table otherTable := by
  intro macAddress
  have hkey : (vlan, macAddress) ≠ (otherVlan, host 4) := by
    intro heq
    exact absurd (Prod.mk.inj heq).1 (by decide)
  exact (MacTable.find?_learn_of_ne hkey).symm

end NoninterferenceExample

open NoninterferenceExample in
/-- The frame is decided on as if the other VLAN had no entry for its destination. -/
theorem vlan_noninterference_otherTable :
    (processL2L3Ingress frame ingressPort (.access vlan) [ingressPort] table Table.empty 0).1 =
      (processL2L3Ingress frame ingressPort (.access vlan) [ingressPort] otherTable
        Table.empty 0).1 :=
  ((vlan_noninterference (by decide) ingressPort [ingressPort] Table.empty 0).1 table otherTable
    sameVlan_otherTable (by decide +kernel) (by decide +kernel)).1

end SiliconSwitch.Switching
