import SiliconSwitch.Discovery.DiscoveryMessage
import SiliconSwitch.Library.Keyed
import SiliconSwitch.Library.Transition

/-!
# The lab configuration

`LabConfiguration`: the machines of the lab, which discovered records enter and update.

* `addOrUpdate_cases`   — what a call can do;
* `conflictFree_step`   — no call makes two machines share an identity;
* `complete_iff`        — a complete lab is a leader and three observers;
* `run_of_apart`        — records apart from each other are all added, in their order;
* `lab_conflict_free`   — the configuration over whole runs of calls.
-/

namespace SiliconSwitch.Discovery

open SiliconSwitch.Library

structure DiscoveredMachine where
  nodeId : UInt64
  name : List UInt8
  address : List UInt8
  role : MachineRole
  capabilities : Capability
  controlPort : UInt16
  statePort : UInt16
deriving DecidableEq

inductive ConfigurationResult
  | added
  | updated
  | rejectedConflict
  | rejectedInvalid
deriving DecidableEq

namespace DiscoveredMachine

/-- The field checks that open `add_or_update`. -/
def Invalid (machine : DiscoveredMachine) : Prop :=
  machine.nodeId = 0 ∨ machine.name = [] ∨ machine.address = [] ∨
    machine.role = .unspecified ∨ machine.statePort = 0 ∨
    (machine.role = .leader ∧ machine.controlPort = 0)

instance (machine : DiscoveredMachine) : Decidable machine.Invalid :=
  inferInstanceAs (Decidable (_ ∨ _))

/-- Another node than `machine`, under its name or at its address. -/
def Conflicts (machine current : DiscoveredMachine) : Prop :=
  current.nodeId ≠ machine.nodeId ∧
    (current.name = machine.name ∨ current.address = machine.address)

instance (machine current : DiscoveredMachine) : Decidable (machine.Conflicts current) :=
  inferInstanceAs (Decidable (_ ∧ _))

/-- Machines that differ in identifier, name and address. -/
structure Apart (first second : DiscoveredMachine) : Prop where
  nodeId : first.nodeId ≠ second.nodeId
  name : first.name ≠ second.name
  address : first.address ≠ second.address

theorem Apart.symm {first second : DiscoveredMachine} (h : Apart first second) :
    Apart second first :=
  ⟨h.nodeId.symm, h.name.symm, h.address.symm⟩

end DiscoveredMachine

structure LabConfiguration where
  machines : List DiscoveredMachine
deriving DecidableEq

namespace LabConfiguration

def empty : LabConfiguration := ⟨[]⟩

def addOrUpdate (configuration : LabConfiguration) (machine : DiscoveredMachine) :
    ConfigurationResult × LabConfiguration :=
  if machine.Invalid then (.rejectedInvalid, configuration)
  else
    let sameNode := configuration.machines.find? fun current => current.nodeId = machine.nodeId
    let conflict := configuration.machines.find? fun current => machine.Conflicts current
    if conflict.isSome then (.rejectedConflict, configuration)
    else
      match sameNode with
      | none => (.added, ⟨configuration.machines ++ [machine]⟩)
      -- the assignment through the iterator: the first match is overwritten
      | some _ =>
        (.updated, ⟨upsert DiscoveredMachine.nodeId machine configuration.machines⟩)

def complete (configuration : LabConfiguration) : Bool :=
  configuration.machines.length == 4 &&
    configuration.machines.countP (fun machine => machine.role = .leader) == 1 &&
    configuration.machines.countP (fun machine => machine.role = .observer) == 3

/-- The configuration after a call. -/
def step (configuration : LabConfiguration) (machine : DiscoveredMachine) : LabConfiguration :=
  (configuration.addOrUpdate machine).2

-- ---------------------------------------------------------------------------
-- One call
-- ---------------------------------------------------------------------------

/-- The machines are valid, and no two of them share an identifier, a name or an address. -/
structure ConflictFree (configuration : LabConfiguration) : Prop where
  valid : ∀ machine ∈ configuration.machines, ¬ machine.Invalid
  apart : configuration.machines.Pairwise DiscoveredMachine.Apart

theorem conflictFree_empty : ConflictFree empty := ⟨by simp [empty], List.Pairwise.nil⟩

theorem ConflictFree.nodup_nodeId {configuration : LabConfiguration}
    (h : ConflictFree configuration) :
    (configuration.machines.map DiscoveredMachine.nodeId).Nodup :=
  List.pairwise_map.mpr (h.apart.imp DiscoveredMachine.Apart.nodeId)

/-- **What a call can do.** -/
theorem addOrUpdate_cases (configuration : LabConfiguration) (machine : DiscoveredMachine) :
    (machine.Invalid ∧ configuration.addOrUpdate machine = (.rejectedInvalid, configuration)) ∨
    (¬ machine.Invalid ∧ (∃ current ∈ configuration.machines, machine.Conflicts current) ∧
      configuration.addOrUpdate machine = (.rejectedConflict, configuration)) ∨
    (¬ machine.Invalid ∧ (∀ current ∈ configuration.machines, ¬ machine.Conflicts current) ∧
      machine.nodeId ∉ configuration.machines.map DiscoveredMachine.nodeId ∧
      configuration.addOrUpdate machine =
        (.added, ⟨configuration.machines ++ [machine]⟩)) ∨
    (¬ machine.Invalid ∧ (∀ current ∈ configuration.machines, ¬ machine.Conflicts current) ∧
      machine.nodeId ∈ configuration.machines.map DiscoveredMachine.nodeId ∧
      configuration.addOrUpdate machine =
        (.updated, ⟨upsert DiscoveredMachine.nodeId machine configuration.machines⟩)) := by
  by_cases hinvalid : machine.Invalid
  · exact Or.inl ⟨hinvalid, if_pos hinvalid⟩
  rw [addOrUpdate, if_neg hinvalid]
  dsimp only
  split
  · rename_i hconflict
    rw [List.find?_isSome] at hconflict
    obtain ⟨current, hmem, hcurrent⟩ := hconflict
    exact Or.inr (Or.inl ⟨hinvalid, ⟨current, hmem, of_decide_eq_true hcurrent⟩, rfl⟩)
  · rename_i hnone
    have hfree : ∀ current ∈ configuration.machines, ¬ machine.Conflicts current := by
      intro current hmem hcurrent
      exact hnone (List.find?_isSome.mpr ⟨current, hmem, decide_eq_true hcurrent⟩)
    right
    right
    split
    · rename_i hnew
      rw [List.find?_eq_none] at hnew
      refine Or.inl ⟨hinvalid, hfree, fun hmem => ?_, rfl⟩
      obtain ⟨current, hcurrent, heq⟩ := List.mem_map.mp hmem
      exact hnew current hcurrent (decide_eq_true heq)
    · rename_i current hfound
      have heq : current.nodeId = machine.nodeId := by simpa using List.find?_some hfound
      refine Or.inr ⟨hinvalid, hfree, ?_, rfl⟩
      rw [← heq]
      exact List.mem_map_of_mem (List.mem_of_find?_eq_some hfound)

theorem apart_of_not_conflicts {machine current : DiscoveredMachine}
    (hfree : ¬ machine.Conflicts current) (hne : current.nodeId ≠ machine.nodeId) :
    DiscoveredMachine.Apart current machine := by
  rw [DiscoveredMachine.Conflicts, not_and, not_or] at hfree
  obtain ⟨hname, haddress⟩ := hfree hne
  exact ⟨hne, hname, haddress⟩

/-- **No call makes two machines share an identity.** An update is compared with every machine
but the one that it replaces. -/
theorem conflictFree_step {configuration : LabConfiguration} (h : ConflictFree configuration)
    (machine : DiscoveredMachine) : ConflictFree (configuration.step machine) := by
  rw [step]
  rcases addOrUpdate_cases configuration machine with ⟨_, heq⟩ | ⟨_, _, heq⟩ |
    ⟨hvalid, hfree, hnew, heq⟩ | ⟨hvalid, hfree, hold, heq⟩
  · rw [heq]
    exact h
  · rw [heq]
    exact h
  · rw [heq]
    refine ⟨List.forall_mem_append.mpr ⟨h.valid, List.forall_mem_singleton.mpr hvalid⟩, ?_⟩
    refine List.pairwise_append.mpr ⟨h.apart, List.pairwise_singleton .., ?_⟩
    intro current hcurrent last hlast
    rw [List.mem_singleton] at hlast
    rw [hlast]
    refine apart_of_not_conflicts (hfree current hcurrent) fun hsame => hnew ?_
    rw [← hsame]
    exact List.mem_map_of_mem hcurrent
  · rw [heq, upsert_eq_map _ h.nodup_nodeId hold]
    constructor
    · intro changed hchanged
      obtain ⟨current, hcurrent, rfl⟩ := List.mem_map.mp hchanged
      split
      · exact hvalid
      · exact h.valid current hcurrent
    · refine List.pairwise_map.mpr (h.apart.imp_of_mem ?_)
      intro first second hfirst hsecond hapart
      by_cases hone : first.nodeId = machine.nodeId
      · have htwo : second.nodeId ≠ machine.nodeId := fun htwo =>
          hapart.nodeId (hone.trans htwo.symm)
        rw [if_pos hone, if_neg htwo]
        exact (apart_of_not_conflicts (hfree second hsecond) htwo).symm
      · rw [if_neg hone]
        by_cases htwo : second.nodeId = machine.nodeId
        · rw [if_pos htwo]
          exact apart_of_not_conflicts (hfree first hfirst) hone
        · rw [if_neg htwo]
          exact hapart

-- ---------------------------------------------------------------------------
-- Complete labs
-- ---------------------------------------------------------------------------

/-- **A complete lab is a leader and three observers.** -/
theorem complete_iff (configuration : LabConfiguration) :
    configuration.complete = true ↔
      ∃ (leader : DiscoveredMachine) (observers : List DiscoveredMachine),
        leader.role = .leader ∧ (∀ observer ∈ observers, observer.role = .observer) ∧
          observers.length = 3 ∧ configuration.machines.Perm (leader :: observers) := by
  rw [complete, Bool.and_eq_true, Bool.and_eq_true, beq_iff_eq, beq_iff_eq, beq_iff_eq]
  constructor
  · rintro ⟨⟨hlength, hleader⟩, hobservers⟩
    have hparts := List.filter_append_perm
      (fun machine : DiscoveredMachine => decide (machine.role = .leader)) configuration.machines
    rw [List.countP_eq_length_filter, List.length_eq_one_iff] at hleader
    obtain ⟨leader, hleader⟩ := hleader
    have hrole : leader.role = .leader := by
      have hmem : leader ∈ configuration.machines.filter
          fun machine => decide (machine.role = .leader) := hleader ▸ List.mem_singleton_self _
      exact of_decide_eq_true (List.mem_filter.mp hmem).2
    rw [hleader, List.singleton_append] at hparts
    -- the three others are counted as observers, all of them
    generalize configuration.machines.filter
      (fun machine => !decide (machine.role = .leader)) = others at hparts
    have hthree : others.length = 3 := by
      have hfour := hparts.length_eq
      rw [List.length_cons, hlength] at hfour
      omega
    have hall : others.countP (fun machine => decide (machine.role = .observer)) =
        others.length := by
      rw [hthree, ← hobservers, ← hparts.countP_eq, List.countP_cons_of_neg]
      rw [hrole]
      decide
    refine ⟨leader, others, hrole, fun observer hmem => ?_, hthree, hparts.symm⟩
    exact of_decide_eq_true (List.countP_eq_length.mp hall observer hmem)
  · rintro ⟨leader, observers, hleader, hobservers, hlength, hperm⟩
    have hnone : observers.countP (fun machine => decide (machine.role = .leader)) = 0 := by
      refine List.countP_eq_zero.mpr fun observer hmem => ?_
      rw [hobservers observer hmem]
      decide
    have hall : observers.countP (fun machine => decide (machine.role = .observer)) =
        observers.length := by
      refine List.countP_eq_length.mpr fun observer hmem => ?_
      exact decide_eq_true (hobservers observer hmem)
    have hleading : (leader :: observers).countP (fun machine => decide (machine.role = .leader)) =
        1 := by
      rw [List.countP_cons_of_pos (by simpa using hleader), hnone]
    have hobserving : (leader :: observers).countP
        (fun machine => decide (machine.role = .observer)) = 3 := by
      rw [List.countP_cons_of_neg (by simp [hleader]), hall, hlength]
    rw [hperm.length_eq, hperm.countP_eq, hperm.countP_eq, List.length_cons, hlength]
    exact ⟨⟨rfl, hleading⟩, hobserving⟩

-- ---------------------------------------------------------------------------
-- Records apart from each other
-- ---------------------------------------------------------------------------

/-- Records that are apart from each other, and from the machines that are there, are added in
their order; the invalid ones are left out. -/
theorem run_of_apart {machines records : List DiscoveredMachine}
    (h : (machines ++ records).Pairwise DiscoveredMachine.Apart) :
    (run step ⟨machines⟩ records).machines =
      machines ++ records.filter fun record => ¬ record.Invalid := by
  induction records generalizing machines with
  | nil => exact (List.append_nil machines).symm
  | cons record rest ih =>
    rw [List.append_cons] at h
    have hnew : ∀ current ∈ machines, DiscoveredMachine.Apart current record := by
      intro current hcurrent
      exact (List.pairwise_append.mp (List.pairwise_append.mp h).1).2.2 current hcurrent record
        (List.mem_singleton_self record)
    rw [run_cons, step]
    rcases addOrUpdate_cases ⟨machines⟩ record with ⟨hinvalid, heq⟩ |
      ⟨_, ⟨current, hcurrent, hconflict⟩, _⟩ | ⟨hvalid, _, _, heq⟩ | ⟨_, _, hold, _⟩
    · rw [heq, List.filter_cons_of_neg (by simpa using hinvalid)]
      exact ih (h.sublist ((List.sublist_append_left machines [record]).append_right rest))
    · rcases hconflict.2 with hname | haddress
      · exact absurd hname (hnew current hcurrent).name
      · exact absurd haddress (hnew current hcurrent).address
    · rw [heq, List.filter_cons_of_pos (by simpa using hvalid)]
      exact (ih h).trans (List.append_assoc machines [record] _)
    · obtain ⟨current, hcurrent, hsame⟩ := List.mem_map.mp hold
      exact absurd hsame (hnew current hcurrent).nodeId

-- ---------------------------------------------------------------------------
-- Whole runs
-- ---------------------------------------------------------------------------

/-- What the result of a call says about the configuration that it leaves. -/
def Means (configuration : LabConfiguration) (machine : DiscoveredMachine)
    (after : LabConfiguration) : ConfigurationResult → Prop
  | .rejectedInvalid => machine.Invalid ∧ after = configuration
  | .rejectedConflict =>
    (∃ current ∈ configuration.machines, machine.Conflicts current) ∧ after = configuration
  | .added =>
    (∀ current ∈ configuration.machines, current.nodeId ≠ machine.nodeId) ∧
      after.machines = configuration.machines ++ [machine]
  | .updated =>
    (∃ current ∈ configuration.machines, current.nodeId = machine.nodeId) ∧
      after.machines = configuration.machines.map fun current =>
        if current.nodeId = machine.nodeId then machine else current

theorem addOrUpdate_means {configuration : LabConfiguration} (h : ConflictFree configuration)
    (machine : DiscoveredMachine) :
    Means configuration machine (configuration.addOrUpdate machine).2
      (configuration.addOrUpdate machine).1 := by
  rcases addOrUpdate_cases configuration machine with ⟨hinvalid, heq⟩ | ⟨_, hconflict, heq⟩ |
    ⟨_, _, hnew, heq⟩ | ⟨_, _, hold, heq⟩
  · rw [heq]
    exact ⟨hinvalid, rfl⟩
  · rw [heq]
    exact ⟨hconflict, rfl⟩
  · rw [heq]
    refine ⟨fun current hcurrent hsame => hnew ?_, rfl⟩
    rw [← hsame]
    exact List.mem_map_of_mem hcurrent
  · rw [heq]
    exact ⟨List.mem_map.mp hold, upsert_eq_map _ h.nodup_nodeId hold⟩

/-- **The configuration stays conflict-free**, and what is in it at the end: over every run of
calls the machines are valid and differ in identifier, name and address, and every call does
what its result says; a complete lab is a leader and three observers; and records that are
apart from each other give the same machines in every order. -/
theorem lab_conflict_free :
    (∀ calls : List DiscoveredMachine,
      (∀ machine ∈ (run step empty calls).machines, ¬ machine.Invalid) ∧
        ((run step empty calls).machines.map DiscoveredMachine.nodeId).Nodup ∧
        ((run step empty calls).machines.map DiscoveredMachine.name).Nodup ∧
        ((run step empty calls).machines.map DiscoveredMachine.address).Nodup ∧
        (∀ machine, Means (run step empty calls) machine
          ((run step empty calls).addOrUpdate machine).2
          ((run step empty calls).addOrUpdate machine).1) ∧
        ((run step empty calls).complete = true ↔
          ∃ (leader : DiscoveredMachine) (observers : List DiscoveredMachine),
            leader.role = .leader ∧ (∀ observer ∈ observers, observer.role = .observer) ∧
              observers.length = 3 ∧
              (run step empty calls).machines.Perm (leader :: observers))) ∧
    ∀ records other : List DiscoveredMachine, records.Pairwise DiscoveredMachine.Apart →
      records.Perm other →
      (run step empty records).machines.Perm (run step empty other).machines := by
  constructor
  · intro calls
    have h : ConflictFree (run step empty calls) :=
      run_invariant (I := ConflictFree)
        (fun _ machine hfree => conflictFree_step hfree machine) conflictFree_empty calls
    refine ⟨h.valid, h.nodup_nodeId, ?_, ?_, addOrUpdate_means h, complete_iff _⟩
    · exact List.pairwise_map.mpr (h.apart.imp DiscoveredMachine.Apart.name)
    · exact List.pairwise_map.mpr (h.apart.imp DiscoveredMachine.Apart.address)
  · intro records other hapart hperm
    have hother : other.Pairwise DiscoveredMachine.Apart :=
      hperm.pairwise hapart DiscoveredMachine.Apart.symm
    have hfirst := @run_of_apart [] records hapart
    have hsecond := @run_of_apart [] other hother
    rw [List.nil_append] at hfirst hsecond
    rw [empty, hfirst, hsecond]
    exact hperm.filter _

end LabConfiguration

end SiliconSwitch.Discovery
