import SiliconSwitch.Library.Transition
import SiliconSwitch.Switching.MacTable

/-!
# What the MAC table reports

The outcomes of `learn` and `add_static`, and what `expire` deletes, against the
entries before and after the call, in every table that a run of calls builds.

* `find?_step_of_ne` — a call leaves the keys alone that it does not name;
* `find?_learn_of_static` — learning changes no static entry;
* `mem_expire` and `expire_count` — `expire` deletes the entries that are a
  lifetime old, and counts them;
* `mac_table_outcomes` — all of it, in every state of every run.
-/

namespace SiliconSwitch.Switching

open SiliconSwitch.Library SiliconSwitch.Network SiliconSwitch.Routing

/-- The calls that change a MAC table. -/
inductive MacTableOperation
  | learn (vlan : VlanId) (macAddress : MacAddress) (ingressPort : PortId) (learnedAt : TimePoint)
  | addStatic (vlan : VlanId) (macAddress : MacAddress) (port : PortId)
  | remove (vlan : VlanId) (macAddress : MacAddress)
  | expire (now : TimePoint)

namespace MacTable

def step (table : MacTable) : MacTableOperation → MacTable
  | .learn vlan macAddress ingressPort learnedAt =>
    (table.learn vlan macAddress ingressPort learnedAt).2
  | .addStatic vlan macAddress port => (table.addStatic vlan macAddress port).2
  | .remove vlan macAddress => (table.remove vlan macAddress).2
  | .expire now => (table.expire now).2

/-- A run of calls on a new table builds the table. -/
def Reachable (capacity : Nat) (entryLifetime : Duration) (table : MacTable) : Prop :=
  ∃ (hcapacity : 0 < capacity) (hlifetime : 0 < entryLifetime)
    (operations : List MacTableOperation),
    table = run step (create capacity entryLifetime hcapacity hlifetime) operations

-- ---------------------------------------------------------------------------
-- Calls and keys
-- ---------------------------------------------------------------------------

theorem find?_addStatic_of_ne {table : MacTable} {vlan : VlanId} {macAddress : MacAddress}
    {port : PortId} {other : MacKey} (hne : other ≠ (vlan, macAddress)) :
    (table.addStatic vlan macAddress port).2.entries.find? other = table.entries.find? other := by
  unfold addStatic
  split
  · exact find?_update_of_ne _ hne
  · rfl

/-- The key that a call names; `expire` names none. -/
def named : MacTableOperation → Option MacKey
  | .learn vlan macAddress _ _ | .addStatic vlan macAddress _ | .remove vlan macAddress =>
    some (vlan, macAddress)
  | .expire _ => none

/-- A call that names a key leaves the others alone. -/
theorem find?_step_of_ne {table : MacTable} {operation : MacTableOperation} {key other : MacKey}
    (hnamed : named operation = some key) (hne : other ≠ key) :
    (table.step operation).entries.find? other = table.entries.find? other := by
  cases operation with
  | learn vlan macAddress ingressPort learnedAt =>
    obtain rfl := Option.some.inj hnamed
    exact find?_learn_of_ne hne
  | addStatic vlan macAddress port =>
    obtain rfl := Option.some.inj hnamed
    exact find?_addStatic_of_ne hne
  | remove vlan macAddress =>
    obtain rfl := Option.some.inj hnamed
    exact (Table.find?_erase ..).trans (if_neg hne)
  | expire now => simp [named] at hnamed

/-- Learning leaves a static entry as it is. -/
theorem find?_learn_of_static {table : MacTable} {vlan : VlanId} {macAddress : MacAddress}
    {port : PortId} {learnedAt : TimePoint} {key : MacKey} {entry : MacTableEntry}
    (hfind : table.entries.find? key = some entry) (hstatic : entry.isStatic = true) :
    (table.learn vlan macAddress port learnedAt).2.entries.find? key = some entry := by
  by_cases hkey : key = (vlan, macAddress)
  · subst hkey
    have hmeans := learn_means table vlan macAddress port learnedAt
    cases hreported : (table.learn vlan macAddress port learnedAt).1 with
    | inserted =>
      rw [hreported, Means, hfind] at hmeans
      simp at hmeans
    | refreshed =>
      rw [hreported, Means, hfind] at hmeans
      obtain ⟨old, hold, -, hafter⟩ := hmeans
      obtain rfl := Option.some.inj hold
      rw [hafter, hstatic]
      rfl
    | moved =>
      rw [hreported, Means, hfind] at hmeans
      obtain ⟨old, hold, -, hdynamic, -⟩ := hmeans
      obtain rfl := Option.some.inj hold
      rw [hstatic] at hdynamic
      simp at hdynamic
    | tableFull =>
      rw [hreported, Means, hfind] at hmeans
      simp at hmeans
    | rejected =>
      rw [hreported, Means] at hmeans
      rw [hmeans.2, hfind]
    | staticConflict =>
      rw [hreported, Means] at hmeans
      obtain ⟨_, _, _, _, _, hafter⟩ := hmeans
      rw [hafter, hfind]
  · rw [find?_learn_of_ne hkey, hfind]

-- ---------------------------------------------------------------------------
-- Aging
-- ---------------------------------------------------------------------------

theorem isExpired_iff {table : MacTable} {entry : MacTableEntry} {now : TimePoint} :
    table.isExpired entry now = true ↔
      entry.type = .dynamic ∧ entry.learnedAt + table.entryLifetime ≤ now := by
  have htype : entry.isStatic = false ↔ entry.type = .dynamic := by
    rw [MacTableEntry.isStatic, beq_eq_false_iff_ne]
    cases entry.type <;> simp
  rw [isExpired, Bool.and_eq_true, Bool.and_eq_true, Bool.not_eq_true', htype,
    decide_eq_true_eq, decide_eq_true_eq]
  exact and_congr_right fun _ => aged_iff table.entryLifetime_pos

/-- **`expire` deletes the dynamic entries that are a lifetime old**, and no others. -/
theorem mem_expire {table : MacTable} {now : TimePoint} {key : MacKey} {entry : MacTableEntry} :
    (table.expire now).2.entries.find? key = some entry ↔
      table.entries.find? key = some entry ∧
        ¬ (entry.type = .dynamic ∧ entry.learnedAt + table.entryLifetime ≤ now) := by
  rw [← isExpired_iff, Bool.not_eq_true]
  show (table.entries.filter _).find? key = some entry ↔ _
  rw [Table.find?_filter, Option.filter_eq_some_iff, Bool.not_eq_true']

/-- The keys that `expire` deletes. -/
def expiredKeys (table : MacTable) (now : TimePoint) : Finset MacKey :=
  table.entries.keysWhere fun _ entry => table.isExpired entry now

theorem mem_expiredKeys {table : MacTable} {now : TimePoint} {key : MacKey} :
    key ∈ table.expiredKeys now ↔
      ∃ entry, table.entries.find? key = some entry ∧ entry.type = .dynamic ∧
        entry.learnedAt + table.entryLifetime ≤ now := by
  simp only [expiredKeys, Table.mem_keysWhere, isExpired_iff]

/-- **`expire` returns the number of the entries it deletes.** -/
theorem expire_count (table : MacTable) (now : TimePoint) :
    (table.expire now).1 = (table.expiredKeys now).card := by
  have hparts := Table.size_filter_add_not table.entries fun _ entry => table.isExpired entry now
  rw [expiredKeys, Table.card_keysWhere]
  show table.entries.size - (table.entries.filter fun _ entry => !table.isExpired entry now).size =
    _
  omega

theorem find?_expire_of_static {table : MacTable} {now : TimePoint} {key : MacKey}
    {entry : MacTableEntry} (hfind : table.entries.find? key = some entry)
    (hstatic : entry.isStatic = true) :
    (table.expire now).2.entries.find? key = some entry := by
  refine mem_expire.mpr ⟨hfind, ?_⟩
  rintro ⟨hdynamic, -⟩
  rw [MacTableEntry.isStatic, hdynamic] at hstatic
  exact absurd hstatic (by decide)

-- ---------------------------------------------------------------------------
-- Runs
-- ---------------------------------------------------------------------------

/-- No call changes the capacity or the lifetime. -/
theorem step_parameters (table : MacTable) (operation : MacTableOperation) :
    (table.step operation).capacity = table.capacity ∧
      (table.step operation).entryLifetime = table.entryLifetime := by
  have hupdate : ∀ key hkey port type learnedAt,
      (table.update key hkey port type learnedAt).2.capacity = table.capacity ∧
        (table.update key hkey port type learnedAt).2.entryLifetime = table.entryLifetime := by
    intro key hkey port type learnedAt
    unfold update
    split
    · split <;> exact ⟨rfl, rfl⟩
    · split
      · split <;> exact ⟨rfl, rfl⟩
      · exact ⟨rfl, rfl⟩
  cases operation with
  | learn vlan macAddress ingressPort learnedAt =>
    rw [step, learn]
    split
    · exact hupdate ..
    · exact ⟨rfl, rfl⟩
  | addStatic vlan macAddress port =>
    rw [step, addStatic]
    split
    · exact hupdate ..
    · exact ⟨rfl, rfl⟩
  | remove vlan macAddress => exact ⟨rfl, rfl⟩
  | expire now => exact ⟨rfl, rfl⟩

theorem Reachable.parameters {capacity : Nat} {entryLifetime : Duration} {table : MacTable}
    (h : Reachable capacity entryLifetime table) :
    table.capacity = capacity ∧ table.entryLifetime = entryLifetime := by
  obtain ⟨hcapacity, hlifetime, operations, rfl⟩ := h
  refine @run_invariant _ _ step
    (fun table => table.capacity = capacity ∧ table.entryLifetime = entryLifetime) ?_ _
    ⟨rfl, rfl⟩ operations
  intro table operation hparameters
  obtain ⟨hsame, hsame'⟩ := step_parameters table operation
  exact ⟨hsame.trans hparameters.1, hsame'.trans hparameters.2⟩

/-- **The reported outcomes are what happened**, in every state of every run. The table is
within its capacity and its keys are nonzero unicast addresses; an update means what it
reports; no call touches a key that it does not name; neither learning nor aging changes a
static entry; and `expire` deletes and counts the dynamic entries that are a lifetime old. -/
theorem mac_table_outcomes {capacity : Nat} {entryLifetime : Duration} {table : MacTable}
    (h : Reachable capacity entryLifetime table) :
    (table.entries.size ≤ capacity ∧
      ∀ key entry, table.entries.find? key = some entry →
        key.2 ≠ MacAddress.unspecified ∧ key.2.isUnicast = true) ∧
    (∀ vlan macAddress port learnedAt,
      Means table (vlan, macAddress) ⟨port, .dynamic, learnedAt⟩
        (table.learn vlan macAddress port learnedAt).2
        (table.learn vlan macAddress port learnedAt).1) ∧
    (∀ vlan macAddress port,
      Means table (vlan, macAddress) ⟨port, .staticEntry, 0⟩
        (table.addStatic vlan macAddress port).2 (table.addStatic vlan macAddress port).1) ∧
    (∀ operation key other, named operation = some key → other ≠ key →
      (table.step operation).entries.find? other = table.entries.find? other) ∧
    (∀ key entry, table.entries.find? key = some entry → entry.isStatic = true →
      (∀ vlan macAddress port learnedAt,
        (table.learn vlan macAddress port learnedAt).2.entries.find? key = some entry) ∧
      ∀ now, (table.expire now).2.entries.find? key = some entry) ∧
    ∀ now,
      (∀ key entry, (table.expire now).2.entries.find? key = some entry ↔
        table.entries.find? key = some entry ∧
          ¬ (entry.type = .dynamic ∧ entry.learnedAt + entryLifetime ≤ now)) ∧
      ∃ deleted : Finset MacKey,
        (∀ key, key ∈ deleted ↔ ∃ entry, table.entries.find? key = some entry ∧
          entry.type = .dynamic ∧ entry.learnedAt + entryLifetime ≤ now) ∧
        (table.expire now).1 = deleted.card := by
  obtain ⟨hcapacity, hlifetime⟩ := h.parameters
  refine ⟨⟨?_, ?_⟩, ?_, ?_, ?_, ?_, ?_⟩
  · rw [← hcapacity]
    exact table.size_le
  · intro key entry hfind
    have hlearnable := table.keys_learnable key entry hfind
    rw [isLearnable, MacAddress.isNonzeroUnicast, Bool.and_eq_true, bne_iff_ne] at hlearnable
    exact hlearnable
  · exact learn_means table
  · exact addStatic_means table
  · intro operation key other hnamed hne
    exact find?_step_of_ne hnamed hne
  · intro key entry hfind hstatic
    exact ⟨fun _ _ _ _ => find?_learn_of_static hfind hstatic,
      fun _ => find?_expire_of_static hfind hstatic⟩
  · intro now
    rw [← hlifetime]
    exact ⟨fun _ _ => mem_expire, table.expiredKeys now, fun _ => mem_expiredKeys,
      expire_count table now⟩

namespace Example

def vlan : VlanId := ⟨1, by decide, by decide⟩
def port : PortId := ⟨7, by decide⟩
def host (last : UInt8) : MacAddress := ⟨[2, 0, 0, 0, 7, last], rfl⟩

/-- A table of one entry, with the first host in it. -/
def filled : MacTable :=
  run step (create 1 1 (by decide) (by decide)) [.learn vlan (host 1) port 0]

end Example

open Example in
/-- There is no room for a second host: the table stays as it is. -/
theorem mac_table_outcomes_filled :
    (filled.learn vlan (host 2) port 0).1 = .tableFull ∧
      (filled.learn vlan (host 2) port 0).2 = filled := by
  have hfull : (filled.learn vlan (host 2) port 0).1 = .tableFull := by decide +kernel
  have hreachable : Reachable 1 1 filled :=
    ⟨by decide, by decide, [.learn vlan (host 1) port 0], rfl⟩
  have hmeans := (mac_table_outcomes hreachable).2.1 vlan (host 2) port 0
  rw [hfull, Means] at hmeans
  exact ⟨hfull, hmeans.2.2⟩

end MacTable

end SiliconSwitch.Switching
