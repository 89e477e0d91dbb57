import SiliconSwitch.Routing.Forwarding

/-!
# The MAC table

A capacity-bounded table of `(VLAN, MAC)` keys. Its structure carries what the
class keeps: a positive capacity that bounds the size, a positive lifetime, and
keys that are nonzero unicast addresses.

* `Means`, `update_means` — what an outcome says of the table, and that it is right;
* `find?_learn_self`, `find?_learn_of_ne` — what `learn` does to every key;
* `learn_fst_eq_rejected`, `learn_fst_eq_tableFull`, `static_of_learn_fst` — what
  an outcome of `learn` says of the key's entry and the room left.
-/

namespace SiliconSwitch.Switching

open SiliconSwitch.Library SiliconSwitch.Network SiliconSwitch.Routing

inductive MacEntryType
  | dynamic
  | staticEntry
deriving DecidableEq

inductive MacTableUpdate
  | inserted
  | refreshed
  | moved
  | tableFull
  | rejected
  | staticConflict
deriving DecidableEq

/-- Whether an outcome of `learn` leaves the source recorded at the frame's port. -/
def MacTableUpdate.learned : MacTableUpdate → Bool
  | .inserted | .refreshed | .moved => true
  | .tableFull | .rejected | .staticConflict => false

structure MacTableEntry where
  port : PortId
  type : MacEntryType
  learnedAt : TimePoint
deriving DecidableEq

def MacTableEntry.isStatic (entry : MacTableEntry) : Bool := entry.type == .staticEntry

/-- `is_learnable`. -/
def isLearnable (address : MacAddress) : Bool := address.isNonzeroUnicast

abbrev MacKey : Type := VlanId × MacAddress

structure MacTable where
  capacity : Nat
  entryLifetime : Duration
  entries : Table MacKey MacTableEntry
  capacity_pos : 0 < capacity
  entryLifetime_pos : 0 < entryLifetime
  size_le : entries.size ≤ capacity
  keys_learnable : ∀ key entry, entries.find? key = some entry → isLearnable key.2 = true

namespace MacTable

def defaultEntryLifetime : Duration := 300 * 1000000000

def create (capacity : Nat) (entryLifetime : Duration) (hcapacity : 0 < capacity)
    (hlifetime : 0 < entryLifetime) : MacTable where
  capacity
  entryLifetime
  entries := Table.empty
  capacity_pos := hcapacity
  entryLifetime_pos := hlifetime
  size_le := by simp
  keys_learnable := by simp

/-- Write one entry of the table. -/
def store (table : MacTable) (key : MacKey) (entry : MacTableEntry)
    (hkey : isLearnable key.2 = true)
    (hsize : (table.entries.set key entry).size ≤ table.capacity) : MacTable :=
  { table with
    entries := table.entries.set key entry
    size_le := hsize
    keys_learnable := by
      intro other found h
      rw [Table.find?_set] at h
      split at h
      · rename_i heq
        rw [heq]
        exact hkey
      · exact table.keys_learnable other found h }

def update (table : MacTable) (key : MacKey) (hkey : isLearnable key.2 = true) (port : PortId)
    (type : MacEntryType) (learnedAt : TimePoint) : MacTableUpdate × MacTable :=
  match hfind : table.entries.find? key with
  | none =>
    if hfull : table.entries.size ≥ table.capacity then (.tableFull, table)
    else
      (.inserted, table.store key ⟨port, type, learnedAt⟩ hkey
        (by rw [Table.size_set_of_none _ hfind]; omega))
  | some existing =>
    -- a static entry is never overwritten by learning
    if existing.isStatic && type == .dynamic then
      if existing.port ≠ port then (.staticConflict, table) else (.refreshed, table)
    else
      (if existing.port ≠ port then .moved else .refreshed,
        table.store key ⟨port, type, learnedAt⟩ hkey
          (by rw [Table.size_set_of_some _ hfind]; exact table.size_le))

def learn (table : MacTable) (vlan : VlanId) (macAddress : MacAddress) (ingressPort : PortId)
    (learnedAt : TimePoint) : MacTableUpdate × MacTable :=
  if h : isLearnable macAddress = true then
    table.update (vlan, macAddress) h ingressPort .dynamic learnedAt
  else (.rejected, table)

/-- `MacTable::add_static`; a static entry carries the epoch as its time. -/
def addStatic (table : MacTable) (vlan : VlanId) (macAddress : MacAddress) (port : PortId) :
    MacTableUpdate × MacTable :=
  if h : isLearnable macAddress = true then
    table.update (vlan, macAddress) h port .staticEntry 0
  else (.rejected, table)

def lookup (table : MacTable) (vlan : VlanId) (macAddress : MacAddress) : Option MacTableEntry :=
  table.entries.find? (vlan, macAddress)

def remove (table : MacTable) (vlan : VlanId) (macAddress : MacAddress) : Bool × MacTable :=
  ((table.entries.find? (vlan, macAddress)).isSome,
   { table with
     entries := table.entries.erase (vlan, macAddress)
     size_le := (Table.size_erase_le ..).trans table.size_le
     keys_learnable := by
       intro key entry h
       rw [Table.find?_erase] at h
       split at h
       · simp at h
       · exact table.keys_learnable key entry h })

/-- The test of `expire`: a dynamic entry at least a lifetime old. -/
def isExpired (table : MacTable) (entry : MacTableEntry) (now : TimePoint) : Bool :=
  !entry.isStatic && (now ≥ entry.learnedAt && now - entry.learnedAt ≥ table.entryLifetime)

def expire (table : MacTable) (now : TimePoint) : Nat × MacTable :=
  let kept := table.entries.filter fun _ entry => !table.isExpired entry now
  (table.entries.size - kept.size,
   { table with
     entries := kept
     size_le := (Table.size_filter_le ..).trans table.size_le
     keys_learnable := by
       intro key entry h
       rw [Table.find?_filter, Option.filter_eq_some_iff] at h
       exact table.keys_learnable key entry h.1 })

-- ---------------------------------------------------------------------------
-- Outcomes
-- ---------------------------------------------------------------------------

/-- What an outcome says of the tables before and after the call that was to put `entry`
under `key`. A static entry that is learned again stays as it is. -/
def Means (table : MacTable) (key : MacKey) (entry : MacTableEntry) (after : MacTable) :
    MacTableUpdate → Prop
  | .inserted =>
    table.entries.find? key = none ∧ table.entries.size < table.capacity ∧
      after.entries.find? key = some entry
  | .refreshed =>
    ∃ old, table.entries.find? key = some old ∧ old.port = entry.port ∧
      after.entries.find? key =
        some (if old.isStatic && entry.type == .dynamic then old else entry)
  | .moved =>
    ∃ old, table.entries.find? key = some old ∧ old.port ≠ entry.port ∧
      (old.isStatic && entry.type == .dynamic) = false ∧ after.entries.find? key = some entry
  | .tableFull =>
    table.entries.find? key = none ∧ table.entries.size = table.capacity ∧ after = table
  | .rejected => isLearnable key.2 = false ∧ after = table
  | .staticConflict =>
    ∃ old, table.entries.find? key = some old ∧ old.isStatic = true ∧ entry.type = .dynamic ∧
      old.port ≠ entry.port ∧ after = table

/-- **Every outcome of an update is right.** -/
theorem update_means (table : MacTable) (key : MacKey) (hkey : isLearnable key.2 = true)
    (port : PortId) (type : MacEntryType) (learnedAt : TimePoint) :
    Means table key ⟨port, type, learnedAt⟩ (table.update key hkey port type learnedAt).2
      (table.update key hkey port type learnedAt).1 := by
  unfold update
  split
  · rename_i hfind
    split
    · rename_i hfull
      exact ⟨hfind, Nat.le_antisymm table.size_le hfull, rfl⟩
    · rename_i hroom
      exact ⟨hfind, Nat.lt_of_not_le hroom, Table.find?_set_self ..⟩
  · rename_i existing hfind
    split
    · rename_i hstatic
      split
      · rename_i hport
        rw [Bool.and_eq_true, beq_iff_eq] at hstatic
        exact ⟨existing, hfind, hstatic.1, hstatic.2, hport, rfl⟩
      · rename_i hport
        refine ⟨existing, hfind, not_not.mp hport, ?_⟩
        rw [if_pos hstatic]
        exact hfind
    · rename_i hdynamic
      dsimp only
      split
      · rename_i hport
        exact ⟨existing, hfind, hport, Bool.eq_false_iff.mpr hdynamic, Table.find?_set_self ..⟩
      · rename_i hport
        refine ⟨existing, hfind, not_not.mp hport, ?_⟩
        rw [if_neg hdynamic]
        exact Table.find?_set_self ..

theorem learn_means (table : MacTable) (vlan : VlanId) (macAddress : MacAddress) (port : PortId)
    (learnedAt : TimePoint) :
    Means table (vlan, macAddress) ⟨port, .dynamic, learnedAt⟩
      (table.learn vlan macAddress port learnedAt).2
      (table.learn vlan macAddress port learnedAt).1 := by
  unfold learn
  split
  · exact update_means ..
  · rename_i hunlearnable
    exact ⟨by simpa using hunlearnable, rfl⟩

theorem addStatic_means (table : MacTable) (vlan : VlanId) (macAddress : MacAddress)
    (port : PortId) :
    Means table (vlan, macAddress) ⟨port, .staticEntry, 0⟩
      (table.addStatic vlan macAddress port).2 (table.addStatic vlan macAddress port).1 := by
  unfold addStatic
  split
  · exact update_means ..
  · rename_i hunlearnable
    exact ⟨by simpa using hunlearnable, rfl⟩

-- ---------------------------------------------------------------------------
-- What learning does
-- ---------------------------------------------------------------------------

/-- Learning a key does not touch any other key. -/
theorem find?_update_of_ne {table : MacTable} {key other : MacKey} {port : PortId}
    {type : MacEntryType} {learnedAt : TimePoint} (hkey : isLearnable key.2 = true)
    (hne : other ≠ key) :
    (table.update key hkey port type learnedAt).2.entries.find? other =
      table.entries.find? other := by
  unfold update
  split
  · split
    · rfl
    · exact Table.find?_set_of_ne hne
  · split
    · split <;> rfl
    · exact Table.find?_set_of_ne hne

theorem find?_learn_of_ne {table : MacTable} {vlan : VlanId} {macAddress : MacAddress}
    {port : PortId} {learnedAt : TimePoint} {other : MacKey} (hne : other ≠ (vlan, macAddress)) :
    (table.learn vlan macAddress port learnedAt).2.entries.find? other =
      table.entries.find? other := by
  unfold learn
  split
  · exact find?_update_of_ne _ hne
  · rfl

/-- Learning the source of a frame leaves the entry of another destination alone. -/
theorem lookup_learn_of_ne {table : MacTable} {vlan : VlanId} {source destination : MacAddress}
    (hne : destination ≠ source) (port : PortId) (now : TimePoint) :
    (table.learn vlan source port now).2.lookup vlan destination =
      table.lookup vlan destination := by
  have hkey : (vlan, destination) ≠ (vlan, source) := by
    intro heq
    exact hne (Prod.mk.inj heq).2
  exact find?_learn_of_ne hkey

/-- Where no static entry stands in the way, `learn` records the port and the
time exactly if its outcome says so. -/
theorem find?_learn_self {table : MacTable} {vlan : VlanId} {macAddress : MacAddress}
    {port : PortId} {learnedAt : TimePoint}
    (hdynamic : ∀ entry, table.entries.find? (vlan, macAddress) = some entry →
      entry.isStatic = false) :
    (table.learn vlan macAddress port learnedAt).2.entries.find? (vlan, macAddress) =
      if (table.learn vlan macAddress port learnedAt).1.learned then
        some ⟨port, .dynamic, learnedAt⟩
      else table.entries.find? (vlan, macAddress) := by
  unfold learn
  split
  · unfold update
    split
    · split
      · rfl
      · exact Table.find?_set_self ..
    · rename_i existing hfind
      simp only [hdynamic existing hfind, Bool.false_and, Bool.false_eq_true, if_false]
      by_cases hport : existing.port ≠ port
      · simp [hport, MacTableUpdate.learned, store]
      · simp [hport, MacTableUpdate.learned, store]
  · rfl

theorem learn_fst_eq_rejected {table : MacTable} {vlan : VlanId} {macAddress : MacAddress}
    {port : PortId} {learnedAt : TimePoint} :
    (table.learn vlan macAddress port learnedAt).1 = .rejected ↔
      isLearnable macAddress = false := by
  constructor
  · intro h
    have hmeans := learn_means table vlan macAddress port learnedAt
    rw [h] at hmeans
    exact hmeans.1
  · intro h
    rw [learn, dif_neg (by simp [h])]

/-- `learn` reports a full table exactly for a learnable source without an entry
in a table at capacity. -/
theorem learn_fst_eq_tableFull {table : MacTable} {vlan : VlanId} {macAddress : MacAddress}
    {port : PortId} {learnedAt : TimePoint} :
    (table.learn vlan macAddress port learnedAt).1 = .tableFull ↔
      isLearnable macAddress = true ∧ table.entries.find? (vlan, macAddress) = none ∧
        table.capacity ≤ table.entries.size := by
  have hmeans := learn_means table vlan macAddress port learnedAt
  constructor
  · intro h
    rw [h] at hmeans
    obtain ⟨hfind, hfull, -⟩ := hmeans
    refine ⟨?_, hfind, Nat.le_of_eq hfull.symm⟩
    by_contra hunlearnable
    rw [learn, dif_neg hunlearnable] at h
    simp at h
  · rintro ⟨hlearnable, hfind, hfull⟩
    rw [learn, dif_pos hlearnable]
    unfold update
    split
    · rw [dif_pos hfull]
    · rename_i existing hfound
      rw [hfind] at hfound
      simp at hfound

/-- A static conflict needs a static entry of another port. -/
theorem static_of_learn_fst {table : MacTable} {vlan : VlanId} {macAddress : MacAddress}
    {port : PortId} {learnedAt : TimePoint}
    (h : (table.learn vlan macAddress port learnedAt).1 = .staticConflict) :
    ∃ entry, table.entries.find? (vlan, macAddress) = some entry ∧ entry.isStatic = true ∧
      entry.port ≠ port := by
  have hmeans := learn_means table vlan macAddress port learnedAt
  rw [h] at hmeans
  obtain ⟨entry, hfind, hstatic, -, hport, -⟩ := hmeans
  exact ⟨entry, hfind, hstatic, hport⟩

end MacTable

end SiliconSwitch.Switching
