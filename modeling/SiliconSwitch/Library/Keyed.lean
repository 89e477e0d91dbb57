import Mathlib.Data.List.AList
import Mathlib.Tactic

/-!
# Keyed collections

Containers of records that are looked up by a key, over arbitrary types.

* `Table κ ν` — a finite map, an ordered-map container seen through its
  lookups: `find?` of every update is given by a simp lemma, and `size` counts
  the entries, `keysWhere` the ones that satisfy a test.
* `upsert key x xs` — replace the first record of `xs` that has the key of `x`,
  or append `x`. `foldl_upsert_of_keys_eq` says that upserting a list of records
  over a list with the same keys gives exactly the new records;
  `foldl_upsert_fresh` that records with new keys are appended in order.
* `firsts key records` — the records in order, only the first of each key;
  `take_firsts_eq_iff` says when a collection of bounded size is none the richer for
  further records.
* `lastWrite key value operations id` — what the last of a history's operations on the
  key `id` has left there.
* `current key id records` — the record that holds the key `id` now, in a list that
  also keeps the records which have held it before. `updateCurrent` changes that
  record only; `sum_updateCurrent` says what this does to a total over all records.
-/

namespace SiliconSwitch.Library

-- ---------------------------------------------------------------------------
-- Finite maps
-- ---------------------------------------------------------------------------

/-- A finite map from keys to values. -/
def Table (κ ν : Type) : Type := AList fun _ : κ => ν

namespace Table

variable {κ ν : Type}

def empty : Table κ ν := (∅ : AList fun _ : κ => ν)

/-- The number of entries. -/
def size (table : Table κ ν) : Nat := table.entries.length

/-- Keep the entries that satisfy `keep`. -/
def filter (table : Table κ ν) (keep : κ → ν → Bool) : Table κ ν where
  entries := table.entries.filter fun entry => keep entry.1 entry.2
  nodupKeys := table.nodupKeys.sublist List.filter_sublist

/-- Apply a function to every value. -/
def mapValues (table : Table κ ν) (f : ν → ν) : Table κ ν where
  entries := table.entries.map fun entry => ⟨entry.1, f entry.2⟩
  nodupKeys := List.NodupKeys.map₂ (fun _ => f) table.entries table.nodupKeys

@[simp] theorem size_empty : (empty : Table κ ν).size = 0 := rfl

theorem size_filter_le (table : Table κ ν) (keep : κ → ν → Bool) :
    (table.filter keep).size ≤ table.size :=
  List.length_filter_le _ _

/-- What a filter keeps and what it drops add up. -/
theorem size_filter_add_not (table : Table κ ν) (keep : κ → ν → Bool) :
    (table.filter keep).size + (table.filter fun key value => !keep key value).size =
      table.size := by
  have hparts := List.length_eq_length_filter_add
    (fun entry : Sigma fun _ : κ => ν => keep entry.1 entry.2) (l := table.entries)
  exact hparts.symm

variable [DecidableEq κ]

def find? (table : Table κ ν) (key : κ) : Option ν := AList.lookup key table

/-- Insert or overwrite. -/
def set (table : Table κ ν) (key : κ) (value : ν) : Table κ ν := AList.insert key value table

/-- Remove the entry of `key`, if there is one. -/
def erase (table : Table κ ν) (key : κ) : Table κ ν := AList.erase key table

/-- Insert unless the key is present. -/
def emplace (table : Table κ ν) (key : κ) (value : ν) : Table κ ν :=
  match table.find? key with
  | some _ => table
  | none => table.set key value

@[simp] theorem find?_empty (key : κ) : (empty : Table κ ν).find? key = none :=
  AList.lookup_empty key

theorem find?_set (table : Table κ ν) (key other : κ) (value : ν) :
    (table.set key value).find? other = if other = key then some value else table.find? other := by
  by_cases h : other = key
  · subst h
    rw [if_pos rfl]
    exact AList.lookup_insert table
  · rw [if_neg h]
    exact AList.lookup_insert_ne h

@[simp] theorem find?_set_self (table : Table κ ν) (key : κ) (value : ν) :
    (table.set key value).find? key = some value := by
  rw [find?_set, if_pos rfl]

theorem find?_set_of_ne {table : Table κ ν} {key other : κ} {value : ν} (h : other ≠ key) :
    (table.set key value).find? other = table.find? other := by
  rw [find?_set, if_neg h]

theorem find?_erase (table : Table κ ν) (key other : κ) :
    (table.erase key).find? other = if other = key then none else table.find? other := by
  by_cases h : other = key
  · subst h
    rw [if_pos rfl]
    exact AList.lookup_erase other table
  · rw [if_neg h]
    exact AList.lookup_erase_ne h

/-- Erasing an absent key changes nothing. -/
theorem erase_of_none {table : Table κ ν} {key : κ} (h : table.find? key = none) :
    table.erase key = table := by
  have habsent : key ∉ (show AList (fun _ : κ => ν) from table) := AList.lookup_eq_none.mp h
  exact AList.ext (List.kerase_of_notMem_keys habsent)

theorem find?_emplace (table : Table κ ν) (key other : κ) (value : ν) :
    (table.emplace key value).find? other =
      if other = key then some ((table.find? key).getD value) else table.find? other := by
  unfold emplace
  cases h : table.find? key with
  | some present =>
    by_cases hother : other = key
    · simp [hother, h]
    · simp [hother]
  | none => simp [find?_set]

theorem find?_emplace_of_none {table : Table κ ν} {key : κ} (value : ν)
    (h : table.find? key = none) : table.emplace key value = table.set key value := by
  simp [emplace, h]

theorem find?_mapValues (table : Table κ ν) (f : ν → ν) (key : κ) :
    (table.mapValues f).find? key = (table.find? key).map f :=
  @List.dlookup_map₂ κ _ (fun _ => ν) (fun _ => ν) table.entries (fun _ => f) key

theorem mem_entries_iff {table : Table κ ν} {key : κ} {value : ν} :
    (⟨key, value⟩ : Sigma fun _ : κ => ν) ∈ table.entries ↔ table.find? key = some value :=
  (List.mem_dlookup_iff table.nodupKeys).symm

theorem find?_filter (table : Table κ ν) (keep : κ → ν → Bool) (key : κ) :
    (table.filter keep).find? key = (table.find? key).filter (keep key) := by
  apply Option.ext
  intro value
  rw [← mem_entries_iff, filter, List.mem_filter, mem_entries_iff, Option.filter_eq_some_iff]

/-- The keys of the entries that satisfy `select`. -/
def keysWhere (table : Table κ ν) (select : κ → ν → Bool) : Finset κ :=
  (table.filter select).entries.keys.toFinset

theorem mem_keysWhere {table : Table κ ν} {select : κ → ν → Bool} {key : κ} :
    key ∈ table.keysWhere select ↔ ∃ value, table.find? key = some value ∧ select key value := by
  rw [keysWhere, List.mem_toFinset, List.mem_keys]
  simp only [mem_entries_iff, find?_filter, Option.filter_eq_some_iff]

/-- Each key has one entry. -/
theorem card_keysWhere (table : Table κ ν) (select : κ → ν → Bool) :
    (table.keysWhere select).card = (table.filter select).size := by
  have hnodup : (table.filter select).entries.keys.Nodup := (table.filter select).nodupKeys
  rw [keysWhere, List.toFinset_card_of_nodup hnodup, List.keys, List.length_map]
  rfl

theorem size_set_of_none {table : Table κ ν} {key : κ} (value : ν) (h : table.find? key = none) :
    (table.set key value).size = table.size + 1 := by
  have habsent : key ∉ (show AList (fun _ : κ => ν) from table) := AList.lookup_eq_none.mp h
  rw [size, set, AList.entries_insert_of_notMem habsent, List.length_cons]
  rfl

theorem size_set_of_some {table : Table κ ν} {key : κ} {old : ν} (value : ν)
    (h : table.find? key = some old) : (table.set key value).size = table.size := by
  have hpresent : key ∈ table.entries.keys := by
    have : key ∈ (show AList (fun _ : κ => ν) from table) := by
      rw [← AList.lookup_isSome]
      exact Option.isSome_iff_exists.mpr ⟨old, h⟩
    exact this
  have hpos : 0 < table.entries.keys.length := List.length_pos_of_mem hpresent
  have hkeys : (AList.insert key value table).keys.length =
      (key :: (AList.keys table).erase key).length :=
    congrArg List.length (AList.keys_insert table)
  rw [List.length_cons,
    List.length_erase_of_mem (show key ∈ AList.keys table from hpresent)] at hkeys
  simp only [AList.keys, List.keys, List.length_map] at hkeys hpos
  rw [size, set, size]
  omega

theorem size_erase_le (table : Table κ ν) (key : κ) : (table.erase key).size ≤ table.size :=
  (List.kerase_sublist key table.entries).length_le

end Table

-- ---------------------------------------------------------------------------
-- Lists of records with a key
-- ---------------------------------------------------------------------------

section Upsert

variable {α κ : Type} [DecidableEq κ] (key : α → κ)

/-- Replace the first record with the key of `record`, or append it. -/
def upsert (record : α) : List α → List α
  | [] => [record]
  | head :: rest => if key head = key record then record :: rest else head :: upsert record rest

theorem upsert_of_notMem {record : α} {records : List α}
    (h : key record ∉ records.map key) : upsert key record records = records ++ [record] := by
  induction records with
  | nil => rfl
  | cons head rest ih =>
    rw [List.map_cons, List.mem_cons, not_or] at h
    rw [upsert, if_neg (Ne.symm h.1), ih h.2, List.cons_append]

theorem length_le_length_upsert (record : α) (records : List α) :
    records.length ≤ (upsert key record records).length := by
  induction records with
  | nil => exact Nat.zero_le _
  | cons head rest ih =>
    rw [upsert]
    split
    · exact Nat.le_refl _
    · exact Nat.succ_le_succ ih

/-- A function that keeps the keys goes through an upsert. -/
theorem map_upsert {β : Type} {f : α → β} {keyAfter : β → κ}
    (hkey : ∀ record, keyAfter (f record) = key record) (record : α) (records : List α) :
    (upsert key record records).map f = upsert keyAfter (f record) (records.map f) := by
  induction records with
  | nil => rfl
  | cons head rest ih =>
    rw [List.map_cons, upsert, upsert, hkey, hkey]
    by_cases hhead : key head = key record
    · rw [if_pos hhead, if_pos hhead, List.map_cons]
    · rw [if_neg hhead, if_neg hhead, List.map_cons, ih]

theorem map_upsert_of_mem {record : α} {records : List α} (h : key record ∈ records.map key) :
    (upsert key record records).map key = records.map key := by
  induction records with
  | nil => simp at h
  | cons head rest ih =>
    by_cases hhead : key head = key record
    · rw [upsert, if_pos hhead, List.map_cons, List.map_cons, hhead]
    · rw [List.map_cons, List.mem_cons] at h
      rw [upsert, if_neg hhead, List.map_cons, List.map_cons,
        ih (h.resolve_left fun heq => hhead heq.symm)]

/-- Upserting keeps the keys pairwise distinct. -/
theorem nodup_upsert {record : α} {records : List α} (h : (records.map key).Nodup) :
    ((upsert key record records).map key).Nodup := by
  by_cases hmem : key record ∈ records.map key
  · rw [map_upsert_of_mem key hmem]
    exact h
  · rw [upsert_of_notMem key hmem, List.map_append]
    refine List.Nodup.append h (List.nodup_singleton _) ?_
    simpa using hmem

/-- Past records with other keys, the first match is replaced. -/
theorem upsert_append_cons {front rest : List α} {old record : α}
    (hfront : key record ∉ front.map key) (hkey : key old = key record) :
    upsert key record (front ++ old :: rest) = front ++ record :: rest := by
  induction front with
  | nil => rw [List.nil_append, upsert, if_pos hkey, List.nil_append]
  | cons head front ih =>
    rw [List.map_cons, List.mem_cons, not_or] at hfront
    rw [List.cons_append, upsert, if_neg (Ne.symm hfront.1), ih hfront.2, List.cons_append]

/-- Where the keys are distinct, replacing the first match replaces every match. -/
theorem upsert_eq_map {record : α} {records : List α} (hnodup : (records.map key).Nodup)
    (h : key record ∈ records.map key) :
    upsert key record records =
      records.map fun head => if key head = key record then record else head := by
  induction records with
  | nil => simp at h
  | cons head rest ih =>
    rw [List.map_cons, List.nodup_cons] at hnodup
    by_cases hhead : key head = key record
    · have hothers : rest.map (fun other => if key other = key record then record else other) =
          rest := by
        refine (List.map_congr_left fun other hother => ?_).trans (List.map_id rest)
        refine if_neg fun heq => hnodup.1 ?_
        rw [hhead, ← heq]
        exact List.mem_map_of_mem hother
      rw [upsert, if_pos hhead, List.map_cons, if_pos hhead, hothers]
    · rw [List.map_cons, List.mem_cons] at h
      rw [upsert, if_neg hhead, List.map_cons, if_neg hhead,
        ih hnodup.2 (h.resolve_left fun heq => hhead heq.symm)]

/-- Records whose keys are new, and pairwise distinct, are appended in order. -/
theorem foldl_upsert_fresh {records fresh : List α} (h : ((records ++ fresh).map key).Nodup) :
    fresh.foldl (fun acc record => upsert key record acc) records = records ++ fresh := by
  induction fresh generalizing records with
  | nil => rw [List.foldl_nil, List.append_nil]
  | cons record fresh ih =>
    have hnew : key record ∉ records.map key := by
      rw [List.map_append, List.nodup_append] at h
      intro hmem
      exact h.2.2 _ hmem _ (by simp) rfl
    rw [List.foldl_cons, upsert_of_notMem key hnew, ih (by simpa using h), List.append_assoc]
    rfl

/-- Upserting records over a list with the same keys, in the same order, gives
exactly the new records. -/
theorem foldl_upsert_of_keys_eq {old new : List α} (hkeys : old.map key = new.map key)
    (hnodup : (old.map key).Nodup) :
    new.foldl (fun acc record => upsert key record acc) old = new := by
  -- `done` holds the records replaced so far
  suffices h : ∀ (new old done : List α), old.map key = new.map key →
      ((done ++ old).map key).Nodup →
      new.foldl (fun acc record => upsert key record acc) (done ++ old) = done ++ new by
    simpa using h new old [] hkeys (by simpa using hnodup)
  intro new
  induction new with
  | nil =>
    intro old done hkeys _
    rw [List.map_nil, List.map_eq_nil_iff] at hkeys
    rw [hkeys, List.foldl_nil]
  | cons record new ih =>
    intro old done hkeys hnodup
    cases old with
    | nil => simp at hkeys
    | cons head old =>
      rw [List.map_cons, List.map_cons, List.cons.injEq] at hkeys
      have hdone : key record ∉ done.map key := by
        rw [List.map_append, List.nodup_append] at hnodup
        intro hmem
        exact hnodup.2.2 _ hmem _ (by simp [hkeys.1]) rfl
      have hmid : done ++ record :: old = (done ++ [record]) ++ old := by simp
      rw [List.foldl_cons, upsert_append_cons key hdone hkeys.1, hmid,
        ih old (done ++ [record]) hkeys.2 (by simpa [hkeys.1] using hnodup)]
      simp

/-- Looking a record up past one more. -/
theorem find?_key_cons (head : α) (rest : List α) (id : κ) :
    (head :: rest).find? (fun candidate => key candidate == id) =
      if key head = id then some head
      else rest.find? fun candidate => key candidate == id := by
  by_cases hid : key head = id
  · rw [if_pos hid, List.find?_cons_of_pos (by simpa using hid)]
  · rw [if_neg hid, List.find?_cons_of_neg (by simpa using hid)]

/-- Looking a record up after an upsert. -/
theorem find?_upsert (record : α) (records : List α) (id : κ) :
    (upsert key record records).find? (fun candidate => key candidate == id) =
      if key record = id then some record
      else records.find? fun candidate => key candidate == id := by
  induction records with
  | nil => rw [upsert, find?_key_cons]
  | cons head rest ih =>
    by_cases hhead : key head = key record
    · rw [upsert, if_pos hhead, find?_key_cons, find?_key_cons, hhead]
      by_cases hid : key record = id
      · rw [if_pos hid, if_pos hid]
      · rw [if_neg hid, if_neg hid, if_neg hid]
    · rw [upsert, if_neg hhead, find?_key_cons, find?_key_cons, ih]
      by_cases hid : key head = id
      · have hother : key record ≠ id := fun heq => hhead (hid.trans heq.symm)
        rw [if_pos hid, if_neg hother, if_pos hid]
      · rw [if_neg hid, if_neg hid]

/-- The records of a second list, upserted one after the other. -/
def merge (old new : List α) : List α :=
  new.foldl (fun acc record => upsert key record acc) old

theorem nodup_merge {old : List α} (h : (old.map key).Nodup) (new : List α) :
    ((merge key old new).map key).Nodup := by
  induction new generalizing old with
  | nil => exact h
  | cons record new ih => exact ih (nodup_upsert key h)

/-- The old keys stay where they are, the new ones follow in their order. -/
theorem map_merge (old : List α) {new : List α} (hnew : (new.map key).Nodup) :
    (merge key old new).map key =
      old.map key ++ (new.map key).filter fun id => id ∉ old.map key := by
  induction new generalizing old with
  | nil => simp [merge]
  | cons record new ih =>
    rw [List.map_cons, List.nodup_cons] at hnew
    show (merge key (upsert key record old) new).map key = _
    rw [ih _ hnew.2, List.map_cons]
    by_cases hmem : key record ∈ old.map key
    · rw [map_upsert_of_mem key hmem, List.filter_cons_of_neg (by simpa using hmem)]
    · have hfresh : ∀ id ∈ new.map key, id ≠ key record := by
        rintro id hid rfl
        exact hnew.1 hid
      rw [upsert_of_notMem key hmem, List.map_append, List.map_singleton,
        List.filter_cons_of_pos (by simpa using hmem), List.append_assoc, List.singleton_append]
      congr 2
      refine List.filter_congr fun id hid => ?_
      simp only [List.mem_append, List.mem_singleton, hfresh id hid, or_false]

/-- **The merge is right-biased**: a record of the second list comes before one of the
first. -/
theorem find?_merge (old : List α) {new : List α} (hnew : (new.map key).Nodup) (id : κ) :
    (merge key old new).find? (fun candidate => key candidate == id) =
      (new.find? fun candidate => key candidate == id).or
        (old.find? fun candidate => key candidate == id) := by
  induction new generalizing old with
  | nil => rfl
  | cons record new ih =>
    rw [List.map_cons, List.nodup_cons] at hnew
    show (merge key (upsert key record old) new).find? _ = _
    rw [ih _ hnew.2, find?_upsert, find?_key_cons]
    by_cases hid : key record = id
    · have hmissing : new.find? (fun candidate => key candidate == id) = none := by
        rw [List.find?_eq_none]
        intro candidate hcandidate hkey
        rw [beq_iff_eq] at hkey
        exact hnew.1 (List.mem_map.mpr ⟨candidate, hcandidate, hkey.trans hid.symm⟩)
      rw [if_pos hid, if_pos hid, hmissing, Option.none_or, Option.some_or]
    · rw [if_neg hid, if_neg hid]

/-- Records with distinct keys are determined by the order of the keys and the lookups. -/
theorem eq_of_find?_eq {first second : List α} (hkeys : first.map key = second.map key)
    (hnodup : (first.map key).Nodup)
    (hfind : ∀ id, first.find? (fun candidate => key candidate == id) =
      second.find? fun candidate => key candidate == id) : first = second := by
  induction first generalizing second with
  | nil => exact (List.map_eq_nil_iff.mp hkeys.symm).symm
  | cons record first ih =>
    cases second with
    | nil => simp at hkeys
    | cons other second =>
      rw [List.map_cons, List.map_cons, List.cons.injEq] at hkeys
      rw [List.map_cons, List.nodup_cons] at hnodup
      obtain ⟨hkey, hkeys⟩ := hkeys
      have hsame := hfind (key record)
      rw [find?_key_cons, find?_key_cons, if_pos rfl, if_pos hkey.symm, Option.some.injEq] at hsame
      subst hsame
      have hrest : first = second := by
        refine ih hkeys hnodup.2 fun id => ?_
        have hid := hfind id
        rw [find?_key_cons, find?_key_cons] at hid
        by_cases hrecord : key record = id
        · -- the key of the head is in neither tail
          have hmissing : ∀ rest : List α, rest.map key = first.map key →
              rest.find? (fun candidate => key candidate == id) = none := by
            intro rest hrest
            rw [List.find?_eq_none]
            intro candidate hcandidate hkey
            rw [beq_iff_eq, ← hrecord] at hkey
            exact hnodup.1 (hrest ▸ hkey ▸ List.mem_map_of_mem hcandidate)
          rw [hmissing first rfl, hmissing second hkeys.symm]
        · rwa [if_neg hrecord, if_neg hrecord] at hid
      rw [hrest]

/-- Merging the same records again changes nothing. -/
theorem merge_merge {old new : List α} (hold : (old.map key).Nodup)
    (hnew : (new.map key).Nodup) :
    merge key (merge key old new) new = merge key old new := by
  have hnodup := nodup_merge key hold new
  refine (eq_of_find?_eq key ?_ hnodup fun id => ?_).symm
  · rw [map_merge key (merge key old new) hnew]
    have hnone : ((new.map key).filter fun id => id ∉ (merge key old new).map key) = [] := by
      rw [List.filter_eq_nil_iff]
      intro id hid
      have hmem : id ∈ (merge key old new).map key := by
        rw [map_merge key old hnew, List.mem_append, List.mem_filter]
        by_cases hold : id ∈ old.map key
        · exact Or.inl hold
        · exact Or.inr ⟨hid, by simpa using hold⟩
      simpa using hmem
    rw [hnone, List.append_nil]
  · rw [find?_merge key (merge key old new) hnew, find?_merge key old hnew]
    cases new.find? fun candidate => key candidate == id with
    | none => rfl
    | some record => rfl

/-- With distinct keys, no record is left of an erased key. -/
theorem find?_eraseP {records : List α} (hnodup : (records.map key).Nodup) (erased id : κ) :
    (records.eraseP fun candidate => key candidate == erased).find?
        (fun candidate => key candidate == id) =
      if erased = id then none else records.find? fun candidate => key candidate == id := by
  induction records with
  | nil => simp
  | cons head rest ih =>
    rw [List.map_cons, List.nodup_cons] at hnodup
    by_cases hhead : key head = erased
    · rw [List.eraseP_cons_of_pos (by simpa using hhead), find?_key_cons, hhead]
      by_cases hid : erased = id
      · rw [if_pos hid, List.find?_eq_none]
        intro candidate hcandidate hkey
        rw [beq_iff_eq] at hkey
        exact hnodup.1 (List.mem_map.mpr ⟨candidate, hcandidate, by rw [hkey, hhead, hid]⟩)
      · rw [if_neg hid, if_neg hid]
    · rw [List.eraseP_cons_of_neg (by simpa using hhead), find?_key_cons, find?_key_cons,
        ih hnodup.2]
      by_cases hid : key head = id
      · have hother : erased ≠ id := fun heq => hhead (hid.trans heq.symm)
        rw [if_pos hid, if_neg hother, if_pos hid]
      · rw [if_neg hid, if_neg hid]

/-- With distinct keys, a record is found under its own. -/
theorem find?_eq_some_of_nodup {records : List α} (hnodup : (records.map key).Nodup) {record : α}
    {id : κ} :
    records.find? (fun candidate => key candidate == id) = some record ↔
      record ∈ records ∧ key record = id := by
  constructor
  · intro hfind
    exact ⟨List.mem_of_find?_eq_some hfind, by simpa using List.find?_some hfind⟩
  · rintro ⟨hmem, hkey⟩
    cases hfind : records.find? fun candidate => key candidate == id with
    | none => exact absurd hkey (by simpa using List.find?_eq_none.mp hfind record hmem)
    | some found =>
      have hfound : key found = id := by simpa using List.find?_some hfind
      rw [List.inj_on_of_nodup_map hnodup (List.mem_of_find?_eq_some hfind) hmem
        (hfound.trans hkey.symm)]

end Upsert

-- ---------------------------------------------------------------------------
-- The first record of each key
-- ---------------------------------------------------------------------------

section Firsts

variable {α κ : Type} [DecidableEq κ] (key : α → κ)

/-- The records in order, only the first of each key. -/
def firsts : List α → List α
  | [] => []
  | record :: rest => record :: (firsts rest).filter fun other => key other ≠ key record

theorem mem_map_firsts (records : List α) (id : κ) :
    id ∈ (firsts key records).map key ↔ id ∈ records.map key := by
  induction records with
  | nil => exact Iff.rfl
  | cons record rest ih =>
    rw [firsts, List.map_cons, List.map_cons, List.mem_cons, List.mem_cons, ← ih]
    by_cases hid : id = key record
    · simp only [hid, true_or]
    · have hkept : id ∈ ((firsts key rest).filter fun other => key other ≠ key record).map key ↔
          id ∈ (firsts key rest).map key := by
        simp only [List.mem_map, List.mem_filter, decide_eq_true_eq]
        constructor
        · rintro ⟨other, ⟨hmem, _⟩, heq⟩
          exact ⟨other, hmem, heq⟩
        · rintro ⟨other, hmem, heq⟩
          exact ⟨other, ⟨hmem, heq ▸ hid⟩, heq⟩
      rw [hkept]

theorem firsts_sublist (records : List α) : (firsts key records).Sublist records := by
  induction records with
  | nil => exact List.Sublist.slnil
  | cons record rest ih => exact (List.filter_sublist.trans ih).cons_cons record

theorem nodup_firsts (records : List α) : ((firsts key records).map key).Nodup := by
  induction records with
  | nil => exact List.nodup_nil
  | cons record rest ih =>
    rw [firsts, List.map_cons, List.nodup_cons]
    constructor
    · intro hmem
      obtain ⟨other, hother, heq⟩ := List.mem_map.mp hmem
      exact of_decide_eq_true (List.mem_filter.mp hother).2 heq
    · exact ih.sublist (List.filter_sublist.map key)

theorem firsts_append (records more : List α) :
    firsts key (records ++ more) =
      firsts key records ++ (firsts key more).filter fun other => key other ∉ records.map key := by
  induction records with
  | nil => simp [firsts]
  | cons record rest ih =>
    rw [List.cons_append, firsts, ih, List.filter_append, List.filter_filter, firsts,
      List.cons_append]
    congr 3
    funext other
    simp only [List.map_cons, List.mem_cons, not_or, Bool.decide_and, ne_eq]

/-- One more record is taken if its key is new. -/
theorem firsts_concat (records : List α) (record : α) :
    firsts key (records ++ [record]) =
      if key record ∈ (firsts key records).map key then firsts key records
      else firsts key records ++ [record] := by
  rw [firsts_append, firsts, firsts, List.filter_nil]
  by_cases hmem : key record ∈ records.map key
  · rw [if_pos ((mem_map_firsts key records _).mpr hmem),
      List.filter_cons_of_neg (by simpa using hmem), List.filter_nil, List.append_nil]
  · rw [if_neg fun hfirst => hmem ((mem_map_firsts key records _).mp hfirst),
      List.filter_cons_of_pos (by simpa using hmem), List.filter_nil]

variable {key} in
/-- A bounded collection does not change once it is full. -/
theorem take_firsts_append_of_le {records : List α} {limit : Nat}
    (h : limit ≤ (firsts key records).length) (more : List α) :
    (firsts key (records ++ more)).take limit = (firsts key records).take limit := by
  rw [firsts_append, List.take_append_of_le_length h]

/-- Lists with a front in common are equal or go on beyond it. -/
theorem eq_or_le_of_take_eq_take {first second : List α} {limit : Nat}
    (h : first.take limit = second.take limit) :
    first = second ∨ (limit ≤ first.length ∧ limit ≤ second.length) := by
  have hlength := congrArg List.length h
  rw [List.length_take, List.length_take] at hlength
  by_cases hlong : limit ≤ first.length
  · exact Or.inr ⟨hlong, by omega⟩
  · rw [List.take_of_length_le (by omega), List.take_of_length_le (by omega)] at h
    exact Or.inl h

/-- **When hearing more makes no difference.** `heard` takes an input for a record where `hear`
does, and perhaps elsewhere. The first `limit` records of distinct keys are the same after every
front of the inputs exactly if each record that `hear` misses has the key of one before, or comes
when there are `limit` of them. -/
theorem take_firsts_eq_iff {δ : Type} (hear heard : δ → Option α)
    (hextends : ∀ input record, hear input = some record → heard input = some record)
    (limit : Nat) (inputs : List δ) :
    (∀ front back, inputs = front ++ back →
      (firsts key (front.filterMap heard)).take limit =
        (firsts key (front.filterMap hear)).take limit) ↔
    ∀ front input back record, inputs = front ++ input :: back → hear input = none →
      heard input = some record →
        key record ∈ (front.filterMap hear).map key ∨
          limit ≤ (firsts key (front.filterMap hear)).length := by
  constructor
  · intro h front input back record hinputs hmissed hrecord
    by_contra hneither
    rw [not_or, Nat.not_le] at hneither
    obtain ⟨hnew, hroom⟩ := hneither
    have hbefore := h front (input :: back) hinputs
    have hafter := h (front ++ [input]) back (by rw [hinputs, List.append_assoc]; rfl)
    rw [List.filterMap_append, List.filterMap_append, List.filterMap_cons_some hrecord,
      List.filterMap_cons_none hmissed, List.filterMap_nil, List.filterMap_nil,
      List.append_nil] at hafter
    rcases eq_or_le_of_take_eq_take hbefore with hsame | ⟨_, hfull⟩
    · rw [← mem_map_firsts] at hnew
      rw [firsts_concat, hsame, if_neg hnew] at hafter
      have hlength := congrArg List.length hafter
      simp only [List.length_take, List.length_append, List.length_singleton] at hlength
      omega
    · omega
  · intro h front
    induction front using List.reverseRecOn with
    | nil =>
      intro back _
      rfl
    | append_singleton front input ih =>
      intro back hinputs
      rw [List.append_assoc, List.singleton_append] at hinputs
      have hbefore := ih (input :: back) hinputs
      rw [List.filterMap_append, List.filterMap_append]
      rcases eq_or_le_of_take_eq_take hbefore with hsame | ⟨hfirst, hsecond⟩
      · cases hhear : hear input with
        | some record =>
          rw [List.filterMap_cons_some hhear, List.filterMap_cons_some (hextends input record hhear),
            List.filterMap_nil, List.filterMap_nil, firsts_concat, firsts_concat, hsame]
        | none =>
          rw [List.filterMap_cons_none hhear, List.filterMap_nil, List.append_nil]
          cases hheard : heard input with
          | none =>
            rw [List.filterMap_cons_none hheard, List.filterMap_nil, List.append_nil]
            exact hbefore
          | some record =>
            rw [List.filterMap_cons_some hheard, List.filterMap_nil]
            rcases h front input back record hinputs hhear hheard with hold | hfull
            · rw [← mem_map_firsts, ← hsame] at hold
              rw [firsts_concat, if_pos hold]
              exact hbefore
            · rw [← hsame] at hfull
              rw [take_firsts_append_of_le hfull]
              exact hbefore
      · rw [take_firsts_append_of_le hfirst, take_firsts_append_of_le hsecond]
        exact hbefore

end Firsts

-- ---------------------------------------------------------------------------
-- Histories of keyed operations
-- ---------------------------------------------------------------------------

section LastWrite

variable {α κ ν : Type} [DecidableEq κ] (key : α → Option κ) (value : α → Option ν)

/-- What the last operation on the key `id` has left there. -/
def lastWrite (operations : List α) (id : κ) : Option ν :=
  ((operations.filter fun operation => key operation = some id).getLast?).bind value

@[simp] theorem lastWrite_nil (id : κ) : lastWrite key value [] id = none := rfl

theorem lastWrite_concat (operations : List α) (operation : α) (id : κ) :
    lastWrite key value (operations ++ [operation]) id =
      if key operation = some id then value operation
      else lastWrite key value operations id := by
  rw [lastWrite, List.filter_append]
  by_cases hkey : key operation = some id
  · simp [hkey]
  · simp [hkey, lastWrite]

/-- Only the order of the operations on one key counts. -/
theorem lastWrite_congr {first second : List α} {id : κ}
    (h : (first.filter fun operation => key operation = some id) =
      second.filter fun operation => key operation = some id) :
    lastWrite key value first id = lastWrite key value second id := by
  rw [lastWrite, h, lastWrite]

end LastWrite

-- ---------------------------------------------------------------------------
-- Lists of records that hold a key in turn
-- ---------------------------------------------------------------------------

section Current

variable {α κ : Type} [DecidableEq κ] (key : α → Option κ)

/-- The first record that holds the key `id`; a past record holds none. -/
def current (id : κ) (records : List α) : Option α :=
  records.find? fun record => key record = some id

/-- Update the first record that holds the key `id`. -/
def updateCurrent (id : κ) (update : α → α) : List α → List α
  | [] => []
  | head :: rest =>
    if key head = some id then update head :: rest else head :: updateCurrent id update rest

variable {key} {id other : κ} {update : α → α} {records : List α}

theorem current_cons (head : α) (rest : List α) :
    current key id (head :: rest) =
      if key head = some id then some head else current key id rest := by
  rw [current, List.find?_cons]
  split <;> simp_all [current]

/-- A record that joins the others takes over the keys that none of them holds. -/
theorem current_concat (record : α) :
    current key id (records ++ [record]) =
      (current key id records).or (if key record = some id then some record else none) := by
  rw [current, List.find?_append, ← current, List.find?_cons]
  split <;> simp_all

/-- A key without a record is not among the keys held. -/
theorem current_eq_none : current key id records = none ↔ id ∉ records.filterMap key := by
  rw [current, List.find?_eq_none, List.mem_filterMap]
  simp only [decide_eq_true_eq, not_exists, not_and]

theorem current_updateCurrent_of_ne (hne : other ≠ id)
    (hkey : ∀ record, key record = some id → key (update record) ≠ some other) :
    current key other (updateCurrent key id update records) = current key other records := by
  induction records with
  | nil => rfl
  | cons head rest ih =>
    rw [updateCurrent]
    by_cases hhead : key head = some id
    · have hother : key head ≠ some other := by
        rw [hhead]
        simpa using Ne.symm hne
      rw [if_pos hhead, current_cons, current_cons, if_neg (hkey head hhead), if_neg hother]
    · rw [if_neg hhead, current_cons, current_cons, ih]

theorem current_updateCurrent_self
    (hkey : ∀ record, key record = some id → key (update record) = some id) :
    current key id (updateCurrent key id update records) = (current key id records).map update := by
  induction records with
  | nil => rfl
  | cons head rest ih =>
    rw [updateCurrent]
    by_cases hhead : key head = some id
    · rw [if_pos hhead, current_cons, current_cons, if_pos hhead, if_pos (hkey head hhead),
        Option.map_some]
    · rw [if_neg hhead, current_cons, current_cons, if_neg hhead, if_neg hhead, ih]

/-- An update that keeps the key keeps the keys held. -/
theorem filterMap_updateCurrent
    (hkey : ∀ record, key record = some id → key (update record) = some id) :
    (updateCurrent key id update records).filterMap key = records.filterMap key := by
  induction records with
  | nil => rfl
  | cons head rest ih =>
    rw [updateCurrent]
    by_cases hhead : key head = some id
    · rw [if_pos hhead, List.filterMap_cons, List.filterMap_cons, hhead, hkey head hhead]
    · rw [if_neg hhead, List.filterMap_cons, List.filterMap_cons, ih]

/-- A record that gives up its key leaves the keys held without it. -/
theorem filterMap_updateCurrent_of_none
    (hkey : ∀ record, key record = some id → key (update record) = none) :
    (updateCurrent key id update records).filterMap key = (records.filterMap key).erase id := by
  induction records with
  | nil => rfl
  | cons head rest ih =>
    rw [updateCurrent]
    by_cases hhead : key head = some id
    · rw [if_pos hhead, List.filterMap_cons, List.filterMap_cons, hhead, hkey head hhead,
        List.erase_cons_head]
    · rw [if_neg hhead, List.filterMap_cons, List.filterMap_cons, ih]
      cases hother : key head with
      | none => rfl
      | some held =>
        have hne : held ≠ id := fun heq => hhead (by rw [hother, heq])
        rw [List.erase_cons_tail (by simpa using hne)]

/-- A total over all records moves by what the update adds to its record. -/
theorem sum_updateCurrent (amount : α → Nat) {record : α} {added : Nat}
    (h : current key id records = some record)
    (hadded : amount (update record) = amount record + added) :
    ((updateCurrent key id update records).map amount).sum =
      (records.map amount).sum + added := by
  induction records with
  | nil => simp [current] at h
  | cons head rest ih =>
    rw [current_cons] at h
    rw [updateCurrent]
    by_cases hhead : key head = some id
    · rw [if_pos hhead, Option.some.injEq] at h
      rw [if_pos hhead, List.map_cons, List.map_cons, List.sum_cons, List.sum_cons, h, hadded]
      omega
    · rw [if_neg hhead] at h
      rw [if_neg hhead, List.map_cons, List.map_cons, List.sum_cons, List.sum_cons, ih h]
      omega

end Current

end SiliconSwitch.Library
