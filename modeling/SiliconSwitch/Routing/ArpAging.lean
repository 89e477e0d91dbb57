import SiliconSwitch.Library.Transition
import SiliconSwitch.Routing.Forwarding

/-!
# Lazy and eager ARP expiry

An entry a lifetime old is hidden by `lookup`, whether `expire` has deleted it or not.

* `Agrees`             — a cache and the same cache with deletions, as far as the lookups
  to come can tell;
* `agrees_step`        — a call on both keeps it, and `agrees_expire` an `expire` on one;
* `lookups_of_agrees`  — so the lookups of a run answer alike;
* `findLearned`        — what a run has left in the cache is what it learned last;
* `lazy_eager_expiry`  — expiry can be left to the lookups.
-/

namespace SiliconSwitch.Routing

open SiliconSwitch.Library SiliconSwitch.Network

/-- The calls on an ARP cache. -/
inductive ArpCall
  | addOrReplace (address : Ipv4Address) (macAddress : MacAddress) (learnedAt : TimePoint)
  | remove (address : Ipv4Address)
  | lookup (address : Ipv4Address) (now : TimePoint)
  | expire (now : TimePoint)
deriving DecidableEq

namespace ArpCall

def isExpire : ArpCall → Bool
  | .expire _ => true
  | _ => false

/-- A lookup after an `expire` is at its time or later. -/
def NotBefore : ArpCall → ArpCall → Prop
  | .expire time, .lookup _ now => time ≤ now
  | _, _ => True

instance (first second : ArpCall) : Decidable (NotBefore first second) := by
  unfold NotBefore
  split <;> infer_instance

/-- The address of an accepted update. -/
def updates : ArpCall → Option Ipv4Address
  | .addOrReplace address macAddress _ =>
    if !ArpCache.isValidAddress address || !ArpCache.isValidMacAddress macAddress then none
    else some address
  | .remove address => some address
  | .lookup _ _ | .expire _ => none

/-- The entry that an update leaves for its address. -/
def outcome : ArpCall → Option ArpEntry
  | .addOrReplace _ macAddress learnedAt => some ⟨macAddress, learnedAt⟩
  | .remove _ | .lookup _ _ | .expire _ => none

end ArpCall

/-- The entry of the last accepted update of an address; none if it was a removal. -/
def learned (calls : List ArpCall) (address : Ipv4Address) : Option ArpEntry :=
  lastWrite ArpCall.updates ArpCall.outcome calls address

namespace ArpCache

def step (cache : ArpCache) : ArpCall → ArpCache
  | .addOrReplace address macAddress learnedAt =>
    (cache.addOrReplace address macAddress learnedAt).2
  | .remove address => (cache.remove address).2
  | .lookup _ _ => cache
  | .expire now => (cache.expire now).2

/-- What the lookups of a run return, in order. -/
def lookups (cache : ArpCache) : List ArpCall → List (Option MacAddress)
  | [] => []
  | .lookup address now :: rest => cache.lookup address now :: lookups cache rest
  | call :: rest => lookups (cache.step call) rest

-- ---------------------------------------------------------------------------
-- One call
-- ---------------------------------------------------------------------------

theorem isExpired_iff {cache : ArpCache} {entry : ArpEntry} {now : TimePoint} :
    cache.isExpired entry now = true ↔ entry.learnedAt + cache.entryLifetime ≤ now := by
  rw [isExpired, Bool.and_eq_true, decide_eq_true_eq, decide_eq_true_eq]
  exact aged_iff cache.entryLifetime_pos

/-- No call changes the lifetime. -/
theorem entryLifetime_step (cache : ArpCache) (call : ArpCall) :
    (cache.step call).entryLifetime = cache.entryLifetime := by
  cases call with
  | addOrReplace address macAddress learnedAt =>
    rw [step, addOrReplace]
    split <;> rfl
  | remove address => rfl
  | lookup address now => rfl
  | expire now => rfl

/-- A call other than `expire` is an update of its address or changes nothing. -/
theorem find?_step {cache : ArpCache} {call : ArpCall} (hcall : call.isExpire = false)
    (address : Ipv4Address) :
    (cache.step call).entries.find? address =
      if call.updates = some address then call.outcome else cache.entries.find? address := by
  cases call with
  | addOrReplace updated macAddress learnedAt =>
    rw [step, addOrReplace, ArpCall.updates]
    split
    · rw [if_neg (by simp)]
    · show (cache.entries.set updated _).find? address = _
      rw [Table.find?_set]
      simp only [Option.some.injEq, ArpCall.outcome, @eq_comm _ address]
  | remove removed =>
    show (cache.entries.erase removed).find? address = _
    rw [Table.find?_erase, ArpCall.updates]
    simp only [Option.some.injEq, ArpCall.outcome, @eq_comm _ address]
  | lookup looked now => rfl
  | expire now => simp [ArpCall.isExpire] at hcall

theorem find?_expire (cache : ArpCache) (now : TimePoint) (address : Ipv4Address) :
    (cache.expire now).2.entries.find? address =
      (cache.entries.find? address).filter fun entry => !cache.isExpired entry now :=
  Table.find?_filter ..

-- ---------------------------------------------------------------------------
-- Two caches
-- ---------------------------------------------------------------------------

/-- An entry that no lookup of the rest of a run can see. -/
def IsStale (rest : List ArpCall) (entryLifetime : Duration) (entry : ArpEntry) : Prop :=
  ∀ address now, ArpCall.lookup address now ∈ rest → entry.learnedAt + entryLifetime ≤ now

/-- The caches differ in stale entries, which only `lazy` still has. -/
structure Agrees (rest : List ArpCall) (lazy eager : ArpCache) : Prop where
  entryLifetime : eager.entryLifetime = lazy.entryLifetime
  find? : ∀ address, eager.entries.find? address = lazy.entries.find? address ∨
    eager.entries.find? address = none ∧
      ∃ entry, lazy.entries.find? address = some entry ∧
        IsStale rest lazy.entryLifetime entry

theorem Agrees.refl (rest : List ArpCall) (cache : ArpCache) : Agrees rest cache cache :=
  ⟨rfl, fun _ => Or.inl rfl⟩

theorem IsStale.tail {call : ArpCall} {rest : List ArpCall} {entryLifetime : Duration}
    {entry : ArpEntry} (h : IsStale (call :: rest) entryLifetime entry) :
    IsStale rest entryLifetime entry := by
  intro address now hmem
  exact h address now (List.mem_cons_of_mem _ hmem)

/-- A call other than `expire`, on both caches. -/
theorem agrees_step {call : ArpCall} {rest : List ArpCall} {lazy eager : ArpCache}
    (hcall : call.isExpire = false) (h : Agrees (call :: rest) lazy eager) :
    Agrees rest (lazy.step call) (eager.step call) := by
  constructor
  · rw [entryLifetime_step, entryLifetime_step, h.entryLifetime]
  · intro address
    rw [find?_step hcall, find?_step hcall, entryLifetime_step]
    by_cases hupdates : call.updates = some address
    · -- an update leaves the same entry in both
      rw [if_pos hupdates, if_pos hupdates]
      exact Or.inl rfl
    · rw [if_neg hupdates, if_neg hupdates]
      rcases h.find? address with hsame | ⟨hmissing, entry, hfind, hstale⟩
      · exact Or.inl hsame
      · exact Or.inr ⟨hmissing, entry, hfind, hstale.tail⟩

/-- An `expire` on one of them: what it deletes is as old at every lookup to come. -/
theorem agrees_expire {time : TimePoint} {rest : List ArpCall} {lazy eager : ArpCache}
    (hlater : ∀ call ∈ rest, ArpCall.NotBefore (.expire time) call)
    (h : Agrees (.expire time :: rest) lazy eager) :
    Agrees rest lazy (eager.step (.expire time)) := by
  constructor
  · rw [entryLifetime_step, h.entryLifetime]
  · intro address
    rw [step, find?_expire]
    rcases h.find? address with hsame | ⟨hmissing, entry, hfind, hstale⟩
    · rw [hsame]
      cases hfind : lazy.entries.find? address with
      | none => exact Or.inl rfl
      | some entry =>
        cases hexpired : eager.isExpired entry time with
        | false =>
          rw [Option.filter_some, hexpired]
          exact Or.inl rfl
        | true =>
          rw [Option.filter_some, hexpired]
          refine Or.inr ⟨rfl, entry, rfl, ?_⟩
          rw [isExpired_iff, h.entryLifetime] at hexpired
          intro looked now hmem
          have hnow : time ≤ now := hlater _ hmem
          exact Int.le_trans hexpired hnow
    · rw [hmissing]
      exact Or.inr ⟨rfl, entry, hfind, hstale.tail⟩

/-- The lookup to come does not tell the caches apart. -/
theorem lookup_of_agrees {address : Ipv4Address} {now : TimePoint} {rest : List ArpCall}
    {lazy eager : ArpCache} (h : Agrees (.lookup address now :: rest) lazy eager) :
    eager.lookup address now = lazy.lookup address now := by
  have hexpired : ∀ entry, eager.isExpired entry now = lazy.isExpired entry now := by
    intro entry
    rw [isExpired, isExpired, h.entryLifetime]
  rcases h.find? address with hsame | ⟨hmissing, entry, hfind, hstale⟩
  · rw [lookup, lookup, hsame]
    simp only [hexpired]
  · have hold : lazy.isExpired entry now = true :=
      isExpired_iff.mpr (hstale address now List.mem_cons_self)
    rw [lookup, lookup, hmissing, hfind]
    simp only [hold, if_true]

/-- **The lookups of a run answer as without its calls of `expire`.** -/
theorem lookups_of_agrees {calls : List ArpCall} {lazy eager : ArpCache}
    (hcalls : calls.Pairwise ArpCall.NotBefore) (h : Agrees calls lazy eager) :
    eager.lookups calls = lazy.lookups (calls.filter fun call => !call.isExpire) := by
  induction calls generalizing lazy eager with
  | nil => rfl
  | cons call rest ih =>
    obtain ⟨hlater, hrest⟩ := List.pairwise_cons.mp hcalls
    cases call with
    | addOrReplace address macAddress learnedAt => exact ih hrest (agrees_step rfl h)
    | remove address => exact ih hrest (agrees_step rfl h)
    | lookup address now =>
      rw [List.filter_cons_of_pos (by rfl), lookups, lookups, lookup_of_agrees h]
      exact congrArg _ (ih hrest (agrees_step rfl h))
    | expire time => exact ih hrest (agrees_expire hlater h)

-- ---------------------------------------------------------------------------
-- One cache and its history
-- ---------------------------------------------------------------------------

/-- **What is in the cache was learned last.** -/
theorem learned_of_find? {entryLifetime : Duration} {hlifetime : 0 < entryLifetime}
    {calls : List ArpCall} {address : Ipv4Address} {entry : ArpEntry}
    (h : (run step (create entryLifetime hlifetime) calls).entries.find? address = some entry) :
    learned calls address = some entry := by
  induction calls using List.reverseRecOn with
  | nil => simp [create] at h
  | append_singleton calls call ih =>
    rw [run_concat] at h
    rw [learned, lastWrite_concat]
    cases hcall : call.isExpire with
    | false =>
      rw [find?_step hcall] at h
      split_ifs at h ⊢ with hupdates
      · exact h
      · exact ih h
    | true =>
      cases call with
      | expire time =>
        -- `expire` deletes, but keeps what it does not delete as it was
        rw [step, find?_expire, Option.filter_eq_some_iff] at h
        exact ih h.1
      | _ => simp [ArpCall.isExpire] at hcall

theorem entryLifetime_run (cache : ArpCache) (calls : List ArpCall) :
    (run step cache calls).entryLifetime = cache.entryLifetime := by
  refine @run_invariant _ _ step (fun later => later.entryLifetime = cache.entryLifetime) ?_ _
    rfl calls
  intro later call hlater
  rw [entryLifetime_step, hlater]

/-- **Lazy and eager expiry agree.** Calls of `expire` in a run change no later lookup, as
long as these are not at an earlier time; and a lookup in any state returns the address
learned last, unless it was learned a lifetime ago. -/
theorem lazy_eager_expiry {entryLifetime : Duration} (hlifetime : 0 < entryLifetime) :
    (∀ calls : List ArpCall, calls.Pairwise ArpCall.NotBefore →
      (create entryLifetime hlifetime).lookups calls =
        (create entryLifetime hlifetime).lookups
          (calls.filter fun call => !call.isExpire)) ∧
    ∀ (calls : List ArpCall) (address : Ipv4Address) (now : TimePoint) (macAddress : MacAddress),
      (run step (create entryLifetime hlifetime) calls).lookup address now = some macAddress →
        ∃ learnedAt, learned calls address = some ⟨macAddress, learnedAt⟩ ∧
          now - entryLifetime < learnedAt := by
  constructor
  · intro calls hcalls
    exact lookups_of_agrees hcalls (Agrees.refl calls _)
  · intro calls address now macAddress hlookup
    rw [lookup] at hlookup
    cases hfind : (run step (create entryLifetime hlifetime) calls).entries.find? address with
    | none => simp [hfind] at hlookup
    | some entry =>
      rw [hfind] at hlookup
      dsimp only at hlookup
      split at hlookup
      · simp at hlookup
      · rename_i hfresh
        obtain rfl := Option.some.inj hlookup
        rw [isExpired_iff, entryLifetime_run] at hfresh
        exact ⟨entry.learnedAt, learned_of_find? hfind,
          Int.sub_right_lt_of_lt_add (Int.not_le.mp hfresh)⟩

namespace Example

def neighbor : Ipv4Address := ⟨0x0a000001⟩
def host : MacAddress := ⟨[2, 0, 0, 0, 0, 1], rfl⟩

end Example

open Example in
/-- A neighbor kept for 10 from time 0 on: deleting it at 10 does not change that it is
found at 9 and missing at 10. -/
theorem lazy_eager_expiry_deleted :
    (create 10 (by decide)).lookups
        [.addOrReplace neighbor host 0, .lookup neighbor 9, .expire 10, .lookup neighbor 10] =
      [some host, none] ∧
    ∃ learnedAt : TimePoint,
      learned [.addOrReplace neighbor host 0] neighbor = some ⟨host, learnedAt⟩ ∧
        9 - 10 < learnedAt := by
  obtain ⟨hlookups, hlearned⟩ := lazy_eager_expiry (show (0 : Duration) < 10 by decide)
  refine ⟨?_, hlearned _ neighbor 9 host (by decide +kernel)⟩
  rw [hlookups _ (by decide)]
  decide +kernel

end ArpCache

end SiliconSwitch.Routing
