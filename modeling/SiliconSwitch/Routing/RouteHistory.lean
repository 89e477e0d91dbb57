import SiliconSwitch.Library.Transition
import SiliconSwitch.Routing.LongestPrefix

/-!
# Longest-prefix match after a history

The route table against the operations that programmed it.

* `programmed`          — the route of the last operation on a prefix;
* `findExact_run`       — the table holds what was programmed;
* `isLongestMatch_iff`  — so its longest match is that of the history;
* `route_history_match` — what the lookups return after any history.
-/

namespace SiliconSwitch.Routing

open SiliconSwitch.Library SiliconSwitch.Network

/-- The operations that change a route table. -/
inductive RouteOperation
  | addOrReplace (entry : RouteEntry)
  | remove (routePrefix : Ipv4Prefix)
deriving DecidableEq

namespace RouteOperation

def onPrefix : RouteOperation → Ipv4Prefix
  | .addOrReplace entry => entry.routePrefix
  | .remove routePrefix => routePrefix

/-- The route that the operation leaves for its prefix. -/
def outcome : RouteOperation → Option RouteEntry
  | .addOrReplace entry => some entry
  | .remove _ => none

end RouteOperation

/-- The route of the last operation on a prefix; none if it was a removal. -/
def programmed (operations : List RouteOperation) (routePrefix : Ipv4Prefix) : Option RouteEntry :=
  lastWrite (fun operation => some operation.onPrefix) RouteOperation.outcome operations
    routePrefix

theorem programmed_concat (operations : List RouteOperation) (operation : RouteOperation)
    (routePrefix : Ipv4Prefix) :
    programmed (operations ++ [operation]) routePrefix =
      if operation.onPrefix = routePrefix then operation.outcome
      else programmed operations routePrefix := by
  rw [programmed, lastWrite_concat, programmed]
  simp only [Option.some.injEq]

/-- A route is programmed for its own prefix. -/
theorem routePrefix_of_programmed {operations : List RouteOperation} {routePrefix : Ipv4Prefix}
    {route : RouteEntry} (h : programmed operations routePrefix = some route) :
    route.routePrefix = routePrefix := by
  induction operations using List.reverseRecOn with
  | nil => simp [programmed] at h
  | append_singleton operations operation ih =>
    rw [programmed_concat] at h
    split at h
    · rename_i hequal
      cases operation with
      | addOrReplace entry =>
        obtain rfl : entry = route := Option.some.inj h
        exact hequal
      | remove removed => simp [RouteOperation.outcome] at h
    · exact ih h

/-- The route of greatest prefix length among those programmed for the destination. -/
structure IsProgrammedMatch (operations : List RouteOperation) (destination : Ipv4Address)
    (route : RouteEntry) : Prop where
  programmed : programmed operations route.routePrefix = some route
  contains : route.routePrefix.contains destination = true
  longest : ∀ routePrefix other, Routing.programmed operations routePrefix = some other →
    routePrefix.contains destination = true → routePrefix.length ≤ route.routePrefix.length

/-- **There is at most one.** -/
theorem IsProgrammedMatch.unique {operations : List RouteOperation} {destination : Ipv4Address}
    {first second : RouteEntry} (hfirst : IsProgrammedMatch operations destination first)
    (hsecond : IsProgrammedMatch operations destination second) : first = second := by
  have hlength : first.routePrefix.length = second.routePrefix.length :=
    UInt8.le_antisymm (hsecond.longest _ first hfirst.programmed hfirst.contains)
      (hfirst.longest _ second hsecond.programmed hsecond.contains)
  have hequal : first.routePrefix = second.routePrefix :=
    prefix_eq_of_contains hlength hfirst.contains hsecond.contains
  have hsame := hfirst.programmed
  rw [hequal, hsecond.programmed] at hsame
  exact (Option.some.inj hsame).symm

namespace Ipv4RouteTable

def step (table : Ipv4RouteTable) : RouteOperation → Ipv4RouteTable
  | .addOrReplace entry => (table.addOrReplace entry).2
  | .remove routePrefix => (table.remove routePrefix).2

-- ---------------------------------------------------------------------------
-- What the table holds
-- ---------------------------------------------------------------------------

theorem mem_entries_iff {table : Ipv4RouteTable} {route : RouteEntry} :
    route ∈ table.entries ↔ table.findExact route.routePrefix = some route := by
  rw [findExact, find?_eq_some_of_nodup RouteEntry.routePrefix table.nodup]
  simp

/-- One operation. -/
theorem findExact_step (table : Ipv4RouteTable) (operation : RouteOperation)
    (routePrefix : Ipv4Prefix) :
    (table.step operation).findExact routePrefix =
      if operation.onPrefix = routePrefix then operation.outcome
      else table.findExact routePrefix := by
  cases operation with
  | addOrReplace entry => exact find?_upsert RouteEntry.routePrefix entry table.entries routePrefix
  | remove removed => exact find?_eraseP RouteEntry.routePrefix table.nodup removed routePrefix

/-- **The table holds what was programmed.** -/
theorem findExact_run (operations : List RouteOperation) (routePrefix : Ipv4Prefix) :
    (run step empty operations).findExact routePrefix = programmed operations routePrefix := by
  -- from the end, as the last operation decides
  induction operations using List.reverseRecOn with
  | nil => rfl
  | append_singleton operations operation ih =>
    rw [run_concat, findExact_step, programmed_concat, ih]

theorem mem_run_iff {operations : List RouteOperation} {route : RouteEntry} :
    route ∈ (run step empty operations).entries ↔
      programmed operations route.routePrefix = some route := by
  rw [mem_entries_iff, findExact_run]

-- ---------------------------------------------------------------------------
-- What the lookup returns
-- ---------------------------------------------------------------------------

theorem isLongestMatch_iff {operations : List RouteOperation} {destination : Ipv4Address}
    {route : RouteEntry} :
    IsLongestMatch (run step empty operations) destination route ↔
      IsProgrammedMatch operations destination route := by
  constructor
  · intro hlongest
    refine ⟨mem_run_iff.mp hlongest.mem, hlongest.contains, ?_⟩
    intro routePrefix other hother hcontains
    obtain rfl := routePrefix_of_programmed hother
    exact hlongest.longest other (mem_run_iff.mpr hother) hcontains
  · intro hprogrammed
    refine ⟨mem_run_iff.mpr hprogrammed.programmed, hprogrammed.contains, ?_⟩
    intro other hother hcontains
    exact hprogrammed.longest _ other (mem_run_iff.mp hother) hcontains

theorem longestPrefixMatch_eq_none {operations : List RouteOperation}
    {destination : Ipv4Address} :
    (run step empty operations).longestPrefixMatch destination = none ↔
      ∀ routePrefix : Ipv4Prefix, routePrefix.contains destination = true →
        programmed operations routePrefix = none := by
  have hselects := selects_longestPrefixMatch (run step empty operations) destination
  constructor
  · intro hnone routePrefix hcontains
    rw [hnone] at hselects
    cases hprogrammed : programmed operations routePrefix with
    | none => rfl
    | some route =>
      obtain rfl := routePrefix_of_programmed hprogrammed
      have hmissing := hselects route (mem_run_iff.mpr hprogrammed)
      rw [hcontains] at hmissing
      simp at hmissing
  · intro hprogrammed
    cases hmatch : (run step empty operations).longestPrefixMatch destination with
    | none => rfl
    | some route =>
      have hlongest := longestPrefixMatch_eq_some.mp hmatch
      have hmem := mem_run_iff.mp hlongest.mem
      rw [hprogrammed _ hlongest.contains] at hmem
      simp at hmem

/-- Histories that agree prefix by prefix program the same routes. -/
theorem programmed_eq_of_filter_eq {first second : List RouteOperation}
    (h : ∀ routePrefix : Ipv4Prefix,
      (first.filter fun operation => operation.onPrefix = routePrefix) =
        second.filter fun operation => operation.onPrefix = routePrefix) :
    programmed first = programmed second := by
  funext routePrefix
  refine lastWrite_congr _ _ ?_
  simpa only [Option.some.injEq] using h routePrefix

/-- **Longest-prefix matching is right after every history.** The exact lookup returns the
route of the last operation on the prefix; the match is the programmed route of greatest
length among the prefixes that contain the destination, of which there is one at most, and
is missing only if there is none; and operations on different prefixes may change places. -/
theorem route_history_match (operations : List RouteOperation) :
    (∀ routePrefix, (run step empty operations).findExact routePrefix =
      programmed operations routePrefix) ∧
    (∀ destination route,
      (run step empty operations).longestPrefixMatch destination = some route ↔
        IsProgrammedMatch operations destination route) ∧
    (∀ destination,
      (run step empty operations).longestPrefixMatch destination = none ↔
        ∀ routePrefix : Ipv4Prefix, routePrefix.contains destination = true →
          programmed operations routePrefix = none) ∧
    (∀ destination first second, IsProgrammedMatch operations destination first →
      IsProgrammedMatch operations destination second → first = second) ∧
    ∀ reordered : List RouteOperation,
      (∀ routePrefix : Ipv4Prefix,
        (operations.filter fun operation => operation.onPrefix = routePrefix) =
          reordered.filter fun operation => operation.onPrefix = routePrefix) →
      ∀ destination, (run step empty reordered).longestPrefixMatch destination =
        (run step empty operations).longestPrefixMatch destination := by
  refine ⟨findExact_run operations, ?_, fun _ => longestPrefixMatch_eq_none, ?_, ?_⟩
  · intro destination route
    rw [longestPrefixMatch_eq_some, isLongestMatch_iff]
  · intro destination first second hfirst hsecond
    exact hfirst.unique hsecond
  · intro reordered hfilter destination
    have hprogrammed := programmed_eq_of_filter_eq hfilter
    refine Option.ext fun route => ?_
    rw [longestPrefixMatch_eq_some, longestPrefixMatch_eq_some, isLongestMatch_iff,
      isLongestMatch_iff]
    constructor
    · rintro ⟨hroute, hcontains, hlongest⟩
      rw [← hprogrammed] at hroute hlongest
      exact ⟨hroute, hcontains, hlongest⟩
    · rintro ⟨hroute, hcontains, hlongest⟩
      rw [hprogrammed] at hroute hlongest
      exact ⟨hroute, hcontains, hlongest⟩

end Ipv4RouteTable

end SiliconSwitch.Routing
