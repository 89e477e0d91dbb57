import SiliconSwitch.Routing.Forwarding

/-!
# Longest-prefix match

`IsLongestMatch` says what the lookup is for, without the order of the routes:

* `longestPrefixMatch_eq_some` — the loop selects the longest match of the table;
* `IsLongestMatch.unique`      — which there is at most one of.
-/

namespace SiliconSwitch.Routing

open SiliconSwitch.Library SiliconSwitch.Network

/-- A route of the table for the destination, of the greatest prefix length. -/
structure IsLongestMatch (table : Ipv4RouteTable) (destination : Ipv4Address)
    (route : RouteEntry) : Prop where
  mem : route ∈ table.entries
  contains : route.routePrefix.contains destination = true
  longest : ∀ other ∈ table.entries, other.routePrefix.contains destination = true →
    other.routePrefix.length ≤ route.routePrefix.length

/-- Two prefixes of one length that contain the same address are the same. -/
theorem prefix_eq_of_contains {first second : Ipv4Prefix} {address : Ipv4Address}
    (hlength : first.length = second.length) (hfirst : first.contains address = true)
    (hsecond : second.contains address = true) : first = second := by
  rw [Ipv4Prefix.contains, beq_iff_eq] at hfirst hsecond
  obtain ⟨⟨firstNetwork⟩, firstLength, _, _⟩ := first
  obtain ⟨⟨secondNetwork⟩, secondLength, _, _⟩ := second
  dsimp only at hlength hfirst hsecond
  subst hlength
  rw [hfirst] at hsecond
  subst hsecond
  rfl

/-- **The longest match is unique**: a table has one route for a prefix. -/
theorem IsLongestMatch.unique {table : Ipv4RouteTable} {destination : Ipv4Address}
    {first second : RouteEntry} (hfirst : IsLongestMatch table destination first)
    (hsecond : IsLongestMatch table destination second) : first = second := by
  have hlength : first.routePrefix.length = second.routePrefix.length :=
    UInt8.le_antisymm (hsecond.longest first hfirst.mem hfirst.contains)
      (hfirst.longest second hsecond.mem hsecond.contains)
  exact List.inj_on_of_nodup_map table.nodup hfirst.mem hsecond.mem
    (prefix_eq_of_contains hlength hfirst.contains hsecond.contains)

-- ---------------------------------------------------------------------------
-- The loop
-- ---------------------------------------------------------------------------

/-- What the loop has selected from the routes that it has seen. -/
def Selects (destination : Ipv4Address) (seen : List RouteEntry) : Option RouteEntry → Prop
  | none => ∀ entry ∈ seen, entry.routePrefix.contains destination = false
  | some best => best ∈ seen ∧ best.routePrefix.contains destination = true ∧
    ∀ entry ∈ seen, entry.routePrefix.contains destination = true →
      entry.routePrefix.length ≤ best.routePrefix.length

/-- One iteration. -/
theorem selects_longerMatch {destination : Ipv4Address} {seen : List RouteEntry}
    {best : Option RouteEntry} (h : Selects destination seen best) (entry : RouteEntry) :
    Selects destination (seen ++ [entry]) (Ipv4RouteTable.longerMatch destination best entry) := by
  cases hcontains : entry.routePrefix.contains destination with
  | false =>
    rw [Ipv4RouteTable.longerMatch, hcontains, Bool.false_and, if_neg (by simp)]
    cases best with
    | none =>
      intro other hother
      rcases List.mem_append.mp hother with hseen | hlast
      · exact h other hseen
      · rw [List.mem_singleton.mp hlast]
        exact hcontains
    | some best =>
      refine ⟨List.mem_append_left _ h.1, h.2.1, fun other hother hmatch => ?_⟩
      rcases List.mem_append.mp hother with hseen | hlast
      · exact h.2.2 other hseen hmatch
      · rw [List.mem_singleton.mp hlast, hcontains] at hmatch
        simp at hmatch
  | true =>
    rw [Ipv4RouteTable.longerMatch, hcontains, Bool.true_and]
    have hlast : entry ∈ seen ++ [entry] := List.mem_append_right _ (List.mem_singleton_self entry)
    cases best with
    | none =>
      rw [Ipv4RouteTable.isLonger, if_pos rfl]
      refine ⟨hlast, hcontains, fun other hother hmatch => ?_⟩
      rcases List.mem_append.mp hother with hseen | hnew
      · rw [h other hseen] at hmatch
        simp at hmatch
      · rw [List.mem_singleton.mp hnew]
        exact UInt8.le_refl _
    | some best =>
      by_cases hlonger : entry.routePrefix.length > best.routePrefix.length
      · rw [Ipv4RouteTable.isLonger, if_pos (by simpa using hlonger)]
        refine ⟨hlast, hcontains, fun other hother hmatch => ?_⟩
        rcases List.mem_append.mp hother with hseen | hnew
        · exact UInt8.le_trans (h.2.2 other hseen hmatch) (UInt8.le_of_lt hlonger)
        · rw [List.mem_singleton.mp hnew]
          exact UInt8.le_refl _
      · -- an entry of the same length does not replace the one before it
        rw [Ipv4RouteTable.isLonger, if_neg (by simpa using hlonger)]
        refine ⟨List.mem_append_left _ h.1, h.2.1, fun other hother hmatch => ?_⟩
        rcases List.mem_append.mp hother with hseen | hnew
        · exact h.2.2 other hseen hmatch
        · rw [List.mem_singleton.mp hnew]
          exact UInt8.not_lt.mp hlonger

/-- The loop over the routes that are left. -/
theorem selects_foldl {destination : Ipv4Address} (rest : List RouteEntry)
    {seen : List RouteEntry} {best : Option RouteEntry} (h : Selects destination seen best) :
    Selects destination (seen ++ rest)
      (rest.foldl (Ipv4RouteTable.longerMatch destination) best) := by
  induction rest generalizing seen best with
  | nil =>
    rw [List.append_nil]
    exact h
  | cons entry rest ih =>
    have hnext := ih (selects_longerMatch h entry)
    rwa [List.append_assoc, List.singleton_append] at hnext

theorem selects_longestPrefixMatch (table : Ipv4RouteTable) (destination : Ipv4Address) :
    Selects destination table.entries (table.longestPrefixMatch destination) := by
  have hnothing : Selects destination [] none := fun _ hmem => absurd hmem (by simp)
  exact selects_foldl table.entries hnothing

/-- **The lookup returns the longest match.** -/
theorem longestPrefixMatch_eq_some {table : Ipv4RouteTable} {destination : Ipv4Address}
    {route : RouteEntry} :
    table.longestPrefixMatch destination = some route ↔
      IsLongestMatch table destination route := by
  have hselects := selects_longestPrefixMatch table destination
  constructor
  · intro hroute
    rw [hroute] at hselects
    exact ⟨hselects.1, hselects.2.1, hselects.2.2⟩
  · intro hlongest
    cases hmatch : table.longestPrefixMatch destination with
    | none =>
      rw [hmatch] at hselects
      have hmissing := hselects route hlongest.mem
      rw [hlongest.contains] at hmissing
      simp at hmissing
    | some best =>
      rw [hmatch] at hselects
      have hbest : IsLongestMatch table destination best :=
        ⟨hselects.1, hselects.2.1, hselects.2.2⟩
      rw [hbest.unique hlongest]

end SiliconSwitch.Routing
