import Mathlib.Data.Finset.Insert
import Mathlib.Data.Finset.Erase
import Mathlib.Logic.Function.Basic

/-!
# Unique owners

Holders that hold one resource each, or none, and the resources that are live. In an `Owned`
state each live resource has exactly one holder and nothing else is held.

* `Owned.acquire`  — a new resource for a holder without one;
* `Owned.drop`     — a holder gives up what it holds, which is live no more;
* `Owned.transfer` — a holder without a resource takes that of another one.
-/

namespace SiliconSwitch.Library

open Function

variable {ι ρ : Type}

structure Owned (held : ι → Option ρ) (live : Finset ρ) : Prop where
  mem_iff : ∀ resource, resource ∈ live ↔ ∃ holder, held holder = some resource
  unique : ∀ first second resource,
    held first = some resource → held second = some resource → first = second

namespace Owned

variable {held : ι → Option ρ} {live : Finset ρ}

theorem none_held : Owned (fun _ : ι => (none : Option ρ)) ∅ where
  mem_iff resource := by simp
  unique first second resource hfirst := by cases hfirst

theorem live_of_held (h : Owned held live) {holder : ι} {resource : ρ}
    (hheld : held holder = some resource) : resource ∈ live :=
  (h.mem_iff resource).mpr ⟨holder, hheld⟩

section Changes

variable [DecidableEq ι]

/-- What a holder that has been changed holds. -/
theorem held_update {holder other : ι} {value : Option ρ} {resource : ρ}
    (h : update held holder value other = some resource) :
    other = holder ∧ value = some resource ∨ other ≠ holder ∧ held other = some resource := by
  by_cases hsame : other = holder
  · subst hsame
    rw [update_self] at h
    exact .inl ⟨rfl, h⟩
  · rw [update_of_ne hsame] at h
    exact .inr ⟨hsame, h⟩

/-- A resource that is not live has a holder from now on. -/
theorem acquire [DecidableEq ρ] (h : Owned held live) {holder : ι} {resource : ρ}
    (hidle : held holder = none)
    (hfresh : resource ∉ live) :
    Owned (update held holder (some resource)) (insert resource live) := by
  constructor
  · intro other
    rw [Finset.mem_insert, h.mem_iff]
    constructor
    · rintro (rfl | ⟨owner, howner⟩)
      · exact ⟨holder, update_self ..⟩
      · have hne : owner ≠ holder := by
          rintro rfl
          rw [hidle] at howner
          cases howner
        exact ⟨owner, by rw [update_of_ne hne, howner]⟩
    · rintro ⟨owner, howner⟩
      rcases held_update howner with ⟨rfl, hvalue⟩ | ⟨_, hheld⟩
      · exact .inl (Option.some.inj hvalue).symm
      · exact .inr ⟨owner, hheld⟩
  · intro first second other hfirst hsecond
    rcases held_update hfirst with ⟨rfl, hvalue⟩ | ⟨hne, hheld⟩
    · rcases held_update hsecond with ⟨rfl, _⟩ | ⟨_, hother⟩
      · rfl
      · cases hvalue
        exact absurd (h.live_of_held hother) hfresh
    · rcases held_update hsecond with ⟨rfl, hvalue⟩ | ⟨_, hother⟩
      · cases hvalue
        exact absurd (h.live_of_held hheld) hfresh
      · exact h.unique first second other hheld hother

/-- A holder gives up its resource. -/
theorem drop [DecidableEq ρ] (h : Owned held live) {holder : ι} {resource : ρ}
    (hheld : held holder = some resource) :
    Owned (update held holder none) (live.erase resource) := by
  constructor
  · intro other
    rw [Finset.mem_erase, h.mem_iff]
    constructor
    · rintro ⟨hother, owner, howner⟩
      have hne : owner ≠ holder := by
        rintro rfl
        rw [hheld] at howner
        exact hother (Option.some.inj howner).symm
      exact ⟨owner, by rw [update_of_ne hne, howner]⟩
    · rintro ⟨owner, howner⟩
      rcases held_update howner with ⟨_, hvalue⟩ | ⟨hne, hkept⟩
      · cases hvalue
      · refine ⟨?_, owner, hkept⟩
        rintro rfl
        exact hne (h.unique owner holder other hkept hheld)
  · intro first second other hfirst hsecond
    rcases held_update hfirst with ⟨_, hvalue⟩ | ⟨_, hkept⟩
    · cases hvalue
    · rcases held_update hsecond with ⟨_, hvalue⟩ | ⟨_, hother⟩
      · cases hvalue
      · exact h.unique first second other hkept hother

/-- A holder without a resource takes what another one holds, if anything. -/
theorem transfer (h : Owned held live) {source target : ι} (hidle : held target = none) :
    Owned (update (update held source none) target (held source)) live := by
  have hcases : ∀ {holder : ι} {resource : ρ},
      update (update held source none) target (held source) holder = some resource →
      holder = target ∧ held source = some resource ∨
        holder ≠ target ∧ holder ≠ source ∧ held holder = some resource := by
    intro holder resource hholder
    rcases held_update hholder with ⟨rfl, hvalue⟩ | ⟨hne, hother⟩
    · exact .inl ⟨rfl, hvalue⟩
    · rcases held_update hother with ⟨_, hvalue⟩ | ⟨hother, hheld⟩
      · cases hvalue
      · exact .inr ⟨hne, hother, hheld⟩
  constructor
  · intro resource
    rw [h.mem_iff]
    constructor
    · rintro ⟨holder, hholder⟩
      by_cases hsource : holder = source
      · subst hsource
        exact ⟨target, by rw [update_self, hholder]⟩
      · have hne : holder ≠ target := by
          rintro rfl
          rw [hidle] at hholder
          cases hholder
        exact ⟨holder, by rw [update_of_ne hne, update_of_ne hsource, hholder]⟩
    · rintro ⟨holder, hholder⟩
      rcases hcases hholder with ⟨_, hheld⟩ | ⟨_, _, hheld⟩
      · exact ⟨source, hheld⟩
      · exact ⟨holder, hheld⟩
  · intro first second resource hfirst hsecond
    rcases hcases hfirst with ⟨rfl, hheld⟩ | ⟨_, hne, hheld⟩
    · rcases hcases hsecond with ⟨rfl, _⟩ | ⟨_, hother, hsecond⟩
      · rfl
      · exact absurd (h.unique second source resource hsecond hheld) hother
    · rcases hcases hsecond with ⟨rfl, hsource⟩ | ⟨_, _, hsecond⟩
      · exact absurd (h.unique first source resource hheld hsource) hne
      · exact h.unique first second resource hheld hsecond

end Changes

end Owned

end SiliconSwitch.Library
