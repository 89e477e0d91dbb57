import Mathlib.Data.Nat.Count
import Mathlib.Data.Nat.Factorization.Basic
import Mathlib.Tactic

/-!
# Periods

How often something happens that happens every so many steps, over the steps 1 to `n`.

* `count_dvd`         — a period divides `n / period` of them;
* `count_dvd_not_dvd` — one period and not another one: those of the first without those of
  the least common multiple;
* `countP_eq_count`   — counting in a list by the positions of its elements.
-/

namespace SiliconSwitch.Library

theorem count_dvd (period n : Nat) : Nat.count (fun k => period ∣ k + 1) n = n / period := by
  rw [Nat.count_eq_card_filter_range, Nat.card_multiples]

/-- **Inclusion and exclusion for two periods.** -/
theorem count_dvd_not_dvd (period other n : Nat) :
    Nat.count (fun k => period ∣ k + 1 ∧ ¬ other ∣ k + 1) n =
      n / period - n / Nat.lcm period other := by
  have hboth : Nat.count (fun k => period ∣ k + 1 ∧ other ∣ k + 1) n =
      n / Nat.lcm period other := by
    rw [← count_dvd]
    congr 1
    funext k
    exact propext Nat.lcm_dvd_iff.symm
  have hsplit := Finset.card_filter_add_card_filter_not
    (s := (Finset.range n).filter fun k => period ∣ k + 1) (fun k => other ∣ k + 1)
  rw [Finset.filter_filter, Finset.filter_filter, ← Nat.count_eq_card_filter_range,
    ← Nat.count_eq_card_filter_range, ← Nat.count_eq_card_filter_range, hboth, count_dvd]
    at hsplit
  omega

/-- A list whose elements satisfy `p` at the positions that satisfy `q`. -/
theorem countP_eq_count {α : Type} {p : α → Bool} {q : Nat → Prop} [DecidablePred q]
    {elements : List α}
    (h : ∀ k element, elements[k]? = some element → (p element = true ↔ q k)) :
    elements.countP p = Nat.count q elements.length := by
  induction elements using List.reverseRecOn with
  | nil => simp
  | append_singleton front last ih =>
    have hfront : front.countP p = Nat.count q front.length := by
      refine ih fun k element hk => h k element ?_
      rw [List.getElem?_append_left (List.getElem?_eq_some_iff.mp hk).1]
      exact hk
    have hlast : p last = true ↔ q front.length := h front.length last (by simp)
    rw [List.countP_append, List.length_append, List.length_singleton, Nat.count_succ, hfront,
      List.countP_singleton]
    simp only [hlast]

end SiliconSwitch.Library
