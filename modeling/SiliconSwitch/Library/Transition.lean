import Mathlib.Tactic

/-!
# Runs of transition systems

Two presentations of a system that takes step after step, over arbitrary states
and actions.

* `System` — a relation `step s a t` with a set of initial states. An invariant
  is proved of every reachable state by `System.Reachable.invariant`.
* `run step s actions` — a deterministic machine fed a list of actions.
  `run_invariant` carries a preserved predicate along a run; `EachStep` states
  that every step of a run meets a condition on the state before it, and
  `eachStep_comap` moves a condition to a component of the state.
  `Throughout` states that every state of a run satisfies a predicate, and
  `throughout_iff_eachStep` that this needs exactly the condition step by step.
* `concat_eq_split` — where an element of a growing history can stand.
* `outputs respond s calls` — what a machine answers; `getElem?_outputs` gives each answer
  from the calls before it, and `add_outputs_le` and `le_add_outputs` weigh them all.
* `Bisimulation` — a relation between states of a machine with outputs that no list
  of calls can tell apart (`Bisimulation.outputs_eq`).
-/

namespace SiliconSwitch.Library

variable {σ α : Type}

-- ---------------------------------------------------------------------------
-- Relational systems
-- ---------------------------------------------------------------------------

structure System (σ α : Type) where
  initial : σ → Prop
  step : σ → α → σ → Prop

namespace System

inductive Reachable (sys : System σ α) : σ → Prop
  | initial {s : σ} : sys.initial s → Reachable sys s
  | step {s t : σ} (a : α) : Reachable sys s → sys.step s a t → Reachable sys t

/-- A predicate that holds initially and is preserved by every step holds of
every reachable state. -/
theorem Reachable.invariant {sys : System σ α} {I : σ → Prop}
    (hinit : ∀ s, sys.initial s → I s)
    (hstep : ∀ s a t, I s → sys.step s a t → I t)
    {s : σ} (h : sys.Reachable s) : I s := by
  induction h with
  | initial h0 => exact hinit _ h0
  | step a _ ha ih => exact hstep _ a _ ih ha

end System

-- ---------------------------------------------------------------------------
-- Histories
-- ---------------------------------------------------------------------------

/-- An element of a history that has just grown is the new one or an old one. -/
theorem concat_eq_split {events front back : List α} {last event : α}
    (h : events ++ [last] = front ++ event :: back) :
    (front = events ∧ event = last) ∨ ∃ earlier, events = front ++ event :: earlier := by
  rcases List.eq_nil_or_concat back with rfl | ⟨earlier, final, rfl⟩
  · obtain ⟨hfront, hlast⟩ := List.append_inj' h rfl
    rw [List.cons.injEq] at hlast
    exact Or.inl ⟨hfront.symm, hlast.1.symm⟩
  · rw [List.concat_eq_append, ← List.cons_append, ← List.append_assoc] at h
    exact Or.inr ⟨earlier, (List.append_inj' h rfl).1⟩

-- ---------------------------------------------------------------------------
-- Deterministic runs
-- ---------------------------------------------------------------------------

/-- The state after feeding `actions` to the machine, in order. -/
def run (step : σ → α → σ) (s : σ) (actions : List α) : σ := actions.foldl step s

section Run

variable (step : σ → α → σ)

@[simp] theorem run_nil (s : σ) : run step s [] = s := rfl

@[simp] theorem run_cons (s : σ) (a : α) (rest : List α) :
    run step s (a :: rest) = run step (step s a) rest := rfl

theorem run_append (s : σ) (first second : List α) :
    run step s (first ++ second) = run step (run step s first) second :=
  List.foldl_append

theorem run_concat (s : σ) (front : List α) (a : α) :
    run step s (front ++ [a]) = step (run step s front) a := by
  rw [run_append, run_cons, run_nil]

variable {step}

theorem run_invariant {I : σ → Prop} (hstep : ∀ s a, I s → I (step s a))
    {s : σ} (hs : I s) (actions : List α) : I (run step s actions) := by
  induction actions generalizing s with
  | nil => exact hs
  | cons a rest ih => exact ih (hstep s a hs)

/-- Every step of the run meets `P` in the state before it. -/
def EachStep (step : σ → α → σ) (P : σ → α → Prop) : σ → List α → Prop
  | _, [] => True
  | s, a :: rest => P s a ∧ EachStep step P (step s a) rest

theorem eachStep_append {P : σ → α → Prop} {s : σ} {first second : List α} :
    EachStep step P s (first ++ second) ↔
      EachStep step P s first ∧ EachStep step P (run step s first) second := by
  induction first generalizing s with
  | nil => simp [EachStep]
  | cons a rest ih => simp [EachStep, ih, and_assoc]

/-- The step taken after any prefix of such a run meets the condition. -/
theorem EachStep.at_split {P : σ → α → Prop} {s : σ} {front rest : List α} {a : α}
    (h : EachStep step P s (front ++ a :: rest)) : P (run step s front) a :=
  (eachStep_append.mp h).2.1

/-- Where an invariant makes two conditions equivalent, and steps that meet them
keep it, a run meets one condition at every step exactly if it meets the other. -/
theorem eachStep_congr {I : σ → Prop} {P Q : σ → α → Prop}
    (hstep : ∀ s a, I s → Q s a → I (step s a)) (hiff : ∀ s a, I s → (P s a ↔ Q s a))
    {s : σ} (hs : I s) (actions : List α) :
    EachStep step P s actions ↔ EachStep step Q s actions := by
  induction actions generalizing s with
  | nil => exact Iff.rfl
  | cons a rest ih =>
    constructor
    · rintro ⟨hfirst, hrest⟩
      have hcondition := (hiff s a hs).mp hfirst
      exact ⟨hcondition, (ih (hstep s a hs hcondition)).mp hrest⟩
    · rintro ⟨hcondition, hrest⟩
      exact ⟨(hiff s a hs).mpr hcondition, (ih (hstep s a hs hcondition)).mpr hrest⟩

/-- A condition on a component that steps by itself is a condition on the run of
that component. -/
theorem eachStep_comap {τ : Type} {step' : τ → α → τ} {P : τ → α → Prop} (f : σ → τ)
    (hcommutes : ∀ s a, f (step s a) = step' (f s) a) (s : σ) (actions : List α) :
    EachStep step (fun s a => P (f s) a) s actions ↔ EachStep step' P (f s) actions := by
  induction actions generalizing s with
  | nil => exact Iff.rfl
  | cons a rest ih =>
    show _ ∧ _ ↔ _ ∧ _
    rw [ih (step s a), hcommutes s a]

/-- Every state of the run, the first and the last included, satisfies `I`. -/
def Throughout (step : σ → α → σ) (I : σ → Prop) : σ → List α → Prop
  | s, [] => I s
  | s, a :: rest => I s ∧ Throughout step I (step s a) rest

theorem throughout_iff {I : σ → Prop} {s : σ} {actions : List α} :
    Throughout step I s actions ↔ ∀ front back, actions = front ++ back → I (run step s front) := by
  induction actions generalizing s with
  | nil =>
    constructor
    · intro h front back hsplit
      rw [eq_comm, List.append_eq_nil_iff] at hsplit
      rw [hsplit.1]
      exact h
    · intro h
      exact h [] [] rfl
  | cons a rest ih =>
    constructor
    · rintro ⟨hs, hrest⟩ front back hsplit
      cases front with
      | nil => exact hs
      | cons b front =>
        rw [List.cons_append, List.cons.injEq] at hsplit
        rw [run_cons, ← hsplit.1]
        exact ih.mp hrest front back hsplit.2
    · intro h
      refine ⟨h [] (a :: rest) rfl, ih.mpr fun front back hsplit => ?_⟩
      rw [hsplit] at h
      exact h (a :: front) back rfl

/-- Where a step keeps `I` exactly under a condition, `I` holds throughout a run
exactly if every step of it meets the condition. -/
theorem throughout_iff_eachStep {I J : σ → Prop} {P : σ → α → Prop}
    (hJ : ∀ s a, J s → J (step s a))
    (hiff : ∀ s a, J s → I s → (I (step s a) ↔ P s a))
    {s : σ} (hjs : J s) (hs : I s) (actions : List α) :
    Throughout step I s actions ↔ EachStep step P s actions := by
  induction actions generalizing s with
  | nil => exact ⟨fun _ => trivial, fun _ => hs⟩
  | cons a rest ih =>
    constructor
    · rintro ⟨_, hrest⟩
      have hnext : I (step s a) := throughout_iff.mp hrest [] rest rfl
      exact ⟨(hiff s a hjs hs).mp hnext, (ih (hJ s a hjs) hnext).mp hrest⟩
    · rintro ⟨hcondition, hrest⟩
      have hnext := (hiff s a hjs hs).mpr hcondition
      exact ⟨hs, (ih (hJ s a hjs) hnext).mpr hrest⟩

end Run

-- ---------------------------------------------------------------------------
-- Machines with outputs
-- ---------------------------------------------------------------------------

section Outputs

variable {β : Type} {respond : σ → α → β × σ}

/-- What a machine answers to a list of calls, in order. -/
def outputs (respond : σ → α → β × σ) : σ → List α → List β
  | _, [] => []
  | s, a :: rest => (respond s a).1 :: outputs respond (respond s a).2 rest

@[simp] theorem length_outputs (s : σ) (calls : List α) :
    (outputs respond s calls).length = calls.length := by
  induction calls generalizing s with
  | nil => rfl
  | cons a rest ih => rw [outputs, List.length_cons, List.length_cons, ih]

/-- An answer is the one of the state that the calls before it leave. -/
theorem getElem?_outputs (s : σ) (calls : List α) (k : Nat) :
    (outputs respond s calls)[k]? = calls[k]?.map fun a =>
      (respond (run (fun s a => (respond s a).2) s (calls.take k)) a).1 := by
  induction calls generalizing s k with
  | nil => rfl
  | cons a rest ih =>
    cases k with
    | zero => rfl
    | succ k =>
      rw [outputs, List.getElem?_cons_succ, ih, List.getElem?_cons_succ, List.take_succ_cons,
        run_cons]

/-- A quantity grows over a run by no less than its answers weigh, if each call does. -/
theorem add_outputs_le {quantity : σ → Nat} {weight : β → Nat}
    (h : ∀ s a, quantity s + weight (respond s a).1 ≤ quantity (respond s a).2)
    (s : σ) (calls : List α) :
    quantity s + ((outputs respond s calls).map weight).sum ≤
      quantity (run (fun s a => (respond s a).2) s calls) := by
  induction calls generalizing s with
  | nil => exact Nat.le_refl _
  | cons a rest ih =>
    have hfirst := h s a
    have hrest := ih (respond s a).2
    rw [outputs, List.map_cons, List.sum_cons, run_cons]
    omega

/-- And by no more, if no call adds more. -/
theorem le_add_outputs {quantity : σ → Nat} {weight : β → Nat}
    (h : ∀ s a, quantity (respond s a).2 ≤ quantity s + weight (respond s a).1)
    (s : σ) (calls : List α) :
    quantity (run (fun s a => (respond s a).2) s calls) ≤
      quantity s + ((outputs respond s calls).map weight).sum := by
  induction calls generalizing s with
  | nil => exact Nat.le_refl _
  | cons a rest ih =>
    have hfirst := h s a
    have hrest := ih (respond s a).2
    rw [outputs, List.map_cons, List.sum_cons, run_cons]
    omega

/-- Related states answer every call alike and stay related. -/
def Bisimulation (respond : σ → α → β × σ) (R : σ → σ → Prop) : Prop :=
  ∀ s t a, R s t → (respond s a).1 = (respond t a).1 ∧ R (respond s a).2 (respond t a).2

/-- No list of calls tells bisimilar states apart. -/
theorem Bisimulation.outputs_eq {R : σ → σ → Prop} (h : Bisimulation respond R) {s t : σ}
    (hst : R s t) (calls : List α) : outputs respond s calls = outputs respond t calls := by
  induction calls generalizing s t with
  | nil => rfl
  | cons a rest ih =>
    obtain ⟨houtput, hafter⟩ := h s t a hst
    rw [outputs, outputs, houtput, ih hafter]

end Outputs

end SiliconSwitch.Library
