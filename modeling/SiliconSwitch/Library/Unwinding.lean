import SiliconSwitch.Library.Transition

/-!
# Unwinding

What an observer of some calls of a machine can learn about the others.

Two runs from related states see the same calls if their transcripts list the same
visible calls, whatever hidden calls stand between them. `Unwinding` collects what one
step has to do for the answers to agree as well.

* `transcript` — the visible calls of a run, with their answers.
* `Unwinding.transcript_eq` — runs that see the same calls see the same answers.
* `Unwinding.outputs_visible` — so the hidden calls of a run can be left out.
-/

namespace SiliconSwitch.Library

variable {σ α β : Type}

/-- The state after a call. -/
def afterCall (respond : σ → α → β × σ) (s : σ) (a : α) : σ := (respond s a).2

/-- The visible calls of a run and what they answer, in order. -/
def transcript (respond : σ → α → β × σ) (visible : σ → α → Bool) : σ → List α → List (α × β)
  | _, [] => []
  | s, a :: rest =>
    let later := transcript respond visible (respond s a).2 rest
    if visible s a then (a, (respond s a).1) :: later else later

/-- The step conditions for non-interference: a symmetric relation `R` of states that
agree to the observer, kept by a hidden call on one side and by a visible call on both,
as long as the states satisfy `I`. -/
structure Unwinding (respond : σ → α → β × σ) (visible : σ → α → Bool) (I : σ → Prop)
    (R : σ → σ → Prop) : Prop where
  symm : ∀ {s t}, R s t → R t s
  hidden : ∀ {s t} a, I s → R s t → visible s a = false → R (respond s a).2 t
  shown : ∀ {s t} a, I s → I t → R s t → visible s a = true →
    (respond s a).1 = (respond t a).1 ∧ R (respond s a).2 (respond t a).2

namespace Unwinding

variable {respond : σ → α → β × σ} {visible : σ → α → Bool} {I : σ → Prop} {R : σ → σ → Prop}

/-- A run that sees nothing leaves its state related to what it was related to. -/
theorem related_of_transcript_nil (h : Unwinding respond visible I R) {s t : σ} (hst : R s t)
    {calls : List α} (hI : EachStep (afterCall respond) (fun s _ => I s) s calls)
    (hnone : transcript respond visible s calls = []) : R (run (afterCall respond) s calls) t := by
  induction calls generalizing s with
  | nil => exact hst
  | cons a rest ih =>
    rw [transcript] at hnone
    cases hvisible : visible s a with
    | true => simp [hvisible] at hnone
    | false =>
      simp only [hvisible, Bool.false_eq_true, if_false] at hnone
      exact ih (h.hidden a hI.1 hst hvisible) hI.2 hnone

/-- A run that sees a call first makes hidden calls, then that one. -/
theorem transcript_cons {s : σ} {calls : List α} {a : α} {answer : β} {later : List (α × β)}
    (h : transcript respond visible s calls = (a, answer) :: later) :
    ∃ front rest, calls = front ++ a :: rest ∧ transcript respond visible s front = [] ∧
      visible (run (afterCall respond) s front) a = true ∧
      answer = (respond (run (afterCall respond) s front) a).1 ∧
      later = transcript respond visible
        (afterCall respond (run (afterCall respond) s front) a) rest := by
  induction calls generalizing s with
  | nil => simp [transcript] at h
  | cons b rest ih =>
    rw [transcript] at h
    cases hvisible : visible s b with
    | true =>
      simp only [hvisible, if_true, List.cons.injEq, Prod.mk.injEq] at h
      obtain ⟨⟨rfl, rfl⟩, rfl⟩ := h
      exact ⟨[], rest, rfl, rfl, hvisible, rfl, rfl⟩
    | false =>
      simp only [hvisible, Bool.false_eq_true, if_false] at h
      obtain ⟨front, back, rfl, hnone, hseen, hanswer, hlater⟩ := ih h
      refine ⟨b :: front, back, rfl, ?_, hseen, hanswer, hlater⟩
      rw [transcript, hvisible]
      exact hnone

/-- **Runs that see the same calls see the same answers**, whatever else each of them does. -/
theorem transcript_eq (h : Unwinding respond visible I R) {s t : σ} (hst : R s t)
    {first second : List α} (hfirst : EachStep (afterCall respond) (fun s _ => I s) s first)
    (hsecond : EachStep (afterCall respond) (fun s _ => I s) t second)
    (hcalls : (transcript respond visible s first).map Prod.fst =
      (transcript respond visible t second).map Prod.fst) :
    transcript respond visible s first = transcript respond visible t second := by
  induction first generalizing s t second with
  | nil =>
    show [] = _
    exact (List.map_eq_nil_iff.mp hcalls.symm).symm
  | cons a rest ih =>
    rw [transcript] at hcalls ⊢
    cases hvisible : visible s a with
    | false =>
      simp only [hvisible, Bool.false_eq_true, if_false] at hcalls ⊢
      exact ih (h.hidden a hfirst.1 hst hvisible) hfirst.2 hsecond hcalls
    | true =>
      simp only [hvisible, if_true, List.map_cons] at hcalls ⊢
      -- the second run reaches the same call after hidden calls of its own
      cases hother : transcript respond visible t second with
      | nil => simp [hother] at hcalls
      | cons seen later =>
        obtain ⟨call, answer⟩ := seen
        rw [hother, List.map_cons, List.cons.injEq] at hcalls
        obtain ⟨hcall, hlater⟩ := hcalls
        obtain rfl : a = call := hcall
        obtain ⟨front, back, rfl, hnone, hseen, rfl, rfl⟩ := transcript_cons hother
        obtain ⟨hhidden, hI, hback⟩ := eachStep_append.mp hsecond
        have hrelated : R s (run (afterCall respond) t front) :=
          h.symm (h.related_of_transcript_nil (h.symm hst) hhidden hnone)
        obtain ⟨hanswer, hnext⟩ := h.shown a hfirst.1 hI hrelated hvisible
        rw [← hanswer, List.cons.injEq]
        exact ⟨rfl, ih hnext hfirst.2 hback hlater⟩

/-- **The hidden calls of a run can be left out**, where related states satisfy `I` together:
the visible calls by themselves answer as they did between them. -/
theorem outputs_visible (h : Unwinding respond visible I R) (htransfer : ∀ {s t}, R s t → I s → I t)
    {s t : σ} (hst : R s t) {calls : List α}
    (hcalls : EachStep (afterCall respond) (fun s _ => I s) s calls) :
    outputs respond t ((transcript respond visible s calls).map Prod.fst) =
      (transcript respond visible s calls).map Prod.snd := by
  induction calls generalizing s t with
  | nil => rfl
  | cons a rest ih =>
    rw [transcript]
    cases hvisible : visible s a with
    | false =>
      simp only [Bool.false_eq_true, if_false]
      exact ih (h.hidden a hcalls.1 hst hvisible) hcalls.2
    | true =>
      obtain ⟨hanswer, hnext⟩ := h.shown a hcalls.1 (htransfer hst hcalls.1) hst hvisible
      simp only [if_true, List.map_cons, outputs]
      rw [← hanswer]
      exact congrArg _ (ih hnext hcalls.2)

end Unwinding

end SiliconSwitch.Library
