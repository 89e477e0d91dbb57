import Mathlib.Data.Finset.Card
import Mathlib.Tactic

/-!
# Channels

What a buffer shared by many threads rests on, over arbitrary values and
threads.

* `Conserved ins outs content` — first in, first out: what went in is what came
  out, followed by what is inside. `Conserved.push` and `Conserved.pop` keep it.
* `WaitSet` — the threads that wait on a condition variable: blocked, notified
  but not resumed, or woken without a notification. `Covers waiters count` says
  that a blocked thread leaves no more than `count` items to the notified ones;
  each operation of the wait set has its rule (`Covers.notifyOne`,
  `Covers.resume` and so on).
-/

namespace SiliconSwitch.Library

-- ---------------------------------------------------------------------------
-- First in, first out
-- ---------------------------------------------------------------------------

section Fifo

variable {α : Type} {ins outs content : List α}

/-- Nothing is lost, duplicated, invented or reordered. -/
def Conserved (ins outs content : List α) : Prop := ins = outs ++ content

theorem Conserved.nil : Conserved ([] : List α) [] [] := rfl

theorem Conserved.push (h : Conserved ins outs content) (value : α) :
    Conserved (ins ++ [value]) outs (content ++ [value]) := by
  rw [Conserved, h, List.append_assoc]

/-- The front comes out, if there is one. -/
theorem Conserved.pop (h : Conserved ins outs content) :
    Conserved ins (outs ++ content.head?.toList) content.tail := by
  rw [Conserved, h]
  cases content with
  | nil => simp
  | cons front rest => simp

theorem Conserved.length (h : Conserved ins outs content) :
    ins.length = outs.length + content.length := by
  rw [h, List.length_append]

end Fifo

-- ---------------------------------------------------------------------------
-- Wait sets
-- ---------------------------------------------------------------------------

/-- The threads inside a wait on a condition variable. -/
structure WaitSet (ι : Type) where
  /-- Not unblocked yet. -/
  blocked : Finset ι
  /-- Unblocked by a notification, without the lock yet. -/
  notified : Finset ι
  /-- Unblocked without a notification, without the lock yet. -/
  woken : Finset ι
  blocked_notified : Disjoint blocked notified
  blocked_woken : Disjoint blocked woken

namespace WaitSet

variable {ι : Type}

def empty : WaitSet ι := ⟨∅, ∅, ∅, by simp, by simp⟩

variable [DecidableEq ι]

def waiting (waiters : WaitSet ι) : Finset ι :=
  waiters.blocked ∪ (waiters.notified ∪ waiters.woken)

/-- A thread releases the lock and blocks. -/
def block (waiters : WaitSet ι) (thread : ι) (h : thread ∉ waiters.waiting) : WaitSet ι where
  blocked := insert thread waiters.blocked
  notified := waiters.notified
  woken := waiters.woken
  blocked_notified := by
    simp only [waiting, Finset.mem_union, not_or] at h
    exact Finset.disjoint_insert_left.mpr ⟨h.2.1, waiters.blocked_notified⟩
  blocked_woken := by
    simp only [waiting, Finset.mem_union, not_or] at h
    exact Finset.disjoint_insert_left.mpr ⟨h.2.2, waiters.blocked_woken⟩

/-- A notification reaches this thread. -/
def notify (waiters : WaitSet ι) (thread : ι) (_h : thread ∈ waiters.blocked) : WaitSet ι where
  blocked := waiters.blocked.erase thread
  notified := insert thread waiters.notified
  woken := waiters.woken
  blocked_notified := Finset.disjoint_insert_right.mpr
    ⟨Finset.notMem_erase thread _,
      waiters.blocked_notified.mono_left (Finset.erase_subset thread _)⟩
  blocked_woken := waiters.blocked_woken.mono_left (Finset.erase_subset thread _)

/-- `notify_one` reaches some blocked thread, if there is one. -/
inductive NotifyOne (waiters : WaitSet ι) : WaitSet ι → Prop
  | nobody (h : waiters.blocked = ∅) : NotifyOne waiters waiters
  | reaches (thread : ι) (h : thread ∈ waiters.blocked) :
    NotifyOne waiters (waiters.notify thread h)

def notifyAll (waiters : WaitSet ι) : WaitSet ι where
  blocked := ∅
  notified := waiters.blocked ∪ waiters.notified
  woken := waiters.woken
  blocked_notified := Finset.disjoint_empty_left _
  blocked_woken := Finset.disjoint_empty_left _

/-- A spurious wake-up. -/
def wake (waiters : WaitSet ι) (thread : ι) : WaitSet ι where
  blocked := waiters.blocked.erase thread
  notified := waiters.notified
  woken := insert thread waiters.woken
  blocked_notified := waiters.blocked_notified.mono_left (Finset.erase_subset thread _)
  blocked_woken := Finset.disjoint_insert_right.mpr
    ⟨Finset.notMem_erase thread _,
      waiters.blocked_woken.mono_left (Finset.erase_subset thread _)⟩

/-- An unblocked thread has the lock again. -/
def resume (waiters : WaitSet ι) (thread : ι) : WaitSet ι where
  blocked := waiters.blocked
  notified := waiters.notified.erase thread
  woken := waiters.woken.erase thread
  blocked_notified := waiters.blocked_notified.mono_right (Finset.erase_subset thread _)
  blocked_woken := waiters.blocked_woken.mono_right (Finset.erase_subset thread _)

/-- A thread that has resumed is outside the wait. -/
theorem notMem_waiting_resume {waiters : WaitSet ι} {thread : ι}
    (h : thread ∉ waiters.blocked) : thread ∉ (waiters.resume thread).waiting := by
  simp [waiting, resume, h]

theorem notMem_blocked {waiters : WaitSet ι} {thread : ι}
    (h : thread ∈ waiters.notified ∪ waiters.woken) : thread ∉ waiters.blocked := by
  rw [Finset.mem_union] at h
  rcases h with hnotified | hwoken
  · exact Finset.disjoint_right.mp waiters.blocked_notified hnotified
  · exact Finset.disjoint_right.mp waiters.blocked_woken hwoken

/-- If any thread is blocked, the notified ones are as many as the items. -/
def Covers (waiters : WaitSet ι) (count : Nat) : Prop :=
  waiters.blocked.Nonempty → count ≤ waiters.notified.card

omit [DecidableEq ι] in
/-- Without items nothing has to be covered, whoever blocks. -/
theorem covers_zero (waiters : WaitSet ι) : Covers waiters 0 := fun _ => Nat.zero_le _

omit [DecidableEq ι] in
theorem Covers.mono {waiters : WaitSet ι} {count fewer : Nat} (h : Covers waiters count)
    (hle : fewer ≤ count) : Covers waiters fewer :=
  fun hblocked => hle.trans (h hblocked)

/-- A notification covers one more item: either it adds a notified thread, or
nobody is blocked. -/
theorem Covers.notifyOne {waiters after : WaitSet ι} {count : Nat} (h : Covers waiters count)
    (hnotify : NotifyOne waiters after) : Covers after (count + 1) := by
  cases hnotify with
  | nobody hnobody =>
    intro hblocked
    rw [hnobody] at hblocked
    simp at hblocked
  | reaches thread hthread =>
    intro _
    have hfresh : thread ∉ waiters.notified :=
      Finset.disjoint_left.mp waiters.blocked_notified hthread
    have hcard : (insert thread waiters.notified).card = waiters.notified.card + 1 :=
      Finset.card_insert_of_notMem hfresh
    have hcovered := h ⟨thread, hthread⟩
    show count + 1 ≤ (insert thread waiters.notified).card
    omega

theorem covers_notifyAll (waiters : WaitSet ι) (count : Nat) :
    Covers waiters.notifyAll count := by
  intro hblocked
  simp [notifyAll] at hblocked

theorem Covers.wake {waiters : WaitSet ι} {count : Nat} (h : Covers waiters count)
    (thread : ι) : Covers (waiters.wake thread) count := by
  rintro ⟨other, hother⟩
  exact h ⟨other, Finset.mem_of_mem_erase hother⟩

/-- A thread that resumes takes one item, and its notification, with it. -/
theorem Covers.resume {waiters : WaitSet ι} {count : Nat} (h : Covers waiters count)
    (thread : ι) : Covers (waiters.resume thread) (count - 1) := by
  intro hblocked
  have hcovered := h hblocked
  have herase : waiters.notified.card - 1 ≤ (waiters.notified.erase thread).card :=
    Finset.pred_card_le_card_erase
  show count - 1 ≤ (waiters.notified.erase thread).card
  omega

end WaitSet

end SiliconSwitch.Library
