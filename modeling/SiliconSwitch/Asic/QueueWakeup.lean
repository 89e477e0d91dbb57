import SiliconSwitch.Asic.QueueHistory

/-!
# Wake-ups of a bounded queue

`wait_dequeue` releases the mutex while it waits. The state is the queue with the
consumers inside that wait: blocked on the condition variable, notified, or woken
for no reason. A consumer that has been unblocked takes the mutex again at an
arbitrary later moment, so others may find the value it was notified for.

## Results

* `covered_step`         — every step leaves a blocked consumer no more values than
  there are notified ones, on an open queue.
* `reachable_execution`  — the completed calls are a history of the queue.
* `no_lost_wakeup`       — no reachable state leaves a value, or a close, to
  blocked consumers only.
-/

namespace SiliconSwitch.Asic

open SiliconSwitch.Library

variable {Caller Value : Type} [DecidableEq Caller]

-- ---------------------------------------------------------------------------
-- The queue with its waiting consumers
-- ---------------------------------------------------------------------------

structure QueueState (Caller Value : Type) where
  queue : BoundedQueue Value
  waiters : WaitSet Caller

/-- The waiters after a `try_enqueue` with this result; only an accepted value
notifies. -/
inductive NotifiedFor (waiters : WaitSet Caller) : QueueEnqueueResult → WaitSet Caller → Prop
  | enqueued {after : WaitSet Caller} (h : waiters.NotifyOne after) :
    NotifiedFor waiters .enqueued after
  | refused {result : QueueEnqueueResult} (h : result ≠ .enqueued) :
    NotifiedFor waiters result waiters

/-- What happens under the mutex: a call from first to last, a `wait_dequeue` up
to its wait, or an unblocked consumer from its wait on. A step that completes a
call is labelled with it. -/
inductive QueueStep :
    QueueState Caller Value → Option (QueueEvent Caller Value) → QueueState Caller Value → Prop
  | tryEnqueue {queue : BoundedQueue Value} {waiters after : WaitSet Caller} (caller : Caller)
    (value : Value) (hcaller : caller ∉ waiters.waiting)
    (hnotify : NotifiedFor waiters (queue.tryEnqueue value).1 after) :
    QueueStep ⟨queue, waiters⟩
      (some ⟨caller, .tryEnqueue value, .enqueue (queue.tryEnqueue value).1⟩)
      ⟨(queue.tryEnqueue value).2, after⟩
  | tryDequeue {queue : BoundedQueue Value} {waiters : WaitSet Caller} (caller : Caller)
    (hcaller : caller ∉ waiters.waiting) :
    QueueStep ⟨queue, waiters⟩ (some ⟨caller, .tryDequeue, .dequeue queue.tryDequeue.1⟩)
      ⟨queue.tryDequeue.2, waiters⟩
  | waitDequeue {queue after : BoundedQueue Value} {waiters : WaitSet Caller} {value : Option Value}
    (caller : Caller) (hcaller : caller ∉ waiters.waiting)
    (hready : queue.waitDequeue = some (value, after)) :
    QueueStep ⟨queue, waiters⟩ (some ⟨caller, .waitDequeue, .dequeue value⟩) ⟨after, waiters⟩
  | block {queue : BoundedQueue Value} {waiters : WaitSet Caller} (caller : Caller)
    (hcaller : caller ∉ waiters.waiting) (hwait : queue.waitDequeue = none) :
    QueueStep ⟨queue, waiters⟩ none ⟨queue, waiters.block caller hcaller⟩
  | close {queue : BoundedQueue Value} {waiters : WaitSet Caller} (caller : Caller)
    (hcaller : caller ∉ waiters.waiting) :
    QueueStep ⟨queue, waiters⟩ (some ⟨caller, .close, .close queue.close.1⟩)
      ⟨queue.close.2, if queue.close.1 then waiters.notifyAll else waiters⟩
  | wake {queue : BoundedQueue Value} {waiters : WaitSet Caller} (caller : Caller)
    (hblocked : caller ∈ waiters.blocked) :
    QueueStep ⟨queue, waiters⟩ none ⟨queue, waiters.wake caller⟩
  | resume {queue after : BoundedQueue Value} {waiters : WaitSet Caller} {value : Option Value}
    (caller : Caller) (hcaller : caller ∈ waiters.notified ∪ waiters.woken)
    (hready : queue.waitDequeue = some (value, after)) :
    QueueStep ⟨queue, waiters⟩ (some ⟨caller, .waitDequeue, .dequeue value⟩)
      ⟨after, waiters.resume caller⟩
  | blockAgain {queue : BoundedQueue Value} {waiters : WaitSet Caller} (caller : Caller)
    (hcaller : caller ∈ waiters.notified ∪ waiters.woken) (hwait : queue.waitDequeue = none) :
    QueueStep ⟨queue, waiters⟩ none
      ⟨queue, (waiters.resume caller).block caller
        (WaitSet.notMem_waiting_resume (WaitSet.notMem_blocked hcaller))⟩

/-- A fresh queue, and any number of threads outside it. -/
def queueSystem (Caller Value : Type) [DecidableEq Caller] (capacity : Nat)
    (hcapacity : 0 < capacity) :
    System (QueueState Caller Value) (Option (QueueEvent Caller Value)) where
  initial state := state = ⟨BoundedQueue.create capacity hcapacity, WaitSet.empty⟩
  step := QueueStep

-- ---------------------------------------------------------------------------
-- The counting invariant
-- ---------------------------------------------------------------------------

/-- A blocked consumer leaves no more values than there are notified ones, and
waits on an open queue. -/
structure Covered (state : QueueState Caller Value) : Prop where
  covers : state.waiters.Covers state.queue.queue.length
  isOpen : state.waiters.blocked.Nonempty → state.queue.isClosed = false

omit [DecidableEq Caller] in
/-- The content of the queue, when `wait_dequeue` waits. -/
theorem BoundedQueue.waitDequeue_eq_none {queue : BoundedQueue Value}
    (h : queue.waitDequeue = none) : queue.isClosed = false ∧ queue.queue = [] := by
  rw [waitDequeue] at h
  split at h
  · simp at h
  · rename_i hready
    simpa [ready] using hready

theorem BoundedQueue.waitDequeue_eq_some {queue after : BoundedQueue Value}
    {value : Option Value} (h : queue.waitDequeue = some (value, after)) :
    after.queue.length = queue.queue.length - 1 ∧ after.isClosed = queue.isClosed := by
  rw [waitDequeue] at h
  split at h
  · rw [Option.some.injEq, tryDequeue, Prod.mk.injEq] at h
    rw [← h.2]
    exact ⟨List.length_tail, rfl⟩
  · simp at h

/-- An accepted value finds one more notified consumer, or nobody blocked. -/
theorem Covered.tryEnqueue {queue : BoundedQueue Value} {waiters after : WaitSet Caller}
    (h : Covered ⟨queue, waiters⟩) (value : Value)
    (hnotify : NotifiedFor waiters (queue.tryEnqueue value).1 after) :
    Covered ⟨(queue.tryEnqueue value).2, after⟩ := by
  cases hresult : queue.tryEnqueue value with
  | mk result next =>
    have hperform : queue.perform (.tryEnqueue value) = some (.enqueue result, next) := by
      rw [BoundedQueue.perform, hresult]
    rw [hresult] at hnotify
    cases hnotify with
    | enqueued hone =>
      cases BoundedQueue.performs_of_eq hperform with
      | enqueued _ _ hopen _ hqueue _ hstill =>
        refine ⟨?_, fun _ => hstill⟩
        show after.Covers next.queue.length
        rw [hqueue, List.length_append, List.length_singleton]
        exact h.covers.notifyOne hone
    | refused hrefused =>
      cases BoundedQueue.performs_of_eq hperform with
      | closed => exact h
      | full => exact h
      | enqueued => exact absurd rfl hrefused

/-- Every step keeps the count, whichever thread takes it. -/
theorem covered_step {before after : QueueState Caller Value}
    {label : Option (QueueEvent Caller Value)} (h : Covered before)
    (hstep : QueueStep before label after) : Covered after := by
  cases hstep with
  | tryEnqueue caller value _ hnotify => exact h.tryEnqueue value hnotify
  | @tryDequeue queue waiters caller _ =>
    refine ⟨h.covers.mono ?_, h.isOpen⟩
    show queue.queue.tail.length ≤ queue.queue.length
    rw [List.length_tail]
    omega
  | @waitDequeue queue after waiters _ caller _ hready =>
    obtain ⟨hlength, hclosed⟩ := BoundedQueue.waitDequeue_eq_some hready
    refine ⟨h.covers.mono ?_, fun hblocked => hclosed.trans (h.isOpen hblocked)⟩
    show after.queue.length ≤ queue.queue.length
    omega
  | block caller hcaller hwait =>
    -- it waits because there is nothing to take, and nothing is closed
    obtain ⟨hopen, hempty⟩ := BoundedQueue.waitDequeue_eq_none hwait
    refine ⟨?_, fun _ => hopen⟩
    rw [hempty]
    exact WaitSet.covers_zero _
  | @close queue waiters caller _ =>
    cases hfirst : queue.close.1 with
    | true =>
      refine ⟨WaitSet.covers_notifyAll waiters _, fun hblocked => ?_⟩
      simp [WaitSet.notifyAll] at hblocked
    | false =>
      have hclosed : queue.isClosed = true := by simpa [BoundedQueue.close] using hfirst
      refine ⟨h.covers, fun hblocked => ?_⟩
      have hopen := h.isOpen hblocked
      rw [hclosed] at hopen
      simp at hopen
  | wake caller hblocked =>
    refine ⟨h.covers.wake caller, ?_⟩
    rintro ⟨other, hother⟩
    exact h.isOpen ⟨other, Finset.mem_of_mem_erase hother⟩
  | resume caller hcaller hready =>
    obtain ⟨hlength, hclosed⟩ := BoundedQueue.waitDequeue_eq_some hready
    refine ⟨?_, fun hblocked => hclosed.trans (h.isOpen hblocked)⟩
    rw [hlength]
    exact h.covers.resume caller
  | blockAgain caller hcaller hwait =>
    obtain ⟨hopen, hempty⟩ := BoundedQueue.waitDequeue_eq_none hwait
    refine ⟨?_, fun _ => hopen⟩
    rw [hempty]
    exact WaitSet.covers_zero _

variable {capacity : Nat} {hcapacity : 0 < capacity}

theorem covered_of_reachable {state : QueueState Caller Value}
    (h : (queueSystem Caller Value capacity hcapacity).Reachable state) : Covered state := by
  refine System.Reachable.invariant (I := Covered) ?_ (fun _ _ _ => covered_step) h
  rintro _ rfl
  refine ⟨WaitSet.covers_zero _, fun hblocked => ?_⟩
  simp [WaitSet.empty] at hblocked

-- ---------------------------------------------------------------------------
-- The completed calls
-- ---------------------------------------------------------------------------

/-- A labelled step is that call of the queue; another leaves the queue alone. -/
theorem perform_of_queueStep {before after : QueueState Caller Value}
    {label : Option (QueueEvent Caller Value)} (h : QueueStep before label after) :
    match label with
    | none => after.queue = before.queue
    | some event => before.queue.perform event.call = some (event.outcome, after.queue) := by
  cases h with
  | tryEnqueue => rfl
  | tryDequeue => rfl
  | waitDequeue caller _ hready => simp [BoundedQueue.perform, hready]
  | block => rfl
  | close => rfl
  | wake => rfl
  | resume caller _ hready => simp [BoundedQueue.perform, hready]
  | blockAgain => rfl

/-- The waits hide nothing: the queue of every reachable state is that of a
history of completed calls. -/
theorem reachable_execution {state : QueueState Caller Value}
    (h : (queueSystem Caller Value capacity hcapacity).Reachable state) :
    ∃ events : List (QueueEvent Caller Value),
      Execution capacity hcapacity events state.queue := by
  induction h with
  | initial hfresh =>
    rw [hfresh]
    exact ⟨[], Execution.start⟩
  | @step before after label _ hstep ih =>
    obtain ⟨events, hevents⟩ := ih
    have hperform := perform_of_queueStep hstep
    cases label with
    | none =>
      dsimp only at hperform
      exact ⟨events, by rwa [hperform]⟩
    | some event => exact ⟨events ++ [event], hevents.step event.caller hperform⟩

-- ---------------------------------------------------------------------------
-- No lost wake-up
-- ---------------------------------------------------------------------------

/-- **No lost wake-up.** Where a consumer is blocked, the queue is open and holds
at most as many values as there are notified consumers; so if all that wait are
blocked, it holds none. -/
theorem no_lost_wakeup {state : QueueState Caller Value}
    (h : (queueSystem Caller Value capacity hcapacity).Reachable state)
    (hblocked : state.waiters.blocked.Nonempty) :
    state.queue.isClosed = false ∧
      state.queue.queue.length ≤ state.waiters.notified.card ∧
      (state.waiters.waiting ⊆ state.waiters.blocked → state.queue.queue = []) := by
  have hcovered := covered_of_reachable h
  have hcount := hcovered.covers hblocked
  refine ⟨hcovered.isOpen hblocked, hcount, fun hall => ?_⟩
  have hnotified : state.waiters.notified = ∅ := by
    apply Finset.eq_empty_of_forall_notMem
    intro caller hcaller
    have hwaiting : caller ∈ state.waiters.waiting :=
      Finset.mem_union_right _ (Finset.mem_union_left _ hcaller)
    exact WaitSet.notMem_blocked (Finset.mem_union_left _ hcaller) (hall hwaiting)
  rw [hnotified, Finset.card_empty] at hcount
  exact List.eq_nil_of_length_eq_zero (Nat.le_zero.mp hcount)

namespace QueueExample

/-- Consumers 5 and 6 blocked on a fresh queue. -/
def twoBlocked : WaitSet Nat :=
  (WaitSet.empty.block 5 (by simp [WaitSet.waiting, WaitSet.empty])).block 6
    (by simp [WaitSet.waiting, WaitSet.empty, WaitSet.block])

/-- A value has been enqueued, and consumer 5 notified of it. -/
def oneBlocked : QueueState Nat Nat :=
  ⟨((BoundedQueue.create 3 (by decide)).tryEnqueue 40).2,
   twoBlocked.notify 5 (by simp [twoBlocked, WaitSet.block])⟩

theorem reachable_oneBlocked : (queueSystem Nat Nat 3 (by decide)).Reachable oneBlocked :=
  .step _ (.step none (.step none (.initial rfl) (.block 5 _ rfl)) (.block 6 _ rfl))
    (.tryEnqueue 7 40 (by decide) (.enqueued (.reaches 5 _)))

end QueueExample

/-- One consumer is blocked, and the value is for the one that has been notified. -/
theorem no_lost_wakeup_oneBlocked :
    QueueExample.oneBlocked.waiters.blocked = {6} ∧
      QueueExample.oneBlocked.waiters.notified = {5} ∧
      QueueExample.oneBlocked.queue.queue = [40] ∧
      QueueExample.oneBlocked.queue.isClosed = false ∧
      QueueExample.oneBlocked.queue.queue.length ≤
        QueueExample.oneBlocked.waiters.notified.card := by
  have hblocked : QueueExample.oneBlocked.waiters.blocked = {6} := by decide
  have hsafe := no_lost_wakeup QueueExample.reachable_oneBlocked
    (hblocked ▸ Finset.singleton_nonempty 6)
  exact ⟨hblocked, by decide, rfl, hsafe.1, hsafe.2.1⟩

end SiliconSwitch.Asic
