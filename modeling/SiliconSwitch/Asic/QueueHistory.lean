import SiliconSwitch.Asic.Components
import SiliconSwitch.Library.Channel
import SiliconSwitch.Library.Transition

/-!
# Histories of a bounded queue

`BoundedQueue` under any interleaving of its callers. Every call holds the mutex
from its first look at the queue to its last, so a run is a sequence of whole
calls; a `wait_dequeue` enters the sequence when it completes.

## Results

* `performs_of_eq`    — everything a call can do, with the state it needs.
* `Execution.tracks`  — a history determines the content of the queue, and
  whether it is closed.
* `Execution.lawful`  — what every return value says of the calls before it.
* `Execution.drain`   — a closed queue hands out all it has accepted.
* `fifo_history`      — these together: a bounded first-in first-out queue.
-/

namespace SiliconSwitch.Asic

open SiliconSwitch.Library

-- ---------------------------------------------------------------------------
-- Calls and histories
-- ---------------------------------------------------------------------------

inductive QueueCall (Value : Type)
  | tryEnqueue (value : Value)
  | tryDequeue
  | waitDequeue
  | close

namespace QueueCall

variable {Value : Type}

def isClose : QueueCall Value → Bool
  | close => true
  | _ => false

def isDequeue : QueueCall Value → Bool
  | tryDequeue | waitDequeue => true
  | _ => false

end QueueCall

/-- What a call returns. -/
inductive QueueOutcome (Value : Type)
  | enqueue (result : QueueEnqueueResult)
  | dequeue (value : Option Value)
  | close (first : Bool)

/-- A completed call, of some thread. -/
structure QueueEvent (Caller Value : Type) where
  caller : Caller
  call : QueueCall Value
  outcome : QueueOutcome Value

namespace QueueEvent

variable {Caller Value : Type}

/-- The value that the queue has taken over from its caller. -/
def accepted? : QueueEvent Caller Value → Option Value
  | ⟨_, .tryEnqueue value, .enqueue .enqueued⟩ => some value
  | _ => none

/-- The value that the queue has given to its caller. -/
def handedOut? : QueueEvent Caller Value → Option Value
  | ⟨_, _, .dequeue value⟩ => value
  | _ => none

/-- A `close` that has returned true. -/
def hasClosed : QueueEvent Caller Value → Bool
  | ⟨_, _, .close first⟩ => first
  | _ => false

end QueueEvent

section History

variable {Caller Value : Type}

def accepted (events : List (QueueEvent Caller Value)) : List Value :=
  events.filterMap QueueEvent.accepted?

def handedOut (events : List (QueueEvent Caller Value)) : List Value :=
  events.filterMap QueueEvent.handedOut?

/-- `close` has been called. -/
def closeCalled (events : List (QueueEvent Caller Value)) : Bool :=
  events.any fun event => event.call.isClose

theorem accepted_concat (events : List (QueueEvent Caller Value))
    (event : QueueEvent Caller Value) :
    accepted (events ++ [event]) = accepted events ++ event.accepted?.toList := by
  rw [accepted, List.filterMap_append, accepted]
  cases h : event.accepted? <;> simp [h]

theorem handedOut_concat (events : List (QueueEvent Caller Value))
    (event : QueueEvent Caller Value) :
    handedOut (events ++ [event]) = handedOut events ++ event.handedOut?.toList := by
  rw [handedOut, List.filterMap_append, handedOut]
  cases h : event.handedOut? <;> simp [h]

theorem closeCalled_concat (events : List (QueueEvent Caller Value))
    (event : QueueEvent Caller Value) :
    closeCalled (events ++ [event]) = (closeCalled events || event.call.isClose) := by
  simp [closeCalled]

end History

-- ---------------------------------------------------------------------------
-- What a call can do
-- ---------------------------------------------------------------------------

namespace BoundedQueue

variable {Value : Type}

/-- A call that holds the lock; `none` while a `wait_dequeue` has to wait. -/
def perform (queue : BoundedQueue Value) :
    QueueCall Value → Option (QueueOutcome Value × BoundedQueue Value)
  | .tryEnqueue value => some (.enqueue (queue.tryEnqueue value).1, (queue.tryEnqueue value).2)
  | .tryDequeue => some (.dequeue queue.tryDequeue.1, queue.tryDequeue.2)
  | .waitDequeue => queue.waitDequeue.map fun result => (.dequeue result.1, result.2)
  | .close => some (.close queue.close.1, queue.close.2)

/-- The outcomes of the calls, each with the state of the queue that it needs. -/
inductive Performs (queue : BoundedQueue Value) :
    QueueCall Value → QueueOutcome Value → BoundedQueue Value → Prop
  | closed (value : Value) (hclosed : queue.isClosed = true) :
    Performs queue (.tryEnqueue value) (.enqueue .closed) queue
  | full (value : Value) (hopen : queue.isClosed = false)
    (hfull : queue.queue.length = queue.capacity) :
    Performs queue (.tryEnqueue value) (.enqueue .full) queue
  | enqueued (value : Value) (after : BoundedQueue Value) (hopen : queue.isClosed = false)
    (hroom : queue.queue.length < queue.capacity)
    (hqueue : after.queue = queue.queue ++ [value]) (hcapacity : after.capacity = queue.capacity)
    (hstill : after.isClosed = false) :
    Performs queue (.tryEnqueue value) (.enqueue .enqueued) after
  | tryDequeue : Performs queue .tryDequeue (.dequeue queue.tryDequeue.1) queue.tryDequeue.2
  | waitDequeue (hready : queue.ready = true) :
    Performs queue .waitDequeue (.dequeue queue.tryDequeue.1) queue.tryDequeue.2
  | close : Performs queue .close (.close (!queue.isClosed)) queue.close.2

theorem performs_of_eq {queue after : BoundedQueue Value} {call : QueueCall Value}
    {outcome : QueueOutcome Value} (h : queue.perform call = some (outcome, after)) :
    Performs queue call outcome after := by
  cases call with
  | tryEnqueue value =>
    rw [perform, tryEnqueue, Option.some.injEq, Prod.mk.injEq] at h
    obtain ⟨rfl, rfl⟩ := h
    split
    · rename_i hclosed
      exact Performs.closed value hclosed
    · rename_i hopen
      rw [Bool.not_eq_true] at hopen
      split
      · rename_i hfull
        exact Performs.full value hopen (Nat.le_antisymm queue.length_le hfull)
      · rename_i hroom
        exact Performs.enqueued value _ hopen (Nat.lt_of_not_ge hroom) rfl rfl hopen
  | tryDequeue =>
    rw [perform, Option.some.injEq, Prod.mk.injEq] at h
    obtain ⟨rfl, rfl⟩ := h
    exact Performs.tryDequeue
  | waitDequeue =>
    rw [perform, waitDequeue] at h
    split at h
    · rename_i hready
      rw [Option.map_some, Option.some.injEq, Prod.mk.injEq] at h
      obtain ⟨rfl, rfl⟩ := h
      exact Performs.waitDequeue hready
    · simp at h
  | close =>
    rw [perform, Option.some.injEq, Prod.mk.injEq] at h
    obtain ⟨rfl, rfl⟩ := h
    exact Performs.close

end BoundedQueue

-- ---------------------------------------------------------------------------
-- Executions
-- ---------------------------------------------------------------------------

section Execution

variable {Caller Value : Type} {capacity : Nat} {hcapacity : 0 < capacity}

/-- The histories of a fresh queue, with the queue each leads to. Any caller may
make the next call. -/
inductive Execution (capacity : Nat) (hcapacity : 0 < capacity) :
    List (QueueEvent Caller Value) → BoundedQueue Value → Prop
  | start : Execution capacity hcapacity [] (BoundedQueue.create capacity hcapacity)
  | step {events : List (QueueEvent Caller Value)} {queue after : BoundedQueue Value}
    {call : QueueCall Value} {outcome : QueueOutcome Value} (caller : Caller)
    (hbefore : Execution capacity hcapacity events queue)
    (hperform : queue.perform call = some (outcome, after)) :
    Execution capacity hcapacity (events ++ [⟨caller, call, outcome⟩]) after

/-- What a history says of the queue it leads to. -/
structure Tracks (capacity : Nat) (events : List (QueueEvent Caller Value))
    (queue : BoundedQueue Value) : Prop where
  conserved : Conserved (accepted events) (handedOut events) queue.queue
  capacity : queue.capacity = capacity
  isClosed : queue.isClosed = closeCalled events

/-- A step keeps the history and the queue in agreement. -/
theorem Tracks.perform {events : List (QueueEvent Caller Value)}
    {queue after : BoundedQueue Value} {call : QueueCall Value} {outcome : QueueOutcome Value}
    (h : Tracks capacity events queue) (caller : Caller)
    (hperform : queue.perform call = some (outcome, after)) :
    Tracks capacity (events ++ [⟨caller, call, outcome⟩]) after := by
  -- a call that returns without a value taken or given
  have quiet : ∀ {call : QueueCall Value} {outcome : QueueOutcome Value},
      (QueueEvent.mk caller call outcome).accepted? = none →
      (QueueEvent.mk caller call outcome).handedOut? = none →
      Conserved (accepted (events ++ [⟨caller, call, outcome⟩]))
        (handedOut (events ++ [⟨caller, call, outcome⟩])) queue.queue := by
    intro call outcome haccepted hhanded
    rw [accepted_concat, handedOut_concat, haccepted, hhanded]
    simpa using h.conserved
  have popped : ∀ {call : QueueCall Value},
      (QueueEvent.mk caller call (.dequeue queue.tryDequeue.1)).accepted? = none →
      Conserved (accepted (events ++ [⟨caller, call, .dequeue queue.tryDequeue.1⟩]))
        (handedOut (events ++ [⟨caller, call, .dequeue queue.tryDequeue.1⟩]))
        queue.tryDequeue.2.queue := by
    intro call haccepted
    rw [accepted_concat, handedOut_concat, haccepted, Option.toList_none, List.append_nil]
    exact h.conserved.pop
  cases BoundedQueue.performs_of_eq hperform with
  | closed value hclosed =>
    exact ⟨quiet rfl rfl, h.capacity, by simp [closeCalled_concat, h.isClosed, QueueCall.isClose]⟩
  | full value hopen hfull =>
    exact ⟨quiet rfl rfl, h.capacity, by simp [closeCalled_concat, h.isClosed, QueueCall.isClose]⟩
  | enqueued value after hopen hroom hqueue hcapacity hstill =>
    refine ⟨?_, by rw [hcapacity, h.capacity], ?_⟩
    · rw [accepted_concat, handedOut_concat, hqueue]
      show Conserved (accepted events ++ [value]) (handedOut events ++ []) _
      rw [List.append_nil]
      exact h.conserved.push value
    · rw [closeCalled_concat, ← h.isClosed, hopen, hstill]
      rfl
  | tryDequeue =>
    refine ⟨popped rfl, h.capacity, ?_⟩
    rw [closeCalled_concat, ← h.isClosed]
    exact (Bool.or_false _).symm
  | waitDequeue hready =>
    refine ⟨popped rfl, h.capacity, ?_⟩
    rw [closeCalled_concat, ← h.isClosed]
    exact (Bool.or_false _).symm
  | close =>
    refine ⟨quiet rfl rfl, h.capacity, ?_⟩
    rw [closeCalled_concat]
    exact (Bool.or_true _).symm

theorem Execution.tracks {events : List (QueueEvent Caller Value)} {queue : BoundedQueue Value}
    (h : Execution capacity hcapacity events queue) : Tracks capacity events queue := by
  induction h with
  | start => exact ⟨Conserved.nil, rfl, rfl⟩
  | step caller _ hperform ih => exact ih.perform caller hperform

-- ---------------------------------------------------------------------------
-- Return values
-- ---------------------------------------------------------------------------

/-- What the return value of a call says of the calls before it. -/
structure Lawful (capacity : Nat) (front : List (QueueEvent Caller Value))
    (event : QueueEvent Caller Value) : Prop where
  enqueued : event.outcome = .enqueue .enqueued → closeCalled front = false
  full : event.outcome = .enqueue .full → closeCalled front = false ∧
    (accepted front).length = (handedOut front).length + capacity
  closed : event.outcome = .enqueue .closed → closeCalled front = true
  drained : event.call = .waitDequeue → event.outcome = .dequeue none →
    closeCalled front = true ∧ accepted front = handedOut front
  close : event.call = .close → event.outcome = .close (!closeCalled front)

theorem Tracks.lawful {events : List (QueueEvent Caller Value)}
    {queue after : BoundedQueue Value} {call : QueueCall Value} {outcome : QueueOutcome Value}
    (h : Tracks capacity events queue) (caller : Caller)
    (hperform : queue.perform call = some (outcome, after)) :
    Lawful capacity events ⟨caller, call, outcome⟩ := by
  cases BoundedQueue.performs_of_eq hperform with
  | closed value hclosed =>
    rw [h.isClosed] at hclosed
    constructor <;> simp [hclosed]
  | full value hopen hfull =>
    rw [h.isClosed] at hopen
    have hlength : (accepted events).length = (handedOut events).length + capacity := by
      rw [h.conserved.length, hfull, h.capacity]
    constructor <;> simp [hopen, hlength]
  | enqueued value after hopen _ _ _ _ =>
    rw [h.isClosed] at hopen
    constructor <;> simp [hopen]
  | tryDequeue => constructor <;> simp
  | waitDequeue hready =>
    have hdrained : queue.tryDequeue.1 = none →
        closeCalled events = true ∧ accepted events = handedOut events := by
      intro hnone
      have hempty : queue.queue = [] := List.head?_eq_none_iff.mp hnone
      -- nothing to pop, so the wait has ended because of the close
      rw [BoundedQueue.ready, hempty, List.isEmpty_nil, Bool.not_true, Bool.or_false] at hready
      have hconserved := h.conserved
      rw [hempty, Conserved, List.append_nil] at hconserved
      exact ⟨by rw [← h.isClosed]; exact hready, hconserved⟩
    constructor <;> simp
    exact hdrained
  | close => constructor <;> simp [h.isClosed]

theorem Execution.lawful {events : List (QueueEvent Caller Value)} {queue : BoundedQueue Value}
    (h : Execution capacity hcapacity events queue) {front back : List (QueueEvent Caller Value)}
    {event : QueueEvent Caller Value} (hsplit : events = front ++ event :: back) :
    Lawful capacity front event := by
  induction h generalizing back with
  | start => simp at hsplit
  | step caller hbefore hperform ih =>
    rcases concat_eq_split hsplit with ⟨rfl, rfl⟩ | ⟨earlier, hearlier⟩
    · exact hbefore.tracks.lawful caller hperform
    · exact ih hearlier

/-- `close` returns true to the first caller, and only to it. -/
theorem Execution.countP_hasClosed {events : List (QueueEvent Caller Value)}
    {queue : BoundedQueue Value} (h : Execution capacity hcapacity events queue) :
    events.countP QueueEvent.hasClosed = if closeCalled events then 1 else 0 := by
  induction h with
  | start => rfl
  | step caller hbefore hperform ih =>
    rw [List.countP_append, List.countP_singleton, ih, closeCalled_concat]
    cases BoundedQueue.performs_of_eq hperform with
    | closed => simp [QueueEvent.hasClosed, QueueCall.isClose]
    | full => simp [QueueEvent.hasClosed, QueueCall.isClose]
    | enqueued => simp [QueueEvent.hasClosed, QueueCall.isClose]
    | tryDequeue => simp [QueueEvent.hasClosed, QueueCall.isClose]
    | waitDequeue => simp [QueueEvent.hasClosed, QueueCall.isClose]
    | close =>
      rw [hbefore.tracks.isClosed]
      cases closeCalled _ <;> simp [QueueEvent.hasClosed, QueueCall.isClose]

-- ---------------------------------------------------------------------------
-- Draining
-- ---------------------------------------------------------------------------

/-- On a closed queue a dequeue of either kind completes, and pops. -/
theorem Tracks.perform_dequeue {events : List (QueueEvent Caller Value)}
    {queue : BoundedQueue Value} (h : Tracks capacity events queue)
    (hclosed : closeCalled events = true) {call : QueueCall Value}
    (hcall : call.isDequeue = true) :
    queue.perform call = some (.dequeue queue.tryDequeue.1, queue.tryDequeue.2) := by
  rw [← h.isClosed] at hclosed
  cases call with
  | tryEnqueue value => simp [QueueCall.isDequeue] at hcall
  | tryDequeue => rfl
  | waitDequeue =>
    simp [BoundedQueue.perform, BoundedQueue.waitDequeue, BoundedQueue.ready, hclosed]
  | close => simp [QueueCall.isDequeue] at hcall

/-- After a close, any dequeues by any callers complete, and hand out the content
of the queue front to back. -/
theorem Execution.drain {events : List (QueueEvent Caller Value)} {queue : BoundedQueue Value}
    (h : Execution capacity hcapacity events queue) (hclosed : closeCalled events = true)
    (calls : List (Caller × QueueCall Value)) (hcalls : ∀ call ∈ calls, call.2.isDequeue = true) :
    ∃ later final, Execution capacity hcapacity (events ++ later) final ∧
      later.map (fun event => (event.caller, event.call)) = calls ∧
      handedOut later = queue.queue.take calls.length := by
  induction calls generalizing events queue with
  | nil => exact ⟨[], queue, by rwa [List.append_nil], rfl, rfl⟩
  | cons first rest ih =>
    obtain ⟨caller, call⟩ := first
    have hdequeue : call.isDequeue = true := hcalls (caller, call) List.mem_cons_self
    have hnext := h.step caller (h.tracks.perform_dequeue hclosed hdequeue)
    have hstill : closeCalled
        (events ++ [⟨caller, call, .dequeue queue.tryDequeue.1⟩]) = true := by
      rw [closeCalled_concat, hclosed, Bool.true_or]
    obtain ⟨later, final, hfinal, hmap, hhanded⟩ :=
      ih hnext hstill fun other hother => hcalls other (List.mem_cons_of_mem _ hother)
    refine ⟨⟨caller, call, .dequeue queue.tryDequeue.1⟩ :: later, final, ?_, ?_, ?_⟩
    · rw [List.append_assoc] at hfinal
      exact hfinal
    · rw [List.map_cons, hmap]
    · have hsplit : handedOut (⟨caller, call, .dequeue queue.tryDequeue.1⟩ :: later) =
          queue.queue.head?.toList ++ handedOut later := by
        rw [handedOut, List.filterMap_cons]
        cases queue with
        | mk capacity content isClosed _ _ => cases content <;> rfl
      rw [hsplit, hhanded]
      cases hcontent : queue.queue with
      | nil => simp [BoundedQueue.tryDequeue, hcontent]
      | cons front back => simp [BoundedQueue.tryDequeue, hcontent]

/-- **A bounded first-in first-out queue**, whatever the interleaving of its
callers: the accepted values are those handed out followed by the content, which
never exceeds the capacity; every return value is true of the calls before it; one
`close` returns true; and a closed queue can be drained. -/
theorem fifo_history {events : List (QueueEvent Caller Value)} {queue : BoundedQueue Value}
    (h : Execution capacity hcapacity events queue) :
    accepted events = handedOut events ++ queue.queue ∧
      queue.queue.length ≤ capacity ∧
      (∀ front event back, events = front ++ event :: back → Lawful capacity front event) ∧
      events.countP QueueEvent.hasClosed = (if closeCalled events then 1 else 0) ∧
      (closeCalled events = true → ∀ calls : List (Caller × QueueCall Value),
        (∀ call ∈ calls, call.2.isDequeue = true) →
        ∃ later final, Execution capacity hcapacity (events ++ later) final ∧
          later.map (fun event => (event.caller, event.call)) = calls ∧
          handedOut later = queue.queue.take calls.length) := by
  refine ⟨h.tracks.conserved, ?_, fun _ _ _ hsplit => h.lawful hsplit, h.countP_hasClosed,
    h.drain⟩
  have hlength := queue.length_le
  rwa [h.tracks.capacity] at hlength

namespace QueueExample

/-- A producer fills a queue of one, is refused, and closes it; of two consumers
one gets the value and the other learns of the close. -/
def shutdown : List (QueueEvent Nat Nat) :=
  [⟨0, .tryEnqueue 7, .enqueue .enqueued⟩, ⟨0, .tryEnqueue 8, .enqueue .full⟩,
   ⟨0, .close, .close true⟩, ⟨1, .waitDequeue, .dequeue (some 7)⟩,
   ⟨2, .waitDequeue, .dequeue none⟩]

theorem execution_shutdown :
    Execution 1 Nat.one_pos shutdown ⟨1, [], true, Nat.one_pos, Nat.zero_le 1⟩ := by
  have haccepted : Execution 1 Nat.one_pos (shutdown.take 1) _ := .step 0 .start rfl
  have hrefused : Execution 1 Nat.one_pos (shutdown.take 2) _ := .step 0 haccepted rfl
  have hclosed : Execution 1 Nat.one_pos (shutdown.take 3) _ := .step 0 hrefused rfl
  have htaken : Execution 1 Nat.one_pos (shutdown.take 4) _ := .step 1 hclosed rfl
  exact .step 2 htaken rfl

end QueueExample

/-- After the shutdown the accepted value has been handed out. -/
theorem fifo_history_shutdown :
    accepted QueueExample.shutdown = handedOut QueueExample.shutdown ++ [] :=
  (fifo_history QueueExample.execution_shutdown).1

end Execution

end SiliconSwitch.Asic
