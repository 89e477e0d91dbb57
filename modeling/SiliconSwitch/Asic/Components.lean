import SiliconSwitch.Switching.Pipeline

/-!
# Components of the software ASIC

`BoundedQueue`, `FaultInjector` and `TrafficStatistics`.

The queue carries its capacity bound, the injector a nonnegative latency. A
traffic counter is an exact natural number; the sequence number of the injector,
which its periods divide, is the 64-bit integer of the source.

* `tryEnqueue_spec` — an accepted value is appended, a refused one changes nothing;
* `process_snd`, `process_ok` — every packet advances the injector by one, and a
  packet that passes keeps its length.
-/

namespace SiliconSwitch.Asic

open SiliconSwitch.Library SiliconSwitch.Network SiliconSwitch.Routing

-- ---------------------------------------------------------------------------
-- Bounded queues
-- ---------------------------------------------------------------------------

inductive QueueEnqueueResult
  | enqueued
  | full
  | closed
deriving DecidableEq

structure BoundedQueue (Value : Type) where
  capacity : Nat
  queue : List Value
  isClosed : Bool
  capacity_pos : 0 < capacity
  length_le : queue.length ≤ capacity

namespace BoundedQueue

variable {Value : Type}

def create (capacity : Nat) (hcapacity : 0 < capacity) : BoundedQueue Value where
  capacity
  queue := []
  isClosed := false
  capacity_pos := hcapacity
  length_le := Nat.zero_le capacity

def tryEnqueue (queue : BoundedQueue Value) (value : Value) :
    QueueEnqueueResult × BoundedQueue Value :=
  if queue.isClosed then (.closed, queue)
  else if hfull : queue.queue.length ≥ queue.capacity then (.full, queue)
  else
    (.enqueued,
     { queue with
       queue := queue.queue ++ [value]
       length_le := by rw [List.length_append, List.length_singleton]; omega })

def tryDequeue (queue : BoundedQueue Value) : Option Value × BoundedQueue Value :=
  (queue.queue.head?,
   { queue with
     queue := queue.queue.tail
     length_le := by rw [List.length_tail]; have := queue.length_le; omega })

def close (queue : BoundedQueue Value) : Bool × BoundedQueue Value :=
  (!queue.isClosed, { queue with isClosed := true })

/-- The predicate that `wait_dequeue` waits for. -/
def ready (queue : BoundedQueue Value) : Bool := queue.isClosed || !queue.queue.isEmpty

/-- `wait_dequeue` each time it holds the lock: it pops once its predicate is true,
and waits on (`none`) until then. -/
def waitDequeue (queue : BoundedQueue Value) : Option (Option Value × BoundedQueue Value) :=
  if queue.ready then some queue.tryDequeue else none

/-- Whether `try_enqueue` would accept a value. -/
def admits (queue : BoundedQueue Value) : Bool :=
  !queue.isClosed && queue.queue.length < queue.capacity

/-- An accepted value goes to the back; a refused one leaves the queue alone. -/
theorem tryEnqueue_spec (queue : BoundedQueue Value) (value : Value) :
    ((queue.tryEnqueue value).1 = .enqueued ↔ queue.admits = true) ∧
      (queue.tryEnqueue value).2.queue =
        (if queue.admits then queue.queue ++ [value] else queue.queue) ∧
      (queue.tryEnqueue value).2.capacity = queue.capacity ∧
      (queue.tryEnqueue value).2.isClosed = queue.isClosed := by
  rw [tryEnqueue, admits]
  split
  · rename_i hclosed
    simp [hclosed]
  · rename_i hopen
    split
    · rename_i hfull
      simp [hfull]
    · rename_i hroom
      simp [hopen, Nat.lt_of_not_ge hroom]

end BoundedQueue

/-- `PacketQueue`. -/
abbrev PacketQueue : Type := BoundedQueue (List UInt8)

-- ---------------------------------------------------------------------------
-- Fault injection
-- ---------------------------------------------------------------------------

structure FaultInjectionConfig where
  failedPorts : Finset PortId := ∅
  dropEveryNthPacket : UInt64 := 0
  corruptEveryNthPacket : UInt64 := 0
  latency : Duration := 0
  resourceExhausted : Bool := false

inductive FaultDropReason
  | failedPort
  | deterministicPacketLoss
  | resourceExhaustion
deriving DecidableEq

structure FaultInjectedPacket where
  bytes : List UInt8
  latency : Duration
  corrupted : Bool
deriving DecidableEq

structure FaultInjector where
  config : FaultInjectionConfig
  processedPackets : UInt64
  latency_nonneg : 0 ≤ config.latency

namespace FaultInjector

def create : FaultInjector := ⟨{}, 0, Int.le_refl 0⟩

/-- `++processed_packets_`. -/
def advance (injector : FaultInjector) : FaultInjector :=
  { injector with processedPackets := injector.processedPackets + 1 }

/-- `every_nth != 0 && processed_packets_ % every_nth == 0`. -/
def isDue (injector : FaultInjector) (everyNth : UInt64) : Bool :=
  everyNth != 0 && injector.processedPackets % everyNth == 0

/-- `packet.front() ^= 0x01`. -/
def corruptFront : List UInt8 → List UInt8
  | [] => []
  | front :: rest => (front ^^^ 0x01) :: rest

/-- What happens to a packet once the sequence number has been advanced. -/
def inject (injector : FaultInjector) (port : PortId) (packet : List UInt8) :
    Except FaultDropReason FaultInjectedPacket :=
  if port ∈ injector.config.failedPorts then .error .failedPort
  else if injector.config.resourceExhausted then .error .resourceExhaustion
  else if injector.isDue injector.config.dropEveryNthPacket then .error .deterministicPacketLoss
  else if !packet.isEmpty && injector.isDue injector.config.corruptEveryNthPacket then
    .ok ⟨corruptFront packet, injector.config.latency, true⟩
  else .ok ⟨packet, injector.config.latency, false⟩

def process (injector : FaultInjector) (port : PortId) (packet : List UInt8) :
    Except FaultDropReason FaultInjectedPacket × FaultInjector :=
  let injector := injector.advance
  (injector.inject port packet, injector)

/-- `set_config`, which throws for a negative latency. -/
def setConfig (injector : FaultInjector) (config : FaultInjectionConfig) : Option FaultInjector :=
  if h : config.latency < 0 then none
  else some { injector with config, latency_nonneg := Int.not_lt.mp h }

def resetSequence (injector : FaultInjector) : FaultInjector :=
  { injector with processedPackets := 0 }

@[simp] theorem process_snd (injector : FaultInjector) (port : PortId) (packet : List UInt8) :
    (injector.process port packet).2 = injector.advance := rfl

@[simp] theorem advance_config (injector : FaultInjector) :
    injector.advance.config = injector.config := rfl

theorem length_corruptFront (packet : List UInt8) :
    (corruptFront packet).length = packet.length := by
  cases packet <;> rfl

/-- A packet that passes keeps its length and takes the configured latency. -/
theorem process_ok {injector : FaultInjector} {port : PortId} {packet : List UInt8}
    {injected : FaultInjectedPacket} (h : (injector.process port packet).1 = .ok injected) :
    injected.bytes.length = packet.length ∧ injected.latency = injector.config.latency := by
  rw [process, inject] at h
  split at h
  · simp at h
  · split at h
    · simp at h
    · split at h
      · simp at h
      · split at h
        · rw [Except.ok.injEq] at h
          subst h
          exact ⟨length_corruptFront packet, rfl⟩
        · rw [Except.ok.injEq] at h
          subst h
          exact ⟨rfl, rfl⟩

/-- A packet that passes uncorrupted passes unchanged. -/
theorem process_uncorrupted {injector : FaultInjector} {port : PortId} {packet : List UInt8}
    {injected : FaultInjectedPacket} (h : (injector.process port packet).1 = .ok injected)
    (hcorrupted : injected.corrupted = false) : injected.bytes = packet := by
  rw [process, inject] at h
  split_ifs at h with hfailed hexhausted hdropped hdue
  · rw [Except.ok.injEq] at h
    subst h
    simp at hcorrupted
  · rw [Except.ok.injEq] at h
    subst h
    rfl

end FaultInjector

namespace FaultInjectionConfig

/-- A configuration that injects no faults: the one of a fresh injector, up to
its latency. -/
structure Disabled (config : FaultInjectionConfig) : Prop where
  failedPorts : config.failedPorts = ∅
  dropEveryNthPacket : config.dropEveryNthPacket = 0
  corruptEveryNthPacket : config.corruptEveryNthPacket = 0
  resourceExhausted : config.resourceExhausted = false

end FaultInjectionConfig

/-- Without faults every packet passes unchanged. -/
theorem FaultInjector.process_of_disabled {injector : FaultInjector}
    (h : injector.config.Disabled) (port : PortId) (packet : List UInt8) :
    (injector.process port packet).1 = .ok ⟨packet, injector.config.latency, false⟩ := by
  simp [process, inject, isDue, h.failedPorts, h.dropEveryNthPacket, h.corruptEveryNthPacket,
    h.resourceExhausted]

-- ---------------------------------------------------------------------------
-- Traffic statistics
-- ---------------------------------------------------------------------------

inductive TrafficCounter
  | ingressPackets
  | ingressBytes
  | egressPackets
  | egressBytes
  | parseErrors
  | routeMisses
  | ttlExpirations
  | vlanDrops
  | neighborMisses
  | filteredFrames
  | queueDrops
  | faultDrops
  | corruptedPackets
  | resourceExhaustion
deriving DecidableEq

structure TrafficStatistics where
  counters : TrafficCounter → Nat

namespace TrafficStatistics

def create : TrafficStatistics := ⟨fun _ => 0⟩

def get (statistics : TrafficStatistics) (counter : TrafficCounter) : Nat :=
  statistics.counters counter

def increment (statistics : TrafficStatistics) (counter : TrafficCounter) (amount : Nat) :
    TrafficStatistics :=
  ⟨fun other => if other = counter then statistics.counters other + amount
    else statistics.counters other⟩

theorem get_increment (statistics : TrafficStatistics) (counter other : TrafficCounter)
    (amount : Nat) :
    (statistics.increment counter amount).get other =
      statistics.get other + if other = counter then amount else 0 := by
  by_cases h : other = counter
  · simp [increment, get, h]
  · simp [increment, get, h]

end TrafficStatistics

end SiliconSwitch.Asic
