import SiliconSwitch.Asic.Invariants
import SiliconSwitch.Library.Channel

/-!
# Egress conservation

Frames enter a queue in `enqueue_outputs`, while the port and the device count them,
and leave it in `dequeue_packet`. The runs here carry a ledger of the life of every
port, kept apart from queues and counters, so that "enqueued" is a fact about the calls.

* `books_enqueueOutput` — one iteration of the egress loop keeps the books;
* `books_step` — so does every call;
* `egress_conservation` — what the books say of every run;
* `counted_before` — a port whose counters were not zero when it was created.
-/

namespace SiliconSwitch.Asic.SoftwareAsic

open SiliconSwitch.Library SiliconSwitch.Network SiliconSwitch.Routing SiliconSwitch.Switching

-- ---------------------------------------------------------------------------
-- Lifetimes
-- ---------------------------------------------------------------------------

/-- The life of a port, from the call of `create_port` that made it. -/
structure Lifetime where
  id : PortId
  /-- The counters of the port that `create_port` was given. -/
  opened : PortCounters
  capacity : Nat
  removed : Bool
  enqueued : List (List UInt8)
  dequeued : List (List UInt8)

/-- The port that is living this life. -/
def Lifetime.key (lifetime : Lifetime) : Option PortId :=
  if lifetime.removed then none else some lifetime.id

/-- The lives of all ports that ever existed, in the order of their creation. -/
abbrev Ledger : Type := List Lifetime

/-- The life of the port that has this identifier now. -/
abbrev Ledger.life (ledger : Ledger) (id : PortId) : Option Lifetime :=
  current Lifetime.key id ledger

theorem Ledger.life_concat (ledger : Ledger) (lifetime : Lifetime) (id : PortId) :
    Ledger.life (ledger ++ [lifetime]) id =
      (ledger.life id).or (if lifetime.key = some id then some lifetime else none) :=
  current_concat lifetime

/-- The number of octets in a list of frames. -/
def totalSize (frames : List (List UInt8)) : Nat := (frames.map List.length).sum

theorem totalSize_concat (frames : List (List UInt8)) (frame : List UInt8) :
    totalSize (frames ++ [frame]) = totalSize frames + frame.length := by
  simp [totalSize]

/-- What a call does to a port. -/
inductive PortEvent
  | created (port : VirtualPort) (capacity : Nat)
  | removed (id : PortId)
  | enqueued (id : PortId) (bytes : List UInt8)
  | dequeued (id : PortId) (bytes : List UInt8)

namespace Lifetime

def remove (lifetime : Lifetime) : Lifetime := { lifetime with removed := true }

def enqueue (bytes : List UInt8) (lifetime : Lifetime) : Lifetime :=
  { lifetime with enqueued := lifetime.enqueued ++ [bytes] }

def dequeue (bytes : List UInt8) (lifetime : Lifetime) : Lifetime :=
  { lifetime with dequeued := lifetime.dequeued ++ [bytes] }

end Lifetime

def Ledger.record (ledger : Ledger) : PortEvent → Ledger
  | .created port capacity => ledger ++ [⟨port.id, port.counters, capacity, false, [], []⟩]
  | .removed id => updateCurrent Lifetime.key id Lifetime.remove ledger
  | .enqueued id bytes => updateCurrent Lifetime.key id (Lifetime.enqueue bytes) ledger
  | .dequeued id bytes => updateCurrent Lifetime.key id (Lifetime.dequeue bytes) ledger

-- ---------------------------------------------------------------------------
-- The events of a call
-- ---------------------------------------------------------------------------

/-- The frame that the iteration for port `id` enqueues, if its `try_enqueue` accepts one. -/
def enqueueEvent (frame : List UInt8) (loop : EgressLoop) (id : PortId) : Option PortEvent :=
  match copyFate loop.asic loop.asic.faultInjector frame id with
  | .enqueued bytes => some (.enqueued id bytes)
  | _ => none

/-- The events of the loop of `enqueue_outputs`, iteration by iteration. -/
def loopEvents (frame : List UInt8) : EgressLoop → List PortId → List PortEvent
  | _, [] => []
  | loop, id :: rest =>
    (enqueueEvent frame loop id).toList ++ loopEvents frame (enqueueOutput frame loop id) rest

def packetEvents (asic : SoftwareAsic) (ingressPort : PortId) (bytes : List UInt8)
    (now : TimePoint) : List PortEvent :=
  match asic.ingress ingressPort bytes now with
  | (.error _, _) => []
  | (.ok request, asic) => loopEvents request.frame ⟨asic, request.latency, []⟩ request.requested

def events (asic : SoftwareAsic) : Operation → List PortEvent
  | .createPort port capacity =>
    if (asic.createPort port capacity).1 = .success then [.created port capacity] else []
  | .removePort id =>
    match (asic.removePort id).1 with
    | .ok .success => [.removed id]
    | _ => []
  | .processPacket ingressPort bytes now => asic.packetEvents ingressPort bytes now
  | .dequeuePacket id => ((asic.dequeuePacket id).1.map (PortEvent.dequeued id)).toList
  | _ => []

/-- A call of the device, entered into the ledger. -/
def ledgerStep (state : SoftwareAsic × Ledger) (operation : Operation) : SoftwareAsic × Ledger :=
  (state.1.step operation, (state.1.events operation).foldl Ledger.record state.2)

/-- The ledger does not show in the device. -/
theorem run_ledgerStep_fst (state : SoftwareAsic × Ledger) (operations : List Operation) :
    (run ledgerStep state operations).1 = run step state.1 operations := by
  induction operations generalizing state with
  | nil => rfl
  | cons operation rest ih => exact ih (ledgerStep state operation)

-- ---------------------------------------------------------------------------
-- The books
-- ---------------------------------------------------------------------------

/-- A port and its queue agree with its life so far. -/
structure Balanced (port : VirtualPort) (queue : PacketQueue) (lifetime : Lifetime) : Prop where
  conserved : Conserved lifetime.enqueued lifetime.dequeued queue.queue
  capacity : queue.capacity = lifetime.capacity
  packets : port.counters.transmittedPackets =
    lifetime.opened.transmittedPackets + lifetime.enqueued.length
  bytes : port.counters.transmittedBytes =
    lifetime.opened.transmittedBytes + totalSize lifetime.enqueued

/-- The device agrees with the ledger. -/
structure Books (asic : SoftwareAsic) (ledger : Ledger) : Prop where
  nodup : (ledger.filterMap Lifetime.key).Nodup
  absent : ∀ id, asic.ports.find? id = none →
    asic.queues.find? id = none ∧ ledger.life id = none
  present : ∀ id port, asic.ports.find? id = some port → ∃ queue lifetime,
    asic.queues.find? id = some queue ∧ ledger.life id = some lifetime ∧
      Balanced port queue lifetime
  packets : asic.statistics.get .egressPackets =
    (ledger.map fun lifetime => lifetime.enqueued.length).sum
  bytes : asic.statistics.get .egressBytes =
    (ledger.map fun lifetime => totalSize lifetime.enqueued).sum

theorem books_create (capacity : Nat) (hcapacity : 0 < capacity) :
    Books (create capacity hcapacity) [] where
  nodup := List.nodup_nil
  absent := fun _ _ => ⟨rfl, rfl⟩
  present := by
    intro id port hport
    simp [create] at hport
  packets := rfl
  bytes := rfl

/-- What a port has transmitted. -/
def transmitted (port : VirtualPort) : Nat × Nat :=
  (port.counters.transmittedPackets, port.counters.transmittedBytes)

theorem Balanced.of_transmitted {before after : VirtualPort} {queue : PacketQueue}
    {lifetime : Lifetime} (h : Balanced before queue lifetime)
    (hsame : transmitted after = transmitted before) : Balanced after queue lifetime := by
  rw [transmitted, transmitted, Prod.mk.injEq] at hsame
  exact ⟨h.conserved, h.capacity, hsame.1.trans h.packets, hsame.2.trans h.bytes⟩

/-- What neither enqueues nor dequeues keeps the books. -/
theorem Books.of_same {before after : SoftwareAsic} {ledger : Ledger} (h : Books before ledger)
    (hports : ∀ id, (after.ports.find? id).map transmitted =
      (before.ports.find? id).map transmitted)
    (hqueues : ∀ id, after.queues.find? id = before.queues.find? id)
    (hpackets : after.statistics.get .egressPackets = before.statistics.get .egressPackets)
    (hbytes : after.statistics.get .egressBytes = before.statistics.get .egressBytes) :
    Books after ledger where
  nodup := h.nodup
  absent := by
    intro id hnone
    have hbefore := hports id
    rw [hnone, Option.map_none, eq_comm, Option.map_eq_none_iff] at hbefore
    rw [hqueues]
    exact h.absent id hbefore
  present := by
    intro id port hport
    have hbefore := hports id
    rw [hport, Option.map_some, eq_comm, Option.map_eq_some_iff] at hbefore
    obtain ⟨earlier, hearlier, hsame⟩ := hbefore
    obtain ⟨queue, lifetime, hqueue, hlife, hbalanced⟩ := h.present id earlier hearlier
    rw [hqueues]
    exact ⟨queue, lifetime, hqueue, hlife, hbalanced.of_transmitted hsame.symm⟩
  packets := hpackets.trans h.packets
  bytes := hbytes.trans h.bytes

/-- A change to one port, its queue and its life keeps the books if all three agree on it,
and the device counts what the life gains. -/
theorem Books.of_update {before after : SoftwareAsic} {ledger : Ledger} (h : Books before ledger)
    {id : PortId} {update : Lifetime → Lifetime} {port updated : VirtualPort}
    {queue changed : PacketQueue} {packets bytes : Nat}
    (hport : before.ports.find? id = some port) (hqueue : before.queues.find? id = some queue)
    (hports : ∀ other, after.ports.find? other =
      if other = id then some updated else before.ports.find? other)
    (hqueues : ∀ other, after.queues.find? other =
      if other = id then some changed else before.queues.find? other)
    (hkey : ∀ lifetime : Lifetime, (update lifetime).key = lifetime.key)
    (hbalanced : ∀ lifetime, Balanced port queue lifetime →
      Balanced updated changed (update lifetime))
    (hpackets : after.statistics.get .egressPackets =
      before.statistics.get .egressPackets + packets)
    (hbytes : after.statistics.get .egressBytes = before.statistics.get .egressBytes + bytes)
    (hgained : ∀ lifetime : Lifetime,
      (update lifetime).enqueued.length = lifetime.enqueued.length + packets ∧
        totalSize (update lifetime).enqueued = totalSize lifetime.enqueued + bytes) :
    Books after (updateCurrent Lifetime.key id update ledger) := by
  have hkept : ∀ lifetime : Lifetime, lifetime.key = some id → (update lifetime).key = some id :=
    fun lifetime hlive => (hkey lifetime).trans hlive
  have hother : ∀ other, other ≠ id →
      Ledger.life (updateCurrent Lifetime.key id update ledger) other = ledger.life other := by
    intro other hne
    refine current_updateCurrent_of_ne hne fun lifetime hlive hcontra => hne ?_
    rw [hkept lifetime hlive, Option.some.injEq] at hcontra
    exact hcontra.symm
  obtain ⟨found, lifetime, hfound, hlife, hfirst⟩ := h.present id port hport
  rw [hqueue, Option.some.injEq] at hfound
  subst hfound
  exact {
    nodup := by
      rw [filterMap_updateCurrent hkept]
      exact h.nodup
    absent := by
      intro other hnone
      rw [hports] at hnone
      split at hnone
      · simp at hnone
      · rename_i hne
        rw [hqueues, if_neg hne, hother other hne]
        exact h.absent other hnone
    present := by
      intro other found hfound
      rw [hports] at hfound
      split at hfound
      · rename_i heq
        subst heq
        rw [Option.some.injEq] at hfound
        subst hfound
        have hupdated : Ledger.life (updateCurrent Lifetime.key other update ledger) other =
            (ledger.life other).map update := current_updateCurrent_self hkept
        rw [hlife, Option.map_some] at hupdated
        exact ⟨changed, update lifetime, by rw [hqueues, if_pos rfl], hupdated,
          hbalanced _ hfirst⟩
      · rename_i hne
        rw [hqueues, if_neg hne, hother other hne]
        exact h.present other found hfound
    packets := by
      rw [hpackets, h.packets]
      exact (sum_updateCurrent (fun lifetime => lifetime.enqueued.length) hlife
        (hgained lifetime).1).symm
    bytes := by
      rw [hbytes, h.bytes]
      exact (sum_updateCurrent (fun lifetime => totalSize lifetime.enqueued) hlife
        (hgained lifetime).2).symm }

-- ---------------------------------------------------------------------------
-- The egress loop
-- ---------------------------------------------------------------------------

/-- An operational port counts a transmission that its MTU admits, and no other. -/
theorem transmitted_transmit (port : VirtualPort) (size : Nat) :
    transmitted (port.transmit size).2 =
      if port.operational = true ∧ size ≤ port.mtu then
        (port.counters.transmittedPackets + 1, port.counters.transmittedBytes + size)
      else transmitted port := by
  rw [VirtualPort.transmit]
  cases hup : port.operational with
  | false => simp [transmitted, VirtualPort.withCounters]
  | true =>
    by_cases hlarge : size > port.mtu
    · simp [transmitted, VirtualPort.withCounters, hlarge, Nat.not_le_of_gt hlarge]
    · simp [transmitted, VirtualPort.withCounters, hlarge, Nat.le_of_not_gt hlarge]

/-- An accepted copy has the length of its frame, which the port's MTU admits. -/
theorem of_copyFate_enqueued {asic : SoftwareAsic} {injector : FaultInjector}
    {frame copied : List UInt8} {id : PortId}
    (h : copyFate asic injector frame id = .enqueued copied) :
    ∃ port queue, asic.ports.find? id = some port ∧ port.operational = true ∧
      asic.queues.find? id = some queue ∧ queue.admits = true ∧
      copied.length = frame.length ∧ frame.length ≤ port.mtu := by
  obtain ⟨port, queue, packet, hport, hup, hqueue, hinject, rfl, hfits, hroom⟩ :=
    copyFate_eq_enqueued.mp h
  have hlength : packet.bytes.length = frame.length := (FaultInjector.process_ok hinject).1
  exact ⟨port, queue, hport, hup, hqueue, hroom, hlength, hlength ▸ hfits⟩

/-- The MTU of a port is less than the length of an oversized copy's frame: the injector
keeps the length. -/
theorem mtu_lt_of_copyFate_oversized {asic : SoftwareAsic} {injector : FaultInjector}
    {frame : List UInt8} {id : PortId} {port : VirtualPort}
    (hport : asic.ports.find? id = some port)
    (h : copyFate asic injector frame id = .oversized) : port.mtu < frame.length := by
  have havailable : copyFate asic injector frame id ≠ .unavailable := by
    rw [h]
    simp
  obtain ⟨found, queue, hfound, _, _, hcases⟩ := copyFate_available havailable
  rw [hport, Option.some.injEq] at hfound
  subst hfound
  rw [h] at hcases
  cases hinject : (injector.process id frame).1 with
  | error reason => simp [hinject] at hcases
  | ok packet =>
    have hlength : packet.bytes.length = frame.length := (FaultInjector.process_ok hinject).1
    rw [hinject] at hcases
    dsimp only at hcases
    split at hcases
    · rename_i hlarge
      rwa [hlength] at hlarge
    · split at hcases <;> simp at hcases

/-- An iteration that enqueues nothing leaves what its port has transmitted. -/
theorem transmitted_onPort {asic : SoftwareAsic} {injector : FaultInjector}
    {frame : List UInt8} {id : PortId} {port : VirtualPort}
    (hport : asic.ports.find? id = some port)
    (hfate : (copyFate asic injector frame id).isEnqueued = false) :
    transmitted ((copyFate asic injector frame id).onPort frame.length port) =
      transmitted port := by
  cases hcase : copyFate asic injector frame id with
  | enqueued copied => simp [hcase, CopyFate.isEnqueued] at hfate
  | unavailable | faulted | congested => rfl
  | oversized =>
    -- the size that was tested is the size that `transmit` tests again
    have hlarge : port.mtu < frame.length := mtu_lt_of_copyFate_oversized hport hcase
    rw [CopyFate.onPort, transmitted_transmit, if_neg fun h => Nat.not_le_of_gt hlarge h.2]

/-- The octets that the device counts in one iteration. -/
theorem enqueueOutput_egressBytes (frame : List UInt8) (loop : EgressLoop) (id : PortId) :
    (enqueueOutput frame loop id).asic.statistics.get .egressBytes =
      loop.asic.statistics.get .egressBytes +
        match copyFate loop.asic loop.asic.faultInjector frame id with
        | .enqueued copied => copied.length
        | _ => 0 := by
  rw [enqueueOutput, copyFate]
  cases hport : loop.asic.ports.find? id with
  | none => rfl
  | some port =>
    cases hqueue : loop.asic.queues.find? id with
    | none => rfl
    | some queue =>
      dsimp only
      cases hup : port.operational with
      | false => rfl
      | true =>
        simp only [Bool.not_true, Bool.false_eq_true, if_false, injectFault]
        cases hinject : (loop.asic.faultInjector.process id frame).1 with
        | error reason =>
          have hcounter : TrafficCounter.egressBytes ≠ faultCounter reason := by
            cases reason <;> decide
          simp [count, increment, TrafficStatistics.get_increment, hcounter]
        | ok packet =>
          dsimp only
          by_cases hlarge : packet.bytes.length > port.mtu
          · rw [if_pos hlarge, if_pos hlarge]
            exact countCorruption_statistics _ packet (by decide)
          · rw [if_neg hlarge, if_neg hlarge]
            have hspec := BoundedQueue.tryEnqueue_spec queue packet.bytes
            generalize queue.tryEnqueue packet.bytes = attempt at hspec
            obtain ⟨outcome, queued⟩ := attempt
            dsimp only at hspec ⊢
            have hcorrupted : TrafficCounter.egressBytes ≠ .corruptedPackets := by decide
            cases outcome with
            | enqueued =>
              rw [if_pos (hspec.1.mp rfl)]
              simp [count, increment, setPort, setQueue, TrafficStatistics.get_increment,
                countCorruption_statistics _ packet hcorrupted]
            | full | closed =>
              rw [if_neg fun hroom => by simpa using hspec.1.mpr hroom]
              simp [count, increment, TrafficStatistics.get_increment,
                countCorruption_statistics _ packet hcorrupted]

/-- A frame that is accepted goes to the back of the queue and of the life. -/
theorem Balanced.enqueue {port : VirtualPort} {queue : PacketQueue} {lifetime : Lifetime}
    (h : Balanced port queue lifetime) {frame copied : List UInt8}
    (hup : port.operational = true) (hroom : queue.admits = true)
    (hlength : copied.length = frame.length) (hfits : frame.length ≤ port.mtu) :
    Balanced ((CopyFate.enqueued copied).onPort frame.length port)
      ((CopyFate.enqueued copied).onQueue queue) (lifetime.enqueue copied) := by
  have hcounted := transmitted_transmit port frame.length
  rw [if_pos ⟨hup, hfits⟩, transmitted, Prod.mk.injEq] at hcounted
  have hspec := BoundedQueue.tryEnqueue_spec queue copied
  exact {
    conserved := by
      rw [CopyFate.onQueue, hspec.2.1, if_pos hroom]
      exact h.conserved.push copied
    capacity := hspec.2.2.1.trans h.capacity
    packets := by
      rw [CopyFate.onPort, hcounted.1, h.packets]
      simp [Lifetime.enqueue, Nat.add_assoc]
    bytes := by
      rw [CopyFate.onPort, hcounted.2, h.bytes, Lifetime.enqueue, totalSize_concat, hlength,
        Nat.add_assoc] }

/-- An iteration that enqueues nothing keeps the books. -/
theorem Books.of_not_enqueued {frame : List UInt8} {loop : EgressLoop} {ledger : Ledger}
    (h : Books loop.asic ledger) {id : PortId}
    (hfate : (copyFate loop.asic loop.asic.faultInjector frame id).isEnqueued = false) :
    Books (enqueueOutput frame loop id).asic ledger := by
  have heffect := enqueueOutput_effect frame loop id
  have hpackets := heffect.statistics .egressPackets (by decide)
  have hbytes := enqueueOutput_egressBytes frame loop id
  refine h.of_same (fun other => ?_) (fun other => ?_) ?_ ?_
  · rw [heffect.ports]
    split
    · rename_i heq
      subst heq
      cases hport : loop.asic.ports.find? other with
      | none => rfl
      | some port =>
        rw [Option.map_some, Option.map_some, Option.map_some, transmitted_onPort hport hfate]
    · rfl
  · rw [heffect.queues]
    split
    · rename_i heq
      subst heq
      cases hcase : copyFate loop.asic loop.asic.faultInjector frame other with
      | enqueued copied => simp [hcase, CopyFate.isEnqueued] at hfate
      | _ => exact Option.map_id' ..
    · rfl
  · have hcounter : (copyFate loop.asic loop.asic.faultInjector frame id).counter ≠
        some .egressPackets := by
      cases hcase : copyFate loop.asic loop.asic.faultInjector frame id with
      | enqueued copied => simp [hcase, CopyFate.isEnqueued] at hfate
      | faulted reason => cases reason <;> decide
      | unavailable | oversized | congested => decide
    rw [hpackets, if_neg hcounter, Nat.add_zero]
  · rw [hbytes]
    cases hcase : copyFate loop.asic loop.asic.faultInjector frame id with
    | enqueued copied => simp [hcase, CopyFate.isEnqueued] at hfate
    | _ => rfl

/-- **One iteration of the egress loop keeps the books.** -/
theorem books_enqueueOutput {frame : List UInt8} {loop : EgressLoop} {ledger : Ledger}
    (h : Books loop.asic ledger) (id : PortId) :
    Books (enqueueOutput frame loop id).asic
      ((enqueueEvent frame loop id).toList.foldl Ledger.record ledger) := by
  have heffect := enqueueOutput_effect frame loop id
  have hpackets := heffect.statistics .egressPackets (by decide)
  have hbytes := enqueueOutput_egressBytes frame loop id
  unfold enqueueEvent
  cases hfate : copyFate loop.asic loop.asic.faultInjector frame id with
  | enqueued copied =>
    rw [hfate] at heffect hpackets hbytes
    obtain ⟨port, queue, hport, hup, hqueue, hroom, hlength, hfits⟩ := of_copyFate_enqueued hfate
    exact h.of_update hport hqueue
      (fun other => by rw [heffect.ports, hport, Option.map_some])
      (fun other => by rw [heffect.queues, hqueue, Option.map_some])
      (fun _ => rfl) (fun _ hbalanced => hbalanced.enqueue hup hroom hlength hfits)
      hpackets hbytes
      fun lifetime => ⟨by simp [Lifetime.enqueue, CopyFate.counter],
        totalSize_concat lifetime.enqueued copied⟩
  | faulted | unavailable | oversized | congested =>
    exact h.of_not_enqueued (by rw [hfate]; rfl)

/-- The whole loop keeps the books. -/
theorem books_foldl_enqueueOutput {frame : List UInt8} (requested : List PortId)
    {loop : EgressLoop} {ledger : Ledger} (h : Books loop.asic ledger) :
    Books (requested.foldl (enqueueOutput frame) loop).asic
      ((loopEvents frame loop requested).foldl Ledger.record ledger) := by
  induction requested generalizing loop ledger with
  | nil => exact h
  | cons id rest ih =>
    rw [List.foldl_cons, loopEvents, List.foldl_append]
    exact ih (books_enqueueOutput h id)

-- ---------------------------------------------------------------------------
-- The calls
-- ---------------------------------------------------------------------------

/-- A call that touches neither ports, queues nor statistics. -/
theorem Books.of_frame {before after : SoftwareAsic} {ledger : Ledger} (h : Books before ledger)
    (hports : after.ports = before.ports) (hqueues : after.queues = before.queues)
    (hstatistics : after.statistics = before.statistics) : Books after ledger :=
  h.of_same (fun _ => by rw [hports]) (fun _ => by rw [hqueues]) (by rw [hstatistics])
    (by rw [hstatistics])

/-- The body of `process_packet` receives a frame, and transmits none. -/
theorem books_ingress {asic : SoftwareAsic} {ledger : Ledger} (h : Books asic ledger)
    (ingressPort : PortId) (bytes : List UInt8) (now : TimePoint) :
    Books (asic.ingress ingressPort bytes now).2 ledger := by
  obtain ⟨hleaves, _, hports⟩ := ingress_leaves asic ingressPort bytes now
  have hcounter : ∀ counter, counter ∉ arrivalCounters → counter ∉ Verdict.dropCounters →
      (asic.ingress ingressPort bytes now).2.statistics.get counter =
        asic.statistics.get counter := by
    intro counter harrival hdrop
    rw [hleaves.statistics counter harrival,
      if_neg fun heq => hdrop (Verdict.counter_mem_dropCounters _ heq), Nat.add_zero]
  refine h.of_same (fun id => ?_) (fun id => by rw [hleaves.queues])
    (hcounter _ (by decide) (by decide)) (hcounter _ (by decide) (by decide))
  rw [hports, receivedPorts]
  cases hpresented : asic.presented ingressPort bytes with
  | error early => rfl
  | ok presented =>
    obtain ⟨port, frame⟩ := presented
    dsimp only
    rw [Table.find?_set]
    split
    · rename_i heq
      rw [heq, (presented_ok hpresented).1, Option.map_some, Option.map_some]
      -- the counters of reception are others
      congr 1
      rw [VirtualPort.receive]
      split
      · rfl
      · split <;> rfl
    · rfl

theorem books_processPacket {asic : SoftwareAsic} {ledger : Ledger} (h : Books asic ledger)
    (ingressPort : PortId) (bytes : List UInt8) (now : TimePoint) :
    Books (asic.processPacket ingressPort bytes now).2
      ((asic.packetEvents ingressPort bytes now).foldl Ledger.record ledger) := by
  have hingress := books_ingress h ingressPort bytes now
  unfold processPacket packetEvents
  generalize asic.ingress ingressPort bytes now = reached at hingress
  obtain ⟨outcome, left⟩ := reached
  cases outcome with
  | error result => exact hingress
  | ok request =>
    have hloop : Books (request.requested.foldl (enqueueOutput request.frame)
        ⟨left, request.latency, []⟩).asic
        ((loopEvents request.frame ⟨left, request.latency, []⟩ request.requested).foldl
          Ledger.record ledger) :=
      books_foldl_enqueueOutput request.requested hingress
    dsimp only [enqueueOutputs]
    split
    · exact hloop
    · exact hloop

/-- The front of the queue goes to the end of what the life has dequeued. -/
theorem Balanced.dequeue {port : VirtualPort} {queue : PacketQueue} {lifetime : Lifetime}
    (h : Balanced port queue lifetime) {front : List UInt8}
    (hfront : queue.queue.head? = some front) :
    Balanced port queue.tryDequeue.2 (lifetime.dequeue front) where
  conserved := by
    have hpop := h.conserved.pop
    rwa [hfront, Option.toList_some] at hpop
  capacity := h.capacity
  packets := h.packets
  bytes := h.bytes

theorem books_dequeuePacket {asic : SoftwareAsic} {ledger : Ledger} (h : Books asic ledger)
    (id : PortId) :
    Books (asic.dequeuePacket id).2
      (((asic.dequeuePacket id).1.map (PortEvent.dequeued id)).toList.foldl Ledger.record
        ledger) := by
  rw [dequeuePacket]
  cases hqueue : asic.queues.find? id with
  | none => exact h
  | some queue =>
    cases hfront : queue.queue.head? with
    | none =>
      -- an empty queue is written back as it was
      have hsame : queue.tryDequeue = (none, queue) := by
        obtain ⟨capacity, content, closed, _, _⟩ := queue
        rw [List.head?_eq_none_iff] at hfront
        dsimp only at hfront
        subst hfront
        rfl
      dsimp only
      rw [hsame]
      refine h.of_same (fun _ => rfl) (fun other => ?_) rfl rfl
      dsimp only [setQueue]
      rw [Table.find?_set]
      split
      · rename_i heq
        rw [heq, hqueue]
      · rfl
    | some front =>
      cases hport : asic.ports.find? id with
      | none =>
        rw [(h.absent id hport).1] at hqueue
        simp at hqueue
      | some port =>
        have hout : queue.tryDequeue.1 = some front := hfront
        dsimp only
        rw [hout]
        refine h.of_update hport hqueue (fun other => ?_) (Table.find?_set _ _ · _)
          (fun _ => rfl) (fun _ hbalanced => hbalanced.dequeue hfront) (Nat.add_zero _).symm
          (Nat.add_zero _).symm fun _ => ⟨(Nat.add_zero _).symm, (Nat.add_zero _).symm⟩
        split
        · rename_i heq
          rw [heq]
          exact hport
        · rfl

/-- A port that begins its life. -/
theorem Balanced.created (port : VirtualPort) (capacity : Nat) (hcapacity : 0 < capacity) :
    Balanced port (BoundedQueue.create capacity hcapacity)
      ⟨port.id, port.counters, capacity, false, [], []⟩ :=
  ⟨Conserved.nil, rfl, rfl, rfl⟩

theorem books_createPort {asic : SoftwareAsic} {ledger : Ledger} (h : Books asic ledger)
    (port : VirtualPort) (capacity : Nat) :
    Books (asic.createPort port capacity).2
      ((asic.events (.createPort port capacity)).foldl Ledger.record ledger) := by
  rw [events, createPort]
  split
  · exact h
  · rename_i hcapacity
    cases hport : asic.ports.find? port.id with
    | some existing => exact h
    | none =>
      obtain ⟨hqueue, hlife⟩ := h.absent port.id hport
      dsimp only
      rw [if_pos rfl, List.foldl_cons, List.foldl_nil, Ledger.record,
        Table.find?_emplace_of_none _ hport, Table.find?_emplace_of_none _ hqueue]
      generalize hnew : (⟨port.id, port.counters, capacity, false, [], []⟩ : Lifetime) = new
      have hkey : new.key = some port.id := by rw [← hnew]; rfl
      have hempty : new.enqueued = [] := by rw [← hnew]
      have hself : Ledger.life (ledger ++ [new]) port.id = some new := by
        rw [Ledger.life_concat, hlife, if_pos hkey, Option.none_or]
      have hother : ∀ other, other ≠ port.id →
          Ledger.life (ledger ++ [new]) other = ledger.life other := by
        intro other hne
        rw [Ledger.life_concat, hkey, if_neg (by simpa using Ne.symm hne), Option.or_none]
      exact {
        nodup := by
          rw [List.filterMap_append, List.filterMap_cons, hkey, List.filterMap_nil]
          refine List.Nodup.append h.nodup (List.nodup_singleton _) ?_
          simpa using current_eq_none.mp hlife
        absent := by
          intro id hnone
          rw [Table.find?_set] at hnone ⊢
          split at hnone
          · simp at hnone
          · rename_i hne
            rw [if_neg hne, hother id hne]
            exact h.absent id hnone
        present := by
          intro id found hfound
          rw [Table.find?_set] at hfound ⊢
          split at hfound
          · rename_i heq
            rw [Option.some.injEq] at hfound
            subst heq hfound
            rw [if_pos rfl]
            refine ⟨_, new, rfl, hself, ?_⟩
            rw [← hnew]
            exact Balanced.created port capacity (Nat.pos_of_ne_zero hcapacity)
          · rename_i hne
            rw [if_neg hne, hother id hne]
            exact h.present id found hfound
        packets := by
          rw [List.map_append, List.sum_append, List.map_singleton, hempty]
          exact h.packets
        bytes := by
          rw [List.map_append, List.sum_append, List.map_singleton, hempty]
          exact h.bytes }

theorem books_removePort {asic : SoftwareAsic} {ledger : Ledger} (h : Books asic ledger)
    (id : PortId) :
    Books (asic.removePort id).2 ((asic.events (.removePort id)).foldl Ledger.record ledger) := by
  rw [events, removePort]
  cases hport : asic.ports.find? id with
  | none => exact h
  | some port =>
    obtain ⟨queue, lifetime, hqueue, hlife, _⟩ := h.present id port hport
    dsimp only
    rw [hqueue]
    dsimp only
    rw [List.foldl_cons, List.foldl_nil, Ledger.record]
    have hclosed : ∀ lifetime : Lifetime, lifetime.key = some id → lifetime.remove.key = none :=
      fun _ _ => rfl
    have hother : ∀ other, other ≠ id →
        Ledger.life (updateCurrent Lifetime.key id Lifetime.remove ledger) other =
          ledger.life other := by
      intro other hne
      exact current_updateCurrent_of_ne hne fun lifetime hlive => by simp [hclosed lifetime hlive]
    have hheld : (updateCurrent Lifetime.key id Lifetime.remove ledger).filterMap Lifetime.key =
        (ledger.filterMap Lifetime.key).erase id := filterMap_updateCurrent_of_none hclosed
    exact {
      nodup := by
        rw [hheld]
        exact h.nodup.erase id
      absent := by
        intro other hnone
        rw [Table.find?_erase] at hnone ⊢
        split at hnone
        · rename_i heq
          subst heq
          rw [if_pos rfl]
          refine ⟨rfl, current_eq_none.mpr ?_⟩
          rw [hheld]
          exact h.nodup.not_mem_erase
        · rename_i hne
          rw [if_neg hne, hother other hne]
          exact h.absent other hnone
      present := by
        intro other found hfound
        rw [Table.find?_erase] at hfound ⊢
        split at hfound
        · simp at hfound
        · rename_i hne
          rw [if_neg hne, hother other hne]
          exact h.present other found hfound
      packets := by
        rw [sum_updateCurrent (fun lifetime => lifetime.enqueued.length) hlife
          (Nat.add_zero _).symm]
        exact h.packets
      bytes := by
        rw [sum_updateCurrent (fun lifetime => totalSize lifetime.enqueued) hlife
          (Nat.add_zero _).symm]
        exact h.bytes }

theorem books_setPortState {asic : SoftwareAsic} {ledger : Ledger} (h : Books asic ledger)
    (id : PortId) (admin link : Bool) : Books (asic.setPortState id admin link).2 ledger := by
  rw [setPortState]
  cases hport : asic.ports.find? id with
  | none => exact h
  | some port =>
    refine h.of_same (fun other => ?_) (fun _ => rfl) rfl rfl
    dsimp only
    rw [Table.find?_set]
    split
    · rename_i heq
      rw [heq, hport]
      rfl
    · rfl

/-- **Every call keeps the books.** -/
theorem books_step {asic : SoftwareAsic} {ledger : Ledger} (h : Books asic ledger)
    (operation : Operation) :
    Books (asic.step operation) ((asic.events operation).foldl Ledger.record ledger) := by
  have hports := @step_frame asic operation .ports
  have hqueues := @step_frame asic operation .queues
  have hstatistics := @step_frame asic operation .statistics
  cases operation with
  | createPort port capacity => exact books_createPort h port capacity
  | removePort id => exact books_removePort h id
  | setPortState id admin link => exact books_setPortState h id admin link
  | processPacket ingressPort bytes now => exact books_processPacket h ingressPort bytes now
  | dequeuePacket id => exact books_dequeuePacket h id
  | _ => exact h.of_frame (hports rfl) (hqueues rfl) (hstatistics rfl)

-- ---------------------------------------------------------------------------
-- Runs
-- ---------------------------------------------------------------------------

/-- A fresh device after some calls, with its ledger. -/
def recorded (capacity : Nat) (hcapacity : 0 < capacity) (operations : List Operation) :
    SoftwareAsic × Ledger :=
  run ledgerStep (create capacity hcapacity, []) operations

theorem books_recorded (capacity : Nat) (hcapacity : 0 < capacity) (operations : List Operation) :
    Books (recorded capacity hcapacity operations).1 (recorded capacity hcapacity operations).2 :=
  run_invariant (I := fun state : SoftwareAsic × Ledger => Books state.1 state.2)
    (fun _ operation h => books_step h operation) (books_create capacity hcapacity) operations

/-- **Egress conservation and order**, in every run: the frames enqueued in the life of a
port are those dequeued and then those in its queue, which keeps to its capacity; the
port has counted them on top of what it had counted before its life, the device those
of all lives. A frame that `try_enqueue` accepts is never refused by `transmit`. -/
theorem egress_conservation (capacity : Nat) (hcapacity : 0 < capacity)
    (operations : List Operation) :
    let asic := (recorded capacity hcapacity operations).1
    let ledger := (recorded capacity hcapacity operations).2
    asic = run step (create capacity hcapacity) operations ∧
      (∀ id port, asic.ports.find? id = some port → ∃ queue lifetime,
        asic.queues.find? id = some queue ∧ ledger.life id = some lifetime ∧
          lifetime.enqueued = lifetime.dequeued ++ queue.queue ∧
          queue.capacity = lifetime.capacity ∧ queue.queue.length ≤ lifetime.capacity ∧
          port.counters.transmittedPackets =
            lifetime.opened.transmittedPackets + lifetime.enqueued.length ∧
          port.counters.transmittedBytes =
            lifetime.opened.transmittedBytes + totalSize lifetime.enqueued) ∧
      asic.statistics.get .egressPackets =
        (ledger.map fun lifetime => lifetime.enqueued.length).sum ∧
      asic.statistics.get .egressBytes =
        (ledger.map fun lifetime => totalSize lifetime.enqueued).sum ∧
      ∀ (frame : List UInt8) (loop : EgressLoop) (id : PortId) (copied : List UInt8),
        copyFate loop.asic loop.asic.faultInjector frame id = .enqueued copied →
        ∃ port queue, loop.asic.ports.find? id = some port ∧
          loop.asic.queues.find? id = some queue ∧ (queue.tryEnqueue copied).1 = .enqueued ∧
          (port.transmit copied.length).1 = true := by
  have hbooks := books_recorded capacity hcapacity operations
  refine ⟨run_ledgerStep_fst _ operations, ?_, hbooks.packets, hbooks.bytes, ?_⟩
  · intro id port hport
    obtain ⟨queue, lifetime, hqueue, hlife, hbalanced⟩ := hbooks.present id port hport
    refine ⟨queue, lifetime, hqueue, hlife, hbalanced.conserved, hbalanced.capacity, ?_,
      hbalanced.packets, hbalanced.bytes⟩
    rw [← hbalanced.capacity]
    exact queue.length_le
  · intro frame loop id copied henqueued
    obtain ⟨port, queue, hport, hup, hqueue, hroom, hlength, hfits⟩ :=
      of_copyFate_enqueued henqueued
    refine ⟨port, queue, hport, hqueue, (BoundedQueue.tryEnqueue_spec queue copied).1.mpr hroom, ?_⟩
    rw [hlength, VirtualPort.transmit, hup, Bool.not_true, if_neg Bool.false_ne_true,
      if_neg (Nat.not_lt_of_le hfits)]

namespace Example

/-- A flood from the first port, and the copy taken off the queue of the second. -/
def floodAndDequeue : List Operation :=
  twoPorts ++ [.processPacket firstPort (frameBytes 1 2 []) 0, .dequeuePacket secondPort]

/-- A port that was used before the device was given it. -/
def usedPort : VirtualPort := ((accessPort firstPort).transmit 100).2

end Example

open Example in
/-- The one frame of the run is in the sums of the device. -/
theorem egress_conservation_floodAndDequeue :
    ((recorded 8 (by decide) floodAndDequeue).2.map fun lifetime => lifetime.enqueued.length).sum =
      1 := by
  have hpackets := (egress_conservation 8 (by decide) floodAndDequeue).2.2.1
  exact hpackets.symm.trans (by decide +kernel)

/-- The counters of every port are those of the frames enqueued on it. -/
def CountsEnqueued (asic : SoftwareAsic) (ledger : Ledger) : Prop :=
  ∀ id port lifetime, asic.ports.find? id = some port → ledger.life id = some lifetime →
    port.counters.transmittedPackets = lifetime.enqueued.length ∧
      port.counters.transmittedBytes = totalSize lifetime.enqueued

open Example in
/-- `create_port` takes the port over with its counters. -/
theorem counted_before :
    ¬ CountsEnqueued (recorded 8 (by decide) [.createPort usedPort 4]).1
      (recorded 8 (by decide) [.createPort usedPort 4]).2 := by
  intro hcounts
  have hpackets := (hcounts firstPort usedPort
    ⟨firstPort, usedPort.counters, 4, false, [], []⟩ rfl rfl).1
  exact absurd hpackets (by decide)

end SiliconSwitch.Asic.SoftwareAsic
