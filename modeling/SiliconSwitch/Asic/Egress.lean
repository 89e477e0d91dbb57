import SiliconSwitch.Asic.Verdict

/-!
# The copies of a packet

`copyFate` classifies one iteration of the loop of `enqueue_outputs`, and
`copies` all of them, as functions of the state before the call.

* `copyEffect_oversized`, `copyEffect_enqueued`, `copyEffect_congested` — the ends of a
  copy that the injector passes on;
* `enqueueOutput_effect` — what an iteration does for each fate;
* `foldl_enqueueOutput` — over distinct ports, the loop does what `copies` says;
* `processPacket_result`, `processPacket_statistics` — the result and the
  statistics of a whole call, from its exit and its copies.
-/

namespace SiliconSwitch.Asic

open SiliconSwitch.Library SiliconSwitch.Network SiliconSwitch.Routing SiliconSwitch.Switching

-- ---------------------------------------------------------------------------
-- One copy
-- ---------------------------------------------------------------------------

inductive CopyFate
  | unavailable
  | faulted (reason : FaultDropReason)
  | oversized
  | congested
  | enqueued (bytes : List UInt8)
deriving DecidableEq

namespace CopyFate

def counter : CopyFate → Option TrafficCounter
  | faulted reason => some (SoftwareAsic.faultCounter reason)
  | congested => some .queueDrops
  | enqueued _ => some .egressPackets
  | unavailable | oversized => none

def isEnqueued : CopyFate → Bool
  | enqueued _ => true
  | _ => false

/-- The injector is called for every copy to an operational port. -/
def injectorAfter (fate : CopyFate) (injector : FaultInjector) : FaultInjector :=
  if fate = unavailable then injector else injector.advance

def onPort (fate : CopyFate) (size : Nat) (port : VirtualPort) : VirtualPort :=
  match fate with
  | oversized | enqueued _ => (port.transmit size).2
  | _ => port

def onQueue (fate : CopyFate) (queue : PacketQueue) : PacketQueue :=
  match fate with
  | enqueued bytes => (queue.tryEnqueue bytes).2
  | _ => queue

end CopyFate

namespace SoftwareAsic

/-- What happens to the copy for port `id`. -/
def copyFate (asic : SoftwareAsic) (injector : FaultInjector) (frame : List UInt8)
    (id : PortId) : CopyFate :=
  match asic.ports.find? id, asic.queues.find? id with
  | some port, some queue =>
    if !port.operational then .unavailable
    else
      match (injector.process id frame).1 with
      | .error reason => .faulted reason
      | .ok packet =>
        if packet.bytes.length > port.mtu then .oversized
        else if queue.admits then .enqueued packet.bytes
        else .congested
  | _, _ => .unavailable

/-- The counters that a copy moves beside the one of its fate. -/
def copyCounters : List TrafficCounter := [.egressBytes, .corruptedPackets]

/-- The iteration for port `id`, from `before` to `after`, when its copy meets `fate`. -/
structure CopyEffect (frame : List UInt8) (id : PortId) (fate : CopyFate)
    (before after : EgressLoop) : Prop where
  outputs : after.outputs = if fate.isEnqueued then before.outputs ++ [id] else before.outputs
  faultInjector : after.asic.faultInjector = fate.injectorAfter before.asic.faultInjector
  statistics : ∀ counter, counter ∉ copyCounters → after.asic.statistics.get counter =
    before.asic.statistics.get counter + if fate.counter = some counter then 1 else 0
  ports : ∀ other, after.asic.ports.find? other =
    if other = id then (before.asic.ports.find? id).map (fate.onPort frame.length)
    else before.asic.ports.find? other
  queues : ∀ other, after.asic.queues.find? other =
    if other = id then (before.asic.queues.find? id).map fate.onQueue
    else before.asic.queues.find? other

/-- An iteration that leaves ports, queues and outputs alone. -/
theorem CopyEffect.of_same {frame : List UInt8} {id : PortId} {fate : CopyFate}
    {before after : EgressLoop} (henqueued : fate.isEnqueued = false)
    (honPort : ∀ port, fate.onPort frame.length port = port)
    (honQueue : ∀ queue, fate.onQueue queue = queue)
    (houtputs : after.outputs = before.outputs) (hports : after.asic.ports = before.asic.ports)
    (hqueues : after.asic.queues = before.asic.queues)
    (hinjector : after.asic.faultInjector = fate.injectorAfter before.asic.faultInjector)
    (hstatistics : ∀ counter, counter ∉ copyCounters → after.asic.statistics.get counter =
      before.asic.statistics.get counter + if fate.counter = some counter then 1 else 0) :
    CopyEffect frame id fate before after where
  outputs := by rw [houtputs, henqueued, if_neg Bool.false_ne_true]
  faultInjector := hinjector
  statistics := hstatistics
  ports := by
    intro other
    rw [hports, show fate.onPort frame.length = fun port => port from funext honPort,
      Option.map_id']
    split
    · rename_i heq
      rw [heq]
    · rfl
  queues := by
    intro other
    rw [hqueues, show fate.onQueue = fun queue => queue from funext honQueue, Option.map_id']
    split
    · rename_i heq
      rw [heq]
    · rfl

theorem countCorruption_faultInjector (asic : SoftwareAsic) (packet : FaultInjectedPacket) :
    (asic.countCorruption packet).faultInjector = asic.faultInjector := by
  rw [countCorruption]
  split <;> rfl

theorem countCorruption_statistics (asic : SoftwareAsic) (packet : FaultInjectedPacket)
    {counter : TrafficCounter} (h : counter ≠ .corruptedPackets) :
    (asic.countCorruption packet).statistics.get counter = asic.statistics.get counter := by
  rw [countCorruption]
  split
  · rw [count, increment, TrafficStatistics.get_increment, if_neg h, Nat.add_zero]
  · rfl

/-- Replacing the entry of a present key, read back. -/
theorem find?_set_map {ν : Type} {table : Table PortId ν} {id : PortId} {before after : ν}
    {update : ν → ν} (hfind : table.find? id = some before) (hafter : after = update before)
    (other : PortId) :
    (table.set id after).find? other =
      if other = id then (table.find? id).map update else table.find? other := by
  rw [Table.find?_set, hfind, hafter, Option.map_some]

/-- The device once the injector has passed a copy on. -/
def passedOn (asic : SoftwareAsic) (packet : FaultInjectedPacket) : SoftwareAsic :=
  countCorruption { asic with faultInjector := asic.faultInjector.advance } packet

section Copy

variable {frame : List UInt8} {loop : EgressLoop} {id : PortId} {port : VirtualPort}
  {queue queued : PacketQueue} {packet : FaultInjectedPacket}

theorem passedOn_statistics (asic : SoftwareAsic) (packet : FaultInjectedPacket)
    {counter : TrafficCounter} (h : counter ∉ copyCounters) :
    (passedOn asic packet).statistics.get counter = asic.statistics.get counter := by
  rw [copyCounters, List.mem_cons, List.mem_singleton, not_or] at h
  exact countCorruption_statistics _ packet h.2

theorem passedOn_ports (asic : SoftwareAsic) (packet : FaultInjectedPacket) :
    (passedOn asic packet).ports = asic.ports := countCorruption_ports ..

theorem passedOn_queues (asic : SoftwareAsic) (packet : FaultInjectedPacket) :
    (passedOn asic packet).queues = asic.queues := countCorruption_queues ..

/-- `transmit` has counted the copy that it refuses. -/
theorem copyEffect_oversized (hport : loop.asic.ports.find? id = some port)
    (hqueue : loop.asic.queues.find? id = some queue)
    (hlength : packet.bytes.length = frame.length) (latency : Duration) :
    CopyEffect frame id .oversized loop
      { loop with
        asic := (passedOn loop.asic packet).setPort id (port.transmit packet.bytes.length).2
        latency } where
  outputs := rfl
  faultInjector := countCorruption_faultInjector ..
  statistics := fun _ hcounter => passedOn_statistics loop.asic packet hcounter
  ports := by
    intro other
    simp only [setPort, passedOn_ports]
    exact find?_set_map hport (by rw [hlength]; rfl) other
  queues := by
    intro other
    simp only [setPort, passedOn_queues]
    split
    · rename_i heq
      rw [heq, hqueue]
      rfl
    · rfl

theorem copyEffect_enqueued (hport : loop.asic.ports.find? id = some port)
    (hqueue : loop.asic.queues.find? id = some queue)
    (hlength : packet.bytes.length = frame.length)
    (hattempt : queue.tryEnqueue packet.bytes = (.enqueued, queued)) (latency : Duration) :
    CopyEffect frame id (.enqueued packet.bytes) loop
      { asic := ((((passedOn loop.asic packet).setQueue id queued).setPort id
          (port.transmit packet.bytes.length).2).count .egressPackets).increment .egressBytes
            packet.bytes.length
        latency
        outputs := loop.outputs ++ [id] } where
  outputs := rfl
  faultInjector := countCorruption_faultInjector ..
  statistics := by
    intro counter hcounter
    have hpassed := passedOn_statistics loop.asic packet hcounter
    rw [copyCounters, List.mem_cons, List.mem_singleton, not_or] at hcounter
    simp only [count, increment, setPort, setQueue, TrafficStatistics.get_increment, hpassed,
      if_neg hcounter.1, CopyFate.counter, Option.some.injEq, eq_comm, Nat.add_zero]
  ports := by
    intro other
    simp only [count, increment, setPort, setQueue, passedOn_ports]
    exact find?_set_map hport (by rw [hlength]; rfl) other
  queues := by
    intro other
    simp only [count, increment, setPort, setQueue, passedOn_queues]
    exact find?_set_map hqueue (by rw [CopyFate.onQueue, hattempt]) other

theorem copyEffect_congested (latency : Duration) :
    CopyEffect frame id .congested loop
      { loop with asic := (passedOn loop.asic packet).count .queueDrops, latency } := by
  refine .of_same rfl (fun _ => rfl) (fun _ => rfl) rfl (passedOn_ports ..) (passedOn_queues ..)
    (countCorruption_faultInjector ..) ?_
  intro counter hcounter
  simp only [count, increment, TrafficStatistics.get_increment,
    passedOn_statistics loop.asic packet hcounter, CopyFate.counter, Option.some.injEq, eq_comm]

end Copy

/-- **One iteration of the egress loop does what the fate of its copy says.** -/
theorem enqueueOutput_effect (frame : List UInt8) (loop : EgressLoop) (id : PortId) :
    CopyEffect frame id (copyFate loop.asic loop.asic.faultInjector frame id) loop
      (enqueueOutput frame loop id) := by
  have hskip : CopyEffect frame id .unavailable loop loop :=
    .of_same rfl (fun _ => rfl) (fun _ => rfl) rfl rfl rfl rfl fun _ _ => rfl
  rw [enqueueOutput, copyFate]
  -- the iteration and the fate branch on the same tests in the same order
  cases hport : loop.asic.ports.find? id with
  | none => exact hskip
  | some port =>
    cases hqueue : loop.asic.queues.find? id with
    | none => exact hskip
    | some queue =>
      dsimp only
      cases hup : port.operational with
      | false => exact hskip
      | true =>
        simp only [Bool.not_true, Bool.false_eq_true, if_false, injectFault]
        cases hinject : (loop.asic.faultInjector.process id frame).1 with
        | error reason =>
          refine .of_same rfl (fun _ => rfl) (fun _ => rfl) rfl rfl rfl rfl fun counter _ => ?_
          simp only [count, increment, TrafficStatistics.get_increment, CopyFate.counter,
            Option.some.injEq, eq_comm]
        | ok packet =>
          have hlength := (FaultInjector.process_ok hinject).1
          dsimp only
          by_cases hlarge : packet.bytes.length > port.mtu
          · rw [if_pos hlarge, if_pos hlarge]
            exact copyEffect_oversized hport hqueue hlength _
          · rw [if_neg hlarge, if_neg hlarge]
            have hspec := BoundedQueue.tryEnqueue_spec queue packet.bytes
            cases hattempt : queue.tryEnqueue packet.bytes with
            | mk outcome queued =>
              rw [hattempt] at hspec
              cases outcome with
              | enqueued =>
                rw [if_pos (hspec.1.mp rfl)]
                exact copyEffect_enqueued hport hqueue hlength hattempt _
              -- a closed queue is counted as a full one
              | full | closed =>
                have hroom : ¬ queue.admits = true :=
                  fun hadmits => QueueEnqueueResult.noConfusion (hspec.1.mpr hadmits)
                rw [if_neg hroom]
                exact copyEffect_congested _

-- ---------------------------------------------------------------------------
-- All copies
-- ---------------------------------------------------------------------------

/-- The requested ports with the fates of their copies, in order. -/
def copies (asic : SoftwareAsic) (injector : FaultInjector) (frame : List UInt8) :
    List PortId → List (PortId × CopyFate)
  | [] => []
  | id :: rest =>
    let fate := copyFate asic injector frame id
    (id, fate) :: copies asic (fate.injectorAfter injector) frame rest

/-- The ports whose copies were enqueued. -/
def accepted (copies : List (PortId × CopyFate)) : List PortId :=
  (copies.filter fun copy => copy.2.isEnqueued).map Prod.fst

/-- The number of copies that incremented `counter`. -/
def countCopies (counter : TrafficCounter) (copies : List (PortId × CopyFate)) : Nat :=
  copies.countP fun copy => copy.2.counter = some counter

/-- A copy's fate depends on its port's configuration and its queue only. -/
theorem copyFate_congr {before after : SoftwareAsic} (h : SameProgramming before after)
    {id : PortId} (hqueue : after.queues.find? id = before.queues.find? id)
    (injector : FaultInjector) (frame : List UInt8) :
    copyFate after injector frame id = copyFate before injector frame id := by
  rw [copyFate, copyFate, hqueue]
  cases hport : before.ports.find? id with
  | none => rw [(h.port_none_iff id).mpr hport]
  | some port =>
    obtain ⟨current, hcurrent, hsame⟩ := h.port_of_some hport
    cases before.queues.find? id with
    | none => rw [hcurrent]
    | some queue => simp only [hcurrent, hsame.operational, hsame.mtu]

theorem copies_congr {before after : SoftwareAsic} (h : SameProgramming before after)
    {requested : List PortId}
    (hqueues : ∀ id ∈ requested, after.queues.find? id = before.queues.find? id)
    (injector : FaultInjector) (frame : List UInt8) :
    copies after injector frame requested = copies before injector frame requested := by
  induction requested generalizing injector with
  | nil => rfl
  | cons id rest ih =>
    rw [copies, copies, copyFate_congr h (hqueues id (List.mem_cons_self ..)),
      ih fun other hother => hqueues other (List.mem_cons_of_mem _ hother)]

theorem map_fst_copies (asic : SoftwareAsic) (injector : FaultInjector) (frame : List UInt8)
    (requested : List PortId) : (copies asic injector frame requested).map Prod.fst = requested := by
  induction requested generalizing injector with
  | nil => rfl
  | cons id rest ih => rw [copies, List.map_cons, ih]

theorem injectorAfter_config (fate : CopyFate) (injector : FaultInjector) :
    (fate.injectorAfter injector).config = injector.config := by
  rw [CopyFate.injectorAfter]
  split <;> rfl

/-- Each copy's fate is decided by an injector of the configuration at hand. -/
theorem mem_copies {asic : SoftwareAsic} {injector : FaultInjector} {frame : List UInt8}
    {requested : List PortId} {id : PortId} {fate : CopyFate}
    (h : (id, fate) ∈ copies asic injector frame requested) :
    ∃ current : FaultInjector, current.config = injector.config ∧
      fate = copyFate asic current frame id := by
  induction requested generalizing injector with
  | nil => simp [copies] at h
  | cons head rest ih =>
    rw [copies, List.mem_cons, Prod.mk.injEq] at h
    rcases h with ⟨rfl, rfl⟩ | hrest
    · exact ⟨injector, rfl, rfl⟩
    · obtain ⟨current, hconfig, hfate⟩ := ih hrest
      exact ⟨current, hconfig.trans (injectorAfter_config ..), hfate⟩

/-- Only requested ports have copies. -/
theorem requested_of_mem_copies {asic : SoftwareAsic} {injector : FaultInjector}
    {frame : List UInt8} {requested : List PortId} {id : PortId} {fate : CopyFate}
    (h : (id, fate) ∈ copies asic injector frame requested) : id ∈ requested := by
  rw [← map_fst_copies asic injector frame requested]
  exact List.mem_map_of_mem h

/-- Every requested port has a copy. -/
theorem exists_mem_copies (asic : SoftwareAsic) (injector : FaultInjector) (frame : List UInt8)
    {requested : List PortId} {id : PortId} (h : id ∈ requested) :
    ∃ fate, (id, fate) ∈ copies asic injector frame requested := by
  rw [← map_fst_copies asic injector frame requested, List.mem_map] at h
  obtain ⟨⟨_, fate⟩, hmem, rfl⟩ := h
  exact ⟨fate, hmem⟩

/-- The copies still to make after the one for `id`. -/
theorem copies_enqueueOutput (frame : List UInt8) (loop : EgressLoop) {id : PortId}
    {rest : List PortId} (hnotMem : id ∉ rest) :
    copies (enqueueOutput frame loop id).asic (enqueueOutput frame loop id).asic.faultInjector
        frame rest =
      copies loop.asic ((copyFate loop.asic loop.asic.faultInjector frame id).injectorAfter
        loop.asic.faultInjector) frame rest := by
  have heffect := enqueueOutput_effect frame loop id
  rw [heffect.faultInjector]
  refine copies_congr (sameForwarding_enqueueOutput frame loop id).toSameProgramming ?_ _ frame
  intro other hother
  rw [heffect.queues, if_neg]
  rintro rfl
  exact hnotMem hother

/-- **Over distinct ports, the egress loop does what `copies` says**: it enqueues
the accepted copies and counts every copy by its fate. -/
theorem foldl_enqueueOutput (frame : List UInt8) {requested : List PortId}
    (hnodup : requested.Nodup) (loop : EgressLoop) :
    (requested.foldl (enqueueOutput frame) loop).outputs = loop.outputs ++
        accepted (copies loop.asic loop.asic.faultInjector frame requested) ∧
      ∀ counter, counter ∉ copyCounters →
        (requested.foldl (enqueueOutput frame) loop).asic.statistics.get counter =
          loop.asic.statistics.get counter + countCopies counter
            (copies loop.asic loop.asic.faultInjector frame requested) := by
  induction requested generalizing loop with
  | nil => simp [copies, accepted, countCopies]
  | cons id rest ih =>
    rw [List.nodup_cons] at hnodup
    have heffect := enqueueOutput_effect frame loop id
    have hrest := ih hnodup.2 (enqueueOutput frame loop id)
    -- an iteration leaves the later ports' fates as they were
    rw [copies_enqueueOutput frame loop hnodup.1] at hrest
    rw [List.foldl_cons, copies]
    generalize copyFate loop.asic loop.asic.faultInjector frame id = fate at heffect hrest
    constructor
    · rw [hrest.1, heffect.outputs, accepted, accepted, List.filter_cons]
      split <;> simp
    · intro counter hcounter
      rw [hrest.2 counter hcounter, heffect.statistics counter hcounter, countCopies, countCopies,
        List.countP_cons]
      simp only [decide_eq_true_eq]
      omega

/-- The loop leaves the other ports and queues alone. -/
theorem foldl_enqueueOutput_notMem (frame : List UInt8) {requested : List PortId} {id : PortId}
    (hnotMem : id ∉ requested) (loop : EgressLoop) :
    (requested.foldl (enqueueOutput frame) loop).asic.ports.find? id =
        loop.asic.ports.find? id ∧
      (requested.foldl (enqueueOutput frame) loop).asic.queues.find? id =
        loop.asic.queues.find? id := by
  induction requested generalizing loop with
  | nil => exact ⟨rfl, rfl⟩
  | cons head rest ih =>
    rw [List.mem_cons, not_or] at hnotMem
    have heffect := enqueueOutput_effect frame loop head
    have hrest := ih hnotMem.2 (enqueueOutput frame loop head)
    rw [List.foldl_cons, hrest.1, hrest.2, heffect.ports, heffect.queues, if_neg hnotMem.1,
      if_neg hnotMem.1]
    exact ⟨rfl, rfl⟩

/-- The port and the queue of a requested copy see that copy only. -/
theorem foldl_enqueueOutput_copy (frame : List UInt8) {requested : List PortId}
    (hnodup : requested.Nodup) (loop : EgressLoop) {id : PortId} {fate : CopyFate}
    (hcopy : (id, fate) ∈ copies loop.asic loop.asic.faultInjector frame requested) :
    (requested.foldl (enqueueOutput frame) loop).asic.ports.find? id =
        (loop.asic.ports.find? id).map (fate.onPort frame.length) ∧
      (requested.foldl (enqueueOutput frame) loop).asic.queues.find? id =
        (loop.asic.queues.find? id).map fate.onQueue := by
  induction requested generalizing loop with
  | nil => simp [copies] at hcopy
  | cons head rest ih =>
    have hrequested := hnodup
    rw [List.nodup_cons] at hnodup
    have heffect := enqueueOutput_effect frame loop head
    rw [copies, List.mem_cons, Prod.mk.injEq] at hcopy
    rw [List.foldl_cons]
    rcases hcopy with ⟨rfl, rfl⟩ | hrest
    · have hlater := foldl_enqueueOutput_notMem frame hnodup.1 (enqueueOutput frame loop id)
      rw [hlater.1, hlater.2, heffect.ports, heffect.queues, if_pos rfl, if_pos rfl]
      exact ⟨rfl, rfl⟩
    · have hmem : id ∈ rest := requested_of_mem_copies hrest
      have hne : id ≠ head := fun heq => hnodup.1 (heq ▸ hmem)
      have hnext := ih hnodup.2 (enqueueOutput frame loop head)
        (by rw [copies_enqueueOutput frame loop hnodup.1]; exact hrest)
      rw [hnext.1, hnext.2, heffect.ports, heffect.queues, if_neg hne, if_neg hne]
      exact ⟨rfl, rfl⟩

-- ---------------------------------------------------------------------------
-- Reading fates back
-- ---------------------------------------------------------------------------

theorem mem_accepted {copies : List (PortId × CopyFate)} {id : PortId} :
    id ∈ accepted copies ↔ ∃ bytes, (id, CopyFate.enqueued bytes) ∈ copies := by
  rw [accepted, List.mem_map]
  constructor
  · rintro ⟨⟨port, fate⟩, hmem, rfl⟩
    rw [List.mem_filter] at hmem
    cases fate with
    | enqueued bytes => exact ⟨bytes, hmem.1⟩
    | unavailable | faulted | oversized | congested => simp [CopyFate.isEnqueued] at hmem
  · rintro ⟨bytes, hmem⟩
    exact ⟨_, List.mem_filter.mpr ⟨hmem, rfl⟩, rfl⟩

theorem accepted_sublist (asic : SoftwareAsic) (injector : FaultInjector) (frame : List UInt8)
    (requested : List PortId) :
    (accepted (copies asic injector frame requested)).Sublist requested := by
  have hsublist := (List.filter_sublist (l := copies asic injector frame requested)
    (p := fun copy => copy.2.isEnqueued)).map Prod.fst
  rw [map_fst_copies] at hsublist
  exact hsublist

/-- A copy that is enqueued, oversized or congested goes to an operational port. -/
theorem copyFate_available {asic : SoftwareAsic} {injector : FaultInjector}
    {frame : List UInt8} {id : PortId}
    (h : copyFate asic injector frame id ≠ .unavailable) :
    ∃ port queue, asic.ports.find? id = some port ∧ port.operational = true ∧
      asic.queues.find? id = some queue ∧
      copyFate asic injector frame id =
        match (injector.process id frame).1 with
        | .error reason => .faulted reason
        | .ok packet =>
          if packet.bytes.length > port.mtu then .oversized
          else if queue.admits then .enqueued packet.bytes
          else .congested := by
  rw [copyFate] at h ⊢
  cases hport : asic.ports.find? id with
  | none => simp [hport] at h
  | some port =>
    cases hqueue : asic.queues.find? id with
    | none => simp [hport, hqueue] at h
    | some queue =>
      cases hup : port.operational with
      | false => simp [hport, hqueue, hup] at h
      | true =>
        refine ⟨port, queue, rfl, hup, rfl, ?_⟩
        simp only [hup, Bool.not_true, Bool.false_eq_true, if_false]

/-- What a copy has met that `try_enqueue` accepts. -/
theorem copyFate_eq_enqueued {asic : SoftwareAsic} {injector : FaultInjector}
    {frame copied : List UInt8} {id : PortId} :
    copyFate asic injector frame id = .enqueued copied ↔
      ∃ port queue packet, asic.ports.find? id = some port ∧ port.operational = true ∧
        asic.queues.find? id = some queue ∧ (injector.process id frame).1 = .ok packet ∧
        packet.bytes = copied ∧ copied.length ≤ port.mtu ∧ queue.admits = true := by
  constructor
  · intro henqueued
    have havailable : copyFate asic injector frame id ≠ .unavailable := by
      rw [henqueued]
      simp
    obtain ⟨port, queue, hport, hup, hqueue, hcases⟩ := copyFate_available havailable
    rw [henqueued] at hcases
    cases hinject : (injector.process id frame).1 with
    | error reason => simp [hinject] at hcases
    | ok packet =>
      rw [hinject] at hcases
      dsimp only at hcases
      split at hcases
      · simp at hcases
      · rename_i hfits
        split at hcases
        · rename_i hroom
          rw [CopyFate.enqueued.injEq] at hcases
          subst hcases
          exact ⟨port, queue, packet, hport, hup, hqueue, rfl, rfl, Nat.le_of_not_gt hfits, hroom⟩
        · simp at hcases
  · rintro ⟨port, queue, packet, hport, hup, hqueue, hinject, rfl, hfits, hroom⟩
    rw [copyFate, hport, hqueue]
    simp [hup, hinject, Nat.not_lt_of_le hfits, hroom]

/-- A copy that is not skipped goes to a requested port that is up. -/
theorem up_of_mem_copies {asic : SoftwareAsic} {injector : FaultInjector} {frame : List UInt8}
    {requested : List PortId} {id : PortId} {fate : CopyFate}
    (hcopy : (id, fate) ∈ copies asic injector frame requested)
    (havailable : fate ≠ .unavailable) :
    id ∈ requested ∧ ∃ port, asic.ports.find? id = some port ∧ port.operational = true := by
  obtain ⟨current, _, rfl⟩ := mem_copies hcopy
  obtain ⟨port, _, hport, hup, _⟩ := copyFate_available havailable
  exact ⟨requested_of_mem_copies hcopy, port, hport, hup⟩

/-- A copy to an operational port that has a queue is not skipped. -/
theorem copyFate_ne_unavailable {asic : SoftwareAsic} {injector : FaultInjector}
    {frame : List UInt8} {id : PortId} {port : VirtualPort} {queue : PacketQueue}
    (hport : asic.ports.find? id = some port) (hup : port.operational = true)
    (hqueue : asic.queues.find? id = some queue) :
    copyFate asic injector frame id ≠ .unavailable := by
  rw [copyFate, hport, hqueue]
  simp only [hup, Bool.not_true, Bool.false_eq_true, if_false]
  split
  · simp
  · split
    · simp
    · split <;> simp

/-- The iteration for a port meets the fate of its copy. -/
theorem copyFate_at_turn {frame : List UInt8} {front back : List PortId} {id : PortId}
    {fate : CopyFate} (hnodup : (front ++ id :: back).Nodup) (loop : EgressLoop)
    (hcopy : (id, fate) ∈ copies loop.asic loop.asic.faultInjector frame (front ++ id :: back)) :
    copyFate (front.foldl (enqueueOutput frame) loop).asic
      (front.foldl (enqueueOutput frame) loop).asic.faultInjector frame id = fate := by
  induction front generalizing loop with
  | nil =>
    rw [List.nil_append, List.nodup_cons] at hnodup
    rw [List.nil_append, copies, List.mem_cons, Prod.mk.injEq] at hcopy
    rcases hcopy with ⟨_, rfl⟩ | hlater
    · rfl
    · exact absurd (requested_of_mem_copies hlater) hnodup.1
  | cons head front ih =>
    rw [List.cons_append, List.nodup_cons] at hnodup
    rw [List.cons_append, copies, List.mem_cons, Prod.mk.injEq] at hcopy
    rw [List.foldl_cons]
    rcases hcopy with ⟨rfl, _⟩ | hlater
    · exact absurd (by simp) hnodup.1
    · exact ih hnodup.2 _ (by rw [copies_enqueueOutput frame loop hnodup.1]; exact hlater)

-- ---------------------------------------------------------------------------
-- A whole packet
-- ---------------------------------------------------------------------------

/-- The copies of a packet with this exit. -/
def requestedCopies (asic : SoftwareAsic) : Verdict → List (PortId × CopyFate)
  | .egress _ requested frame => copies asic asic.faultInjector.advance frame requested
  | _ => []

/-- An exit of another kind asks for no copies. -/
theorem requestedCopies_of_exit (asic : SoftwareAsic) {verdict : Verdict}
    (h : ∀ disposition requested frame, verdict ≠ .egress disposition requested frame) :
    requestedCopies asic verdict = [] := by
  cases verdict with
  | egress disposition requested frame => exact absurd rfl (h disposition requested frame)
  | _ => rfl

/-- The copies that a call of `process_packet` makes. -/
def packetCopies (asic : SoftwareAsic) (ingressPort : PortId) (bytes : List UInt8)
    (now : TimePoint) : List (PortId × CopyFate) :=
  requestedCopies asic (asic.verdict ingressPort bytes now)

/-- The result of a packet with this exit and these copies. -/
def packetResult (verdict : Verdict) (copies : List (PortId × CopyFate)) (latency : Duration) :
    PacketProcessingResult :=
  match verdict with
  | .egress disposition .. =>
    if (accepted copies).isEmpty then dropped .queueCongestion latency
    else ⟨disposition, .none, accepted copies, latency⟩
  | verdict => ⟨verdict.disposition, verdict.dropReason, [], latency⟩

/-- The loop of `enqueue_outputs` starts from a state whose copies are the
packet's. -/
theorem copies_of_leaves {asic : SoftwareAsic} {disposition : PacketDisposition}
    {requested : List PortId} {frame : List UInt8}
    {after : Except PacketProcessingResult EgressRequest × SoftwareAsic}
    (h : Leaves (.egress disposition requested frame) asic after) :
    copies after.2 after.2.faultInjector frame requested =
      requestedCopies asic (.egress disposition requested frame) := by
  rw [h.faultInjector, if_neg (by simp)]
  exact copies_congr h.programming (fun id _ => by rw [h.queues]) _ frame

/-- A packet that asks for copies ends in `enqueue_outputs`. -/
theorem processPacket_enqueues {asic : SoftwareAsic} {ingressPort : PortId} {bytes : List UInt8}
    {now : TimePoint} {disposition : PacketDisposition} {requested : List PortId}
    {frame : List UInt8}
    (hverdict : asic.verdict ingressPort bytes now = .egress disposition requested frame) :
    ∃ latency, asic.processPacket ingressPort bytes now =
      (asic.ingress ingressPort bytes now).2.enqueueOutputs disposition requested frame
        latency := by
  have hleaves := (ingress_leaves asic ingressPort bytes now).1
  rw [hverdict] at hleaves
  obtain ⟨latency, hrequest⟩ := hleaves.reports
  refine ⟨latency, ?_⟩
  unfold processPacket
  generalize asic.ingress ingressPort bytes now = after at hrequest
  obtain ⟨outcome, left⟩ := after
  dsimp only at hrequest
  subst hrequest
  rfl

/-- Any other packet ends in the body, with the result of its exit. -/
theorem processPacket_exits {asic : SoftwareAsic} {ingressPort : PortId} {bytes : List UInt8}
    {now : TimePoint}
    (hexit : ∀ disposition requested frame,
      asic.verdict ingressPort bytes now ≠ .egress disposition requested frame) :
    ∃ latency, asic.processPacket ingressPort bytes now =
      (⟨(asic.verdict ingressPort bytes now).disposition,
        (asic.verdict ingressPort bytes now).dropReason, [], latency⟩,
       (asic.ingress ingressPort bytes now).2) := by
  have hleaves := (ingress_leaves asic ingressPort bytes now).1
  unfold processPacket
  generalize asic.ingress ingressPort bytes now = after at hleaves
  obtain ⟨outcome, left⟩ := after
  cases hverdict : asic.verdict ingressPort bytes now with
  | egress disposition requested frame => exact absurd hverdict (hexit disposition requested frame)
  | _ =>
    rw [hverdict] at hleaves
    obtain ⟨latency, hresult⟩ := hleaves.reports
    dsimp only at hresult
    subst hresult
    exact ⟨latency, rfl⟩

/-- The copies of a packet, made from the state that the body leaves. -/
theorem copies_of_verdict {asic : SoftwareAsic} {ingressPort : PortId} {bytes : List UInt8}
    {now : TimePoint} {disposition : PacketDisposition} {requested : List PortId}
    {frame : List UInt8}
    (hverdict : asic.verdict ingressPort bytes now = .egress disposition requested frame) :
    copies (asic.ingress ingressPort bytes now).2
        (asic.ingress ingressPort bytes now).2.faultInjector frame requested =
      copies asic asic.faultInjector.advance frame requested := by
  have hleaves := (ingress_leaves asic ingressPort bytes now).1
  rw [hverdict] at hleaves
  exact copies_of_leaves hleaves

/-- **The result of `process_packet`**, from the exit and the copies. -/
theorem processPacket_result (asic : SoftwareAsic) (ingressPort : PortId) (bytes : List UInt8)
    (now : TimePoint) :
    ∃ latency, (asic.processPacket ingressPort bytes now).1 =
      packetResult (asic.verdict ingressPort bytes now)
        (asic.packetCopies ingressPort bytes now) latency := by
  cases hverdict : asic.verdict ingressPort bytes now with
  | egress disposition requested frame =>
    have hnodup : requested.Nodup := (nodup_of_verdict_egress hverdict).1
    obtain ⟨latency, henqueues⟩ := processPacket_enqueues hverdict
    have hloop := (foldl_enqueueOutput frame hnodup
      ⟨(asic.ingress ingressPort bytes now).2, latency, []⟩).1
    rw [copies_of_verdict hverdict, List.nil_append] at hloop
    rw [henqueues, packetCopies, hverdict]
    simp only [enqueueOutputs, packetResult, requestedCopies, hloop]
    -- with no copy accepted the result is a congestion drop
    by_cases hempty :
        (accepted (copies asic asic.faultInjector.advance frame requested)).isEmpty = true
    · rw [if_pos hempty]
      exact ⟨_, (if_pos hempty).symm⟩
    · rw [if_neg hempty]
      exact ⟨_, (if_neg hempty).symm⟩
  | _ =>
    obtain ⟨latency, hexits⟩ :=
      @processPacket_exits asic ingressPort bytes now (by simp [hverdict])
    rw [hexits, hverdict]
    exact ⟨latency, rfl⟩

/-- The output ports of a packet that reaches `enqueue_outputs` are its accepted copies. -/
theorem processPacket_outputPorts {asic : SoftwareAsic} {ingressPort : PortId}
    {bytes : List UInt8} {now : TimePoint} {disposition : PacketDisposition}
    {requested : List PortId} {frame : List UInt8}
    (hverdict : asic.verdict ingressPort bytes now = .egress disposition requested frame) :
    (asic.processPacket ingressPort bytes now).1.outputPorts =
      accepted (copies asic asic.faultInjector.advance frame requested) := by
  obtain ⟨latency, hresult⟩ := processPacket_result asic ingressPort bytes now
  rw [hresult, packetCopies, hverdict, packetResult, requestedCopies]
  cases hempty : (accepted (copies asic asic.faultInjector.advance frame requested)).isEmpty with
  | true =>
    rw [if_pos rfl, List.isEmpty_iff.mp hempty]
    rfl
  | false => rw [if_neg Bool.false_ne_true]

/-- The egress loop counts the packet's copies on top of its exit. -/
theorem processPacket_countCopies (asic : SoftwareAsic) (ingressPort : PortId)
    (bytes : List UInt8) (now : TimePoint) {counter : TrafficCounter}
    (hcopy : counter ∉ copyCounters) :
    (asic.processPacket ingressPort bytes now).2.statistics.get counter =
      (asic.ingress ingressPort bytes now).2.statistics.get counter +
        countCopies counter (asic.packetCopies ingressPort bytes now) := by
  cases hverdict : asic.verdict ingressPort bytes now with
  | egress disposition requested frame =>
    have hnodup : requested.Nodup := (nodup_of_verdict_egress hverdict).1
    obtain ⟨latency, henqueues⟩ := processPacket_enqueues hverdict
    have hloop := (foldl_enqueueOutput frame hnodup
      ⟨(asic.ingress ingressPort bytes now).2, latency, []⟩).2 counter hcopy
    rw [copies_of_verdict hverdict] at hloop
    rw [henqueues, packetCopies, hverdict]
    refine Eq.trans ?_ hloop
    dsimp only [enqueueOutputs]
    split <;> rfl
  | _ =>
    -- no copies are made
    obtain ⟨latency, hexits⟩ :=
      @processPacket_exits asic ingressPort bytes now (by simp [hverdict])
    rw [hexits, packetCopies, hverdict]
    rfl

/-- Ports and queues after a packet that reaches `enqueue_outputs`: each requested
one has seen its copy, the others are as the body left them. -/
theorem processPacket_tables {asic : SoftwareAsic} {ingressPort : PortId} {bytes : List UInt8}
    {now : TimePoint} {disposition : PacketDisposition} {requested : List PortId}
    {frame : List UInt8}
    (hverdict : asic.verdict ingressPort bytes now = .egress disposition requested frame) :
    (∀ id fate, (id, fate) ∈ copies asic asic.faultInjector.advance frame requested →
      (asic.processPacket ingressPort bytes now).2.ports.find? id =
          ((asic.receivedPorts ingressPort bytes).find? id).map (fate.onPort frame.length) ∧
        (asic.processPacket ingressPort bytes now).2.queues.find? id =
          (asic.queues.find? id).map fate.onQueue) ∧
      ∀ id, id ∉ requested →
        (asic.processPacket ingressPort bytes now).2.ports.find? id =
            (asic.receivedPorts ingressPort bytes).find? id ∧
          (asic.processPacket ingressPort bytes now).2.queues.find? id = asic.queues.find? id := by
  obtain ⟨hleaves, _, hports⟩ := ingress_leaves asic ingressPort bytes now
  have hnodup : requested.Nodup := (nodup_of_verdict_egress hverdict).1
  obtain ⟨latency, henqueues⟩ := processPacket_enqueues hverdict
  have hafter : (asic.processPacket ingressPort bytes now).2 =
      (requested.foldl (enqueueOutput frame)
        ⟨(asic.ingress ingressPort bytes now).2, latency, []⟩).asic := by
    rw [henqueues]
    dsimp only [enqueueOutputs]
    split <;> rfl
  rw [hafter, ← hports, ← hleaves.queues]
  constructor
  · intro id fate hcopy
    rw [← copies_of_verdict hverdict] at hcopy
    exact foldl_enqueueOutput_copy frame hnodup _ hcopy
  · intro id hnotMem
    exact foldl_enqueueOutput_notMem frame hnotMem _

/-- A port after a packet: as the body left it, or with its copy. -/
theorem processPacket_port (asic : SoftwareAsic) (ingressPort : PortId) (bytes : List UInt8)
    (now : TimePoint) (id : PortId) :
    (asic.processPacket ingressPort bytes now).2.ports.find? id =
        (asic.receivedPorts ingressPort bytes).find? id ∨
      ∃ disposition requested frame fate,
        asic.verdict ingressPort bytes now = .egress disposition requested frame ∧
        (asic.processPacket ingressPort bytes now).2.ports.find? id =
          ((asic.receivedPorts ingressPort bytes).find? id).map
            (CopyFate.onPort fate frame.length) := by
  cases hverdict : asic.verdict ingressPort bytes now with
  | egress disposition requested frame =>
    have htables := processPacket_tables hverdict
    by_cases hmem : id ∈ requested
    · obtain ⟨fate, hcopy⟩ := exists_mem_copies asic asic.faultInjector.advance frame hmem
      exact Or.inr ⟨_, _, _, fate, rfl, (htables.1 id fate hcopy).1⟩
    · exact Or.inl (htables.2 id hmem).1
  | _ =>
    obtain ⟨latency, hexits⟩ :=
      @processPacket_exits asic ingressPort bytes now (by simp [hverdict])
    left
    rw [hexits, (ingress_leaves asic ingressPort bytes now).2.2]

/-- **The books of `process_packet`**: one counter for the exit, if it has one,
and one for each copy that has one. -/
theorem processPacket_statistics (asic : SoftwareAsic) (ingressPort : PortId)
    (bytes : List UInt8) (now : TimePoint) {counter : TrafficCounter}
    (harrival : counter ∉ arrivalCounters) (hcopy : counter ∉ copyCounters) :
    (asic.processPacket ingressPort bytes now).2.statistics.get counter =
      asic.statistics.get counter +
        (if (asic.verdict ingressPort bytes now).counter = some counter then 1 else 0) +
        countCopies counter (asic.packetCopies ingressPort bytes now) := by
  rw [processPacket_countCopies asic ingressPort bytes now hcopy,
    (ingress_leaves asic ingressPort bytes now).1.statistics counter harrival]

/-- After the body, `process_packet` is the egress loop or nothing. -/
theorem sameForwarding_processPacket_ingress (asic : SoftwareAsic) (ingressPort : PortId)
    (bytes : List UInt8) (now : TimePoint) :
    SameForwarding (asic.ingress ingressPort bytes now).2
      (asic.processPacket ingressPort bytes now).2 := by
  rw [processPacket]
  generalize asic.ingress ingressPort bytes now = after
  obtain ⟨outcome, left⟩ := after
  cases outcome with
  | error result => exact .refl left
  | ok request => exact sameForwarding_enqueueOutputs ..

/-- **A packet never changes what was programmed.** -/
theorem sameProgramming_processPacket (asic : SoftwareAsic) (ingressPort : PortId)
    (bytes : List UInt8) (now : TimePoint) :
    SameProgramming asic (asic.processPacket ingressPort bytes now).2 :=
  (ingress_leaves asic ingressPort bytes now).1.programming.trans
    (sameForwarding_processPacket_ingress asic ingressPort bytes now).toSameProgramming

/-- The MAC table changes by learning from a frame that arrives, and in no other way. -/
theorem processPacket_macTable (asic : SoftwareAsic) (ingressPort : PortId) (bytes : List UInt8)
    (now : TimePoint) :
    (asic.processPacket ingressPort bytes now).2.macTable =
      match asic.arrival ingressPort bytes with
      | .error _ => asic.macTable
      | .ok (port, frame) => (asic.pipeline ingressPort port frame now).2 := by
  rw [(sameForwarding_processPacket_ingress asic ingressPort bytes now).macTable]
  exact (ingress_leaves asic ingressPort bytes now).2.1

/-- A packet leaves the MAC table alone, or it arrives, is classified and learned. -/
theorem processPacket_macTable_cases (asic : SoftwareAsic) (ingressPort : PortId)
    (bytes : List UInt8) (now : TimePoint) :
    (asic.processPacket ingressPort bytes now).2.macTable = asic.macTable ∨
      ∃ port frame vlan, asic.arrival ingressPort bytes = .ok (port, frame) ∧
        classifyVlanIngress frame port.vlanConfig = .ok vlan ∧
        (asic.processPacket ingressPort bytes now).2.macTable =
          (asic.macTable.learn vlan frame.source ingressPort now).2 := by
  rw [processPacket_macTable]
  cases harrival : asic.arrival ingressPort bytes with
  | error early => exact Or.inl rfl
  | ok arrived =>
    obtain ⟨port, frame⟩ := arrived
    dsimp only
    cases hclassify : classifyVlanIngress frame port.vlanConfig with
    | error reason => exact Or.inl (by rw [asic.pipeline_of_unclassified hclassify])
    | ok vlan =>
      exact Or.inr ⟨port, frame, vlan, rfl, hclassify,
        (pipeline_of_classify hclassify ingressPort now).1⟩

end SoftwareAsic

end SiliconSwitch.Asic
