import SiliconSwitch.Asic.RoutedForwarding

/-!
# What the device sends

Whatever the injected faults, only the destination of a frame can be damaged, by one bit.
So every queue holds frames that its port may carry, and what a device sends on is the
frame it was given or the packet of that frame one hop on.

* `parse_corruptFront` — a corrupted frame is a frame to another destination;
* `emitted_step`, `emission_wellFormed` — the invariant of the queues, over all runs;
* `sends_cases` — what one hop makes of a frame;
* `path_timeToLive` — along any path through any devices, each routed hop takes one from
  the TTL of the packet, so that there are fewer of them than the TTL it set out with.
-/

namespace SiliconSwitch.Asic

open SiliconSwitch.Library SiliconSwitch.Network SiliconSwitch.Routing SiliconSwitch.Switching

-- ---------------------------------------------------------------------------
-- Corruption
-- ---------------------------------------------------------------------------

/-- The second frame is the first one to a destination of its own. -/
def SameBody (first second : EthernetFrame) : Prop :=
  ∃ destination, second = { first with destination := destination }

theorem SameBody.refl (frame : EthernetFrame) : SameBody frame frame := ⟨frame.destination, rfl⟩

theorem SameBody.symm {first second : EthernetFrame} (h : SameBody first second) :
    SameBody second first := by
  obtain ⟨destination, rfl⟩ := h
  exact ⟨first.destination, rfl⟩

theorem SameBody.trans {first second third : EthernetFrame} (h : SameBody first second)
    (h' : SameBody second third) : SameBody first third := by
  obtain ⟨destination, rfl⟩ := h
  obtain ⟨destination', rfl⟩ := h'
  exact ⟨destination', rfl⟩

namespace FaultInjector

/-- A second corruption undoes the first. -/
theorem corruptFront_corruptFront (packet : List UInt8) :
    corruptFront (corruptFront packet) = packet := by
  cases packet with
  | nil => rfl
  | cons front rest =>
    show (front ^^^ 1 ^^^ 1) :: rest = front :: rest
    rw [UInt8.xor_assoc, UInt8.xor_self, UInt8.xor_zero]

/-- The flipped bit is one of the destination, which comes first. -/
theorem parse_corruptFront {bytes : List UInt8} {frame : EthernetFrame}
    (h : EthernetFrame.parse bytes = some frame) :
    ∃ damaged, EthernetFrame.parse (corruptFront bytes) = some damaged ∧
      SameBody frame damaged := by
  have huntagged := EthernetFrame.untagged_of_parse h
  have hlayout := EthernetFrame.serialize_of_parse h
  rw [EthernetFrame.serialize_eq_layout] at hlayout
  obtain ⟨destination, source, etherType, payload, vlanTag, hpayload⟩ := frame
  have hflip : corruptFront bytes = EthernetFrame.layout
      ⟨corruptFront destination.bytes,
        (length_corruptFront _).trans destination.byte_count⟩ source etherType payload vlanTag := by
    rw [← hlayout]
    obtain ⟨octets, hcount⟩ := destination
    cases octets with
    | nil => simp at hcount
    | cons front rest => rfl
  rw [hflip, EthernetFrame.parse_layout _ _ _ _ _ huntagged, EthernetFrame.create,
    dif_neg (Nat.not_lt_of_le hpayload)]
  exact ⟨_, rfl, _, rfl⟩

/-- What the injector lets through of a packet. -/
theorem process_cases {injector : FaultInjector} {port : PortId} {packet : List UInt8}
    {injected : FaultInjectedPacket} (h : (injector.process port packet).1 = .ok injected) :
    injected.bytes = packet ∨ injected.bytes = corruptFront packet := by
  rw [process, inject] at h
  split_ifs at h with hfailed hexhausted hdropped hdue
  · rw [Except.ok.injEq] at h
    rw [← h]
    exact Or.inr rfl
  · rw [Except.ok.injEq] at h
    rw [← h]
    exact Or.inl rfl

/-- A frame that passes the injector is received with the same body. -/
theorem parse_of_process {injector : FaultInjector} {port : PortId} {packet : List UInt8}
    {injected : FaultInjectedPacket} {received : EthernetFrame}
    (h : (injector.process port packet).1 = .ok injected)
    (hparse : EthernetFrame.parse injected.bytes = some received) :
    ∃ frame, EthernetFrame.parse packet = some frame ∧ SameBody frame received := by
  rcases process_cases h with hbytes | hbytes
  · rw [hbytes] at hparse
    exact ⟨received, hparse, .refl received⟩
  · obtain ⟨frame, hframe, hsame⟩ := parse_corruptFront hparse
    rw [hbytes, corruptFront_corruptFront] at hframe
    exact ⟨frame, hframe, hsame.symm⟩

/-- And so is a frame that is sent through it. -/
theorem process_of_parse {injector : FaultInjector} {port : PortId} {packet : List UInt8}
    {injected : FaultInjectedPacket} {frame : EthernetFrame}
    (h : (injector.process port packet).1 = .ok injected)
    (hparse : EthernetFrame.parse packet = some frame) :
    ∃ sent, EthernetFrame.parse injected.bytes = some sent ∧ SameBody frame sent := by
  rcases process_cases h with hbytes | hbytes
  · rw [hbytes]
    exact ⟨frame, hparse, .refl frame⟩
  · rw [hbytes]
    exact parse_corruptFront hparse

end FaultInjector

namespace SoftwareAsic

-- ---------------------------------------------------------------------------
-- The frame of a request
-- ---------------------------------------------------------------------------

/-- What the request of a frame carries, from what was received: the received frame, or
the packet in it one hop on. -/
theorem request_carries {asic : SoftwareAsic} {ingressPort : PortId} {bytes : List UInt8}
    {now : TimePoint} {disposition : PacketDisposition} {requested : List PortId}
    {frame : List UInt8}
    (h : asic.verdict ingressPort bytes now = .egress disposition requested frame) :
    ∃ received carried, EthernetFrame.parse bytes = some received ∧
      EthernetFrame.parse frame = some carried ∧
      ((disposition ≠ .routed ∧ SameBody received carried) ∨
       (disposition = .routed ∧ ∃ packet forwarded,
          Ipv4Packet.parse received.payload = some packet ∧
          Ipv4Packet.parse carried.payload = some forwarded ∧ 2 ≤ packet.timeToLive ∧
          Decrements packet forwarded)) := by
  obtain ⟨port, arrived, harrival, hcases⟩ := verdict_egress h
  obtain ⟨_, _, ⟨injected, hinject, hparse⟩, _⟩ := arrival_ok harrival
  obtain ⟨received, hreceived, hsame⟩ := FaultInjector.parse_of_process hinject hparse
  have hreserialized := parse_serialize_of_arrival harrival
  rcases hcases with ⟨_, _, rfl, rfl⟩ | ⟨_, _, rfl, rfl⟩ | ⟨_, _, hroute⟩
  · exact ⟨received, arrived, hreceived, hreserialized, Or.inl ⟨by simp, hsame⟩⟩
  · exact ⟨received, arrived, hreceived, hreserialized, Or.inl ⟨by simp, hsame⟩⟩
  · obtain ⟨packet, forwarded, egress, encapsulated, hpacket, hforward, _, _, hencapsulate, rfl, _,
      rfl⟩ := routeVerdict_egress hroute
    obtain ⟨httl, hdecrements, _⟩ := forward_eq_ok.mp hforward
    obtain ⟨mac, _, rfl⟩ := (encapsulateIpv4InEthernet_eq_ok egress.macAddress_valid
      (serialize_le_of_decrements hpacket hdecrements)).mp hencapsulate
    have hpayload : received.payload = arrived.payload := by
      obtain ⟨_, rfl⟩ := hsame
      rfl
    rw [← hpayload] at hpacket
    refine ⟨received, _, hreceived, EthernetFrame.parse_serialize ?_, Or.inr ⟨rfl, packet,
      forwarded.packet, hpacket, Ipv4Packet.parse_serialize _, httl, hdecrements⟩⟩
    exact fun _ => (by decide : EtherType.ipv4 ≠ EtherType.vlanTagged)

/-- A copy that is queued is the requested frame up to its destination. -/
theorem copy_carries {asic : SoftwareAsic} {injector : FaultInjector} {frame sent : List UInt8}
    {carried : EthernetFrame} {id : PortId} (hparse : EthernetFrame.parse frame = some carried)
    (h : copyFate asic injector frame id = .enqueued sent) :
    ∃ port queued, asic.ports.find? id = some port ∧ sent.length ≤ port.mtu ∧
      EthernetFrame.parse sent = some queued ∧ SameBody carried queued := by
  obtain ⟨port, _, packet, hport, _, _, hinject, rfl, hfits, _⟩ := copyFate_eq_enqueued.mp h
  obtain ⟨queued, hqueued, hsame⟩ := FaultInjector.process_of_parse hinject hparse
  exact ⟨port, queued, hport, hfits, hqueued, hsame⟩

-- ---------------------------------------------------------------------------
-- Queues
-- ---------------------------------------------------------------------------

/-- A queue after a packet: as it was, or with one copy at its end. -/
theorem processPacket_queue (asic : SoftwareAsic) (ingressPort : PortId) (bytes : List UInt8)
    (now : TimePoint) {id : PortId} {after : PacketQueue}
    (h : (asic.processPacket ingressPort bytes now).2.queues.find? id = some after) :
    ∃ before, asic.queues.find? id = some before ∧
      (after.queue = before.queue ∨
       ∃ disposition requested frame injector sent,
        asic.verdict ingressPort bytes now = .egress disposition requested frame ∧
        (id, CopyFate.enqueued sent) ∈ asic.packetCopies ingressPort bytes now ∧
        copyFate asic injector frame id = .enqueued sent ∧
        after.queue = before.queue ++ [sent]) := by
  by_cases hexit : ∀ disposition requested frame,
      asic.verdict ingressPort bytes now ≠ .egress disposition requested frame
  · obtain ⟨latency, hexits⟩ := processPacket_exits hexit
    rw [hexits] at h
    rw [(ingress_leaves asic ingressPort bytes now).1.queues] at h
    exact ⟨after, h, Or.inl rfl⟩
  · push Not at hexit
    obtain ⟨disposition, requested, frame, hverdict⟩ := hexit
    have htables := processPacket_tables hverdict
    by_cases hrequested : id ∈ requested
    · obtain ⟨fate, hcopy⟩ := exists_mem_copies asic asic.faultInjector.advance frame hrequested
      rw [(htables.1 id fate hcopy).2, Option.map_eq_some_iff] at h
      obtain ⟨before, hbefore, rfl⟩ := h
      refine ⟨before, hbefore, ?_⟩
      obtain ⟨injector, _, hfate⟩ := mem_copies hcopy
      cases fate with
      | enqueued sent =>
        right
        obtain ⟨_, queue, _, _, _, hqueue, _, _, _, hroom⟩ := copyFate_eq_enqueued.mp hfate.symm
        rw [hbefore, Option.some.injEq] at hqueue
        subst hqueue
        refine ⟨disposition, requested, frame, injector, sent, hverdict, ?_, hfate.symm,
          onQueue_enqueued hroom sent⟩
        rw [packetCopies, hverdict]
        exact hcopy
      | unavailable | faulted | oversized | congested => exact Or.inl rfl
    · rw [(htables.2 id hrequested).2] at h
      exact ⟨after, h, Or.inl rfl⟩

/-- Every queued frame parses and fits its port. -/
def Emitted (asic : SoftwareAsic) : Prop :=
  ∀ id port queue, asic.ports.find? id = some port → asic.queues.find? id = some queue →
    ∀ bytes ∈ queue.queue, bytes.length ≤ port.mtu ∧ ∃ frame, EthernetFrame.parse bytes = some frame

/-- A call that leaves each port with its MTU and adds nothing to its queue keeps this. -/
theorem Emitted.of_le {before after : SoftwareAsic} (h : Emitted before)
    (hle : ∀ id port queue, after.ports.find? id = some port →
      after.queues.find? id = some queue → queue.queue = [] ∨
        ∃ port' queue', before.ports.find? id = some port' ∧
          before.queues.find? id = some queue' ∧ port'.mtu = port.mtu ∧
          queue.queue ⊆ queue'.queue) :
    Emitted after := by
  intro id port queue hport hqueue bytes hmem
  rcases hle id port queue hport hqueue with hempty | ⟨port', queue', hport', hqueue', hmtu, hsub⟩
  · simp [hempty] at hmem
  · rw [← hmtu]
    exact h id port' queue' hport' hqueue' bytes (hsub hmem)

theorem Emitted.of_eq {before after : SoftwareAsic} (h : Emitted before)
    (hports : after.ports = before.ports) (hqueues : after.queues = before.queues) :
    Emitted after := by
  intro id port queue hport hqueue
  rw [hports] at hport
  rw [hqueues] at hqueue
  exact h id port queue hport hqueue

theorem emitted_createPort {asic : SoftwareAsic} (hprogrammed : Programmed asic)
    (h : Emitted asic) (port : VirtualPort) (capacity : Nat) :
    Emitted (asic.createPort port capacity).2 := by
  rw [createPort]
  split
  · exact h
  · split
    · exact h
    · rename_i hcapacity hfresh
      have hfreshQueue := (hprogrammed.queue_iff port.id).mpr hfresh
      refine h.of_le fun id found queue hfound hqueue => ?_
      dsimp only at hfound hqueue
      rw [Table.find?_emplace_of_none _ hfresh, Table.find?_set] at hfound
      rw [Table.find?_emplace_of_none _ hfreshQueue, Table.find?_set] at hqueue
      by_cases hid : id = port.id
      · rw [if_pos hid, Option.some.injEq] at hqueue
        rw [← hqueue]
        exact Or.inl rfl
      · rw [if_neg hid] at hfound hqueue
        exact Or.inr ⟨found, queue, hfound, hqueue, rfl, List.Subset.refl _⟩

theorem emitted_removePort {asic : SoftwareAsic} (hprogrammed : Programmed asic)
    (h : Emitted asic) (id : PortId) : Emitted (asic.removePort id).2 := by
  cases hport : asic.ports.find? id with
  | none =>
    rw [removePort, hport]
    exact h
  | some port =>
    rw [removePort_eq hprogrammed hport]
    refine h.of_le fun other found queue hfound hqueue => ?_
    dsimp only at hfound hqueue
    rw [Table.find?_erase] at hfound hqueue
    split at hfound
    · simp at hfound
    · rename_i hother
      rw [if_neg hother] at hqueue
      exact Or.inr ⟨found, queue, hfound, hqueue, rfl, List.Subset.refl _⟩

theorem emitted_setPortState {asic : SoftwareAsic} (h : Emitted asic) (id : PortId)
    (admin link : Bool) : Emitted (asic.setPortState id admin link).2 := by
  rw [setPortState]
  split
  · exact h
  · rename_i port hport
    refine h.of_le fun other found queue hfound hqueue => Or.inr ?_
    dsimp only [setPort] at hfound hqueue
    rw [Table.find?_set] at hfound
    split at hfound
    · rename_i hother
      rw [Option.some.injEq] at hfound
      subst hother hfound
      exact ⟨port, queue, hport, hqueue, rfl, List.Subset.refl _⟩
    · exact ⟨found, queue, hfound, hqueue, rfl, List.Subset.refl _⟩

theorem emitted_dequeuePacket {asic : SoftwareAsic} (h : Emitted asic) (id : PortId) :
    Emitted (asic.dequeuePacket id).2 := by
  rw [dequeuePacket]
  split
  · exact h
  · rename_i queue hqueue
    refine h.of_le fun other found after hfound hafter => Or.inr ?_
    dsimp only [setQueue] at hfound hafter
    rw [Table.find?_set] at hafter
    split at hafter
    · rename_i hother
      rw [Option.some.injEq] at hafter
      subst hother hafter
      exact ⟨found, queue, hfound, hqueue, rfl, List.tail_subset _⟩
    · exact ⟨found, after, hfound, hafter, rfl, List.Subset.refl _⟩

/-- The port that a copy fits is the one that the packet leaves, by its MTU. -/
theorem emitted_processPacket {asic : SoftwareAsic} (h : Emitted asic) (ingressPort : PortId)
    (bytes : List UInt8) (now : TimePoint) :
    Emitted (asic.processPacket ingressPort bytes now).2 := by
  intro id port after hport hafter queued hmem
  obtain ⟨before, hbefore, hcases⟩ := asic.processPacket_queue ingressPort bytes now hafter
  obtain ⟨original, horiginal, hmtu⟩ : ∃ original, asic.ports.find? id = some original ∧
      original.mtu = port.mtu := by
    obtain ⟨original, horiginal, hsame⟩ := optionRel_some'
      ((sameProgramming_processPacket asic ingressPort bytes now).ports id) hport
    exact ⟨original, horiginal, hsame.mtu.symm⟩
  rcases hcases with hsame | ⟨_, _, frame, _, sent, hverdict, _, hcopy, happend⟩
  · rw [hsame] at hmem
    rw [← hmtu]
    exact h id original before horiginal hbefore queued hmem
  · rw [happend, List.mem_append, List.mem_singleton] at hmem
    rcases hmem with hold | rfl
    · rw [← hmtu]
      exact h id original before horiginal hbefore queued hold
    · obtain ⟨_, _, _, hparse, _⟩ := request_carries hverdict
      obtain ⟨found, carried, hfound, hfits, hcarried, _⟩ := copy_carries hparse hcopy
      rw [horiginal, Option.some.injEq] at hfound
      subst hfound
      rw [← hmtu]
      exact ⟨hfits, carried, hcarried⟩

/-- **Every call keeps the queues well formed.** -/
theorem emitted_step {asic : SoftwareAsic} (operation : Operation) (hprogrammed : Programmed asic)
    (h : Emitted asic) : Emitted (asic.step operation) := by
  have hports := @step_frame asic operation .ports
  have hqueues := @step_frame asic operation .queues
  cases operation with
  | createPort port capacity => exact emitted_createPort hprogrammed h port capacity
  | removePort id => exact emitted_removePort hprogrammed h id
  | setPortState id admin link => exact emitted_setPortState h id admin link
  | processPacket ingressPort bytes now => exact emitted_processPacket h ingressPort bytes now
  | dequeuePacket id => exact emitted_dequeuePacket h id
  | _ => exact h.of_eq (hports rfl) (hqueues rfl)

/-- **What waits in a queue may be sent.** In every reachable state, whatever faults were
injected on the way, each frame in the queue of a port is the serialization of an Ethernet
frame and within the MTU of that port. -/
theorem emission_wellFormed {asic : SoftwareAsic} (h : asic.Reachable) {id : PortId}
    {queue : PacketQueue} (hqueue : asic.queues.find? id = some queue) {bytes : List UInt8}
    (hmem : bytes ∈ queue.queue) :
    ∃ port frame, asic.ports.find? id = some port ∧ EthernetFrame.parse bytes = some frame ∧
      frame.serialize = bytes ∧ bytes.length ≤ port.mtu := by
  have hemitted : Programmed asic ∧ Emitted asic :=
    h.invariant (I := fun state => Programmed state ∧ Emitted state)
      (fun capacity hcapacity => ⟨programmed_create capacity hcapacity, by
        intro id port queue hport
        simp [create] at hport⟩)
      (fun _ operation hboth =>
        ⟨programmed_step operation hboth.1, emitted_step operation hboth.1 hboth.2⟩)
  obtain ⟨port, hport⟩ : ∃ port, asic.ports.find? id = some port := by
    rw [← Option.ne_none_iff_exists', ne_eq, ← hemitted.1.queue_iff, hqueue]
    simp
  obtain ⟨hfits, frame, hparse⟩ := hemitted.2 id port queue hport hqueue bytes hmem
  exact ⟨port, frame, hport, hparse, EthernetFrame.serialize_of_parse hparse, hfits⟩

namespace Example

/-- A frame of host 1 is flooded to the second port. -/
def oneFlood : List Operation :=
  twoPorts ++ [.processPacket firstPort (frameBytes 1 2 [4, 4]) 6]

theorem queue_of_oneFlood : ((device oneFlood).queues.find? secondPort).isSome = true := by
  decide +kernel

end Example

open Example in
/-- It waits there in a form that the port may carry. -/
theorem emission_wellFormed_oneFlood :
    ∃ port frame, (device oneFlood).ports.find? secondPort = some port ∧
      EthernetFrame.parse (frameBytes 1 2 [4, 4]) = some frame ∧
      frame.serialize = frameBytes 1 2 [4, 4] ∧ (frameBytes 1 2 [4, 4]).length ≤ port.mtu :=
  emission_wellFormed (reachable_device oneFlood) (Option.some_get queue_of_oneFlood).symm
    (by decide +kernel)

-- ---------------------------------------------------------------------------
-- Hops
-- ---------------------------------------------------------------------------

/-- The packet puts `sent` in the queue of port `id`. -/
def Sends (asic : SoftwareAsic) (ingressPort : PortId) (bytes : List UInt8) (now : TimePoint)
    (id : PortId) (sent : List UInt8) : Prop :=
  ∃ before after, asic.queues.find? id = some before ∧
    (asic.processPacket ingressPort bytes now).2.queues.find? id = some after ∧
    after.queue = before.queue ++ [sent]

/-- **What a hop makes of a frame**: the same frame, up to its destination, unless the
device says that it was routed; then its packet, one hop on. -/
theorem sends_cases {asic : SoftwareAsic} {ingressPort : PortId} {bytes : List UInt8}
    {now : TimePoint} {id : PortId} {sent : List UInt8}
    (h : asic.Sends ingressPort bytes now id sent) :
    ∃ received queued, EthernetFrame.parse bytes = some received ∧
      EthernetFrame.parse sent = some queued ∧
      (((asic.processPacket ingressPort bytes now).1.disposition ≠ .routed ∧
          SameBody received queued) ∨
       ((asic.processPacket ingressPort bytes now).1.disposition = .routed ∧
          ∃ packet forwarded, Ipv4Packet.parse received.payload = some packet ∧
            Ipv4Packet.parse queued.payload = some forwarded ∧ 2 ≤ packet.timeToLive ∧
            Decrements packet forwarded)) := by
  obtain ⟨before, after, hbefore, hafter, happend⟩ := h
  obtain ⟨found, hfound, hcases⟩ := asic.processPacket_queue ingressPort bytes now hafter
  rw [hbefore, Option.some.injEq] at hfound
  subst hfound
  rcases hcases with
    hsame | ⟨disposition, requested, frame, _, copied, hverdict, hmem, hcopy, hback⟩
  · rw [hsame] at happend
    simp at happend
  · rw [happend, List.append_cancel_left_eq, List.cons.injEq] at hback
    obtain ⟨rfl, _⟩ := hback
    -- with a copy accepted the packet has the disposition of its request
    have hdisposition : (asic.processPacket ingressPort bytes now).1.disposition = disposition := by
      obtain ⟨latency, hresult⟩ := processPacket_result asic ingressPort bytes now
      have haccepted : accepted (asic.packetCopies ingressPort bytes now) ≠ [] :=
        List.ne_nil_of_mem (mem_accepted.mpr ⟨sent, hmem⟩)
      rw [hresult, hverdict, packetResult, if_neg (by simpa using haccepted)]
    obtain ⟨received, carried, hreceived, hcarried, hcarries⟩ := request_carries hverdict
    obtain ⟨_, queued, _, _, hqueued, hbody⟩ := copy_carries hcarried hcopy
    rw [hdisposition]
    refine ⟨received, queued, hreceived, hqueued, ?_⟩
    rcases hcarries with ⟨hbridged, hsame⟩ | ⟨hrouted, packet, forwarded, hpacket, hforwarded, httl,
      hdecrements⟩
    · exact Or.inl ⟨hbridged, hsame.trans hbody⟩
    · right
      obtain ⟨_, rfl⟩ := hbody
      exact ⟨hrouted, packet, forwarded, hpacket, hforwarded, httl, hdecrements⟩

-- ---------------------------------------------------------------------------
-- Paths
-- ---------------------------------------------------------------------------

/-- The way of a frame through devices: each hop takes the octets that the one before has
queued, in any state of any device, at any port and time, under any faults. -/
inductive Path : List UInt8 → List PacketDisposition → List UInt8 → Prop
  | start (bytes : List UInt8) : Path bytes [] bytes
  | hop {first bytes sent : List UInt8} {hops : List PacketDisposition} (asic : SoftwareAsic)
      (ingressPort id : PortId) (now : TimePoint) (front : Path first hops bytes)
      (sends : asic.Sends ingressPort bytes now id sent) :
      Path first (hops ++ [(asic.processPacket ingressPort bytes now).1.disposition]) sent

/-- The packet after some routed hops: all of it but the TTL. -/
def AgedBy (hops : Nat) (packet arrived : Ipv4Packet) : Prop :=
  arrived.timeToLive.toNat + hops = packet.timeToLive.toNat ∧
    arrived = { packet with
      timeToLive := arrived.timeToLive
      timeToLive_ne_zero := arrived.timeToLive_ne_zero }

theorem AgedBy.decrement {hops : Nat} {packet arrived forwarded : Ipv4Packet}
    (h : AgedBy hops packet arrived) (httl : 2 ≤ arrived.timeToLive)
    (hdecrements : Decrements arrived forwarded) : AgedBy (hops + 1) packet forwarded := by
  obtain ⟨hpos, rfl⟩ := hdecrements
  obtain ⟨hcount, hrest⟩ := h
  have hone : (1 : UInt8) ≤ arrived.timeToLive :=
    UInt8.le_trans (by decide : (1 : UInt8) ≤ 2) httl
  have hle : 1 ≤ arrived.timeToLive.toNat := UInt8.le_iff_toNat_le.mp hone
  constructor
  · show (arrived.timeToLive - 1).toNat + (hops + 1) = _
    rw [UInt8.toNat_sub_of_le _ _ hone, UInt8.toNat_one]
    omega
  · cases packet
    cases arrived
    simpa using hrest

/-- A packet that is there has hops left. -/
theorem AgedBy.lt {hops : Nat} {packet arrived : Ipv4Packet} (h : AgedBy hops packet arrived) :
    hops < packet.timeToLive.toNat := by
  have hpos : arrived.timeToLive.toNat ≠ 0 := fun hzero =>
    arrived.timeToLive_ne_zero (UInt8.toNat_inj.mp hzero)
  have hcount := h.1
  omega

/-- **The TTL bounds routing.** However a frame has travelled, through whatever devices,
loops and faults, it is a frame; without routed hops it is the frame that set out, up to
its destination; and only a packet takes routed hops, each of which takes one from its TTL
and leaves the rest of it alone, so that they are fewer than the TTL it set out with. -/
theorem path_timeToLive {first last : List UInt8} {hops : List PacketDisposition}
    (h : Path first hops last) {frame : EthernetFrame}
    (hparse : EthernetFrame.parse first = some frame) :
    ∃ final, EthernetFrame.parse last = some final ∧
      (hops.count .routed = 0 → SameBody frame final) ∧
      (Ipv4Packet.parse frame.payload = none → hops.count .routed = 0) ∧
      ∀ packet, Ipv4Packet.parse frame.payload = some packet →
        hops.count .routed < packet.timeToLive.toNat ∧
        ∃ arrived, Ipv4Packet.parse final.payload = some arrived ∧
          AgedBy (hops.count .routed) packet arrived := by
  induction h with
  | start =>
    have hunaged : ∀ packet : Ipv4Packet, AgedBy 0 packet packet := fun _ => ⟨rfl, rfl⟩
    exact ⟨frame, hparse, fun _ => .refl frame, fun _ => rfl,
      fun packet hpacket => ⟨(hunaged packet).lt, packet, hpacket, hunaged packet⟩⟩
  | hop asic ingressPort id now front sends ih =>
    obtain ⟨middle, hmiddle, hbody, hnone, haged⟩ := ih
    obtain ⟨received, queued, hreceived, hqueued, hcases⟩ := sends_cases sends
    rw [hmiddle, Option.some.injEq] at hreceived
    subst hreceived
    refine ⟨queued, hqueued, ?_⟩
    rw [List.count_append, List.count_singleton]
    rcases hcases with ⟨hbridged, hsame⟩ | ⟨hrouted, packet, forwarded, hpacket, hforwarded, httl,
      hdecrements⟩
    · rw [if_neg (by simpa using hbridged), Nat.add_zero]
      refine ⟨fun hzero => (hbody hzero).trans hsame, hnone, fun packet hpacket => ?_⟩
      obtain ⟨hlt, arrived, harrived, hage⟩ := haged packet hpacket
      obtain ⟨_, rfl⟩ := hsame
      exact ⟨hlt, arrived, harrived, hage⟩
    · rw [hrouted, if_pos (by rfl)]
      refine ⟨fun hzero => absurd hzero (Nat.succ_ne_zero _), fun hunparsed => ?_,
        fun original horiginal => ?_⟩
      · -- what is no packet has not been routed, and is none here
        obtain ⟨_, rfl⟩ := hbody (hnone hunparsed)
        rw [show Ipv4Packet.parse frame.payload = some packet from hpacket] at hunparsed
        simp at hunparsed
      · obtain ⟨_, arrived, harrived, hage⟩ := haged original horiginal
        rw [hpacket, Option.some.injEq] at harrived
        subst harrived
        have hnext := hage.decrement httl hdecrements
        exact ⟨hnext.lt, forwarded, hforwarded, hnext⟩

open Example in
/-- The datagram has a TTL of 64 when it sets out and of 63 behind the router. -/
theorem path_timeToLive_datagram :
    ∃ last final arrived, EthernetFrame.parse last = some final ∧
      Ipv4Packet.parse final.payload = some arrived ∧ AgedBy 1 datagram arrived := by
  obtain ⟨sent, hsends⟩ :
      ∃ sent, (device router).Sends firstPort datagramFrame.serialize 0 secondPort sent :=
    ⟨_, _, _, rfl, rfl, rfl⟩
  obtain ⟨final, hfinal, _, _, haged⟩ := path_timeToLive
    (.hop (device router) firstPort secondPort 0 (.start _) hsends)
    (@EthernetFrame.parse_serialize datagramFrame (by decide +kernel))
  obtain ⟨_, arrived, harrived, hage⟩ := haged datagram (Ipv4Packet.parse_serialize datagram)
  rw [show ((device router).processPacket firstPort datagramFrame.serialize 0).1.disposition =
    .routed by decide +kernel] at hage
  exact ⟨sent, final, arrived, hfinal, harrived, hage⟩

end SoftwareAsic

end SiliconSwitch.Asic
