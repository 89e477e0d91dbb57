import SiliconSwitch.Asic.FailedCalls
import SiliconSwitch.Asic.PacketEffects
import SiliconSwitch.Asic.RoutedForwarding
import SiliconSwitch.Routing.ArpAging
import SiliconSwitch.Routing.RouteHistory

/-!
# Routing from the history of a device

The route table is programmed by control operations; the ARP cache by them and by the ARP
packets that reach the control plane. The runs here carry a log of both, kept apart from
the tables, and routing is decided by the log alone.

* `tells_step` — the tables are what the log tells, after every call;
* `lookup_run` — what a cache that is never swept answers, from its history;
* `routing_from_history` — the two queries and the routed packets of any run.
-/

namespace SiliconSwitch.Asic.SoftwareAsic

open SiliconSwitch.Library SiliconSwitch.Network SiliconSwitch.Routing SiliconSwitch.Switching

-- ---------------------------------------------------------------------------
-- What the tables were told
-- ---------------------------------------------------------------------------

/-- The writes to the route table and to the ARP cache, in order. -/
structure ControlLog where
  routes : List RouteOperation
  neighbors : List ArpCall

namespace ControlLog

def empty : ControlLog := ⟨[], []⟩

/-- The log after a call. -/
def after (log : ControlLog) (asic : SoftwareAsic) : Operation → ControlLog
  | .addOrReplaceRoute route =>
    -- a route through a port that is not there is refused
    if asic.hasPort route.outputPort then
      { log with routes := log.routes ++ [.addOrReplace route] }
    else log
  | .removeRoute routePrefix => { log with routes := log.routes ++ [.remove routePrefix] }
  | .addOrReplaceNeighbor address mac learnedAt =>
    { log with neighbors := log.neighbors ++ [.addOrReplace address mac learnedAt] }
  | .removeNeighbor address => { log with neighbors := log.neighbors ++ [.remove address] }
  | .processPacket ingressPort bytes now =>
    match asic.heardNeighbor ingressPort bytes now with
    | none => log
    | some (address, mac) =>
      { log with neighbors := log.neighbors ++ [.addOrReplace address mac now] }
  | _ => log

/-- The neighbor that was entered last, unless it was entered a lifetime ago. -/
def neighborAt (log : ControlLog) (address : Ipv4Address) (now : TimePoint) : Option MacAddress :=
  (learned log.neighbors address).bind fun entry =>
    if entry.learnedAt + ArpCache.defaultEntryLifetime ≤ now then none
    else some entry.macAddress

end ControlLog

/-- A call of the device, logged. -/
def controlledStep (state : SoftwareAsic × ControlLog) (operation : Operation) :
    SoftwareAsic × ControlLog :=
  (state.1.step operation, state.2.after state.1 operation)

/-- The log does not change what the calls do. -/
theorem fst_run_controlledStep (state : SoftwareAsic × ControlLog) (operations : List Operation) :
    (run controlledStep state operations).1 = run step state.1 operations := by
  induction operations generalizing state with
  | nil => rfl
  | cons operation rest ih => rw [run_cons, run_cons, ih, controlledStep]

/-- The tables are what the log tells, and no entry has been swept. -/
structure Tells (log : ControlLog) (asic : SoftwareAsic) : Prop where
  routeTable : asic.routeTable = run Ipv4RouteTable.step .empty log.routes
  arpCache : asic.arpCache = run ArpCache.step .empty log.neighbors
  unswept : ∀ call ∈ log.neighbors, call.isExpire = false

theorem tells_create (capacity : Nat) (hcapacity : 0 < capacity) :
    Tells .empty (create capacity hcapacity) where
  routeTable := rfl
  arpCache := rfl
  unswept := by simp [ControlLog.empty]

section Step

variable {asic : SoftwareAsic} {log : ControlLog}

theorem Tells.of_eq {after : SoftwareAsic} (h : Tells log asic)
    (hroutes : after.routeTable = asic.routeTable) (hcache : after.arpCache = asic.arpCache) :
    Tells log after where
  routeTable := by rw [hroutes, h.routeTable]
  arpCache := by rw [hcache, h.arpCache]
  unswept := h.unswept

theorem Tells.route {after : SoftwareAsic} (h : Tells log asic) (operation : RouteOperation)
    (hroutes : after.routeTable = asic.routeTable.step operation)
    (hcache : after.arpCache = asic.arpCache) :
    Tells { log with routes := log.routes ++ [operation] } after where
  routeTable := by rw [hroutes, h.routeTable, run_concat]
  arpCache := by rw [hcache, h.arpCache]
  unswept := h.unswept

theorem Tells.neighbor {after : SoftwareAsic} (h : Tells log asic) (call : ArpCall)
    (hcall : call.isExpire = false) (hroutes : after.routeTable = asic.routeTable)
    (hcache : after.arpCache = asic.arpCache.step call) :
    Tells { log with neighbors := log.neighbors ++ [call] } after where
  routeTable := by rw [hroutes, h.routeTable]
  arpCache := by rw [hcache, h.arpCache, run_concat]
  unswept := by
    intro other hmem
    rw [List.mem_append, List.mem_singleton] at hmem
    rcases hmem with hold | rfl
    · exact h.unswept other hold
    · exact hcall

theorem tells_processPacket (h : Tells log asic) (ingressPort : PortId) (bytes : List UInt8)
    (now : TimePoint) :
    Tells (log.after asic (.processPacket ingressPort bytes now))
      (asic.processPacket ingressPort bytes now).2 := by
  have hroutes := (sameProgramming_processPacket asic ingressPort bytes now).routeTable
  have hcache := processPacket_arpCache asic ingressPort bytes now
  rw [ControlLog.after]
  cases hheard : asic.heardNeighbor ingressPort bytes now with
  | none =>
    rw [hheard] at hcache
    exact h.of_eq hroutes hcache
  | some heard =>
    obtain ⟨address, mac⟩ := heard
    rw [hheard] at hcache
    exact h.neighbor (.addOrReplace address mac now) rfl hroutes hcache

/-- **The tables are what the log tells**, after every call. -/
theorem tells_step (operation : Operation) (h : Tells log asic) :
    Tells (log.after asic operation) (asic.step operation) := by
  have hroutes := @step_frame asic operation .routeTable
  have hcache := @step_frame asic operation .arpCache
  cases operation with
  | addOrReplaceRoute route =>
    rw [step, addOrReplaceRoute, ControlLog.after, hasPort]
    cases hport : asic.ports.find? route.outputPort with
    | none => exact h
    | some port => exact h.route (.addOrReplace route) rfl rfl
  | removeRoute routePrefix => exact h.route (.remove routePrefix) rfl rfl
  | addOrReplaceNeighbor address mac learnedAt =>
    exact h.neighbor (.addOrReplace address mac learnedAt) rfl rfl rfl
  | removeNeighbor address => exact h.neighbor (.remove address) rfl rfl rfl
  | processPacket ingressPort bytes now => exact tells_processPacket h ingressPort bytes now
  | _ => exact h.of_eq (hroutes rfl) (hcache rfl)

end Step

-- ---------------------------------------------------------------------------
-- A cache that is never swept
-- ---------------------------------------------------------------------------

theorem find?_run {calls : List ArpCall} (hcalls : ∀ call ∈ calls, call.isExpire = false)
    (address : Ipv4Address) :
    (run ArpCache.step .empty calls).entries.find? address = learned calls address := by
  induction calls using List.reverseRecOn with
  | nil => exact Table.find?_empty address
  | append_singleton calls call ih =>
    have hcall := hcalls call (by simp)
    rw [run_concat, ArpCache.find?_step hcall, learned, lastWrite_concat]
    rw [ih fun other hother => hcalls other (List.mem_append_left _ hother), learned]

/-- **What the cache answers, from its history.** -/
theorem lookup_run {log : ControlLog} (hunswept : ∀ call ∈ log.neighbors, call.isExpire = false)
    (address : Ipv4Address) (now : TimePoint) :
    (run ArpCache.step .empty log.neighbors).lookup address now = log.neighborAt address now := by
  have hlifetime : (run ArpCache.step .empty log.neighbors).entryLifetime =
      ArpCache.defaultEntryLifetime := ArpCache.entryLifetime_run .empty log.neighbors
  rw [ArpCache.lookup, find?_run hunswept, ControlLog.neighborAt]
  cases learned log.neighbors address with
  | none => rfl
  | some entry =>
    dsimp only
    rw [Option.bind_some]
    refine if_congr ?_ rfl rfl
    rw [ArpCache.isExpired_iff, hlifetime]

-- ---------------------------------------------------------------------------
-- Routed packets
-- ---------------------------------------------------------------------------

/-- The way of a packet by the log: the route programmed last among those of greatest
length for its destination, and the neighbor heard last at the next hop. -/
structure RoutedBy (log : ControlLog) (asic : SoftwareAsic) (frame : EthernetFrame)
    (now : TimePoint) (packet : Ipv4Packet) (route : RouteEntry) (egress : VirtualPort)
    (mac : MacAddress) (queue : PacketQueue) : Prop where
  parsed : Ipv4Packet.parse frame.payload = some packet
  timeToLive : 2 ≤ packet.timeToLive
  longest : IsProgrammedMatch log.routes packet.destination route
  found : asic.ports.find? route.outputPort = some egress
  operational : egress.operational = true
  neighbor : log.neighborAt (route.nextHop.getD packet.destination) now = some mac
  fits : EthernetFrame.headerSize + frame.payload.length ≤ egress.mtu
  queued : asic.queues.find? route.outputPort = some queue
  room : queue.admits = true

theorem routedBy_iff {log : ControlLog} {asic : SoftwareAsic} (h : Tells log asic)
    {frame : EthernetFrame} {now : TimePoint} {packet : Ipv4Packet} {route : RouteEntry}
    {egress : VirtualPort} {mac : MacAddress} {queue : PacketQueue} :
    RoutedBy log asic frame now packet route egress mac queue ↔
      Routable asic frame now packet route egress mac queue := by
  have hlongest : IsLongestMatch asic.routeTable packet.destination route ↔
      IsProgrammedMatch log.routes packet.destination route := by
    rw [h.routeTable]
    exact Ipv4RouteTable.isLongestMatch_iff
  have hneighbor : asic.arpCache.lookup (route.nextHop.getD packet.destination) now =
      log.neighborAt (route.nextHop.getD packet.destination) now := by
    rw [h.arpCache]
    exact lookup_run h.unswept _ now
  constructor
  · intro hby
    exact ⟨⟨hby.parsed, hby.timeToLive, hlongest.mpr hby.longest, hby.found, hby.operational,
      hneighbor.trans hby.neighbor⟩, hby.fits, hby.queued, hby.room⟩
  · intro hroutable
    exact ⟨hroutable.parsed, hroutable.timeToLive, hlongest.mp hroutable.longest, hroutable.found,
      hroutable.operational, hneighbor.symm.trans hroutable.neighbor, hroutable.fits,
      hroutable.queued, hroutable.room⟩

/-- What a frame that carries a packet parses as. -/
theorem parse_carrierFrame {sourceMac destinationMac : MacAddress} {packet : Ipv4Packet}
    {hfit : packet.serialize.length ≤ EthernetFrame.maximumPayloadSize} {carrier : EthernetFrame}
    (h : carrierFrame sourceMac destinationMac packet hfit = carrier) :
    EthernetFrame.parse carrier.serialize = some carrier ∧ carrier.source = sourceMac ∧
      carrier.destination = destinationMac ∧ Ipv4Packet.parse carrier.payload = some packet := by
  subst h
  refine ⟨EthernetFrame.parse_serialize fun _ => ?_, rfl, rfl, Ipv4Packet.parse_serialize packet⟩
  show EtherType.ipv4 ≠ EtherType.vlanTagged
  decide

/-- **Routing is decided by what the device was told.** After any run, `find_route` returns
the last word on a prefix and `find_neighbor` the last word on an address, of the control
plane or of an ARP packet, for a lifetime; and without faults a frame sent to routing is
routed exactly if the log knows its way, to the port of the programmed route of greatest
length and the neighbor entered last at its next hop. -/
theorem routing_from_history (capacity : Nat) (hcapacity : 0 < capacity)
    (operations : List Operation) {asic : SoftwareAsic} {log : ControlLog}
    (hrun : run controlledStep (create capacity hcapacity, .empty) operations = (asic, log)) :
    (∀ routePrefix, (asic.respond (.findRoute routePrefix)).1 =
      .route (programmed log.routes routePrefix)) ∧
    (∀ address now, (asic.respond (.findNeighbor address now)).1 =
      .neighbor (log.neighborAt address now)) ∧
    ∀ ingressPort bytes now port frame vlan, asic.faultInjector.config.Disabled →
      asic.arrival ingressPort bytes = .ok (port, frame) →
      (asic.pipeline ingressPort port frame now).1 = .routeIpv4 vlan →
      ((asic.processPacket ingressPort bytes now).1.disposition = .routed ↔
        ∃ packet route egress mac queue,
          RoutedBy log asic frame now packet route egress mac queue) ∧
      ∀ packet route egress mac queue, RoutedBy log asic frame now packet route egress mac queue →
        (asic.processPacket ingressPort bytes now).1.outputPorts = [route.outputPort] ∧
        ∃ after sent routed forwarded,
          (asic.processPacket ingressPort bytes now).2.queues.find? route.outputPort =
            some after ∧
          after.queue = queue.queue ++ [sent] ∧ EthernetFrame.parse sent = some routed ∧
          routed.source = egress.macAddress ∧ routed.destination = mac ∧
          Ipv4Packet.parse routed.payload = some forwarded ∧ Decrements packet forwarded := by
  have htells : Tells log asic := by
    have hstep : ∀ (state : SoftwareAsic × ControlLog) operation, Tells state.2 state.1 →
        Tells (controlledStep state operation).2 (controlledStep state operation).1 :=
      fun _ operation h => tells_step operation h
    have hall := run_invariant hstep (s := (create capacity hcapacity, .empty))
      (tells_create capacity hcapacity) operations
    rw [hrun] at hall
    exact hall
  refine ⟨?_, ?_, ?_⟩
  · intro routePrefix
    rw [respond, htells.routeTable, Ipv4RouteTable.findExact_run]
  · intro address now
    rw [respond, htells.arpCache, lookup_run htells.unswept]
  · intro ingressPort bytes now port frame vlan hdisabled harrival hroute
    refine ⟨⟨?_, ?_⟩, ?_⟩
    · intro hrouted
      obtain ⟨packet, route, egress, mac, queue, h⟩ :=
        routable_of_routed hdisabled harrival hroute hrouted
      exact ⟨packet, route, egress, mac, queue, (routedBy_iff htells).mpr h⟩
    · rintro ⟨packet, route, egress, mac, queue, h⟩
      exact (processPacket_of_routable hdisabled harrival hroute
        ((routedBy_iff htells).mp h)).1
    · intro packet route egress mac queue h
      obtain ⟨_, houtputs, _, forwarded, after, hdecrements, hafter, hqueued⟩ :=
        processPacket_of_routable hdisabled harrival hroute ((routedBy_iff htells).mp h)
      generalize hcarrier : carrierFrame egress.macAddress mac forwarded _ = carrier at hqueued
      obtain ⟨hparse, hsource, hdestination, hpayload⟩ := parse_carrierFrame hcarrier
      exact ⟨houtputs, after, carrier.serialize, carrier, forwarded, hafter, hqueued, hparse,
        hsource, hdestination, hpayload, hdecrements⟩

open Example in
/-- The neighbor that the control plane has entered is the one that is found. -/
theorem routing_from_history_router :
    ((device router).respond (.findNeighbor ⟨0x0A000209⟩ 7)).1 =
      .neighbor (some (hostMac 9)) := by
  have hdevice : (run controlledStep (create 8 (by decide), .empty) router).1 = device router :=
    fst_run_controlledStep (create 8 (by decide), .empty) router
  have hhistory := @routing_from_history 8 (by decide) router (device router)
    (run controlledStep (create 8 (by decide), .empty) router).2 (Prod.ext hdevice rfl)
  rw [hhistory.2.1]
  exact congrArg Answer.neighbor (by decide +kernel)

end SiliconSwitch.Asic.SoftwareAsic
