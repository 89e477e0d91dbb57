import SiliconSwitch.Asic.Components
import SiliconSwitch.Library.Transition

/-!
# The software ASIC

`SoftwareAsic`: its state, its control operations, the packet path and the
operations a driver may call, in any order.

`process_packet` ends in `enqueue_outputs` or returns before it. `ingress` is
its body up to that point: an early return is an `.error` result, the tail call
an `.ok` request. `enqueueOutput` is one iteration of the loop of
`enqueue_outputs`.

The throwing lookups `queues_.at` and `ports_.at` give an `.outOfRange` error.
-/

namespace SiliconSwitch.Asic

open SiliconSwitch.Library SiliconSwitch.Network SiliconSwitch.Routing SiliconSwitch.Switching

-- ---------------------------------------------------------------------------
-- State and results
-- ---------------------------------------------------------------------------

inductive AsicStatus
  | success
  | alreadyExists
  | notFound
  | invalidArgument
  | dependencyMissing
  | resourceExhausted
deriving DecidableEq

/-- What `std::map::at` throws. -/
inductive LookupError
  | outOfRange
deriving DecidableEq

inductive PacketDisposition
  | switched
  | flooded
  | routed
  | deliveredToControlPlane
  | dropped
deriving DecidableEq

inductive PacketDropReason
  | none
  | ingressPortUnavailable
  | malformedFrame
  | vlanRejected
  | forwardingFiltered
  | malformedIpv4
  | routeMiss
  | ttlExpired
  | neighborMiss
  | egressPortUnavailable
  | queueCongestion
  | injectedFault
  | resourceExhaustion
deriving DecidableEq

structure PacketProcessingResult where
  disposition : PacketDisposition
  dropReason : PacketDropReason
  outputPorts : List PortId
  injectedLatency : Duration
deriving DecidableEq

def dropped (reason : PacketDropReason) (latency : Duration) : PacketProcessingResult :=
  ⟨.dropped, reason, [], latency⟩

structure SoftwareAsic where
  ports : Table PortId VirtualPort
  queues : Table PortId PacketQueue
  vlans : Finset VlanId
  vlanMembers : Table VlanId (List PortId)
  routerInterfaces : RouterInterfaces
  macTable : MacTable
  routeTable : Ipv4RouteTable
  arpCache : ArpCache
  faultInjector : FaultInjector
  statistics : TrafficStatistics

namespace SoftwareAsic

/-- `SoftwareAsic::SoftwareAsic`, for a MAC table capacity that its table accepts. -/
def create (capacity : Nat) (hcapacity : 0 < capacity) : SoftwareAsic where
  ports := Table.empty
  queues := Table.empty
  vlans := ∅
  vlanMembers := Table.empty
  routerInterfaces := Table.empty
  macTable := MacTable.create capacity MacTable.defaultEntryLifetime hcapacity (by decide)
  routeTable := Ipv4RouteTable.empty
  arpCache := ArpCache.empty
  faultInjector := FaultInjector.create
  statistics := TrafficStatistics.create

-- ---------------------------------------------------------------------------
-- Control operations
-- ---------------------------------------------------------------------------

def createPort (asic : SoftwareAsic) (port : VirtualPort) (capacity : Nat) :
    AsicStatus × SoftwareAsic :=
  if hcapacity : capacity = 0 then (.invalidArgument, asic)
  else
    match asic.ports.find? port.id with
    | some _ => (.alreadyExists, asic)
    | none =>
      (.success,
       { asic with
         queues := asic.queues.emplace port.id
           (BoundedQueue.create capacity (Nat.pos_of_ne_zero hcapacity))
         ports := asic.ports.emplace port.id port })

/-- The members are erased before `queues_.at`, which may throw. -/
def removePort (asic : SoftwareAsic) (port : PortId) :
    Except LookupError AsicStatus × SoftwareAsic :=
  match asic.ports.find? port with
  | none => (.ok .notFound, asic)
  | some _ =>
    -- the loop over `vlan_members_`; the route and MAC tables are not visited
    let asic :=
      { asic with
        vlanMembers := asic.vlanMembers.mapValues fun list => list.filter fun id => id ≠ port }
    match asic.queues.find? port with
    | none => (.error .outOfRange, asic)
    | some _ =>
      (.ok .success,
       { asic with queues := asic.queues.erase port, ports := asic.ports.erase port })

def setPortState (asic : SoftwareAsic) (port : PortId) (admin link : Bool) :
    AsicStatus × SoftwareAsic :=
  match asic.ports.find? port with
  | none => (.notFound, asic)
  | some existing =>
    (.success,
     { asic with
       ports := asic.ports.set port ((existing.setAdminEnabled admin).setLinkUp link) })

def createVlan (asic : SoftwareAsic) (vlan : VlanId) : AsicStatus × SoftwareAsic :=
  (if vlan ∈ asic.vlans then .alreadyExists else .success,
   { asic with vlans := insert vlan asic.vlans })

/-- The list that `vlan_members_[vlan]` refers to; the subscript inserts an empty
one for a new key. -/
def memberList (asic : SoftwareAsic) (vlan : VlanId) : List PortId :=
  (asic.vlanMembers.find? vlan).getD []

def subscriptMembers (asic : SoftwareAsic) (vlan : VlanId) : SoftwareAsic :=
  { asic with vlanMembers := asic.vlanMembers.emplace vlan [] }

def removeVlan (asic : SoftwareAsic) (vlan : VlanId) : AsicStatus × SoftwareAsic :=
  if vlan ∉ asic.vlans then (.notFound, asic)
  else
    let asic := asic.subscriptMembers vlan
    if !(asic.memberList vlan).isEmpty || (asic.routerInterfaces.find? vlan).isSome then
      (.dependencyMissing, asic)
    else
      (.success,
       { asic with
         vlanMembers := asic.vlanMembers.erase vlan
         vlans := asic.vlans.erase vlan })

def addVlanMember (asic : SoftwareAsic) (vlan : VlanId) (port : PortId) :
    Except LookupError AsicStatus × SoftwareAsic :=
  if vlan ∉ asic.vlans ∨ asic.ports.find? port = none then (.ok .dependencyMissing, asic)
  else
    let asic := asic.subscriptMembers vlan
    let members := asic.memberList vlan
    if port ∈ members then (.ok .alreadyExists, asic)
    else
      -- `ports_.at`, which the first test has made safe
      match asic.ports.find? port with
      | none => (.error .outOfRange, asic)
      | some existing =>
        if !existing.vlanConfig.allows vlan then (.ok .invalidArgument, asic)
        else
          (.ok .success,
           { asic with vlanMembers := asic.vlanMembers.set vlan (members ++ [port]) })

/-- `valid_router_mac`. -/
def validRouterMac (mac : MacAddress) : Bool := mac.isNonzeroUnicast

def setRouterInterface (asic : SoftwareAsic) (vlan : VlanId) (mac : MacAddress) :
    AsicStatus × SoftwareAsic :=
  if vlan ∉ asic.vlans then (.dependencyMissing, asic)
  else if !validRouterMac mac then (.invalidArgument, asic)
  else (.success, { asic with routerInterfaces := asic.routerInterfaces.set vlan mac })

def addOrReplaceRoute (asic : SoftwareAsic) (route : RouteEntry) : AsicStatus × SoftwareAsic :=
  match asic.ports.find? route.outputPort with
  | none => (.dependencyMissing, asic)
  | some _ => (.success, { asic with routeTable := (asic.routeTable.addOrReplace route).2 })

def removeRoute (asic : SoftwareAsic) (routePrefix : Ipv4Prefix) : AsicStatus × SoftwareAsic :=
  let removed := asic.routeTable.remove routePrefix
  (if removed.1 then .success else .notFound, { asic with routeTable := removed.2 })

def addOrReplaceNeighbor (asic : SoftwareAsic) (address : Ipv4Address) (mac : MacAddress)
    (learnedAt : TimePoint) : AsicStatus × SoftwareAsic :=
  let update := asic.arpCache.addOrReplace address mac learnedAt
  (if update.1 = .rejected then .invalidArgument else .success,
   { asic with arpCache := update.2 })

def removeNeighbor (asic : SoftwareAsic) (address : Ipv4Address) : AsicStatus × SoftwareAsic :=
  let removed := asic.arpCache.remove address
  (if removed.1 then .success else .notFound, { asic with arpCache := removed.2 })

def configureFaults (asic : SoftwareAsic) (config : FaultInjectionConfig) :
    AsicStatus × SoftwareAsic :=
  match asic.faultInjector.setConfig config with
  | none => (.invalidArgument, asic)
  | some injector => (.success, { asic with faultInjector := injector })

def hasPort (asic : SoftwareAsic) (port : PortId) : Bool := (asic.ports.find? port).isSome

def hasVlan (asic : SoftwareAsic) (vlan : VlanId) : Bool := vlan ∈ asic.vlans

-- ---------------------------------------------------------------------------
-- Statistics and faults on the packet path
-- ---------------------------------------------------------------------------

/-- `statistics_.increment(counter, amount)`. -/
def increment (asic : SoftwareAsic) (counter : TrafficCounter) (amount : Nat) : SoftwareAsic :=
  { asic with statistics := asic.statistics.increment counter amount }

/-- `statistics_.increment(counter)`. -/
def count (asic : SoftwareAsic) (counter : TrafficCounter) : SoftwareAsic :=
  asic.increment counter 1

/-- `fault_injector_.process`. -/
def injectFault (asic : SoftwareAsic) (port : PortId) (bytes : List UInt8) :
    Except FaultDropReason FaultInjectedPacket × SoftwareAsic :=
  let fault := asic.faultInjector.process port bytes
  (fault.1, { asic with faultInjector := fault.2 })

/-- The counter of a fault, `resource_exhaustion` or `fault_drops`. -/
def faultCounter (reason : FaultDropReason) : TrafficCounter :=
  if reason = .resourceExhaustion then .resourceExhaustion else .faultDrops

def faultDropReason (reason : FaultDropReason) : PacketDropReason :=
  if reason = .resourceExhaustion then .resourceExhaustion else .injectedFault

def countCorruption (asic : SoftwareAsic) (packet : FaultInjectedPacket) : SoftwareAsic :=
  if packet.corrupted then asic.count .corruptedPackets else asic

/-- The counter of `count_pipeline_drop`. -/
def pipelineDropCounter : PipelineDropReason → TrafficCounter
  | .taggedFrameOnAccessPort | .untaggedFrameWithoutNativeVlan | .vlanNotAllowed => .vlanDrops
  | _ => .filteredFrames

def countPipelineDrop (asic : SoftwareAsic) (reason : PipelineDropReason) : SoftwareAsic :=
  asic.count (pipelineDropCounter reason)

/-- Write back a port that `receive` or `transmit` has updated. -/
def setPort (asic : SoftwareAsic) (id : PortId) (port : VirtualPort) : SoftwareAsic :=
  { asic with ports := asic.ports.set id port }

def setQueue (asic : SoftwareAsic) (id : PortId) (queue : PacketQueue) : SoftwareAsic :=
  { asic with queues := asic.queues.set id queue }

-- ---------------------------------------------------------------------------
-- Egress
-- ---------------------------------------------------------------------------

/-- The locals of `enqueue_outputs` that its loop updates, with the device. -/
structure EgressLoop where
  asic : SoftwareAsic
  latency : Duration
  outputs : List PortId

/-- One iteration of `enqueue_outputs`. -/
def enqueueOutput (frame : List UInt8) (loop : EgressLoop) (id : PortId) : EgressLoop :=
  match loop.asic.ports.find? id, loop.asic.queues.find? id with
  | some port, some queue =>
    if !port.operational then loop
    else
      match loop.asic.injectFault id frame with
      | (.error reason, asic) => { loop with asic := asic.count (faultCounter reason) }
      | (.ok packet, asic) =>
        let latency := max loop.latency packet.latency
        let asic := asic.countCorruption packet
        let size := packet.bytes.length
        if size > port.mtu then
          -- counted by the port only, as a transmit error
          { loop with asic := asic.setPort id (port.transmit size).2, latency }
        else
          match queue.tryEnqueue packet.bytes with
          | (.enqueued, queue) =>
            { asic := (((asic.setQueue id queue).setPort id (port.transmit size).2).count
                .egressPackets).increment .egressBytes size
              latency
              outputs := loop.outputs ++ [id] }
          -- full or closed
          | _ => { loop with asic := asic.count .queueDrops, latency }
  | _, _ => loop

def enqueueOutputs (asic : SoftwareAsic) (disposition : PacketDisposition)
    (requested : List PortId) (frame : List UInt8) (latency : Duration) :
    PacketProcessingResult × SoftwareAsic :=
  let loop := requested.foldl (enqueueOutput frame) ⟨asic, latency, []⟩
  if loop.outputs.isEmpty then (dropped .queueCongestion loop.latency, loop.asic)
  else (⟨disposition, .none, loop.outputs, loop.latency⟩, loop.asic)

-- ---------------------------------------------------------------------------
-- Ingress
-- ---------------------------------------------------------------------------

/-- The arguments of the call of `enqueue_outputs` that ends `process_packet`. -/
structure EgressRequest where
  disposition : PacketDisposition
  requested : List PortId
  frame : List UInt8
  latency : Duration

/-- The VLAN whose members `process_packet` looks up. -/
def memberLookupVlan (config : VlanPortConfig) (frame : EthernetFrame) : VlanId :=
  match config with
  | .access vlan => vlan
  | .trunk allowed native hnonempty _ =>
    match frame.vlanTag with
    | some tag => tag.vlanId
    -- `*allowed_vlans().begin()`, of an ordered set
    | none => native.getD (allowed.min' hnonempty)

/-- The `deliver_to_control_plane` branch of `process_packet`. -/
def deliverToControlPlane (asic : SoftwareAsic) (frame : EthernetFrame) (latency : Duration)
    (now : TimePoint) : Except PacketProcessingResult EgressRequest × SoftwareAsic :=
  match ArpPacket.parse frame.payload with
  | none => (.error (dropped .malformedFrame latency), asic.count .parseErrors)
  | some arp =>
    (.error ⟨.deliveredToControlPlane, .none, [], latency⟩,
     { asic with arpCache := (asic.arpCache.addOrReplace arp.senderIp arp.senderMac now).2 })

/-- The `route_ipv4` branch, once the packet has been forwarded. -/
def routeForwarded (asic : SoftwareAsic) (forwarded : ForwardedIpv4Packet) (latency : Duration)
    (now : TimePoint) : Except PacketProcessingResult EgressRequest × SoftwareAsic :=
  match asic.ports.find? forwarded.outputPort with
  | none => (.error (dropped .egressPortUnavailable latency), asic)
  | some egress =>
    if !egress.operational then (.error (dropped .egressPortUnavailable latency), asic)
    else
      match encapsulateIpv4InEthernet forwarded egress.macAddress asic.arpCache now with
      | .error .neighborNotFound =>
        (.error (dropped .neighborMiss latency), asic.count .neighborMisses)
      | .error _ => (.error (dropped .egressPortUnavailable latency), asic)
      | .ok encapsulated =>
        (.ok ⟨.routed, [forwarded.outputPort], encapsulated.serialize, latency⟩, asic)

/-- The `route_ipv4` branch of `process_packet`. -/
def routeIpv4 (asic : SoftwareAsic) (frame : EthernetFrame) (latency : Duration)
    (now : TimePoint) : Except PacketProcessingResult EgressRequest × SoftwareAsic :=
  match Ipv4Packet.parse frame.payload with
  | none => (.error (dropped .malformedIpv4 latency), asic.count .parseErrors)
  | some packet =>
    match forward asic.routeTable packet with
    | .error .routeNotFound => (.error (dropped .routeMiss latency), asic.count .routeMisses)
    | .error .timeToLiveExpired =>
      (.error (dropped .ttlExpired latency), asic.count .ttlExpirations)
    | .ok forwarded => asic.routeForwarded forwarded latency now

/-- The pipeline's verdict on a frame that `port` has received. -/
def pipeline (asic : SoftwareAsic) (ingressPort : PortId) (port : VirtualPort)
    (frame : EthernetFrame) (now : TimePoint) : PipelineDecision × MacTable :=
  processL2L3Ingress frame ingressPort port.vlanConfig
    (asic.memberList (memberLookupVlan port.vlanConfig frame)) asic.macTable
    asic.routerInterfaces now

/-- `process_packet` from the member lookup on. -/
def processFrame (asic : SoftwareAsic) (ingressPort : PortId) (port : VirtualPort)
    (frame : EthernetFrame) (latency : Duration) (now : TimePoint) :
    Except PacketProcessingResult EgressRequest × SoftwareAsic :=
  let pipeline := asic.pipeline ingressPort port frame now
  let asic := { asic with macTable := pipeline.2 }
  match pipeline.1 with
  -- one drop reason for all causes, although their counters differ
  | .drop _ reason => (.error (dropped .vlanRejected latency), asic.countPipelineDrop reason)
  | .deliverToControlPlane _ => asic.deliverToControlPlane frame latency now
  | .routeIpv4 _ => asic.routeIpv4 frame latency now
  | .flood _ outputPorts => (.ok ⟨.flooded, outputPorts, frame.serialize, latency⟩, asic)
  | .switchKnownUnicast _ outputPorts =>
    (.ok ⟨.switched, outputPorts, frame.serialize, latency⟩, asic)

/-- `process_packet` up to its tail call of `enqueue_outputs`. -/
def ingress (asic : SoftwareAsic) (ingressPort : PortId) (bytes : List UInt8) (now : TimePoint) :
    Except PacketProcessingResult EgressRequest × SoftwareAsic :=
  match asic.ports.find? ingressPort with
  | none => (.error (dropped .ingressPortUnavailable 0), asic)
  | some port =>
    if !port.operational then (.error (dropped .ingressPortUnavailable 0), asic)
    else
      let asic := (asic.count .ingressPackets).increment .ingressBytes bytes.length
      match asic.injectFault ingressPort bytes with
      | (.error reason, asic) =>
        (.error (dropped (faultDropReason reason) 0), asic.count (faultCounter reason))
      | (.ok injected, asic) =>
        let asic := asic.countCorruption injected
        match EthernetFrame.parse injected.bytes with
        | none =>
          (.error (dropped .malformedFrame injected.latency), asic.count .parseErrors)
        | some frame =>
          match port.receive frame.payload.length with
          -- the port counts the error, the device does not
          | (false, port) =>
            (.error (dropped .ingressPortUnavailable injected.latency),
             asic.setPort ingressPort port)
          | (true, port) =>
            (asic.setPort ingressPort port).processFrame ingressPort port frame injected.latency now

def processPacket (asic : SoftwareAsic) (ingressPort : PortId) (bytes : List UInt8)
    (now : TimePoint) : PacketProcessingResult × SoftwareAsic :=
  match asic.ingress ingressPort bytes now with
  | (.error result, asic) => (result, asic)
  | (.ok request, asic) =>
    asic.enqueueOutputs request.disposition request.requested request.frame request.latency

def dequeuePacket (asic : SoftwareAsic) (port : PortId) : Option (List UInt8) × SoftwareAsic :=
  match asic.queues.find? port with
  | none => (none, asic)
  | some queue => (queue.tryDequeue.1, asic.setQueue port queue.tryDequeue.2)

-- ---------------------------------------------------------------------------
-- Runs
-- ---------------------------------------------------------------------------

/-- A call of the device. -/
inductive Operation
  | createPort (port : VirtualPort) (queueCapacity : Nat)
  | removePort (port : PortId)
  | setPortState (port : PortId) (admin link : Bool)
  | createVlan (vlan : VlanId)
  | removeVlan (vlan : VlanId)
  | addVlanMember (vlan : VlanId) (port : PortId)
  | setRouterInterface (vlan : VlanId) (mac : MacAddress)
  | addOrReplaceRoute (route : RouteEntry)
  | removeRoute (routePrefix : Ipv4Prefix)
  | addOrReplaceNeighbor (address : Ipv4Address) (mac : MacAddress) (learnedAt : TimePoint)
  | removeNeighbor (address : Ipv4Address)
  | configureFaults (config : FaultInjectionConfig)
  | processPacket (ingressPort : PortId) (bytes : List UInt8) (now : TimePoint)
  | dequeuePacket (port : PortId)

/-- The device after a call, whatever the call returns or throws. -/
def step (asic : SoftwareAsic) : Operation → SoftwareAsic
  | .createPort port queueCapacity => (asic.createPort port queueCapacity).2
  | .removePort port => (asic.removePort port).2
  | .setPortState port admin link => (asic.setPortState port admin link).2
  | .createVlan vlan => (asic.createVlan vlan).2
  | .removeVlan vlan => (asic.removeVlan vlan).2
  | .addVlanMember vlan port => (asic.addVlanMember vlan port).2
  | .setRouterInterface vlan mac => (asic.setRouterInterface vlan mac).2
  | .addOrReplaceRoute route => (asic.addOrReplaceRoute route).2
  | .removeRoute routePrefix => (asic.removeRoute routePrefix).2
  | .addOrReplaceNeighbor address mac learnedAt =>
    (asic.addOrReplaceNeighbor address mac learnedAt).2
  | .removeNeighbor address => (asic.removeNeighbor address).2
  | .configureFaults config => (asic.configureFaults config).2
  | .processPacket ingressPort bytes now => (asic.processPacket ingressPort bytes now).2
  | .dequeuePacket port => (asic.dequeuePacket port).2

/-- A state that some calls lead to, from a fresh device of some MAC capacity. -/
def Reachable (asic : SoftwareAsic) : Prop :=
  ∃ (capacity : Nat) (hcapacity : 0 < capacity) (operations : List Operation),
    asic = run step (create capacity hcapacity) operations

/-- An invariant of the calls holds of every reachable state. -/
theorem Reachable.invariant {I : SoftwareAsic → Prop}
    (hcreate : ∀ capacity hcapacity, I (create capacity hcapacity))
    (hstep : ∀ asic operation, I asic → I (asic.step operation))
    {asic : SoftwareAsic} (h : asic.Reachable) : I asic := by
  obtain ⟨capacity, hcapacity, operations, rfl⟩ := h
  exact run_invariant hstep (hcreate capacity hcapacity) operations

end SoftwareAsic

end SiliconSwitch.Asic
