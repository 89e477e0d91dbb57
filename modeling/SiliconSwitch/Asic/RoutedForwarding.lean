import SiliconSwitch.Asic.Link
import SiliconSwitch.Network.Ipv4Codec
import SiliconSwitch.Routing.LongestPrefix

/-!
# Routed forwarding, end to end

What becomes of a frame that the pipeline sends to routing, from its payload to the
octets in the queue of the egress port, when no faults are injected.

* `verdict_of_routable`, `routable_of_routed` — the conditions under which the packet
  is routed, each stage's precondition met by the one before it;
* `routed_forwarding` — they are exact, and the queued octets carry the packet of the
  payload one hop on; the failures in between that the code allows for do not happen.
-/

namespace SiliconSwitch.Asic.SoftwareAsic

open SiliconSwitch.Library SiliconSwitch.Network SiliconSwitch.Routing SiliconSwitch.Switching

-- ---------------------------------------------------------------------------
-- The conditions
-- ---------------------------------------------------------------------------

/-- The way of a packet through the device: the frame's payload is `packet`, `route` its
longest match, `egress` the operational port of the route, `mac` the neighbor at the
next hop. -/
structure Resolves (asic : SoftwareAsic) (frame : EthernetFrame) (now : TimePoint)
    (packet : Ipv4Packet) (route : RouteEntry) (egress : VirtualPort) (mac : MacAddress) :
    Prop where
  parsed : Ipv4Packet.parse frame.payload = some packet
  timeToLive : 2 ≤ packet.timeToLive
  longest : IsLongestMatch asic.routeTable packet.destination route
  found : asic.ports.find? route.outputPort = some egress
  operational : egress.operational = true
  neighbor : asic.arpCache.lookup (route.nextHop.getD packet.destination) now = some mac

/-- A packet on its way whose frame fits the port and its queue; the frame sent has a
payload of the size of the one received. -/
structure Routable (asic : SoftwareAsic) (frame : EthernetFrame) (now : TimePoint)
    (packet : Ipv4Packet) (route : RouteEntry) (egress : VirtualPort) (mac : MacAddress)
    (queue : PacketQueue) : Prop extends Resolves asic frame now packet route egress mac where
  fits : EthernetFrame.headerSize + frame.payload.length ≤ egress.mtu
  queued : asic.queues.find? route.outputPort = some queue
  room : queue.admits = true

/-- A packet one hop on has the size of the payload that it was parsed from. -/
theorem length_serialize_of_decrements {bytes : List UInt8} {packet forwarded : Ipv4Packet}
    (hparse : Ipv4Packet.parse bytes = some packet) (h : Decrements packet forwarded) :
    forwarded.serialize.length = bytes.length := by
  obtain ⟨_, rfl⟩ := h
  rw [Ipv4Packet.length_serialize, ← Ipv4Packet.length_payload_of_parse hparse]

/-- So it fits a frame. -/
theorem serialize_le_of_decrements {frame : EthernetFrame} {packet forwarded : Ipv4Packet}
    (hparse : Ipv4Packet.parse frame.payload = some packet) (h : Decrements packet forwarded) :
    forwarded.serialize.length ≤ EthernetFrame.maximumPayloadSize := by
  rw [length_serialize_of_decrements hparse h]
  exact frame.payload_le

theorem length_serialize_carrierFrame (sourceMac mac : MacAddress) {packet : Ipv4Packet}
    (hfit : packet.serialize.length ≤ EthernetFrame.maximumPayloadSize) :
    (carrierFrame sourceMac mac packet hfit).serialize.length =
      EthernetFrame.headerSize + packet.serialize.length :=
  EthernetFrame.length_serialize _

/-- A packet that resolves leaves the body as a request for one copy. -/
theorem routeVerdict_of_resolves {asic : SoftwareAsic} {frame : EthernetFrame} {now : TimePoint}
    {packet : Ipv4Packet} {route : RouteEntry} {egress : VirtualPort} {mac : MacAddress}
    (h : Resolves asic frame now packet route egress mac) :
    ∃ forwarded, ∃ hdecrements : Decrements packet forwarded,
      asic.routeVerdict frame now = .egress .routed [route.outputPort]
        (carrierFrame egress.macAddress mac forwarded
          (serialize_le_of_decrements h.parsed hdecrements)).serialize := by
  obtain ⟨forwarded, hdecrements⟩ := exists_decrements h.timeToLive
  have hforward : forward asic.routeTable packet =
      .ok ⟨forwarded, route.outputPort, route.nextHop.getD packet.destination⟩ :=
    forward_eq_ok.mpr ⟨h.timeToLive, hdecrements, route,
      longestPrefixMatch_eq_some.mpr h.longest, rfl, rfl⟩
  have hencapsulate : encapsulateIpv4InEthernet
      ⟨forwarded, route.outputPort, route.nextHop.getD packet.destination⟩ egress.macAddress
        asic.arpCache now = .ok (carrierFrame egress.macAddress mac forwarded
          (serialize_le_of_decrements h.parsed hdecrements)) :=
    (encapsulateIpv4InEthernet_eq_ok egress.macAddress_valid _).mpr ⟨mac, h.neighbor, rfl⟩
  refine ⟨forwarded, hdecrements, ?_⟩
  rw [routeVerdict, h.parsed]
  dsimp only
  rw [hforward]
  dsimp only
  rw [forwardedVerdict, h.found]
  dsimp only
  rw [h.operational, Bool.not_true, if_neg Bool.false_ne_true, hencapsulate]

/-- A request that routing leaves comes from a packet that resolves. -/
theorem resolves_of_routeVerdict {asic : SoftwareAsic} {frame : EthernetFrame} {now : TimePoint}
    {disposition : PacketDisposition} {requested : List PortId} {bytes : List UInt8}
    (h : asic.routeVerdict frame now = .egress disposition requested bytes) :
    ∃ packet route egress mac, Resolves asic frame now packet route egress mac ∧
      requested = [route.outputPort] ∧
      bytes.length = EthernetFrame.headerSize + frame.payload.length := by
  obtain ⟨packet, forwarded, egress, encapsulated, hparse, hforward, hegress, hup, hencapsulate,
    _, rfl, rfl⟩ := routeVerdict_egress h
  obtain ⟨httl, hdecrements, route, hroute, hport, hhop⟩ := forward_eq_ok.mp hforward
  obtain ⟨mac, hneighbor, rfl⟩ := (encapsulateIpv4InEthernet_eq_ok egress.macAddress_valid
    (serialize_le_of_decrements hparse hdecrements)).mp hencapsulate
  rw [hport] at hegress ⊢
  rw [hhop] at hneighbor
  refine ⟨packet, route, egress, mac, ⟨hparse, httl, longestPrefixMatch_eq_some.mp hroute, hegress,
    hup, hneighbor⟩, rfl, ?_⟩
  rw [length_serialize_carrierFrame, length_serialize_of_decrements hparse hdecrements]

-- ---------------------------------------------------------------------------
-- The result
-- ---------------------------------------------------------------------------

section Routed

variable {asic : SoftwareAsic} {ingressPort : PortId} {bytes : List UInt8} {now : TimePoint}
  {port : VirtualPort} {frame : EthernetFrame} {vlan : VlanId}

/-- The exit of a frame that the pipeline sends to routing. -/
theorem verdict_of_routeIpv4 (harrival : asic.arrival ingressPort bytes = .ok (port, frame))
    (hroute : (asic.pipeline ingressPort port frame now).1 = .routeIpv4 vlan) :
    asic.verdict ingressPort bytes now = asic.routeVerdict frame now := by
  rw [verdict, harrival]
  simp only [hroute, decisionVerdict]

/-- What a routed packet leaves: its one output port, and the carrier frame of the packet
one hop on at the end of that port's queue and in no other. -/
theorem processPacket_of_routable (hdisabled : asic.faultInjector.config.Disabled)
    (harrival : asic.arrival ingressPort bytes = .ok (port, frame))
    (hroute : (asic.pipeline ingressPort port frame now).1 = .routeIpv4 vlan)
    {packet : Ipv4Packet} {route : RouteEntry} {egress : VirtualPort} {mac : MacAddress}
    {queue : PacketQueue} (h : Routable asic frame now packet route egress mac queue) :
    (asic.processPacket ingressPort bytes now).1.disposition = .routed ∧
      (asic.processPacket ingressPort bytes now).1.outputPorts = [route.outputPort] ∧
      (∀ other, other ≠ route.outputPort →
        (asic.processPacket ingressPort bytes now).2.queues.find? other =
          asic.queues.find? other) ∧
      ∃ forwarded after, ∃ hdecrements : Decrements packet forwarded,
        (asic.processPacket ingressPort bytes now).2.queues.find? route.outputPort = some after ∧
        after.queue = queue.queue ++ [(carrierFrame egress.macAddress mac forwarded
          (serialize_le_of_decrements h.parsed hdecrements)).serialize] := by
  obtain ⟨forwarded, hdecrements, hverdict⟩ := routeVerdict_of_resolves h.toResolves
  rw [← verdict_of_routeIpv4 harrival hroute] at hverdict
  have hlength := length_serialize_carrierFrame egress.macAddress mac
    (serialize_le_of_decrements h.parsed hdecrements)
  rw [length_serialize_of_decrements h.parsed hdecrements] at hlength
  generalize hcarrier : (carrierFrame egress.macAddress mac forwarded
    (serialize_le_of_decrements h.parsed hdecrements)).serialize = carrier at hverdict hlength
  have hfate : copyFate asic asic.faultInjector.advance carrier route.outputPort =
      .enqueued carrier :=
    copyFate_of_disabled hdisabled h.found h.operational h.queued (by rw [hlength]; exact h.fits)
      h.room
  have hcopies : copies asic asic.faultInjector.advance carrier [route.outputPort] =
      [(route.outputPort, .enqueued carrier)] := by
    rw [copies, copies, hfate]
  have htables := processPacket_tables hverdict
  rw [hcopies] at htables
  refine ⟨?_, ?_, ?_, forwarded, (CopyFate.enqueued carrier).onQueue queue, hdecrements, ?_, ?_⟩
  · obtain ⟨latency, hresult⟩ := processPacket_result asic ingressPort bytes now
    rw [hresult, packetCopies, hverdict, requestedCopies, hcopies]
    rfl
  · rw [processPacket_outputPorts hverdict, hcopies]
    rfl
  · intro other hother
    exact (htables.2 other (by simpa using hother)).2
  · rw [(htables.1 _ _ (List.mem_singleton_self _)).2, h.queued, Option.map_some]
  · rw [onQueue_enqueued h.room, hcarrier]

/-- A frame that is routed resolves, and fits its port and queue. -/
theorem routable_of_routed (hdisabled : asic.faultInjector.config.Disabled)
    (harrival : asic.arrival ingressPort bytes = .ok (port, frame))
    (hroute : (asic.pipeline ingressPort port frame now).1 = .routeIpv4 vlan)
    (h : (asic.processPacket ingressPort bytes now).1.disposition = .routed) :
    ∃ packet route egress mac queue, Routable asic frame now packet route egress mac queue := by
  obtain ⟨latency, hresult⟩ := processPacket_result asic ingressPort bytes now
  have hverdict := verdict_of_routeIpv4 harrival hroute
  rw [hresult, packetCopies] at h
  cases hexit : asic.verdict ingressPort bytes now with
  | egress disposition requested carrier =>
    rw [hexit] at h hverdict
    obtain ⟨packet, route, egress, mac, hresolves, rfl, hlength⟩ :=
      resolves_of_routeVerdict hverdict.symm
    -- a congestion drop has another disposition, so the copy has been accepted
    have haccepted :
        accepted (copies asic asic.faultInjector.advance carrier [route.outputPort]) ≠ [] := by
      intro hnone
      rw [packetResult, requestedCopies, hnone] at h
      simp [dropped] at h
    obtain ⟨id, hid⟩ := List.exists_mem_of_ne_nil _ haccepted
    obtain ⟨copied, hcopy⟩ := mem_accepted.mp hid
    obtain rfl := List.mem_singleton.mp (requested_of_mem_copies hcopy)
    obtain ⟨_, found, queue, hfound, _, hqueue, hfits, hroom⟩ :=
      enqueued_of_disabled
        (by rw [FaultInjector.advance_config]; exact hdisabled) hcopy
    rw [hresolves.found, Option.some.injEq] at hfound
    subst hfound
    rw [hlength] at hfits
    exact ⟨packet, route, egress, mac, queue, hresolves, hfits, hqueue, hroom⟩
  | _ =>
    rw [hexit] at h
    simp [packetResult, Verdict.disposition] at h

/-- **Routed forwarding is exact end to end.** Without faults, a frame sent to routing is
routed exactly if its payload is a packet with a TTL of at least 2, the longest match
for its destination leads to an operational port, the next hop is a neighbor, and the
frame fits the port's MTU and queue. Then that port is the only output, and one frame
is added to its queue: untagged, from the port's MAC to the neighbor's, around the
packet one hop on. No other failure of the TTL update or the encapsulation occurs. -/
theorem routed_forwarding (hdisabled : asic.faultInjector.config.Disabled)
    (harrival : asic.arrival ingressPort bytes = .ok (port, frame))
    (hroute : (asic.pipeline ingressPort port frame now).1 = .routeIpv4 vlan) :
    ((asic.processPacket ingressPort bytes now).1.disposition = .routed ↔
      ∃ packet route egress mac queue, Routable asic frame now packet route egress mac queue) ∧
    (∀ packet route egress mac queue, Routable asic frame now packet route egress mac queue →
      (asic.processPacket ingressPort bytes now).1.outputPorts = [route.outputPort] ∧
      (∀ other, other ≠ route.outputPort →
        (asic.processPacket ingressPort bytes now).2.queues.find? other =
          asic.queues.find? other) ∧
      ∃ after queued routed forwarded,
        (asic.processPacket ingressPort bytes now).2.queues.find? route.outputPort = some after ∧
        after.queue = queue.queue ++ [queued] ∧
        queued.length = EthernetFrame.headerSize + frame.payload.length ∧
        EthernetFrame.parse queued = some routed ∧ routed.vlanTag = none ∧
        routed.etherType = EtherType.ipv4 ∧ routed.source = egress.macAddress ∧
        routed.destination = mac ∧ Ipv4Packet.parse routed.payload = some forwarded ∧
        Decrements packet forwarded ∧
        hasValidInternetChecksum (routed.payload.take Ipv4Packet.headerSize) = true) ∧
    ∀ packet, Ipv4Packet.parse frame.payload = some packet →
      (¬ packet.timeToLive ≤ 1 → decrementedPacket packet ≠ none) ∧
      ∀ forwarded egress failure, forward asic.routeTable packet = .ok forwarded →
        asic.ports.find? forwarded.outputPort = some egress →
        encapsulateIpv4InEthernet forwarded egress.macAddress asic.arpCache now = .error failure →
        failure = .neighborNotFound := by
  refine ⟨⟨routable_of_routed hdisabled harrival hroute, ?_⟩, ?_, ?_⟩
  · rintro ⟨packet, route, egress, mac, queue, h⟩
    exact (processPacket_of_routable hdisabled harrival hroute h).1
  · intro packet route egress mac queue h
    obtain ⟨_, houtputs, hothers, forwarded, after, hdecrements, hafter, hqueued⟩ :=
      processPacket_of_routable hdisabled harrival hroute h
    refine ⟨houtputs, hothers, after, _, _, forwarded, hafter, hqueued, ?_,
      EthernetFrame.parse_serialize ?_, rfl, rfl, rfl, rfl, Ipv4Packet.parse_serialize forwarded,
      hdecrements, ?_⟩
    · rw [length_serialize_carrierFrame, length_serialize_of_decrements h.parsed hdecrements]
    · exact fun _ => (by decide : EtherType.ipv4 ≠ EtherType.vlanTagged)
    · show hasValidInternetChecksum (forwarded.serialize.take Ipv4Packet.headerSize) = true
      rw [Ipv4Packet.serialize_eq_layout,
        List.take_left' (Ipv4Packet.length_header forwarded)]
      exact Ipv4Packet.hasValidInternetChecksum_header forwarded
  · intro packet hparse
    constructor
    · intro httl hnone
      obtain ⟨_, hsome⟩ := decrementedPacket_eq httl
      rw [hnone] at hsome
      simp at hsome
    · intro forwarded egress failure hforward _ hfailure
      obtain ⟨_, hdecrements, _⟩ := forward_eq_ok.mp hforward
      exact encapsulateIpv4InEthernet_error egress.macAddress_valid
        (serialize_le_of_decrements hparse hdecrements) hfailure

end Routed

namespace Example

/-- The network 10.0.2.0/24, connected to the second port. -/
def remoteRoute : RouteEntry :=
  ⟨⟨⟨0x0A000200⟩, 24, by decide, by decide⟩, none, secondPort, RouteEntry.connected_valid⟩

/-- A datagram from 10.0.1.9 to 10.0.2.9. -/
def datagram : Ipv4Packet :=
  ⟨⟨0x0A000109⟩, ⟨0x0A000209⟩, ⟨17⟩, [], 64, 0, false, by decide, by decide⟩

theorem datagram_fits : datagram.serialize.length ≤ EthernetFrame.maximumPayloadSize := by
  rw [Ipv4Packet.length_serialize]
  decide

/-- The frame that carries it to the router interface of the VLAN. -/
def datagramFrame : EthernetFrame := carrierFrame (hostMac 1) (hostMac 0xFE) datagram datagram_fits

/-- Two ports, a router interface on the VLAN of the first, and a route and a neighbor
behind the second. -/
def router : List Operation :=
  twoPorts ++ [.setRouterInterface vlan (hostMac 0xFE), .addOrReplaceRoute remoteRoute,
    .addOrReplaceNeighbor ⟨0x0A000209⟩ (hostMac 9) 0]

end Example

open Example in
/-- The datagram is routed to the second port. -/
theorem routed_forwarding_datagram :
    ((device router).processPacket firstPort datagramFrame.serialize 0).1.disposition = .routed := by
  have hforwarding := @routed_forwarding (device router) firstPort datagramFrame.serialize 0
    (accessPort firstPort) datagramFrame vlan ⟨rfl, rfl, rfl, rfl⟩ rfl (by decide +kernel)
  refine hforwarding.1.mpr ⟨datagram, remoteRoute, accessPort secondPort, hostMac 9,
    BoundedQueue.create 4 (by decide), ⟨?_, ?_, ?_, rfl, rfl, ?_⟩, ?_, rfl, rfl⟩
  · exact Ipv4Packet.parse_serialize datagram
  · decide
  · exact longestPrefixMatch_eq_some.mp (by decide +kernel)
  · decide +kernel
  · decide +kernel

end SiliconSwitch.Asic.SoftwareAsic
