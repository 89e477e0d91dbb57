import SiliconSwitch.Library.Keyed
import SiliconSwitch.Network.EthernetFrame
import SiliconSwitch.Network.Packet

/-!
# IPv4 routing

`silicon_switch::routing`: port identifiers, the route table with its
longest-prefix match, the ARP cache, the TTL decrement, the forwarding engine
and the Ethernet encapsulation of a forwarded packet.
-/

namespace SiliconSwitch

/-- A `steady_clock` time point, in nanoseconds. -/
abbrev TimePoint : Type := Int

/-- A `steady_clock` duration, in nanoseconds. -/
abbrev Duration : Type := Int

/-- The test of the caches, that an entry is old enough: with a positive lifetime, its
first comparison never decides. -/
theorem aged_iff {learnedAt now : TimePoint} {lifetime : Duration} (hlifetime : 0 < lifetime) :
    now ≥ learnedAt ∧ now - learnedAt ≥ lifetime ↔ learnedAt + lifetime ≤ now := by
  have hage : ∀ start stop span : Int, 0 < span →
      (stop ≥ start ∧ stop - start ≥ span ↔ start + span ≤ stop) := by
    intro start stop span hspan
    omega
  exact hage learnedAt now lifetime hlifetime

end SiliconSwitch

namespace SiliconSwitch.Routing

open SiliconSwitch.Library SiliconSwitch.Network

-- ---------------------------------------------------------------------------
-- Ports and routes
-- ---------------------------------------------------------------------------

structure PortId where
  value : UInt16
  value_ne_zero : value ≠ 0
deriving DecidableEq

namespace PortId

def create (value : UInt16) : Option PortId := if h : value = 0 then none else some ⟨value, h⟩

end PortId

structure RouteEntry where
  routePrefix : Ipv4Prefix
  nextHop : Option Ipv4Address
  outputPort : PortId
  nextHop_valid : ∀ hop ∈ nextHop,
    (hop.isUnspecified || hop.isMulticast || hop.isLimitedBroadcast) = false
deriving DecidableEq

namespace RouteEntry

/-- A connected route has no next hop to check. -/
theorem connected_valid : ∀ hop ∈ (none : Option Ipv4Address),
    (hop.isUnspecified || hop.isMulticast || hop.isLimitedBroadcast) = false := by
  simp

def create (routePrefix : Ipv4Prefix) (nextHop : Option Ipv4Address) (outputPort : PortId) :
    Option RouteEntry :=
  match nextHop with
  | none => some ⟨routePrefix, none, outputPort, connected_valid⟩
  | some hop =>
    if h : (hop.isUnspecified || hop.isMulticast || hop.isLimitedBroadcast) = true then none
    else some ⟨routePrefix, some hop, outputPort, by simpa using h⟩

end RouteEntry

inductive RouteUpdate
  | inserted
  | replaced
deriving DecidableEq

/-- The route vector, at most one entry for a prefix. -/
structure Ipv4RouteTable where
  entries : List RouteEntry
  nodup : (entries.map RouteEntry.routePrefix).Nodup

namespace Ipv4RouteTable

def empty : Ipv4RouteTable := ⟨[], List.nodup_nil⟩

def addOrReplace (table : Ipv4RouteTable) (entry : RouteEntry) : RouteUpdate × Ipv4RouteTable :=
  (if table.entries.any fun candidate => candidate.routePrefix == entry.routePrefix
    then .replaced else .inserted,
   ⟨upsert RouteEntry.routePrefix entry table.entries,
    nodup_upsert RouteEntry.routePrefix table.nodup⟩)

def remove (table : Ipv4RouteTable) (routePrefix : Ipv4Prefix) : Bool × Ipv4RouteTable :=
  (table.entries.any fun entry => entry.routePrefix == routePrefix,
   ⟨table.entries.eraseP fun entry => entry.routePrefix == routePrefix,
    table.nodup.sublist (List.eraseP_sublist.map _)⟩)

def findExact (table : Ipv4RouteTable) (routePrefix : Ipv4Prefix) : Option RouteEntry :=
  table.entries.find? fun entry => entry.routePrefix == routePrefix

/-- Removing a route that is not there changes nothing. -/
theorem remove_of_missing {table : Ipv4RouteTable} {routePrefix : Ipv4Prefix}
    (h : (table.remove routePrefix).1 = false) : (table.remove routePrefix).2 = table := by
  have hentries : (table.remove routePrefix).2.entries = table.entries := by
    apply List.eraseP_of_forall_not
    exact List.any_eq_false.mp h
  cases table
  rw [Ipv4RouteTable.mk.injEq]
  exact hentries

/-- `best_match == nullptr || entry.prefix().length() > best_match->prefix().length()`. -/
def isLonger (entry : RouteEntry) : Option RouteEntry → Bool
  | none => true
  | some bestMatch => entry.routePrefix.length > bestMatch.routePrefix.length

/-- One iteration of `longest_prefix_match`. -/
def longerMatch (destination : Ipv4Address) (best : Option RouteEntry) (entry : RouteEntry) :
    Option RouteEntry :=
  if entry.routePrefix.contains destination && isLonger entry best then some entry else best

def longestPrefixMatch (table : Ipv4RouteTable) (destination : Ipv4Address) : Option RouteEntry :=
  table.entries.foldl (longerMatch destination) none

theorem mem_addOrReplace {table : Ipv4RouteTable} {entry route : RouteEntry}
    (h : route ∈ (table.addOrReplace entry).2.entries) : route = entry ∨ route ∈ table.entries := by
  have hmem : ∀ records : List RouteEntry,
      route ∈ upsert RouteEntry.routePrefix entry records → route = entry ∨ route ∈ records := by
    intro records
    induction records with
    | nil => simp [upsert]
    | cons head rest ih =>
      rw [upsert]
      split
      · rw [List.mem_cons, List.mem_cons]
        exact fun h => h.imp_right Or.inr
      · rw [List.mem_cons, List.mem_cons]
        rintro (rfl | hrest)
        · exact Or.inr (Or.inl rfl)
        · exact (ih hrest).imp_right Or.inr
  exact hmem table.entries h

theorem mem_remove {table : Ipv4RouteTable} {routePrefix : Ipv4Prefix} {route : RouteEntry}
    (h : route ∈ (table.remove routePrefix).2.entries) : route ∈ table.entries :=
  List.mem_of_mem_eraseP h

end Ipv4RouteTable

-- ---------------------------------------------------------------------------
-- ARP cache
-- ---------------------------------------------------------------------------

inductive ArpCacheUpdate
  | inserted
  | replaced
  | rejected
deriving DecidableEq

structure ArpEntry where
  macAddress : MacAddress
  learnedAt : TimePoint
deriving DecidableEq

structure ArpCache where
  entryLifetime : Duration
  entries : Table Ipv4Address ArpEntry
  entryLifetime_pos : 0 < entryLifetime

namespace ArpCache

def defaultEntryLifetime : Duration := 300 * 1000000000

def create (entryLifetime : Duration) (hlifetime : 0 < entryLifetime) : ArpCache :=
  ⟨entryLifetime, Table.empty, hlifetime⟩

def empty : ArpCache := create defaultEntryLifetime (by decide)

def isValidAddress (address : Ipv4Address) : Bool :=
  !address.isUnspecified && !address.isMulticast && !address.isLimitedBroadcast

/-- `is_valid_mac_address`. -/
def isValidMacAddress (address : MacAddress) : Bool := address.isNonzeroUnicast

def isExpired (cache : ArpCache) (entry : ArpEntry) (now : TimePoint) : Bool :=
  now ≥ entry.learnedAt && now - entry.learnedAt ≥ cache.entryLifetime

def addOrReplace (cache : ArpCache) (address : Ipv4Address) (macAddress : MacAddress)
    (learnedAt : TimePoint) : ArpCacheUpdate × ArpCache :=
  if !isValidAddress address || !isValidMacAddress macAddress then (.rejected, cache)
  else
    (match cache.entries.find? address with
      | none => .inserted
      | some _ => .replaced,
     { cache with entries := cache.entries.set address ⟨macAddress, learnedAt⟩ })

def lookup (cache : ArpCache) (address : Ipv4Address) (now : TimePoint) : Option MacAddress :=
  match cache.entries.find? address with
  | none => none
  | some entry => if cache.isExpired entry now then none else some entry.macAddress

def remove (cache : ArpCache) (address : Ipv4Address) : Bool × ArpCache :=
  ((cache.entries.find? address).isSome, { cache with entries := cache.entries.erase address })

/-- A rejected neighbor changes nothing. -/
theorem addOrReplace_of_rejected {cache : ArpCache} {address : Ipv4Address}
    {macAddress : MacAddress} {learnedAt : TimePoint}
    (h : (cache.addOrReplace address macAddress learnedAt).1 = .rejected) :
    (cache.addOrReplace address macAddress learnedAt).2 = cache := by
  rw [addOrReplace] at h ⊢
  split at h
  · rename_i hinvalid
    rw [if_pos hinvalid]
  · split at h <;> simp at h

/-- Removing a neighbor that is not there changes nothing. -/
theorem remove_of_missing {cache : ArpCache} {address : Ipv4Address}
    (h : (cache.remove address).1 = false) : (cache.remove address).2 = cache := by
  rw [remove, Option.isSome_eq_false_iff, Option.isNone_iff_eq_none] at h
  rw [remove, Table.erase_of_none h]

def expire (cache : ArpCache) (now : TimePoint) : Nat × ArpCache :=
  let kept := cache.entries.filter fun _ entry => !cache.isExpired entry now
  (cache.entries.size - kept.size, { cache with entries := kept })

end ArpCache

-- ---------------------------------------------------------------------------
-- Forwarding
-- ---------------------------------------------------------------------------

inductive Ipv4DropReason
  | timeToLiveExpired
  | routeNotFound
deriving DecidableEq

structure ForwardedIpv4Packet where
  packet : Ipv4Packet
  outputPort : PortId
  nextHop : Ipv4Address
deriving DecidableEq

/-- The packet that `decrement_ipv4_ttl` creates, for a TTL above one. -/
def decrementedPacket (packet : Ipv4Packet) : Option Ipv4Packet :=
  Ipv4Packet.create packet.source packet.destination packet.protocol packet.payload
    (packet.timeToLive - 1) packet.identification packet.dontFragment

theorem decrementedPacket_eq {packet : Ipv4Packet} (h : ¬ packet.timeToLive ≤ 1) :
    ∃ hpos : packet.timeToLive - 1 ≠ 0,
      decrementedPacket packet =
        some { packet with
          timeToLive := packet.timeToLive - 1
          timeToLive_ne_zero := hpos } := by
  have hpos : packet.timeToLive - 1 ≠ 0 := by
    intro hzero
    have hone : packet.timeToLive = 1 := by
      rw [← UInt8.sub_add_cancel packet.timeToLive 1, hzero]
      rfl
    exact h (by rw [hone]; exact UInt8.le_refl 1)
  refine ⟨hpos, ?_⟩
  rw [decrementedPacket, Ipv4Packet.create, dif_neg]
  rintro (hlarge | hzero)
  · exact absurd packet.payload_le (Nat.not_le_of_gt hlarge)
  · exact hpos hzero

/-- `decrement_ipv4_ttl`; the optional it dereferences is never empty. -/
def decrementIpv4Ttl (packet : Ipv4Packet) : Except Ipv4DropReason Ipv4Packet :=
  if h : packet.timeToLive ≤ 1 then .error .timeToLiveExpired
  else .ok ((decrementedPacket packet).get (by
    obtain ⟨_, heq⟩ := decrementedPacket_eq h
    rw [heq]
    rfl))

/-- A decremented packet keeps its payload. -/
theorem decrementIpv4Ttl_payload {packet result : Ipv4Packet}
    (h : decrementIpv4Ttl packet = .ok result) : result.payload = packet.payload := by
  rw [decrementIpv4Ttl] at h
  split at h
  · simp at h
  · rename_i httl
    obtain ⟨hpos, heq⟩ := decrementedPacket_eq httl
    simp only [heq, Option.get_some, Except.ok.injEq] at h
    rw [← h]

/-- A packet one hop on: the same but for a TTL one less. -/
def Decrements (packet forwarded : Ipv4Packet) : Prop :=
  ∃ hpos : packet.timeToLive - 1 ≠ 0,
    forwarded = { packet with
      timeToLive := packet.timeToLive - 1
      timeToLive_ne_zero := hpos }

/-- The test of the source, as the TTL that it lets through. -/
theorem timeToLive_le_one {timeToLive : UInt8} : timeToLive ≤ 1 ↔ ¬ 2 ≤ timeToLive := by
  rw [UInt8.le_iff_toNat_le, UInt8.le_iff_toNat_le, Nat.not_le]
  exact Nat.lt_succ_iff.symm

theorem exists_decrements {packet : Ipv4Packet} (h : 2 ≤ packet.timeToLive) :
    ∃ forwarded, Decrements packet forwarded := by
  obtain ⟨hpos, _⟩ := decrementedPacket_eq fun hlow => timeToLive_le_one.mp hlow h
  exact ⟨_, hpos, rfl⟩

theorem decrementIpv4Ttl_eq_ok {packet result : Ipv4Packet} :
    decrementIpv4Ttl packet = .ok result ↔
      2 ≤ packet.timeToLive ∧ Decrements packet result := by
  rw [decrementIpv4Ttl]
  split
  · rename_i hexpired
    simp [timeToLive_le_one.mp hexpired]
  · rename_i httl
    obtain ⟨hpos, heq⟩ := decrementedPacket_eq httl
    simp only [heq, Option.get_some, Except.ok.injEq]
    constructor
    · rintro rfl
      exact ⟨not_not.mp fun hlow => httl (timeToLive_le_one.mpr hlow), hpos, rfl⟩
    · rintro ⟨_, _, rfl⟩
      rfl

/-- `Ipv4ForwardingEngine::forward`. -/
def forward (table : Ipv4RouteTable) (packet : Ipv4Packet) :
    Except Ipv4DropReason ForwardedIpv4Packet :=
  match decrementIpv4Ttl packet with
  | .error reason => .error reason
  | .ok decremented =>
    match table.longestPrefixMatch packet.destination with
    | none => .error .routeNotFound
    | some route =>
      .ok ⟨decremented, route.outputPort, route.nextHop.getD packet.destination⟩

/-- What a forwarded packet is made of: a route of the table and a packet with
the payload of the original. -/
theorem forward_ok {table : Ipv4RouteTable} {packet : Ipv4Packet}
    {forwarded : ForwardedIpv4Packet} (h : forward table packet = .ok forwarded) :
    ∃ route, table.longestPrefixMatch packet.destination = some route ∧
      forwarded.outputPort = route.outputPort ∧
      forwarded.packet.payload = packet.payload := by
  rw [forward] at h
  split at h
  · simp at h
  · rename_i decremented hdecrement
    split at h
    · simp at h
    · rename_i route hroute
      rw [Except.ok.injEq] at h
      subst h
      exact ⟨route, hroute, rfl, decrementIpv4Ttl_payload hdecrement⟩

/-- When a packet is forwarded, and what becomes of it. -/
theorem forward_eq_ok {table : Ipv4RouteTable} {packet : Ipv4Packet}
    {forwarded : ForwardedIpv4Packet} :
    forward table packet = .ok forwarded ↔
      2 ≤ packet.timeToLive ∧ Decrements packet forwarded.packet ∧
        ∃ route, table.longestPrefixMatch packet.destination = some route ∧
          forwarded.outputPort = route.outputPort ∧
          forwarded.nextHop = route.nextHop.getD packet.destination := by
  rw [forward]
  cases hdecrement : decrementIpv4Ttl packet with
  | error reason =>
    simp only [reduceCtorEq, false_iff]
    rintro ⟨httl, hdecrements, _⟩
    rw [decrementIpv4Ttl_eq_ok.mpr ⟨httl, hdecrements⟩] at hdecrement
    simp at hdecrement
  | ok decremented =>
    obtain ⟨httl, hdecrements⟩ := decrementIpv4Ttl_eq_ok.mp hdecrement
    cases hroute : table.longestPrefixMatch packet.destination with
    | none => simp
    | some route =>
      dsimp only
      rw [Except.ok.injEq]
      constructor
      · rintro rfl
        exact ⟨httl, hdecrements, route, rfl, rfl, rfl⟩
      · rintro ⟨_, hforwarded, found, hfound, hport, hhop⟩
        obtain rfl := Option.some.inj hfound
        obtain ⟨result, outputPort, nextHop⟩ := forwarded
        dsimp only at hforwarded hport hhop
        -- there is one packet one hop on
        obtain ⟨_, hresult⟩ := hforwarded
        obtain ⟨_, hsame⟩ := hdecrements
        rw [hsame, hresult, hport, hhop]

inductive L3EncapsulationFailure
  | invalidSourceMac
  | neighborNotFound
  | packetTooLarge
deriving DecidableEq

/-- `is_valid_source_mac`. -/
def isValidSourceMac (address : MacAddress) : Bool := address.isNonzeroUnicast

def encapsulateWithDestination (forwarding : ForwardedIpv4Packet) (sourceMac : MacAddress)
    (destinationMac : MacAddress) : Except L3EncapsulationFailure EthernetFrame :=
  let payload := forwarding.packet.serialize
  if payload.length > EthernetFrame.maximumPayloadSize then .error .packetTooLarge
  else
    match EthernetFrame.create destinationMac sourceMac EtherType.ipv4 payload none with
    | none => .error .packetTooLarge
    | some frame => .ok frame

def encapsulateIpv4InEthernet (forwarding : ForwardedIpv4Packet) (sourceMac : MacAddress)
    (cache : ArpCache) (now : TimePoint) : Except L3EncapsulationFailure EthernetFrame :=
  if !isValidSourceMac sourceMac then .error .invalidSourceMac
  else
    match cache.lookup forwarding.nextHop now with
    | none => .error .neighborNotFound
    | some destinationMac => encapsulateWithDestination forwarding sourceMac destinationMac

/-- An encapsulated packet is an untagged frame around the serialized packet. -/
theorem encapsulateIpv4InEthernet_ok {forwarding : ForwardedIpv4Packet} {sourceMac : MacAddress}
    {cache : ArpCache} {now : TimePoint} {frame : EthernetFrame}
    (h : encapsulateIpv4InEthernet forwarding sourceMac cache now = .ok frame) :
    frame.vlanTag = none ∧ frame.payload = forwarding.packet.serialize := by
  rw [encapsulateIpv4InEthernet] at h
  split at h
  · simp at h
  · split at h
    · simp at h
    · simp only [encapsulateWithDestination, EthernetFrame.create] at h
      split at h
      · simp at h
      · rename_i hfit
        simp only [Except.ok.injEq] at h
        subst h
        exact ⟨rfl, rfl⟩

/-- With a valid source MAC and a packet that fits a frame, encapsulation fails
only for want of a neighbor. -/
theorem encapsulateIpv4InEthernet_error {forwarding : ForwardedIpv4Packet}
    {sourceMac : MacAddress} {cache : ArpCache} {now : TimePoint}
    {failure : L3EncapsulationFailure} (hmac : sourceMac.isNonzeroUnicast = true)
    (hfit : forwarding.packet.serialize.length ≤ EthernetFrame.maximumPayloadSize)
    (h : encapsulateIpv4InEthernet forwarding sourceMac cache now = .error failure) :
    failure = .neighborNotFound := by
  rw [encapsulateIpv4InEthernet, isValidSourceMac, hmac] at h
  simp only [Bool.not_true, Bool.false_eq_true, if_false] at h
  split at h
  · rw [Except.error.injEq] at h
    exact h.symm
  · simp only [encapsulateWithDestination, EthernetFrame.create] at h
    rw [if_neg (Nat.not_lt_of_le hfit), dif_neg (Nat.not_lt_of_le hfit)] at h
    simp at h

/-- The frame that carries a packet from a port to a neighbor. -/
def carrierFrame (sourceMac destinationMac : MacAddress) (packet : Ipv4Packet)
    (hfit : packet.serialize.length ≤ EthernetFrame.maximumPayloadSize) : EthernetFrame :=
  ⟨destinationMac, sourceMac, EtherType.ipv4, packet.serialize, none, hfit⟩

/-- A packet that fits a frame is encapsulated exactly if its next hop is a neighbor. -/
theorem encapsulateIpv4InEthernet_eq_ok {forwarding : ForwardedIpv4Packet}
    {sourceMac : MacAddress} {cache : ArpCache} {now : TimePoint} {frame : EthernetFrame}
    (hmac : sourceMac.isNonzeroUnicast = true)
    (hfit : forwarding.packet.serialize.length ≤ EthernetFrame.maximumPayloadSize) :
    encapsulateIpv4InEthernet forwarding sourceMac cache now = .ok frame ↔
      ∃ mac, cache.lookup forwarding.nextHop now = some mac ∧
        frame = carrierFrame sourceMac mac forwarding.packet hfit := by
  rw [encapsulateIpv4InEthernet, isValidSourceMac, hmac, if_neg (by simp)]
  cases cache.lookup forwarding.nextHop now with
  | none => simp
  | some mac =>
    simp only [encapsulateWithDestination, EthernetFrame.create]
    rw [if_neg (Nat.not_lt_of_le hfit), dif_neg (Nat.not_lt_of_le hfit)]
    simp only [Except.ok.injEq, Option.some.injEq, exists_eq_left']
    exact eq_comm

end SiliconSwitch.Routing
