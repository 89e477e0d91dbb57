import SiliconSwitch.Routing.Forwarding
import Mathlib.Data.Finset.Max

/-!
# Virtual ports

`VlanPortConfig` and `VirtualPort`: a port's VLAN configuration, its MTU, its
administrative and link state, and its receive and transmit checks.
-/

namespace SiliconSwitch.Switching

open SiliconSwitch.Network SiliconSwitch.Routing

-- ---------------------------------------------------------------------------
-- VLAN configuration
-- ---------------------------------------------------------------------------

inductive VlanPortConfig
  | access (vlan : VlanId)
  | trunk (allowed : Finset VlanId) (native : Option VlanId) (nonempty : allowed.Nonempty)
      (native_mem : ∀ vlan ∈ native, vlan ∈ allowed)

namespace VlanPortConfig

/-- `VlanPortConfig::trunk`. -/
def createTrunk (allowed : Finset VlanId) (native : Option VlanId) : Option VlanPortConfig :=
  if hempty : allowed.Nonempty then
    match native with
    | none => some (trunk allowed none hempty (by simp))
    | some vlan =>
      if hmem : vlan ∈ allowed then some (trunk allowed (some vlan) hempty (by simpa using hmem))
      else none
  else none

def isAccess : VlanPortConfig → Bool
  | access _ => true
  | trunk .. => false

def accessVlan : VlanPortConfig → Option VlanId
  | access vlan => some vlan
  | trunk .. => none

def nativeVlan : VlanPortConfig → Option VlanId
  | access _ => none
  | trunk _ native _ _ => native

def allowedVlans : VlanPortConfig → Finset VlanId
  | access vlan => {vlan}
  | trunk allowed _ _ _ => allowed

def allows (config : VlanPortConfig) (vlan : VlanId) : Bool := vlan ∈ config.allowedVlans

end VlanPortConfig

-- ---------------------------------------------------------------------------
-- Ports
-- ---------------------------------------------------------------------------

inductive PortSpeed
  | mbps100
  | gbps1
  | gbps10
  | gbps25
  | gbps40
  | gbps100
deriving DecidableEq

structure PortCounters where
  receivedPackets : Nat := 0
  receivedBytes : Nat := 0
  transmittedPackets : Nat := 0
  transmittedBytes : Nat := 0
  receiveErrors : Nat := 0
  transmitErrors : Nat := 0
  receiveDrops : Nat := 0
  transmitDrops : Nat := 0
deriving DecidableEq

namespace VirtualPort

def minimumMtu : Nat := 64
def maximumMtu : Nat := 9216

/-- `is_valid_port_mac`. -/
def isValidPortMac (address : MacAddress) : Bool := address.isNonzeroUnicast

end VirtualPort

structure VirtualPort where
  id : PortId
  macAddress : MacAddress
  speed : PortSpeed
  mtu : Nat
  vlanConfig : VlanPortConfig
  adminEnabled : Bool
  linkUp : Bool
  counters : PortCounters
  macAddress_valid : VirtualPort.isValidPortMac macAddress = true
  mtu_bounds : VirtualPort.minimumMtu ≤ mtu ∧ mtu ≤ VirtualPort.maximumMtu

namespace VirtualPort

def create (id : PortId) (macAddress : MacAddress) (speed : PortSpeed) (mtu : Nat)
    (vlanConfig : VlanPortConfig) : Option VirtualPort :=
  if h : isValidPortMac macAddress = true ∧ minimumMtu ≤ mtu ∧ mtu ≤ maximumMtu then
    some {
      id, macAddress, speed, mtu, vlanConfig
      adminEnabled := false
      linkUp := false
      counters := {}
      macAddress_valid := h.1
      mtu_bounds := h.2 }
  else none

def operational (port : VirtualPort) : Bool := port.adminEnabled && port.linkUp

def setAdminEnabled (port : VirtualPort) (enabled : Bool) : VirtualPort :=
  { port with adminEnabled := enabled }

def setLinkUp (port : VirtualPort) (up : Bool) : VirtualPort := { port with linkUp := up }

/-- Update the counters of a port. -/
def withCounters (port : VirtualPort) (update : PortCounters → PortCounters) : VirtualPort :=
  { port with counters := update port.counters }

def receive (port : VirtualPort) (packetBytes : Nat) : Bool × VirtualPort :=
  if !port.operational then
    (false, port.withCounters fun c => { c with receiveDrops := c.receiveDrops + 1 })
  else if packetBytes > port.mtu then
    (false, port.withCounters fun c =>
      { c with receiveErrors := c.receiveErrors + 1, receiveDrops := c.receiveDrops + 1 })
  else
    (true, port.withCounters fun c =>
      { c with
        receivedPackets := c.receivedPackets + 1
        receivedBytes := c.receivedBytes + packetBytes })

def transmit (port : VirtualPort) (packetBytes : Nat) : Bool × VirtualPort :=
  if !port.operational then
    (false, port.withCounters fun c => { c with transmitDrops := c.transmitDrops + 1 })
  else if packetBytes > port.mtu then
    (false, port.withCounters fun c =>
      { c with transmitErrors := c.transmitErrors + 1, transmitDrops := c.transmitDrops + 1 })
  else
    (true, port.withCounters fun c =>
      { c with
        transmittedPackets := c.transmittedPackets + 1
        transmittedBytes := c.transmittedBytes + packetBytes })

/-- What two snapshots of a port share when only its counters have moved. -/
structure SameConfiguration (before after : VirtualPort) : Prop where
  id : after.id = before.id
  mac : after.macAddress = before.macAddress
  mtu : after.mtu = before.mtu
  vlanConfig : after.vlanConfig = before.vlanConfig
  operational : after.operational = before.operational

namespace SameConfiguration

theorem refl (port : VirtualPort) : SameConfiguration port port := ⟨rfl, rfl, rfl, rfl, rfl⟩

theorem trans {first second third : VirtualPort} (h₁ : SameConfiguration first second)
    (h₂ : SameConfiguration second third) : SameConfiguration first third :=
  ⟨h₂.id.trans h₁.id, h₂.mac.trans h₁.mac, h₂.mtu.trans h₁.mtu,
    h₂.vlanConfig.trans h₁.vlanConfig, h₂.operational.trans h₁.operational⟩

end SameConfiguration

theorem sameConfiguration_receive (port : VirtualPort) (packetBytes : Nat) :
    SameConfiguration port (port.receive packetBytes).2 := by
  unfold receive
  split
  · exact ⟨rfl, rfl, rfl, rfl, rfl⟩
  · split <;> exact ⟨rfl, rfl, rfl, rfl, rfl⟩

theorem sameConfiguration_transmit (port : VirtualPort) (packetBytes : Nat) :
    SameConfiguration port (port.transmit packetBytes).2 := by
  unfold transmit
  split
  · exact ⟨rfl, rfl, rfl, rfl, rfl⟩
  · split <;> exact ⟨rfl, rfl, rfl, rfl, rfl⟩

/-- An operational port receives exactly what its MTU admits. -/
theorem receive_fst {port : VirtualPort} (hup : port.operational = true) (packetBytes : Nat) :
    (port.receive packetBytes).1 = decide (packetBytes ≤ port.mtu) := by
  by_cases hlarge : packetBytes > port.mtu
  · simp [receive, hup, hlarge]
  · simp [receive, hup, hlarge, Nat.le_of_not_gt hlarge]

end VirtualPort

end SiliconSwitch.Switching
