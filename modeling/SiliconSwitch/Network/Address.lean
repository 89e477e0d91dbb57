import SiliconSwitch.Library.BigEndian
import Mathlib.Data.Nat.Bitwise

/-!
# Network value types

The validated value types of `silicon_switch::network`: MAC and IPv4 addresses,
IPv4 prefixes, VLAN identifiers and tags, EtherTypes and IP protocol numbers.
A private constructor of the source is a proof field here, so a value that
`create` refuses cannot be written down.
-/

namespace SiliconSwitch.Network

-- ---------------------------------------------------------------------------
-- MAC addresses
-- ---------------------------------------------------------------------------

structure MacAddress where
  bytes : List UInt8
  byte_count : bytes.length = 6
deriving DecidableEq

namespace MacAddress

/-- `MacAddress{Bytes{}}`, the all-zero address. -/
def unspecified : MacAddress := ⟨List.replicate 6 0, rfl⟩

def front (mac : MacAddress) : UInt8 :=
  mac.bytes.head (List.ne_nil_of_length_pos (by rw [mac.byte_count]; decide))

def isBroadcast (mac : MacAddress) : Bool := mac.bytes.all fun byte => byte == 0xFF

def isMulticast (mac : MacAddress) : Bool := (mac.front &&& 0x01) != 0

def isUnicast (mac : MacAddress) : Bool := !mac.isMulticast

/-- The check that `is_learnable`, `is_valid_port_mac`, `is_valid_mac_address`,
`is_valid_source_mac`, `is_valid_unicast` and `valid_router_mac` all make. -/
def isNonzeroUnicast (mac : MacAddress) : Bool := mac != unspecified && mac.isUnicast

/-- The broadcast address has the multicast bit set. -/
theorem not_isBroadcast_of_isUnicast (mac : MacAddress) (h : mac.isUnicast = true) :
    mac.isBroadcast = false := by
  rw [Bool.eq_false_iff]
  intro hbroadcast
  have hfront : mac.front = 0xFF := by
    have hall := List.all_eq_true.mp hbroadcast mac.front (List.head_mem _)
    simpa using hall
  rw [isUnicast, isMulticast, hfront] at h
  exact absurd h (by decide)

/-- Copy six bytes out of a buffer. -/
def read (bytes : List UInt8) (offset : Nat) (h : offset + 6 ≤ bytes.length) : MacAddress :=
  ⟨(bytes.drop offset).take 6, by rw [List.length_take, List.length_drop]; omega⟩

theorem read_eq {bytes : List UInt8} {offset : Nat} {h : offset + 6 ≤ bytes.length}
    {mac : MacAddress} (hslice : (bytes.drop offset).take 6 = mac.bytes) :
    read bytes offset h = mac := by
  cases mac
  rw [read, MacAddress.mk.injEq]
  exact hslice

end MacAddress

-- ---------------------------------------------------------------------------
-- IPv4 addresses and prefixes
-- ---------------------------------------------------------------------------

structure Ipv4Address where
  value : UInt32
deriving DecidableEq

namespace Ipv4Address

def isUnspecified (address : Ipv4Address) : Bool := address.value == 0
def isMulticast (address : Ipv4Address) : Bool := (address.value &&& 0xF0000000) == 0xE0000000
def isLimitedBroadcast (address : Ipv4Address) : Bool := address.value == 0xFFFFFFFF

end Ipv4Address

/-- `Ipv4Prefix::mask_value`. -/
def maskValue (length : UInt8) : UInt32 :=
  if length = 0 then 0 else 0xFFFFFFFF <<< (32 - length.toUInt32)

/-- A prefix keeps only the network bits of the address it was created from. -/
structure Ipv4Prefix where
  networkAddress : Ipv4Address
  length : UInt8
  length_le : length ≤ 32
  normalized : networkAddress.value &&& maskValue length = networkAddress.value
deriving DecidableEq

namespace Ipv4Prefix

def create (address : Ipv4Address) (length : UInt8) : Option Ipv4Prefix :=
  if h : length > 32 then none
  else some {
    networkAddress := ⟨address.value &&& maskValue length⟩
    length
    length_le := UInt8.not_lt.mp h
    normalized := by simp [UInt32.and_assoc] }

def lastAddress (net : Ipv4Prefix) : Ipv4Address :=
  ⟨net.networkAddress.value ||| ~~~maskValue net.length⟩

def contains (net : Ipv4Prefix) (address : Ipv4Address) : Bool :=
  (address.value &&& maskValue net.length) == net.networkAddress.value

/-- Every prefix is one that `create` returns. -/
theorem create_networkAddress (net : Ipv4Prefix) :
    create net.networkAddress net.length = some net := by
  rw [create, dif_neg (UInt8.not_lt.mpr net.length_le), Option.some.injEq]
  obtain ⟨networkAddress, length, _, hnormalized⟩ := net
  rw [Ipv4Prefix.mk.injEq]
  exact ⟨congrArg Ipv4Address.mk hnormalized, rfl⟩

end Ipv4Prefix

-- ---------------------------------------------------------------------------
-- VLAN identifiers and tags
-- ---------------------------------------------------------------------------

/-- A mask of one bit tests that bit. -/
theorem and_bit {mask : UInt16} {bit : Nat} (hmask : mask.toNat = 2 ^ bit) (value : UInt16) :
    value &&& mask = if value.toNat.testBit bit then mask else 0 := by
  apply UInt16.toNat_inj.mp
  rw [UInt16.toNat_and, hmask, Nat.and_two_pow]
  cases value.toNat.testBit bit with
  | false => exact Nat.zero_mul _
  | true =>
    rw [if_pos rfl, hmask]
    exact Nat.one_mul _

structure VlanId where
  value : UInt16
  minimum_le : 1 ≤ value
  le_maximum : value ≤ 4094
deriving DecidableEq

namespace VlanId

def create (value : UInt16) : Option VlanId :=
  if h : 1 ≤ value ∧ value ≤ 4094 then some ⟨value, h.1, h.2⟩ else none

theorem toNat_value_injective : Function.Injective fun vlan : VlanId => vlan.value.toNat := by
  rintro ⟨a, _, _⟩ ⟨b, _, _⟩ h
  simpa [UInt16.toNat_inj] using h

/-- `VlanId::operator<`. -/
instance : LinearOrder VlanId := LinearOrder.lift' _ toNat_value_injective

theorem create_value (vlan : VlanId) : create vlan.value = some vlan := by
  rw [create, dif_pos ⟨vlan.minimum_le, vlan.le_maximum⟩]

end VlanId

structure VlanTag where
  vlanId : VlanId
  priority : UInt8
  dropEligible : Bool
  priority_le : priority ≤ 7
deriving DecidableEq

namespace VlanTag

def create (vlanId : VlanId) (priority : UInt8) (dropEligible : Bool) : Option VlanTag :=
  if h : priority > 7 then none else some ⟨vlanId, priority, dropEligible, UInt8.not_lt.mp h⟩

def fromTagControlInformation (value : UInt16) : Option VlanTag :=
  match VlanId.create (value &&& 0x0FFF) with
  | none => none
  | some vlanId => create vlanId (value >>> 13).toUInt8 ((value &&& 0x1000) != 0)

def tagControlInformation (tag : VlanTag) : UInt16 :=
  (tag.priority.toUInt16 <<< 13) ||| (tag.dropEligible.toUInt16 <<< 12) ||| tag.vlanId.value

/-- The three fields of the tag control information occupy disjoint bits. -/
theorem toNat_tagControlInformation (tag : VlanTag) :
    tag.tagControlInformation.toNat =
      tag.priority.toNat * 8192 + tag.dropEligible.toNat * 4096 +
        tag.vlanId.value.toNat := by
  have hpriority : tag.priority.toNat ≤ 7 := tag.priority_le
  have hvlan : tag.vlanId.value.toNat ≤ 4094 := tag.vlanId.le_maximum
  have hflag : tag.dropEligible.toNat ≤ 1 := Bool.toNat_le _
  have hlow : tag.dropEligible.toNat * 2 ^ 12 + tag.vlanId.value.toNat < 2 ^ 13 := by omega
  have hdrop : (tag.dropEligible.toUInt16 <<< 12).toNat = tag.dropEligible.toNat <<< 12 := by
    cases tag.dropEligible <;> rfl
  have hshift : (tag.priority.toUInt16 <<< 13).toNat = tag.priority.toNat <<< 13 := by
    simp only [UInt16.toNat_shiftLeft, UInt8.toNat_toUInt16, Nat.shiftLeft_eq]
    show tag.priority.toNat * 2 ^ 13 % 2 ^ 16 = _
    omega
  rw [tagControlInformation, UInt16.toNat_or, UInt16.toNat_or, hshift, hdrop, Nat.lor_assoc,
    ← Nat.shiftLeft_add_eq_or_of_lt (by omega : tag.vlanId.value.toNat < 2 ^ 12),
    Nat.shiftLeft_eq _ 12, ← Nat.shiftLeft_add_eq_or_of_lt hlow, Nat.shiftLeft_eq]
  omega

/-- Decoding the control information of a tag gives the tag back. -/
theorem fromTagControlInformation_tagControlInformation (tag : VlanTag) :
    fromTagControlInformation tag.tagControlInformation = some tag := by
  have hpriority : tag.priority.toNat ≤ 7 := tag.priority_le
  have hvlan : tag.vlanId.value.toNat ≤ 4094 := tag.vlanId.le_maximum
  have hflag : tag.dropEligible.toNat ≤ 1 := Bool.toNat_le _
  have htci := toNat_tagControlInformation tag
  have hid : tag.tagControlInformation &&& 0x0FFF = tag.vlanId.value := by
    apply UInt16.toNat_inj.mp
    rw [UInt16.toNat_and, htci]
    show _ &&& (2 ^ 12 - 1) = _
    rw [Nat.and_two_pow_sub_one_eq_mod]
    omega
  have hprio : (tag.tagControlInformation >>> 13).toUInt8 = tag.priority := by
    apply UInt8.toNat_inj.mp
    simp only [UInt16.toNat_toUInt8, UInt16.toNat_shiftRight, htci, Nat.shiftRight_eq_div_pow]
    show _ / 2 ^ 13 % 2 ^ 8 = _
    omega
  have hdrop : ((tag.tagControlInformation &&& 0x1000) != 0) = tag.dropEligible := by
    rw [and_bit (show (0x1000 : UInt16).toNat = 2 ^ 12 from rfl), htci,
      Nat.testBit_eq_decide_div_mod_eq]
    cases tag.dropEligible with
    | false =>
      rw [Bool.toNat_false, decide_eq_false (by omega)]
      rfl
    | true =>
      rw [Bool.toNat_true, decide_eq_true (by omega)]
      rfl
  rw [fromTagControlInformation, hid, VlanId.create_value]
  simp only [hprio, hdrop]
  rw [create, dif_neg (by simpa using tag.priority_le)]

/-- The fields that `fromTagControlInformation` cuts out of a value. -/
theorem fromTagControlInformation_eq_some {value : UInt16} {tag : VlanTag}
    (h : fromTagControlInformation value = some tag) :
    tag.vlanId.value = value &&& 0x0FFF ∧ tag.priority = (value >>> 13).toUInt8 ∧
      tag.dropEligible = ((value &&& 0x1000) != 0) := by
  unfold fromTagControlInformation at h
  split at h
  · simp at h
  · rename_i vlanId hvlan
    unfold VlanId.create at hvlan
    unfold create at h
    split_ifs at h hvlan
    rw [Option.some.injEq] at h hvlan
    subst h hvlan
    exact ⟨rfl, rfl, rfl⟩

/-- Encoding a decoded tag gives the control information back: no bit of it is lost. -/
theorem tagControlInformation_of_decoded {value : UInt16} {tag : VlanTag}
    (h : fromTagControlInformation value = some tag) : tag.tagControlInformation = value := by
  obtain ⟨hvlan, hpriority, hdrop⟩ := fromTagControlInformation_eq_some h
  have hvalue : value.toNat < 2 ^ 16 := value.toNat_lt
  have hlow : tag.vlanId.value.toNat = value.toNat % 2 ^ 12 := by
    rw [hvlan, UInt16.toNat_and]
    exact Nat.and_two_pow_sub_one_eq_mod value.toNat 12
  have hhigh : tag.priority.toNat = value.toNat / 2 ^ 13 := by
    rw [hpriority, UInt16.toNat_toUInt8, UInt16.toNat_shiftRight, Nat.shiftRight_eq_div_pow]
    show value.toNat / 2 ^ 13 % 2 ^ 8 = _
    omega
  have hbit : tag.dropEligible.toNat = value.toNat / 2 ^ 12 % 2 := by
    rw [hdrop, and_bit (show (0x1000 : UInt16).toNat = 2 ^ 12 from rfl), ← Nat.toNat_testBit]
    cases value.toNat.testBit 12 <;> rfl
  apply UInt16.toNat_inj.mp
  rw [toNat_tagControlInformation, hlow, hhigh, hbit]
  omega

end VlanTag

-- ---------------------------------------------------------------------------
-- Protocol numbers
-- ---------------------------------------------------------------------------

/-- `EtherType` keeps every 16-bit value, the named ones and unknown ones. -/
structure EtherType where
  value : UInt16
deriving DecidableEq

namespace EtherType

def ipv4 : EtherType := ⟨0x0800⟩
def arp : EtherType := ⟨0x0806⟩
def vlanTagged : EtherType := ⟨0x8100⟩

end EtherType

structure IpProtocol where
  value : UInt8
deriving DecidableEq

end SiliconSwitch.Network
