import SiliconSwitch.Library.AlignedBlock
import SiliconSwitch.Network.Address

/-!
# The geometry of prefixes

An `Ipv4Prefix` as an aligned block of addresses, through the masks of `contains`,
`last_address` and the constructor.

* `toNat_maskValue`  — the mask of a length, the length 0 included, sets the high bits;
* `contains_iff`     — the mask test of `contains` is membership in the block;
* `prefix_geometry`  — so it is a range test, prefixes are nested or apart, and the addresses
  of a prefix determine it.
-/

namespace SiliconSwitch.Network

open SiliconSwitch.Library

/-- The shift of `mask_value` is by less than 32 bits, as the length 0 is taken out first. -/
theorem toNat_maskValue {length : UInt8} (h : length ≤ 32) :
    (maskValue length).toNat = 2 ^ 32 - 2 ^ (32 - length.toNat) := by
  have hlength : length.toNat ≤ 32 := UInt8.le_iff_toNat_le.mp h
  rw [maskValue]
  by_cases hzero : length = 0
  · rw [if_pos hzero, hzero]
    rfl
  · have hpos : 0 < length.toNat := by
      rw [Nat.pos_iff_ne_zero]
      exact fun heq => hzero (UInt8.toNat_inj.mp heq)
    have hshift : (32 - length.toUInt32).toNat % 32 = 32 - length.toNat := by
      have hle : length.toUInt32 ≤ 32 := by
        rw [UInt32.le_iff_toNat_le, UInt8.toNat_toUInt32]
        exact hlength
      rw [UInt32.toNat_sub_of_le _ _ hle, UInt8.toNat_toUInt32]
      show (32 - length.toNat) % 32 = 32 - length.toNat
      exact Nat.mod_eq_of_lt (by omega)
    rw [if_neg hzero, UInt32.toNat_shiftLeft, hshift, Nat.shiftLeft_eq]
    -- all ones times a power of two is short of a multiple of 2 ^ 32 by that power
    generalize hbits : 32 - length.toNat = bits
    have hpow : 2 ^ bits ≤ 2 ^ 31 := Nat.pow_le_pow_right (by decide) (by omega)
    have hone : 0 < 2 ^ bits := Nat.two_pow_pos bits
    show 4294967295 * 2 ^ bits % 2 ^ 32 = 2 ^ 32 - 2 ^ bits
    omega

namespace Ipv4Prefix

/-- The bits that a prefix leaves to its hosts. -/
def hostBits (net : Ipv4Prefix) : Nat := 32 - net.length.toNat

theorem toNat_length_le (net : Ipv4Prefix) : net.length.toNat ≤ 32 :=
  UInt8.le_iff_toNat_le.mp net.length_le

/-- Masking an address rounds it down to the size of the prefix. -/
theorem toNat_and_mask (net : Ipv4Prefix) (address : Ipv4Address) :
    (address.value &&& maskValue net.length).toNat =
      address.value.toNat / 2 ^ net.hostBits * 2 ^ net.hostBits := by
  rw [UInt32.toNat_and, toNat_maskValue net.length_le]
  exact and_highBits (Nat.sub_le ..) address.value.toNat_lt

/-- The addresses of a prefix, as numbers. -/
def block (net : Ipv4Prefix) : AlignedBlock where
  start := net.networkAddress.value.toNat
  size := 2 ^ net.hostBits
  size_pos := Nat.two_pow_pos net.hostBits
  aligned := by
    have hnormalized := congrArg UInt32.toNat net.normalized
    rw [toNat_and_mask] at hnormalized
    rw [← hnormalized]
    exact Nat.dvd_mul_left ..

/-- **The mask test of `contains` is membership in the block.** -/
theorem contains_iff {net : Ipv4Prefix} {address : Ipv4Address} :
    net.contains address = true ↔ address.value.toNat ∈ net.block.members := by
  rw [contains, beq_iff_eq, ← UInt32.toNat_inj, toNat_and_mask, AlignedBlock.mem_members_iff]
  exact Iff.rfl

theorem toNat_lastAddress (net : Ipv4Prefix) :
    net.lastAddress.value.toNat + 1 = net.block.start + net.block.size := by
  have hmask : (~~~maskValue net.length).toNat = 2 ^ net.hostBits - 1 := by
    have hpow : 2 ^ net.hostBits ≤ 2 ^ 32 := Nat.pow_le_pow_right (by decide) (Nat.sub_le ..)
    rw [UInt32.toNat_not, toNat_maskValue net.length_le]
    show 2 ^ 32 - 1 - (2 ^ 32 - 2 ^ net.hostBits) = 2 ^ net.hostBits - 1
    omega
  have haligned : 2 ^ net.hostBits ∣ net.networkAddress.value.toNat := net.block.aligned
  have hpos : 0 < 2 ^ net.hostBits := Nat.two_pow_pos net.hostBits
  rw [lastAddress, UInt32.toNat_or, hmask, or_lowBits haligned]
  show net.networkAddress.value.toNat + (2 ^ net.hostBits - 1) + 1 =
    net.networkAddress.value.toNat + 2 ^ net.hostBits
  omega

/-- The addresses that a prefix contains. -/
def addresses (net : Ipv4Prefix) : Set Ipv4Address := {address | net.contains address = true}

theorem mem_addresses {net : Ipv4Prefix} {address : Ipv4Address} :
    address ∈ net.addresses ↔ address.value.toNat ∈ net.block.members := contains_iff

/-- A block ends within the addresses, so all its members are some. -/
theorem members_eq_image (net : Ipv4Prefix) :
    net.block.members = (fun address : Ipv4Address => address.value.toNat) '' net.addresses := by
  ext n
  rw [Set.mem_image]
  constructor
  · intro hmem
    have hlast := toNat_lastAddress net
    have hbound := net.lastAddress.value.toNat_lt
    have hlt : n < 2 ^ 32 := by
      have hend := (AlignedBlock.mem_members.mp hmem).2
      omega
    have hvalue : (UInt32.ofNat n).toNat = n := UInt32.toNat_ofNat_of_lt' hlt
    exact ⟨⟨UInt32.ofNat n⟩, mem_addresses.mpr (hvalue.symm ▸ hmem), hvalue⟩
  · rintro ⟨address, hmem, rfl⟩
    exact mem_addresses.mp hmem

theorem block_injective : Function.Injective block := by
  intro first second h
  obtain ⟨hstart, hsize⟩ := AlignedBlock.ext_iff.mp h
  have hbits : first.hostBits = second.hostBits := Nat.pow_right_injective (le_refl 2) hsize
  have hfirst := first.toNat_length_le
  have hsecond := second.toNat_length_le
  have hlength : first.length = second.length := by
    rw [← UInt8.toNat_inj]
    unfold hostBits at hbits
    omega
  cases first
  cases second
  rw [Ipv4Prefix.mk.injEq]
  exact ⟨congrArg Ipv4Address.mk (UInt32.toNat_inj.mp hstart), hlength⟩

/-- **The range of a prefix** goes from its network address to its last one. -/
theorem contains_iff_range {net : Ipv4Prefix} {address : Ipv4Address} :
    net.contains address = true ↔
      net.networkAddress.value ≤ address.value ∧ address.value ≤ net.lastAddress.value := by
  rw [contains_iff, AlignedBlock.mem_members, ← toNat_lastAddress, Nat.lt_succ_iff,
    UInt32.le_iff_toNat_le, UInt32.le_iff_toNat_le]
  exact Iff.rfl

/-- **Prefixes are nested or apart**, the longer one inside. -/
theorem subset_or_disjoint {shorter longer : Ipv4Prefix} (h : shorter.length ≤ longer.length) :
    longer.addresses ⊆ shorter.addresses ∨ Disjoint shorter.addresses longer.addresses := by
  have hlength : shorter.length.toNat ≤ longer.length.toNat := UInt8.le_iff_toNat_le.mp h
  have hsize : longer.block.size ∣ shorter.block.size :=
    Nat.pow_dvd_pow 2 (Nat.sub_le_sub_left hlength 32)
  rcases AlignedBlock.subset_or_disjoint hsize with hinside | hapart
  · exact Or.inl fun address hmem => mem_addresses.mpr (hinside (mem_addresses.mp hmem))
  · refine Or.inr (Set.disjoint_left.mpr fun address hshorter hlonger => ?_)
    exact Set.disjoint_left.mp hapart (mem_addresses.mp hshorter) (mem_addresses.mp hlonger)

theorem addresses_injective : Function.Injective addresses := by
  intro first second h
  apply block_injective
  apply AlignedBlock.members_injective
  rw [members_eq_image, members_eq_image, h]

end Ipv4Prefix

/-- **Prefix geometry**: `contains` is the range test between the network address and the last
address, two prefixes are nested, the longer inside the shorter, or apart, and prefixes with
the same addresses are equal. -/
theorem prefix_geometry :
    (∀ (net : Ipv4Prefix) (address : Ipv4Address), net.contains address = true ↔
      net.networkAddress.value ≤ address.value ∧ address.value ≤ net.lastAddress.value) ∧
    (∀ shorter longer : Ipv4Prefix, shorter.length ≤ longer.length →
      longer.addresses ⊆ shorter.addresses ∨
        Disjoint shorter.addresses longer.addresses) ∧
    ∀ first second : Ipv4Prefix, first.addresses = second.addresses → first = second :=
  ⟨fun _ _ => Ipv4Prefix.contains_iff_range, fun _ _ => Ipv4Prefix.subset_or_disjoint,
    fun _ _ h => Ipv4Prefix.addresses_injective h⟩

/-- 10.1.0.0/16 and 10.0.0.0/8 share the address 10.1.0.1, so the one is inside the other. -/
theorem prefix_geometry_nested :
    let wide : Ipv4Prefix := ⟨⟨0x0A000000⟩, 8, by decide, by decide⟩
    let narrow : Ipv4Prefix := ⟨⟨0x0A010000⟩, 16, by decide, by decide⟩
    narrow.addresses ⊆ wide.addresses := by
  intro wide narrow
  have hwide : (⟨0x0A010001⟩ : Ipv4Address) ∈ wide.addresses := by
    show wide.contains _ = true
    decide
  have hnarrow : (⟨0x0A010001⟩ : Ipv4Address) ∈ narrow.addresses := by
    show narrow.contains _ = true
    decide
  rcases prefix_geometry.2.1 wide narrow (by decide) with hinside | hapart
  · exact hinside
  · exact absurd hnarrow (Set.disjoint_left.mp hapart hwide)

end SiliconSwitch.Network
