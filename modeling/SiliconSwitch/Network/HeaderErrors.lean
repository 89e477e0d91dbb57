import SiliconSwitch.Network.Ipv4Codec

/-!
# Errors in an IPv4 header

Which changes of two adjacent octets of a header `Ipv4Packet::parse` does not notice. The
octets may lie across two words of the checksum.

* `parse_isSome_iff` — what `parse` asks of the octets;
* `wordTotal_set`    — what one octet adds to the sum of the words;
* `header_errors`    — only both octets turned over, between all zeros and all ones, and only
  in the identification or from the protocol on.
-/

namespace SiliconSwitch.Network

open SiliconSwitch.Library SiliconSwitch.Library.OnesComplement

-- ---------------------------------------------------------------------------
-- The sum of the words, octet by octet
-- ---------------------------------------------------------------------------

/-- What an octet counts in the sum: the first of a word is its high one. -/
def weight (position : Nat) : Nat := if position % 2 = 0 then 256 else 1

theorem weight_add_two (position : Nat) : weight (position + 2) = weight position := by
  rw [weight, weight, Nat.add_mod_right]

theorem wordTotal_set (bytes : List UInt8) {position : Nat} (h : position < bytes.length)
    (byte : UInt8) :
    wordTotal (bytes.set position byte) + weight position * (bytes.getD position 0).toNat =
      wordTotal bytes + weight position * byte.toNat := by
  induction bytes using wordTotal.induct generalizing position with
  | case1 high low rest ih =>
    rcases position with _ | _ | position
    · show byte.toNat * 256 + low.toNat + wordTotal rest + 256 * high.toNat =
        high.toNat * 256 + low.toNat + wordTotal rest + 256 * byte.toNat
      omega
    · show high.toNat * 256 + byte.toNat + wordTotal rest + 1 * low.toNat =
        high.toNat * 256 + low.toNat + wordTotal rest + 1 * byte.toNat
      omega
    · have hrest : position < rest.length := by
        simp only [List.length_cons] at h
        omega
      have hlater := ih hrest
      rw [weight_add_two]
      show high.toNat * 256 + low.toNat + wordTotal (rest.set position byte) +
          weight position * (rest.getD position 0).toNat =
        high.toNat * 256 + low.toNat + wordTotal rest + weight position * byte.toNat
      omega
  | case2 last =>
    rcases position with _ | position
    · show byte.toNat * 256 + 256 * last.toNat = last.toNat * 256 + 256 * byte.toNat
      omega
    · simp only [List.length_cons, List.length_nil] at h
      omega
  | case3 => cases h

theorem wordTotal_pos {bytes : List UInt8} (h : bytes.getD 0 0 ≠ 0) : 0 < wordTotal bytes := by
  have hfirst : 0 < (bytes.getD 0 0).toNat := by
    rw [Nat.pos_iff_ne_zero]
    exact fun hzero => h (UInt8.toNat_inj.mp hzero)
  match bytes, hfirst with
  | high :: low :: rest, hfirst =>
    have hhigh : 0 < high.toNat := hfirst
    rw [wordTotal]
    omega
  | [last], hfirst =>
    have hlast : 0 < last.toNat := hfirst
    rw [wordTotal]
    omega

/-- Octets validate if their words add up to a multiple of all ones, and not to nothing. -/
theorem hasValidInternetChecksum_iff_dvd {bytes : List UInt8} (h : bytes.getD 0 0 ≠ 0) :
    hasValidInternetChecksum bytes = true ↔ 65535 ∣ wordTotal bytes := by
  have hnonempty : bytes.isEmpty = false := by
    cases bytes with
    | nil => exact absurd rfl h
    | cons first rest => rfl
  rw [hasValidInternetChecksum, hnonempty, Bool.not_false, Bool.true_and, beq_iff_eq,
    computeInternetChecksum_eq_zero, residue_eq_top_iff (by decide)]
  exact and_iff_right (wordTotal_pos h)

-- ---------------------------------------------------------------------------
-- What `parse` asks
-- ---------------------------------------------------------------------------

namespace Ipv4Packet

/-- What `parse` asks of the octets of a packet. -/
structure Acceptable (bytes : List UInt8) : Prop where
  size : headerSize ≤ bytes.length
  version : bytes.getD 0 0 = versionAndHeaderLength
  services : bytes.getD 1 0 = supportedDifferentiatedServices
  length : (bytes.getD 2 0).toNat * 256 + (bytes.getD 3 0).toNat = bytes.length
  flags : bytes.getD 6 0 = 0 ∨ bytes.getD 6 0 = 0x40
  fragment : bytes.getD 7 0 = 0
  timeToLive : bytes.getD 8 0 ≠ 0
  checksum : hasValidInternetChecksum (bytes.take headerSize) = true

/-- A field of two octets. -/
theorem toNat_of_readBigEndian {bytes : List UInt8} {offset : Nat} {value : UInt16}
    (h : readBigEndian UInt16 bytes offset = some value) :
    value.toNat = (bytes.getD offset 0).toNat * 256 + (bytes.getD (offset + 1) 0).toNat := by
  have hroom := le_of_readBigEndian h
  have hspelled := encode_of_read h
  rw [WireInteger.size_uint16] at hroom hspelled
  rw [slice_two hroom] at hspelled
  have hvalue := wordTotal_encode value
  rw [hspelled, wordTotal, wordTotal] at hvalue
  omega

/-- The flags that are supported are two. -/
theorem supported_iff {flags : UInt16} {high low : UInt8}
    (h : flags.toNat = high.toNat * 256 + low.toNat) :
    flags &&& unsupportedFragmentationMask = 0 ↔ (high = 0 ∨ high = 0x40) ∧ low = 0 := by
  have hlow := low.toNat_lt
  rw [← UInt8.toNat_inj, ← UInt8.toNat_inj, ← UInt8.toNat_inj]
  show _ ↔ (high.toNat = 0 ∨ high.toNat = 64) ∧ low.toNat = 0
  constructor
  · intro hsupported
    have hkept := flagsAndFragment_of_supported hsupported
    split at hkept
    · have hvalue : flags.toNat = 0x4000 := by rw [← hkept]; rfl
      omega
    · have hvalue : flags.toNat = 0 := by rw [← hkept]; rfl
      omega
  · intro hoctets
    have hcases : flags.toNat = 0 ∨ flags.toNat = 0x4000 := by omega
    rcases hcases with hvalue | hvalue
    · obtain rfl : flags = 0 := UInt16.toNat_inj.mp hvalue
      rfl
    · obtain rfl : flags = 0x4000 := UInt16.toNat_inj.mp hvalue
      rfl

/-- **`parse` asks no more and no less.** -/
theorem parse_isSome_iff {bytes : List UInt8} : (parse bytes).isSome ↔ Acceptable bytes := by
  unfold parse
  by_cases hstart : bytes.length < headerSize ∨ bytes.getD 0 0 ≠ versionAndHeaderLength ∨
      bytes.getD 1 0 ≠ supportedDifferentiatedServices
  · rw [if_pos hstart]
    constructor
    · intro h
      cases h
    · intro h
      rcases hstart with hsize | hversion | hservices
      · exact absurd h.size (Nat.not_le.mpr hsize)
      · exact absurd h.version hversion
      · exact absurd h.services hservices
  · rw [if_neg hstart]
    rw [not_or, not_or, not_not, not_not, Nat.not_lt] at hstart
    obtain ⟨hsize, hversion, hservices⟩ := hstart
    have hroom : 20 ≤ bytes.length := hsize
    obtain ⟨total, htotal⟩ : ∃ total, readBigEndian UInt16 bytes 2 = some total :=
      exists_readBigEndian (by rw [WireInteger.size_uint16]; omega)
    obtain ⟨identification, hidentification⟩ :
        ∃ identification, readBigEndian UInt16 bytes 4 = some identification :=
      exists_readBigEndian (by rw [WireInteger.size_uint16]; omega)
    obtain ⟨flags, hflags⟩ : ∃ flags, readBigEndian UInt16 bytes 6 = some flags :=
      exists_readBigEndian (by rw [WireInteger.size_uint16]; omega)
    obtain ⟨source, hsource⟩ : ∃ source, readBigEndian UInt32 bytes 12 = some source :=
      exists_readBigEndian (by rw [WireInteger.size_uint32]; omega)
    obtain ⟨destination, hdestination⟩ :
        ∃ destination, readBigEndian UInt32 bytes 16 = some destination :=
      exists_readBigEndian (by rw [WireInteger.size_uint32]; omega)
    have htotalValue := toNat_of_readBigEndian htotal
    have hsupported := supported_iff (toNat_of_readBigEndian hflags)
    rw [htotal, hidentification, hflags, hsource, hdestination]
    dsimp only
    constructor
    · intro h
      split at h
      · cases h
      · rename_i hfields
        simp only [not_or, not_not, Bool.not_eq_false] at hfields
        obtain ⟨hlength, _, hmask, hlive, hvalid⟩ := hfields
        obtain ⟨hflag, hfragment⟩ := hsupported.mp hmask
        exact ⟨hsize, hversion, hservices, htotalValue.symm.trans hlength, hflag, hfragment, hlive,
          hvalid⟩
    · intro h
      have hlength : total.toNat = bytes.length := htotalValue.trans h.length
      have hmask := hsupported.mpr ⟨h.flags, h.fragment⟩
      have haccepted : ¬ (total.toNat ≠ bytes.length ∨ total.toNat < headerSize ∨
          (flags &&& unsupportedFragmentationMask) ≠ 0 ∨ bytes.getD 8 0 = 0 ∨
          hasValidInternetChecksum (bytes.take headerSize) = false) := by
        simp only [not_or, not_not, Bool.not_eq_false]
        exact ⟨hlength, by omega, hmask, h.timeToLive, h.checksum⟩
      -- the payload fits, since the total length has 16 bits
      have hfits : ¬ ((bytes.drop headerSize).length > maximumPayloadSize ∨
          bytes.getD 8 0 = 0) := by
        have hbound := total.toNat_lt
        rw [not_or, List.length_drop]
        refine ⟨?_, h.timeToLive⟩
        unfold maximumPayloadSize maximumPacketSize
        omega
      rw [if_neg haccepted, create, dif_neg hfits]
      rfl

end Ipv4Packet

-- ---------------------------------------------------------------------------
-- Two adjacent octets
-- ---------------------------------------------------------------------------

/-- The octets with two adjacent ones replaced. -/
def struck (bytes : List UInt8) (position : Nat) (first second : UInt8) : List UInt8 :=
  (bytes.set position first).set (position + 1) second

@[simp] theorem length_struck (bytes : List UInt8) (position : Nat) (first second : UInt8) :
    (struck bytes position first second).length = bytes.length := by
  rw [struck, List.length_set, List.length_set]

theorem getD_struck {bytes : List UInt8} {position : Nat} (h : position + 1 < bytes.length)
    (first second : UInt8) (index : Nat) :
    (struck bytes position first second).getD index 0 =
      if index = position then first else if index = position + 1 then second
      else bytes.getD index 0 := by
  rw [struck, List.getD_eq_getElem?_getD, List.getD_eq_getElem?_getD, List.getElem?_set,
    List.getElem?_set, List.length_set]
  by_cases hfirst : index = position
  · subst hfirst
    rw [if_neg (by omega), if_pos rfl, if_pos (by omega), if_pos rfl]
    rfl
  · rw [if_neg hfirst]
    by_cases hsecond : index = position + 1
    · rw [if_pos hsecond.symm, if_pos (by omega), if_pos hsecond]
      rfl
    · rw [if_neg (Ne.symm hsecond), if_neg (Ne.symm hfirst), if_neg hsecond]

theorem take_struck (bytes : List UInt8) (position count : Nat) (first second : UInt8) :
    (struck bytes position first second).take count =
      struck (bytes.take count) position first second := by
  rw [struck, struck, List.take_set, List.take_set]

/-- What the two octets do to the sum. -/
theorem wordTotal_struck {bytes : List UInt8} {position : Nat} (h : position + 1 < bytes.length)
    (first second : UInt8) :
    wordTotal (struck bytes position first second) +
        (weight position * (bytes.getD position 0).toNat +
          weight (position + 1) * (bytes.getD (position + 1) 0).toNat) =
      wordTotal bytes + (weight position * first.toNat + weight (position + 1) * second.toNat) := by
  have hfirst := wordTotal_set bytes (show position < bytes.length by omega) first
  have hroom : position + 1 < (bytes.set position first).length := by
    rw [List.length_set]
    exact h
  have hsecond := wordTotal_set (bytes.set position first) hroom second
  have hkept : (bytes.set position first).getD (position + 1) 0 = bytes.getD (position + 1) 0 := by
    rw [List.getD_eq_getElem?_getD, List.getElem?_set_ne (by omega), ← List.getD_eq_getElem?_getD]
  rw [hkept] at hsecond
  rw [struck]
  omega

/-- Both octets turn over, between all zeros and all ones. -/
def TurnOver (bytes : List UInt8) (position : Nat) (first second : UInt8) : Prop :=
  bytes.getD position 0 = 0 ∧ bytes.getD (position + 1) 0 = 0 ∧ first = 0xFF ∧ second = 0xFF ∨
    bytes.getD position 0 = 0xFF ∧ bytes.getD (position + 1) 0 = 0xFF ∧ first = 0 ∧ second = 0

/-- A word, or two halves of words, that keep a complete sum complete. -/
theorem complete_change {high low newHigh newLow before after : Nat} (hhigh : high < 256)
    (hlow : low < 256) (hnewHigh : newHigh < 256) (hnewLow : newLow < 256)
    (hcomplete : 65535 ∣ before)
    (h : after + (256 * high + low) = before + (256 * newHigh + newLow)) :
    65535 ∣ after ↔ newHigh = high ∧ newLow = low ∨
      high = 0 ∧ low = 0 ∧ newHigh = 255 ∧ newLow = 255 ∨
      high = 255 ∧ low = 255 ∧ newHigh = 0 ∧ newLow = 0 := by
  obtain ⟨count, rfl⟩ := hcomplete
  constructor
  · rintro ⟨newCount, rfl⟩
    -- the sum changes by all ones at most
    have hcounts : newCount = count ∨ newCount = count + 1 ∨ count = newCount + 1 := by omega
    rcases hcounts with rfl | rfl | rfl
    · omega
    · omega
    · omega
  · rintro (⟨rfl, rfl⟩ | ⟨rfl, rfl, rfl, rfl⟩ | ⟨rfl, rfl, rfl, rfl⟩)
    · exact ⟨count, by omega⟩
    · exact ⟨count + 1, by omega⟩
    · exact ⟨count - 1, by omega⟩

/-- **The sum stays complete exactly if the octets turn over**, or stay as they are. -/
theorem dvd_struck_iff {bytes : List UInt8} {position : Nat} (h : position + 1 < bytes.length)
    (hcomplete : 65535 ∣ wordTotal bytes) {first second : UInt8}
    (hchanged : first ≠ bytes.getD position 0 ∨ second ≠ bytes.getD (position + 1) 0) :
    65535 ∣ wordTotal (struck bytes position first second) ↔
      TurnOver bytes position first second := by
  have htotal := wordTotal_struck h first second
  have hold := (bytes.getD position 0).toNat_lt
  have hnext := (bytes.getD (position + 1) 0).toNat_lt
  have hfirst := first.toNat_lt
  have hsecond := second.toNat_lt
  have hzero : (0 : UInt8).toNat = 0 := rfl
  have hones : (0xFF : UInt8).toNat = 255 := rfl
  unfold TurnOver
  rw [ne_eq, ne_eq, ← UInt8.toNat_inj, ← UInt8.toNat_inj] at hchanged
  simp only [← UInt8.toNat_inj, hzero, hones]
  rcases Nat.mod_two_eq_zero_or_one position with hparity | hparity
  · have hweights : weight position = 256 ∧ weight (position + 1) = 1 := by
      unfold weight
      rw [if_pos hparity, if_neg (by omega)]
      exact ⟨rfl, rfl⟩
    rw [hweights.1, hweights.2] at htotal
    rw [complete_change hold hnext hfirst hsecond hcomplete (by omega)]
    omega
  · have hweights : weight position = 1 ∧ weight (position + 1) = 256 := by
      unfold weight
      rw [if_neg (by omega), if_pos (by omega)]
      exact ⟨rfl, rfl⟩
    rw [hweights.1, hweights.2] at htotal
    rw [complete_change hnext hold hsecond hfirst hcomplete (by omega)]
    omega

/-- Each of the two octets turns over. -/
theorem TurnOver.at {bytes : List UInt8} {position : Nat} {first second : UInt8}
    (h : TurnOver bytes position first second) (hroom : position + 1 < bytes.length) {index : Nat}
    (hindex : index = position ∨ index = position + 1) :
    bytes.getD index 0 = 0 ∧ (struck bytes position first second).getD index 0 = 0xFF ∨
      bytes.getD index 0 = 0xFF ∧ (struck bytes position first second).getD index 0 = 0 := by
  rw [getD_struck hroom]
  rcases hindex with rfl | rfl
  · rw [if_pos rfl]
    rcases h with ⟨hold, _, hnew, _⟩ | ⟨hold, _, hnew, _⟩
    · exact .inl ⟨hold, hnew⟩
    · exact .inr ⟨hold, hnew⟩
  · rw [if_neg (Nat.succ_ne_self position), if_pos rfl]
    rcases h with ⟨_, hold, _, hnew⟩ | ⟨_, hold, _, hnew⟩
    · exact .inl ⟨hold, hnew⟩
    · exact .inr ⟨hold, hnew⟩

theorem getD_take {bytes : List UInt8} {index count : Nat} (h : index < count) :
    (bytes.take count).getD index 0 = bytes.getD index 0 := by
  rw [List.getD_eq_getElem?_getD, List.getD_eq_getElem?_getD, List.getElem?_take_of_lt h]

namespace Ipv4Packet

/-- The checksum of a header that still has its version. -/
theorem valid_struck_iff {bytes : List UInt8} (h : Acceptable bytes) {position : Nat}
    (hposition : position + 1 < headerSize) {first second : UInt8}
    (hchanged : first ≠ bytes.getD position 0 ∨ second ≠ bytes.getD (position + 1) 0)
    (hversion : (struck bytes position first second).getD 0 0 = versionAndHeaderLength) :
    hasValidInternetChecksum ((struck bytes position first second).take headerSize) = true ↔
      TurnOver bytes position first second := by
  have hheader : position + 1 < (bytes.take headerSize).length := by
    rw [List.length_take, Nat.min_eq_left h.size]
    exact hposition
  have hcomplete : 65535 ∣ wordTotal (bytes.take headerSize) := by
    refine (hasValidInternetChecksum_iff_dvd ?_).mp h.checksum
    rw [getD_take (by decide), h.version]
    decide
  have hfirst : (bytes.take headerSize).getD position 0 = bytes.getD position 0 :=
    getD_take (Nat.lt_of_succ_lt hposition)
  have hsecond : (bytes.take headerSize).getD (position + 1) 0 = bytes.getD (position + 1) 0 :=
    getD_take hposition
  have hstart : ((struck bytes position first second).take headerSize).getD 0 0 ≠ 0 := by
    rw [getD_take (by decide), hversion]
    decide
  have hsame : TurnOver (bytes.take headerSize) position first second ↔
      TurnOver bytes position first second := by
    unfold TurnOver
    rw [hfirst, hsecond]
  rw [hasValidInternetChecksum_iff_dvd hstart, take_struck, ← hsame]
  refine dvd_struck_iff hheader hcomplete ?_
  rw [hfirst, hsecond]
  exact hchanged

/-- Octets of which `parse` asks more than that the sum is complete do not turn over. -/
theorem hidden_position {bytes : List UInt8} (h : Acceptable bytes) {position : Nat}
    (hroom : position + 1 < bytes.length) {first second : UInt8}
    (hturn : TurnOver bytes position first second)
    (hagain : Acceptable (struck bytes position first second)) : position = 4 ∨ 9 ≤ position := by
  by_contra hother
  have hlength := hagain.length
  rw [length_struck, ← h.length] at hlength
  -- some index among the two is one that is asked for
  have hcases : (position = 0) ∨ (position = 1) ∨ (position = 2) ∨ (position = 3) ∨
      (6 = position ∨ 6 = position + 1) ∨ (7 = position) ∨ (8 = position) := by omega
  rcases hcases with rfl | rfl | rfl | rfl | hflags | hfragment | hlive
  · rcases hturn.at hroom (.inl rfl) with ⟨hold, _⟩ | ⟨hold, _⟩
    · exact absurd (hold.symm.trans h.version) (by decide)
    · exact absurd (hold.symm.trans h.version) (by decide)
  · rcases hturn.at hroom (.inl rfl) with ⟨_, hnew⟩ | ⟨hold, _⟩
    · exact absurd (hnew.symm.trans hagain.services) (by decide)
    · exact absurd (hold.symm.trans h.services) (by decide)
  · have hhigh := hturn.at hroom (.inl rfl)
    have hlow := hturn.at hroom (.inr rfl)
    rcases hhigh with ⟨hold, hnew⟩ | ⟨hold, hnew⟩ <;>
      rcases hlow with ⟨holdLow, hnewLow⟩ | ⟨holdLow, hnewLow⟩ <;>
      rw [hold, hnew, holdLow, hnewLow] at hlength <;> exact absurd hlength (by decide)
  · have hkept : (struck bytes 3 first second).getD 2 0 = bytes.getD 2 0 := by
      rw [getD_struck hroom, if_neg (by omega), if_neg (by omega)]
    have hzero : (0 : UInt8).toNat = 0 := rfl
    have hones : (0xFF : UInt8).toNat = 255 := rfl
    rcases hturn.at hroom (.inl rfl) with ⟨hold, hnew⟩ | ⟨hold, hnew⟩ <;>
      rw [hkept, hold, hnew, hzero, hones] at hlength <;> omega
  · rcases hturn.at hroom hflags with ⟨_, hnew⟩ | ⟨hold, _⟩
    · have hagainFlags := hagain.flags
      rw [hnew] at hagainFlags
      exact absurd hagainFlags (by decide)
    · have hflag := h.flags
      rw [hold] at hflag
      exact absurd hflag (by decide)
  · rcases hturn.at hroom (.inl hfragment) with ⟨_, hnew⟩ | ⟨hold, _⟩
    · exact absurd (hnew.symm.trans hagain.fragment) (by decide)
    · exact absurd (hold.symm.trans h.fragment) (by decide)
  · rcases hturn.at hroom (.inl hlive) with ⟨hold, _⟩ | ⟨_, hnew⟩
    · exact h.timeToLive hold
    · exact hagain.timeToLive hnew

/-- **The errors that a header hides.** Of an accepted packet, change two adjacent octets of
the header, or one of them: the octets are accepted again exactly if both are turned over,
between all zeros and all ones, and they are the identification or lie behind the time to
live. -/
theorem header_errors {bytes : List UInt8} (h : (parse bytes).isSome) {position : Nat}
    (hposition : position + 1 < headerSize) {first second : UInt8}
    (hchanged : first ≠ bytes.getD position 0 ∨ second ≠ bytes.getD (position + 1) 0) :
    (parse (struck bytes position first second)).isSome ↔
      TurnOver bytes position first second ∧ (position = 4 ∨ 9 ≤ position) := by
  rw [parse_isSome_iff] at h
  have hroom : position + 1 < bytes.length := Nat.lt_of_lt_of_le hposition h.size
  rw [parse_isSome_iff]
  constructor
  · intro hagain
    have hturn := (valid_struck_iff h hposition hchanged hagain.version).mp hagain.checksum
    exact ⟨hturn, hidden_position h hroom hturn hagain⟩
  · rintro ⟨hturn, hplace⟩
    have hkept : ∀ index, index ≤ 8 → index ≠ 4 → index ≠ 5 →
        (struck bytes position first second).getD index 0 = bytes.getD index 0 := by
      intro index hindex hfour hfive
      rw [getD_struck hroom, if_neg (by omega), if_neg (by omega)]
    have hversion := (hkept 0 (by omega) (by omega) (by omega)).trans h.version
    refine ⟨?_, hversion, ?_, ?_, ?_, ?_, ?_, ?_⟩
    · rw [length_struck]
      exact h.size
    · rw [hkept 1 (by omega) (by omega) (by omega)]
      exact h.services
    · rw [hkept 2 (by omega) (by omega) (by omega), hkept 3 (by omega) (by omega) (by omega),
        length_struck]
      exact h.length
    · rw [hkept 6 (by omega) (by omega) (by omega)]
      exact h.flags
    · rw [hkept 7 (by omega) (by omega) (by omega)]
      exact h.fragment
    · rw [hkept 8 (by omega) (by omega) (by omega)]
      exact h.timeToLive
    · exact (valid_struck_iff h hposition hchanged hversion).mpr hturn

/-- A UDP packet of one octet without an identification. -/
def unidentified : List UInt8 :=
  [0x45, 0, 0, 0x15, 0, 0, 0x40, 0, 0x40, 0x11, 0x26, 0xD6, 0x0A, 0, 0, 1, 0x0A, 0, 0, 2, 0x7F]

/-- The identification that turns over is not noticed, the time to live that changes is. -/
theorem header_errors_unidentified :
    (parse (struck unidentified 4 0xFF 0xFF)).isSome ∧
      ¬ (parse (struck unidentified 8 0x3F 0x11)).isSome := by
  have haccepted : (parse unidentified).isSome := by decide +kernel
  constructor
  · exact (header_errors haccepted (by decide) (.inl (by decide))).mpr
      ⟨.inl ⟨rfl, rfl, rfl, rfl⟩, .inl rfl⟩
  · intro hagain
    have hhidden := (header_errors haccepted (by decide) (.inl (by decide))).mp hagain
    exact absurd hhidden.2 (by decide)

end Ipv4Packet

end SiliconSwitch.Network
