import LibSklt.Foundation.ByteImage

/-!
# Byte order (`util/byte_order.h`, `lib/byte_order.cpp`)

`ByteOrder` converts between host and network byte order when the library is
compiled with `_ENABLE`, and is the identity otherwise.  The host is
little-endian, so `ntohs` and `ntohl` reverse two and four bytes; the 64-bit
overloads combine two 32-bit reversals by a shift and an addition.

What the overloads do to a value is stated on its memory image: each of them
reverses the image, whether the type is signed or not.
-/

namespace LibSklt.Util.ByteOrder

open LibSklt.Foundation.ByteImage

/-- The compile-time choices that the embedded code depends on. -/
structure Build where
  /-- Whether `_ENABLE` is defined. -/
  enable : Bool
  /-- The width of `size_t`. -/
  sizeBits : Nat

/-- `ntohs` on a little-endian host. -/
def ntohs (value : UInt16) : UInt16 :=
  (value <<< 8) ||| (value >>> 8)

/-- `ntohl` on a little-endian host. -/
def ntohl (value : UInt32) : UInt32 :=
  (value <<< 24) ||| ((value &&& (0xFF00 : UInt32)) <<< 8) |||
    ((value >>> 8) &&& (0xFF00 : UInt32)) ||| (value >>> 24)

/-- `htons` on a little-endian host. -/
def htons (value : UInt16) : UInt16 :=
  ntohs value

/-- `htonl` on a little-endian host. -/
def htonl (value : UInt32) : UInt32 :=
  ntohl value

/-! ## Network to host -/

/-- `ByteOrder::network_to_host(uint16_t)`. -/
def networkToHost16 (build : Build) (value : UInt16) : UInt16 :=
  if build.enable then ntohs value else value

/-- `ByteOrder::network_to_host(uint32_t)`. -/
def networkToHost32 (build : Build) (value : UInt32) : UInt32 :=
  if build.enable then ntohl value else value

/-- `ByteOrder::network_to_host(uint64_t)`. -/
def networkToHost64 (build : Build) (value : UInt64) : UInt64 :=
  if build.enable then
    ((ntohl value.toUInt32).toUInt64 <<< 32) +
      (ntohl (value >>> 32).toUInt32).toUInt64
  else
    value

/-- `ByteOrder::network_to_host(int16_t)`. -/
def networkToHostS16 (build : Build) (value : Int16) : Int16 :=
  if build.enable then (ntohs value.toUInt16).toInt16 else value

/-- `ByteOrder::network_to_host(int32_t)`. -/
def networkToHostS32 (build : Build) (value : Int32) : Int32 :=
  if build.enable then (ntohl value.toUInt32).toInt32 else value

/-- `ByteOrder::network_to_host(int64_t)`; its shift keeps the sign. -/
def networkToHostS64 (build : Build) (value : Int64) : Int64 :=
  if build.enable then
    (((ntohl value.toUInt64.toUInt32).toUInt64 <<< 32) +
      (ntohl (value >>> 32).toUInt64.toUInt32).toUInt64).toInt64
  else
    value

/-! ## Host to network -/

/-- `ByteOrder::host_to_network(uint16_t)`. -/
def hostToNetwork16 (build : Build) (value : UInt16) : UInt16 :=
  if build.enable then htons value else value

/-- `ByteOrder::host_to_network(uint32_t)`. -/
def hostToNetwork32 (build : Build) (value : UInt32) : UInt32 :=
  if build.enable then htonl value else value

/-- `ByteOrder::host_to_network(uint64_t)`. -/
def hostToNetwork64 (build : Build) (value : UInt64) : UInt64 :=
  if build.enable then
    ((htonl value.toUInt32).toUInt64 <<< 32) +
      (htonl (value >>> 32).toUInt32).toUInt64
  else
    value

/-- `ByteOrder::host_to_network(int16_t)`. -/
def hostToNetworkS16 (build : Build) (value : Int16) : Int16 :=
  if build.enable then (htons value.toUInt16).toInt16 else value

/-- `ByteOrder::host_to_network(int32_t)`. -/
def hostToNetworkS32 (build : Build) (value : Int32) : Int32 :=
  if build.enable then (htonl value.toUInt32).toInt32 else value

/-- `ByteOrder::host_to_network(int64_t)`; its shift keeps the sign. -/
def hostToNetworkS64 (build : Build) (value : Int64) : Int64 :=
  if build.enable then
    (((htonl value.toUInt64.toUInt32).toUInt64 <<< 32) +
      (htonl (value >>> 32).toUInt64.toUInt32).toUInt64).toInt64
  else
    value

/-! ## The bits of a reversal -/

theorem testBit_ntohs (value : UInt16) {index : Nat} (inside : index < 16) :
    (ntohs value).toNat.testBit index =
      value.toNat.testBit (index + 8 - 16 * (index / 8)) := by
  change
    (ntohs value).toBitVec.getLsbD index = value.toBitVec.getLsbD _
  simp only [ntohs, UInt16.toBitVec_or, UInt16.toBitVec_shiftLeft,
    UInt16.toBitVec_shiftRight]
  interval_cases index <;> simp

theorem testBit_ntohl (value : UInt32) {index : Nat} (inside : index < 32) :
    (ntohl value).toNat.testBit index =
      value.toNat.testBit (index + 24 - 16 * (index / 8)) := by
  change
    (ntohl value).toBitVec.getLsbD index = value.toBitVec.getLsbD _
  simp only [ntohl, UInt32.toBitVec_or, UInt32.toBitVec_and,
    UInt32.toBitVec_shiftLeft, UInt32.toBitVec_shiftRight]
  interval_cases index <;> simp

/-- The image of `ntohs`. -/
theorem leBytes_ntohs (value : UInt16) :
    leBytes 2 (ntohs value).toNat = (leBytes 2 value.toNat).reverse :=
  leBytes_reverse fun _ inside => testBit_ntohs value inside

/-- The image of `ntohl`. -/
theorem leBytes_ntohl (value : UInt32) :
    leBytes 4 (ntohl value).toNat = (leBytes 4 value.toNat).reverse :=
  leBytes_reverse fun _ inside => testBit_ntohl value inside

theorem ntohs_ntohs (value : UInt16) : ntohs (ntohs value) = value := by
  have same :
      leBytes 2 (ntohs (ntohs value)).toNat =
        leBytes 2 value.toNat := by
    rw [leBytes_ntohs, leBytes_ntohs, List.reverse_reverse]
  exact UInt16.toNat_inj.mp
    (eq_of_leBytes_eq (ntohs (ntohs value)).toNat_lt value.toNat_lt same)

theorem ntohl_ntohl (value : UInt32) : ntohl (ntohl value) = value := by
  have same :
      leBytes 4 (ntohl (ntohl value)).toNat =
        leBytes 4 value.toNat := by
    rw [leBytes_ntohl, leBytes_ntohl, List.reverse_reverse]
  exact UInt32.toNat_inj.mp
    (eq_of_leBytes_eq (ntohl (ntohl value)).toNat_lt value.toNat_lt same)

/-- What is read in host order was written in network order. -/
theorem networkToHost16_eq_iff
    (build : Build) (wire value : UInt16) :
    networkToHost16 build wire = value ↔
      wire = hostToNetwork16 build value := by
  rw [networkToHost16, hostToNetwork16, htons]
  split
  · constructor
    · intro read
      rw [← read, ntohs_ntohs]
    · intro written
      rw [written, ntohs_ntohs]
  · exact Iff.rfl

theorem networkToHost32_eq_iff
    (build : Build) (wire value : UInt32) :
    networkToHost32 build wire = value ↔
      wire = hostToNetwork32 build value := by
  rw [networkToHost32, hostToNetwork32, htonl]
  split
  · constructor
    · intro read
      rw [← read, ntohl_ntohl]
    · intro written
      rw [written, ntohl_ntohl]
  · exact Iff.rfl

theorem toNat_ntohl_pair (low high : UInt32) :
    (((ntohl low).toUInt64 <<< 32) + (ntohl high).toUInt64).toNat =
      2 ^ 32 * (ntohl low).toNat + (ntohl high).toNat := by
  have lowBound := (ntohl low).toNat_lt
  have highBound := (ntohl high).toNat_lt
  have amount : (32 : UInt64).toNat % 64 = 32 := rfl
  rw [UInt64.toNat_add, UInt64.toNat_shiftLeft, UInt32.toNat_toUInt64,
    UInt32.toNat_toUInt64, Nat.shiftLeft_eq, amount]
  omega

/--
Two reversed halves, exchanged, are the reversal of the whole: `low` and
`high` are the halves of `value`.
-/
theorem leBytes_ntohl_pair
    {value : Nat} {low high : UInt32}
    (lowBits : low.toNat = value % 2 ^ 32)
    (highBits : high.toNat = value / 2 ^ 32 % 2 ^ 32) :
    leBytes 8
        (((ntohl low).toUInt64 <<< 32) + (ntohl high).toUInt64).toNat =
      (leBytes 8 value).reverse := by
  have highBound := (ntohl high).toNat_lt
  apply leBytes_reverse
  intro index inside
  rw [toNat_ntohl_pair, Nat.testBit_two_pow_mul_add _ highBound]
  by_cases lower : index < 32
  · rw [if_pos lower, testBit_ntohl high lower, highBits,
      Nat.testBit_mod_two_pow, Nat.testBit_div_two_pow,
      decide_eq_true (by omega), Bool.true_and]
    congr 1
    omega
  · rw [if_neg lower, testBit_ntohl low (by omega), lowBits,
      Nat.testBit_mod_two_pow, decide_eq_true (by omega), Bool.true_and]
    congr 1
    omega

/-- The upper half of an unsigned 64-bit value. -/
theorem toNat_upper_half (value : UInt64) :
    (value >>> 32).toUInt32.toNat = value.toNat / 2 ^ 32 % 2 ^ 32 := by
  rw [UInt64.toNat_toUInt32, UInt64.toNat_shiftRight,
    Nat.shiftRight_eq_div_pow]
  rfl

/-- The upper half of a signed 64-bit value, shifted down with its sign. -/
theorem toNat_signed_upper_half (value : Int64) :
    (value >>> 32).toUInt64.toUInt32.toNat =
      value.toUInt64.toNat / 2 ^ 32 % 2 ^ 32 := by
  have whole :
      (value >>> 32).toUInt64.toNat =
        (value.toBitVec.sshiftRight 32).toNat :=
    rfl
  rw [UInt64.toNat_toUInt32, whole]
  apply Nat.eq_of_testBit_eq
  intro index
  rw [Nat.testBit_mod_two_pow, Nat.testBit_mod_two_pow,
    Nat.testBit_div_two_pow]
  change
    (_ && (value.toBitVec.sshiftRight 32).getLsbD index) =
      (_ && value.toBitVec.getLsbD _)
  rw [BitVec.getLsbD_sshiftRight]
  by_cases lower : index < 32
  · have below : ¬ 64 ≤ index := by omega
    have shifted : index + 32 < 64 := by omega
    simp [lower, below, shifted, Nat.add_comm]
  · simp [lower]

/-! ## The overloads -/

/--
A pair of conversions: what goes to the network has the big-endian encoding
as its memory image, and each conversion undoes the other.  `bits` are the
bits of a value as a number, so negative values are in two's complement.
-/
structure Reverses {Word : Type} (size : Nat) (bits : Word → Nat)
    (hostToNetwork networkToHost : Word → Word) : Prop where
  image :
    ∀ value,
      leBytes size (bits (hostToNetwork value)) = beBytes size (bits value)
  there : ∀ value, networkToHost (hostToNetwork value) = value
  back : ∀ value, hostToNetwork (networkToHost value) = value

/-- Two conversions that reverse the images undo each other. -/
theorem reverses_of_images
    {Word : Type} {size : Nat} {bits : Word → Nat}
    {hostToNetwork networkToHost : Word → Word}
    (small : ∀ value, bits value < 256 ^ size)
    (injective : Function.Injective bits)
    (network :
      ∀ value,
        leBytes size (bits (hostToNetwork value)) =
          (leBytes size (bits value)).reverse)
    (host :
      ∀ value,
        leBytes size (bits (networkToHost value)) =
          (leBytes size (bits value)).reverse) :
    Reverses size bits hostToNetwork networkToHost where
  image value := by rw [network, reverse_leBytes]
  there value := by
    apply injective
    apply eq_of_leBytes_eq (small _) (small _)
    rw [host, network, List.reverse_reverse]
  back value := by
    apply injective
    apply eq_of_leBytes_eq (small _) (small _)
    rw [network, host, List.reverse_reverse]

/-- With `_ENABLE`, all overloads of at least 16 bits reverse the bytes. -/
theorem byteOrder_reverses {build : Build} (enabled : build.enable = true) :
    Reverses 2 UInt16.toNat (hostToNetwork16 build)
        (networkToHost16 build) ∧
      Reverses 2 (fun value : Int16 => value.toUInt16.toNat)
        (hostToNetworkS16 build) (networkToHostS16 build) ∧
      Reverses 4 UInt32.toNat (hostToNetwork32 build)
        (networkToHost32 build) ∧
      Reverses 4 (fun value : Int32 => value.toUInt32.toNat)
        (hostToNetworkS32 build) (networkToHostS32 build) ∧
      Reverses 8 UInt64.toNat (hostToNetwork64 build)
        (networkToHost64 build) ∧
      Reverses 8 (fun value : Int64 => value.toUInt64.toNat)
        (hostToNetworkS64 build) (networkToHostS64 build) := by
  have unsigned16 (value : UInt16) :
      leBytes 2 (networkToHost16 build value).toNat =
        (leBytes 2 value.toNat).reverse := by
    rw [networkToHost16, if_pos enabled, leBytes_ntohs]
  have signed16 (value : Int16) :
      leBytes 2 (networkToHostS16 build value).toUInt16.toNat =
        (leBytes 2 value.toUInt16.toNat).reverse := by
    rw [networkToHostS16, if_pos enabled, UInt16.toUInt16_toInt16,
      leBytes_ntohs]
  have unsigned32 (value : UInt32) :
      leBytes 4 (networkToHost32 build value).toNat =
        (leBytes 4 value.toNat).reverse := by
    rw [networkToHost32, if_pos enabled, leBytes_ntohl]
  have signed32 (value : Int32) :
      leBytes 4 (networkToHostS32 build value).toUInt32.toNat =
        (leBytes 4 value.toUInt32.toNat).reverse := by
    rw [networkToHostS32, if_pos enabled, UInt32.toUInt32_toInt32,
      leBytes_ntohl]
  have unsigned64 (value : UInt64) :
      leBytes 8 (networkToHost64 build value).toNat =
        (leBytes 8 value.toNat).reverse := by
    rw [networkToHost64, if_pos enabled]
    exact leBytes_ntohl_pair (UInt64.toNat_toUInt32 value)
      (toNat_upper_half value)
  have signed64 (value : Int64) :
      leBytes 8 (networkToHostS64 build value).toUInt64.toNat =
        (leBytes 8 value.toUInt64.toNat).reverse := by
    rw [networkToHostS64, if_pos enabled, UInt64.toUInt64_toInt64]
    exact leBytes_ntohl_pair (UInt64.toNat_toUInt32 value.toUInt64)
      (toNat_signed_upper_half value)
  refine ⟨?_, ?_, ?_, ?_, ?_, ?_⟩
  · exact reverses_of_images UInt16.toNat_lt (fun _ _ => UInt16.toNat_inj.mp)
      unsigned16 unsigned16
  · exact reverses_of_images (fun value => value.toUInt16.toNat_lt)
      (fun _ _ same =>
        Function.LeftInverse.injective Int16.toInt16_toUInt16
          (UInt16.toNat_inj.mp same))
      signed16 signed16
  · exact reverses_of_images UInt32.toNat_lt (fun _ _ => UInt32.toNat_inj.mp)
      unsigned32 unsigned32
  · exact reverses_of_images (fun value => value.toUInt32.toNat_lt)
      (fun _ _ same =>
        Function.LeftInverse.injective Int32.toInt32_toUInt32
          (UInt32.toNat_inj.mp same))
      signed32 signed32
  · exact reverses_of_images UInt64.toNat_lt (fun _ _ => UInt64.toNat_inj.mp)
      unsigned64 unsigned64
  · exact reverses_of_images (fun value => value.toUInt64.toNat_lt)
      (fun _ _ same =>
        Function.LeftInverse.injective Int64.toInt64_toUInt64
          (UInt64.toNat_inj.mp same))
      signed64 signed64

/-- A negative 64-bit value in the order of the network. -/
theorem byteOrder_reverses_minus_two :
    leBytes 8 (hostToNetworkS64 ⟨true, 64⟩ (-2)).toUInt64.toNat =
      [255, 255, 255, 255, 255, 255, 255, 254] := by
  obtain ⟨-, -, -, -, -, signed⟩ := @byteOrder_reverses ⟨true, 64⟩ rfl
  exact signed.image (-2)

end LibSklt.Util.ByteOrder
