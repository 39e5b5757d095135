import LibSklt.Foundation.MachineWord
import LibSklt.Util.ByteOrder

/-!
# The integer types of the generated code

The packet generator declares its fields with the fixed-width integer types.
A value is kept as an integer; its memory image is the little-endian image of
its bits.  The calls of `BYTE_ORDER` are resolved by the type of the field:
there is no overload for eight bits, so such a field is promoted to `int`,
converted as a 32-bit value and cut back to eight bits.
-/

namespace LibSklt.Util

open LibSklt.Foundation.ByteImage
open LibSklt.Foundation.MachineWord
open LibSklt.Util.ByteOrder

/-- The fixed-width integer types. -/
inductive IntType where
  | int8
  | uint8
  | int16
  | uint16
  | int32
  | uint32
  | int64
  | uint64
deriving DecidableEq

namespace IntType

/-- `sizeof`. -/
def bytes : IntType → Nat
  | .int8 => 1
  | .uint8 => 1
  | .int16 => 2
  | .uint16 => 2
  | .int32 => 4
  | .uint32 => 4
  | .int64 => 8
  | .uint64 => 8

/-- Whether the type has negative values. -/
def signed : IntType → Bool
  | .int8 => true
  | .uint8 => false
  | .int16 => true
  | .uint16 => false
  | .int32 => true
  | .uint32 => false
  | .int64 => true
  | .uint64 => false

/-- The values of the type. -/
def InRange (type : IntType) (value : Int) : Prop :=
  if type.signed then
    -2 ^ (8 * type.bytes - 1) ≤ value ∧ value < 2 ^ (8 * type.bytes - 1)
  else
    0 ≤ value ∧ value < 2 ^ (8 * type.bytes)

instance (type : IntType) (value : Int) : Decidable (type.InRange value) :=
  inferInstanceAs (Decidable (ite _ _ _))

/-- The bytes of a value in memory. -/
def image (type : IntType) (value : Int) : List UInt8 :=
  leBytes type.bytes (unsignedCast (8 * type.bytes) value)

/-- The value with the given bytes in memory. -/
def ofImage (type : IntType) (memory : List UInt8) : Int :=
  if type.signed then
    signedCast (8 * type.bytes) (ofLe memory)
  else
    ofLe memory

/-- The call of `BYTE_ORDER::network_to_host` for a variable of the type. -/
def networkToHost (build : Build) (type : IntType) (value : Int) : Int :=
  match type with
  | .int8 => signedCast 8 (networkToHostS32 build (Int32.ofInt value)).toInt
  | .uint8 =>
      unsignedCast 8 (networkToHostS32 build (Int32.ofInt value)).toInt
  | .int16 => (networkToHostS16 build (Int16.ofInt value)).toInt
  | .uint16 =>
      (networkToHost16 build (UInt16.ofNat (unsignedCast 16 value))).toNat
  | .int32 => (networkToHostS32 build (Int32.ofInt value)).toInt
  | .uint32 =>
      (networkToHost32 build (UInt32.ofNat (unsignedCast 32 value))).toNat
  | .int64 => (networkToHostS64 build (Int64.ofInt value)).toInt
  | .uint64 =>
      (networkToHost64 build (UInt64.ofNat (unsignedCast 64 value))).toNat

/-- The call of `BYTE_ORDER::host_to_network` for a variable of the type. -/
def hostToNetwork (build : Build) (type : IntType) (value : Int) : Int :=
  match type with
  | .int8 => signedCast 8 (hostToNetworkS32 build (Int32.ofInt value)).toInt
  | .uint8 =>
      unsignedCast 8 (hostToNetworkS32 build (Int32.ofInt value)).toInt
  | .int16 => (hostToNetworkS16 build (Int16.ofInt value)).toInt
  | .uint16 =>
      (hostToNetwork16 build (UInt16.ofNat (unsignedCast 16 value))).toNat
  | .int32 => (hostToNetworkS32 build (Int32.ofInt value)).toInt
  | .uint32 =>
      (hostToNetwork32 build (UInt32.ofNat (unsignedCast 32 value))).toNat
  | .int64 => (hostToNetworkS64 build (Int64.ofInt value)).toInt
  | .uint64 =>
      (hostToNetwork64 build (UInt64.ofNat (unsignedCast 64 value))).toNat

/-! ## Values and images -/

@[simp]
theorem length_image (type : IntType) (value : Int) :
    (type.image value).length = type.bytes :=
  length_leBytes _ _

theorem bytes_pos (type : IntType) : 0 < type.bytes := by
  cases type <;> decide

theorem bytes_le (type : IntType) : type.bytes ≤ 8 := by
  cases type <;> decide

theorem bits_pos (type : IntType) : 0 < 8 * type.bytes :=
  Nat.mul_pos (by decide) type.bytes_pos

theorem pow_bytes (type : IntType) :
    256 ^ type.bytes = 2 ^ (8 * type.bytes) := by
  rw [pow_mul]
  norm_num

/-- A value of the type is read back from its image. -/
theorem ofImage_image
    {type : IntType} {value : Int} (inRange : type.InRange value) :
    type.ofImage (type.image value) = value := by
  have read :
      ofLe (type.image value) = unsignedCast (8 * type.bytes) value := by
    rw [image, ofLe_leBytes_of_lt]
    rw [pow_bytes]
    exact unsignedCast_lt _ _
  rw [ofImage, read]
  rw [InRange] at inRange
  split
  case isTrue signed =>
    rw [if_pos signed] at inRange
    exact signedCast_unsignedCast type.bits_pos
      (by exact_mod_cast inRange.1) (by exact_mod_cast inRange.2)
  case isFalse unsigned =>
    rw [if_neg unsigned] at inRange
    rw [natCast_unsignedCast]
    exact Int.emod_eq_of_lt inRange.1 (by exact_mod_cast inRange.2)

/-- What was read from an image is a value of the type with that image. -/
theorem image_ofImage
    {type : IntType} {memory : List UInt8}
    (length : memory.length = type.bytes) :
    type.InRange (type.ofImage memory) ∧
      type.image (type.ofImage memory) = memory := by
  have bounded := ofLe_lt memory
  rw [length, pow_bytes] at bounded
  have bits :
      type.InRange (type.ofImage memory) ∧
        unsignedCast (8 * type.bytes) (type.ofImage memory) =
          ofLe memory := by
    rw [InRange, ofImage]
    split
    case isTrue signed =>
      obtain ⟨lower, upper⟩ :=
        signedCast_range type.bits_pos (ofLe memory : Nat)
      exact ⟨⟨by exact_mod_cast lower, by exact_mod_cast upper⟩,
        unsignedCast_signedCast bounded⟩
    case isFalse unsigned =>
      exact ⟨⟨Int.natCast_nonneg _, by exact_mod_cast bounded⟩,
        unsignedCast_of_lt bounded⟩
  refine ⟨bits.1, ?_⟩
  rw [image, bits.2, ← length, leBytes_ofLe]

/-! ## Conversions on images -/

/-- The bytes of a value on the wire. -/
def wire (build : Build) (type : IntType) (value : Int) : List UInt8 :=
  if build.enable then (type.image value).reverse else type.image value

@[simp]
theorem length_wire (build : Build) (type : IntType) (value : Int) :
    (type.wire build value).length = type.bytes := by
  rw [wire]
  split <;> simp

theorem unsignedCast_toInt {width : Nat} (bits : BitVec width) :
    unsignedCast width bits.toInt = bits.toNat := by
  rw [unsignedCast, ← BitVec.toNat_ofInt, BitVec.ofInt_toInt]

/-- The bits of a value that is converted at one width and stored at it. -/
theorem image_of_bits
    (build : Build) {type : IntType} {converted value : Int}
    {bits swapped : Nat}
    (read : bits = unsignedCast (8 * type.bytes) value)
    (stored :
      unsignedCast (8 * type.bytes) converted =
        if build.enable then swapped else bits)
    (reversed :
      leBytes type.bytes swapped = (leBytes type.bytes bits).reverse) :
    type.image converted = type.wire build value := by
  rw [wire, image, image, stored, ← read]
  split
  · exact reversed
  · rfl

/-- An overload of at least sixteen bits reverses the image. -/
theorem image_networkToHost
    (build : Build) {type : IntType} (wide : type.bytes ≠ 1)
    (value : Int) :
    type.image (networkToHost build type value) =
      type.wire build value := by
  cases type with
  | int8 => simp [bytes] at wide
  | uint8 => simp [bytes] at wide
  | int16 =>
      refine image_of_bits build (BitVec.toNat_ofInt value) ?_
        (leBytes_ntohs (Int16.ofInt value).toUInt16)
      rw [networkToHost, networkToHostS16]
      split
      · exact unsignedCast_toInt _
      · exact unsignedCast_toInt _
  | uint16 =>
      have small := unsignedCast_lt 16 value
      refine image_of_bits build (UInt16.toNat_ofNat_of_lt' small) ?_
        (leBytes_ntohs (UInt16.ofNat (unsignedCast 16 value)))
      rw [networkToHost, networkToHost16]
      split
      · exact unsignedCast_of_lt (UInt16.toNat_lt _)
      · exact unsignedCast_of_lt (UInt16.toNat_lt _)
  | int32 =>
      refine image_of_bits build (BitVec.toNat_ofInt value) ?_
        (leBytes_ntohl (Int32.ofInt value).toUInt32)
      rw [networkToHost, networkToHostS32]
      split
      · exact unsignedCast_toInt _
      · exact unsignedCast_toInt _
  | uint32 =>
      have small := unsignedCast_lt 32 value
      refine image_of_bits build (UInt32.toNat_ofNat_of_lt' small) ?_
        (leBytes_ntohl (UInt32.ofNat (unsignedCast 32 value)))
      rw [networkToHost, networkToHost32]
      split
      · exact unsignedCast_of_lt (UInt32.toNat_lt _)
      · exact unsignedCast_of_lt (UInt32.toNat_lt _)
  | int64 =>
      refine image_of_bits build (BitVec.toNat_ofInt value) ?_
        (leBytes_ntohl_pair (UInt64.toNat_toUInt32 _)
          (toNat_signed_upper_half (Int64.ofInt value)))
      rw [networkToHost, networkToHostS64]
      split
      · exact unsignedCast_toInt _
      · exact unsignedCast_toInt _
  | uint64 =>
      have small := unsignedCast_lt 64 value
      refine image_of_bits build (UInt64.toNat_ofNat_of_lt' small) ?_
        (leBytes_ntohl_pair (UInt64.toNat_toUInt32 _) (toNat_upper_half _))
      rw [networkToHost, networkToHost64]
      split
      · exact unsignedCast_of_lt (UInt64.toNat_lt _)
      · exact unsignedCast_of_lt (UInt64.toNat_lt _)

theorem hostToNetwork_eq_networkToHost (build : Build) (type : IntType) :
    hostToNetwork build type = networkToHost build type := by
  funext value
  cases type <;> rfl

/-- A value of the type is determined by its image. -/
theorem eq_of_image_eq
    {type : IntType} {left right : Int} (leftRange : type.InRange left)
    (rightRange : type.InRange right)
    (same : type.image left = type.image right) : left = right := by
  rw [← ofImage_image leftRange, same, ofImage_image rightRange]

/-- The result of an overload is a value of its type. -/
theorem inRange_networkToHost
    (build : Build) (type : IntType) (value : Int) :
    type.InRange (networkToHost build type value) := by
  cases type with
  | int8 =>
      have bounded :=
        unsignedCast_lt 8 (networkToHostS32 build (Int32.ofInt value)).toInt
      simp only [InRange, signed, bytes, networkToHost, signedCast]
      simp only [if_true]
      split <;> omega
  | uint8 =>
      have bounded :=
        unsignedCast_lt 8 (networkToHostS32 build (Int32.ofInt value)).toInt
      simp only [InRange, signed, bytes, networkToHost]
      simp only [Bool.false_eq_true, if_false]
      omega
  | int16 => exact ⟨Int16.le_toInt _, Int16.toInt_lt _⟩
  | uint16 =>
      exact ⟨Int.natCast_nonneg _, Int.ofNat_lt.mpr (UInt16.toNat_lt _)⟩
  | int32 => exact ⟨Int32.le_toInt _, Int32.toInt_lt _⟩
  | uint32 =>
      exact ⟨Int.natCast_nonneg _, Int.ofNat_lt.mpr (UInt32.toNat_lt _)⟩
  | int64 => exact ⟨Int64.le_toInt _, Int64.toInt_lt _⟩
  | uint64 =>
      exact ⟨Int.natCast_nonneg _, Int.ofNat_lt.mpr (UInt64.toNat_lt _)⟩

/-- Without `_ENABLE` the calls leave a value of the type as it is. -/
theorem networkToHost_of_disabled
    {build : Build} (disabled : build.enable = false) {type : IntType}
    {value : Int} (inRange : type.InRange value) :
    networkToHost build type value = value := by
  by_cases wide : type.bytes ≠ 1
  · refine eq_of_image_eq (inRange_networkToHost build type value) inRange ?_
    rw [image_networkToHost build wide, wire, disabled]
    rfl
  · have promoted :
        networkToHostS32 build (Int32.ofInt value) = Int32.ofInt value := by
      rw [networkToHostS32, disabled]
      rfl
    have small : -2 ^ 31 ≤ value ∧ value < 2 ^ 31 := by
      cases type <;> simp [bytes, InRange, signed] at inRange wide ⊢ <;> omega
    have kept : (Int32.ofInt value).toInt = value :=
      Int32.toInt_ofInt_of_le small.1 small.2
    cases type <;>
      simp [bytes, InRange, signed] at inRange wide <;>
      simp only [networkToHost, promoted, kept, signedCast, unsignedCast] <;>
      omega

/-- Reading a field of the type from the wire, as `Deserialize` does. -/
def ofWire (build : Build) (type : IntType) (memory : List UInt8) : Int :=
  if type.bytes = 1 then
    type.ofImage memory
  else
    networkToHost build type (type.ofImage memory)

theorem reverse_of_single {memory : List UInt8} (single : memory.length = 1) :
    memory.reverse = memory := by
  obtain ⟨byte, rfl⟩ := List.length_eq_one_iff.mp single
  rfl

/-- What is read from the wire is a value of the type with these bytes. -/
theorem wire_ofWire
    (build : Build) {type : IntType} {memory : List UInt8}
    (length : memory.length = type.bytes) :
    type.InRange (type.ofWire build memory) ∧
      type.wire build (type.ofWire build memory) = memory := by
  obtain ⟨inRange, same⟩ := image_ofImage length
  rw [ofWire]
  split
  case isTrue single =>
    refine ⟨inRange, ?_⟩
    rw [wire, same, reverse_of_single (length.trans single), ite_self]
  case isFalse wide =>
    refine ⟨inRange_networkToHost build type _, ?_⟩
    rw [wire, image_networkToHost build wide, wire, same]
    split
    · rw [List.reverse_reverse]
    · rfl

theorem wire_injective
    (build : Build) {type : IntType} {left right : Int}
    (leftRange : type.InRange left) (rightRange : type.InRange right)
    (same : type.wire build left = type.wire build right) :
    left = right := by
  refine eq_of_image_eq leftRange rightRange ?_
  rw [wire, wire] at same
  split at same
  · exact List.reverse_injective same
  · exact same

/-- A value of the type is read back from the wire. -/
theorem ofWire_wire
    (build : Build) {type : IntType} {value : Int}
    (inRange : type.InRange value) :
    type.ofWire build (type.wire build value) = value := by
  obtain ⟨readRange, same⟩ :=
    wire_ofWire build (length_wire build type value)
  exact wire_injective build readRange inRange same

end IntType

end LibSklt.Util
