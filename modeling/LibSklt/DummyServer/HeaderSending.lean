import LibSklt.DummyServer.HeaderCct
import LibSklt.Foundation.ByteImage

/-!
# Sending a header (`dummyServer/header_cct.cpp`)

`MakeHeader` fills the packed struct in network order, `Serialize` copies it
to a buffer as it is, and `MakeEnder` copies fields of it to the ender.  The
other direction is `Deserialize`, which swaps `type` and `length` in the
struct itself: a header that was made decodes to what it was made from, but a
header that was received is not sent again as it came.
-/

namespace LibSklt.DummyServer

open LibSklt.Foundation.ByteImage
open LibSklt.Foundation.MachineWord
open LibSklt.Util.ByteOrder
open LibSklt.Util.MemoryManager

/-! ## The struct in memory -/

/-- A `uint16_t` in memory. -/
def wordBytes (value : UInt16) : List UInt8 :=
  leBytes 2 value.toNat

/-- A `uint32_t` in memory. -/
def doubleWordBytes (value : UInt32) : List UInt8 :=
  leBytes 4 value.toNat

/-- The packed memory image of the struct. -/
def SdHeader.image (header : SdHeader) : List UInt8 :=
  wordBytes header.cVer ++ header.szSign ++ wordBytes header.type ++
    doubleWordBytes header.length ++ doubleWordBytes header.nHandle ++
    [header.cEncType] ++ header.szOpt ++ [header.cFindSig] ++
    doubleWordBytes header.clientData ++ wordBytes header.wOpt

/-- The arrays of the struct have their declared lengths. -/
structure SdHeader.Packed (header : SdHeader) : Prop where
  szSign : header.szSign.length = 10
  szOpt : header.szOpt.length = 3

/-- The packed struct `SD_ENDER`. -/
structure SdEnder where
  cVer : UInt16
  type : UInt16
  length : UInt32
  wOpt : UInt16
  dwSerial : UInt32
  szOpt : List UInt8
deriving DecidableEq

/-! ## The functions that send -/

/-- The text that `MakeHeader` copies into `szSign`. -/
def headerSign : List UInt8 := [0x47, 0x7E, 0x45, 0x25, 0x74, 0x58, 0x4F]

variable {build : Build}

namespace HeaderCct

/-- `HeaderCCT::SetDataSize`, which only sets the cached length. -/
def setDataSize (self : HeaderCct build) (size : Nat) : HeaderCct build :=
  { self with dataLen := UInt32.ofNat (min size 65535) }

/-- `HeaderCCT::HostToNetwork` of the server: it is empty. -/
def hostToNetwork (self : HeaderCct build) : HeaderCct build :=
  self

/--
`HeaderCCT::MakeHeader`; `random` is what `rand()` gave.  The literal `1` is
an `int`, so that its overload is the one for `int32_t`.
-/
def makeHeader (self : HeaderCct build)
    (protocolNo : UInt16) (dataLen : UInt32) (random : Nat) :
    HeaderCct build × Nat :=
  ({ self with
      protocolNo := protocolNo
      dataLen := dataLen
      header :=
        { self.header with
          szSign :=
            headerSign ++ self.header.szSign.drop headerSign.length
          type := hostToNetwork16 build protocolNo
          nHandle := (hostToNetworkS32 build 1).toUInt32
          cFindSig := 0x50
          cVer := hostToNetwork16 build 1111
          length := hostToNetwork32 build dataLen
          wOpt := hostToNetwork16 build (UInt16.ofNat (random % 40))
          cEncType := 0 } },
    sizeOfSdHeader)

/--
`HeaderCCT::Serialize`: the buffer afterwards, and the return value.
-/
def serialize (self : HeaderCct build)
    (buffer : List UInt8) (sizeOfBuffer : Nat) : List UInt8 × Nat :=
  match writeToBuffer build.sizeBits buffer sizeOfBuffer 0
      self.header.image with
  | some (buffer, index) => (buffer, index)
  | none => (buffer, 0)

/-- `HeaderCCT::MakeEnder`: the ender afterwards, and the return value. -/
def makeEnder (self : HeaderCct build) (ender : SdEnder)
    (packetCount : UInt32) : SdEnder × Nat :=
  ({ ender with
      cVer := self.header.cVer
      type := self.header.type
      length := self.header.length
      wOpt := self.header.wOpt
      dwSerial := packetCount },
    sizeOfSdEnder)

end HeaderCct

/-! ## Words in a memory image -/

theorem byteAt_drop (image : List UInt8) (offset index : Nat) :
    byteAt (image.drop offset) index = byteAt image (offset + index) := by
  rw [byteAt, byteAt, List.getD_eq_getElem?_getD,
    List.getD_eq_getElem?_getD, List.getElem?_drop]

theorem ofLe_take_two (image : List UInt8) :
    ofLe (image.take 2) =
      (byteAt image 0).toNat + 256 * (byteAt image 1).toNat := by
  rcases image with - | ⟨first, - | ⟨second, rest⟩⟩ <;>
    simp [ofLe, byteAt]

theorem ofLe_take_four (image : List UInt8) :
    ofLe (image.take 4) =
      (byteAt image 0).toNat + 256 * (byteAt image 1).toNat +
        65536 * (byteAt image 2).toNat +
        16777216 * (byteAt image 3).toNat := by
  rcases image with
      - | ⟨first, - | ⟨second, - | ⟨third, - | ⟨fourth, rest⟩⟩⟩⟩ <;>
    simp [ofLe, byteAt] <;> omega

/-- A number below a power of two beside a multiple of it. -/
theorem or_two_pow_mul
    {low bits : Nat} (small : low < 2 ^ bits) (high : Nat) :
    low ||| 2 ^ bits * high = low + 2 ^ bits * high := by
  rw [Nat.or_comm, ← Nat.two_pow_add_eq_or_of_lt small, Nat.add_comm]

theorem toNat_toUInt16_shiftLeft (byte : UInt8) :
    (byte.toUInt16 <<< 8).toNat = 2 ^ 8 * byte.toNat := by
  have small := byte.toNat_lt
  rw [UInt16.toNat_shiftLeft, UInt8.toNat_toUInt16, Nat.shiftLeft_eq]
  change _ * 2 ^ 8 % 2 ^ 16 = _
  omega

theorem toNat_toUInt32_shiftLeft
    (byte : UInt8) {amount : UInt32} (bounded : amount.toNat ≤ 24) :
    (byte.toUInt32 <<< amount).toNat = 2 ^ amount.toNat * byte.toNat := by
  have small := byte.toNat_lt
  have range : (2 : Nat) ^ amount.toNat ≤ 2 ^ 24 :=
    Nat.pow_le_pow_right (by omega) bounded
  have product : byte.toNat * 2 ^ amount.toNat ≤ 255 * 2 ^ 24 :=
    Nat.mul_le_mul (by omega) range
  rw [UInt32.toNat_shiftLeft, UInt8.toNat_toUInt32, Nat.shiftLeft_eq,
    Nat.mod_eq_of_lt (show amount.toNat < 32 by omega),
    Nat.mod_eq_of_lt (by omega), Nat.mul_comm]

/-- A word of an image is the number that its two bytes are. -/
theorem toNat_wordAt (image : List UInt8) (offset : Nat) :
    (wordAt image offset).toNat = ofLe ((image.drop offset).take 2) := by
  rw [wordAt, UInt16.toNat_or, toNat_toUInt16_shiftLeft,
    UInt8.toNat_toUInt16, or_two_pow_mul (byteAt image offset).toNat_lt,
    ofLe_take_two, byteAt_drop, byteAt_drop]
  rfl

theorem toNat_doubleWordAt (image : List UInt8) (offset : Nat) :
    (doubleWordAt image offset).toNat =
      ofLe ((image.drop offset).take 4) := by
  have first := (byteAt image offset).toNat_lt
  have second := (byteAt image (offset + 1)).toNat_lt
  have third := (byteAt image (offset + 2)).toNat_lt
  rw [doubleWordAt, UInt32.toNat_or, UInt32.toNat_or, UInt32.toNat_or,
    toNat_toUInt32_shiftLeft _ (by decide),
    toNat_toUInt32_shiftLeft _ (by decide),
    toNat_toUInt32_shiftLeft _ (by decide), UInt8.toNat_toUInt32]
  change _ ||| 2 ^ 8 * _ ||| 2 ^ 16 * _ ||| 2 ^ 24 * _ = _
  have pair :
      (byteAt image offset).toNat +
          2 ^ 8 * (byteAt image (offset + 1)).toNat < 2 ^ 16 := by
    omega
  have triple :
      (byteAt image offset).toNat +
            2 ^ 8 * (byteAt image (offset + 1)).toNat +
          2 ^ 16 * (byteAt image (offset + 2)).toNat < 2 ^ 24 := by
    omega
  rw [or_two_pow_mul first, or_two_pow_mul pair, or_two_pow_mul triple,
    ofLe_take_four, byteAt_drop, byteAt_drop, byteAt_drop, byteAt_drop]
  rfl

/-- A word that was stored is read back. -/
theorem wordAt_append
    {front : List UInt8} {offset : Nat} (there : front.length = offset)
    (value : UInt16) (rest : List UInt8) :
    wordAt (front ++ (wordBytes value ++ rest)) offset = value := by
  apply UInt16.toNat_inj.mp
  rw [toNat_wordAt, List.drop_left' there, wordBytes,
    List.take_left' (length_leBytes 2 _),
    ofLe_leBytes_of_lt value.toNat_lt]

theorem doubleWordAt_append
    {front : List UInt8} {offset : Nat} (there : front.length = offset)
    (value : UInt32) (rest : List UInt8) :
    doubleWordAt (front ++ (doubleWordBytes value ++ rest)) offset =
      value := by
  apply UInt32.toNat_inj.mp
  rw [toNat_doubleWordAt, List.drop_left' there, doubleWordBytes,
    List.take_left' (length_leBytes 4 _),
    ofLe_leBytes_of_lt value.toNat_lt]

/-- A word that was read is stored as it stood. -/
theorem wordBytes_wordAt
    {image : List UInt8} {offset : Nat}
    (inside : offset + 2 ≤ image.length) :
    wordBytes (wordAt image offset) = (image.drop offset).take 2 := by
  have size : ((image.drop offset).take 2).length = 2 := by
    rw [List.length_take, List.length_drop]
    omega
  have stored := leBytes_ofLe ((image.drop offset).take 2)
  rw [size] at stored
  rw [wordBytes, toNat_wordAt, stored]

theorem doubleWordBytes_doubleWordAt
    {image : List UInt8} {offset : Nat}
    (inside : offset + 4 ≤ image.length) :
    doubleWordBytes (doubleWordAt image offset) =
      (image.drop offset).take 4 := by
  have size : ((image.drop offset).take 4).length = 4 := by
    rw [List.length_take, List.length_drop]
    omega
  have stored := leBytes_ofLe ((image.drop offset).take 4)
  rw [size] at stored
  rw [doubleWordBytes, toNat_doubleWordAt, stored]

theorem wordBytes_eq (image : List UInt8) (offset : Nat) :
    wordBytes (wordAt image offset) =
      [byteAt image offset, byteAt image (offset + 1)] := by
  rw [wordBytes, toNat_wordAt, ofLe_take_two, byteAt_drop, byteAt_drop]
  exact leBytes_ofLe [byteAt image offset, byteAt image (offset + 1)]

theorem doubleWordBytes_eq (image : List UInt8) (offset : Nat) :
    doubleWordBytes (doubleWordAt image offset) =
      [byteAt image offset, byteAt image (offset + 1),
        byteAt image (offset + 2), byteAt image (offset + 3)] := by
  have stored :=
    leBytes_ofLe
      [byteAt image offset, byteAt image (offset + 1),
        byteAt image (offset + 2), byteAt image (offset + 3)]
  rw [doubleWordBytes, toNat_doubleWordAt, ofLe_take_four, byteAt_drop,
    byteAt_drop, byteAt_drop, byteAt_drop, Nat.add_zero, ← stored]
  simp only [ofLe, List.length_cons, List.length_nil]
  congr 1
  omega

theorem wordBytes_injective : Function.Injective wordBytes := by
  intro first second same
  exact UInt16.toNat_inj.mp
    (eq_of_leBytes_eq first.toNat_lt second.toNat_lt same)

theorem doubleWordBytes_injective :
    Function.Injective doubleWordBytes := by
  intro first second same
  exact UInt32.toNat_inj.mp
    (eq_of_leBytes_eq first.toNat_lt second.toNat_lt same)

/-- A word reads the same in both byte orders if its bytes are equal. -/
theorem ntohs_wordAt_iff (image : List UInt8) (offset : Nat) :
    ntohs (wordAt image offset) = wordAt image offset ↔
      byteAt image offset = byteAt image (offset + 1) := by
  rw [← wordBytes_injective.eq_iff, wordBytes, leBytes_ntohs,
    ← wordBytes, wordBytes_eq]
  simp [eq_comm]

theorem ntohl_doubleWordAt_iff (image : List UInt8) (offset : Nat) :
    ntohl (doubleWordAt image offset) = doubleWordAt image offset ↔
      byteAt image offset = byteAt image (offset + 3) ∧
        byteAt image (offset + 1) = byteAt image (offset + 2) := by
  rw [← doubleWordBytes_injective.eq_iff, doubleWordBytes, leBytes_ntohl,
    ← doubleWordBytes, doubleWordBytes_eq]
  simp only [List.reverse_cons, List.reverse_nil, List.nil_append,
    List.cons_append, List.cons.injEq, and_true]
  constructor
  · rintro ⟨-, -, inner, outer⟩
    exact ⟨outer, inner⟩
  · rintro ⟨outer, inner⟩
    exact ⟨outer.symm, inner.symm, inner, outer⟩

/-- `NetworkToHost` leaves type and length of an image as they are. -/
theorem unswapped_iff (image : List UInt8) :
    (networkToHost16 build (wordAt image 12) = wordAt image 12 ∧
        networkToHost32 build (doubleWordAt image 14) =
          doubleWordAt image 14) ↔
      (build.enable = true →
        byteAt image 12 = byteAt image 13 ∧
          byteAt image 14 = byteAt image 17 ∧
          byteAt image 15 = byteAt image 16) := by
  cases enabled : build.enable with
  | false => simp [networkToHost16, networkToHost32, enabled]
  | true =>
      simp only [networkToHost16, networkToHost32, enabled, if_true,
        ntohs_wordAt_iff, ntohl_doubleWordAt_iff, forall_const]

/-! ## The struct and its image -/

theorem SdHeader.Packed.length_image
    {header : SdHeader} (packed : header.Packed) :
    header.image.length = sizeOfSdHeader := by
  simp [SdHeader.image, wordBytes, doubleWordBytes, packed.szSign,
    packed.szOpt, sizeOfSdHeader]

theorem SdHeader.packed_ofImage
    {image : List UInt8} (whole : image.length = sizeOfSdHeader) :
    (SdHeader.ofImage image).Packed := by
  rw [sizeOfSdHeader] at whole
  constructor
  · simp [ofImage, whole]
  · simp [ofImage, whole]

/-- Where the protocol number and the length stand in the image. -/
theorem SdHeader.image_split (header : SdHeader) :
    ∃ rest,
      header.image =
        (wordBytes header.cVer ++ header.szSign) ++
          (wordBytes header.type ++
            (doubleWordBytes header.length ++ rest)) := by
  simp only [SdHeader.image, List.append_assoc]
  exact ⟨_, rfl⟩

theorem SdHeader.Packed.wordAt_image
    {header : SdHeader} (packed : header.Packed) (behind : List UInt8) :
    wordAt (header.image ++ behind) 12 = header.type := by
  obtain ⟨rest, split⟩ := header.image_split
  have there : (wordBytes header.cVer ++ header.szSign).length = 12 := by
    simp [wordBytes, packed.szSign]
  rw [split, List.append_assoc, List.append_assoc]
  exact wordAt_append there header.type _

theorem SdHeader.Packed.doubleWordAt_image
    {header : SdHeader} (packed : header.Packed) (behind : List UInt8) :
    doubleWordAt (header.image ++ behind) 14 = header.length := by
  obtain ⟨rest, split⟩ := header.image_split
  have there :
      (wordBytes header.cVer ++ header.szSign ++
        wordBytes header.type).length = 14 := by
    simp [wordBytes, packed.szSign]
  have shifted :
      header.image ++ behind =
        (wordBytes header.cVer ++ header.szSign ++
            wordBytes header.type) ++
          (doubleWordBytes header.length ++ (rest ++ behind)) := by
    rw [split]
    simp only [List.append_assoc]
  rw [shifted]
  exact doubleWordAt_append there header.length _

/-- A slice and what follows it. -/
theorem take_drop_append_drop
    {offset count next : Nat} (joined : offset + count = next)
    (image : List UInt8) :
    (image.drop offset).take count ++ image.drop next =
      image.drop offset := by
  rw [← joined, ← List.drop_drop, List.take_append_drop]

theorem byteAt_eq_take_one
    {image : List UInt8} {offset : Nat} (inside : offset < image.length) :
    [byteAt image offset] = (image.drop offset).take 1 := by
  rw [byteAt, List.getD_eq_getElem?_getD, List.getElem?_eq_getElem inside,
    List.drop_eq_getElem_cons inside]
  rfl

/-- The image of the struct that an image was read into. -/
theorem SdHeader.image_ofImage
    {image : List UInt8} (whole : image.length = sizeOfSdHeader) :
    (SdHeader.ofImage image).image = image := by
  rw [sizeOfSdHeader] at whole
  have last : (image.drop 31).take 2 = image.drop 31 := by
    apply List.take_of_length_le
    rw [List.length_drop]
    omega
  simp only [SdHeader.image, SdHeader.ofImage, List.append_assoc]
  rw [wordBytes_wordAt (by omega), wordBytes_wordAt (by omega),
    wordBytes_wordAt (by omega), doubleWordBytes_doubleWordAt (by omega),
    doubleWordBytes_doubleWordAt (by omega),
    doubleWordBytes_doubleWordAt (by omega),
    byteAt_eq_take_one (by omega), byteAt_eq_take_one (by omega), last,
    take_drop_append_drop (by rfl), take_drop_append_drop (by rfl),
    take_drop_append_drop (by rfl), take_drop_append_drop (by rfl),
    take_drop_append_drop (by rfl), take_drop_append_drop (by rfl),
    take_drop_append_drop (by rfl), take_drop_append_drop (by rfl),
    take_drop_append_drop (by rfl), List.drop_zero]

/-! ## Sending and receiving -/

section

variable (wide : 6 ≤ build.sizeBits)

include wide

/-- `Serialize` into a buffer with room for the header. -/
theorem HeaderCct.serialize_of_room
    {self : HeaderCct build} (packed : self.header.Packed)
    {buffer : List UInt8} (room : sizeOfSdHeader ≤ buffer.length) :
    self.serialize buffer buffer.length =
      (self.header.image ++ buffer.drop sizeOfSdHeader,
        sizeOfSdHeader) := by
  rw [serialize, writeToBuffer, packed.length_image,
    addWord_sizeOfSdHeader wide, if_neg (Nat.not_lt.mpr room),
    Nat.zero_add, List.take_zero, List.nil_append]

/--
A header that the server makes and serialises decodes to the same protocol
number and length, whatever the two objects held before; where they have the
same sizes of header and ender, they agree on the size of the message.
-/
theorem made_header_decodes
    {sender : HeaderCct build} (packed : sender.header.Packed)
    (receiver : HeaderCct build)
    (protocolNo : UInt16) (dataLen : UInt32) (random : Nat)
    {buffer : List UInt8} (room : sizeOfSdHeader ≤ buffer.length) :
    let made := (sender.makeHeader protocolNo dataLen random).1
    ∃ image,
      image.length = sizeOfSdHeader ∧
        made.serialize buffer buffer.length =
          (image ++ buffer.drop sizeOfSdHeader, sizeOfSdHeader) ∧
        ∀ rest size, sizeOfSdHeader ≤ size →
          let decoded := (receiver.deserialize (image ++ rest) size).1
          decoded.getProtocolNo = protocolNo ∧
            decoded.getBodySize = dataLen.toNat ∧
            (sender.sizeOfHeader = receiver.sizeOfHeader →
              sender.sizeOfEnder = receiver.sizeOfEnder →
                made.getTotalSize = decoded.getTotalSize) := by
  intro made
  have madePacked : made.header.Packed := by
    refine ⟨?_, packed.szOpt⟩
    change (headerSign ++ sender.header.szSign.drop 7).length = 10
    rw [List.length_append, List.length_drop, packed.szSign]
    rfl
  have whole := madePacked.length_image
  refine ⟨made.header.image, whole,
    HeaderCct.serialize_of_room wide madePacked room, ?_⟩
  intro rest size enough decoded
  have typeField : wordAt made.header.image 12 = made.header.type := by
    simpa using madePacked.wordAt_image []
  have lengthField :
      doubleWordAt made.header.image 14 = made.header.length := by
    simpa using madePacked.doubleWordAt_image []
  have reads :
      decoded =
        HeaderCct.networkToHost
          { receiver with
            header := SdHeader.ofImage made.header.image } :=
    congrArg Prod.fst
      (HeaderCct.deserialize_image wide receiver whole rest enough)
  have number : decoded.protocolNo = protocolNo := by
    rw [reads]
    change networkToHost16 build (wordAt made.header.image 12) = _
    rw [typeField]
    exact (networkToHost16_eq_iff build _ _).mpr rfl
  have length : decoded.dataLen = dataLen := by
    rw [reads]
    change networkToHost32 build (doubleWordAt made.header.image 14) = _
    rw [lengthField]
    exact (networkToHost32_eq_iff build _ _).mpr rfl
  refine ⟨number, congrArg UInt32.toNat length, ?_⟩
  intro headers enders
  rw [HeaderCct.getTotalSize, HeaderCct.getTotalSize, length, reads]
  change
    addWord _ (addWord _ sender.sizeOfHeader _) sender.sizeOfEnder = _
  rw [headers, enders]
  rfl

/--
A header that was received is sent again as it came, and its fields are
copied to the ender as they came, exactly without `_ENABLE` or if type and
length read the same in both byte orders.
-/
theorem received_header_reencodes_iff
    (self : HeaderCct build) {image : List UInt8}
    (whole : image.length = sizeOfSdHeader) (rest : List UInt8)
    {size : Nat} (enough : sizeOfSdHeader ≤ size)
    {buffer : List UInt8} (room : sizeOfSdHeader ≤ buffer.length)
    (ender : SdEnder) (packetCount : UInt32) :
    let decoded := (self.deserialize (image ++ rest) size).1
    let made := (decoded.makeEnder ender packetCount).1
    (decoded.serialize buffer buffer.length =
          (image ++ buffer.drop sizeOfSdHeader, sizeOfSdHeader) ∧
        made.type = wordAt image 12 ∧
        made.length = doubleWordAt image 14) ↔
      (build.enable = true →
        byteAt image 12 = byteAt image 13 ∧
          byteAt image 14 = byteAt image 17 ∧
          byteAt image 15 = byteAt image 16) := by
  intro decoded made
  have reads :
      decoded =
        HeaderCct.networkToHost
          { self with header := SdHeader.ofImage image } :=
    congrArg Prod.fst
      (HeaderCct.deserialize_image wide self whole rest enough)
  have packed : decoded.header.Packed := by
    have readPacked := SdHeader.packed_ofImage whole
    rw [reads]
    exact ⟨readPacked.szSign, readPacked.szOpt⟩
  have typeField :
      made.type = networkToHost16 build (wordAt image 12) := by
    change decoded.header.type = _
    rw [reads]
    rfl
  have lengthField :
      made.length = networkToHost32 build (doubleWordAt image 14) := by
    change decoded.header.length = _
    rw [reads]
    rfl
  rw [typeField, lengthField, ← unswapped_iff]
  constructor
  · rintro ⟨-, type, length⟩
    exact ⟨type, length⟩
  · rintro ⟨type, length⟩
    refine ⟨?_, type, length⟩
    have same : decoded.header = SdHeader.ofImage image := by
      rw [reads, HeaderCct.networkToHost]
      change
        { SdHeader.ofImage image with
          type := networkToHost16 build (wordAt image 12)
          length := networkToHost32 build (doubleWordAt image 14) } = _
      rw [type, length]
      rfl
    rw [HeaderCct.serialize_of_room wide packed room, same,
      SdHeader.image_ofImage whole]

end

/-- A fresh server object sends a header to a fresh object. -/
theorem made_header_decodes_fresh :
    ∃ image,
      image.length = 33 ∧
        ((HeaderCct.makeHeader (HeaderCct.make : HeaderCct ⟨true, 64⟩)
            1010 5 7).1.serialize (List.replicate 40 0) 40).2 = 33 ∧
        (HeaderCct.deserialize (HeaderCct.make : HeaderCct ⟨true, 64⟩)
            (image ++ []) 33).1.getProtocolNo = 1010 := by
  have packed :
      (HeaderCct.make : HeaderCct ⟨true, 64⟩).header.Packed :=
    SdHeader.packed_ofImage List.length_replicate
  have room : sizeOfSdHeader ≤ (List.replicate 40 (0 : UInt8)).length := by
    decide
  obtain ⟨image, whole, written, decodes⟩ :=
    made_header_decodes (by decide) packed HeaderCct.make 1010 5 7 room
  exact ⟨image, whole, congrArg Prod.snd written,
    (decodes [] 33 le_rfl).1⟩

/-- A header with type 257 and length 0 may be sent on. -/
theorem received_header_reencodes_palindrome :
    let image : List UInt8 :=
      List.replicate 12 7 ++ [1, 1, 0, 0, 0, 0] ++ List.replicate 15 9
    let decoded :=
      (HeaderCct.deserialize (HeaderCct.make : HeaderCct ⟨true, 64⟩)
        (image ++ []) 33).1
    decoded.serialize (List.replicate 40 0) 40 =
      (image ++ (List.replicate 40 0).drop 33, 33) := by
  intro image decoded
  have room : sizeOfSdHeader ≤ (List.replicate 40 (0 : UInt8)).length := by
    decide
  have whole : image.length = sizeOfSdHeader := by decide
  exact
    ((received_header_reencodes_iff (by decide) HeaderCct.make whole []
      le_rfl room ⟨0, 0, 0, 0, 0, []⟩ 0).mpr (fun _ => by decide)).1

/-- The two bytes of the type 101 come back in the other order. -/
theorem received_header_swapped :
    let image : List UInt8 :=
      List.replicate 12 0 ++ [0, 101] ++ List.replicate 19 0
    let decoded :=
      (HeaderCct.deserialize (HeaderCct.make : HeaderCct ⟨true, 64⟩)
        image 33).1
    decoded.serialize (List.replicate 33 0) 33 ≠ (image, 33) ∧
      (decoded.makeEnder ⟨0, 0, 0, 0, 0, []⟩ 0).1.type ≠
        wordAt image 12 := by
  decide

end LibSklt.DummyServer
