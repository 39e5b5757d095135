import LibSklt.Foundation.Framing
import LibSklt.Net.Header
import LibSklt.Util.ByteOrder
import LibSklt.Util.MemoryManager
import Mathlib.Tactic

/-!
# The server's message header (`dummyServer/header_cct.h`, `header_cct.cpp`)

`HeaderCCT` is the `Header` that the server registers.  Its wire image is the
packed struct `SD_HEADER` of 33 bytes, read through a little-endian memory
image; `Deserialize` then swaps `type` and `length` to host order and caches
them as protocol number and body length.

The second half of the file states what the header says about a stream: the
frame format of the wire, and that `Deserialize` of a whole image reads off
exactly the fields of that format.
-/

namespace LibSklt.DummyServer

open LibSklt.Foundation.Framing
open LibSklt.Foundation.MachineWord
open LibSklt.Net
open LibSklt.Util.ByteOrder
open LibSklt.Util.MemoryManager

/-! ## The wire image -/

/-- The byte at an offset of a memory image. -/
def byteAt (image : List UInt8) (offset : Nat) : UInt8 :=
  image.getD offset 0

/-- A `uint16_t` at an offset of a little-endian memory image. -/
def wordAt (image : List UInt8) (offset : Nat) : UInt16 :=
  (byteAt image offset).toUInt16 |||
    ((byteAt image (offset + 1)).toUInt16 <<< 8)

/-- A `uint32_t` at an offset of a little-endian memory image. -/
def doubleWordAt (image : List UInt8) (offset : Nat) : UInt32 :=
  (byteAt image offset).toUInt32 |||
    ((byteAt image (offset + 1)).toUInt32 <<< 8) |||
    ((byteAt image (offset + 2)).toUInt32 <<< 16) |||
    ((byteAt image (offset + 3)).toUInt32 <<< 24)

/-- The packed struct `SD_HEADER`. -/
structure SdHeader where
  cVer : UInt16
  szSign : List UInt8
  type : UInt16
  length : UInt32
  nHandle : UInt32
  cEncType : UInt8
  szOpt : List UInt8
  cFindSig : UInt8
  clientData : UInt32
  wOpt : UInt16
deriving DecidableEq

/-- `sizeof(SD_HEADER)`. -/
def sizeOfSdHeader : Nat := 33

/-- `sizeof(SD_ENDER)`. -/
def sizeOfSdEnder : Nat := 16

/-- The struct whose packed memory image is `image`. -/
def SdHeader.ofImage (image : List UInt8) : SdHeader where
  cVer := wordAt image 0
  szSign := (image.drop 2).take 10
  type := wordAt image 12
  length := doubleWordAt image 14
  nHandle := doubleWordAt image 18
  cEncType := byteAt image 22
  szOpt := (image.drop 23).take 3
  cFindSig := byteAt image 26
  clientData := doubleWordAt image 27
  wOpt := wordAt image 31

/-! ## The header object -/

/-- The members of `HeaderCCT` that receiving a message reads or writes. -/
structure HeaderCct (build : Build) where
  header : SdHeader
  protocolNo : UInt16
  dataLen : UInt32
  sizeOfHeader : Nat
  sizeOfEnder : Nat

variable {build : Build}

namespace HeaderCct

/-- The constructor, which zeroes the struct. -/
def make : HeaderCct build where
  header := SdHeader.ofImage (List.replicate sizeOfSdHeader 0)
  protocolNo := 0
  dataLen := 0
  sizeOfHeader := sizeOfSdHeader
  sizeOfEnder := sizeOfSdEnder

def getHeaderSize (self : HeaderCct build) : Nat :=
  self.sizeOfHeader

def getBodySize (self : HeaderCct build) : Nat :=
  self.dataLen.toNat

def getEnderSize (self : HeaderCct build) : Nat :=
  self.sizeOfEnder

def getProtocolNo (self : HeaderCct build) : UInt16 :=
  self.protocolNo

/-- `HeaderCCT::GetTotalSize`, a sum of `size_t` values. -/
def getTotalSize (self : HeaderCct build) : Nat :=
  addWord build.sizeBits
    (addWord build.sizeBits self.sizeOfHeader self.dataLen.toNat)
    self.sizeOfEnder

/-- `HeaderCCT::NetworkToHost`: swap in place, then cache. -/
def networkToHost (self : HeaderCct build) : HeaderCct build :=
  let swapped : SdHeader :=
    { self.header with
      type := networkToHost16 build self.header.type
      length := networkToHost32 build self.header.length }
  { self with
    header := swapped
    protocolNo := swapped.type
    dataLen := swapped.length }

/--
`HeaderCCT::Deserialize`.  The swap runs also when the read was refused and
the struct still holds its earlier content.
-/
def deserialize (self : HeaderCct build)
    (buffer : List UInt8) (sizeOfBuffer : Nat) :
    HeaderCct build × Nat :=
  match readFromBuffer build.sizeBits buffer sizeOfBuffer 0
      sizeOfSdHeader with
  | some (image, index) =>
      (networkToHost { self with header := SdHeader.ofImage image }, index)
  | none => (networkToHost self, 0)

def validate (_ : HeaderCct build) : Bool :=
  true

def checkEndmarker
    (_ : HeaderCct build) (_ : List UInt8) (_ : Nat) : Bool :=
  true

end HeaderCct

instance : Header (HeaderCct build) where
  getHeaderSize := HeaderCct.getHeaderSize
  getBodySize := HeaderCct.getBodySize
  getEnderSize := HeaderCct.getEnderSize
  getProtocolNo := HeaderCct.getProtocolNo
  deserialize := HeaderCct.deserialize
  validate := HeaderCct.validate
  checkEndmarker := HeaderCct.checkEndmarker

/-! ## The frame format of the wire -/

/--
The frames of the wire: a header of 33 bytes with the protocol number at
offset 12 and the body length at offset 14, the body, and 16 ender bytes.
-/
def wireFormat (build : Build) (limit : Nat) :
    FrameFormat UInt8 UInt16 where
  headerSize := sizeOfSdHeader
  headerSize_pos := by decide
  trailerSize := sizeOfSdEnder
  limit := limit
  bodySize header := (networkToHost32 build (doubleWordAt header 14)).toNat
  tag header := networkToHost16 build (wordAt header 12)

/-- The sizes that the constructor sets and no receiving function changes. -/
structure HeaderCct.Sized (object : HeaderCct build) : Prop where
  header : object.sizeOfHeader = sizeOfSdHeader
  ender : object.sizeOfEnder = sizeOfSdEnder

theorem HeaderCct.make_sized : (HeaderCct.make : HeaderCct build).Sized :=
  ⟨rfl, rfl⟩

theorem HeaderCct.networkToHost_sized
    {self : HeaderCct build} (sized : self.Sized) :
    self.networkToHost.Sized :=
  ⟨sized.header, sized.ender⟩

theorem HeaderCct.deserialize_sized
    {self : HeaderCct build} (sized : self.Sized)
    (buffer : List UInt8) (size : Nat) :
    (self.deserialize buffer size).1.Sized := by
  simp only [deserialize]
  split
  · exact networkToHost_sized ⟨sized.header, sized.ender⟩
  · exact networkToHost_sized sized

/-- The end of a header at the start of a buffer does not wrap. -/
theorem addWord_sizeOfSdHeader (wide : 6 ≤ build.sizeBits) :
    addWord build.sizeBits 0 sizeOfSdHeader = sizeOfSdHeader := by
  have range : (2 : Nat) ^ 6 ≤ 2 ^ build.sizeBits :=
    Nat.pow_le_pow_right (by omega) wide
  rw [sizeOfSdHeader, addWord_of_lt (by omega)]

/-- `Deserialize` of a buffer that starts with a whole image. -/
theorem HeaderCct.deserialize_image
    (wide : 6 ≤ build.sizeBits) (self : HeaderCct build)
    {image : List UInt8} (whole : image.length = sizeOfSdHeader)
    (rest : List UInt8) {size : Nat} (room : sizeOfSdHeader ≤ size) :
    self.deserialize (image ++ rest) size =
      (networkToHost { self with header := SdHeader.ofImage image },
        sizeOfSdHeader) := by
  rw [deserialize, readFromBuffer, addWord_sizeOfSdHeader wide,
    if_neg (Nat.not_lt.mpr room), List.drop_zero, List.take_left' whole]

/-- The server's header objects read the frames of the wire. -/
theorem headerCct_speaks
    (wide : 6 ≤ build.sizeBits) (limit : Nat) :
    Speaks (wireFormat build limit) (@HeaderCct.Sized build) where
  headerSize _ sized := sized.header
  enderSize _ sized := sized.ender
  good_deserialize _ buffer size sized :=
    HeaderCct.deserialize_sized sized buffer size
  bodySize header image rest _ whole := by
    change
      (header.deserialize (image ++ rest) sizeOfSdHeader).1.getBodySize =
        _
    rw [HeaderCct.deserialize_image wide header whole rest le_rfl]
    rfl
  protocolNo header image rest _ whole := by
    change
      (header.deserialize (image ++ rest) sizeOfSdHeader).1.getProtocolNo =
        _
    rw [HeaderCct.deserialize_image wide header whole rest le_rfl]
    rfl
  validate _ _ := rfl
  checkEndmarker _ _ _ _ := rfl

/-- With a wide `size_t` no announced length overflows. -/
theorem payloadSize_lt
    (wide : 33 ≤ build.sizeBits) (limit : Nat) (image : List UInt8) :
    (wireFormat build limit).payloadSize image <
      2 ^ build.sizeBits := by
  have range : (2 : Nat) ^ 33 ≤ 2 ^ build.sizeBits :=
    Nat.pow_le_pow_right (by omega) wide
  have bounded :=
    (networkToHost32 build (doubleWordAt image 14)).toNat_lt
  simp only [FrameFormat.payloadSize, wireFormat, sizeOfSdEnder]
  omega

end LibSklt.DummyServer
