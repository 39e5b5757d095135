import LibSklt.DummyServer.HeaderCct

/-!
# The client's message header (`testClient/header_cct.h`, `header_cct.cpp`)

The client has a copy of the server's class `HeaderCCT`: the members, the
packed structs and the functions that read a header are the same.  The two
copies differ in `Serialize`, which writes nothing here, in `HostToNetwork`,
which swaps the cached protocol number and length, and in `MakeHeader`, which
fills the struct in host order.
-/

namespace LibSklt.TestClient

open LibSklt.DummyServer
open LibSklt.Foundation.MachineWord
open LibSklt.Util.ByteOrder
open LibSklt.Util.MemoryManager

variable {build : Build}

/-- The text that `MakeHeader` copies into `szSign`. -/
def sign : List UInt8 := [0x47, 0x7E, 0x45, 0x25, 0x74, 0x58, 0x4F]

/-- `HeaderCCT::HostToNetwork` of the client. -/
def hostToNetwork (self : HeaderCct build) : HeaderCct build :=
  { self with
    protocolNo := hostToNetwork16 build self.protocolNo
    dataLen := hostToNetwork32 build self.dataLen }

/-- `HeaderCCT::MakeHeader` of the client; `random` is what `rand()` gave. -/
def makeHeader (self : HeaderCct build)
    (protocolNo : UInt16) (dataLen : UInt32) (random : Nat) :
    HeaderCct build × Nat :=
  (hostToNetwork
    { self with
      protocolNo := protocolNo
      dataLen := dataLen
      header :=
        { self.header with
          szSign := sign ++ self.header.szSign.drop sign.length
          type := protocolNo
          nHandle := 1
          cFindSig := 0x50
          cVer := 1010
          length := dataLen
          wOpt := UInt16.ofNat (random % 40)
          cEncType := 0 } },
    sizeOfSdHeader)

/--
`HeaderCCT::Serialize` of the client: the buffer afterwards, and the return
value.
-/
def serialize (_ : HeaderCct build)
    (buffer : List UInt8) (_sizeOfBuffer : Nat) : List UInt8 × Nat :=
  (buffer, 0)

/-! ## What the server reads -/

/-- `Deserialize` of a buffer that has room for a header. -/
theorem deserialize_of_room
    (wide : 6 ≤ build.sizeBits) (server : HeaderCct build)
    {buffer : List UInt8} (room : sizeOfSdHeader ≤ buffer.length) :
    (server.deserialize buffer buffer.length).1 =
      HeaderCct.networkToHost
        { server with
          header := SdHeader.ofImage (buffer.take sizeOfSdHeader) } := by
  have whole : (buffer.take sizeOfSdHeader).length = sizeOfSdHeader :=
    List.length_take_of_le room
  have reads :=
    HeaderCct.deserialize_image wide server whole
      (buffer.drop sizeOfSdHeader) room
  rw [List.take_append_drop] at reads
  rw [reads]

theorem byteAt_take
    {size offset : Nat} (inside : offset < size) (buffer : List UInt8) :
    byteAt (buffer.take size) offset = byteAt buffer offset := by
  rw [byteAt, byteAt, List.getD_eq_getElem?_getD,
    List.getD_eq_getElem?_getD, List.getElem?_take_of_lt inside]

/-- The protocol number that the server reads off a buffer. -/
theorem getProtocolNo_deserialize
    (wide : 6 ≤ build.sizeBits) (server : HeaderCct build)
    {buffer : List UInt8} (room : sizeOfSdHeader ≤ buffer.length) :
    (server.deserialize buffer buffer.length).1.getProtocolNo =
      networkToHost16 build (wordAt buffer 12) := by
  rw [deserialize_of_room wide server room]
  change networkToHost16 build (wordAt (buffer.take sizeOfSdHeader) 12) = _
  rw [wordAt, wordAt, byteAt_take (by decide), byteAt_take (by decide)]

/-- The body length that the server reads off a buffer. -/
theorem dataLen_deserialize
    (wide : 6 ≤ build.sizeBits) (server : HeaderCct build)
    {buffer : List UInt8} (room : sizeOfSdHeader ≤ buffer.length) :
    (server.deserialize buffer buffer.length).1.dataLen =
      networkToHost32 build (doubleWordAt buffer 14) := by
  rw [deserialize_of_room wide server room]
  change
    networkToHost32 build (doubleWordAt (buffer.take sizeOfSdHeader) 14) = _
  rw [doubleWordAt, doubleWordAt, byteAt_take (by decide),
    byteAt_take (by decide), byteAt_take (by decide),
    byteAt_take (by decide)]

/-- Objects with the same sizes have the same total for the same length. -/
theorem getTotalSize_eq_iff
    (wide : 32 ≤ build.sizeBits) {left right : HeaderCct build}
    (leftSized : left.Sized) (rightSized : right.Sized) :
    left.getTotalSize = right.getTotalSize ↔
      left.dataLen = right.dataLen := by
  have range : (2 : Nat) ^ 32 ≤ 2 ^ build.sizeBits :=
    Nat.pow_le_pow_right (by omega) wide
  have leftBound := left.dataLen.toNat_lt
  have rightBound := right.dataLen.toNat_lt
  simp only [HeaderCct.getTotalSize, leftSized.header, leftSized.ender,
    rightSized.header, rightSized.ender, addWord, Nat.mod_add_mod]
  rw [← UInt32.toNat_inj]
  constructor
  · intro same
    have shifted :
        left.dataLen.toNat + (sizeOfSdHeader + sizeOfSdEnder) ≡
          right.dataLen.toNat + (sizeOfSdHeader + sizeOfSdEnder)
            [MOD 2 ^ build.sizeBits] := by
      rw [Nat.ModEq]
      convert same using 2 <;> ring
    have reduced := Nat.ModEq.add_right_cancel' _ shifted
    rw [Nat.ModEq, Nat.mod_eq_of_lt (by omega),
      Nat.mod_eq_of_lt (by omega)] at reduced
    exact reduced
  · intro same
    rw [same]

/--
Client and server agree on a header exactly when the buffer held the encoded
protocol number and length before the client serialised into it, and the
length is the same number in both byte orders.
-/
theorem header_agrees_iff
    (wide : 32 ≤ build.sizeBits) {client server : HeaderCct build}
    (clientSized : client.Sized) (serverSized : server.Sized)
    (protocolNo : UInt16) (dataLen : UInt32) (random : Nat)
    {buffer : List UInt8} (room : client.getHeaderSize ≤ buffer.length) :
    let sender := (makeHeader client protocolNo dataLen random).1
    let image := (serialize sender buffer buffer.length).1
    let receiver := (server.deserialize image image.length).1
    (receiver.getProtocolNo = protocolNo ∧
        receiver.getBodySize = dataLen.toNat ∧
        sender.getTotalSize = receiver.getTotalSize) ↔
      wordAt buffer 12 = hostToNetwork16 build protocolNo ∧
        doubleWordAt buffer 14 = hostToNetwork32 build dataLen ∧
        hostToNetwork32 build dataLen = dataLen := by
  intro sender image receiver
  have enough : 6 ≤ build.sizeBits := by omega
  have space : sizeOfSdHeader ≤ buffer.length := by
    rw [HeaderCct.getHeaderSize, clientSized.header] at room
    exact room
  have senderSized : sender.Sized :=
    ⟨clientSized.header, clientSized.ender⟩
  have receiverSized : receiver.Sized :=
    HeaderCct.deserialize_sized serverSized _ _
  have protocol :
      receiver.getProtocolNo = networkToHost16 build (wordAt buffer 12) :=
    getProtocolNo_deserialize enough server space
  have length :
      receiver.dataLen = networkToHost32 build (doubleWordAt buffer 14) :=
    dataLen_deserialize enough server space
  have cached : sender.dataLen = hostToNetwork32 build dataLen := rfl
  rw [getTotalSize_eq_iff wide senderSized receiverSized, cached,
    HeaderCct.getBodySize, UInt32.toNat_inj, protocol,
    networkToHost16_eq_iff, length, networkToHost32_eq_iff]
  constructor
  · rintro ⟨number, size, total⟩
    refine ⟨number, size, ?_⟩
    rw [total]
    exact (networkToHost32_eq_iff build _ _).mpr size
  · rintro ⟨number, size, palindrome⟩
    refine ⟨number, size, ?_⟩
    rw [palindrome]
    exact ((networkToHost32_eq_iff build _ _).mpr size).symm

/-- A buffer that held the encoded header already. -/
theorem header_agrees_iff_prepared :
    ∃ buffer : List UInt8,
      buffer.length = 33 ∧
        wordAt buffer 12 = hostToNetwork16 ⟨true, 64⟩ 101 ∧
        doubleWordAt buffer 14 = hostToNetwork32 ⟨true, 64⟩ 0 ∧
        (HeaderCct.deserialize
            (HeaderCct.make : HeaderCct ⟨true, 64⟩) buffer
              buffer.length).1.getProtocolNo = 101 := by
  let buffer : List UInt8 :=
    List.replicate 12 0 ++ [0, 101] ++ List.replicate 19 0
  have agrees :=
    (header_agrees_iff (by decide) HeaderCct.make_sized
      HeaderCct.make_sized 101 0 0
      (show (HeaderCct.make : HeaderCct ⟨true, 64⟩).getHeaderSize ≤
        buffer.length by decide)).mpr
      ⟨by decide, by decide, by decide⟩
  exact ⟨buffer, by decide, by decide, by decide, agrees.1⟩

/-- On a zeroed buffer the server reads protocol number and length 0. -/
theorem header_disagrees_on_zeroed_buffer :
    let fresh : HeaderCct ⟨true, 64⟩ := HeaderCct.make
    let sender := (makeHeader fresh 101 4 0).1
    let image := (serialize sender (List.replicate 33 0) 33).1
    let receiver := (fresh.deserialize image 33).1
    ¬ (receiver.getProtocolNo = 101 ∧
        receiver.getBodySize = 4 ∧
        sender.getTotalSize = receiver.getTotalSize) := by
  decide

end LibSklt.TestClient
