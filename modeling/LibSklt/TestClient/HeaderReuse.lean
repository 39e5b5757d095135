import LibSklt.DummyServer.HeaderSending
import LibSklt.Foundation.Transition
import LibSklt.TestClient.HeaderCct

/-!
# Header objects that are used again

Both programs keep one header object and call `MakeHeader`, `SetDataSize` and
`Deserialize` on it in turn.  `Deserialize` of a buffer that is too short
returns 0, but swaps and caches the fields of the struct all the same.  That
changes nothing exactly if the struct reads the same in both byte orders and
the cached values are those of the struct.
-/

namespace LibSklt.TestClient

open LibSklt.DummyServer
open LibSklt.Foundation.MachineWord
open LibSklt.Foundation.Transition
open LibSklt.Util.ByteOrder
open LibSklt.Util.MemoryManager

/-- The two programs that have a class `HeaderCCT`. -/
inductive Program where
  | dummyServer
  | testClient
deriving DecidableEq

/-- The calls that change a header object. -/
inductive HeaderCall where
  | makeHeader (protocolNo : UInt16) (dataLen : UInt32) (random : Nat)
  | setDataSize (size : Nat)
  | deserialize (buffer : List UInt8) (sizeOfBuffer : Nat)
deriving DecidableEq

/-- `Deserialize` with fewer bytes than a header has. -/
def HeaderCall.FailsToDecode : HeaderCall → Prop
  | .deserialize _ sizeOfBuffer => sizeOfBuffer < sizeOfSdHeader
  | _ => False

variable {build : Build}

/--
A call on a header object of the program.  `Deserialize` is not called with
the size of a header for a buffer that is shorter.
-/
def headerStep (program : Program) (self : HeaderCct build) :
    HeaderCall → Option (HeaderCct build)
  | .makeHeader protocolNo dataLen random =>
      match program with
      | .dummyServer => some (self.makeHeader protocolNo dataLen random).1
      | .testClient => some (makeHeader self protocolNo dataLen random).1
  | .setDataSize size => some (self.setDataSize size)
  | .deserialize buffer sizeOfBuffer =>
      if sizeOfBuffer < sizeOfSdHeader ∨ sizeOfSdHeader ≤ buffer.length then
        some (self.deserialize buffer sizeOfBuffer).1
      else
        none

/-- `Deserialize` returned 0 and left the object as it was. -/
structure ChangesNothing (object : HeaderCct build) (buffer : List UInt8)
    (sizeOfBuffer : Nat) : Prop where
  result : (object.deserialize buffer sizeOfBuffer).2 = 0
  header : (object.deserialize buffer sizeOfBuffer).1.header = object.header
  protocolNo :
    (object.deserialize buffer sizeOfBuffer).1.getProtocolNo =
      object.getProtocolNo
  bodySize :
    (object.deserialize buffer sizeOfBuffer).1.getBodySize =
      object.getBodySize
  totalSize :
    (object.deserialize buffer sizeOfBuffer).1.getTotalSize =
      object.getTotalSize

/-- A call that fails to decode changes nothing. -/
def FailsQuietly (self : HeaderCct build) : HeaderCall → Prop
  | .deserialize buffer sizeOfBuffer =>
      sizeOfBuffer < sizeOfSdHeader →
        ChangesNothing self buffer sizeOfBuffer
  | _ => True

/--
Type and length of the struct read the same in both byte orders, and the
cached protocol number and length are those of the struct.
-/
structure Settled (object : HeaderCct build) : Prop where
  type : networkToHost16 build object.header.type = object.header.type
  length : networkToHost32 build object.header.length = object.header.length
  protocolNo : object.protocolNo = object.header.type
  dataLen : object.dataLen = object.header.length

/-! ## One call -/

/-- What `Deserialize` does with a buffer that is too short. -/
theorem deserialize_of_short
    (wide : 6 ≤ build.sizeBits) (self : HeaderCct build)
    (buffer : List UInt8) {sizeOfBuffer : Nat}
    (short : sizeOfBuffer < sizeOfSdHeader) :
    self.deserialize buffer sizeOfBuffer = (self.networkToHost, 0) := by
  rw [HeaderCct.deserialize, readFromBuffer, addWord_sizeOfSdHeader wide,
    if_pos short]

theorem changesNothing_iff_settled
    (wide : 6 ≤ build.sizeBits) (self : HeaderCct build)
    (buffer : List UInt8) {sizeOfBuffer : Nat}
    (short : sizeOfBuffer < sizeOfSdHeader) :
    ChangesNothing self buffer sizeOfBuffer ↔ Settled self := by
  have fails := deserialize_of_short wide self buffer short
  constructor
  · rintro ⟨-, header, protocolNo, bodySize, -⟩
    rw [fails] at header protocolNo bodySize
    have type := congrArg SdHeader.type header
    have length := congrArg SdHeader.length header
    refine ⟨type, length, ?_, ?_⟩
    · exact protocolNo.symm.trans type
    · exact (UInt32.toNat_inj.mp bodySize).symm.trans length
  · rintro ⟨type, length, protocolNo, dataLen⟩
    -- The swap and the caching are all that happens.
    have same : self.networkToHost = self := by
      rw [HeaderCct.networkToHost, type, length]
      change
        { self with
          protocolNo := self.header.type
          dataLen := self.header.length } = self
      rw [← protocolNo, ← dataLen]
    rw [same] at fails
    constructor <;> rw [fails]

/-! ## All calls -/

/--
In every sequence of calls on an object of either program, the calls that
fail to decode change nothing exactly if each of them finds the object
settled.
-/
theorem fails_quietly_iff
    (wide : 6 ≤ build.sizeBits) (program : Program)
    {calls : List HeaderCall} {self : HeaderCct build}
    (run : Run (headerStep program) HeaderCct.make calls self) :
    EachStep (headerStep program) (HeaderCct.make : HeaderCct build) calls
        (fun _ before call => FailsQuietly before call) ↔
      EachStep (headerStep program) (HeaderCct.make : HeaderCct build) calls
        (fun _ before call => call.FailsToDecode → Settled before) := by
  refine eachStep_congr run ?_
  intro earlier before call after _ _
  cases call with
  | makeHeader | setDataSize =>
      exact iff_of_true trivial (fun impossible => impossible.elim)
  | deserialize buffer sizeOfBuffer =>
      exact forall_congr' fun short =>
        changesNothing_iff_settled wide before buffer short

instance (self : HeaderCct build) : Decidable (Settled self) :=
  decidable_of_iff
    (networkToHost16 build self.header.type = self.header.type ∧
      networkToHost32 build self.header.length = self.header.length ∧
      self.protocolNo = self.header.type ∧
      self.dataLen = self.header.length)
    ⟨fun ⟨type, length, protocolNo, dataLen⟩ =>
        ⟨type, length, protocolNo, dataLen⟩,
      fun settled =>
        ⟨settled.type, settled.length, settled.protocolNo,
          settled.dataLen⟩⟩

/--
The server's object after `MakeHeader` for protocol 257, whose number reads
the same in both byte orders, is asked to decode a buffer of 20 bytes.
-/
theorem fails_quietly_symmetric :
    EachStep (headerStep .dummyServer)
      (HeaderCct.make : HeaderCct ⟨true, 64⟩)
      [.makeHeader 257 0 7, .deserialize (List.replicate 20 9) 20]
      (fun _ before call => FailsQuietly before call) := by
  let made : HeaderCct ⟨true, 64⟩ :=
    (HeaderCct.make.makeHeader 257 0 7).1
  have first :
      Run (headerStep .dummyServer) HeaderCct.make [.makeHeader 257 0 7]
        made :=
    .snoc .start trivial rfl
  have both :
      Run (headerStep .dummyServer) HeaderCct.make
        [.makeHeader 257 0 7, .deserialize (List.replicate 20 9) 20]
        (made.deserialize (List.replicate 20 9) 20).1 :=
    .snoc first trivial rfl
  refine (fails_quietly_iff (by decide) .dummyServer both).mpr ?_
  refine (eachStep_snoc_iff first).mpr ⟨?_, fun _ => ?_⟩
  · refine (eachStep_snoc_iff .start).mpr ⟨eachStep_nil _, ?_⟩
    exact fun impossible => impossible.elim
  · decide

/--
The first round of the test client: after `MakeHeader` and `SetDataSize` it
decodes a buffer of 20 bytes.
-/
theorem fails_loudly_in_client :
    ∃ self,
      Run (headerStep .testClient) (HeaderCct.make : HeaderCct ⟨true, 64⟩)
          [.makeHeader 101 4 0, .setDataSize 4] self ∧
        ¬ ChangesNothing self (List.replicate 20 0) 20 := by
  refine ⟨_, .snoc (.snoc .start trivial rfl) trivial rfl, ?_⟩
  rw [changesNothing_iff_settled (by decide) _ _ (by decide)]
  decide

end LibSklt.TestClient
