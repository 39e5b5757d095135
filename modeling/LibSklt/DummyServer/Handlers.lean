import LibSklt.DummyServer.HeaderSending
import LibSklt.Net.LockStep

/-!
# The handlers of the dummy server (`dummyServer/dummyServer.cpp`)

`HandlerSet` registers two functions.  `TestProtocol` answers every message
with a frame of type 1010 that holds a `CK_KEEPALIVE`; `KeepAlive` answers
nothing.  What `TestProtocol` reads besides its arguments is the value of
`rand`, the counter `test_count`, which other workers count up meanwhile, and
the ender of its `HeaderCCT`, which no constructor sets.
-/

namespace LibSklt.DummyServer

open LibSklt.Foundation.Framing
open LibSklt.Foundation.MachineWord
open LibSklt.Foundation.Transition
open LibSklt.Handler
open LibSklt.Net
open LibSklt.Util.ByteOrder
open LibSklt.Util.MemoryManager

/-! ## The handlers -/

/-- The packed memory image of the ender. -/
def SdEnder.image (ender : SdEnder) : List UInt8 :=
  wordBytes ender.cVer ++ wordBytes ender.type ++
    doubleWordBytes ender.length ++ wordBytes ender.wOpt ++
    doubleWordBytes ender.dwSerial ++ ender.szOpt

/-- What `TestProtocol` reads besides its arguments. -/
structure Surroundings where
  /-- The value of `rand()` in `MakeHeader`. -/
  random : Nat
  /-- The value of `test_count` when `MakeEnder` is called. -/
  testCount : UInt32
  /-- The ender of the header object before `MakeEnder`. -/
  ender : SdEnder
  ender_szOpt : ender.szOpt.length = 2

/-- The packed `CK_KEEPALIVE` of `TestProtocol`: the two members in memory. -/
def ckKeepalive : List UInt8 :=
  [66] ++ doubleWordBytes 100

/--
`TestProtocol`.  The value that it reads from the message is only logged, and
the results of the writes are not looked at.
-/
def testProtocol (build : Build) : FunctionObject Surroundings :=
  fun surroundings _ =>
    let (header, index) :=
      (HeaderCct.make : HeaderCct build).makeHeader 1010
        (UInt32.ofNat ckKeepalive.length) surroundings.random
    let total := header.getTotalSize
    let (response, _) := header.serialize (List.replicate total 0) total
    let (response, index) :=
      (writeToBuffer build.sizeBits response total index
        ckKeepalive).getD (response, index)
    let (ender, _) :=
      header.makeEnder surroundings.ender surroundings.testCount
    let (response, _) :=
      (writeToBuffer build.sizeBits response total index
        ender.image).getD (response, index)
    some response

/-- `KeepAlive`, which only logs what it reads. -/
def keepAlive : FunctionObject Surroundings :=
  fun _ _ => none

/-- The calls of `ProtocolRegister` in `HandlerSet`. -/
def handlerSet (build : Build) :
    List (Int32 × FunctionObject Surroundings) :=
  [(101, testProtocol build), (501, keepAlive)]

/-! ## The response of `TestProtocol` -/

section

variable {build : Build} (wide : 6 ≤ build.sizeBits)

/-- The header of the response. -/
def responseHeader (build : Build) (surroundings : Surroundings) :
    HeaderCct build :=
  ((HeaderCct.make : HeaderCct build).makeHeader 1010 5
    surroundings.random).1

theorem responseHeader_packed (surroundings : Surroundings) :
    (responseHeader build surroundings).header.Packed :=
  ⟨rfl, rfl⟩

theorem length_ender_image
    (header : HeaderCct build) (surroundings : Surroundings) :
    (header.makeEnder surroundings.ender
      surroundings.testCount).1.image.length = sizeOfSdEnder := by
  simp [SdEnder.image, HeaderCct.makeEnder, wordBytes, doubleWordBytes,
    surroundings.ender_szOpt, sizeOfSdEnder]

include wide

/-- The buffer has room for the header, the body and the ender. -/
theorem getTotalSize_responseHeader (surroundings : Surroundings) :
    (responseHeader build surroundings).getTotalSize = 54 := by
  have range : (2 : Nat) ^ 6 ≤ 2 ^ build.sizeBits :=
    Nat.pow_le_pow_right (by omega) wide
  have front : addWord build.sizeBits 33 5 = 38 :=
    addWord_of_lt (by omega)
  change addWord _ (addWord _ 33 5) 16 = 54
  rw [front, addWord_of_lt (by omega)]

/-- The response is the header, the body and the ender, one by one. -/
theorem testProtocol_eq
    (surroundings : Surroundings) (buffer : List UInt8) :
    testProtocol build surroundings buffer =
      some
        ((responseHeader build surroundings).header.image ++
          (ckKeepalive ++
            ((responseHeader build surroundings).makeEnder
              surroundings.ender surroundings.testCount).1.image)) := by
  have range : (2 : Nat) ^ 6 ≤ 2 ^ build.sizeBits :=
    Nat.pow_le_pow_right (by omega) wide
  have total := getTotalSize_responseHeader wide surroundings
  have start :
      (HeaderCct.make : HeaderCct build).makeHeader 1010
          (UInt32.ofNat ckKeepalive.length) surroundings.random =
        (responseHeader build surroundings, 33) := rfl
  have packed := @responseHeader_packed build surroundings
  have whole := packed.length_image
  rw [sizeOfSdHeader] at whole
  have enderSize :=
    length_ender_image (responseHeader build surroundings) surroundings
  rw [sizeOfSdEnder] at enderSize
  have first :
      (responseHeader build surroundings).serialize
          (List.replicate 54 0) 54 =
        ((responseHeader build surroundings).header.image ++
          List.replicate 21 0, 33) := by
    have serialized :=
      HeaderCct.serialize_of_room wide packed
        (show sizeOfSdHeader ≤ (List.replicate 54 (0 : UInt8)).length by
          simp [sizeOfSdHeader])
    simpa [sizeOfSdHeader] using serialized
  generalize header : responseHeader build surroundings = made at *
  generalize image : made.header.image = front at *
  generalize ender :
    (made.makeEnder surroundings.ender surroundings.testCount).1.image =
      back at *
  have second :
      writeToBuffer build.sizeBits (front ++ List.replicate 21 0) 54 33
          ckKeepalive =
        some (front ++ ckKeepalive ++ List.replicate 16 0, 38) := by
    have written :=
      @writeToBuffer_append build.sizeBits front (List.replicate 21 0)
        ckKeepalive (by decide) (by simp; omega)
    simpa [whole, ckKeepalive, doubleWordBytes] using written
  have third :
      writeToBuffer build.sizeBits
          (front ++ ckKeepalive ++ List.replicate 16 0) 54 38 back =
        some (front ++ ckKeepalive ++ back, 54) := by
    have written :=
      @writeToBuffer_append build.sizeBits (front ++ ckKeepalive)
        (List.replicate 16 0) back (by simp [enderSize])
        (by simp [whole, ckKeepalive, doubleWordBytes]; omega)
    simpa [whole, enderSize, ckKeepalive, doubleWordBytes] using written
  simp only [testProtocol, start, total, first, second, ender, third,
    Option.getD_some]
  rw [List.append_assoc]

end

/-! ## What a peer receives -/

section

variable {build : Build} {limit : Nat}

theorem bodySize_responseHeader (surroundings : Surroundings) :
    (wireFormat build limit).bodySize
        (responseHeader build surroundings).header.image = 5 := by
  have field :=
    (@responseHeader_packed build surroundings).doubleWordAt_image []
  rw [List.append_nil] at field
  change
    (networkToHost32 build
      (doubleWordAt (responseHeader build surroundings).header.image
        14)).toNat = 5
  have value : networkToHost32 build
      (responseHeader build surroundings).header.length = 5 :=
    (networkToHost32_eq_iff build _ 5).mpr rfl
  rw [field, value]
  rfl

theorem tag_responseHeader (surroundings : Surroundings) :
    (wireFormat build limit).tag
        (responseHeader build surroundings).header.image = 1010 := by
  have field :=
    (@responseHeader_packed build surroundings).wordAt_image []
  rw [List.append_nil] at field
  change
    networkToHost16 build
      (wordAt (responseHeader build surroundings).header.image 12) = 1010
  rw [field]
  exact (networkToHost16_eq_iff build _ 1010).mpr rfl

/-- The response of `TestProtocol`, as a frame. -/
def responseFrame (room : 21 ≤ limit) (surroundings : Surroundings) :
    (wireFormat build limit).Frame where
  header := (responseHeader build surroundings).header.image
  body := ckKeepalive
  trailer :=
    ((responseHeader build surroundings).makeEnder surroundings.ender
      surroundings.testCount).1.image
  header_length := (responseHeader_packed surroundings).length_image
  body_length := (bodySize_responseHeader surroundings).symm
  trailer_length := length_ender_image _ surroundings
  fits := by
    rw [FrameFormat.payloadSize, bodySize_responseHeader]
    exact room

theorem message_responseFrame
    (room : 21 ≤ limit) (surroundings : Surroundings) :
    (@responseFrame build limit room surroundings).message =
      (1010, ckKeepalive) := by
  rw [FrameFormat.Frame.message, Prod.mk.injEq]
  exact ⟨tag_responseHeader surroundings, rfl⟩

theorem protocolKey_injective : Function.Injective protocolKey := by
  intro first second same
  exact UInt16.toUInt32_inj.mp (congrArg Int32.toUInt32 same)

/-- A message is answered with a frame, or not at all. -/
theorem answerTo_handlerSet
    (wide : 6 ≤ build.sizeBits) (room : 21 ≤ limit)
    (surroundings : Surroundings) (message : UInt16 × List UInt8) :
    answerTo (handlerSet build) surroundings message =
      if message.1 = 101 then
        (@responseFrame build limit room surroundings).symbols
      else
        [] := by
  have test : protocolKey message.1 = 101 ↔ message.1 = 101 :=
    protocolKey_injective.eq_iff' rfl
  rw [answerTo, handlerSet, List.lookup_cons, List.lookup_cons,
    List.lookup_nil]
  by_cases isTest : message.1 = 101
  · rw [if_pos isTest, beq_iff_eq.mpr (test.mpr isTest)]
    change (testProtocol build surroundings message.2).getD [] = _
    rw [testProtocol_eq wide]
    rfl
  · rw [if_neg isTest, beq_eq_false_iff_ne.mpr (mt test.mp isTest)]
    cases protocolKey message.1 == 501 <;> rfl

/-- The answers to a number of messages are a sequence of frames. -/
theorem exists_frames_of_answers
    (wide : 6 ≤ build.sizeBits) (room : 21 ≤ limit)
    {messages : List (UInt16 × List UInt8)} {answers : List (List UInt8)}
    (answered :
      List.Forall₂
        (fun message answer =>
          ∃ surroundings,
            answer = answerTo (handlerSet build) surroundings message)
        messages answers) :
    ∃ frames : List (wireFormat build limit).Frame,
      answers.flatten = FrameFormat.encode frames ∧
        (∀ frame ∈ frames, frame.message = (1010, ckKeepalive)) ∧
        frames.length =
          (messages.filter fun message => message.1 == 101).length := by
  induction answered with
  | nil => exact ⟨[], rfl, by simp, rfl⟩
  | @cons message answer messages answers given _ inductionHypothesis =>
      obtain ⟨frames, flat, same, count⟩ := inductionHypothesis
      obtain ⟨surroundings, rfl⟩ := given
      rw [answerTo_handlerSet wide room]
      by_cases isTest : message.1 = 101
      · refine ⟨responseFrame room surroundings :: frames, ?_, ?_, ?_⟩
        · rw [if_pos isTest, List.flatten_cons, flat,
            FrameFormat.encode_cons]
        · intro frame member
          rcases List.mem_cons.mp member with rfl | old
          · exact message_responseFrame room surroundings
          · exact same frame old
        · simp [isTest, count]
      · refine ⟨frames, ?_, same, ?_⟩
        · rw [if_neg isTest, List.flatten_cons, flat, List.nil_append]
        · simp [isTest, count]

end

/-- The surroundings when `rand` gives 0 and the memory of the ender is 0. -/
def zeroed : Surroundings where
  random := 0
  testCount := 1
  ender := ⟨0, 0, 0, 0, 0, [0, 0]⟩
  ender_szOpt := rfl

/-- A peer sends a message of type 101 and reads the answer. -/
def testedOnce : List Event :=
  [.acceptDone false,
    .receiveDone 0 (.received (headerImage 1)) false,
    .receiveDone 0 (.received (bodyImage 1)) false,
    .getPacketInfo, .processing 0 (testProtocol libraryBuild zeroed []),
    .send 0, .writeSome 0 54]

end LibSklt.DummyServer
