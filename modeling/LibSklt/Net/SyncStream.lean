import LibSklt.DummyServer.Handlers
import LibSklt.Net.SyncParsing

/-!
# Frames one after the other

A caller reads a connection with one `Recv` after the other, into the same
buffer.  Nothing marks where a frame begins but the place in the stream, so a
call that reads too much or too little spoils all later ones.  If each peek
sees a whole header, every call reads one frame: in whatever pieces the bytes
arrive, the calls return the frames in the order in which they were sent.

With the answers of the dummy server this gives both ends of a connection: a
peer in lock step reads the answers to its own messages.
-/

namespace LibSklt.Net.SyncSessionImpl

open LibSklt.DummyServer
open LibSklt.Foundation.Framing
open LibSklt.Foundation.MachineWord
open LibSklt.Foundation.Transition
open LibSklt.Handler
open LibSklt.Util.ByteOrder

variable {H : Type}

/-! ## The results that a call uses up -/

/-- The results of `recv` that are left when so many bytes were read. -/
def afterReads : Nat → List Int → List Int
  | _, [] => []
  | remaining, result :: results =>
      if remaining = 0 then
        result :: results
      else
        afterReads (remaining - result.toNat) results

@[simp]
theorem afterReads_zero (results : List Int) :
    afterReads 0 results = results := by
  cases results <;> rfl

theorem recvResults_bodyLoop
    {totalLength : Nat} (small : totalLength < 2 ^ 31)
    {results : List Int} {reading : Reading}
    (pending : reading.socket.recvResults = results)
    (inside : reading.bytesTransferred ≤ totalLength)
    (available :
      totalLength - reading.bytesTransferred ≤
        reading.socket.incoming.length)
    (reads :
      ReadsAll (totalLength - reading.bytesTransferred) results) :
    (bodyLoop totalLength results reading).2.socket.recvResults =
      afterReads (totalLength - reading.bytesTransferred) results := by
  induction results generalizing reading with
  | nil => exact pending
  | cons result results inductionHypothesis =>
      rw [bodyLoop_cons]
      by_cases more : reading.bytesTransferred < totalLength
      · obtain ⟨positive, rest⟩ :=
          (readsAll_cons_iff (by omega) result results).mp reads
        have request :
            signedCast 32 totalLength - (reading.bytesTransferred : Int) =
              (totalLength - reading.bytesTransferred : Nat) := by
          rw [signedCast_of_lt small]
          omega
        have count :
            transferCount result
                (totalLength - reading.bytesTransferred : Nat)
                reading.socket.incoming.length =
              min result (totalLength - reading.bytesTransferred : Nat) :=
          transferCount_of_enough positive.le (by omega) (by omega)
        have remaining :
            totalLength -
                (reading.bytesTransferred +
                  (min result
                    (totalLength - reading.bytesTransferred :
                      Nat)).toNat) =
              totalLength - reading.bytesTransferred - result.toNat := by
          omega
        have used :
            afterReads (totalLength - reading.bytesTransferred)
                (result :: results) =
              afterReads
                (totalLength - reading.bytesTransferred - result.toNat)
                results := by
          rw [afterReads, if_neg (by omega)]
        rw [if_pos more, request, used]
        simp only [SyncSocket.recv, pending]
        rw [count, if_neg (by omega), inductionHypothesis rfl
          (by simp only; omega) (by simp only [List.length_drop]; omega)
          (by simp only; rw [remaining]; exact rest)]
        simp only [remaining]
      · rw [if_neg more, Nat.sub_eq_zero_of_le (by omega), afterReads_zero]
        exact pending

section

variable [SyncHeader H]

theorem header_bodyPaser
    (self : SyncSessionImpl H) (memory : List UInt8) (totalLength : Nat) :
    (self.bodyPaser memory totalLength).2.1.header = self.header := by
  rw [bodyPaser]
  simp only
  split_ifs <;> rfl

theorem recvResults_bodyPaser
    (self : SyncSessionImpl H) (memory : List UInt8) (totalLength : Nat) :
    (self.bodyPaser memory totalLength).2.1.socket.recvResults =
      (bodyLoop totalLength self.socket.recvResults
        ⟨0, self.socket, memory⟩).2.socket.recvResults := by
  rw [bodyPaser]
  simp only
  split_ifs <;> rfl

/-- What a call of `Recv` leaves for the next one. -/
theorem recv_of_answer
    {self : SyncSessionImpl H} (isOpen : self.isConnection = true)
    {frame rest : List UInt8} {peeked : Int} {results : List Int}
    (incoming : self.socket.incoming = frame ++ rest)
    (valid : ValidFrame self.header frame)
    (small : frame.length < 2 ^ 31)
    (pending : self.socket.recvResults = peeked :: results)
    (wanted : (Header.getHeaderSize self.header : Int) ≤ peeked)
    (reads : ReadsAll frame.length results) (memory : List UInt8) :
    (self.recv memory).1 = true ∧
      (self.recv memory).2.2.take frame.length = frame ∧
      (self.recv memory).2.1.socket.incoming = rest ∧
      (self.recv memory).2.1.socket.recvResults =
        afterReads frame.length results ∧
      (self.recv memory).2.1.header = readHeader self.header frame ∧
      (self.recv memory).2.1.isConnection = true := by
  have stillOpen := (self.recv_unchanged memory).1
  have seen := Answers.headerSeen incoming valid small pending wanted
  obtain ⟨-, left, -, taken⟩ :=
    paser_of_answer incoming valid small pending wanted reads memory
  rw [recv_of_open isOpen] at stillOpen ⊢
  refine ⟨rfl, taken, left, ?_, ?_, stillOpen.trans isOpen⟩
  · rw [paser_of_seen seen, valid.totalSize_incoming incoming,
      recvResults_bodyPaser]
    refine recvResults_bodyLoop small rfl (Nat.zero_le _) ?_ reads
    simp only [afterHeader, incoming, List.length_append]
    omega
  · rw [paser_of_seen seen, header_bodyPaser, afterHeader, incoming,
      readHeader_append valid.headerSize]

/-- Calls of `Recv`, one after the other, into the same buffer. -/
def recvFrames :
    Nat → SyncSessionImpl H → List UInt8 →
      List (Bool × List UInt8) × SyncSessionImpl H
  | 0, self, _ => ([], self)
  | count + 1, self, memory =>
      let (received, self, memory) := self.recv memory
      let (others, self) := recvFrames count self memory
      ((received, memory) :: others, self)

end

/--
The results of `recv` deliver frames of these lengths: each peek sees a whole
header, and the calls behind it report positive counts up to the end.
-/
inductive Delivers : List Nat → List Int → Prop where
  | done (results : List Int) : Delivers [] results
  | next {length : Nat} {lengths : List Nat} {peeked : Int}
      {results : List Int}
      (wanted : (sizeOfSdHeader : Int) ≤ peeked)
      (reads : ReadsAll length results)
      (rest : Delivers lengths (afterReads length results)) :
      Delivers (length :: lengths) (peeked :: results)

section

variable {build : Build} {limit : Nat}

/--
The frames of a stream are read one by one, in their order, and the stream is
left at the end of the last one.
-/
theorem recvFrames_of_delivers
    {frames : List (wireFormat build limit).Frame}
    (small :
      ∀ frame ∈ frames,
        frame.symbols.length < 2 ^ 31 ∧
          frame.symbols.length < 2 ^ build.sizeBits)
    {self : SyncSessionImpl (HeaderCct build)}
    (isOpen : self.isConnection = true) (sized : self.header.Sized)
    {rest : List UInt8}
    (incoming : self.socket.incoming = FrameFormat.encode frames ++ rest)
    (delivers :
      Delivers (frames.map fun frame => frame.symbols.length)
        self.socket.recvResults)
    (memory : List UInt8) :
    List.Forall₂
        (fun frame result =>
          result.1 = true ∧
            result.2.take frame.symbols.length = frame.symbols)
        frames (recvFrames frames.length self memory).1 ∧
      (recvFrames frames.length self memory).2.socket.incoming =
        rest := by
  induction frames generalizing self memory with
  | nil => exact ⟨.nil, incoming⟩
  | cons frame frames inductionHypothesis =>
      generalize schedule : self.socket.recvResults = pending at delivers
      cases delivers with
      | @next _ _ peeked results wanted reads remaining =>
          obtain ⟨short, addressable⟩ := small frame (by simp)
          have valid := validFrame_symbols sized frame addressable
          rw [FrameFormat.encode_cons, List.append_assoc] at incoming
          have header :
              (Header.getHeaderSize self.header : Int) ≤ peeked := by
            have size : Header.getHeaderSize self.header =
                sizeOfSdHeader := sized.header
            rw [size]
            exact wanted
          obtain ⟨received, taken, left, further, object, stillOpen⟩ :=
            recv_of_answer isOpen incoming valid short schedule header
              reads memory
          have stillSized : (self.recv memory).2.1.header.Sized := by
            rw [object]
            exact HeaderCct.deserialize_sized sized _ _
          obtain ⟨others, finally_⟩ :=
            inductionHypothesis
              (fun other member => small other (by simp [member]))
              stillOpen stillSized left (further ▸ remaining)
              (self.recv memory).2.2
          exact ⟨.cons ⟨received, taken⟩ others, finally_⟩

end

/-! ## Both ends of a connection -/

section

variable {build : Build} {limit : Nat}

/-- A frame that `TestProtocol` answers with has 54 bytes. -/
theorem length_symbols_of_message
    {frame : (wireFormat build limit).Frame}
    (answer : frame.message = (1010, ckKeepalive)) :
    frame.symbols.length = 54 := by
  have body : frame.body = ckKeepalive := congrArg Prod.snd answer
  have size := frame.body_length
  rw [body] at size
  rw [FrameFormat.Frame.symbols, List.length_append,
    FrameFormat.Frame.payload_length, FrameFormat.payloadSize, ← size,
    frame.header_length]
  rfl

theorem length_encode_of_messages
    {frames : List (wireFormat build limit).Frame}
    (same : ∀ frame ∈ frames, frame.message = (1010, ckKeepalive)) :
    (FrameFormat.encode frames).length = 54 * frames.length := by
  induction frames with
  | nil => rfl
  | cons frame frames inductionHypothesis =>
      have first := length_symbols_of_message (same frame (by simp))
      have others :=
        inductionHypothesis fun other member => same other (by simp [member])
      rw [FrameFormat.encode_cons, List.length_append, first, others,
        List.length_cons]
      omega

/-- The first frames of a stream that begins a sequence of answers. -/
theorem stream_eq_encode_take
    {frames : List (wireFormat build limit).Frame}
    (same : ∀ frame ∈ frames, frame.message = (1010, ckKeepalive))
    {bytes : List UInt8} (written : bytes <+: FrameFormat.encode frames)
    {count : Nat} (enough : 54 * count ≤ bytes.length) :
    count ≤ frames.length ∧
      bytes =
        FrameFormat.encode (frames.take count) ++
          bytes.drop (54 * count) := by
  have total := length_encode_of_messages same
  have below : count ≤ frames.length := by
    have short := written.length_le
    omega
  have first :
      (FrameFormat.encode (frames.take count)).length = 54 * count := by
    rw [length_encode_of_messages
      (fun frame member => same frame (List.mem_of_mem_take member)),
      List.length_take_of_le below]
  have front : FrameFormat.encode (frames.take count) <+: bytes := by
    refine List.prefix_of_prefix_length_le ?_ written (by omega)
    refine ⟨FrameFormat.encode (frames.drop count), ?_⟩
    rw [← FrameFormat.encode_append, List.take_append_drop]
  obtain ⟨rest, rfl⟩ := front
  refine ⟨below, ?_⟩
  rw [← first, List.drop_left]

/-- Results that are the frames one by one are together the stream. -/
theorem flatMap_take_of_forall₂
    {frames : List (wireFormat build limit).Frame}
    (same : ∀ frame ∈ frames, frame.message = (1010, ckKeepalive))
    {results : List (Bool × List UInt8)}
    (read :
      List.Forall₂
        (fun frame result =>
          result.1 = true ∧
            result.2.take frame.symbols.length = frame.symbols)
        frames results) :
    List.Forall₂
        (fun frame result =>
          result.1 = true ∧ result.2.take 54 = frame.symbols)
        frames results ∧
      (results.flatMap fun result => result.2.take 54) =
        FrameFormat.encode frames := by
  induction read with
  | nil => exact ⟨.nil, rfl⟩
  | @cons frame result frames results first _ inductionHypothesis =>
      obtain ⟨others, flat⟩ :=
        inductionHypothesis fun other member => same other (by simp [member])
      obtain ⟨returned, taken⟩ := first
      rw [length_symbols_of_message (same frame (by simp))] at taken
      refine ⟨.cons ⟨returned, taken⟩ others, ?_⟩
      rw [List.flatMap_cons, taken, flat, FrameFormat.encode_cons]

end

/-- A client on whose connection the bytes arrive, in one piece. -/
def listening (incoming : List UInt8) :
    SyncSessionImpl (HeaderCct libraryBuild) :=
  SyncSessionPool.connectedSession HeaderCct.make [] [33, 54] incoming

end LibSklt.Net.SyncSessionImpl
