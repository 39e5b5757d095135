import LibSklt.Net.PacketProcess

/-!
# What `Paser` accepts, and where it stores

`HeaderPaser` reports a missing or invalid header as a length of zero, which
`BodyPaser` takes for a frame without bytes.  `Paser` therefore is sound and
complete only behind a peek that saw a whole, valid header.

The number of bytes that `Recv` stores is what the peer announces; the size
of the caller's buffer is passed on and never read.
-/

namespace LibSklt.Net.SyncSessionImpl

open LibSklt.DummyServer
open LibSklt.Foundation.Framing
open LibSklt.Foundation.MachineWord
open LibSklt.Util.ByteOrder

variable {H : Type} [SyncHeader H]

/-! ## Frames that are read completely -/

/--
The peek delivered the header, the header is valid, and exactly the announced
bytes were taken from the connection into the buffer.
-/
structure FrameRead (before after : SyncSessionImpl H)
    (memory : List UInt8) : Prop where
  peeked :
    (before.socket.peek
        (signedCast 32 (Header.getHeaderSize before.header))).1 =
      Header.getHeaderSize before.header
  validated :
    Header.validate (readHeader before.header before.socket.incoming) = true
  consumed :
    ∃ frame,
      before.socket.incoming = frame ++ after.socket.incoming ∧
        frame.length =
          SyncHeader.getTotalSize
            (readHeader before.header before.socket.incoming) ∧
        memory.take frame.length = frame

/-- With an end marker that is always accepted the loop decides. -/
theorem result_bodyPaser
    (accepts :
      ∀ (header : H) bytes size,
        Header.checkEndmarker header bytes size = true)
    (self : SyncSessionImpl H) (memory : List UInt8) (totalLength : Nat) :
    (self.bodyPaser memory totalLength).1 =
      (bodyLoop totalLength self.socket.recvResults
        ⟨0, self.socket, memory⟩).1 := by
  simp only [bodyPaser, accepts]
  cases (bodyLoop totalLength self.socket.recvResults
    ⟨0, self.socket, memory⟩).1 with
  | true => rfl
  | false => rfl

/-- Behind a header that was seen, `Paser` returns `true` for whole frames. -/
theorem HeaderSeen.frameRead
    {self : SyncSessionImpl H} {peeked : Int} {results : List Int}
    (seen : self.HeaderSeen peeked results)
    (accepts :
      ∀ (header : H) bytes size,
        Header.checkEndmarker header bytes size = true)
    {memory : List UInt8} (succeeds : (self.paser memory).1 = true) :
    FrameRead self (self.paser memory).2.1 (self.paser memory).2.2 := by
  refine ⟨by rw [seen.peek], seen.validate, ?_⟩
  rw [paser_of_seen seen] at succeeds ⊢
  generalize storeBytes memory 0 _ = stored at succeeds ⊢
  obtain ⟨bytes, incoming, taken, bounded, finished⟩ :=
    bodyPaser_read (self.afterHeader results) stored
      (SyncHeader.getTotalSize
        (readHeader self.header self.socket.incoming))
  rw [result_bodyPaser accepts] at succeeds
  have enough := finished.mp succeeds
  -- A length beyond `int` asks for less than it announces.
  have range :=
    signedCast_range (by decide : 0 < 32)
      (SyncHeader.getTotalSize
        (readHeader self.header self.socket.incoming) : Nat)
  refine ⟨bytes, incoming, ?_, taken⟩
  by_cases small :
      SyncHeader.getTotalSize
          (readHeader self.header self.socket.incoming) <
        2 ^ 31
  · rw [signedCast_of_lt small] at bounded
    omega
  · omega

/--
`Paser` returns `true` only for frames that were read completely, exactly if
the peek sees a whole, valid header.
-/
theorem paser_frameRead_iff
    (accepts :
      ∀ (header : H) bytes size,
        Header.checkEndmarker header bytes size = true)
    (self : SyncSessionImpl H) (memory : List UInt8) :
    ((self.paser memory).1 = true →
        FrameRead self (self.paser memory).2.1 (self.paser memory).2.2) ↔
      ∃ peeked results, self.HeaderSeen peeked results := by
  constructor
  · intro sound
    by_contra unseen
    simp only [not_exists] at unseen
    have returned :=
      (paser_of_not_seen unseen memory).1.trans (accepts _ _ _)
    obtain ⟨peeked, results, seen⟩ :=
      headerSeen_of_peek (sound returned).peeked (sound returned).validated
    exact unseen peeked results seen
  · rintro ⟨peeked, results, seen⟩ succeeds
    exact seen.frameRead accepts succeeds

/-- A frame without body is peeked at and read. -/
theorem paser_frameRead_answered :
    (SyncSessionImpl.paser
          (SyncSessionPool.connectedSession
            (HeaderCct.make : HeaderCct ⟨true, 64⟩) [] [33, 49]
            (List.replicate 49 0))
          (List.replicate 64 0)).1 =
        true ∧
      ∃ after memory,
        FrameRead
          (SyncSessionPool.connectedSession
            (HeaderCct.make : HeaderCct ⟨true, 64⟩) [] [33, 49]
            (List.replicate 49 0))
          after memory :=
  ⟨by decide, _, _,
    (paser_frameRead_iff (fun _ _ _ => rfl) _ (List.replicate 64 0)).mpr
      ⟨33, [49], rfl, by decide, by decide, by decide, rfl⟩ (by decide)⟩

/-- The peek fails, nothing is read, and `Paser` returns `true`. -/
theorem not_paser_frameRead_failed :
    ∃ self : SyncSessionImpl (HeaderCct ⟨true, 64⟩),
      self.socket.recvResults = [-1] ∧
        (self.paser (List.replicate 64 0)).1 = true ∧
        ¬ FrameRead self (self.paser (List.replicate 64 0)).2.1
            (self.paser (List.replicate 64 0)).2.2 := by
  refine ⟨SyncSessionPool.connectedSession HeaderCct.make [] [-1] [], rfl,
    by decide, ?_⟩
  intro read
  exact absurd read.peeked (by decide)

/-! ## Frames that arrive in pieces -/

/--
Where the calls of `recv` deliver a frame, `Paser` reads it exactly if the
peek sees the whole header and the length is an `int`.
-/
theorem paser_frame_iff
    {self : SyncSessionImpl H} {frame rest : List UInt8} {peeked : Int}
    {results : List Int}
    (incoming : self.socket.incoming = frame ++ rest)
    (valid : ValidFrame self.header frame)
    (pending : self.socket.recvResults = peeked :: results)
    (reads : ReadsAll frame.length results) (memory : List UInt8) :
    ((self.paser memory).1 = true ∧
        (self.paser memory).2.2.take frame.length = frame ∧
        (self.paser memory).2.1.socket.incoming = rest) ↔
      (Header.getHeaderSize self.header : Int) ≤ peeked ∧
        frame.length < 2 ^ 31 := by
  constructor
  · rintro ⟨-, taken, left⟩
    have received :
        Received frame.length self (self.paser memory).2.1
          (self.paser memory).2.2 := by
      refine ⟨frame, ?_, valid, Nat.le_refl _, taken⟩
      rw [left]
      exact incoming
    obtain ⟨other, after, first, following, split, otherValid, -, small,
        sequence, wanted, -⟩ :=
      (self.paser_received_iff_answers memory frame.length).mp received
    rw [pending] at sequence
    cases sequence
    have total := valid.totalSize_incoming incoming
    rw [otherValid.totalSize_incoming split] at total
    exact ⟨wanted, total ▸ small⟩
  · rintro ⟨wanted, small⟩
    obtain ⟨result, left, -, taken⟩ :=
      paser_of_answer incoming valid small pending wanted reads memory
    exact ⟨result, taken, left⟩

section

variable {build : Build} {limit : Nat}
  {self : SyncSessionImpl (HeaderCct build)}

/-- A frame of the wire that fits in a buffer is valid for the client. -/
theorem validFrame_symbols
    {header : HeaderCct build} (sized : header.Sized)
    (frame : (wireFormat build limit).Frame)
    (addressable : frame.symbols.length < 2 ^ build.sizeBits) :
    ValidFrame header frame.symbols := by
  have headerLength : frame.header.length = sizeOfSdHeader :=
    frame.header_length
  have length :
      frame.symbols.length =
        sizeOfSdHeader +
          ((wireFormat build limit).bodySize frame.header +
            sizeOfSdEnder) := by
    rw [FrameFormat.Frame.symbols, List.length_append,
      FrameFormat.Frame.payload_length, headerLength]
    rfl
  have wide : 6 ≤ build.sizeBits := by
    by_contra narrow
    have power : (2 : Nat) ^ build.sizeBits ≤ 2 ^ 5 :=
      Nat.pow_le_pow_right (by decide) (by omega)
    simp only [sizeOfSdHeader, sizeOfSdEnder] at length
    omega
  have image :
      readHeader header frame.symbols =
        (header.deserialize (frame.header ++ []) sizeOfSdHeader).1 := by
    rw [List.append_nil, readHeader]
    change
      (header.deserialize (frame.symbols.take header.sizeOfHeader)
        header.sizeOfHeader).1 = _
    rw [sized.header, FrameFormat.Frame.symbols, ← headerLength,
      List.take_left]
  have speaks := @headerCct_speaks build wide limit
  have body :
      (readHeader header frame.symbols).dataLen.toNat =
        (wireFormat build limit).bodySize frame.header := by
    rw [image]
    exact speaks.bodySize header frame.header [] sized headerLength
  have stillSized : (readHeader header frame.symbols).Sized :=
    speaks.good_deserialize header _ _ sized
  refine ⟨?_, ?_, rfl, ?_, rfl⟩
  · intro empty
    rw [empty, List.length_nil, sizeOfSdHeader] at length
    omega
  · change header.sizeOfHeader ≤ _
    rw [sized.header]
    omega
  · have inner :
        addWord build.sizeBits sizeOfSdHeader
            ((wireFormat build limit).bodySize frame.header) =
          sizeOfSdHeader +
            (wireFormat build limit).bodySize frame.header :=
      addWord_of_lt (by omega)
    change (readHeader header frame.symbols).getTotalSize = _
    rw [HeaderCct.getTotalSize, body, stillSized.header, stillSized.ender,
      inner, addWord_of_lt (by omega)]
    omega

/--
A frame that fits in the caller's buffer, in whatever pieces it arrives, is
read exactly if its header arrives in one piece and its length is an `int`.
-/
theorem paser_delivers_iff
    (sized : self.header.Sized) (frame : (wireFormat build limit).Frame)
    {rest : List UInt8} {bufferSize : Nat}
    (addressable : bufferSize < 2 ^ build.sizeBits)
    (fits : frame.symbols.length ≤ bufferSize)
    (incoming : self.socket.incoming = frame.symbols ++ rest)
    {peeked : Int} {results : List Int}
    (pending : self.socket.recvResults = peeked :: results)
    (reads : ReadsAll frame.symbols.length results)
    (memory : List UInt8) :
    ((self.paser memory).1 = true ∧
        (self.paser memory).2.2.take frame.symbols.length =
          frame.symbols ∧
        (self.paser memory).2.1.socket.incoming = rest) ↔
      (sizeOfSdHeader : Int) ≤ peeked ∧ frame.symbols.length < 2 ^ 31 := by
  have valid :=
    validFrame_symbols sized frame (fits.trans_lt addressable)
  have headerSize :
      Header.getHeaderSize self.header = sizeOfSdHeader :=
    sized.header
  rw [paser_frame_iff incoming valid pending reads memory, headerSize]

end

/-- A frame with a body of two bytes. -/
def twoBytes : (wireFormat ⟨true, 64⟩ 1024).Frame where
  header := List.replicate 17 0 ++ [2] ++ List.replicate 15 0
  body := [5, 6]
  trailer := List.replicate 16 0
  header_length := rfl
  body_length := by decide
  trailer_length := rfl
  fits := by decide

/-- A connection on which the frame and two more bytes arrive. -/
def twoBytesSession (recvResults : List Int) :
    SyncSessionImpl (HeaderCct ⟨true, 64⟩) :=
  SyncSessionPool.connectedSession HeaderCct.make [] recvResults
    (twoBytes.symbols ++ [7, 8])

/-- The header arrives in one piece, and the frame in three. -/
theorem paser_delivers_three_pieces :
    ((twoBytesSession [33, 20, 30, 1]).paser (List.replicate 64 0)).1 =
        true ∧
      ((twoBytesSession [33, 20, 30, 1]).paser
            (List.replicate 64 0)).2.2.take twoBytes.symbols.length =
        twoBytes.symbols ∧
      ((twoBytesSession [33, 20, 30, 1]).paser
          (List.replicate 64 0)).2.1.socket.incoming =
        [7, 8] := by
  refine (@paser_delivers_iff _ 1024 (twoBytesSession [33, 20, 30, 1])
    HeaderCct.make_sized twoBytes [7, 8] 64 (by decide) (by decide) rfl 33
    [20, 30, 1] rfl ?_ _).mpr ⟨by decide, by decide⟩
  exact .more (by decide) (by decide)
    (.more (by decide) (by decide)
      (.more (by decide) (by decide) (.done _)))

/--
The peek sees twenty bytes of the header: `Paser` returns `true`, and has read
nothing of a frame that the following call would deliver.
-/
theorem not_paser_delivers_header_in_pieces :
    ReadsAll twoBytes.symbols.length [51] ∧
      ((twoBytesSession [20, 51]).paser (List.replicate 64 0)).1 = true ∧
      ((twoBytesSession [20, 51]).paser
          (List.replicate 64 0)).2.1.socket.incoming =
        twoBytes.symbols ++ [7, 8] ∧
      ¬ (((twoBytesSession [20, 51]).paser (List.replicate 64 0)).1 =
            true ∧
          ((twoBytesSession [20, 51]).paser
              (List.replicate 64 0)).2.2.take twoBytes.symbols.length =
            twoBytes.symbols ∧
          ((twoBytesSession [20, 51]).paser
              (List.replicate 64 0)).2.1.socket.incoming =
            [7, 8]) := by
  exact ⟨.more (by decide) (by decide) (.done _), by decide, by decide,
    by decide⟩

/-! ## The caller's buffer -/

/-- What lies behind the stored bytes is left as it is. -/
theorem drop_storeBytes
    {memory bytes : List UInt8} {offset bound : Nat}
    (below : offset + bytes.length ≤ bound)
    (room : bound ≤ memory.length) :
    (storeBytes memory offset bytes).drop bound = memory.drop bound := by
  have front :
      (memory.take offset ++ bytes).length = offset + bytes.length := by
    rw [List.length_append, List.length_take]
    omega
  obtain ⟨more, rfl⟩ := Nat.exists_eq_add_of_le below
  rw [storeBytes, ← front, ← List.drop_drop, List.drop_left, front,
    List.drop_drop]

theorem length_le_length_storeBytes
    {memory bytes : List UInt8} {offset : Nat}
    (inside : offset ≤ memory.length) :
    memory.length ≤ (storeBytes memory offset bytes).length := by
  simp only [storeBytes, List.length_append, List.length_take,
    List.length_drop]
  omega

/-- The loop of `BodyPaser` stores nothing behind what it transferred. -/
theorem bodyLoop_stores
    {totalLength bound : Nat} {results : List Int} {reading : Reading}
    (inside : reading.bytesTransferred ≤ reading.memory.length)
    (below :
      (bodyLoop totalLength results reading).2.bytesTransferred ≤ bound)
    (room : bound ≤ reading.memory.length) :
    (bodyLoop totalLength results reading).2.memory.drop bound =
      reading.memory.drop bound := by
  induction results generalizing reading with
  | nil => rfl
  | cons result results inductionHypothesis =>
      rw [bodyLoop_cons] at below ⊢
      by_cases more : reading.bytesTransferred < totalLength
      · rw [if_pos more] at below ⊢
        obtain ⟨length, -⟩ :=
          reading.socket.recv_read
            (signedCast 32 totalLength - reading.bytesTransferred)
        generalize reading.socket.recv
          (signedCast 32 totalLength - reading.bytesTransferred) = received
          at length below ⊢
        simp only at below ⊢
        by_cases failed : received.1 ≤ 0
        · rw [if_pos failed]
        · rw [if_neg failed] at below ⊢
          have stored :
              reading.bytesTransferred + received.1.toNat ≤
                (storeBytes reading.memory reading.bytesTransferred
                  received.2.1).length := by
            rw [← length]
            exact le_length_storeBytes inside
          obtain ⟨bytes, -, transferred, -⟩ :=
            (bodyRead_bodyLoop totalLength results
              ⟨reading.bytesTransferred + received.1.toNat,
                received.2.2,
                storeBytes reading.memory reading.bytesTransferred
                  received.2.1⟩ stored).read
          simp only at transferred
          rw [inductionHypothesis stored below
            (room.trans (length_le_length_storeBytes inside))]
          exact drop_storeBytes (by omega) room
      · rw [if_neg more]

/-- A peek copies no more than was asked for, and no more than there is. -/
theorem length_peek_le (socket : SyncSocket) (request : Int) :
    (socket.peek request).2.1.length ≤
      min request.toNat socket.incoming.length := by
  rw [SyncSocket.peek]
  split
  · exact Nat.zero_le _
  case h_2 result results pending =>
    have wanted :=
      transferCount_le_request result request socket.incoming.length
    simp only [List.length_take]
    omega

/-- The session before other results of the calls of `recv`. -/
def withResults (self : SyncSessionImpl H) (results : List Int) :
    SyncSessionImpl H :=
  { self with socket := { self.socket with recvResults := results } }

/--
Whatever the calls of `recv` report and the memory holds, `Recv` changes
nothing from the end of the buffer on.
-/
def StaysBelow (bufferSize : Nat) (self : SyncSessionImpl H) : Prop :=
  ∀ (results : List Int) (memory : List UInt8),
    bufferSize ≤ memory.length →
      ((self.withResults results).recv memory).2.2.drop bufferSize =
        memory.drop bufferSize

/--
What the peer sends of a header, and behind a whole, valid header of the
announced frame, fits in the buffer.  Both requests are `int` values.
-/
structure StreamFits (bufferSize : Nat) (session : SyncSessionImpl H) :
    Prop where
  header :
    min (signedCast 32 (Header.getHeaderSize session.header)).toNat
        session.socket.incoming.length ≤
      bufferSize
  frame :
    Header.getHeaderSize session.header < 2 ^ 31 →
      Header.getHeaderSize session.header ≤
          session.socket.incoming.length →
        Header.validate
              (readHeader session.header session.socket.incoming) =
            true →
          min
              (signedCast 32
                (SyncHeader.getTotalSize
                  (readHeader session.header
                    session.socket.incoming))).toNat
              session.socket.incoming.length ≤
            bufferSize

theorem memory_headerPaser
    (self : SyncSessionImpl H) (memory : List UInt8) :
    (self.headerPaser memory).2.2 =
      storeBytes memory 0
        (self.socket.peek
          (signedCast 32 (Header.getHeaderSize self.header))).2.1 := by
  simp only [headerPaser]
  split_ifs
  · rfl
  · rfl
  · rfl

theorem memory_bodyPaser
    (self : SyncSessionImpl H) (memory : List UInt8) (totalLength : Nat) :
    (self.bodyPaser memory totalLength).2.2 =
      (bodyLoop totalLength self.socket.recvResults
        ⟨0, self.socket, memory⟩).2.memory := by
  simp only [bodyPaser]
  cases (bodyLoop totalLength self.socket.recvResults
    ⟨0, self.socket, memory⟩).1 with
  | true => rfl
  | false => rfl

/-- A stream that fits is stored below the end of the buffer. -/
theorem StreamFits.drop_paser
    {self : SyncSessionImpl H} {bufferSize : Nat}
    (fits : StreamFits bufferSize self) {memory : List UInt8}
    (room : bufferSize ≤ memory.length) :
    (self.paser memory).2.2.drop bufferSize = memory.drop bufferSize := by
  have header := fits.header
  by_cases seen : ∃ peeked results, self.HeaderSeen peeked results
  · obtain ⟨peeked, results, seen⟩ := seen
    have small := seen.small
    have available := seen.available
    rw [signedCast_of_lt small] at header
    have image :
        (self.socket.incoming.take
          (Header.getHeaderSize self.header)).length ≤ bufferSize := by
      rw [List.length_take]
      omega
    have loop :=
      bodyRead_bodyLoop
        (SyncHeader.getTotalSize
          (readHeader self.header self.socket.incoming))
        results
        ⟨0, (self.afterHeader results).socket,
          storeBytes memory 0
            (self.socket.incoming.take
              (Header.getHeaderSize self.header))⟩
        (Nat.zero_le _)
    obtain ⟨bytes, incoming, transferred, -⟩ := loop.read
    have length := congrArg List.length incoming
    have bounded := loop.bounded
    have frame := fits.frame small available seen.validate
    simp only [afterHeader, List.length_append] at length
    simp only [Nat.zero_max, Nat.zero_add] at bounded transferred
    rw [paser_of_seen seen, memory_bodyPaser]
    refine Eq.trans (bodyLoop_stores (Nat.zero_le _) ?_ ?_)
      (drop_storeBytes (by omega) room)
    · change
        (bodyLoop _ results _).2.bytesTransferred ≤ bufferSize
      omega
    · exact room.trans (length_le_length_storeBytes (Nat.zero_le _))
  · simp only [not_exists] at seen
    have copied :=
      length_peek_le self.socket
        (signedCast 32 (Header.getHeaderSize self.header))
    rw [(paser_of_not_seen seen memory).2.1, memory_headerPaser]
    exact drop_storeBytes (by omega) room

/-- A call of `recv` that reports everything stores what it can. -/
theorem le_length_bodyLoop_single
    {totalLength : Nat} {socket : SyncSocket} (memory : List UInt8)
    (pending :
      socket.recvResults = [signedCast 32 (totalLength : Nat)]) :
    min (signedCast 32 (totalLength : Nat)).toNat
        socket.incoming.length ≤
      (bodyLoop totalLength socket.recvResults
        ⟨0, socket, memory⟩).2.memory.length := by
  have inside :=
    (bodyRead_bodyLoop totalLength socket.recvResults
      ⟨0, socket, memory⟩ (Nat.zero_le _)).inside
  refine Nat.le_trans (Nat.le_of_eq ?_) inside
  have count :
      min (signedCast 32 (totalLength : Nat)).toNat
          socket.incoming.length =
        (transferCount (signedCast 32 (totalLength : Nat))
          (signedCast 32 (totalLength : Nat))
          socket.incoming.length).toNat := by
    rw [transferCount]
    split_ifs <;> omega
  rw [pending, bodyLoop_cons]
  split_ifs with announced
  · simp only [SyncSocket.recv, pending, Nat.cast_zero, Int.sub_zero]
    split_ifs with failed
    · simp only
      omega
    · simp only [bodyLoop, Nat.zero_add]
      exact count
  · obtain rfl : totalLength = 0 := Nat.eq_zero_of_not_pos announced
    exact Nat.zero_min _

/-- A peek that reports everything, and no further call. -/
theorem le_length_paser_single
    (self : SyncSessionImpl H) (memory : List UInt8) :
    min (signedCast 32 (Header.getHeaderSize self.header)).toNat
        self.socket.incoming.length ≤
      ((self.withResults
          [signedCast 32 (Header.getHeaderSize self.header)]).paser
        memory).2.2.length := by
  have peek :
      ((self.withResults
            [signedCast 32 (Header.getHeaderSize self.header)]).socket.peek
          (signedCast 32 (Header.getHeaderSize self.header))).2.1.length =
        min (signedCast 32 (Header.getHeaderSize self.header)).toNat
          self.socket.incoming.length := by
    simp only [withResults, SyncSocket.peek, List.length_take,
      transferCount]
    split_ifs <;> omega
  have stored :
      ((self.withResults
            [signedCast 32 (Header.getHeaderSize self.header)]).paser
          memory).2.2 =
        storeBytes memory 0
          ((self.withResults
              [signedCast 32
                (Header.getHeaderSize self.header)]).socket.peek
            (signedCast 32 (Header.getHeaderSize self.header))).2.1 := by
    have results :
        ((self.withResults
            [signedCast 32 (Header.getHeaderSize self.header)]).headerPaser
          memory).2.1.socket.recvResults = [] := by
      simp only [headerPaser]
      split_ifs
      · rfl
      · rfl
      · rfl
    rw [paser]
    simp only
    rw [memory_bodyPaser, results, memory_headerPaser]
    rfl
  rw [stored, ← peek]
  exact
    (Nat.zero_add _).ge.trans (le_length_storeBytes (Nat.zero_le _))

/-- A peek that sees the header, and one call that reports everything. -/
theorem le_length_paser_pair
    {self : SyncSessionImpl H}
    (small : Header.getHeaderSize self.header < 2 ^ 31)
    (available :
      Header.getHeaderSize self.header ≤ self.socket.incoming.length)
    (validate :
      Header.validate (readHeader self.header self.socket.incoming) = true)
    (memory : List UInt8) :
    min
        (signedCast 32
          (SyncHeader.getTotalSize
            (readHeader self.header self.socket.incoming))).toNat
        self.socket.incoming.length ≤
      ((self.withResults
          [Header.getHeaderSize self.header,
            signedCast 32
              (SyncHeader.getTotalSize
                (readHeader self.header self.socket.incoming))]).paser
        memory).2.2.length := by
  generalize announced :
    SyncHeader.getTotalSize
      (readHeader self.header self.socket.incoming) = total
  have seen :
      (self.withResults
        [Header.getHeaderSize self.header,
          signedCast 32 total]).HeaderSeen
        (Header.getHeaderSize self.header) [signedCast 32 total] :=
    ⟨rfl, Int.le_refl _, small, available, validate⟩
  have length :
      SyncHeader.getTotalSize
          (readHeader
            (self.withResults
              [Header.getHeaderSize self.header,
                signedCast 32 total]).header
            (self.withResults
              [Header.getHeaderSize self.header,
                signedCast 32 total]).socket.incoming) =
        total :=
    announced
  rw [paser_of_seen seen, memory_bodyPaser, length]
  generalize storeBytes memory 0 _ = stored
  exact
    @le_length_bodyLoop_single total
      { self.socket with recvResults := [signedCast 32 total] } stored rfl

/--
`Recv` stores only in the caller's buffer exactly if the session is closed, or
what the peer sends of the header and of the announced frame fits in it.
-/
theorem recv_staysBelow_iff
    (self : SyncSessionImpl H) (bufferSize : Nat) :
    StaysBelow bufferSize self ↔
      (self.isConnection = true → StreamFits bufferSize self) := by
  constructor
  · intro stays isOpen
    -- In a memory that ends with the buffer, every store behind it shows.
    have confined :
        ∀ results,
          ((self.withResults results).paser
            (List.replicate bufferSize 0)).2.2.length ≤ bufferSize := by
      intro results
      have stillOpen : (self.withResults results).isConnection = true :=
        isOpen
      have unchanged :=
        stays results (List.replicate bufferSize 0)
          List.length_replicate.ge
      rw [recv_of_open stillOpen, List.drop_of_length_le
        List.length_replicate.le] at unchanged
      exact List.drop_eq_nil_iff.mp unchanged
    constructor
    · exact (self.le_length_paser_single _).trans (confined _)
    · intro small available validate
      exact
        (le_length_paser_pair small available validate _).trans
          (confined _)
  · intro fits results memory room
    by_cases isOpen : self.isConnection = true
    · have stillOpen : (self.withResults results).isConnection = true :=
        isOpen
      rw [recv_of_open stillOpen]
      have sameFits : StreamFits bufferSize (self.withResults results) :=
        ⟨(fits isOpen).header, (fits isOpen).frame⟩
      exact sameFits.drop_paser room
    · have closed : ¬ (self.withResults results).isConnection = true :=
        isOpen
      rw [recv, if_pos closed]

/--
The buffer has room for the header and not for the frame: eleven bytes are
stored behind it.
-/
theorem not_recv_staysBelow_frame :
    (((twoBytesSession []).withResults [33, 51]).recv
          (List.replicate 40 0)).2.2.length =
        51 ∧
      ¬ StaysBelow 40 (twoBytesSession []) := by
  refine ⟨by decide, ?_⟩
  intro stays
  have unchanged :=
    congrArg List.length
      (stays [33, 51] (List.replicate 40 0) (Nat.le_refl 40))
  exact absurd unchanged (by decide)

end LibSklt.Net.SyncSessionImpl
