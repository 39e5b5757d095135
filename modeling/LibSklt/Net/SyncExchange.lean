import LibSklt.Net.SyncSessionPool

/-!
# Requests and replies of synchronous sessions

`Send` returns `true` only after the whole request was handed to the
connection.  `Recv` returns `true` on every open session; it has read a
complete frame exactly if the calls of `recv` delivered one.
-/

namespace LibSklt.Net

open LibSklt.Foundation.MachineWord

/-! ## One call of the operating system -/

theorem transferCount_le_available (result request : Int) (available : Nat) :
    transferCount result request available ≤ available := by
  rw [transferCount]
  split <;> omega

theorem transferCount_le_request (result request : Int) (available : Nat) :
    transferCount result request available ≤ max request 0 := by
  rw [transferCount]
  split <;> omega

/-- A call that could transfer everything transfers what it reports. -/
theorem transferCount_of_enough
    {result request : Int} {available : Nat} (nonnegative : 0 ≤ result)
    (wanted : 0 ≤ request) (enough : request ≤ available) :
    transferCount result request available = min result request := by
  rw [transferCount, if_neg (by omega)]
  omega

/-! ## `send` -/

/-- What sending does not touch. -/
structure SyncSocket.Sending (before after : SyncSocket) : Prop where
  isOpen : after.isOpen = before.isOpen
  recvResults : after.recvResults = before.recvResults
  incoming : after.incoming = before.incoming

theorem SyncSocket.Sending.refl (socket : SyncSocket) :
    socket.Sending socket :=
  ⟨rfl, rfl, rfl⟩

theorem SyncSocket.Sending.trans
    {first second third : SyncSocket} (before : first.Sending second)
    (after : second.Sending third) : first.Sending third where
  isOpen := after.isOpen.trans before.isOpen
  recvResults := after.recvResults.trans before.recvResults
  incoming := after.incoming.trans before.incoming

theorem SyncSocket.sending_send
    (socket : SyncSocket) (bytes : List UInt8) (request : Int) :
    socket.Sending (socket.send bytes request).2 := by
  rw [SyncSocket.send]
  split
  · exact .refl socket
  · exact ⟨rfl, rfl, rfl⟩

/--
A call of `send` takes the next result, and hands over as many bytes as it
reports; it hands over nothing when it fails.
-/
theorem SyncSocket.sent_send
    (socket : SyncSocket) (bytes : List UInt8) (request : Int) :
    (socket.send bytes request).1.toNat ≤ bytes.length ∧
      (socket.send bytes request).2.sent =
        socket.sent ++ bytes.take (socket.send bytes request).1.toNat ∧
      (socket.send bytes request).2.sendResults =
        socket.sendResults.drop 1 := by
  rw [SyncSocket.send]
  split
  case h_1 pending =>
    rw [pending]
    exact ⟨Nat.zero_le _, (List.append_nil _).symm, rfl⟩
  case h_2 result results pending =>
    have bounded :=
      transferCount_le_available result request bytes.length
    rw [pending]
    exact ⟨by simp only; omega, rfl, rfl⟩

/-! ## `recv` -/

/-- A call of `recv` takes as many bytes as it reports. -/
theorem SyncSocket.recv_read (socket : SyncSocket) (request : Int) :
    (socket.recv request).2.1.length = (socket.recv request).1.toNat ∧
      socket.incoming =
        (socket.recv request).2.1 ++ (socket.recv request).2.2.incoming := by
  rw [SyncSocket.recv]
  split
  · exact ⟨rfl, rfl⟩
  case h_2 result results pending =>
    have bounded :=
      transferCount_le_available result request socket.incoming.length
    constructor
    · simp only [List.length_take]
      omega
    · exact (List.take_append_drop _ _).symm

theorem SyncSocket.recv_unchanged (socket : SyncSocket) (request : Int) :
    (socket.recv request).2.2.isOpen = socket.isOpen ∧
      (socket.recv request).2.2.sent = socket.sent := by
  rw [SyncSocket.recv]
  split
  · exact ⟨rfl, rfl⟩
  · exact ⟨rfl, rfl⟩

theorem SyncSocket.recv_le (socket : SyncSocket) (request : Int) :
    (socket.recv request).1 ≤ max request 0 := by
  rw [SyncSocket.recv]
  split
  · simp only
    omega
  · exact transferCount_le_request _ _ _

/-- A peek leaves the bytes, and copies as many as it reports. -/
theorem SyncSocket.peek_unchanged (socket : SyncSocket) (request : Int) :
    (socket.peek request).2.2.incoming = socket.incoming ∧
      (socket.peek request).2.2.isOpen = socket.isOpen ∧
      (socket.peek request).2.2.sent = socket.sent ∧
      (socket.peek request).2.1 =
        socket.incoming.take (socket.peek request).1.toNat := by
  rw [SyncSocket.peek]
  split
  · exact ⟨rfl, rfl, rfl, rfl⟩
  · exact ⟨rfl, rfl, rfl, rfl⟩

variable {H : Type}

namespace SyncSessionImpl

/-! ## `Send` -/

/-- One round of the loop of `Send`. -/
theorem sendLoop_succ
    (buffer : List UInt8) (tries total : Nat) (socket : SyncSocket) :
    sendLoop buffer (tries + 1) total socket =
      let result :=
        socket.send (buffer.drop total)
          (signedCast 32 (buffer.length - total : Nat))
      if result.1 < 0 then
        (none, result.2)
      else if total + result.1.toNat < buffer.length then
        sendLoop buffer tries (total + result.1.toNat) result.2
      else
        (some (total + result.1.toNat), result.2) :=
  rfl

theorem sending_sendLoop
    (buffer : List UInt8) (tries total : Nat) (socket : SyncSocket) :
    socket.Sending (sendLoop buffer tries total socket).2 := by
  induction tries generalizing total socket with
  | zero => exact .refl socket
  | succ tries inductionHypothesis =>
      have one :=
        socket.sending_send (buffer.drop total)
          (signedCast 32 (buffer.length - total : Nat))
      rw [sendLoop_succ]
      simp only
      split_ifs
      · exact one
      · exact one.trans (inductionHypothesis _ _)
      · exact one

/--
The loop of `Send` hands over a beginning of the buffer, and knows how much
of it, unless it fails before the end.
-/
theorem sent_sendLoop
    {buffer already : List UInt8} {tries total : Nat}
    {socket : SyncSocket} (unfinished : total < buffer.length)
    (sent : socket.sent = already ++ buffer.take total) :
    ∃ final ≤ buffer.length,
      (sendLoop buffer tries total socket).2.sent =
          already ++ buffer.take final ∧
        ((sendLoop buffer tries total socket).1 = some final ∨
          (sendLoop buffer tries total socket).1 = none ∧
            final < buffer.length) := by
  induction tries generalizing total socket with
  | zero => exact ⟨total, unfinished.le, sent, Or.inl rfl⟩
  | succ tries inductionHypothesis =>
      have one :=
        socket.sent_send (buffer.drop total)
          (signedCast 32 (buffer.length - total : Nat))
      rw [sendLoop_succ]
      generalize socket.send (buffer.drop total)
        (signedCast 32 (buffer.length - total : Nat)) = result at one ⊢
      obtain ⟨bounded, handed, -⟩ := one
      rw [List.length_drop] at bounded
      have sentNext :
          result.2.sent =
            already ++ buffer.take (total + result.1.toNat) := by
        rw [handed, sent, List.append_assoc, List.take_add]
      simp only
      by_cases failed : result.1 < 0
      · rw [if_pos failed]
        rw [Int.toNat_of_nonpos failed.le] at sentNext
        exact ⟨total, unfinished.le, sentNext, Or.inr ⟨rfl, unfinished⟩⟩
      · rw [if_neg failed]
        by_cases more : total + result.1.toNat < buffer.length
        · rw [if_pos more]
          exact inductionHypothesis more sentNext
        · rw [if_neg more]
          exact ⟨_, by omega, sentNext, Or.inl rfl⟩

theorem send_sessionUnchanged
    (self : SyncSessionImpl H) (buffer : List UInt8) :
    self.socket.Sending (self.send buffer).2.socket ∧
      (self.send buffer).2.header = self.header ∧
        (self.send buffer).2.unread = self.unread := by
  rw [send]
  split_ifs
  · exact ⟨.refl _, rfl, rfl⟩
  · have loop := sending_sendLoop buffer tryCount 0 self.socket
    split
    case h_1 socket ended =>
      rw [ended] at loop
      exact ⟨loop, rfl, rfl⟩
    case h_2 total socket ended =>
      rw [ended] at loop
      exact ⟨loop, rfl, rfl⟩
  · exact ⟨.refl _, rfl, rfl⟩

/-- `Send` hands over a beginning of the buffer, and reports all of it. -/
theorem exists_handed (self : SyncSessionImpl H) (buffer : List UInt8) :
    ∃ count ≤ buffer.length,
      (self.send buffer).2.socket.sent =
          self.socket.sent ++ buffer.take count ∧
        ((self.send buffer).1 = true ↔
          count = buffer.length ∧ buffer ≠ []) := by
  rw [send]
  by_cases empty : buffer.length = 0
  · obtain rfl : buffer = [] := List.length_eq_zero_iff.mp empty
    refine ⟨0, Nat.le_refl _, ?_, ?_⟩
    · split_ifs <;> simp
    · split_ifs <;> simp
  · have nonempty : buffer ≠ [] := fun nil => empty (by rw [nil]; rfl)
    by_cases isOpen : self.isConnection = true
    · rw [if_neg (not_not.mpr isOpen), if_neg empty]
      obtain ⟨final, bounded, sent, ended⟩ :=
        @sent_sendLoop buffer self.socket.sent tryCount 0 self.socket
          (by omega) (by simp)
      refine ⟨final, bounded, ?_⟩
      generalize sendLoop buffer tryCount 0 self.socket = reached
        at sent ended ⊢
      obtain ⟨total, socket⟩ := reached
      obtain rfl | ⟨rfl, short⟩ := ended
      · refine ⟨sent, ?_⟩
        simp only [decide_eq_true_eq]
        exact ⟨fun all => ⟨by omega, nonempty⟩, fun all => by omega⟩
      · refine ⟨sent, ?_⟩
        simp only [Bool.false_eq_true, false_iff]
        omega
    · rw [if_pos isOpen]
      refine ⟨0, Nat.zero_le _, (List.append_nil _).symm, ?_⟩
      simp only [Bool.false_eq_true, false_iff]
      omega

/-- `Send` returns `true` only after it sent the whole buffer. -/
theorem send_eq_true
    {self : SyncSessionImpl H} {buffer : List UInt8}
    (succeeds : (self.send buffer).1 = true) :
    self.isConnection = true ∧ buffer ≠ [] ∧
      (self.send buffer).2.socket.sent = self.socket.sent ++ buffer := by
  obtain ⟨count, -, sent, whole⟩ := self.exists_handed buffer
  obtain ⟨rfl, nonempty⟩ := whole.mp succeeds
  rw [List.take_length] at sent
  refine ⟨?_, nonempty, sent⟩
  by_contra closed
  rw [send, if_pos closed] at succeeds
  cases succeeds

/-! ### The calls that `Send` makes -/

/-- How many calls of `send` the loop makes. -/
def sendCalls (buffer : List UInt8) : Nat → Nat → SyncSocket → Nat
  | 0, _, _ => 0
  | tries + 1, totalTransferred, socket =>
      let (bytesTransferred, socket) :=
        socket.send (buffer.drop totalTransferred)
          (signedCast 32 (buffer.length - totalTransferred : Nat))
      if bytesTransferred < 0 then
        1
      else
        let totalTransferred := totalTransferred + bytesTransferred.toNat
        if totalTransferred < buffer.length then
          sendCalls buffer tries totalTransferred socket + 1
        else
          1

theorem sendCalls_succ
    (buffer : List UInt8) (tries total : Nat) (socket : SyncSocket) :
    sendCalls buffer (tries + 1) total socket =
      let result :=
        socket.send (buffer.drop total)
          (signedCast 32 (buffer.length - total : Nat))
      if result.1 < 0 then
        1
      else if total + result.1.toNat < buffer.length then
        sendCalls buffer tries (total + result.1.toNat) result.2 + 1
      else
        1 :=
  rfl

theorem sendCalls_le
    (buffer : List UInt8) (tries total : Nat) (socket : SyncSocket) :
    sendCalls buffer tries total socket ≤ tries := by
  induction tries generalizing total socket with
  | zero => exact Nat.le_refl _
  | succ tries inductionHypothesis =>
      rw [sendCalls_succ]
      simp only
      split_ifs
      · exact Nat.le_add_left _ _
      · exact Nat.succ_le_succ (inductionHypothesis _ _)
      · exact Nat.le_add_left _ _

/-- Every call takes one result. -/
theorem sendResults_sendLoop
    (buffer : List UInt8) (tries total : Nat) (socket : SyncSocket) :
    (sendLoop buffer tries total socket).2.sendResults =
      socket.sendResults.drop (sendCalls buffer tries total socket) := by
  induction tries generalizing total socket with
  | zero => rfl
  | succ tries inductionHypothesis =>
      have one :=
        (socket.sent_send (buffer.drop total)
          (signedCast 32 (buffer.length - total : Nat))).2.2
      rw [sendLoop_succ, sendCalls_succ]
      simp only
      split_ifs
      · exact one
      · rw [inductionHypothesis, one, List.drop_drop, Nat.add_comm]
      · exact one

/-- How many calls of `send` a call of `Send` makes. -/
def sendCallCount (self : SyncSessionImpl H) (buffer : List UInt8) : Nat :=
  if ¬ self.isConnection then
    0
  else if buffer.length = 0 then
    0
  else
    sendCalls buffer tryCount 0 self.socket

/--
`Send` makes at most five calls, hands a beginning of the buffer to the
connection, and returns `true` exactly if that is the whole buffer and not
empty.
-/
theorem send_delivers (self : SyncSessionImpl H) (buffer : List UInt8) :
    (∃ count ≤ buffer.length,
        (self.send buffer).2.socket.sent =
            self.socket.sent ++ buffer.take count ∧
          ((self.send buffer).1 = true ↔
            count = buffer.length ∧ buffer ≠ [])) ∧
      self.sendCallCount buffer ≤ 5 ∧
      (self.send buffer).2.socket.sendResults =
        self.socket.sendResults.drop (self.sendCallCount buffer) := by
  refine ⟨self.exists_handed buffer, ?_, ?_⟩
  · rw [sendCallCount]
    split_ifs
    · exact Nat.zero_le _
    · exact sendCalls_le buffer tryCount 0 self.socket
    · exact Nat.zero_le _
  · have loop := sendResults_sendLoop buffer tryCount 0 self.socket
    rw [send, sendCallCount]
    split_ifs
    · rfl
    · generalize sendLoop buffer tryCount 0 self.socket = reached at loop ⊢
      obtain ⟨total, socket⟩ := reached
      cases total with
      | none => exact loop
      | some total => exact loop
    · rfl

/-! ## The body of a reply -/

theorem take_storeBytes
    {memory bytes : List UInt8} {offset : Nat}
    (inside : offset ≤ memory.length) :
    (storeBytes memory offset bytes).take (offset + bytes.length) =
      memory.take offset ++ bytes := by
  have length :
      (memory.take offset ++ bytes).length = offset + bytes.length := by
    rw [List.length_append, List.length_take, Nat.min_eq_left inside]
  rw [storeBytes, ← length, List.take_left]

theorem le_length_storeBytes
    {memory bytes : List UInt8} {offset : Nat}
    (inside : offset ≤ memory.length) :
    offset + bytes.length ≤ (storeBytes memory offset bytes).length := by
  simp only [storeBytes, List.length_append, List.length_take]
  omega

/-- What the loop of `BodyPaser` has done. -/
structure BodyRead (totalLength : Nat) (before after : Reading)
    (finished : Bool) : Prop where
  isOpen : after.socket.isOpen = before.socket.isOpen
  sent : after.socket.sent = before.socket.sent
  read :
    ∃ bytes,
      before.socket.incoming = bytes ++ after.socket.incoming ∧
        after.bytesTransferred = before.bytesTransferred + bytes.length ∧
          after.memory.take after.bytesTransferred =
            before.memory.take before.bytesTransferred ++ bytes
  inside : after.bytesTransferred ≤ after.memory.length
  finished_iff : finished = true ↔ totalLength ≤ after.bytesTransferred
  bounded :
    after.bytesTransferred ≤
      max before.bytesTransferred (signedCast 32 totalLength).toNat

/-- One round of the loop of `BodyPaser`. -/
theorem bodyLoop_cons
    (totalLength : Nat) (result : Int) (results : List Int)
    (reading : Reading) :
    bodyLoop totalLength (result :: results) reading =
      if reading.bytesTransferred < totalLength then
        let received :=
          reading.socket.recv
            (signedCast 32 totalLength - reading.bytesTransferred)
        if received.1 ≤ 0 then
          (false, { reading with socket := received.2.2 })
        else
          bodyLoop totalLength results
            ⟨reading.bytesTransferred + received.1.toNat, received.2.2,
              storeBytes reading.memory reading.bytesTransferred
                received.2.1⟩
      else
        (true, reading) :=
  rfl

theorem bodyRead_bodyLoop
    (totalLength : Nat) (results : List Int) (reading : Reading)
    (inside : reading.bytesTransferred ≤ reading.memory.length) :
    BodyRead totalLength reading
      (bodyLoop totalLength results reading).2
      (bodyLoop totalLength results reading).1 := by
  induction results generalizing reading with
  | nil =>
      refine ⟨rfl, rfl, ⟨[], rfl, rfl, (List.append_nil _).symm⟩, inside, ?_,
        le_max_left _ _⟩
      simp [bodyLoop]
  | cons result results inductionHypothesis =>
      rw [bodyLoop_cons]
      by_cases more : reading.bytesTransferred < totalLength
      · rw [if_pos more]
        obtain ⟨length, split⟩ :=
          reading.socket.recv_read
            (signedCast 32 totalLength - reading.bytesTransferred)
        obtain ⟨isOpen, sent⟩ :=
          reading.socket.recv_unchanged
            (signedCast 32 totalLength - reading.bytesTransferred)
        have wanted :=
          reading.socket.recv_le
            (signedCast 32 totalLength - reading.bytesTransferred)
        generalize reading.socket.recv
          (signedCast 32 totalLength - reading.bytesTransferred) = received
          at length split isOpen sent wanted ⊢
        simp only
        by_cases failed : received.1 ≤ 0
        · rw [if_pos failed]
          have nothing : received.2.1 = [] := by
            rw [← List.length_eq_zero_iff, length]
            omega
          refine ⟨isOpen, sent, ⟨[], ?_, rfl, (List.append_nil _).symm⟩,
            inside, ?_, le_max_left _ _⟩
          · rw [nothing] at split
            exact split
          · simp only [Bool.false_eq_true, false_iff]
            omega
        · rw [if_neg failed]
          have next :=
            inductionHypothesis
              ⟨reading.bytesTransferred + received.1.toNat, received.2.2,
                storeBytes reading.memory reading.bytesTransferred
                  received.2.1⟩
              (by
                simp only [← length]
                exact le_length_storeBytes inside)
          obtain ⟨bytes, incoming, transferred, memory⟩ := next.read
          refine ⟨next.isOpen.trans isOpen, next.sent.trans sent,
            ⟨received.2.1 ++ bytes, ?_, ?_, ?_⟩, next.inside,
            next.finished_iff, ?_⟩
          · rw [split, incoming, List.append_assoc]
          · rw [transferred, List.length_append, length, Nat.add_assoc]
          · rw [memory]
            simp only [← length]
            rw [take_storeBytes inside, List.append_assoc]
          · refine next.bounded.trans ?_
            simp only
            omega
      · rw [if_neg more]
        refine ⟨rfl, rfl, ⟨[], rfl, rfl, (List.append_nil _).symm⟩, inside,
          ?_, le_max_left _ _⟩
        simp only [true_iff]
        omega

/-- The results are positive until so many bytes have been read. -/
inductive ReadsAll : Nat → List Int → Prop where
  | done (results : List Int) : ReadsAll 0 results
  | more {remaining : Nat} {result : Int} {results : List Int}
      (wanted : 0 < remaining) (positive : 0 < result)
      (rest : ReadsAll (remaining - result.toNat) results) :
      ReadsAll remaining (result :: results)

theorem readsAll_cons_iff
    {remaining : Nat} (wanted : 0 < remaining) (result : Int)
    (results : List Int) :
    ReadsAll remaining (result :: results) ↔
      0 < result ∧ ReadsAll (remaining - result.toNat) results := by
  constructor
  · intro reads
    cases reads with
    | done => exact absurd wanted (lt_irrefl _)
    | more _ positive rest => exact ⟨positive, rest⟩
  · rintro ⟨positive, rest⟩
    exact .more wanted positive rest

/-- Where the bytes are there, the loop ends by the results alone. -/
theorem bodyLoop_finishes_iff
    {totalLength : Nat} (small : totalLength < 2 ^ 31)
    {results : List Int} {reading : Reading}
    (pending : reading.socket.recvResults = results)
    (inside : reading.bytesTransferred ≤ totalLength)
    (available :
      totalLength - reading.bytesTransferred ≤
        reading.socket.incoming.length) :
    (bodyLoop totalLength results reading).1 = true ↔
      ReadsAll (totalLength - reading.bytesTransferred) results := by
  induction results generalizing reading with
  | nil =>
      simp only [bodyLoop, decide_eq_true_eq]
      constructor
      · intro done
        rw [Nat.sub_eq_zero_of_le (by omega)]
        exact .done _
      · intro reads
        generalize remaining :
          totalLength - reading.bytesTransferred = count at reads
        cases reads
        omega
  | cons result results inductionHypothesis =>
      rw [bodyLoop_cons]
      by_cases more : reading.bytesTransferred < totalLength
      · have request :
            signedCast 32 totalLength - (reading.bytesTransferred : Int) =
              (totalLength - reading.bytesTransferred : Nat) := by
          rw [signedCast_of_lt small]
          omega
        rw [if_pos more, readsAll_cons_iff (by omega), request]
        simp only [SyncSocket.recv, pending]
        by_cases positive : 0 < result
        · have count :
              transferCount result
                  (totalLength - reading.bytesTransferred : Nat)
                  reading.socket.incoming.length =
                min result (totalLength - reading.bytesTransferred : Nat) :=
            transferCount_of_enough positive.le (by omega) (by omega)
          rw [count, if_neg (by omega),
            inductionHypothesis rfl (by simp only; omega)
              (by simp only [List.length_drop]; omega)]
          simp only [positive, true_and]
          have remaining :
              totalLength -
                  (reading.bytesTransferred +
                    (min result
                      (totalLength - reading.bytesTransferred :
                        Nat)).toNat) =
                totalLength - reading.bytesTransferred - result.toNat := by
            omega
          rw [remaining]
        · have failed :
              transferCount result
                  (totalLength - reading.bytesTransferred : Nat)
                  reading.socket.incoming.length ≤ 0 := by
            rw [transferCount]
            split <;> omega
          rw [if_pos failed]
          simp [positive]
      · rw [if_neg more, Nat.sub_eq_zero_of_le (by omega)]
        simp only [true_iff]
        exact .done _

/-! ## Complete frames -/

section

variable [SyncHeader H]

/-- The header object after it read the beginning of the bytes. -/
def readHeader (header : H) (bytes : List UInt8) : H :=
  (Header.deserialize header (bytes.take (Header.getHeaderSize header))
    (Header.getHeaderSize header)).1

/-- The bytes are one frame with a valid header and end marker. -/
structure ValidFrame (header : H) (frame : List UInt8) : Prop where
  nonempty : frame ≠ []
  headerSize : Header.getHeaderSize header ≤ frame.length
  validate : Header.validate (readHeader header frame) = true
  totalSize :
    SyncHeader.getTotalSize (readHeader header frame) = frame.length
  endmarker :
    Header.checkEndmarker (readHeader header frame) frame frame.length = true

/-- One complete frame was read from the connection into the buffer. -/
def Received (bufferSize : Nat) (before after : SyncSessionImpl H)
    (memory : List UInt8) : Prop :=
  ∃ frame,
    before.socket.incoming = frame ++ after.socket.incoming ∧
      ValidFrame before.header frame ∧ frame.length ≤ bufferSize ∧
        memory.take frame.length = frame

/--
The peer answers with a complete frame that fits in the buffer, and the calls
of `recv` deliver it: the peek sees the whole header, and the following calls
report positive counts up to the end of the frame.
-/
def Answers (bufferSize : Nat) (self : SyncSessionImpl H) : Prop :=
  ∃ frame rest peeked results,
    self.socket.incoming = frame ++ rest ∧
      ValidFrame self.header frame ∧ frame.length ≤ bufferSize ∧
        frame.length < 2 ^ 31 ∧
          self.socket.recvResults = peeked :: results ∧
            (Header.getHeaderSize self.header : Int) ≤ peeked ∧
              ReadsAll frame.length results

/-- The header of a frame is the header of everything that begins with it. -/
theorem readHeader_append
    {header : H} {frame : List UInt8}
    (whole : Header.getHeaderSize header ≤ frame.length)
    (rest : List UInt8) :
    readHeader header (frame ++ rest) = readHeader header frame := by
  rw [readHeader, List.take_append_of_le_length whole]
  rfl

/-- `HeaderPaser` sees the whole header, and the header is valid. -/
structure HeaderSeen (session : SyncSessionImpl H) (peeked : Int)
    (results : List Int) : Prop where
  pending : session.socket.recvResults = peeked :: results
  wanted : (Header.getHeaderSize session.header : Int) ≤ peeked
  small : Header.getHeaderSize session.header < 2 ^ 31
  available :
    Header.getHeaderSize session.header ≤ session.socket.incoming.length
  validate :
    Header.validate (readHeader session.header session.socket.incoming) = true

/-- The session after `HeaderPaser` saw a header. -/
def afterHeader (self : SyncSessionImpl H) (results : List Int) :
    SyncSessionImpl H :=
  { self with
    socket := { self.socket with recvResults := results }
    header := readHeader self.header self.socket.incoming }

/-- The peek that sees the whole header. -/
theorem HeaderSeen.peek
    {self : SyncSessionImpl H} {peeked : Int} {results : List Int}
    (seen : self.HeaderSeen peeked results) :
    self.socket.peek (signedCast 32 (Header.getHeaderSize self.header)) =
      ((Header.getHeaderSize self.header : Int),
        self.socket.incoming.take (Header.getHeaderSize self.header),
        { self.socket with recvResults := results }) := by
  have wanted := seen.wanted
  have available := seen.available
  have count :
      transferCount peeked (Header.getHeaderSize self.header : Nat)
          self.socket.incoming.length =
        (Header.getHeaderSize self.header : Nat) := by
    rw [transferCount_of_enough (by omega) (by omega) (by omega)]
    omega
  have request :
      signedCast 32 (Header.getHeaderSize self.header : Nat) =
        Header.getHeaderSize self.header :=
    signedCast_of_lt seen.small
  simp only [SyncSocket.peek, seen.pending, request, count,
    Int.toNat_natCast]

/-- A peek that reports the size of the header has seen all of it. -/
theorem headerSeen_of_peek
    {self : SyncSessionImpl H}
    (whole :
      (self.socket.peek
          (signedCast 32 (Header.getHeaderSize self.header))).1 =
        Header.getHeaderSize self.header)
    (validate :
      Header.validate (readHeader self.header self.socket.incoming) =
        true) :
    ∃ peeked results, self.HeaderSeen peeked results := by
  rw [SyncSocket.peek] at whole
  split at whole
  · simp only at whole
    omega
  case h_2 peeked results pending =>
    simp only at whole
    have request :=
      transferCount_le_request peeked
        (signedCast 32 (Header.getHeaderSize self.header : Nat))
        self.socket.incoming.length
    have available :=
      transferCount_le_available peeked
        (signedCast 32 (Header.getHeaderSize self.header : Nat))
        self.socket.incoming.length
    have small :=
      signedCast_range (by decide : 0 < 32)
        (Header.getHeaderSize self.header : Nat)
    refine ⟨peeked, results, pending, ?_, by omega, by omega, validate⟩
    rw [transferCount] at whole
    split at whole <;> omega

theorem headerPaser_of_seen
    {self : SyncSessionImpl H} {peeked : Int} {results : List Int}
    (seen : self.HeaderSeen peeked results) (memory : List UInt8) :
    self.headerPaser memory =
      (SyncHeader.getTotalSize
          (readHeader self.header self.socket.incoming),
        self.afterHeader results,
        storeBytes memory 0
          (self.socket.incoming.take
            (Header.getHeaderSize self.header))) := by
  have validate := seen.validate
  rw [readHeader] at validate
  simp only [headerPaser, seen.peek, ne_eq, not_true_eq_false, if_false,
    validate]
  rfl

/-- Otherwise `HeaderPaser` returns zero and reads nothing. -/
theorem headerPaser_of_not_seen
    {self : SyncSessionImpl H}
    (unseen : ∀ peeked results, ¬ self.HeaderSeen peeked results)
    (memory : List UInt8) :
    (self.headerPaser memory).1 = 0 ∧
      (self.headerPaser memory).2.1.socket.incoming =
          self.socket.incoming ∧
        (self.headerPaser memory).2.1.socket.isOpen = self.socket.isOpen ∧
          (self.headerPaser memory).2.1.socket.sent = self.socket.sent := by
  have seen := @headerSeen_of_peek H _ self
  obtain ⟨incoming, isOpen, sent, copied⟩ :=
    self.socket.peek_unchanged
      (signedCast 32 (Header.getHeaderSize self.header))
  simp only [headerPaser]
  generalize self.socket.peek
    (signedCast 32 (Header.getHeaderSize self.header)) = peek
    at seen incoming isOpen sent copied ⊢
  by_cases whole : peek.1 = Header.getHeaderSize self.header
  · have invalid :
        Header.validate (readHeader self.header self.socket.incoming) ≠
          true := by
      intro validate
      obtain ⟨peeked, results, found⟩ := seen whole validate
      exact unseen peeked results found
    rw [readHeader] at invalid
    rw [whole, Int.toNat_natCast] at copied
    rw [if_neg (not_not.mpr whole), copied, if_pos invalid]
    exact ⟨rfl, incoming, isOpen, sent⟩
  · rw [if_pos whole]
    exact ⟨rfl, incoming, isOpen, sent⟩

/-- What `BodyPaser` took from the connection. -/
theorem bodyPaser_read
    (self : SyncSessionImpl H) (memory : List UInt8) (totalLength : Nat) :
    ∃ bytes,
      self.socket.incoming =
          bytes ++ (self.bodyPaser memory totalLength).2.1.socket.incoming ∧
        (self.bodyPaser memory totalLength).2.2.take bytes.length = bytes ∧
          bytes.length ≤ (signedCast 32 totalLength).toNat ∧
            ((bodyLoop totalLength self.socket.recvResults
                ⟨0, self.socket, memory⟩).1 =
                true ↔
              totalLength ≤ bytes.length) := by
  have loop :=
    bodyRead_bodyLoop totalLength self.socket.recvResults
      ⟨0, self.socket, memory⟩ (Nat.zero_le _)
  obtain ⟨bytes, incoming, transferred, taken⟩ := loop.read
  have finished := loop.finished_iff
  have bounded := loop.bounded
  rw [Nat.zero_add] at transferred
  rw [transferred] at taken finished bounded
  rw [List.take_zero, List.nil_append] at taken
  refine ⟨bytes, ?_, ?_, by simpa using bounded, finished⟩
  · rw [bodyPaser]
    simp only
    split_ifs
    all_goals exact incoming
  · rw [bodyPaser]
    simp only
    split_ifs
    all_goals exact taken

/-- For a length of zero `BodyPaser` reads nothing. -/
theorem bodyPaser_zero
    (self : SyncSessionImpl H) (memory : List UInt8) :
    self.bodyPaser memory 0 =
      (Header.checkEndmarker self.header [] 0, self, memory) := by
  have loop :
      bodyLoop 0 self.socket.recvResults ⟨0, self.socket, memory⟩ =
        (true, ⟨0, self.socket, memory⟩) := by
    cases self.socket.recvResults with
    | nil => rfl
    | cons result results => rfl
  rw [bodyPaser, loop]
  rfl

/-- `BodyPaser` takes a frame off the connection. -/
theorem bodyPaser_of_frame
    {self : SyncSessionImpl H} {frame rest : List UInt8}
    (incoming : self.socket.incoming = frame ++ rest)
    (nonempty : frame ≠ []) (small : frame.length < 2 ^ 31)
    (reads : ReadsAll frame.length self.socket.recvResults)
    (memory : List UInt8) :
    (self.bodyPaser memory frame.length).1 =
        Header.checkEndmarker self.header frame frame.length ∧
      (self.bodyPaser memory frame.length).2.1.socket.incoming = rest ∧
      (self.bodyPaser memory frame.length).2.1.unread = 0 ∧
      (self.bodyPaser memory frame.length).2.2.take frame.length =
        frame := by
  have finished :
      (bodyLoop frame.length self.socket.recvResults
        ⟨0, self.socket, memory⟩).1 = true := by
    refine (@bodyLoop_finishes_iff _ small self.socket.recvResults
      ⟨0, self.socket, memory⟩ rfl (Nat.zero_le _) ?_).mpr reads
    simp only [incoming, List.length_append]
    omega
  have loop :=
    bodyRead_bodyLoop frame.length self.socket.recvResults
      ⟨0, self.socket, memory⟩ (Nat.zero_le _)
  obtain ⟨bytes, split, transferred, taken⟩ := loop.read
  have complete := loop.finished_iff.mp finished
  have bounded := loop.bounded
  rw [signedCast_of_lt small, Int.toNat_natCast] at bounded
  rw [Nat.zero_add] at transferred
  simp only [Nat.zero_max] at bounded
  -- The loop stops at the end of the frame, so the bytes are the frame.
  have whole : bytes.length = frame.length := by omega
  rw [incoming] at split
  obtain ⟨same, left⟩ := List.append_inj split whole.symm
  subst bytes
  rw [transferred, List.take_zero, List.nil_append] at taken
  have positive := List.length_pos_of_ne_nil nonempty
  simp only [bodyPaser]
  generalize bodyLoop frame.length self.socket.recvResults
    ⟨0, self.socket, memory⟩ = reached
    at finished transferred taken left ⊢
  rw [if_pos finished, if_neg (by omega), transferred, taken]
  exact ⟨rfl, left.symm, rfl, rfl⟩

/-- `Recv` on an open session. -/
theorem recv_of_open
    {self : SyncSessionImpl H} (isOpen : self.isConnection = true)
    (memory : List UInt8) :
    self.recv memory = (true, (self.paser memory).2) := by
  rw [recv, if_neg (not_not.mpr isOpen)]

/-- `Paser` behind a header that was seen. -/
theorem paser_of_seen
    {self : SyncSessionImpl H} {peeked : Int} {results : List Int}
    (seen : self.HeaderSeen peeked results) (memory : List UInt8) :
    self.paser memory =
      (self.afterHeader results).bodyPaser
        (storeBytes memory 0
          (self.socket.incoming.take
            (Header.getHeaderSize self.header)))
        (SyncHeader.getTotalSize
          (readHeader self.header self.socket.incoming)) := by
  rw [paser, headerPaser_of_seen seen]

/-- `Paser` reads nothing where no header was seen. -/
theorem paser_of_not_seen
    {self : SyncSessionImpl H}
    (unseen : ∀ peeked results, ¬ self.HeaderSeen peeked results)
    (memory : List UInt8) :
    (self.paser memory).1 =
        Header.checkEndmarker (self.headerPaser memory).2.1.header [] 0 ∧
      (self.paser memory).2 = (self.headerPaser memory).2 ∧
      (self.paser memory).2.1.socket.incoming = self.socket.incoming := by
  obtain ⟨total, incoming, -, -⟩ := headerPaser_of_not_seen unseen memory
  have nothing :
      self.paser memory =
        (self.headerPaser memory).2.1.bodyPaser
          (self.headerPaser memory).2.2 (self.headerPaser memory).1 :=
    rfl
  rw [nothing, total, bodyPaser_zero]
  exact ⟨rfl, rfl, incoming⟩

theorem Answers.headerSeen
    {self : SyncSessionImpl H} {frame rest : List UInt8} {peeked : Int}
    {results : List Int}
    (incoming : self.socket.incoming = frame ++ rest)
    (valid : ValidFrame self.header frame)
    (small : frame.length < 2 ^ 31)
    (pending : self.socket.recvResults = peeked :: results)
    (wanted : (Header.getHeaderSize self.header : Int) ≤ peeked) :
    self.HeaderSeen peeked results where
  pending := pending
  wanted := wanted
  small := valid.headerSize.trans_lt small
  available := by
    rw [incoming, List.length_append]
    exact valid.headerSize.trans (Nat.le_add_right _ _)
  validate := by
    rw [incoming, readHeader_append valid.headerSize]
    exact valid.validate

/-- The length of the frame is the one that the header announces. -/
theorem ValidFrame.totalSize_incoming
    {self : SyncSessionImpl H} {frame rest : List UInt8}
    (valid : ValidFrame self.header frame)
    (incoming : self.socket.incoming = frame ++ rest) :
    SyncHeader.getTotalSize
        (readHeader self.header self.socket.incoming) =
      frame.length := by
  rw [incoming, readHeader_append valid.headerSize, valid.totalSize]

/-- What `Paser` does with a frame that the peer answers with. -/
theorem paser_of_answer
    {self : SyncSessionImpl H} {frame rest : List UInt8} {peeked : Int}
    {results : List Int}
    (incoming : self.socket.incoming = frame ++ rest)
    (valid : ValidFrame self.header frame)
    (small : frame.length < 2 ^ 31)
    (pending : self.socket.recvResults = peeked :: results)
    (wanted : (Header.getHeaderSize self.header : Int) ≤ peeked)
    (reads : ReadsAll frame.length results) (memory : List UInt8) :
    (self.paser memory).1 = true ∧
      (self.paser memory).2.1.socket.incoming = rest ∧
      (self.paser memory).2.1.unread = 0 ∧
      (self.paser memory).2.2.take frame.length = frame := by
  have seen := Answers.headerSeen incoming valid small pending wanted
  obtain ⟨result, left, unread, taken⟩ :=
    @bodyPaser_of_frame H _ (self.afterHeader results) frame rest incoming
      valid.nonempty small reads
      (storeBytes memory 0
        (self.socket.incoming.take (Header.getHeaderSize self.header)))
  rw [paser_of_seen seen, valid.totalSize_incoming incoming]
  refine ⟨result.trans ?_, left, unread, taken⟩
  have header :
      (self.afterHeader results).header = readHeader self.header frame := by
    rw [← readHeader_append valid.headerSize rest, ← incoming]
    rfl
  rw [header]
  exact valid.endmarker

/-- `Paser` reads a complete frame exactly if the peer answers with one. -/
theorem paser_received_iff_answers
    (self : SyncSessionImpl H) (memory : List UInt8) (bufferSize : Nat) :
    Received bufferSize self (self.paser memory).2.1
        (self.paser memory).2.2 ↔
      self.Answers bufferSize := by
  constructor
  · rintro ⟨frame, split, valid, fits, -⟩
    by_cases seen : ∃ peeked results, self.HeaderSeen peeked results
    · obtain ⟨peeked, results, seen⟩ := seen
      rw [paser_of_seen seen] at split
      generalize storeBytes memory 0 _ = stored at split
      obtain ⟨bytes, incoming, -, bounded, finished⟩ :=
        bodyPaser_read (self.afterHeader results) stored
          (SyncHeader.getTotalSize
            (readHeader self.header self.socket.incoming))
      obtain rfl : frame = bytes :=
        List.append_cancel_right (split.symm.trans incoming)
      rw [valid.totalSize_incoming split] at bounded finished
      have small : frame.length < 2 ^ 31 := by
        have range :=
          signedCast_range (by decide : 0 < 32) (frame.length : Nat)
        omega
      refine ⟨frame, _, peeked, results, split, valid, fits, small,
        seen.pending, seen.wanted, ?_⟩
      refine (@bodyLoop_finishes_iff _ small results
        ⟨0, (self.afterHeader results).socket, stored⟩ rfl (Nat.zero_le _)
        ?_).mp (finished.mpr le_rfl)
      have available := congrArg List.length incoming
      rw [List.length_append] at available
      simp only
      omega
    · simp only [not_exists] at seen
      rw [(paser_of_not_seen seen memory).2.2] at split
      exact absurd (List.self_eq_append_left.mp split) valid.nonempty
  · rintro ⟨frame, rest, peeked, results, split, valid, fits, small,
      pending, wanted, reads⟩
    obtain ⟨-, left, -, taken⟩ :=
      paser_of_answer split valid small pending wanted reads memory
    refine ⟨frame, ?_, valid, fits, taken⟩
    rw [left]
    exact split

/-- `Recv` reads a complete frame exactly if the peer answers with one. -/
theorem received_iff_answers
    {self : SyncSessionImpl H} (isOpen : self.isConnection = true)
    (memory : List UInt8) (bufferSize : Nat) :
    Received bufferSize self (self.recv memory).2.1 (self.recv memory).2.2 ↔
      self.Answers bufferSize := by
  rw [recv_of_open isOpen]
  exact self.paser_received_iff_answers memory bufferSize

/-! ## The session after `Recv` -/

theorem bodyPaser_unchanged
    (self : SyncSessionImpl H) (memory : List UInt8) (totalLength : Nat) :
    (self.bodyPaser memory totalLength).2.1.socket.isOpen =
        self.socket.isOpen ∧
      (self.bodyPaser memory totalLength).2.1.socket.sent =
        self.socket.sent := by
  have loop :=
    bodyRead_bodyLoop totalLength self.socket.recvResults
      ⟨0, self.socket, memory⟩ (Nat.zero_le _)
  rw [bodyPaser]
  simp only
  split_ifs
  all_goals exact ⟨loop.isOpen, loop.sent⟩

/-- `Recv` neither closes the session nor sends. -/
theorem recv_unchanged (self : SyncSessionImpl H) (memory : List UInt8) :
    (self.recv memory).2.1.socket.isOpen = self.socket.isOpen ∧
      (self.recv memory).2.1.socket.sent = self.socket.sent := by
  by_cases isOpen : self.isConnection = true
  · rw [recv_of_open isOpen]
    by_cases seen : ∃ peeked results, self.HeaderSeen peeked results
    · obtain ⟨peeked, results, seen⟩ := seen
      rw [paser_of_seen seen]
      exact bodyPaser_unchanged (self.afterHeader results) _ _
    · simp only [not_exists] at seen
      simp only [(paser_of_not_seen seen memory).2.1]
      exact (headerPaser_of_not_seen seen memory).2.2
  · rw [recv, if_pos isOpen]
    exact ⟨rfl, rfl⟩

/-- After a complete frame no part of it is left on the connection. -/
theorem recv_unread_of_answers
    {self : SyncSessionImpl H} (isOpen : self.isConnection = true)
    (memory : List UInt8) {bufferSize : Nat}
    (answers : self.Answers bufferSize) :
    (self.recv memory).2.1.unread = 0 := by
  obtain ⟨frame, rest, peeked, results, split, valid, -, small, pending,
    wanted, reads⟩ := answers
  rw [recv_of_open isOpen]
  exact
    (paser_of_answer split valid small pending wanted reads memory).2.2.1

/-- What `Send` leaves as it is decides how the peer answers. -/
theorem answers_send_iff
    (self : SyncSessionImpl H) (request : List UInt8) (bufferSize : Nat) :
    (self.send request).2.Answers bufferSize ↔ self.Answers bufferSize := by
  obtain ⟨sending, header, -⟩ := self.send_sessionUnchanged request
  rw [Answers, Answers, sending.incoming, sending.recvResults, header]

theorem received_send_iff
    (self after : SyncSessionImpl H) (request memory : List UInt8)
    (bufferSize : Nat) :
    Received bufferSize (self.send request).2 after memory ↔
      Received bufferSize self after memory := by
  obtain ⟨sending, header, -⟩ := self.send_sessionUnchanged request
  rw [Received, Received, sending.incoming, header]

end

end SyncSessionImpl

end LibSklt.Net
