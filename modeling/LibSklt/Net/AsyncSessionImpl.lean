import LibSklt.Foundation.Ledger
import LibSklt.Foundation.MachineWord
import LibSklt.Net.Header
import LibSklt.Util.ByteOrder
import LibSklt.Util.Logger

/-!
# Asynchronous sessions (`net/async_session_impl.h`, `async_session_impl.cpp`)

An `AsyncSessionImpl` is a pooled object that serves one connection after
another.  Its member functions are embedded as pure functions: from the
object before the call to an `Outcome`, which holds the object after the call
and what the call did outside the object, namely the blocks it took from or
gave back to `COMMON_POOL`, the packets it inserted into the worker queue,
and whether it handed the object to `AsyncSessionPool::Restore`.  `ReadBody`
may also end the program, and then has no `Outcome`.

Three things the source leaves to its environment are arguments: the result
of a socket operation (`Completion`), whether `m_tcpSocket.close()` throws,
and the identity of the next block that `COMMON_POOL::New` returns.

A `Block` is one allocation.  Two calls of `New` never return the same
`Block`, also when the pool hands out a chunk that was given back before, so
"obtained again" needs no separate notion.  The sizes in a `Block` and the
last two fields of a `Packet` are not data of the program; they record where
the block and the packet came from.
-/

namespace LibSklt.Net

open LibSklt.Foundation.Ledger
open LibSklt.Foundation.MachineWord
open LibSklt.Util
open LibSklt.Util.ByteOrder

/-! ## Configuration and data -/

/-- What the server is built and started with. -/
structure Config where
  build : Build
  /-- `CONFIGURE.SESSION_BUFFER_MAX`, kept in `m_sizeOfMaxBuffer`. -/
  sessionBufferMax : Nat
  /-- `CONFIGURE.SESSION_POOL_COUNT`. -/
  sessionPoolCount : Nat
  /-- `CONFIGURE.WORKER_COUNT`. -/
  workerCount : Nat
  /-- Whether `CONFIGURE.HEX_CODE` is `Y`. -/
  hexCode : Bool
  /--
  What `m_sizeOfPrevBodyBuffer` of each session happens to hold at first:
  the constructor does not initialise it.
  -/
  rawPrevSize : Nat → Nat

/-- `AsyncSessionImpl::SessionPoolState`. -/
inductive SessionPoolState where
  | kNoneRegister
  | kAcquire
  | kRestore
deriving DecidableEq

/--
The socket of a session.  `connection` identifies the connection that was
accepted on it last, and is zero before the first one.
-/
structure Socket where
  isOpen : Bool
  connection : Nat
deriving DecidableEq

/-- A block from `COMMON_POOL::New(bodySize + enderSize)`. -/
structure Block where
  serial : Nat
  bodySize : Nat
  enderSize : Nat
deriving DecidableEq

/-- Who gives a block back. -/
inductive ReleasePath where
  | worker
  | close
deriving DecidableEq

/-- A call of `COMMON_POOL::Delete`: the caller and the size it passes. -/
structure Release where
  path : ReleasePath
  size : Nat
deriving DecidableEq

/-- `PacketInfo`; the session pointer is the session's place in the pool. -/
structure PacketInfo where
  asyncSession : Nat
  protocolNo : UInt16
  buffer : Option Block
  sizeOfBuffer : Nat
deriving DecidableEq

/--
A packet, with the connection it was received on and the bytes that stood in
its buffer when it was inserted.
-/
structure Packet extends PacketInfo where
  connection : Nat
  content : List UInt8
deriving DecidableEq

/-- The members of `AsyncSessionImpl`, for header objects `H`. -/
structure AsyncSessionImpl (H : Type) where
  header : H
  /-- The bytes received into the header buffer, `none` for a null pointer. -/
  headerBuffer : Option (List UInt8)
  bodyBuffer : Option Block
  sizeOfBodyBuffer : Nat
  sizeOfPrevBodyBuffer : Nat
  sessionPoolState : SessionPoolState
  tcpSocket : Socket

/-- The result of a call of a member function. -/
structure Outcome (H : Type) where
  session : AsyncSessionImpl H
  result : Bool
  entries : List (Entry Block Release)
  inserted : List Packet
  restored : Bool

/-- How an `async_receive` completes. -/
inductive Completion where
  | failed
  | received (bytes : List UInt8)
deriving DecidableEq

/-- The two receive operations of the coroutine in `RecvProcess`. -/
inductive Stage where
  | header
  | body
deriving DecidableEq

variable {H : Type}

namespace AsyncSessionImpl

/-! ## Construction and closing -/

/-- The constructor. -/
def make (header : H) (rawPrevSize : Nat) : AsyncSessionImpl H where
  header := header
  headerBuffer := none
  bodyBuffer := none
  sizeOfBodyBuffer := 0
  sizeOfPrevBodyBuffer := rawPrevSize
  sessionPoolState := .kNoneRegister
  tcpSocket := ⟨false, 0⟩

/--
`AsyncSessionImpl::BufferRelease`.  It clears its own copies of pointer and
size only, so the caller's pointer keeps its value.
-/
def bufferRelease
    (path : ReleasePath) (buffer : Block) (bufferSize : Nat) :
    Entry Block Release :=
  .released buffer ⟨path, bufferSize % 2 ^ 32⟩

/-- The release of the body block in `Close`. -/
def closeEntries (self : AsyncSessionImpl H) :
    List (Entry Block Release) :=
  match self.bodyBuffer with
  | some buffer =>
      if self.sizeOfPrevBodyBuffer ≠ 0 then
        [bufferRelease .close buffer self.sizeOfPrevBodyBuffer]
      else
        []
  | none => []

/--
`AsyncSessionImpl::Close`.  When `m_tcpSocket.close()` throws, the connection
was shut down before and the descriptor is closed all the same, but the rest
of the function is skipped: the block is not released, and the session is not
restored.
-/
def close (closeFails : Bool) (self : AsyncSessionImpl H) : Outcome H :=
  let socket : Socket := { self.tcpSocket with isOpen := false }
  if self.tcpSocket.isOpen && closeFails then
    { session := { self with tcpSocket := socket }
      result := false
      entries := []
      inserted := []
      restored := false }
  else
    if self.sessionPoolState = .kAcquire then
      { session :=
          { self with
            tcpSocket := socket
            sessionPoolState := .kRestore }
        result := true
        entries := self.closeEntries
        inserted := []
        restored := true }
    else
      { session := { self with tcpSocket := socket }
        result := true
        entries := self.closeEntries
        inserted := []
        restored := false }

/-- `Close(); return false;` -/
def abandon (closeFails : Bool) (self : AsyncSessionImpl H) : Outcome H :=
  { self.close closeFails with result := false }

/-! ## Receiving -/

/-- `AsyncSessionImpl::Recv` up to the call of `RecvProcess`. -/
def recv (self : AsyncSessionImpl H) : AsyncSessionImpl H :=
  { self with headerBuffer := some (self.headerBuffer.getD []) }

/-- `async_receive` writes to the front of the header buffer. -/
def storeHeader (bytes : List UInt8) (self : AsyncSessionImpl H) :
    AsyncSessionImpl H :=
  { self with
    headerBuffer :=
      some (bytes ++ (self.headerBuffer.getD []).drop bytes.length) }

section

variable [Header H]

/-- The number of bytes that a receive operation asks for. -/
def requested (stage : Stage) (self : AsyncSessionImpl H) : Nat :=
  match stage with
  | .header => Header.getHeaderSize self.header
  | .body => self.sizeOfBodyBuffer

/-- `m_spHeader->Deserialize(m_szHeaderBuffer, GetHeaderSize())`. -/
def deserializeHeader (self : AsyncSessionImpl H) : AsyncSessionImpl H :=
  { self with
    header :=
      (Header.deserialize self.header (self.headerBuffer.getD [])
        (Header.getHeaderSize self.header)).1 }

/-- `m_sizeOfBodyBuffer = GetBodySize() + GetEnderSize()`. -/
def measureBody (cfg : Config) (self : AsyncSessionImpl H) :
    AsyncSessionImpl H :=
  { self with
    sizeOfBodyBuffer :=
      addWord cfg.build.sizeBits
        (Header.getBodySize self.header)
        (Header.getEnderSize self.header) }

/-- The body block that `ReadHeader` requests. -/
def bodyBlock (serial : Nat) (self : AsyncSessionImpl H) : Block where
  serial := serial
  bodySize := Header.getBodySize self.header
  enderSize := Header.getEnderSize self.header

/-- The end of `ReadHeader`, once the header has been accepted. -/
def allocateBody (serial : Nat) (self : AsyncSessionImpl H) : Outcome H :=
  if self.sizeOfBodyBuffer > 0 then
    { session :=
        { self with
          bodyBuffer := some (self.bodyBlock serial)
          sizeOfPrevBodyBuffer := self.sizeOfBodyBuffer }
      result := true
      entries := [.acquired (self.bodyBlock serial)]
      inserted := []
      restored := false }
  else
    { session := self
      result := true
      entries := []
      inserted := []
      restored := false }

/-- `AsyncSessionImpl::ReadHeader`. -/
def readHeader (cfg : Config) (serial : Nat) (closeFails : Bool)
    (completion : Completion) (self : AsyncSessionImpl H) : Outcome H :=
  match completion with
  | .failed => self.abandon closeFails
  | .received bytes =>
      let stored := self.storeHeader bytes
      if bytes.length ≠ Header.getHeaderSize stored.header then
        stored.abandon closeFails
      else
        let decoded := stored.deserializeHeader
        if !Header.validate decoded.header then
          decoded.abandon closeFails
        else
          let measured := decoded.measureBody cfg
          if cfg.sessionBufferMax < measured.sizeOfBodyBuffer then
            measured.abandon closeFails
          else
            measured.allocateBody serial

/-- The packet that `ReadBody` inserts after receiving `bytes`. -/
def packet (cfg : Config) (this : Nat) (bytes : List UInt8)
    (self : AsyncSessionImpl H) : Packet :=
  let size :=
    subWord cfg.build.sizeBits self.sizeOfBodyBuffer
      (Header.getEnderSize self.header)
  { asyncSession := this
    protocolNo := Header.getProtocolNo self.header
    buffer := self.bodyBuffer
    sizeOfBuffer := size
    connection := self.tcpSocket.connection
    content := bytes.take size }

/-- The length of some bytes in the line of `MakeHexCode`: two digits each,
and a blank between any two of them. -/
def hexLength (count : Nat) : Nat :=
  2 * count + (count - 1)

/--
Whether `MakeHexCode` ends the program: it reads a null pointer, or its line
`[PACKET HEX CODE] [header|body]` does not fit the array of the logger.
-/
def endsInHexCode (self : AsyncSessionImpl H) : Bool :=
  (self.bodyBuffer.isNone && decide (0 < Header.getBodySize self.header)) ||
    decide
      (Logger.kMaxBufferLength ≤
        hexLength (Header.getHeaderSize self.header) +
          hexLength (Header.getBodySize self.header) + 21)

/-- `ReadBody` behind the call of `MakeHexCode`; `this` is the session's own
place. -/
def checkBody (cfg : Config) (this : Nat) (closeFails : Bool)
    (completion : Completion) (self : AsyncSessionImpl H) : Outcome H :=
  match completion with
  | .failed => self.abandon closeFails
  | .received bytes =>
      if Header.checkEndmarker self.header bytes bytes.length &&
          self.sizeOfBodyBuffer == bytes.length then
        { session := { self with bodyBuffer := none }
          result := true
          entries := []
          inserted := [self.packet cfg this bytes]
          restored := false }
      else
        self.abandon closeFails

/-- `AsyncSessionImpl::ReadBody`; `none` is the end of the program. -/
def readBody (cfg : Config) (this : Nat) (closeFails : Bool)
    (completion : Completion) (self : AsyncSessionImpl H) :
    Option (Outcome H) :=
  if cfg.hexCode && self.endsInHexCode then
    none
  else
    some (self.checkBody cfg this closeFails completion)

/--
One resumption of the coroutine in `RecvProcess`, after a receive operation
completed: the outcome, and the receive operation it waits for next.  After
a body the coroutine starts `RecvProcess` again; `none` is the end of the
program.
-/
def recvProcess (cfg : Config) (this serial : Nat) (closeFails : Bool)
    (stage : Stage) (completion : Completion)
    (self : AsyncSessionImpl H) : Option (Outcome H × Option Stage) :=
  match stage with
  | .header =>
      let outcome := self.readHeader cfg serial closeFails completion
      some (outcome, if outcome.result then some .body else none)
  | .body =>
      (self.readBody cfg this closeFails completion).map fun outcome =>
        (outcome, if outcome.result then some .header else none)

end

/-! ## What a call can do -/

/--
The members that decide over the ownership of the session and of its body
block are the same in both objects.
-/
structure SameCustody (before after : AsyncSessionImpl H) : Prop where
  bodyBuffer : after.bodyBuffer = before.bodyBuffer
  sizeOfPrevBodyBuffer :
    after.sizeOfPrevBodyBuffer = before.sizeOfPrevBodyBuffer
  sessionPoolState : after.sessionPoolState = before.sessionPoolState
  tcpSocket : after.tcpSocket = before.tcpSocket

theorem SameCustody.closeEntries
    {before after : AsyncSessionImpl H} (same : SameCustody before after) :
    after.closeEntries = before.closeEntries := by
  simp only [AsyncSessionImpl.closeEntries, same.bodyBuffer,
    same.sizeOfPrevBodyBuffer]

/--
What a call of `Close` does to a session: it closes the socket, and unless
that threw, it releases the body block, and restores the session if it was
acquired.
-/
inductive Closing (closeFails : Bool) (before : AsyncSessionImpl H)
    (outcome : Outcome H) : Prop where
  | threw
      (failed : before.tcpSocket.isOpen = true ∧ closeFails = true)
      (bodyBuffer : outcome.session.bodyBuffer = before.bodyBuffer)
      (sizeOfPrevBodyBuffer :
        outcome.session.sizeOfPrevBodyBuffer =
          before.sizeOfPrevBodyBuffer)
      (tcpSocket :
        outcome.session.tcpSocket =
          { before.tcpSocket with isOpen := false })
      (sessionPoolState :
        outcome.session.sessionPoolState = before.sessionPoolState)
      (entries : outcome.entries = [])
      (inserted : outcome.inserted = [])
      (restored : outcome.restored = false)
  | closed
      (done : ¬ (before.tcpSocket.isOpen = true ∧ closeFails = true))
      (bodyBuffer : outcome.session.bodyBuffer = before.bodyBuffer)
      (sizeOfPrevBodyBuffer :
        outcome.session.sizeOfPrevBodyBuffer =
          before.sizeOfPrevBodyBuffer)
      (tcpSocket :
        outcome.session.tcpSocket =
          { before.tcpSocket with isOpen := false })
      (sessionPoolState :
        outcome.session.sessionPoolState =
          if before.sessionPoolState = .kAcquire then .kRestore
          else before.sessionPoolState)
      (entries : outcome.entries = before.closeEntries)
      (inserted : outcome.inserted = [])
      (restored :
        outcome.restored = decide (before.sessionPoolState = .kAcquire))

theorem close_closing (closeFails : Bool) (self : AsyncSessionImpl H) :
    Closing closeFails self (self.close closeFails) := by
  simp only [close]
  split
  case isTrue failed =>
    exact .threw (by simpa using failed) rfl rfl rfl rfl rfl rfl rfl
  case isFalse done =>
    have unbroken :
        ¬ (self.tcpSocket.isOpen = true ∧ closeFails = true) := by
      simpa using done
    split
    case isTrue acquired =>
      exact .closed unbroken rfl rfl rfl (by simp [acquired]) rfl rfl
        (by simp [acquired])
    case isFalse acquired =>
      exact .closed unbroken rfl rfl rfl (by simp [acquired]) rfl rfl
        (by simp [acquired])

theorem abandon_closing
    {self session : AsyncSessionImpl H} (same : SameCustody self session)
    (closeFails : Bool) :
    Closing closeFails self (session.abandon closeFails) := by
  have closing := session.close_closing closeFails
  cases closing with
  | threw failed bodyBuffer sizeOfPrev tcpSocket state entries inserted
      restored =>
      rw [same.tcpSocket] at failed
      rw [same.bodyBuffer] at bodyBuffer
      rw [same.sizeOfPrevBodyBuffer] at sizeOfPrev
      rw [same.tcpSocket] at tcpSocket
      rw [same.sessionPoolState] at state
      exact .threw failed bodyBuffer sizeOfPrev tcpSocket state entries
        inserted restored
  | closed done bodyBuffer sizeOfPrev tcpSocket state entries inserted
      restored =>
      rw [same.tcpSocket] at done
      rw [same.bodyBuffer] at bodyBuffer
      rw [same.sizeOfPrevBodyBuffer] at sizeOfPrev
      rw [same.tcpSocket] at tcpSocket
      rw [same.sessionPoolState] at state restored
      rw [same.closeEntries] at entries
      exact .closed done bodyBuffer sizeOfPrev tcpSocket state entries
        inserted restored

/-- The members that the receive coroutine works with are the same. -/
structure SameReceiver (before after : AsyncSessionImpl H) : Prop where
  header : after.header = before.header
  bodyBuffer : after.bodyBuffer = before.bodyBuffer
  sizeOfBodyBuffer : after.sizeOfBodyBuffer = before.sizeOfBodyBuffer

theorem close_sameReceiver (closeFails : Bool) (self : AsyncSessionImpl H) :
    SameReceiver self (self.close closeFails).session := by
  simp only [close]
  split
  · exact ⟨rfl, rfl, rfl⟩
  · split <;> exact ⟨rfl, rfl, rfl⟩

theorem Closing.bodyBuffer
    {closeFails : Bool} {before : AsyncSessionImpl H} {outcome : Outcome H}
    (closing : Closing closeFails before outcome) :
    outcome.session.bodyBuffer = before.bodyBuffer := by
  cases closing with
  | threw _ bodyBuffer => exact bodyBuffer
  | closed _ bodyBuffer => exact bodyBuffer

theorem Closing.sizeOfPrevBodyBuffer
    {closeFails : Bool} {before : AsyncSessionImpl H} {outcome : Outcome H}
    (closing : Closing closeFails before outcome) :
    outcome.session.sizeOfPrevBodyBuffer =
      before.sizeOfPrevBodyBuffer := by
  cases closing with
  | threw _ _ sizeOfPrev => exact sizeOfPrev
  | closed _ _ sizeOfPrev => exact sizeOfPrev

/-- The socket is closed in any case. -/
theorem Closing.tcpSocket
    {closeFails : Bool} {before : AsyncSessionImpl H} {outcome : Outcome H}
    (closing : Closing closeFails before outcome) :
    outcome.session.tcpSocket =
      { before.tcpSocket with isOpen := false } := by
  cases closing with
  | threw _ _ _ tcpSocket => exact tcpSocket
  | closed _ _ _ tcpSocket => exact tcpSocket

/-- No call changes which connection the socket was last used for. -/
theorem Closing.connection
    {closeFails : Bool} {before : AsyncSessionImpl H} {outcome : Outcome H}
    (closing : Closing closeFails before outcome) :
    outcome.session.tcpSocket.connection =
      before.tcpSocket.connection := by
  rw [closing.tcpSocket]

theorem Closing.inserted
    {closeFails : Bool} {before : AsyncSessionImpl H} {outcome : Outcome H}
    (closing : Closing closeFails before outcome) :
    outcome.inserted = [] := by
  cases closing with
  | threw _ _ _ _ _ _ inserted => exact inserted
  | closed _ _ _ _ _ _ inserted => exact inserted

/-- A call of `Close` releases nothing, or the body block of the session. -/
theorem Closing.entries
    {closeFails : Bool} {before : AsyncSessionImpl H} {outcome : Outcome H}
    (closing : Closing closeFails before outcome) :
    outcome.entries = [] ∨ outcome.entries = before.closeEntries := by
  cases closing with
  | threw _ _ _ _ _ entries => exact Or.inl entries
  | closed _ _ _ _ _ entries => exact Or.inr entries

section

variable [Header H]

/-- The session after the header bytes were stored, decoded and measured. -/
def measured (cfg : Config) (bytes : List UInt8)
    (self : AsyncSessionImpl H) : AsyncSessionImpl H :=
  ((self.storeHeader bytes).deserializeHeader).measureBody cfg

/-- Whether `ReadHeader` accepts what was received as a header. -/
def admits (cfg : Config) (completion : Completion)
    (self : AsyncSessionImpl H) : Bool :=
  match completion with
  | .failed => false
  | .received bytes =>
      bytes.length == Header.getHeaderSize self.header &&
        Header.validate (self.measured cfg bytes).header &&
        decide
          ((self.measured cfg bytes).sizeOfBodyBuffer ≤
            cfg.sessionBufferMax)

/-- Whether `ReadBody` accepts what was received as a body. -/
def completes (completion : Completion) (self : AsyncSessionImpl H) : Bool :=
  match completion with
  | .failed => false
  | .received bytes =>
      Header.checkEndmarker self.header bytes bytes.length &&
        self.sizeOfBodyBuffer == bytes.length

/-- Whether a receive operation goes on after this completion. -/
def accepts (cfg : Config) (stage : Stage) (completion : Completion)
    (self : AsyncSessionImpl H) : Bool :=
  match stage with
  | .header => self.admits cfg completion
  | .body => self.completes completion

/--
The object `session` in which a receive operation of `receiver` gives up: header
bytes may have been stored and read, but the receiver accepted nothing.
-/
structure GivesUp (cfg : Config) (stage : Stage)
    (completion : Completion) (receiver session : AsyncSessionImpl H) :
    Prop where
  same : SameCustody receiver session
  header :
    session.header = receiver.header ∨
      ∃ buffer size,
        session.header = (Header.deserialize receiver.header buffer size).1
  unread : completion = .failed → session = receiver
  refused : receiver.accepts cfg stage completion = false

/-- `ReadHeader` closes the session or accepts a whole, admitted header. -/
theorem readHeader_cases
    (cfg : Config) (serial : Nat) (closeFails : Bool)
    (completion : Completion) (self : AsyncSessionImpl H) :
    (∃ session : AsyncSessionImpl H,
        GivesUp cfg .header completion self session ∧
          self.readHeader cfg serial closeFails completion =
            session.abandon closeFails) ∨
      ∃ bytes,
        completion = .received bytes ∧
          self.admits cfg completion = true ∧
          self.readHeader cfg serial closeFails completion =
            (self.measured cfg bytes).allocateBody serial := by
  cases completion with
  | failed =>
      exact Or.inl ⟨self,
        ⟨⟨rfl, rfl, rfl, rfl⟩, Or.inl rfl, fun _ => rfl, rfl⟩, rfl⟩
  | received bytes =>
      simp only [readHeader]
      split
      case isTrue partly =>
        have short :
            (bytes.length == Header.getHeaderSize self.header) = false :=
          beq_false_of_ne partly
        refine Or.inl ⟨self.storeHeader bytes,
          ⟨⟨rfl, rfl, rfl, rfl⟩, Or.inl rfl, by simp, ?_⟩, rfl⟩
        simp [accepts, admits, short]
      case isFalse whole =>
        split
        case isTrue invalid =>
          rw [Bool.not_eq_true'] at invalid
          have refused :
              Header.validate (self.measured cfg bytes).header = false :=
            invalid
          refine Or.inl ⟨(self.storeHeader bytes).deserializeHeader,
            ⟨⟨rfl, rfl, rfl, rfl⟩, Or.inr ⟨_, _, rfl⟩, by simp, ?_⟩, rfl⟩
          simp [accepts, admits, refused]
        case isFalse valid =>
          split
          case isTrue tooLarge =>
            have exceeds :
                ¬ (self.measured cfg bytes).sizeOfBodyBuffer ≤
                  cfg.sessionBufferMax :=
              Nat.not_le.mpr tooLarge
            refine Or.inl ⟨self.measured cfg bytes,
              ⟨⟨rfl, rfl, rfl, rfl⟩, Or.inr ⟨_, _, rfl⟩, by simp, ?_⟩,
              rfl⟩
            simp [accepts, admits, exceeds]
          case isFalse fits =>
            refine Or.inr ⟨bytes, rfl, ?_, rfl⟩
            rw [Bool.not_eq_true', Bool.not_eq_false] at valid
            simp only [admits, Bool.and_eq_true, beq_iff_eq,
              decide_eq_true_eq]
            exact ⟨⟨not_not.mp whole, valid⟩, Nat.not_lt.mp fits⟩

theorem whole_of_admits
    {cfg : Config} {bytes : List UInt8} {self : AsyncSessionImpl H}
    (admitted : self.admits cfg (.received bytes) = true) :
    bytes.length = Header.getHeaderSize self.header := by
  simp only [admits, Bool.and_eq_true, beq_iff_eq] at admitted
  exact admitted.1.1

theorem fits_of_admits
    {cfg : Config} {bytes : List UInt8} {self : AsyncSessionImpl H}
    (admitted : self.admits cfg (.received bytes) = true) :
    (self.measured cfg bytes).sizeOfBodyBuffer ≤ cfg.sessionBufferMax := by
  simp only [admits, Bool.and_eq_true, decide_eq_true_eq] at admitted
  exact admitted.2

/-- The outcome of `ReadBody` when the packet is complete. -/
def handOver (cfg : Config) (this : Nat) (bytes : List UInt8)
    (self : AsyncSessionImpl H) : Outcome H where
  session := { self with bodyBuffer := none }
  result := true
  entries := []
  inserted := [self.packet cfg this bytes]
  restored := false

/-- `ReadBody` closes the session or hands the body over. -/
theorem checkBody_cases
    (cfg : Config) (this : Nat) (closeFails : Bool)
    (completion : Completion) (self : AsyncSessionImpl H) :
    (self.completes completion = false ∧
        self.checkBody cfg this closeFails completion =
          self.abandon closeFails) ∨
      ∃ bytes,
        completion = .received bytes ∧
          self.completes completion = true ∧
          self.checkBody cfg this closeFails completion =
            self.handOver cfg this bytes := by
  cases completion with
  | failed => exact Or.inl ⟨rfl, rfl⟩
  | received bytes =>
      simp only [checkBody, completes]
      split
      case isTrue complete =>
        exact Or.inr ⟨bytes, rfl, complete, rfl⟩
      case isFalse partly =>
        exact Or.inl ⟨Bool.eq_false_of_not_eq_true partly, rfl⟩

theorem whole_of_completes
    {bytes : List UInt8} {self : AsyncSessionImpl H}
    (complete : self.completes (.received bytes) = true) :
    self.sizeOfBodyBuffer = bytes.length := by
  simp only [completes, Bool.and_eq_true, beq_iff_eq] at complete
  exact complete.2

theorem readBody_eq_some_iff
    {cfg : Config} {this : Nat} {closeFails : Bool}
    {completion : Completion} {self : AsyncSessionImpl H}
    {outcome : Outcome H} :
    self.readBody cfg this closeFails completion = some outcome ↔
      (cfg.hexCode && self.endsInHexCode) = false ∧
        self.checkBody cfg this closeFails completion = outcome := by
  rw [readBody]
  cases cfg.hexCode && self.endsInHexCode <;> simp

/-- What holds of an accepted header whether or not a block is taken. -/
structure Accepting (before : AsyncSessionImpl H) (outcome : Outcome H) :
    Prop where
  header : outcome.session.header = before.header
  tcpSocket : outcome.session.tcpSocket = before.tcpSocket
  state : outcome.session.sessionPoolState = before.sessionPoolState
  result : outcome.result = true
  inserted : outcome.inserted = []
  restored : outcome.restored = false

theorem allocateBody_accepting (serial : Nat) (self : AsyncSessionImpl H) :
    Accepting self (self.allocateBody serial) := by
  rw [allocateBody]
  split
  · exact ⟨rfl, rfl, rfl, rfl, rfl, rfl⟩
  · exact ⟨rfl, rfl, rfl, rfl, rfl, rfl⟩

/--
A resumption of the coroutine ends the program, closes the session and ends,
or accepts a header and waits for the body, or hands a body over and waits
for a header.
-/
theorem recvProcess_cases
    {cfg : Config} {this serial : Nat} {closeFails : Bool}
    {stage : Stage} {completion : Completion} {self : AsyncSessionImpl H}
    {answer : Outcome H × Option Stage}
    (resumed :
      self.recvProcess cfg this serial closeFails stage completion =
        some answer) :
    (∃ session : AsyncSessionImpl H,
        GivesUp cfg stage completion self session ∧
          answer = (session.abandon closeFails, none)) ∨
      (∃ bytes,
        stage = .header ∧ completion = .received bytes ∧
          self.admits cfg completion = true ∧
          answer =
            ((self.measured cfg bytes).allocateBody serial,
              some .body)) ∨
      ∃ bytes,
        stage = .body ∧ completion = .received bytes ∧
          self.completes completion = true ∧
          (cfg.hexCode && self.endsInHexCode) = false ∧
          answer = (self.handOver cfg this bytes, some .header) := by
  cases stage with
  | header =>
      rw [recvProcess, Option.some.injEq] at resumed
      subst answer
      rcases self.readHeader_cases cfg serial closeFails completion with
        ⟨session, givesUp, equal⟩ | ⟨bytes, received, admitted, equal⟩
      · refine Or.inl ⟨session, givesUp, ?_⟩
        rw [equal]
        rfl
      · refine Or.inr (Or.inl ⟨bytes, rfl, received, admitted, ?_⟩)
        rw [equal, (allocateBody_accepting _ _).result, if_pos rfl]
  | body =>
      obtain ⟨outcome, read, rfl⟩ := Option.map_eq_some_iff.mp resumed
      obtain ⟨survives, rfl⟩ := readBody_eq_some_iff.mp read
      rcases self.checkBody_cases cfg this closeFails completion with
        ⟨partly, equal⟩ | ⟨bytes, received, complete, equal⟩
      · refine Or.inl ⟨self,
          ⟨⟨rfl, rfl, rfl, rfl⟩, Or.inl rfl, fun _ => rfl, partly⟩, ?_⟩
        rw [equal]
        rfl
      · refine Or.inr (Or.inr
          ⟨bytes, rfl, received, complete, survives, ?_⟩)
        rw [equal]
        rfl

end

end AsyncSessionImpl

end LibSklt.Net
