import LibSklt.Net.ReceiveOperations
import Mathlib.Data.Multiset.Count

/-!
# The custody of body blocks

A body block is obtained by `ReadHeader`, kept in `m_szBodyBuffer`, handed to
the workers with a packet by `ReadBody`, and given back by a worker or by
`Close`.  The server is viewed as a smaller machine, `Blocks`, of the
sessions' pointers, the packets that are not handled yet, and the ledger.

`BufferRelease` clears only its own copy of the pointer, so `Close` leaves
`m_szBodyBuffer` pointing to a block that was given back.  Such a pointer
does no harm until the next header replaces it, unless the session is closed
again or a body is handed over before.  Under that condition every block has
a single owner, and is released at most once.
-/

namespace LibSklt.Net

open LibSklt.Foundation.Ledger
open LibSklt.Foundation.MachineWord
open LibSklt.Foundation.Transition

variable {H : Type}

/-! ## The block machine -/

/-- Where the body blocks are. -/
@[ext]
structure Blocks where
  /-- `m_szBodyBuffer` of the sessions. -/
  pointer : Nat → Option Block
  /-- `m_sizeOfPrevBodyBuffer` of the sessions. -/
  prevSize : Nat → Nat
  /-- The packets that are queued or being handled. -/
  pending : Multiset Packet
  ledger : List (Entry Block Release)

/-- The packets of the workers that have not released its buffer yet. -/
def handlingPackets (tasks : Multiset Task) : Multiset Packet :=
  (tasks.filter fun task => task.phase = .handling).map Task.packet

@[simp]
theorem handlingPackets_handling (packet : Packet) (tasks : Multiset Task) :
    handlingPackets (⟨packet, .handling⟩ ::ₘ tasks) =
      packet ::ₘ handlingPackets tasks := by
  simp [handlingPackets]

@[simp]
theorem handlingPackets_sending
    (packet : Packet) (response : Option (List UInt8))
    (tasks : Multiset Task) :
    handlingPackets (⟨packet, .sending response⟩ ::ₘ tasks) =
      handlingPackets tasks := by
  simp [handlingPackets]

/-- The block view of a server. -/
def Server.blocks (server : Server H) : Blocks where
  pointer session := (server.sessions session).bodyBuffer
  prevSize session := (server.sessions session).sizeOfPrevBodyBuffer
  pending := server.packetQueue + handlingPackets server.tasks
  ledger := server.ledger

namespace Blocks

/-- `ReadHeader` obtains a block. -/
def allocate (session : Nat) (block : Block) (size : Nat)
    (blocks : Blocks) : Blocks :=
  { blocks with
    pointer := Function.update blocks.pointer session (some block)
    prevSize := Function.update blocks.prevSize session size
    ledger := blocks.ledger ++ [.acquired block] }

/-- `ReadBody` hands the block to the workers. -/
def handOver (session : Nat) (packet : Packet) (blocks : Blocks) :
    Blocks :=
  { blocks with
    pointer := Function.update blocks.pointer session none
    pending := packet ::ₘ blocks.pending }

/-- `Close` gives the block back. -/
def release (session : Nat) (block : Block) (blocks : Blocks) : Blocks :=
  { blocks with
    ledger :=
      blocks.ledger ++
        [AsyncSessionImpl.bufferRelease .close block
          (blocks.prevSize session)] }

/-- A worker handles a packet, and the packets in `rest` are left. -/
def handle (packet : Packet) (rest : Multiset Packet) (blocks : Blocks) :
    Blocks :=
  { blocks with
    pending := rest
    ledger := blocks.ledger ++ Server.processingEntries packet }

end Blocks

/-! ## Which session a step concerns -/

section

variable [Header H]

/-- The session whose `ReadHeader` obtains a block in this step. -/
def Server.obtainsBlock (cfg : Config) (server : Server H) :
    Event → Option Nat
  | .receiveDone index (.received bytes) _ =>
      server.receives[index]?.bind fun receive =>
        let session := server.sessions receive.session
        if receive.stage = .header ∧
            session.admits cfg (.received bytes) = true ∧
            0 < (session.measured cfg bytes).sizeOfBodyBuffer then
          some receive.session
        else
          none
  | _ => none

/--
The session that is closed, or hands its body over, in this step: whose
receive operation completes otherwise than with an accepted header, whose
write fails, or on which `Close` is called.
-/
def Server.usesPointer (cfg : Config) (server : Server H) :
    Event → Option Nat
  | .receiveDone index completion _ =>
      server.receives[index]?.bind fun receive =>
        if receive.stage = .header ∧
            (server.sessions receive.session).admits cfg completion =
              true then
          none
        else
          some receive.session
  | .writeDone index true _ =>
      server.writes[index]?.map Write.session
  | .close session _ => some session
  | _ => none

/-- The steps of the block machine. -/
inductive BlockStep (cfg : Config) (before : Server H) (event : Event) :
    Blocks → Prop where
  | allocated (session : Nat) (block : Block) (size : Nat) (header : H)
      (obtains : before.obtainsBlock cfg event = some session)
      (fresh : block.serial = before.ledger.length)
      (read :
        ∃ buffer size,
          header =
            (Header.deserialize (before.sessions session).header buffer
              size).1)
      (sizes :
        block.bodySize = Header.getBodySize header ∧
          block.enderSize = Header.getEnderSize header)
      (measure :
        size =
          addWord cfg.build.sizeBits block.bodySize block.enderSize)
      (positive : 0 < size)
      (fits : size ≤ cfg.sessionBufferMax) :
      BlockStep cfg before event
        (before.blocks.allocate session block size)
  | handedOver (index : Nat) (receive : Receive) (bytes : List UInt8)
      (closeFails : Bool)
      (completes :
        event = .receiveDone index (.received bytes) closeFails)
      (outstanding : before.receives[index]? = some receive)
      (current : before.Current receive)
      (stage : receive.stage = .body)
      (complete :
        (before.sessions receive.session).sizeOfBodyBuffer = bytes.length)
      (uses : before.usesPointer cfg event = some receive.session) :
      BlockStep cfg before event
        (before.blocks.handOver receive.session
          ((before.sessions receive.session).packet cfg receive.session
            bytes))
  | released (session : Nat) (block : Block)
      (uses : before.usesPointer cfg event = some session)
      (own : before.blocks.pointer session = some block) :
      BlockStep cfg before event (before.blocks.release session block)
  | handled (packet : Packet) (rest : Multiset Packet)
      (waiting : before.blocks.pending = packet ::ₘ rest) :
      BlockStep cfg before event (before.blocks.handle packet rest)
  | kept : BlockStep cfg before event before.blocks

end

/-! ## The server refines the block machine -/

theorem blocks_apply
    (cfg : Config) (server : Server H) (this : Nat) (outcome : Outcome H) :
    (server.apply cfg this outcome).blocks =
      { pointer :=
          Function.update server.blocks.pointer this
            outcome.session.bodyBuffer
        prevSize :=
          Function.update server.blocks.prevSize this
            outcome.session.sizeOfPrevBodyBuffer
        pending := outcome.inserted + server.blocks.pending
        ledger := server.ledger ++ outcome.entries } := by
  apply Blocks.ext
  · funext session
    by_cases own : session = this
    · subst session
      simp [Server.blocks, Server.apply]
    · simp [Server.blocks, Server.apply, own]
  · funext session
    by_cases own : session = this
    · subst session
      simp [Server.blocks, Server.apply]
    · simp [Server.blocks, Server.apply, own]
  · simp only [Server.blocks, Server.apply, ← Multiset.coe_add]
    rw [add_right_comm, add_comm]
  · rfl

/-- `Close` releases the block of the session, or releases nothing. -/
theorem blocks_apply_closing
    (cfg : Config) {server : Server H} {this : Nat} {closeFails : Bool}
    {outcome : Outcome H}
    (closing :
      AsyncSessionImpl.Closing closeFails (server.sessions this) outcome) :
    (server.apply cfg this outcome).blocks = server.blocks ∨
      ∃ block, server.blocks.pointer this = some block ∧
        (server.apply cfg this outcome).blocks =
          server.blocks.release this block := by
  have view :
      (server.apply cfg this outcome).blocks =
        { server.blocks with
          ledger := server.ledger ++ outcome.entries } := by
    rw [blocks_apply, closing.bodyBuffer, closing.sizeOfPrevBodyBuffer,
      closing.inserted]
    apply Blocks.ext
    · exact Function.update_eq_self _ _
    · exact Function.update_eq_self _ _
    · simp
    · rfl
  rw [view]
  rcases closing.entries with nothing | own
  · refine Or.inl ?_
    rw [nothing, List.append_nil]
    rfl
  · cases buffer : (server.sessions this).bodyBuffer with
    | none =>
        refine Or.inl ?_
        rw [own, AsyncSessionImpl.closeEntries, buffer, List.append_nil]
        rfl
    | some block =>
        by_cases zero : (server.sessions this).sizeOfPrevBodyBuffer = 0
        · refine Or.inl ?_
          rw [own, AsyncSessionImpl.closeEntries, buffer]
          simp only [zero, ne_eq, not_true_eq_false, if_false,
            List.append_nil]
          rfl
        · refine Or.inr ⟨block, buffer, ?_⟩
          rw [own, AsyncSessionImpl.closeEntries, buffer]
          simp only [ne_eq, zero, not_false_eq_true, if_true]
          rfl

/-- The block step of any step that applies a call of `Close`. -/
theorem blockStep_of_closing [Header H]
    {cfg : Config} {server after : Server H} {this : Nat}
    {closeFails : Bool} {outcome : Outcome H} {event : Event}
    (closing :
      AsyncSessionImpl.Closing closeFails (server.sessions this) outcome)
    (view : after.blocks = (server.apply cfg this outcome).blocks)
    (uses : server.usesPointer cfg event = some this) :
    BlockStep cfg server event after.blocks := by
  rw [view]
  rcases blocks_apply_closing cfg closing with same | ⟨block, own, released⟩
  · rw [same]
    exact .kept
  · rw [released]
    exact .released this block uses own

theorem blocks_acquireSession (cfg : Config) (server : Server H) :
    (server.acquireSession cfg).blocks = server.blocks := by
  obtain ⟨pool, acceptor, equal⟩ := server.acquireSession_eq cfg
  rw [equal]
  rfl

/-- A new connection finds the block pointer of its session as it was. -/
theorem blocks_acceptClient [Header H] (this : Nat) (server : Server H) :
    (server.acceptClient this).blocks = server.blocks := by
  apply Blocks.ext
  · funext session
    by_cases own : session = this
    · subst session
      simp only [Server.blocks, sessions_acceptClient_self]
      rfl
    · simp only [Server.blocks, sessions_acceptClient_of_ne server own]
  · funext session
    by_cases own : session = this
    · subst session
      simp only [Server.blocks, sessions_acceptClient_self]
      rfl
    · simp only [Server.blocks, sessions_acceptClient_of_ne server own]
  · rfl
  · rfl

/-- What an accepted header does to the blocks. -/
theorem blocks_apply_allocateBody [Header H]
    (cfg : Config) (server : Server H) (this : Nat) (bytes : List UInt8)
    (serial : Nat) :
    (server.apply cfg this
        (((server.sessions this).measured cfg bytes).allocateBody
          serial)).blocks =
      if 0 < ((server.sessions this).measured cfg bytes).sizeOfBodyBuffer
      then
        server.blocks.allocate this
          (((server.sessions this).measured cfg bytes).bodyBlock serial)
          ((server.sessions this).measured cfg bytes).sizeOfBodyBuffer
      else
        server.blocks := by
  rw [blocks_apply]
  simp only [AsyncSessionImpl.allocateBody]
  split
  · apply Blocks.ext
    · rfl
    · rfl
    · simp [Blocks.allocate]
    · rfl
  · apply Blocks.ext
    · exact Function.update_eq_self _ _
    · exact Function.update_eq_self _ _
    · simp
    · simp [Server.blocks]

/-- What a complete body does to the blocks. -/
theorem blocks_apply_handOver [Header H]
    (cfg : Config) (server : Server H) (this : Nat) (bytes : List UInt8) :
    (server.apply cfg this
        ((server.sessions this).handOver cfg this bytes)).blocks =
      server.blocks.handOver this
        ((server.sessions this).packet cfg this bytes) := by
  rw [blocks_apply]
  apply Blocks.ext
  · rfl
  · exact Function.update_eq_self _ _
  · rfl
  · simp [AsyncSessionImpl.handOver, Blocks.handOver, Server.blocks]

theorem coe_eq_cons_eraseIdx {α : Type} {list : List α} {index : Nat}
    {element : α} (here : list[index]? = some element) :
    (list : Multiset α) = element ::ₘ (list.eraseIdx index : List α) := by
  obtain ⟨inside, rfl⟩ := List.getElem?_eq_some_iff.mp here
  exact Multiset.coe_eq_coe.mpr
    (List.getElem_cons_eraseIdx_perm inside).symm

theorem coe_set_eq_cons_eraseIdx {α : Type} {list : List α} {index : Nat}
    {element : α} (here : list[index]? = some element) (other : α) :
    (list.set index other : Multiset α) =
      other ::ₘ (list.eraseIdx index : List α) := by
  obtain ⟨inside, -⟩ := List.getElem?_eq_some_iff.mp here
  exact Multiset.coe_eq_coe.mpr
    (List.set_perm_cons_eraseIdx inside other)

/-- Taking a packet from the queue keeps it pending. -/
theorem blocks_taken
    {server : Server H} {packet : Packet} {rest : List Packet}
    (queued : server.packetQueue = packet :: rest) :
    Server.blocks
        { server with
          packetQueue := rest
          tasks := server.tasks ++ [⟨packet, .handling⟩] } =
      server.blocks := by
  apply Blocks.ext
  · rfl
  · rfl
  · have appended :
        ((server.tasks ++ [⟨packet, .handling⟩] : List Task) :
            Multiset Task) =
          ⟨packet, .handling⟩ ::ₘ (server.tasks : Multiset Task) := by
      rw [← Multiset.coe_add, Multiset.coe_singleton, add_comm,
        Multiset.singleton_add]
    simp only [Server.blocks, queued, appended, handlingPackets_handling,
      ← Multiset.cons_coe, Multiset.add_cons, Multiset.cons_add]
  · rfl

/-- Handling a packet takes it off the pending ones. -/
theorem blocks_processed
    {server : Server H} {index : Nat} {packet : Packet}
    (busy : server.tasks[index]? = some ⟨packet, .handling⟩)
    (response : Option (List UInt8)) :
    ∃ rest,
      server.blocks.pending = packet ::ₘ rest ∧
        Server.blocks
            { server with
              tasks := server.tasks.set index ⟨packet, .sending response⟩
              ledger :=
                server.ledger ++ Server.processingEntries packet } =
          server.blocks.handle packet rest := by
  refine ⟨server.packetQueue +
    handlingPackets (server.tasks.eraseIdx index : List Task), ?_, ?_⟩
  · simp only [Server.blocks, coe_eq_cons_eraseIdx busy,
      handlingPackets_handling, Multiset.add_cons]
  · apply Blocks.ext
    · rfl
    · rfl
    · simp only [Server.blocks, coe_set_eq_cons_eraseIdx busy,
        handlingPackets_sending, Blocks.handle]
    · rfl

/-- Sending a response does not concern the blocks. -/
theorem blocks_sent
    {server : Server H} {index : Nat} {packet : Packet}
    {response : Option (List UInt8)} (writes : List Write)
    (busy : server.tasks[index]? = some ⟨packet, .sending response⟩) :
    Server.blocks
        { server with
          tasks := server.tasks.eraseIdx index
          writes := writes } =
      server.blocks := by
  apply Blocks.ext
  · rfl
  · rfl
  · simp only [Server.blocks, coe_eq_cons_eraseIdx busy,
      handlingPackets_sending]
  · rfl

/-- Every step of the server is a step of the block machine. -/
theorem blockStep_of_stepped [Header H]
    {cfg : Config} {before after : Server H} {event : Event}
    (stepped : Stepped cfg before event after) :
    BlockStep cfg before event after.blocks := by
  cases stepped with
  | rejected =>
      rw [blocks_acquireSession]
      exact .kept
  | admitted session =>
      rw [blocks_acquireSession, blocks_acceptClient]
      exact .kept
  | abandoned index receive completion closeFails session outstanding _
      givesUp =>
      refine blockStep_of_closing
        (AsyncSessionImpl.abandon_closing givesUp.same closeFails) rfl ?_
      have refused :
          ¬ (receive.stage = .header ∧
            (before.sessions receive.session).admits cfg completion =
              true) := by
        rintro ⟨stage, admitted⟩
        have rejected := givesUp.refused
        rw [stage, AsyncSessionImpl.accepts, admitted] at rejected
        simp at rejected
      simp only [Server.usesPointer, outstanding, Option.bind_some,
        if_neg refused]
  | headerRead index receive bytes closeFails outstanding _ stage admitted
      outcome allocated =>
      have view :=
        blocks_apply_allocateBody cfg before receive.session bytes
          before.ledger.length
      subst outcome
      refine Eq.subst (motive := BlockStep cfg before _) view.symm ?_
      split
      case isTrue positive =>
        have obtains :
            before.obtainsBlock cfg
                (.receiveDone index (.received bytes) closeFails) =
              some receive.session := by
          simp [Server.obtainsBlock, outstanding, stage, admitted,
            positive]
        exact .allocated receive.session _ _ _ obtains rfl ⟨_, _, rfl⟩
          ⟨rfl, rfl⟩ rfl positive
          (AsyncSessionImpl.fits_of_admits admitted)
      case isFalse => exact .kept
  | bodyRead index receive bytes closeFails outstanding permitted stage
      complete _ outcome handed =>
      have uses :
          before.usesPointer cfg
              (.receiveDone index (.received bytes) closeFails) =
            some receive.session := by
        simp [Server.usesPointer, outstanding, stage]
      subst outcome
      exact Eq.subst (motive := BlockStep cfg before _)
        (blocks_apply_handOver cfg before receive.session bytes).symm
        (.handedOver index receive bytes closeFails rfl outstanding
          (current_of_permits outstanding permitted) stage
          (AsyncSessionImpl.whole_of_completes complete) uses)
  | wrote => exact .kept
  | writeDelivered => exact .kept
  | writeFailed index write closeFails outstanding =>
      refine blockStep_of_closing
        ((before.sessions write.session).close_closing closeFails) rfl ?_
      simp [Server.usesPointer, outstanding]
  | closed session closeFails =>
      exact blockStep_of_closing
        ((before.sessions session).close_closing closeFails) rfl rfl
  | taken packet rest queued =>
      rw [blocks_taken queued]
      exact .kept
  | processed index packet response busy =>
      obtain ⟨rest, waiting, view⟩ := blocks_processed busy response
      rw [view]
      exact .handled packet rest waiting
  | sent index packet response busy =>
      rw [blocks_sent _ busy]
      exact .kept

/-! ## Every block has one owner -/

namespace Blocks

/-- How many pending packets refer to the block. -/
def waiting (blocks : Blocks) (block : Block) : Nat :=
  blocks.pending.countP fun packet => packet.buffer = some block

/--
A block is pointed to by one session, or pending in one packet, or was
released once; new blocks are known by their serial number.
-/
structure Exclusive (blocks : Blocks) : Prop where
  once :
    ∀ block,
      blocks.waiting block + releaseCount blocks.ledger block ≤ 1
  apart :
    ∀ session block, blocks.pointer session = some block →
      blocks.waiting block = 0
  distinct :
    ∀ first second block, blocks.pointer first = some block →
      blocks.pointer second = some block → first = second
  fresh :
    ∀ block, blocks.ledger.length ≤ block.serial →
      blocks.waiting block = 0 ∧
        releaseCount blocks.ledger block = 0 ∧
        ∀ session, blocks.pointer session ≠ some block

variable {blocks : Blocks}

theorem Exclusive.allocate
    (exclusive : Exclusive blocks) {block : Block}
    (fresh : block.serial = blocks.ledger.length)
    (session size : Nat) :
    Exclusive (blocks.allocate session block size) := by
  obtain ⟨unused, -, unheld⟩ :=
    exclusive.fresh block (Nat.le_of_eq fresh.symm)
  constructor
  · intro other
    have once := exclusive.once other
    simpa [Blocks.allocate, waiting] using once
  · intro holder other held
    by_cases own : holder = session
    · subst holder
      simp only [Blocks.allocate, Function.update_self,
        Option.some.injEq] at held
      subst other
      exact unused
    · simp only [Blocks.allocate, ne_eq, own, not_false_eq_true,
        Function.update_of_ne] at held
      exact exclusive.apart holder other held
  · intro first second other firstHeld secondHeld
    by_cases isFirst : first = session
    · by_cases isSecond : second = session
      · rw [isFirst, isSecond]
      · simp only [Blocks.allocate, isFirst, Function.update_self,
          Option.some.injEq] at firstHeld
        simp only [Blocks.allocate, ne_eq, isSecond, not_false_eq_true,
          Function.update_of_ne] at secondHeld
        exact absurd secondHeld (firstHeld ▸ unheld second)
    · by_cases isSecond : second = session
      · simp only [Blocks.allocate, isSecond, Function.update_self,
          Option.some.injEq] at secondHeld
        simp only [Blocks.allocate, ne_eq, isFirst, not_false_eq_true,
          Function.update_of_ne] at firstHeld
        exact absurd firstHeld (secondHeld ▸ unheld first)
      · simp only [Blocks.allocate, ne_eq, isFirst, isSecond,
          not_false_eq_true, Function.update_of_ne]
          at firstHeld secondHeld
        exact exclusive.distinct first second other firstHeld secondHeld
  · intro other above
    simp only [Blocks.allocate, List.length_append, List.length_singleton]
      at above
    obtain ⟨unusedOther, unreleased, unheldOther⟩ :=
      exclusive.fresh other (by omega)
    refine ⟨unusedOther, by simpa [Blocks.allocate] using unreleased, ?_⟩
    intro holder held
    by_cases own : holder = session
    · subst holder
      simp only [Blocks.allocate, Function.update_self,
        Option.some.injEq] at held
      subst other
      omega
    · simp only [Blocks.allocate, ne_eq, own, not_false_eq_true,
        Function.update_of_ne] at held
      exact unheldOther holder held

theorem waiting_handOver
    (session : Nat) (packet : Packet) (block : Block) :
    (blocks.handOver session packet).waiting block =
      blocks.waiting block +
        if packet.buffer = some block then 1 else 0 :=
  Multiset.countP_cons _ _ _

theorem Exclusive.handOver
    (exclusive : Exclusive blocks) {session : Nat} {packet : Packet}
    (own : packet.buffer = blocks.pointer session)
    (valid :
      ∀ block, blocks.pointer session = some block →
        releaseCount blocks.ledger block = 0) :
    Exclusive (blocks.handOver session packet) := by
  have elsewhere :
      ∀ holder block,
        (blocks.handOver session packet).pointer holder = some block →
          holder ≠ session ∧ blocks.pointer holder = some block := by
    intro holder block held
    by_cases same : holder = session
    · subst holder
      simp [Blocks.handOver] at held
    · exact ⟨same, by simpa [Blocks.handOver, same] using held⟩
  constructor
  · intro block
    rw [waiting_handOver]
    by_cases handed : packet.buffer = some block
    · have held := own.symm.trans handed
      have unused := exclusive.apart session block held
      have unreleased := valid block held
      simp [Blocks.handOver, handed, unused, unreleased]
    · have once := exclusive.once block
      simpa [Blocks.handOver, handed] using once
  · intro holder block held
    obtain ⟨different, held⟩ := elsewhere holder block held
    rw [waiting_handOver, exclusive.apart holder block held, if_neg]
    intro handed
    exact different (exclusive.distinct holder session block held
      (own.symm.trans handed))
  · intro first second block firstHeld secondHeld
    exact exclusive.distinct first second block
      (elsewhere first block firstHeld).2
      (elsewhere second block secondHeld).2
  · intro block above
    obtain ⟨unused, unreleased, unheld⟩ := exclusive.fresh block above
    refine ⟨?_, unreleased, ?_⟩
    · rw [waiting_handOver, unused, if_neg]
      intro handed
      exact unheld session (own.symm.trans handed)
    · intro holder held
      exact unheld holder (elsewhere holder block held).2

theorem Exclusive.release
    (exclusive : Exclusive blocks) {session : Nat} {block : Block}
    (own : blocks.pointer session = some block)
    (valid : releaseCount blocks.ledger block = 0) :
    Exclusive (blocks.release session block) := by
  have unused := exclusive.apart session block own
  refine ⟨?_, exclusive.apart, exclusive.distinct, ?_⟩
  · intro other
    have once := exclusive.once other
    simp only [Blocks.release, AsyncSessionImpl.bufferRelease,
      releaseCount_append, releaseCount_released]
    by_cases same : block = other
    · subst other
      simp only [if_true, valid]
      exact Nat.le_of_eq (congrArg (· + 1) unused)
    · simp only [same, if_false]
      exact once
  · intro other above
    simp only [Blocks.release, List.length_append, List.length_singleton]
      at above
    obtain ⟨unusedOther, unreleased, unheld⟩ :=
      exclusive.fresh other (by omega)
    refine ⟨unusedOther, ?_, unheld⟩
    have different : block ≠ other := fun same =>
      unheld session (same ▸ own)
    simp [Blocks.release, AsyncSessionImpl.bufferRelease, unreleased,
      different]

/-- A worker releases at most the buffer of its packet, and that once. -/
theorem releaseCount_processingEntries (packet : Packet) (block : Block) :
    releaseCount (Server.processingEntries packet) block ≤
      if packet.buffer = some block then 1 else 0 := by
  simp only [Server.processingEntries]
  split
  · rename_i buffer held
    split
    · simp [held, AsyncSessionImpl.bufferRelease]
    · simp
  · simp

theorem Exclusive.handle
    (exclusive : Exclusive blocks) {packet : Packet}
    {rest : Multiset Packet}
    (pending : blocks.pending = packet ::ₘ rest) :
    Exclusive (blocks.handle packet rest) := by
  have counted : ∀ block,
      blocks.waiting block =
        (blocks.handle packet rest).waiting block +
          if packet.buffer = some block then 1 else 0 := by
    intro block
    rw [waiting, pending]
    exact Multiset.countP_cons _ _ _
  refine ⟨?_, ?_, exclusive.distinct, ?_⟩
  · intro block
    have once := exclusive.once block
    have released := releaseCount_processingEntries packet block
    rw [counted] at once
    simp only [Blocks.handle, releaseCount_append] at once ⊢
    omega
  · intro session block held
    have unused := exclusive.apart session block held
    rw [counted] at unused
    omega
  · intro block above
    simp only [Blocks.handle, List.length_append] at above
    obtain ⟨unused, unreleased, unheld⟩ :=
      exclusive.fresh block (by omega)
    have released := releaseCount_processingEntries packet block
    rw [counted] at unused
    refine ⟨by omega, ?_, unheld⟩
    simp only [Blocks.handle, releaseCount_append]
    omega

end Blocks

/-! ## No block is released twice -/

/--
A session is not closed and hands no body over while `m_szBodyBuffer` points
to a block that was released before.
-/
def PointerValid [Header H] (cfg : Config) (before : Server H)
    (event : Event) : Prop :=
  ∀ session ∈ before.usesPointer cfg event,
    ∀ block ∈ (before.sessions session).bodyBuffer,
      releaseCount before.ledger block = 0

instance [Header H] (cfg : Config) (before : Server H) (event : Event) :
    Decidable (PointerValid cfg before event) :=
  inferInstanceAs (Decidable (∀ _ ∈ _, _))

theorem Blocks.Exclusive.step [Header H]
    {cfg : Config} {before : Server H} {event : Event} {after : Blocks}
    (exclusive : before.blocks.Exclusive)
    (meets : PointerValid cfg before event)
    (blockStep : BlockStep cfg before event after) :
    after.Exclusive := by
  cases blockStep with
  | allocated session block size _ _ fresh =>
      exact exclusive.allocate fresh session size
  | handedOver index receive bytes closeFails _ _ _ _ _ uses =>
      exact exclusive.handOver rfl (meets receive.session uses)
  | released session block uses own =>
      exact exclusive.release own (meets session uses block own)
  | handled packet rest waiting => exact exclusive.handle waiting
  | kept => exact exclusive

theorem start_exclusive (cfg : Config) (header : H) :
    (Server.start cfg header).blocks.Exclusive := by
  rw [Server.start, blocks_acquireSession]
  constructor
  · intro block
    simp [Server.blocks, Blocks.waiting, handlingPackets]
  · intro session block held
    simp [Server.blocks, AsyncSessionImpl.make] at held
  · intro first second block held
    simp [Server.blocks, AsyncSessionImpl.make] at held
  · intro block _
    simp [Server.blocks, Blocks.waiting, handlingPackets,
      AsyncSessionImpl.make]

/--
If no session is closed, and hands no body over, with a pointer to a block
that was released before, no block is released twice.
-/
theorem body_block_released_at_most_once [Header H]
    {cfg : Config} {header : H} {events : List Event} {server : Server H}
    (run :
      RunWhere (step cfg) (PointerValid cfg) (Server.start cfg header)
        events server) :
    ReleasedAtMostOnce server.ledger := by
  have exclusive : server.blocks.Exclusive := by
    refine RunWhere.invariant (fun _ => True)
      (fun server => server.blocks.Exclusive) (fun _ => trivial)
      (start_exclusive cfg header) ?_ run
    intro before event after _ held meets taken
    exact held.step meets (blockStep_of_stepped (stepped_of_step taken))
  intro block
  exact (Nat.le_add_left _ _).trans (exclusive.once block)

/--
A session that was closed in the middle of a body serves a second client,
whose first message replaces the pointer.
-/
def pointerReplaced : List Event :=
  [.acceptDone false,
    .receiveDone 0 (.received (DummyServer.headerImage 1)) false,
    .receiveDone 0 .failed false, .acceptDone false,
    .receiveDone 0 .failed false, .acceptDone false,
    .receiveDone 0 (.received (DummyServer.headerImage 1)) false,
    .receiveDone 0 (.received (DummyServer.bodyImage 1)) false,
    .getPacketInfo, .processing 0 none]

theorem body_block_released_at_most_once_replaced :
    ∃ server,
      RunWhere (step (DummyServer.configureIni 2))
          (PointerValid (DummyServer.configureIni 2))
          (DummyServer.dummyServer 2) pointerReplaced server ∧
        server.ledger.length = 4 ∧
        ReleasedAtMostOnce server.ledger := by
  have executed :
      (execWhere (step (DummyServer.configureIni 2))
        (PointerValid (DummyServer.configureIni 2))
        (DummyServer.dummyServer 2) pointerReplaced).map
          (fun server => server.ledger.length) = some 4 := by
    decide
  obtain ⟨server, run, entries⟩ := exists_runWhere_of_map_exec executed
  exact ⟨server, run, entries, body_block_released_at_most_once run⟩

/-- The second client leaves before it sent anything. -/
def pointerKept : List Event :=
  [.acceptDone false,
    .receiveDone 0 (.received (DummyServer.headerImage 1)) false,
    .receiveDone 0 .failed false, .acceptDone false,
    .receiveDone 0 .failed false, .acceptDone false,
    .receiveDone 0 .failed false]

/-- Then `Close` releases the block of the first client again. -/
theorem body_block_released_twice :
    ∃ server,
      Run (step (DummyServer.configureIni 2)) (DummyServer.dummyServer 2)
          pointerKept server ∧
        ¬ ReleasedAtMostOnce server.ledger := by
  have executed :
      (execWhere (step (DummyServer.configureIni 2)) (fun _ _ => True)
        (DummyServer.dummyServer 2) pointerKept).map
          (fun server => releaseCount server.ledger ⟨0, 1, 16⟩) =
        some 2 := by
    decide
  obtain ⟨server, run, count⟩ := exists_runWhere_of_map_exec executed
  refine ⟨server, run, ?_⟩
  intro once
  have bounded := once ⟨0, 1, 16⟩
  rw [count] at bounded
  omega

end LibSklt.Net
