import LibSklt.Foundation.Transition
import LibSklt.Net.AsyncSessionImpl
import LibSklt.Util.Pool
import Mathlib.Tactic

/-!
# The asynchronous server

The accept loop (`lib/skeleton_server.cpp`), the pool of sessions
(`lib/async_session_pool.cpp`), the receive loops of the sessions, the packet
workers (`lib/packet_worker.cpp`, `lib/packet_worker_manager.cpp`) and the
outstanding socket operations form one transition system.  The handlers of
the `io_service`, which a single thread runs, are atomic steps; the workers
take a packet, handle it and send the response in separate steps.

The environment decides everything the program does not: the results of
accepts, receives and writes, how much a receive or a write transfers, what a
handler answers, and the order of all steps.  Three rules about Boost.Asio
limit it.

* A receive that succeeds transfers at least one byte, unless none was asked
  for, and at most the bytes asked for; it was started on an open socket.  It
  may be handled after the socket was closed, but not after the next
  connection was accepted on the same socket object: completions that were
  queued before a close are delivered before those that are queued later.
* Everything that is pending when a socket is closed fails.  Such a failure
  may be delivered at any later time, also after later accepts.
* A write transfers its bytes in pieces while its own connection is open; it
  succeeds when all bytes are transferred and fails otherwise.
-/

namespace LibSklt.Net

open LibSklt.Foundation.Ledger
open LibSklt.Foundation.MachineWord
open LibSklt.Foundation.Transition
open LibSklt.Util

/-! ## State -/

/-- An outstanding `async_receive`. -/
structure Receive where
  session : Nat
  /-- The connection of the socket when the operation was started. -/
  connection : Nat
  stage : Stage
  size : Nat
  /-- Whether the socket was open when the operation was started. -/
  onOpen : Bool
deriving DecidableEq

/-- An outstanding `async_write` of a response. -/
structure Write where
  session : Nat
  /-- The connection of the socket when the operation was started. -/
  connection : Nat
  /-- The connection that the answered packet was received on. -/
  origin : Nat
  remaining : List UInt8
deriving DecidableEq

/-- How far a worker is with its packet. -/
inductive Phase where
  | handling
  | sending (response : Option (List UInt8))
deriving DecidableEq

/-- A busy worker. -/
structure Task where
  packet : Packet
  phase : Phase
deriving DecidableEq

/-- Bytes of a response written to a connection. -/
structure Transfer where
  connection : Nat
  origin : Nat
  bytes : List UInt8
deriving DecidableEq

/--
Where the loop of `StartAccept` is: it waits for a client on a session, or
it went on to use the empty optional that `Acquire` returned.
-/
inductive Acceptor where
  | offering (session : Nat)
  | disengaged
deriving DecidableEq

/--
The state of the server.  The last five fields are not data of the program:
they record the blocks taken and given back, the number of connections
accepted, the bytes received per connection, the packets inserted into the
queue, and the bytes written.
-/
structure Server (H : Type) where
  pool : Pool Nat
  acceptor : Acceptor
  sessions : Nat → AsyncSessionImpl H
  packetQueue : List Packet
  tasks : List Task
  receives : List Receive
  writes : List Write
  ledger : List (Entry Block Release)
  accepted : Nat
  received : Nat → List UInt8
  inserted : List Packet
  wire : List Transfer

variable {H : Type}

/-! ## Start-up -/

/-- The loop of `AsyncSessionPool::Initialize`, for `count` sessions. -/
def createSessions (sizeBits count : Nat) (pool : Pool Nat) : Pool Nat :=
  (List.range count).foldl
    (fun pool session => (pool.create sizeBits (some session)).2) pool

/-- `AsyncSessionPool::Initialize`. -/
def initializeSessions (cfg : Config) : Pool Nat :=
  createSessions cfg.build.sizeBits cfg.sessionPoolCount
    (Pool.make cfg.sessionPoolCount)

namespace Server

/-- The head of the loop of `StartAccept`, up to `async_accept`. -/
def acquireSession (cfg : Config) (server : Server H) : Server H :=
  match server.pool.acquire cfg.build.sizeBits with
  | (some session, pool) =>
      { server with pool := pool, acceptor := .offering session }
  | (none, pool) =>
      { server with pool := pool, acceptor := .disengaged }

/-- The server when the accept loop waits for the first client. -/
def start (cfg : Config) (header : H) : Server H :=
  acquireSession cfg
    { pool := initializeSessions cfg
      acceptor := .disengaged
      sessions := fun session =>
        AsyncSessionImpl.make header (cfg.rawPrevSize session)
      packetQueue := []
      tasks := []
      receives := []
      writes := []
      ledger := []
      accepted := 0
      received := fun _ => []
      inserted := []
      wire := [] }

/-! ## Handlers of the `io_service` -/

/-- What a call on a session does to the rest of the server. -/
def apply (cfg : Config) (this : Nat) (outcome : Outcome H)
    (server : Server H) : Server H :=
  { server with
    sessions := Function.update server.sessions this outcome.session
    pool :=
      if outcome.restored then
        (server.pool.restore cfg.build.sizeBits (some this) false).2
      else
        server.pool
    packetQueue := server.packetQueue ++ outcome.inserted
    inserted := server.inserted ++ outcome.inserted
    ledger := server.ledger ++ outcome.entries }

/-- A call of `AsyncSessionImpl::Close`. -/
def close (cfg : Config) (this : Nat) (closeFails : Bool)
    (server : Server H) : Server H :=
  server.apply cfg this ((server.sessions this).close closeFails)

section

variable [Header H]

/-- Start of an `async_receive` on the socket of a session. -/
def startReceive (this : Nat) (stage : Stage)
    (session : AsyncSessionImpl H) : Receive where
  session := this
  connection := session.tcpSocket.connection
  stage := stage
  size := session.requested stage
  onOpen := session.tcpSocket.isOpen

/-- The accepted session before `Recv` starts to receive. -/
def admitted (server : Server H) (this : Nat) : AsyncSessionImpl H :=
  { server.sessions this with
    tcpSocket := ⟨true, server.accepted + 1⟩
    sessionPoolState := .kAcquire }.recv

/-- A client was accepted on the offered session. -/
def acceptClient (this : Nat) (server : Server H) : Server H :=
  { server with
    accepted := server.accepted + 1
    sessions :=
      Function.update server.sessions this (server.admitted this)
    receives :=
      server.receives ++
        [startReceive this .header (server.admitted this)] }

/--
Completion of `async_accept`, and the loop of `StartAccept` up to the next
one.  After an error the session is not used again.
-/
def acceptDone (cfg : Config) (failed : Bool) (server : Server H) :
    Option (Server H) :=
  match server.acceptor with
  | .disengaged => none
  | .offering session =>
      some (acquireSession cfg
        (if failed then server else server.acceptClient session))

end

/-- Whether a receive operation may complete in this way now. -/
def permits (socket : Socket) (receive : Receive) : Completion → Bool
  | .failed => true
  | .received bytes =>
      receive.onOpen && socket.connection == receive.connection &&
        decide (bytes.length ≤ receive.size) &&
        (decide (0 < bytes.length) || receive.size == 0)

/-- The bytes that a completion transferred. -/
def transferred : Completion → List UInt8
  | .failed => []
  | .received bytes => bytes

/--
The handler of a receive operation, that is, its coroutine, runs.  There is
no next state if it ends the program.
-/
def resume [Header H] (cfg : Config) (index : Nat) (receive : Receive)
    (completion : Completion) (closeFails : Bool) (server : Server H) :
    Option (Server H) :=
  ((server.sessions receive.session).recvProcess cfg receive.session
    server.ledger.length closeFails receive.stage completion).map
      fun (outcome, next) =>
        { server.apply cfg receive.session outcome with
          receives :=
            server.receives.eraseIdx index ++
              next.toList.map fun stage =>
                startReceive receive.session stage outcome.session
          received :=
            Function.update server.received receive.connection
              (server.received receive.connection ++
                transferred completion) }

/-- Completion of a receive operation. -/
def receiveDone [Header H] (cfg : Config) (index : Nat)
    (completion : Completion) (closeFails : Bool) (server : Server H) :
    Option (Server H) :=
  match server.receives[index]? with
  | none => none
  | some receive =>
      if permits (server.sessions receive.session).tcpSocket
          receive completion then
        server.resume cfg index receive completion closeFails
      else
        none

/-- Some bytes of a write operation are transferred. -/
def writeSome (index count : Nat) (server : Server H) :
    Option (Server H) :=
  match server.writes[index]? with
  | none => none
  | some write =>
      let socket := (server.sessions write.session).tcpSocket
      if socket.isOpen ∧ socket.connection = write.connection ∧
          0 < count ∧ count ≤ write.remaining.length then
        some
          { server with
            writes :=
              server.writes.set index
                { write with remaining := write.remaining.drop count }
            wire :=
              server.wire ++
                [⟨write.connection, write.origin,
                  write.remaining.take count⟩] }
      else
        none

/--
Completion of a write operation: the handler in `SendProcess`.  The response
block that it gives back is not a body block.
-/
def writeDone (cfg : Config) (index : Nat) (failed closeFails : Bool)
    (server : Server H) : Option (Server H) :=
  match server.writes[index]? with
  | none => none
  | some write =>
      if failed = write.remaining.isEmpty then
        none
      else
        let delivered :=
          { server with writes := server.writes.eraseIdx index }
        if failed then
          some (delivered.close cfg write.session closeFails)
        else
          some delivered

/-! ## Workers -/

/-- `PacketWorkerManager::GetPacketInfo` by an idle worker. -/
def getPacketInfo (cfg : Config) (server : Server H) :
    Option (Server H) :=
  match server.packetQueue with
  | [] => none
  | packet :: rest =>
      if server.tasks.length < cfg.workerCount then
        some
          { server with
            packetQueue := rest
            tasks := server.tasks ++ [⟨packet, .handling⟩] }
      else
        none

/-- The release of the packet's buffer in `PacketWorker::Processing`. -/
def processingEntries (packet : Packet) : List (Entry Block Release) :=
  match packet.buffer with
  | some buffer =>
      if packet.sizeOfBuffer > 0 then
        [AsyncSessionImpl.bufferRelease .worker buffer
          packet.sizeOfBuffer]
      else
        []
  | none => []

/--
`PacketWorker::Processing` up to the call of `Send`: the handler returned
`response`, and the packet's buffer is released.
-/
def processing (index : Nat) (response : Option (List UInt8))
    (server : Server H) : Option (Server H) :=
  match server.tasks[index]? with
  | some ⟨packet, .handling⟩ =>
      some
        { server with
          tasks := server.tasks.set index ⟨packet, .sending response⟩
          ledger := server.ledger ++ processingEntries packet }
  | _ => none

/-- The write that `Send` starts for a response that is not empty. -/
def startWrites (server : Server H) (packet : Packet)
    (response : Option (List UInt8)) : List Write :=
  match response with
  | none => []
  | some data =>
      if data.length > 0 then
        [{ session := packet.asyncSession
           connection :=
             (server.sessions packet.asyncSession).tcpSocket.connection
           origin := packet.connection
           remaining := data }]
      else
        []

/-- The end of `PacketWorker::Processing`; the worker is idle again. -/
def send (index : Nat) (server : Server H) : Option (Server H) :=
  match server.tasks[index]? with
  | some ⟨packet, .sending response⟩ =>
      some
        { server with
          tasks := server.tasks.eraseIdx index
          writes := server.writes ++ server.startWrites packet response }
  | _ => none

end Server

/-! ## The transition system -/

/-- The steps of the server and its environment. -/
inductive Event where
  | acceptDone (failed : Bool)
  | receiveDone (index : Nat) (completion : Completion) (closeFails : Bool)
  | writeSome (index count : Nat)
  | writeDone (index : Nat) (failed closeFails : Bool)
  | close (session : Nat) (closeFails : Bool)
  | getPacketInfo
  | processing (index : Nat) (response : Option (List UInt8))
  | send (index : Nat)
deriving DecidableEq

/--
One step of the server.  `Close` is a public member function: besides the
calls in the handlers, a call may come at any time.
-/
def step [Header H] (cfg : Config) (server : Server H) :
    Event → Option (Server H)
  | .acceptDone failed => server.acceptDone cfg failed
  | .receiveDone index completion closeFails =>
      server.receiveDone cfg index completion closeFails
  | .writeSome index count => server.writeSome index count
  | .writeDone index failed closeFails =>
      server.writeDone cfg index failed closeFails
  | .close session closeFails =>
      if session < cfg.sessionPoolCount then
        some (server.close cfg session closeFails)
      else
        none
  | .getPacketInfo => server.getPacketInfo cfg
  | .processing index response => server.processing index response
  | .send index => server.send index

/-! ## What the calls leave alone -/

theorem sessions_apply_self
    (cfg : Config) (server : Server H) (outcome : Outcome H)
    (this : Nat) :
    (server.apply cfg this outcome).sessions this = outcome.session := by
  simp [Server.apply]

/-- A call on one session leaves the other sessions alone. -/
theorem sessions_apply_of_ne
    (cfg : Config) (server : Server H) (outcome : Outcome H)
    {this session : Nat} (other : session ≠ this) :
    (server.apply cfg this outcome).sessions session =
      server.sessions session := by
  simp [Server.apply, other]

theorem sessions_acceptClient_self [Header H]
    (server : Server H) (this : Nat) :
    (server.acceptClient this).sessions this =
      server.admitted this := by
  simp [Server.acceptClient]

theorem sessions_acceptClient_of_ne [Header H]
    (server : Server H) {this session : Nat} (other : session ≠ this) :
    (server.acceptClient this).sessions session =
      server.sessions session := by
  simp [Server.acceptClient, other]

/-- Taking a session from the pool changes nothing but these two fields. -/
theorem Server.acquireSession_eq (cfg : Config) (server : Server H) :
    ∃ pool acceptor,
      server.acquireSession cfg =
        { server with pool := pool, acceptor := acceptor } := by
  simp only [Server.acquireSession]
  split
  · exact ⟨_, _, rfl⟩
  · exact ⟨_, _, rfl⟩

theorem sessions_acquireSession (cfg : Config) (server : Server H) :
    (server.acquireSession cfg).sessions = server.sessions := by
  obtain ⟨pool, acceptor, equal⟩ := server.acquireSession_eq cfg
  rw [equal]

/-- No client has been accepted yet. -/
structure Server.Fresh (server : Server H) : Prop where
  packetQueue : server.packetQueue = []
  tasks : server.tasks = []
  receives : server.receives = []
  writes : server.writes = []
  ledger : server.ledger = []
  received : server.received = fun _ => []
  inserted : server.inserted = []
  wire : server.wire = []

theorem Server.start_fresh (cfg : Config) (header : H) :
    (Server.start cfg header).Fresh := by
  rw [Server.start]
  obtain ⟨pool, acceptor, equal⟩ := Server.acquireSession_eq cfg _
  rw [equal]
  exact ⟨rfl, rfl, rfl, rfl, rfl, rfl, rfl, rfl⟩

/-! ## What a step can do -/

/-- The bytes received per connection after one more completion. -/
def Server.noteReceived (server : Server H) (receive : Receive)
    (completion : Completion) : Nat → List UInt8 :=
  Function.update server.received receive.connection
    (server.received receive.connection ++
      Server.transferred completion)

/--
Every way in which the server can make a step, with the guards that held.
The resumption of a receive coroutine is split by what it comes to.
-/
inductive Stepped [Header H] (cfg : Config) (before : Server H) :
    Event → Server H → Prop where
  | rejected (session : Nat)
      (offering : before.acceptor = .offering session) :
      Stepped cfg before (.acceptDone true) (before.acquireSession cfg)
  | admitted (session : Nat)
      (offering : before.acceptor = .offering session) :
      Stepped cfg before (.acceptDone false)
        ((before.acceptClient session).acquireSession cfg)
  | abandoned (index : Nat) (receive : Receive)
      (completion : Completion) (closeFails : Bool)
      (session : AsyncSessionImpl H)
      (outstanding : before.receives[index]? = some receive)
      (permitted :
        Server.permits (before.sessions receive.session).tcpSocket
          receive completion = true)
      (givesUp :
        AsyncSessionImpl.GivesUp cfg receive.stage completion
          (before.sessions receive.session) session) :
      Stepped cfg before (.receiveDone index completion closeFails)
        { before.apply cfg receive.session
            (session.abandon closeFails) with
          receives := before.receives.eraseIdx index
          received := before.noteReceived receive completion }
  | headerRead (index : Nat) (receive : Receive)
      (bytes : List UInt8) (closeFails : Bool)
      (outstanding : before.receives[index]? = some receive)
      (permitted :
        Server.permits (before.sessions receive.session).tcpSocket
          receive (.received bytes) = true)
      (stage : receive.stage = .header)
      (admitted :
        (before.sessions receive.session).admits cfg (.received bytes) =
          true)
      (outcome : Outcome H)
      (allocated :
        outcome =
          ((before.sessions receive.session).measured cfg
            bytes).allocateBody before.ledger.length) :
      Stepped cfg before (.receiveDone index (.received bytes) closeFails)
        { before.apply cfg receive.session outcome with
          receives :=
            before.receives.eraseIdx index ++
              [Server.startReceive receive.session .body
                outcome.session]
          received := before.noteReceived receive (.received bytes) }
  | bodyRead (index : Nat) (receive : Receive)
      (bytes : List UInt8) (closeFails : Bool)
      (outstanding : before.receives[index]? = some receive)
      (permitted :
        Server.permits (before.sessions receive.session).tcpSocket
          receive (.received bytes) = true)
      (stage : receive.stage = .body)
      (complete :
        (before.sessions receive.session).completes (.received bytes) =
          true)
      (survives :
        (cfg.hexCode &&
          (before.sessions receive.session).endsInHexCode) = false)
      (outcome : Outcome H)
      (handed :
        outcome =
          (before.sessions receive.session).handOver cfg
            receive.session bytes) :
      Stepped cfg before (.receiveDone index (.received bytes) closeFails)
        { before.apply cfg receive.session outcome with
          receives :=
            before.receives.eraseIdx index ++
              [Server.startReceive receive.session .header
                outcome.session]
          received := before.noteReceived receive (.received bytes) }
  | wrote (index count : Nat) (write : Write)
      (outstanding : before.writes[index]? = some write)
      (isOpen : (before.sessions write.session).tcpSocket.isOpen = true)
      (own :
        (before.sessions write.session).tcpSocket.connection =
          write.connection)
      (positive : 0 < count)
      (bounded : count ≤ write.remaining.length) :
      Stepped cfg before (.writeSome index count)
        { before with
          writes :=
            before.writes.set index
              { write with remaining := write.remaining.drop count }
          wire :=
            before.wire ++
              [⟨write.connection, write.origin,
                write.remaining.take count⟩] }
  | writeDelivered (index : Nat) (write : Write) (closeFails : Bool)
      (outstanding : before.writes[index]? = some write)
      (finished : write.remaining = []) :
      Stepped cfg before (.writeDone index false closeFails)
        { before with writes := before.writes.eraseIdx index }
  | writeFailed (index : Nat) (write : Write) (closeFails : Bool)
      (outstanding : before.writes[index]? = some write)
      (unfinished : write.remaining ≠ []) :
      Stepped cfg before (.writeDone index true closeFails)
        { before.close cfg write.session closeFails with
          writes := before.writes.eraseIdx index }
  | closed (session : Nat) (closeFails : Bool)
      (exists_ : session < cfg.sessionPoolCount) :
      Stepped cfg before (.close session closeFails)
        (before.close cfg session closeFails)
  | taken (packet : Packet) (rest : List Packet)
      (queued : before.packetQueue = packet :: rest)
      (idle : before.tasks.length < cfg.workerCount) :
      Stepped cfg before .getPacketInfo
        { before with
          packetQueue := rest
          tasks := before.tasks ++ [⟨packet, .handling⟩] }
  | processed (index : Nat) (packet : Packet)
      (response : Option (List UInt8))
      (busy : before.tasks[index]? = some ⟨packet, .handling⟩) :
      Stepped cfg before (.processing index response)
        { before with
          tasks := before.tasks.set index ⟨packet, .sending response⟩
          ledger := before.ledger ++ Server.processingEntries packet }
  | sent (index : Nat) (packet : Packet)
      (response : Option (List UInt8))
      (busy : before.tasks[index]? = some ⟨packet, .sending response⟩) :
      Stepped cfg before (.send index)
        { before with
          tasks := before.tasks.eraseIdx index
          writes := before.writes ++ before.startWrites packet response }

theorem stepped_of_receiveDone [Header H]
    {cfg : Config} {before after : Server H} {index : Nat}
    {completion : Completion} {closeFails : Bool}
    (taken :
      before.receiveDone cfg index completion closeFails = some after) :
    Stepped cfg before (.receiveDone index completion closeFails) after := by
  simp only [Server.receiveDone] at taken
  split at taken
  · simp at taken
  rename_i receive outstanding
  split at taken
  case isFalse => simp at taken
  case isTrue permitted =>
    obtain ⟨answer, resumed, rfl⟩ := Option.map_eq_some_iff.mp taken
    rcases AsyncSessionImpl.recvProcess_cases resumed with
      ⟨session, givesUp, rfl⟩ |
      ⟨bytes, stage, rfl, admitted, rfl⟩ |
      ⟨bytes, stage, rfl, complete, survives, rfl⟩
    · simp only [Option.toList_none, List.map_nil, List.append_nil]
      exact .abandoned index receive completion closeFails session
        outstanding permitted givesUp
    · simp only [Option.toList_some, List.map_cons, List.map_nil]
      exact .headerRead index receive bytes closeFails outstanding
        permitted stage admitted _ rfl
    · simp only [Option.toList_some, List.map_cons, List.map_nil]
      exact .bodyRead index receive bytes closeFails outstanding
        permitted stage complete survives _ rfl

theorem stepped_of_writeDone [Header H]
    {cfg : Config} {before after : Server H} {index : Nat}
    {failed closeFails : Bool}
    (taken :
      before.writeDone cfg index failed closeFails = some after) :
    Stepped cfg before (.writeDone index failed closeFails) after := by
  simp only [Server.writeDone] at taken
  split at taken
  · simp at taken
  rename_i write outstanding
  split at taken
  case isTrue => simp at taken
  case isFalse consistent =>
    cases failed with
    | true =>
        simp only [if_true, Option.some.injEq] at taken
        subst after
        exact .writeFailed index write closeFails outstanding (by
          intro empty
          simp [empty] at consistent)
    | false =>
        simp only [Bool.false_eq_true, if_false, Option.some.injEq]
          at taken
        subst after
        exact .writeDelivered index write closeFails outstanding (by
          simpa using consistent)

/-- Every step is one of the listed ones. -/
theorem stepped_of_step [Header H]
    {cfg : Config} {before after : Server H} {event : Event}
    (taken : step cfg before event = some after) :
    Stepped cfg before event after := by
  cases event with
  | acceptDone failed =>
      simp only [step, Server.acceptDone] at taken
      split at taken
      · simp at taken
      rename_i session offering
      simp only [Option.some.injEq] at taken
      subst after
      cases failed with
      | true => exact .rejected session offering
      | false => exact .admitted session offering
  | receiveDone index completion closeFails =>
      exact stepped_of_receiveDone taken
  | writeSome index count =>
      simp only [step, Server.writeSome] at taken
      split at taken
      · simp at taken
      rename_i write outstanding
      split at taken
      case isFalse => simp at taken
      case isTrue guards =>
        obtain ⟨isOpen, own, positive, bounded⟩ := guards
        simp only [Option.some.injEq] at taken
        subst after
        exact .wrote index count write outstanding isOpen own positive
          bounded
  | writeDone index failed closeFails =>
      exact stepped_of_writeDone taken
  | close session closeFails =>
      simp only [step] at taken
      split at taken
      case isTrue below =>
        simp only [Option.some.injEq] at taken
        subst after
        exact .closed session closeFails below
      case isFalse => simp at taken
  | getPacketInfo =>
      simp only [step, Server.getPacketInfo] at taken
      split at taken
      · simp at taken
      rename_i packet rest queued
      split at taken
      case isTrue idle =>
        simp only [Option.some.injEq] at taken
        subst after
        exact .taken packet rest queued idle
      case isFalse => simp at taken
  | processing index response =>
      simp only [step, Server.processing] at taken
      split at taken
      · rename_i packet busy
        simp only [Option.some.injEq] at taken
        subst after
        exact .processed index packet response busy
      · simp at taken
  | send index =>
      simp only [step, Server.send] at taken
      split at taken
      · rename_i packet response busy
        simp only [Option.some.injEq] at taken
        subst after
        exact .sent index packet response busy
      · simp at taken

end LibSklt.Net
