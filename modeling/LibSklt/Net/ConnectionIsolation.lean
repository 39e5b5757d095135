import LibSklt.Net.SessionCustody

/-!
# Connections that share a pooled session

A packet, an outstanding receive and an outstanding write name the pooled
session, not the connection they belong to.  After the session was closed,
restored and accepted again they refer to a later connection.  This module
follows the connection numbers through a run and says when responses and
late completions nevertheless stay with their own connection.
-/

namespace LibSklt.Net

open LibSklt.Foundation.Ledger
open LibSklt.Foundation.Transition
open LibSklt.Util

variable {H : Type}

/-! ## The connection of a session -/

theorem connection_apply
    (cfg : Config) {this : Nat} {outcome : Outcome H} {server : Server H}
    (own :
      outcome.session.tcpSocket.connection =
        (server.sessions this).tcpSocket.connection)
    (session : Nat) :
    ((server.apply cfg this outcome).sessions
        session).tcpSocket.connection =
      (server.sessions session).tcpSocket.connection := by
  by_cases same : session = this
  · subst session
    rw [sessions_apply_self]
    exact own
  · rw [sessions_apply_of_ne cfg server outcome same]

/-- Only a successful accept changes which connection a session serves. -/
theorem Stepped.connection [Header H]
    {cfg : Config} {before after : Server H} {event : Event}
    (stepped : Stepped cfg before event after) (session : Nat) :
    (after.sessions session).tcpSocket.connection =
        (before.sessions session).tcpSocket.connection ∨
      (event = .acceptDone false ∧
        before.acceptor = .offering session) := by
  cases stepped with
  | rejected => exact Or.inl (by rw [sessions_acquireSession])
  | admitted offered offering =>
      by_cases own : session = offered
      · subst session
        exact Or.inr ⟨rfl, offering⟩
      · rw [sessions_acquireSession,
          sessions_acceptClient_of_ne before own]
        exact Or.inl rfl
  | abandoned index receive completion closeFails closed _ _ givesUp =>
      exact Or.inl (connection_apply cfg
        (AsyncSessionImpl.abandon_closing givesUp.same closeFails).connection
        session)
  | headerRead index receive bytes closeFails _ _ _ _ outcome allocated =>
      refine Or.inl (connection_apply cfg ?_ session)
      rw [allocated,
        (AsyncSessionImpl.allocateBody_accepting _ _).tcpSocket]
      rfl
  | bodyRead index receive bytes closeFails _ _ _ _ _ outcome handed =>
      refine Or.inl (connection_apply cfg ?_ session)
      rw [handed]
      rfl
  | wrote => exact Or.inl rfl
  | writeDelivered => exact Or.inl rfl
  | writeFailed index write closeFails =>
      exact Or.inl (connection_apply cfg
        ((before.sessions write.session).close_closing
          closeFails).connection session)
  | closed closing closeFails =>
      exact Or.inl (connection_apply cfg
        ((before.sessions closing).close_closing closeFails).connection
        session)
  | taken => exact Or.inl rfl
  | processed => exact Or.inl rfl
  | sent => exact Or.inl rfl

/-! ## Responses -/

/-- Whether the worker may still start a write for its packet. -/
def Task.mayRespond (task : Task) : Bool :=
  match task.phase with
  | .handling => true
  | .sending none => false
  | .sending (some data) => decide (0 < data.length)

/-- The packets that may still be answered. -/
def Server.unanswered (server : Server H) : List Packet :=
  server.packetQueue ++ (server.tasks.filter Task.mayRespond).map Task.packet

/--
A session is accepted only after all packets of its earlier connections were
answered or dropped.
-/
def AnsweredBeforeReuse (before : Server H) (event : Event) : Prop :=
  event = .acceptDone false →
    ∀ packet ∈ before.unanswered,
      before.acceptor ≠ .offering packet.asyncSession

instance (before : Server H) (event : Event) :
    Decidable (AnsweredBeforeReuse before event) :=
  inferInstanceAs (Decidable (_ → _))

theorem mem_unanswered_iff {server : Server H} {packet : Packet} :
    packet ∈ server.unanswered ↔
      packet ∈ server.packetQueue ∨
        ∃ task ∈ server.tasks,
          task.mayRespond = true ∧ task.packet = packet := by
  simp [Server.unanswered, and_assoc]

theorem mem_unanswered_of_task
    {server : Server H} {index : Nat} {task : Task}
    (busy : server.tasks[index]? = some task)
    (responds : task.mayRespond = true) :
    task.packet ∈ server.unanswered :=
  mem_unanswered_iff.mpr
    (Or.inr ⟨task, List.mem_of_getElem? busy, responds, rfl⟩)

/-- The packets that a call inserted are the only new ones. -/
theorem mem_unanswered_apply
    (cfg : Config) (this : Nat) {outcome : Outcome H} {server : Server H}
    {packet : Packet}
    (member : packet ∈ (server.apply cfg this outcome).unanswered) :
    packet ∈ server.unanswered ∨ packet ∈ outcome.inserted := by
  rw [mem_unanswered_iff] at member ⊢
  rcases member with queued | busy
  · rcases List.mem_append.mp queued with old | new
    · exact Or.inl (Or.inl old)
    · exact Or.inr new
  · exact Or.inl (Or.inr busy)

theorem mem_unanswered_closing
    (cfg : Config) {this : Nat} {closeFails : Bool} {outcome : Outcome H}
    {server : Server H} {packet : Packet}
    (closing :
      AsyncSessionImpl.Closing closeFails (server.sessions this) outcome)
    (member : packet ∈ (server.apply cfg this outcome).unanswered) :
    packet ∈ server.unanswered := by
  rcases mem_unanswered_apply cfg this member with old | new
  · exact old
  · simp [closing.inserted] at new

theorem unanswered_acquireSession (cfg : Config) (server : Server H) :
    (server.acquireSession cfg).unanswered = server.unanswered := by
  obtain ⟨pool, acceptor, equal⟩ := server.acquireSession_eq cfg
  rw [equal]
  rfl

/-- A new packet carries the connection that its session serves. -/
theorem Stepped.unanswered [Header H]
    {cfg : Config} {before after : Server H} {event : Event}
    (stepped : Stepped cfg before event after)
    {packet : Packet} (member : packet ∈ after.unanswered) :
    packet ∈ before.unanswered ∨
      (event ≠ .acceptDone false ∧
        packet.connection =
          (before.sessions
            packet.asyncSession).tcpSocket.connection) := by
  cases stepped with
  | rejected =>
      rw [unanswered_acquireSession] at member
      exact Or.inl member
  | admitted =>
      rw [unanswered_acquireSession] at member
      exact Or.inl member
  | abandoned index receive completion closeFails session _ _ givesUp =>
      exact Or.inl (mem_unanswered_closing cfg
        (AsyncSessionImpl.abandon_closing givesUp.same closeFails) member)
  | headerRead index receive bytes closeFails _ _ _ _ outcome allocated =>
      rcases mem_unanswered_apply cfg receive.session member with old | new
      · exact Or.inl old
      · rw [allocated,
          (AsyncSessionImpl.allocateBody_accepting _ _).inserted] at new
        simp at new
  | bodyRead index receive bytes closeFails _ _ _ _ _ outcome handed =>
      rcases mem_unanswered_apply cfg receive.session member with old | new
      · exact Or.inl old
      · rw [handed] at new
        obtain rfl := List.mem_singleton.mp new
        exact Or.inr ⟨by simp, rfl⟩
  | wrote => exact Or.inl member
  | writeDelivered => exact Or.inl member
  | writeFailed index write closeFails =>
      exact Or.inl (mem_unanswered_closing cfg
        ((before.sessions write.session).close_closing closeFails) member)
  | closed session closeFails =>
      exact Or.inl (mem_unanswered_closing cfg
        ((before.sessions session).close_closing closeFails) member)
  | taken packet rest queued =>
      rw [mem_unanswered_iff] at member ⊢
      rw [queued]
      simp only [List.mem_append, List.mem_singleton] at member
      rcases member with waiting | ⟨task, old | rfl, responds, same⟩
      · exact Or.inl (Or.inl (List.mem_cons_of_mem _ waiting))
      · exact Or.inl (Or.inr ⟨task, old, responds, same⟩)
      · exact Or.inl (Or.inl (by simp [← same]))
  | processed index handled response busy =>
      rw [mem_unanswered_iff] at member
      rcases member with waiting | ⟨task, busy', responds, same⟩
      · exact Or.inl (mem_unanswered_iff.mpr (Or.inl waiting))
      · rcases List.mem_or_eq_of_mem_set busy' with old | rfl
        · exact Or.inl (mem_unanswered_iff.mpr
            (Or.inr ⟨task, old, responds, same⟩))
        · have handling := mem_unanswered_of_task busy rfl
          exact Or.inl (same ▸ handling)
  | sent index handled response busy =>
      rw [mem_unanswered_iff] at member
      rcases member with waiting | ⟨task, remaining, responds, same⟩
      · exact Or.inl (mem_unanswered_iff.mpr (Or.inl waiting))
      · exact Or.inl (mem_unanswered_iff.mpr (Or.inr
          ⟨task, List.mem_of_mem_eraseIdx remaining, responds, same⟩))

/-- Where the writes after a step come from. -/
theorem Stepped.writes [Header H]
    {cfg : Config} {before after : Server H} {event : Event}
    (stepped : Stepped cfg before event after)
    {write : Write} (member : write ∈ after.writes) :
    (∃ old ∈ before.writes,
        write.connection = old.connection ∧
          write.origin = old.origin) ∨
      ∃ packet ∈ before.unanswered,
        write.connection =
            (before.sessions packet.asyncSession).tcpSocket.connection ∧
          write.origin = packet.connection := by
  cases stepped with
  | rejected =>
      obtain ⟨pool, acceptor, equal⟩ := before.acquireSession_eq cfg
      rw [equal] at member
      exact Or.inl ⟨write, member, rfl, rfl⟩
  | admitted session =>
      obtain ⟨pool, acceptor, equal⟩ :=
        (before.acceptClient session).acquireSession_eq cfg
      rw [equal] at member
      exact Or.inl ⟨write, member, rfl, rfl⟩
  | abandoned => exact Or.inl ⟨write, member, rfl, rfl⟩
  | headerRead => exact Or.inl ⟨write, member, rfl, rfl⟩
  | bodyRead => exact Or.inl ⟨write, member, rfl, rfl⟩
  | wrote index count old outstanding =>
      rcases List.mem_or_eq_of_mem_set member with kept | rfl
      · exact Or.inl ⟨write, kept, rfl, rfl⟩
      · exact Or.inl ⟨old, List.mem_of_getElem? outstanding, rfl, rfl⟩
  | writeDelivered =>
      exact Or.inl ⟨write, List.mem_of_mem_eraseIdx member, rfl, rfl⟩
  | writeFailed =>
      exact Or.inl ⟨write, List.mem_of_mem_eraseIdx member, rfl, rfl⟩
  | closed => exact Or.inl ⟨write, member, rfl, rfl⟩
  | taken => exact Or.inl ⟨write, member, rfl, rfl⟩
  | processed => exact Or.inl ⟨write, member, rfl, rfl⟩
  | sent index packet response busy =>
      rcases List.mem_append.mp member with old | new
      · exact Or.inl ⟨write, old, rfl, rfl⟩
      · cases response with
        | none => simp [Server.startWrites] at new
        | some data =>
            simp only [Server.startWrites] at new
            split at new
            case isTrue nonempty =>
              obtain rfl := List.mem_singleton.mp new
              refine Or.inr ⟨packet, ?_, rfl, rfl⟩
              exact mem_unanswered_of_task busy
                (decide_eq_true nonempty)
            case isFalse => simp at new

/-- Where the written bytes after a step come from. -/
theorem Stepped.wire [Header H]
    {cfg : Config} {before after : Server H} {event : Event}
    (stepped : Stepped cfg before event after)
    {transfer : Transfer} (member : transfer ∈ after.wire) :
    transfer ∈ before.wire ∨
      ∃ write ∈ before.writes,
        transfer.connection = write.connection ∧
          transfer.origin = write.origin := by
  cases stepped with
  | rejected =>
      obtain ⟨pool, acceptor, equal⟩ := before.acquireSession_eq cfg
      rw [equal] at member
      exact Or.inl member
  | admitted session =>
      obtain ⟨pool, acceptor, equal⟩ :=
        (before.acceptClient session).acquireSession_eq cfg
      rw [equal] at member
      exact Or.inl member
  | wrote index count write outstanding =>
      rcases List.mem_append.mp member with old | new
      · exact Or.inl old
      · obtain rfl := List.mem_singleton.mp new
        exact Or.inr
          ⟨write, List.mem_of_getElem? outstanding, rfl, rfl⟩
  | _ => exact Or.inl member

/-- Packets, writes and written bytes stay with their own connection. -/
structure Addressed (server : Server H) : Prop where
  packets :
    ∀ packet ∈ server.unanswered,
      packet.connection =
        (server.sessions packet.asyncSession).tcpSocket.connection
  writes : ∀ write ∈ server.writes, write.connection = write.origin
  wire :
    ∀ transfer ∈ server.wire, transfer.connection = transfer.origin

theorem Addressed.stepped [Header H]
    {cfg : Config} {before after : Server H} {event : Event}
    (addressed : Addressed before)
    (meets : AnsweredBeforeReuse before event)
    (stepped : Stepped cfg before event after) :
    Addressed after := by
  constructor
  · intro packet member
    have known := stepped.unanswered member
    rcases stepped.connection packet.asyncSession with
      same | ⟨accepted, offering⟩
    · rw [same]
      rcases known with old | ⟨-, new⟩
      · exact addressed.packets packet old
      · exact new
    · rcases known with old | ⟨other, -⟩
      · exact absurd offering (meets accepted packet old)
      · exact absurd accepted other
  · intro write member
    rcases stepped.writes member with
      ⟨old, outstanding, connection, origin⟩ |
      ⟨packet, waiting, connection, origin⟩
    · rw [connection, origin]
      exact addressed.writes old outstanding
    · rw [connection, origin]
      exact (addressed.packets packet waiting).symm
  · intro transfer member
    rcases stepped.wire member with
      old | ⟨write, outstanding, connection, origin⟩
    · exact addressed.wire transfer old
    · rw [connection, origin]
      exact addressed.writes write outstanding

theorem start_addressed (cfg : Config) (header : H) :
    Addressed (Server.start cfg header) := by
  have fresh := Server.start_fresh cfg header
  constructor
  · simp [Server.unanswered, fresh.packetQueue, fresh.tasks]
  · simp [fresh.writes]
  · simp [fresh.wire]

/--
If no session is accepted again while a packet of an earlier connection may
still be answered, every response is written to the connection that its
packet was received on.
-/
theorem response_written_on_own_connection [Header H]
    {cfg : Config} {header : H} {events : List Event} {server : Server H}
    (run :
      RunWhere (step cfg) AnsweredBeforeReuse (Server.start cfg header)
        events server) :
    ∀ transfer ∈ server.wire, transfer.connection = transfer.origin := by
  have addressed : Addressed server := by
    refine RunWhere.invariant (fun _ => True) Addressed
      (fun _ => trivial) (start_addressed cfg header) ?_ run
    intro before event after _ held meets taken
    exact held.stepped meets (stepped_of_step taken)
  exact addressed.wire

/-- A client sends one message and leaves before it is answered. -/
def answeredLate : List Event :=
  [.acceptDone false,
    .receiveDone 0 (.received (DummyServer.headerImage 1)) false,
    .receiveDone 0 (.received (DummyServer.bodyImage 1)) false,
    .getPacketInfo, .receiveDone 0 .failed false]

/-- The other session and then the first one serve the next two clients. -/
def reaccepted : List Event :=
  [.acceptDone false, .receiveDone 0 .failed false, .acceptDone false]

/-- A worker answers its packet and a byte of the response is written. -/
def answering : List Event :=
  [.processing 0 (some [7]), .send 0, .writeSome 0 1]

/-- A client that waits for its answer, and the next one. -/
def answeredInTime : List Event :=
  [.acceptDone false,
    .receiveDone 0 (.received (DummyServer.headerImage 1)) false,
    .receiveDone 0 (.received (DummyServer.bodyImage 1)) false,
    .getPacketInfo] ++ answering ++
    [.receiveDone 0 .failed false] ++ reaccepted

theorem response_written_on_own_connection_in_time :
    ∃ server,
      RunWhere (step (DummyServer.configureIni 2)) AnsweredBeforeReuse
          (DummyServer.dummyServer 2) answeredInTime server ∧
        server.wire.length = 1 ∧
        ∀ transfer ∈ server.wire,
          transfer.connection = transfer.origin := by
  have executed :
      (execWhere (step (DummyServer.configureIni 2)) AnsweredBeforeReuse
        (DummyServer.dummyServer 2) answeredInTime).map
          (fun server => server.wire.length) = some 1 := by
    decide
  obtain ⟨server, run, written⟩ := exists_runWhere_of_map_exec executed
  exact ⟨server, run, written, response_written_on_own_connection run⟩

/-- The answer to the first client is written to the third one. -/
theorem response_written_on_later_connection :
    ∃ server,
      Run (step (DummyServer.configureIni 2)) (DummyServer.dummyServer 2)
          (answeredLate ++ reaccepted ++ answering) server ∧
        ¬ ∀ transfer ∈ server.wire,
          transfer.connection = transfer.origin := by
  have executed :
      (execWhere (step (DummyServer.configureIni 2)) (fun _ _ => True)
        (DummyServer.dummyServer 2)
        (answeredLate ++ reaccepted ++ answering)).map Server.wire =
          some [⟨3, 1, [7]⟩] := by
    decide
  obtain ⟨server, run, wire⟩ := exists_runWhere_of_map_exec executed
  exact ⟨server, run, by simp [wire]⟩

/-! ## Late completions -/

/-- The session and the connection of the operation that completes. -/
def Server.completed (server : Server H) : Event → Option (Nat × Nat)
  | .receiveDone index _ _ =>
      server.receives[index]?.map fun receive =>
        (receive.session, receive.connection)
  | .writeDone index _ _ =>
      server.writes[index]?.map fun write =>
        (write.session, write.connection)
  | _ => none

/--
The completion of an operation of an earlier connection does not close the
socket of the session, does not return the session to the pool, and does not
release a block.
-/
def LateHarmless (before : Server H) (event : Event)
    (after : Server H) : Prop :=
  ∀ session connection,
    before.completed event = some (session, connection) →
      (before.sessions session).tcpSocket.connection ≠ connection →
        (after.sessions session).tcpSocket =
            (before.sessions session).tcpSocket ∧
          after.pool = before.pool ∧
          after.ledger = before.ledger

/-- Whether the event reports an error. -/
def Event.isFailure : Event → Bool
  | .receiveDone _ .failed _ => true
  | .writeDone _ true _ => true
  | _ => false

/-- `Close` finds the session out of use and without a body block. -/
def AsyncSessionImpl.Spared (self : AsyncSessionImpl H) : Prop :=
  self.sessionPoolState ≠ .kAcquire ∧
    (self.bodyBuffer = none ∨ self.sizeOfPrevBodyBuffer = 0)

/-- An error of an operation of an earlier connection spares the session. -/
def LateSpared (before : Server H) (event : Event) : Prop :=
  ∀ session connection,
    before.completed event = some (session, connection) →
      (before.sessions session).tcpSocket.connection ≠ connection →
        event.isFailure = true → (before.sessions session).Spared

theorem closeEntries_eq_nil_iff (session : AsyncSessionImpl H) :
    session.closeEntries = [] ↔
      session.bodyBuffer = none ∨ session.sizeOfPrevBodyBuffer = 0 := by
  simp only [AsyncSessionImpl.closeEntries]
  cases buffer : session.bodyBuffer with
  | none => simp
  | some block =>
      by_cases zero : session.sizeOfPrevBodyBuffer = 0
      · simp [zero]
      · simp [zero]

/-- A session that is put back into a pool with room changes the pool. -/
theorem restore_ne_of_hasRoom
    {sizeBits session : Nat} {pool : Pool Nat}
    (room : pool.hasRoom sizeBits = true) :
    (pool.restore sizeBits (some session) false).2 ≠ pool := by
  intro same
  obtain ⟨-, appended⟩ := Pool.restore_of_hasRoom room session false
  have lengths := congrArg List.length appended
  rw [same] at lengths
  simp at lengths

/-- When a call of `Close` changes neither socket, pool nor ledger. -/
theorem apply_close_unchanged_iff
    {cfg : Config} {server : Server H} (serve : SocketsServe server)
    (sound : Custody.Sound cfg server.custody)
    (this : Nat) (closeFails : Bool) :
    (((server.close cfg this closeFails).sessions this).tcpSocket =
          (server.sessions this).tcpSocket ∧
        (server.close cfg this closeFails).pool = server.pool ∧
        (server.close cfg this closeFails).ledger = server.ledger) ↔
      (server.sessions this).Spared := by
  rw [AsyncSessionImpl.Spared, ← closeEntries_eq_nil_iff]
  cases isOpen : (server.sessions this).tcpSocket.isOpen with
  | true =>
      -- the socket is closed, also when that throws
      refine iff_of_false ?_ (fun spared => spared.1 (serve this isOpen))
      rintro ⟨socket, -, -⟩
      have closed :=
        ((server.sessions this).close_closing closeFails).tcpSocket
      rw [Server.close, sessions_apply_self, closed] at socket
      rw [← socket] at isOpen
      simp at isOpen
  | false =>
      have same :
          ({ (server.sessions this).tcpSocket with
            isOpen := false } : Socket) =
            (server.sessions this).tcpSocket := by
        rw [← isOpen]
      by_cases acquired :
          (server.sessions this).sessionPoolState = .kAcquire
      · refine iff_of_false ?_ (fun spared => spared.1 acquired)
        rintro ⟨-, pool, -⟩
        simp only [Server.close, Server.apply, AsyncSessionImpl.close,
          isOpen, Bool.false_and, Bool.false_eq_true, if_false, acquired,
          if_true] at pool
        exact restore_ne_of_hasRoom (sound.hasRoom acquired) pool
      · simp [Server.close, Server.apply, AsyncSessionImpl.close, isOpen,
          acquired, same]

/-- Bytes arrive only for the connection that the session serves. -/
theorem connection_of_permits
    {socket : Socket} {receive : Receive} {bytes : List UInt8}
    (permitted :
      Server.permits socket receive (.received bytes) = true) :
    socket.connection = receive.connection := by
  simp only [Server.permits, Bool.and_eq_true, beq_iff_eq] at permitted
  exact permitted.1.1.2

theorem apply_abandon
    (cfg : Config) (server : Server H) (this : Nat) (closeFails : Bool) :
    server.apply cfg this ((server.sessions this).abandon closeFails) =
      server.close cfg this closeFails :=
  rfl

/-- The condition on a late error, for the operation that completes. -/
theorem lateSpared_iff_of_failure
    {before : Server H} {event : Event} {session connection : Nat}
    (completed : before.completed event = some (session, connection))
    (failure : event.isFailure = true) :
    LateSpared before event ↔
      ((before.sessions session).tcpSocket.connection ≠ connection →
        (before.sessions session).Spared) := by
  simp [LateSpared, completed, failure]

theorem lateHarmless_iff_of_completed
    {before after : Server H} {event : Event} {session connection : Nat}
    (completed : before.completed event = some (session, connection)) :
    LateHarmless before event after ↔
      ((before.sessions session).tcpSocket.connection ≠ connection →
        (after.sessions session).tcpSocket =
            (before.sessions session).tcpSocket ∧
          after.pool = before.pool ∧
          after.ledger = before.ledger) := by
  simp [LateHarmless, completed]

theorem lateSpared_of_current
    {before : Server H} {event : Event} {session connection : Nat}
    (completed : before.completed event = some (session, connection))
    (current :
      (before.sessions session).tcpSocket.connection = connection) :
    LateSpared before event := by
  intro other number same late
  rw [completed, Option.some.injEq, Prod.mk.injEq] at same
  obtain ⟨rfl, rfl⟩ := same
  exact absurd current late

theorem lateHarmless_of_current
    {before after : Server H} {event : Event} {session connection : Nat}
    (completed : before.completed event = some (session, connection))
    (current :
      (before.sessions session).tcpSocket.connection = connection) :
    LateHarmless before event after :=
  (lateHarmless_iff_of_completed completed).mpr
    fun late => absurd current late

theorem completed_receiveDone
    {before : Server H} {index : Nat} {receive : Receive}
    (outstanding : before.receives[index]? = some receive)
    (completion : Completion) (closeFails : Bool) :
    before.completed (.receiveDone index completion closeFails) =
      some (receive.session, receive.connection) := by
  simp [Server.completed, outstanding]

theorem completed_writeDone
    {before : Server H} {index : Nat} {write : Write}
    (outstanding : before.writes[index]? = some write)
    (failed closeFails : Bool) :
    before.completed (.writeDone index failed closeFails) =
      some (write.session, write.connection) := by
  simp [Server.completed, outstanding]

/-- A step is harmless exactly when the session was spared. -/
theorem Stepped.lateHarmless_iff [Header H]
    {cfg : Config} {before after : Server H} {event : Event}
    (serve : SocketsServe before)
    (sound : Custody.Sound cfg before.custody)
    (stepped : Stepped cfg before event after) :
    LateHarmless before event after ↔ LateSpared before event := by
  cases stepped with
  | abandoned index receive completion closeFails session outstanding
      permitted givesUp =>
      have completed :=
        completed_receiveDone outstanding completion closeFails
      cases completion with
      | failed =>
          rw [lateHarmless_iff_of_completed completed,
            lateSpared_iff_of_failure completed rfl, givesUp.unread rfl,
            apply_abandon]
          exact imp_congr_right fun _ =>
            apply_close_unchanged_iff serve sound receive.session closeFails
      | received bytes =>
          have current := connection_of_permits permitted
          exact iff_of_true (lateHarmless_of_current completed current)
            (lateSpared_of_current completed current)
  | headerRead index receive bytes closeFails outstanding permitted =>
      have completed :=
        completed_receiveDone outstanding (.received bytes) closeFails
      have current := connection_of_permits permitted
      exact iff_of_true (lateHarmless_of_current completed current)
        (lateSpared_of_current completed current)
  | bodyRead index receive bytes closeFails outstanding permitted =>
      have completed :=
        completed_receiveDone outstanding (.received bytes) closeFails
      have current := connection_of_permits permitted
      exact iff_of_true (lateHarmless_of_current completed current)
        (lateSpared_of_current completed current)
  | writeDelivered index write closeFails outstanding =>
      have completed := completed_writeDone outstanding false closeFails
      refine iff_of_true ?_ ?_
      · rw [lateHarmless_iff_of_completed completed]
        exact fun _ => ⟨rfl, rfl, rfl⟩
      · intro session connection _ _ failure
        simp [Event.isFailure] at failure
  | writeFailed index write closeFails outstanding =>
      have completed := completed_writeDone outstanding true closeFails
      rw [lateHarmless_iff_of_completed completed,
        lateSpared_iff_of_failure completed rfl]
      exact imp_congr_right fun _ =>
        apply_close_unchanged_iff serve sound write.session closeFails
  | _ =>
      refine iff_of_true ?_ ?_
      · intro session connection completed
        simp [Server.completed] at completed
      · intro session connection completed
        simp [Server.completed] at completed

/--
Late completions are harmless throughout a run exactly when every late error
finds the session spared.
-/
theorem late_completions_harmless_iff [Header H]
    {cfg : Config} {header : H} {events : List Event} {server : Server H}
    (run : Run (step cfg) (Server.start cfg header) events server) :
    EachStep (step cfg) (Server.start cfg header) events
        (fun _ before event =>
          ∀ after, step cfg before event = some after →
            LateHarmless before event after) ↔
      EachStep (step cfg) (Server.start cfg header) events
        (fun _ before event => LateSpared before event) := by
  refine eachStep_congr run ?_
  intro earlier before event after reached taken
  rw [← (stepped_of_step taken).lateHarmless_iff (sockets_serve reached)
    (custody_sound reached)]
  constructor
  · intro harmless
    exact harmless after taken
  · intro harmless other taken'
    rw [taken, Option.some.injEq] at taken'
    subst other
    exact harmless

/-- The response to the first client is not read, and the client leaves. -/
def unread : List Event :=
  [.acceptDone false,
    .receiveDone 0 (.received (DummyServer.headerImage 1)) false,
    .receiveDone 0 (.received (DummyServer.bodyImage 1)) false,
    .getPacketInfo, .processing 0 (some [7]), .send 0,
    .receiveDone 0 .failed false]

theorem late_completions_harmless_iff_unread :
    ∃ server,
      Run (step (DummyServer.configureIni 2)) (DummyServer.dummyServer 2)
          (unread ++ reaccepted) server ∧
        (EachStep (step (DummyServer.configureIni 2))
            (DummyServer.dummyServer 2) (unread ++ reaccepted)
            (fun _ before event =>
              ∀ after,
                step (DummyServer.configureIni 2) before event =
                    some after →
                  LateHarmless before event after) ↔
          EachStep (step (DummyServer.configureIni 2))
            (DummyServer.dummyServer 2) (unread ++ reaccepted)
            (fun _ before event => LateSpared before event)) := by
  have executed :
      (execWhere (step (DummyServer.configureIni 2)) (fun _ _ => True)
        (DummyServer.dummyServer 2) (unread ++ reaccepted)).isSome =
          true := by
    decide
  obtain ⟨server, run⟩ := exists_runWhere_of_exec executed
  exact ⟨server, run, late_completions_harmless_iff run⟩

/--
The failure of the write to the first client closes the connection of the
third one.
-/
theorem late_write_failure_closes_later_connection :
    ∃ before after,
      Run (step (DummyServer.configureIni 2)) (DummyServer.dummyServer 2)
          (unread ++ reaccepted) before ∧
        step (DummyServer.configureIni 2) before
            (.writeDone 0 true false) = some after ∧
        ¬ LateHarmless before (.writeDone 0 true false) after := by
  have executed :
      (execWhere (step (DummyServer.configureIni 2)) (fun _ _ => True)
        (DummyServer.dummyServer 2) (unread ++ reaccepted)).map
          (fun server =>
            (server.completed (.writeDone 0 true false),
              (server.sessions 0).tcpSocket,
              (step (DummyServer.configureIni 2) server
                (.writeDone 0 true false)).map fun after =>
                  (after.sessions 0).tcpSocket)) =
        some (some (0, 1), ⟨true, 3⟩, some ⟨false, 3⟩) := by
    decide
  obtain ⟨before, run, values⟩ := exists_runWhere_of_map_exec executed
  simp only [Prod.mk.injEq] at values
  obtain ⟨completed, socket, next⟩ := values
  obtain ⟨after, taken, closed⟩ := Option.map_eq_some_iff.mp next
  refine ⟨before, after, run, taken, ?_⟩
  intro harmless
  have kept := (harmless 0 1 completed (by simp [socket])).1
  rw [closed, socket] at kept
  simp at kept

end LibSklt.Net
