import LibSklt.Foundation.Streams
import LibSklt.Net.ReceiveOperations

/-!
# Responses of one connection

The receive coroutine of a session runs in its strand, but `SendProcess`
starts an `async_write` from the worker's thread, and nothing waits for the
write before it.  When two workers answer packets of one connection, two
writes are outstanding on one socket, and their pieces may alternate.

`Server.sends` tells which write a step starts, and the runs are considered
together with the record of these writes.  If every response is sent only
after the responses before it were written, what the peer receives consists
of whole responses.
-/

namespace LibSklt.Net

open LibSklt.Foundation.Streams
open LibSklt.Foundation.Transition

variable {H : Type}

/-! ## What a connection carries -/

/-- The bytes that were written to a connection. -/
def stream (connection : Nat) (wire : List Transfer) : List UInt8 :=
  (wire.filter fun transfer => transfer.connection == connection).flatMap
    Transfer.bytes

/-- The responses whose writes were started on a connection. -/
def responses (connection : Nat) (sent : List Write) :
    List (List UInt8) :=
  (sent.filter fun write => write.connection == connection).map
    Write.remaining

/-- What is left of the outstanding writes on a connection. -/
def unfinished (connection : Nat) (writes : List Write) :
    List (List UInt8) :=
  (responses connection writes).filter fun part => !part.isEmpty

/-- The write that a step starts. -/
def Server.sends (server : Server H) : Event → List Write
  | .send index =>
      match server.tasks[index]? with
      | some ⟨packet, .sending response⟩ =>
          server.startWrites packet response
      | _ => []
  | _ => []

/--
`Send` is called on an open connection only after every byte of the
responses sent on it before was written.
-/
def SentInTurn (state : Server H × List Write) (event : Event) : Prop :=
  ∀ write ∈ state.1.sends event,
    (state.1.sessions write.session).tcpSocket.isOpen = true →
      (stream write.connection state.1.wire).length =
        (responses write.connection state.2).flatten.length

instance (state : Server H × List Write) (event : Event) :
    Decidable (SentInTurn state event) :=
  inferInstanceAs (Decidable (∀ write ∈ state.1.sends event, _ → _))

@[simp]
theorem stream_nil (connection : Nat) : stream connection [] = [] :=
  rfl

theorem stream_append (connection : Nat) (first second : List Transfer) :
    stream connection (first ++ second) =
      stream connection first ++ stream connection second := by
  simp [stream]

@[simp]
theorem responses_nil (connection : Nat) : responses connection [] = [] :=
  rfl

theorem responses_append (connection : Nat) (first second : List Write) :
    responses connection (first ++ second) =
      responses connection first ++ responses connection second := by
  simp [responses]

theorem unfinished_append (connection : Nat) (first second : List Write) :
    unfinished connection (first ++ second) =
      unfinished connection first ++ unfinished connection second := by
  simp [unfinished, responses_append]

theorem stream_eq_nil
    {connection : Nat} {wire : List Transfer}
    (unused : ∀ transfer ∈ wire, transfer.connection ≠ connection) :
    stream connection wire = [] := by
  rw [stream, List.filter_eq_nil_iff.mpr, List.flatMap_nil]
  intro transfer member
  simpa using unused transfer member

theorem responses_eq_nil
    {connection : Nat} {sent : List Write}
    (unused : ∀ write ∈ sent, write.connection ≠ connection) :
    responses connection sent = [] := by
  rw [responses, List.filter_eq_nil_iff.mpr, List.map_nil]
  intro write member
  simpa using unused write member

theorem unfinished_cons_self
    {write : Write} (nonempty : write.remaining ≠ [])
    (rest : List Write) :
    unfinished write.connection (write :: rest) =
      write.remaining :: unfinished write.connection rest := by
  simp [unfinished, responses, nonempty]

theorem unfinished_cons_of_ne
    {connection : Nat} {write : Write}
    (other : write.connection ≠ connection) (rest : List Write) :
    unfinished connection (write :: rest) =
      unfinished connection rest := by
  simp [unfinished, responses, other]

theorem unfinished_cons_sublist
    (connection : Nat) (write : Write) (rest : List Write) :
    (unfinished connection (write :: rest)).Sublist
      (write.remaining :: unfinished connection rest) := by
  by_cases other : write.connection = connection
  · subst connection
    by_cases nonempty : write.remaining = []
    · simp [unfinished, responses, nonempty]
    · rw [unfinished_cons_self nonempty]
  · rw [unfinished_cons_of_ne other]
    exact List.sublist_cons_self _ _

theorem ne_nil_of_mem_unfinished
    {connection : Nat} {writes : List Write} {part : List UInt8}
    (member : part ∈ unfinished connection writes) : part ≠ [] := by
  simpa using (List.mem_filter.mp member).2

theorem unfinished_sublist
    (connection : Nat) {fewer writes : List Write}
    (remaining : fewer.Sublist writes) :
    (unfinished connection fewer).Sublist
      (unfinished connection writes) :=
  ((remaining.filter _).map _).filter _

/-! ## What a step does to the responses -/

/-- What a step does to the outstanding writes and the written bytes. -/
inductive Traffic (before : Server H) (event : Event)
    (after : Server H) : Prop where
  | quiet
      (writes : after.writes.Sublist before.writes)
      (wire : after.wire = before.wire)
      (silent : before.sends event = [])
  | began (write : Write)
      (sends : before.sends event = [write])
      (nonempty : write.remaining ≠ [])
      (own :
        (before.sessions write.session).tcpSocket.connection =
          write.connection)
      (sessions : after.sessions = before.sessions)
      (accepted : after.accepted = before.accepted)
      (writes : after.writes = before.writes ++ [write])
      (wire : after.wire = before.wire)
  | moved (front back : List Write) (write : Write)
      (piece more : List UInt8)
      (silent : before.sends event = [])
      (parts : write.remaining = piece ++ more)
      (positive : piece ≠ [])
      (isOpen : (before.sessions write.session).tcpSocket.isOpen = true)
      (own :
        (before.sessions write.session).tcpSocket.connection =
          write.connection)
      (sessions : after.sessions = before.sessions)
      (accepted : after.accepted = before.accepted)
      (outstanding : before.writes = front ++ write :: back)
      (writes :
        after.writes = front ++ { write with remaining := more } :: back)
      (wire :
        after.wire =
          before.wire ++ [⟨write.connection, write.origin, piece⟩])

theorem Stepped.traffic [Header H]
    {cfg : Config} {before after : Server H} {event : Event}
    (stepped : Stepped cfg before event after) :
    Traffic before event after := by
  cases stepped with
  | rejected =>
      obtain ⟨pool, acceptor, equal⟩ := before.acquireSession_eq cfg
      rw [equal]
      exact .quiet (.refl _) rfl rfl
  | admitted session =>
      obtain ⟨pool, acceptor, equal⟩ :=
        (before.acceptClient session).acquireSession_eq cfg
      rw [equal]
      exact .quiet (.refl _) rfl rfl
  | abandoned => exact .quiet (.refl _) rfl rfl
  | headerRead => exact .quiet (.refl _) rfl rfl
  | bodyRead => exact .quiet (.refl _) rfl rfl
  | wrote index count write outstanding isOpen own positive bounded =>
      obtain ⟨inside, here⟩ := List.getElem?_eq_some_iff.mp outstanding
      obtain ⟨front, back, split, -, replaced⟩ :=
        @List.exists_of_set _ index
          { write with remaining := write.remaining.drop count }
          before.writes inside
      rw [here] at split
      refine .moved front back write (write.remaining.take count)
        (write.remaining.drop count) rfl
        (List.take_append_drop _ _).symm ?_ isOpen own rfl rfl split
        replaced rfl
      intro empty
      have short := congrArg List.length empty
      rw [List.length_take, List.length_nil] at short
      omega
  | writeDelivered index =>
      exact .quiet (List.eraseIdx_sublist _ index) rfl rfl
  | writeFailed index =>
      exact .quiet (List.eraseIdx_sublist _ index) rfl rfl
  | closed => exact .quiet (.refl _) rfl rfl
  | taken => exact .quiet (.refl _) rfl rfl
  | processed => exact .quiet (.refl _) rfl rfl
  | sent index packet response busy =>
      have sends :
          before.sends (.send index) =
            before.startWrites packet response := by
        simp [Server.sends, busy]
      by_cases responds :
          ∃ data, response = some data ∧ data.length > 0
      · obtain ⟨data, rfl, nonempty⟩ := responds
        simp only [Server.startWrites, if_pos nonempty] at sends ⊢
        exact .began _ sends (List.ne_nil_of_length_pos nonempty) rfl rfl
          rfl rfl rfl
      · have none : before.startWrites packet response = [] := by
          cases response with
          | none => rfl
          | some data =>
              exact if_neg fun nonempty => responds ⟨data, rfl, nonempty⟩
        rw [none] at sends ⊢
        exact .quiet (by simp) rfl sends

/-! ## The connections of the sockets -/

/-- The connection is the same one, and it was not opened again. -/
def Kept (before after : Socket) : Prop :=
  after.connection = before.connection ∧
    (after.isOpen = true → before.isOpen = true)

theorem kept_of_eq {before after : Socket} (same : after = before) :
    Kept before after := by
  subst same
  exact ⟨rfl, id⟩

theorem kept_of_closing
    {closeFails : Bool} {session : AsyncSessionImpl H} {outcome : Outcome H}
    (closing : AsyncSessionImpl.Closing closeFails session outcome) :
    Kept session.tcpSocket outcome.session.tcpSocket := by
  rw [closing.tcpSocket]
  exact ⟨rfl, by simp⟩

theorem kept_apply
    (cfg : Config) {this : Nat} {outcome : Outcome H} {server : Server H}
    (own :
      Kept (server.sessions this).tcpSocket outcome.session.tcpSocket)
    (session : Nat) :
    Kept (server.sessions session).tcpSocket
      ((server.apply cfg this outcome).sessions session).tcpSocket := by
  by_cases same : session = this
  · subst session
    rw [sessions_apply_self]
    exact own
  · rw [sessions_apply_of_ne cfg server outcome same]
    exact kept_of_eq rfl

/-- Only a successful accept opens a socket, and its connection is new. -/
theorem Stepped.socket [Header H]
    {cfg : Config} {before after : Server H} {event : Event}
    (stepped : Stepped cfg before event after) (session : Nat) :
    Kept (before.sessions session).tcpSocket
        (after.sessions session).tcpSocket ∨
      (before.acceptor = .offering session ∧
        (after.sessions session).tcpSocket.connection =
          before.accepted + 1 ∧
        after.accepted = before.accepted + 1) := by
  cases stepped with
  | rejected =>
      rw [sessions_acquireSession]
      exact Or.inl (kept_of_eq rfl)
  | admitted offered offering =>
      by_cases own : session = offered
      · subst session
        obtain ⟨pool, acceptor, equal⟩ :=
          (before.acceptClient offered).acquireSession_eq cfg
        rw [equal]
        refine Or.inr ⟨offering, ?_, rfl⟩
        rw [sessions_acceptClient_self]
        rfl
      · rw [sessions_acquireSession,
          sessions_acceptClient_of_ne before own]
        exact Or.inl (kept_of_eq rfl)
  | abandoned index receive completion closeFails closed _ _ givesUp =>
      exact Or.inl (kept_apply cfg (kept_of_closing
        (AsyncSessionImpl.abandon_closing givesUp.same closeFails)) session)
  | headerRead index receive bytes closeFails _ _ _ _ outcome allocated =>
      refine Or.inl (kept_apply cfg (kept_of_eq ?_) session)
      rw [allocated,
        (AsyncSessionImpl.allocateBody_accepting _ _).tcpSocket]
      rfl
  | bodyRead index receive bytes closeFails _ _ _ _ _ outcome handed =>
      refine Or.inl (kept_apply cfg (kept_of_eq ?_) session)
      rw [handed]
      rfl
  | writeFailed index write closeFails =>
      exact Or.inl (kept_apply cfg (kept_of_closing
        ((before.sessions write.session).close_closing closeFails)) session)
  | closed closing closeFails =>
      exact Or.inl (kept_apply cfg (kept_of_closing
        ((before.sessions closing).close_closing closeFails)) session)
  | _ => exact Or.inl (kept_of_eq rfl)

/--
Every connection number in use was given out, and an open connection belongs
to one session.
-/
structure Owned (server : Server H) : Prop where
  sessions :
    ∀ session,
      (server.sessions session).tcpSocket.connection ≤ server.accepted
  writes : ∀ write ∈ server.writes, write.connection ≤ server.accepted
  wire :
    ∀ transfer ∈ server.wire, transfer.connection ≤ server.accepted
  owner :
    ∀ session other,
      (server.sessions session).tcpSocket.isOpen = true →
        (server.sessions other).tcpSocket.connection =
            (server.sessions session).tcpSocket.connection →
          other = session

theorem Owned.stepped [Header H]
    {cfg : Config} {before after : Server H} {event : Event}
    (owned : Owned before)
    (stepped : Stepped cfg before event after) :
    Owned after := by
  have grows := stepped.accepted_le
  constructor
  · intro session
    rcases stepped.socket session with ⟨same, -⟩ | ⟨-, number, count⟩
    · rw [same]
      exact (owned.sessions session).trans grows
    · rw [number, count]
  · intro write member
    rcases stepped.writes member with
      ⟨old, outstanding, same, -⟩ | ⟨packet, -, same, -⟩
    · rw [same]
      exact (owned.writes old outstanding).trans grows
    · rw [same]
      exact (owned.sessions packet.asyncSession).trans grows
  · intro transfer member
    rcases stepped.wire member with old | ⟨write, outstanding, same, -⟩
    · exact (owned.wire transfer old).trans grows
    · rw [same]
      exact (owned.writes write outstanding).trans grows
  · intro session other isOpen same
    have below := owned.sessions session
    have below' := owned.sessions other
    rcases stepped.socket session with
      ⟨kept, opened⟩ | ⟨offering, number, -⟩ <;>
    rcases stepped.socket other with
      ⟨kept', -⟩ | ⟨offering', number', -⟩
    · rw [kept, kept'] at same
      exact owned.owner session other (opened isOpen) same
    · omega
    · omega
    · rw [offering] at offering'
      cases offering'
      rfl

theorem owned [Header H]
    {cfg : Config} {header : H} {events : List Event} {server : Server H}
    (run : Run (step cfg) (Server.start cfg header) events server) :
    Owned server := by
  refine Run.invariant Owned ?_ ?_ run
  · have fresh := Server.start_fresh cfg header
    constructor
    · intro session
      rw [start_sessions]
      exact Nat.zero_le _
    · simp [fresh.writes]
    · simp [fresh.wire]
    · intro session other isOpen
      rw [start_sessions] at isOpen
      simp [AsyncSessionImpl.make] at isOpen
  · intro before event after held taken
    exact held.stepped (stepped_of_step taken)

/-! ## Responses in turn -/

/--
What was written to a connection is a beginning of the responses sent on it,
and while it is open its responses take turns.
-/
structure Orderly (state : Server H × List Write) : Prop where
  numbered :
    ∀ write ∈ state.2, write.connection ≤ state.1.accepted
  written :
    ∀ connection,
      stream connection state.1.wire <+:
        (responses connection state.2).flatten
  turn :
    ∀ session connection,
      (state.1.sessions session).tcpSocket = ⟨true, connection⟩ →
        InTurn (responses connection state.2)
          (stream connection state.1.wire)
          (unfinished connection state.1.writes)

section

variable {before after : Server H} {sent : List Write}

/-- Nothing was sent on a connection that is not yet accepted. -/
theorem Orderly.inTurn_of_accepted_lt
    (orderly : Orderly (before, sent)) (owned : Owned before)
    {connection : Nat} (above : before.accepted < connection)
    {writes : List Write} (fewer : writes.Sublist before.writes) :
    InTurn (responses connection sent)
      (stream connection before.wire) (unfinished connection writes) := by
  have unsent : responses connection sent = [] := by
    apply responses_eq_nil
    intro write member
    have below := orderly.numbered write member
    dsimp only at below
    omega
  have unwritten : stream connection before.wire = [] := by
    apply stream_eq_nil
    intro transfer member
    have below := owned.wire transfer member
    omega
  have idle : unfinished connection writes = [] := by
    rw [unfinished, responses_eq_nil, List.filter_nil]
    intro write member
    have below := owned.writes write (fewer.subset member)
    omega
  rw [unsent, unwritten, idle]
  exact inTurn_nil

/-- A step that neither starts a write nor transfers bytes. -/
theorem Orderly.quiet [Header H]
    {cfg : Config} {event : Event}
    (orderly : Orderly (before, sent)) (owned : Owned before)
    (stepped : Stepped cfg before event after)
    (writes : after.writes.Sublist before.writes)
    (wire : after.wire = before.wire) :
    Orderly (after, sent) := by
  refine ⟨?_, ?_, ?_⟩
  · intro write member
    exact (orderly.numbered write member).trans stepped.accepted_le
  · intro connection
    rw [wire]
    exact orderly.written connection
  · intro session connection socket
    dsimp only at socket ⊢
    rw [wire]
    rcases stepped.socket session with ⟨same, opened⟩ | ⟨-, number, -⟩
    · have before_socket :
          (before.sessions session).tcpSocket = ⟨true, connection⟩ := by
        rw [socket] at same opened
        cases here : (before.sessions session).tcpSocket with
        | mk isOpen serving =>
            rw [here] at same opened
            cases opened rfl
            cases same
            rfl
      exact (orderly.turn session connection before_socket).sublist
        (unfinished_sublist connection writes)
    · rw [socket] at number
      refine orderly.inTurn_of_accepted_lt owned ?_ writes
      dsimp only at number
      omega

/-- A write is started. -/
theorem Orderly.began
    {event : Event} {write : Write}
    (orderly : Orderly (before, sent)) (owned : Owned before)
    (meets : SentInTurn (before, sent) event)
    (accepted : after.accepted = before.accepted)
    (sends : before.sends event = [write])
    (nonempty : write.remaining ≠ [])
    (own :
      (before.sessions write.session).tcpSocket.connection =
        write.connection)
    (sessions : after.sessions = before.sessions)
    (writes : after.writes = before.writes ++ [write])
    (wire : after.wire = before.wire) :
    Orderly (after, sent ++ [write]) := by
  refine ⟨?_, ?_, ?_⟩
  · intro other member
    dsimp only at member ⊢
    rw [accepted]
    rcases List.mem_append.mp member with old | new
    · exact orderly.numbered other old
    · obtain rfl := List.mem_singleton.mp new
      rw [← own]
      exact owned.sessions other.session
  · intro connection
    dsimp only
    rw [wire, responses_append, List.flatten_append]
    exact (orderly.written connection).trans (List.prefix_append _ _)
  · intro session connection socket
    dsimp only at socket ⊢
    rw [sessions] at socket
    have turn := orderly.turn session connection socket
    rw [wire, writes, responses_append, unfinished_append]
    by_cases same : write.connection = connection
    · -- An open connection belongs to one session, so the new write is on
      -- this socket and the side condition applies.
      subst connection
      obtain rfl : write.session = session := by
        refine owned.owner session write.session ?_ ?_
        · rw [socket]
        · rw [socket]
          exact own
      have settled :=
        meets write (by simp [sends]) (by rw [socket])
      have begun :=
        turn.begin (fun _ => ne_nil_of_mem_unfinished) settled
          write.remaining
      simpa [responses, unfinished, nonempty] using begun
    · have elsewhere : responses connection [write] = [] := by
        apply responses_eq_nil
        simpa using same
      rw [unfinished, unfinished, elsewhere]
      simpa [unfinished] using turn

/-- Bytes of a response are transferred. -/
theorem Orderly.moved
    {front back : List Write} {write : Write} {piece more : List UInt8}
    (orderly : Orderly (before, sent))
    (accepted : after.accepted = before.accepted)
    (parts : write.remaining = piece ++ more)
    (positive : piece ≠ [])
    (isOpen : (before.sessions write.session).tcpSocket.isOpen = true)
    (own :
      (before.sessions write.session).tcpSocket.connection =
        write.connection)
    (sessions : after.sessions = before.sessions)
    (outstanding : before.writes = front ++ write :: back)
    (writes :
      after.writes = front ++ { write with remaining := more } :: back)
    (wire :
      after.wire =
        before.wire ++ [⟨write.connection, write.origin, piece⟩]) :
    Orderly (after, sent) := by
  have turn :
      InTurn (responses write.connection sent)
        (stream write.connection after.wire)
        (unfinished write.connection after.writes) := by
    have socket :
        (before.sessions write.session).tcpSocket =
          ⟨true, write.connection⟩ := by
      rw [← isOpen, ← own]
    have turn := orderly.turn write.session write.connection socket
    dsimp only at turn
    have here :
        unfinished write.connection before.writes =
          unfinished write.connection front ++
            (piece ++ more) :: unfinished write.connection back := by
      rw [outstanding, unfinished_append, unfinished_cons_self, parts]
      simp [parts, positive]
    rw [here] at turn
    have written :
        stream write.connection after.wire =
          stream write.connection before.wire ++ piece := by
      rw [wire, stream_append]
      simp [stream]
    rw [written]
    apply turn.transfer
    rw [writes, unfinished_append]
    exact (unfinished_cons_sublist write.connection _ back).append_left _
  have elsewhere :
      ∀ connection, write.connection ≠ connection →
        stream connection after.wire = stream connection before.wire ∧
          unfinished connection after.writes =
            unfinished connection before.writes := by
    intro connection other
    constructor
    · rw [wire, stream_append]
      simp [stream, other]
    · have kept :
          ({ write with remaining := more } : Write).connection ≠
            connection := other
      rw [writes, outstanding, unfinished_append, unfinished_append,
        unfinished_cons_of_ne other, unfinished_cons_of_ne kept]
  refine ⟨?_, ?_, ?_⟩
  · intro other member
    dsimp only
    rw [accepted]
    exact orderly.numbered other member
  · intro connection
    by_cases same : write.connection = connection
    · subst connection
      exact turn.isPrefix
    · dsimp only
      rw [(elsewhere connection same).1]
      exact orderly.written connection
  · intro session connection socket
    by_cases same : write.connection = connection
    · subst connection
      exact turn
    · dsimp only at socket ⊢
      rw [(elsewhere connection same).1, (elsewhere connection same).2]
      rw [sessions] at socket
      exact orderly.turn session connection socket

end

theorem Orderly.stepped [Header H]
    {cfg : Config} {state : Server H × List Write} {after : Server H}
    {event : Event}
    (orderly : Orderly state) (owned : Owned state.1)
    (meets : SentInTurn state event)
    (stepped : Stepped cfg state.1 event after) :
    Orderly (after, state.2 ++ state.1.sends event) := by
  obtain ⟨before, sent⟩ := state
  cases stepped.traffic with
  | quiet writes wire silent =>
      rw [silent, List.append_nil]
      exact orderly.quiet owned stepped writes wire
  | began write sends nonempty own sessions accepted writes wire =>
      rw [sends]
      exact orderly.began owned meets accepted sends nonempty own sessions
        writes wire
  | moved front back write piece more silent parts positive isOpen own
      sessions accepted outstanding writes wire =>
      rw [silent, List.append_nil]
      exact orderly.moved accepted parts positive isOpen own sessions
        outstanding writes wire

/--
If every response is sent after the responses before it were written, each
connection carries whole responses.
-/
theorem responses_whole [Header H]
    {cfg : Config} {header : H} {events : List Event}
    {state : Server H × List Write}
    (run :
      RunWhere (recorded (step cfg) Server.sends) SentInTurn
        (Server.start cfg header, []) events state)
    (connection : Nat) :
    Whole (responses connection state.2)
      (stream connection state.1.wire) := by
  have orderly : Orderly state := by
    refine RunWhere.invariant (fun state => Owned state.1) Orderly
      ?_ ?_ ?_ run
    · intro earlier state run
      exact owned (exists_recorded_iff.mp ⟨state.2, run⟩)
    · have fresh := Server.start_fresh cfg header
      refine ⟨by simp, ?_, ?_⟩
      · intro connection
        simp [fresh.wire]
      · intro session connection socket
        rw [start_sessions] at socket
        simp [AsyncSessionImpl.make] at socket
    · intro before event after known held meets taken
      obtain ⟨taken, record⟩ := recorded_eq_some_iff.mp taken
      have next := held.stepped known meets (stepped_of_step taken)
      rw [← record] at next
      exact next
  exact whole_of_isPrefix (orderly.written connection)

/-- A client sends two messages, and two workers take them. -/
def pipelined : List Event :=
  [.acceptDone false,
    .receiveDone 0 (.received (DummyServer.headerImage 1)) false,
    .receiveDone 0 (.received (DummyServer.bodyImage 1)) false,
    .receiveDone 0 (.received (DummyServer.headerImage 1)) false,
    .receiveDone 0 (.received (DummyServer.bodyImage 1)) false,
    .getPacketInfo, .getPacketInfo,
    .processing 0 (some [1, 2]), .processing 1 (some [3, 4])]

/-- The second response is sent after the first one was written. -/
def sentInTurn : List Event :=
  pipelined ++
    [Event.send 0, Event.writeSome 0 1, Event.writeSome 0 1, Event.send 0,
      Event.writeSome 1 1]

theorem responses_whole_in_turn :
    ∃ state,
      RunWhere
          (recorded (step (DummyServer.configureIni 2)) Server.sends)
          SentInTurn (DummyServer.dummyServer 2, []) sentInTurn state ∧
        stream 1 state.1.wire = [1, 2, 3] ∧
        Whole (responses 1 state.2) (stream 1 state.1.wire) := by
  have executed :
      (execWhere
        (recorded (step (DummyServer.configureIni 2)) Server.sends)
        SentInTurn (DummyServer.dummyServer 2, []) sentInTurn).map
          (fun state => stream 1 state.1.wire) = some [1, 2, 3] := by
    decide +kernel
  obtain ⟨state, run, written⟩ := exists_runWhere_of_map_exec executed
  exact ⟨state, run, written, responses_whole run 1⟩

/-- Both workers send, and the two writes transfer bytes in alternation. -/
def alternating : List Event :=
  pipelined ++
    [Event.send 0, Event.send 0, Event.writeSome 0 1, Event.writeSome 1 1,
      Event.writeSome 0 1, Event.writeSome 1 1]

theorem not_whole_alternating :
    ¬ Whole [[1, 2], [3, 4]] ([1, 3, 2, 4] : List UInt8) := by
  rintro ⟨finished, others, last, all, split, part⟩
  have known :
      ∀ message ∈ finished ++ others,
        message = [1, 2] ∨ message = [3, 4] := by
    intro message member
    simpa using all.subset member
  cases finished with
  | nil =>
      rw [List.flatten_nil, List.nil_append] at split
      subst split
      rcases part with empty | ⟨message, member, within⟩
      · simp at empty
      · have short := within.length_le
        rcases known message member with rfl | rfl <;> simp at short
  | cons first more =>
      rcases known first (by simp) with rfl | rfl <;> simp at split

/-- The bytes of two responses are mixed on one connection. -/
theorem responses_mixed :
    ∃ state,
      Run (recorded (step (DummyServer.configureIni 2)) Server.sends)
          (DummyServer.dummyServer 2, []) alternating state ∧
        ¬ Whole (responses 1 state.2) (stream 1 state.1.wire) := by
  have executed :
      (execWhere
        (recorded (step (DummyServer.configureIni 2)) Server.sends)
        (fun _ _ => True) (DummyServer.dummyServer 2, [])
        alternating).map
          (fun state =>
            (responses 1 state.2, stream 1 state.1.wire)) =
        some ([[1, 2], [3, 4]], [1, 3, 2, 4]) := by
    decide +kernel
  obtain ⟨state, run, values⟩ := exists_runWhere_of_map_exec executed
  rw [Prod.mk.injEq] at values
  refine ⟨state, run, ?_⟩
  rw [values.1, values.2]
  exact not_whole_alternating

end LibSklt.Net
