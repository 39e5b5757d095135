import LibSklt.Net.Dispatch

/-!
# Peers in lock step

A peer is in lock step if it sends a message only when all its earlier
messages were answered and all the answers were written.  However many
workers there are and whatever other peers do, such a peer receives the
answers to its messages in the order of the messages, one behind the other,
and nothing else.  So the server is, for this peer, a function that is
applied to the messages of the reference decoder.

The results need that no session is accepted again while a packet of an
earlier connection is unanswered, as the isolation of connections does.
-/

namespace LibSklt.Net

open LibSklt.Foundation.Framing
open LibSklt.Foundation.Services
open LibSklt.Foundation.Streams
open LibSklt.Foundation.Transition
open LibSklt.Handler

variable {H : Type}

/-! ## One connection whose responses take turns -/

/--
What was written to the connection is a beginning of the messages, and while
it is open the messages take turns.
-/
structure Turned (connection : Nat) (messages : List (List UInt8))
    (server : Server H) : Prop where
  unused : server.accepted < connection → messages.flatten = []
  written : stream connection server.wire <+: messages.flatten
  turn :
    ∀ session,
      (server.sessions session).tcpSocket = ⟨true, connection⟩ →
        InTurn messages (stream connection server.wire)
          (unfinished connection server.writes)

variable {connection : Nat} {messages : List (List UInt8)}

theorem Turned.congr
    {others : List (List UInt8)} {server : Server H}
    (turned : Turned connection messages server)
    (same : others.flatten = messages.flatten) :
    Turned connection others server where
  unused above := same.trans (turned.unused above)
  written := by
    rw [same]
    exact turned.written
  turn session socket := (turned.turn session socket).congr same

section

variable {before after : Server H} {event : Event}

/-- An open socket was open before, or its connection is new. -/
theorem Stepped.open_socket [Header H]
    {cfg : Config} (stepped : Stepped cfg before event after)
    {session : Nat}
    (socket : (after.sessions session).tcpSocket = ⟨true, connection⟩) :
    (before.sessions session).tcpSocket = ⟨true, connection⟩ ∨
      before.accepted < connection := by
  rcases stepped.socket session with ⟨same, opened⟩ | ⟨-, number, -⟩
  · left
    rw [socket] at same opened
    cases here : (before.sessions session).tcpSocket with
    | mk isOpen serving =>
        rw [here] at same opened
        cases opened rfl
        cases same
        rfl
  · right
    rw [socket] at number
    dsimp only at number
    omega

/-- A step that neither starts a write nor transfers bytes. -/
theorem Turned.quiet [Header H]
    {cfg : Config} (turned : Turned connection messages before)
    (owned : Owned before) (stepped : Stepped cfg before event after)
    (writes : after.writes.Sublist before.writes)
    (wire : after.wire = before.wire) :
    Turned connection messages after := by
  refine ⟨?_, ?_, ?_⟩
  · intro above
    exact turned.unused (Nat.lt_of_le_of_lt stepped.accepted_le above)
  · rw [wire]
    exact turned.written
  · intro session socket
    rw [wire]
    rcases stepped.open_socket socket with same | above
    · exact (turned.turn session same).sublist
        (unfinished_sublist connection writes)
    · have unwritten : stream connection before.wire = [] := by
        apply stream_eq_nil
        intro transfer member
        have below := owned.wire transfer member
        omega
      have idle : unfinished connection after.writes = [] := by
        rw [unfinished, responses_eq_nil, List.filter_nil]
        intro write member
        have below := owned.writes write (writes.subset member)
        omega
      rw [unwritten, idle]
      exact ⟨[], turned.unused above, List.nil_sublist _⟩

/-- A write is started. -/
theorem Turned.began
    {write : Write}
    (turned : Turned connection messages before) (owned : Owned before)
    (settled :
      write.connection = connection →
        (stream connection before.wire).length = messages.flatten.length)
    (nonempty : write.remaining ≠ [])
    (own :
      (before.sessions write.session).tcpSocket.connection =
        write.connection)
    (sessions : after.sessions = before.sessions)
    (accepted : after.accepted = before.accepted)
    (writes : after.writes = before.writes ++ [write])
    (wire : after.wire = before.wire) :
    Turned connection (messages ++ responses connection [write])
      after := by
  by_cases same : write.connection = connection
  · have message :
        responses connection [write] = [write.remaining] := by
      simp [responses, same]
    rw [message]
    refine ⟨?_, ?_, ?_⟩
    · intro above
      have below := owned.sessions write.session
      omega
    · rw [wire, List.flatten_append]
      exact turned.written.trans (List.prefix_append _ _)
    · intro session socket
      rw [sessions] at socket
      rw [wire, writes, unfinished_append]
      have begun :=
        (turned.turn session socket).begin
          (fun _ => ne_nil_of_mem_unfinished) (settled same)
          write.remaining
      simpa [responses, unfinished, same, nonempty] using begun
  · have none : responses connection [write] = [] := by
      simp [responses, same]
    rw [none, List.append_nil]
    refine ⟨?_, ?_, ?_⟩
    · rw [accepted]
      exact turned.unused
    · rw [wire]
      exact turned.written
    · intro session socket
      rw [sessions] at socket
      rw [wire, writes, unfinished_append, unfinished, unfinished, none]
      simpa [unfinished] using turned.turn session socket

/-- Bytes of a response are transferred. -/
theorem Turned.moved
    {front back : List Write} {write : Write} {piece more : List UInt8}
    (turned : Turned connection messages before)
    (parts : write.remaining = piece ++ more)
    (positive : piece ≠ [])
    (isOpen : (before.sessions write.session).tcpSocket.isOpen = true)
    (own :
      (before.sessions write.session).tcpSocket.connection =
        write.connection)
    (sessions : after.sessions = before.sessions)
    (accepted : after.accepted = before.accepted)
    (outstanding : before.writes = front ++ write :: back)
    (writes :
      after.writes = front ++ { write with remaining := more } :: back)
    (wire :
      after.wire =
        before.wire ++ [⟨write.connection, write.origin, piece⟩]) :
    Turned connection messages after := by
  by_cases same : write.connection = connection
  · subst connection
    have socket :
        (before.sessions write.session).tcpSocket =
          ⟨true, write.connection⟩ := by
      rw [← isOpen, ← own]
    have here :
        unfinished write.connection before.writes =
          unfinished write.connection front ++
            (piece ++ more) :: unfinished write.connection back := by
      rw [outstanding, unfinished_append, unfinished_cons_self, parts]
      simp [parts, positive]
    have turn :
        InTurn messages (stream write.connection after.wire)
          (unfinished write.connection after.writes) := by
      have before_turn := turned.turn write.session socket
      rw [here] at before_turn
      have written :
          stream write.connection after.wire =
            stream write.connection before.wire ++ piece := by
        rw [wire, stream_append]
        simp [stream]
      rw [written]
      apply before_turn.transfer
      rw [writes, unfinished_append]
      exact (unfinished_cons_sublist write.connection _ back).append_left _
    refine ⟨?_, turn.isPrefix, fun _ _ => turn⟩
    rw [accepted]
    exact turned.unused
  · have elsewhere :
        stream connection after.wire = stream connection before.wire := by
      rw [wire, stream_append]
      simp [stream, same]
    have kept :
        unfinished connection after.writes =
          unfinished connection before.writes := by
      have renamed :
          ({ write with remaining := more } : Write).connection ≠
            connection := same
      rw [writes, outstanding, unfinished_append, unfinished_append,
        unfinished_cons_of_ne same, unfinished_cons_of_ne renamed]
    refine ⟨?_, ?_, ?_⟩
    · rw [accepted]
      exact turned.unused
    · rw [elsewhere]
      exact turned.written
    · intro session socket
      rw [sessions] at socket
      rw [elsewhere, kept]
      exact turned.turn session socket

/--
The messages of the connection go on taking turns if a further one is begun
only after everything before it was written.
-/
theorem Turned.stepped [Header H]
    {cfg : Config} (turned : Turned connection messages before)
    (owned : Owned before)
    (settled :
      ∀ write ∈ before.sends event, write.connection = connection →
        (stream connection before.wire).length = messages.flatten.length)
    (stepped : Stepped cfg before event after) :
    Turned connection
      (messages ++ responses connection (before.sends event)) after := by
  cases stepped.traffic with
  | quiet writes wire silent =>
      rw [silent, responses_nil, List.append_nil]
      exact turned.quiet owned stepped writes wire
  | began write sends nonempty own sessions accepted writes wire =>
      rw [sends] at settled ⊢
      exact turned.began owned (settled write (by simp)) nonempty own
        sessions accepted writes wire
  | moved front back write piece more silent parts positive isOpen own
      sessions accepted outstanding writes wire =>
      rw [silent, responses_nil, List.append_nil]
      exact turned.moved parts positive isOpen own sessions accepted
        outstanding writes wire

/-- Nothing more is written when all messages were written. -/
theorem Turned.stream_eq [Header H]
    {cfg : Config} (turned : Turned connection messages before)
    (settled :
      (stream connection before.wire).length = messages.flatten.length)
    (stepped : Stepped cfg before event after) :
    stream connection after.wire = stream connection before.wire := by
  cases stepped.traffic with
  | quiet _ wire _ => rw [wire]
  | began _ _ _ _ _ _ _ wire => rw [wire]
  | moved front back write piece more _ parts positive isOpen own _ _
      outstanding _ wire =>
      rw [wire, stream_append]
      by_cases same : write.connection = connection
      · subst connection
        have socket :
            (before.sessions write.session).tcpSocket =
              ⟨true, write.connection⟩ := by
          rw [← isOpen, ← own]
        have idle :=
          (turned.turn write.session socket).eq_nil
            (fun _ => ne_nil_of_mem_unfinished) settled
        rw [outstanding, unfinished_append, unfinished_cons_self] at idle
        · simp at idle
        · simp [parts, positive]
      · simp [stream, same]

end

/-! ## What a connection is answered -/

/-- What was answered to the packets of a connection. -/
def replies (connection : Nat) (answered : List Answer) :
    List (List UInt8) :=
  (answersOn connection answered).map fun answer => answer.2.getD []

@[simp]
theorem replies_nil (connection : Nat) : replies connection [] = [] :=
  rfl

theorem replies_append (connection : Nat) (first second : List Answer) :
    replies connection (first ++ second) =
      replies connection first ++ replies connection second := by
  simp [replies, answersOn_append]

/--
An answered packet starts no write, or one on the connection that the packet
was received on.
-/
theorem Addressed.startWrites_cases
    {server : Server H} (addressed : Addressed server) {index : Nat}
    {packet : Packet} {response : ResultObject}
    (busy : server.tasks[index]? = some ⟨packet, .sending response⟩) :
    (response.getD [] = [] ∧ server.startWrites packet response = []) ∨
      ∃ data,
        response = some data ∧ data ≠ [] ∧
          server.startWrites packet response =
            [⟨packet.asyncSession, packet.connection, packet.connection,
              data⟩] := by
  cases response with
  | none => exact Or.inl ⟨rfl, rfl⟩
  | some data =>
      by_cases nonempty : data.length > 0
      · have own :=
          addressed.packets packet
            (mem_unanswered_of_task busy (decide_eq_true nonempty))
        refine Or.inr ⟨data, rfl, List.ne_nil_of_length_pos nonempty, ?_⟩
        rw [Server.startWrites, if_pos nonempty, ← own]
      · have empty := List.eq_nil_of_length_eq_zero
          (Nat.eq_zero_of_not_pos nonempty)
        exact Or.inl ⟨empty, if_neg nonempty⟩

/-- The answer of a step and the write that it starts are the same bytes. -/
theorem flatten_replies_answers
    {server : Server H} (addressed : Addressed server) (event : Event) :
    (replies connection (server.answers event)).flatten =
      (responses connection (server.sends event)).flatten := by
  rcases answers_sends_cases server event with
    ⟨answers, sends⟩ | ⟨index, packet, response, -, busy, answers, sends⟩
  · rw [answers, sends]
    rfl
  · rw [answers, sends, replies, answersOn_singleton]
    rcases addressed.startWrites_cases busy with
      ⟨empty, starts⟩ | ⟨data, rfl, -, starts⟩
    · rw [starts]
      split <;> simp [empty]
    · rw [starts]
      by_cases own : packet.connection = connection <;>
        simp [responses, own]

/-- The packet of a write that is started is pending on the connection. -/
theorem Addressed.pending_of_sends
    {server : Server H} (addressed : Addressed server) {event : Event}
    {write : Write} (member : write ∈ server.sends event) :
    onChannel Packet.connection write.connection server.pending ≠ [] := by
  rcases answers_sends_cases server event with
    ⟨-, sends⟩ | ⟨index, packet, response, -, busy, -, sends⟩
  · simp [sends] at member
  · rcases addressed.startWrites_cases busy with
      ⟨-, starts⟩ | ⟨data, -, -, starts⟩
    · simp [sends, starts] at member
    · rw [sends, starts] at member
      obtain rfl := List.mem_singleton.mp member
      rw [Ne, onChannel_eq_nil_iff]
      intro none
      exact none packet (List.mem_of_getElem? (pending_getElem? busy)) rfl

/-! ## Lock step -/

/--
Bytes of the connection are received only when none of its packets is
pending and everything that was answered to it was written.
-/
def LockStep (connection : Nat) (state : Server H × List Answer) :
    Event → Prop
  | .receiveDone index (.received _) _ =>
      ∀ receive ∈ state.1.receives[index]?,
        receive.connection = connection →
          onChannel Packet.connection connection state.1.pending = [] ∧
            (stream connection state.1.wire).length =
              (replies connection state.2).flatten.length
  | _ => True

instance (connection : Nat) (state : Server H × List Answer)
    (event : Event) : Decidable (LockStep connection state event) :=
  match event with
  | .receiveDone index (.received _) _ =>
      inferInstanceAs
        (Decidable (∀ receive ∈ state.1.receives[index]?, _ → _ ∧ _))
  | .receiveDone _ .failed _ => isTrue trivial
  | .acceptDone _ => isTrue trivial
  | .writeSome _ _ => isTrue trivial
  | .writeDone _ _ _ => isTrue trivial
  | .close _ _ => isTrue trivial
  | .getPacketInfo => isTrue trivial
  | .processing _ _ => isTrue trivial
  | .send _ => isTrue trivial

/--
The steps of the runs in which the peer of a connection is in lock step: no
session is accepted again while a packet of an earlier connection may still
be answered, and the peer sends only when everything was answered.
-/
def LockStepped (connection : Nat) (state : Server H × List Answer)
    (event : Event) : Prop :=
  AnsweredBeforeReuse state.1 event ∧ LockStep connection state event

instance (connection : Nat) (state : Server H × List Answer)
    (event : Event) : Decidable (LockStepped connection state event) :=
  inferInstanceAs (Decidable (_ ∧ _))

section

variable [Header H] {cfg : Config} {header : H} {events : List Event}
  {state : Server H × List Answer}

theorem addressed_of_lockStepped
    (run :
      RunWhere (recorded (step cfg) Server.answers)
        (LockStepped connection) (Server.start cfg header, []) events
        state) :
    Addressed state.1 := by
  refine RunWhere.invariantWhere (fun _ => True)
    (fun state => Addressed state.1) (fun _ => trivial)
    (start_addressed cfg header) ?_ run
  intro before event after _ held meets taken
  exact held.stepped meets.1 (stepped_of_recorded taken).1

/-- A packet of the connection arrives when no other one is pending. -/
theorem length_pending_le
    (run :
      RunWhere (recorded (step cfg) Server.answers)
        (LockStepped connection) (Server.start cfg header, []) events
        state) :
    (onChannel Packet.connection connection
      state.1.pending).length ≤ 1 := by
  have matched :
      ∃ actions,
        RunWhere Service.step (OneAtATime Packet.connection connection)
          (service (Server.start cfg header, [])) actions
          (service state) := by
    refine RunWhere.simulate service (fun _ => True) (fun _ => trivial)
      ?_ run
    rintro before event ⟨after, record⟩ - meets taken
    obtain ⟨stepped, rfl⟩ := stepped_of_recorded taken
    refine stepped.served.simulated before.2 ?_
      (fun _ _ _ _ _ => trivial)
    rintro index receive bytes closeFails packet rfl outstanding own same
    exact (meets.2 receive outstanding (own.symm.trans same)).1
  obtain ⟨actions, abstractRun⟩ := matched
  rw [service_start] at abstractRun
  exact length_onChannel_pending_le abstractRun

/-- The pending packet at an index is the only one of the connection. -/
theorem onChannel_take_eq_nil
    {pending : List Packet} {index : Nat} {packet : Packet}
    (found : pending[index]? = some packet)
    (own : packet.connection = connection)
    (single :
      (onChannel Packet.connection connection pending).length ≤ 1) :
    onChannel Packet.connection connection (pending.take index) = [] ∧
      onChannel Packet.connection connection
        (pending.eraseIdx index) = [] := by
  obtain ⟨inside, rfl⟩ := List.getElem?_eq_some_iff.mp found
  have split :
      pending =
        pending.take index ++
          pending[index] :: pending.drop (index + 1) := by
    rw [List.getElem_cons_drop, List.take_append_drop]
  rw [split, onChannel_append, onChannel_cons, onChannel_singleton,
    if_pos own] at single
  simp only [List.length_append, List.length_singleton] at single
  have front := List.eq_nil_of_length_eq_zero
    (show (onChannel Packet.connection connection
      (pending.take index)).length = 0 by omega)
  have back := List.eq_nil_of_length_eq_zero
    (show (onChannel Packet.connection connection
      (pending.drop (index + 1))).length = 0 by omega)
  refine ⟨front, ?_⟩
  rw [List.eraseIdx_eq_take_drop_succ, onChannel_append, front, back]
  rfl

/-- The packets of the connection are answered in the order of arrival. -/
theorem delivered_of_lockStepped
    (run :
      RunWhere (recorded (step cfg) Server.answers)
        (LockStepped connection) (Server.start cfg header, []) events
        state) :
    state.1.delivered connection =
      (answersOn connection state.2).map Prod.fst ++
        onChannel Packet.connection connection state.1.pending := by
  have matched :
      ∃ actions,
        RunWhere Service.step (InOrder Packet.connection connection)
          (service (Server.start cfg header, [])) actions
          (service state) := by
    refine RunWhere.simulate service
      (fun state =>
        (onChannel Packet.connection connection
          state.1.pending).length ≤ 1)
      length_pending_le ?_ run
    rintro before event ⟨after, record⟩ single - taken
    obtain ⟨stepped, rfl⟩ := stepped_of_recorded taken
    refine stepped.served.simulated before.2
      (fun _ _ _ _ _ _ _ _ => trivial) ?_
    intro index packet response _ busy request found own
    exact (onChannel_take_eq_nil found own single).1
  obtain ⟨actions, abstractRun⟩ := matched
  rw [service_start] at abstractRun
  have answeredInOrder := ordered abstractRun
  rw [Ordered, onChannel_finished] at answeredInOrder
  exact answeredInOrder

/--
The answers take turns on the connection, and everything is written while a
packet is pending.
-/
structure Settled (connection : Nat) (state : Server H × List Answer) :
    Prop where
  turned : Turned connection (replies connection state.2) state.1
  settled :
    onChannel Packet.connection connection state.1.pending ≠ [] →
      (stream connection state.1.wire).length =
        (replies connection state.2).flatten.length

/-- A step that answers nothing to the connection writes nothing to it. -/
theorem Settled.kept
    {before after : Server H} {answered : List Answer} {event : Event}
    (held : Settled connection (before, answered))
    (stepped : Stepped cfg before event after)
    (full :
      (stream connection before.wire).length =
        (replies connection answered).flatten.length)
    (silent : answersOn connection (before.answers event) = []) :
    (stream connection after.wire).length =
      (replies connection
        (answered ++ before.answers event)).flatten.length := by
  have none : replies connection (before.answers event) = [] := by
    rw [replies, silent]
    rfl
  rw [held.turned.stream_eq full stepped, replies_append, none,
    List.append_nil]
  exact full

theorem Settled.stepped
    {before after : Server H} {answered : List Answer} {event : Event}
    (held : Settled connection (before, answered))
    (addressed : Addressed before) (owned : Owned before)
    (single :
      (onChannel Packet.connection connection
        before.pending).length ≤ 1)
    (meets : LockStep connection (before, answered) event)
    (stepped : Stepped cfg before event after) :
    Settled connection (after, answered ++ before.answers event) := by
  constructor
  · have next :=
      held.turned.stepped owned
        (fun write member same =>
          held.settled (same ▸ addressed.pending_of_sends member))
        stepped
    refine next.congr ?_
    rw [replies_append, List.flatten_append, List.flatten_append,
      flatten_replies_answers addressed]
  · intro waiting
    change onChannel Packet.connection connection after.pending ≠ []
      at waiting
    cases stepped.served with
    | quiet inserted pending silent =>
        rw [pending] at waiting
        exact held.kept stepped (held.settled waiting) (by simp [silent])
    | arrived index receive bytes closeFails packet received outstanding
        own inserted pending silent =>
        refine held.kept stepped ?_ (by simp [silent])
        by_cases same : packet.connection = connection
        · subst received
          exact (meets receive outstanding (own.symm.trans same)).2
        · rw [pending, onChannel_append, onChannel_singleton,
            if_neg same, List.append_nil] at waiting
          exact held.settled waiting
    | answered index packet response sends busy answers inserted
        pending =>
        rw [pending] at waiting
        by_cases same : packet.connection = connection
        · -- The packet was the only one of the connection.
          exact absurd
            (onChannel_take_eq_nil (pending_getElem? busy) same single).2
            waiting
        · refine held.kept stepped (held.settled ?_) ?_
          · intro none
            refine waiting (List.eq_nil_of_sublist_nil ?_)
            rw [← none]
            exact (List.eraseIdx_sublist _ index).filter _
          · rw [answers, answersOn_singleton, if_neg same]

theorem settled_of_lockStepped
    (run :
      RunWhere (recorded (step cfg) Server.answers)
        (LockStepped connection) (Server.start cfg header, []) events
        state) :
    Settled connection state := by
  refine RunWhere.invariantWhere
    (fun state =>
      Addressed state.1 ∧ Owned state.1 ∧
        (onChannel Packet.connection connection
          state.1.pending).length ≤ 1)
    (Settled connection) ?_ ?_ ?_ run
  · intro earlier reached before
    exact ⟨addressed_of_lockStepped before,
      owned (exists_recorded_iff.mp ⟨reached.2, before.toRun⟩),
      length_pending_le before⟩
  · have fresh := Server.start_fresh cfg header
    refine ⟨⟨fun _ => rfl, by simp [fresh.wire], ?_⟩, ?_⟩
    · intro session socket
      rw [start_sessions] at socket
      simp [AsyncSessionImpl.make] at socket
    · simp [Server.pending, fresh.tasks, fresh.packetQueue]
  · rintro ⟨before, answered⟩ event ⟨after, record⟩ known held meets taken
    obtain ⟨stepped, rfl⟩ := stepped_of_recorded taken
    exact held.stepped known.1 known.2.1 known.2.2 meets.2 stepped

end

/-! ## The server as a function of the messages -/

section

variable {cfg : Config} {World : Type}
  {registrations : List (Int32 × FunctionObject World)}
  {events : List Event}
  {state : Server (DummyServer.HeaderCct cfg.build) × List Answer}

/-- A peer in lock step is answered its first messages, in their order. -/
theorem answeredMessages_isPrefix_decode
    (wide : cfg.build.sizeBits = 64)
    (run :
      RunWhere (recorded (step cfg) Server.answers)
        (LockStepped connection)
        (Server.start cfg DummyServer.HeaderCct.make, []) events state) :
    answeredMessages connection state.2 <+:
      (DummyServer.wireFormat cfg.build cfg.sessionBufferMax).decode
        (state.1.received connection) := by
  have agreement :=
    faithful
      (DummyServer.headerCct_speaks (by omega) cfg.sessionBufferMax) rfl
      (DummyServer.payloadSize_lt (by omega) cfg.sessionBufferMax)
      DummyServer.HeaderCct.make_sized
      (exists_recorded_iff.mp ⟨state.2, run.toRun⟩)
  refine List.IsPrefix.trans ?_ (agreement.decoded connection)
  rw [Server.messages, delivered_of_lockStepped run, List.map_append,
    List.map_map]
  exact List.prefix_append _ _

/-- Each answer is what a registered function returned for its message. -/
theorem forall₂_replies
    (connection : Nat)
    (run :
      RunWhere (recorded (step cfg) Server.answers)
        (fun state event =>
          LockStepped connection state event ∧
            Dispatched (HandlerManager.make.registerAll registrations)
              state.1 event)
        (Server.start cfg DummyServer.HeaderCct.make, []) events state) :
    List.Forall₂
      (fun message answer =>
        ∃ world, answer = answerTo registrations world message)
      (answeredMessages connection state.2)
      (replies connection state.2) := by
  have handled :=
    handled_of_dispatched (fun _ _ meets => meets.2) run
  rw [answeredMessages, replies, List.forall₂_map_left_iff,
    List.forall₂_map_right_iff, List.forall₂_same]
  intro answer member
  exact (handled.answered answer
    (List.mem_of_mem_filter member)).getD_eq_answerTo

end

/-- A peer sends a message, reads the answer, and sends another message. -/
def takingTurns : List Event :=
  [.acceptDone false,
    .receiveDone 0 (.received (DummyServer.headerImage 1)) false,
    .receiveDone 0 (.received (DummyServer.bodyImage 1)) false,
    .getPacketInfo, .processing 0 (some [1, 0]), .send 0,
    .writeSome 0 1, .writeSome 0 1, .writeDone 0 false false,
    .receiveDone 0 (.received (DummyServer.headerImage 1)) false,
    .receiveDone 0 (.received (DummyServer.bodyImage 1)) false,
    .getPacketInfo, .processing 0 (some [1, 0]), .send 0,
    .writeSome 0 1]

end LibSklt.Net
