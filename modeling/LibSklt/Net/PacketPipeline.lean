import LibSklt.Foundation.Processes
import LibSklt.Foundation.Services
import LibSklt.Net.FramingSafety
import LibSklt.Net.ResponseStreams

/-!
# From the queue to the answer

`ReadBody` inserts packets into the queue of the `PacketWorkerManager`; the
workers take them out with `GetPacketInfo`, call the handler and send what it
returned.  Several workers do this at once, so a packet may be answered while
packets that were inserted before it are still being handled.

Seen from the packets, the server is a service in the sense of
`Foundation.Services`: a packet arrives when it is inserted and is answered
when its worker is done with it.  `Server.answers` tells which packet that
is, and the runs are considered together with the record of the answers.
-/

namespace LibSklt.Net

open LibSklt.Foundation.Framing
open LibSklt.Foundation.Processes
open LibSklt.Foundation.Services
open LibSklt.Foundation.Transition

variable {H : Type}

/-! ## The packets of a server -/

/-- A packet and what its handler returned. -/
abbrev Answer : Type :=
  Packet × Option (List UInt8)

/-- The packets that the workers have, and those in the queue. -/
def Server.pending (server : Server H) : List Packet :=
  server.tasks.map Task.packet ++ server.packetQueue

/-- The packet that a worker is done with in a step. -/
def Server.answers (server : Server H) : Event → List Answer
  | .send index =>
      match server.tasks[index]? with
      | some ⟨packet, .sending response⟩ => [(packet, response)]
      | _ => []
  | _ => []

/-- The server as a service of packets. -/
def service (state : Server H × List Answer) :
    Service Packet (Option (List UInt8)) where
  arrived := state.1.inserted
  pending := state.1.pending
  answered := state.2

/-- The answers to the packets of a connection. -/
def answersOn (connection : Nat) (answered : List Answer) : List Answer :=
  answered.filter fun answer => answer.1.connection == connection

@[simp]
theorem answersOn_nil (connection : Nat) : answersOn connection [] = [] :=
  rfl

theorem answersOn_append (connection : Nat) (first second : List Answer) :
    answersOn connection (first ++ second) =
      answersOn connection first ++ answersOn connection second := by
  simp [answersOn]

theorem answersOn_singleton (connection : Nat) (answer : Answer) :
    answersOn connection [answer] =
      if answer.1.connection = connection then [answer] else [] := by
  by_cases own : answer.1.connection = connection <;>
    simp [answersOn, own]

/-- The packets of a connection that were answered. -/
theorem onChannel_finished
    (connection : Nat) (state : Server H × List Answer) :
    onChannel Packet.connection connection (service state).finished =
      (answersOn connection state.2).map Prod.fst := by
  simp only [onChannel, answersOn, Service.finished, service,
    List.filter_map]
  rfl

/-! ## What a step does to the packets -/

/-- What a step does to the packets of the server. -/
inductive Served (before : Server H) (event : Event)
    (after : Server H) : Prop where
  | quiet
      (inserted : after.inserted = before.inserted)
      (pending : after.pending = before.pending)
      (silent : before.answers event = [])
  | arrived (index : Nat) (receive : Receive) (bytes : List UInt8)
      (closeFails : Bool) (packet : Packet)
      (received : event = .receiveDone index (.received bytes) closeFails)
      (outstanding : before.receives[index]? = some receive)
      (own : packet.connection = receive.connection)
      (inserted : after.inserted = before.inserted ++ [packet])
      (pending : after.pending = before.pending ++ [packet])
      (silent : before.answers event = [])
  | answered (index : Nat) (packet : Packet)
      (response : Option (List UInt8))
      (sends : event = .send index)
      (busy : before.tasks[index]? = some ⟨packet, .sending response⟩)
      (answers : before.answers event = [(packet, response)])
      (inserted : after.inserted = before.inserted)
      (pending : after.pending = before.pending.eraseIdx index)

/-- A call that inserts no packet leaves the packets alone. -/
theorem packets_apply
    (cfg : Config) (this : Nat) {outcome : Outcome H} (server : Server H)
    (none : outcome.inserted = []) :
    (server.apply cfg this outcome).inserted = server.inserted ∧
      (server.apply cfg this outcome).pending = server.pending := by
  simp [Server.apply, Server.pending, none]

theorem packets_acquireSession (cfg : Config) (server : Server H) :
    (server.acquireSession cfg).inserted = server.inserted ∧
      (server.acquireSession cfg).pending = server.pending := by
  obtain ⟨pool, acceptor, equal⟩ := server.acquireSession_eq cfg
  rw [equal]
  exact ⟨rfl, rfl⟩

/-- The workers are listed in the order in which they took their packets. -/
theorem pending_getElem?
    {server : Server H} {index : Nat} {task : Task}
    (busy : server.tasks[index]? = some task) :
    server.pending[index]? = some task.packet := by
  obtain ⟨inside, -⟩ := List.getElem?_eq_some_iff.mp busy
  rw [Server.pending, List.getElem?_append_left (by simpa using inside),
    List.getElem?_map, busy]
  rfl

/-- A worker keeps its packet when it goes on to the next phase. -/
theorem map_packet_set
    {tasks : List Task} {index : Nat} {task : Task}
    (busy : tasks[index]? = some task) (phase : Phase) :
    (tasks.set index ⟨task.packet, phase⟩).map Task.packet =
      tasks.map Task.packet := by
  obtain ⟨inside, rfl⟩ := List.getElem?_eq_some_iff.mp busy
  rw [List.map_set, ← List.getElem_map Task.packet]
  · exact List.set_getElem_self _
  · simpa using inside

theorem Stepped.served [Header H]
    {cfg : Config} {before after : Server H} {event : Event}
    (stepped : Stepped cfg before event after) :
    Served before event after := by
  cases stepped with
  | rejected =>
      obtain ⟨inserted, pending⟩ := packets_acquireSession cfg before
      exact .quiet inserted pending rfl
  | admitted session =>
      obtain ⟨inserted, pending⟩ :=
        packets_acquireSession cfg (before.acceptClient session)
      exact .quiet inserted pending rfl
  | abandoned index receive completion closeFails session _ _ givesUp =>
      obtain ⟨inserted, pending⟩ :=
        packets_apply cfg receive.session before
          (AsyncSessionImpl.abandon_closing givesUp.same
            closeFails).inserted
      exact .quiet inserted pending rfl
  | headerRead index receive bytes closeFails _ _ _ _ outcome allocated =>
      subst outcome
      obtain ⟨inserted, pending⟩ :=
        packets_apply cfg receive.session before
          (AsyncSessionImpl.allocateBody_accepting _ _).inserted
      exact .quiet inserted pending rfl
  | bodyRead index receive bytes closeFails outstanding permitted _ _ _
      outcome handed =>
      subst outcome
      refine .arrived index receive bytes closeFails
        ((before.sessions receive.session).packet cfg receive.session
          bytes) rfl outstanding ?_ rfl ?_ rfl
      · exact connection_of_permits permitted
      · exact (List.append_assoc _ _ _).symm
  | wrote => exact .quiet rfl rfl rfl
  | writeDelivered => exact .quiet rfl rfl rfl
  | writeFailed index write closeFails =>
      obtain ⟨inserted, pending⟩ :=
        packets_apply cfg write.session before
          ((before.sessions write.session).close_closing
            closeFails).inserted
      exact .quiet inserted pending rfl
  | closed session closeFails =>
      obtain ⟨inserted, pending⟩ :=
        packets_apply cfg session before
          ((before.sessions session).close_closing closeFails).inserted
      exact .quiet inserted pending rfl
  | taken packet rest queued =>
      -- The packet goes from the front of the queue to the end of the list
      -- of workers, which is the same place.
      refine .quiet rfl ?_ rfl
      simp [Server.pending, queued]
  | processed index packet response busy =>
      refine .quiet rfl ?_ rfl
      simp only [Server.pending, map_packet_set busy]
  | sent index packet response busy =>
      obtain ⟨inside, -⟩ := List.getElem?_eq_some_iff.mp busy
      refine .answered index packet response rfl busy ?_ rfl ?_
      · simp [Server.answers, busy]
      · rw [Server.pending, Server.pending,
          List.eraseIdx_append_of_lt_length (by simpa using inside),
          List.eraseIdx_map]

/-! ## The server refines the service -/

section

variable
    {allowed :
      Service Packet (Option (List UInt8)) →
        Action Packet (Option (List UInt8)) → Prop}

/--
Each step of the server is no step of the service or one.  What the side
condition asks of that one is asked for the two events that can show it.
-/
theorem Served.simulated
    {before after : Server H} {event : Event}
    (served : Served before event after) (answered : List Answer)
    (onArrival :
      ∀ index receive bytes closeFails packet,
        event = .receiveDone index (.received bytes) closeFails →
          before.receives[index]? = some receive →
            packet.connection = receive.connection →
              allowed (service (before, answered)) (.arrive packet))
    (onAnswer :
      ∀ index packet response,
        event = .send index →
          before.tasks[index]? = some ⟨packet, .sending response⟩ →
            allowed (service (before, answered))
              (.answer index response)) :
    ∃ actions,
      RunWhere Service.step allowed (service (before, answered)) actions
        (service (after, answered ++ before.answers event)) := by
  cases served with
  | quiet inserted pending silent =>
      refine ⟨[], ?_⟩
      rw [silent, List.append_nil, service, service, inserted, pending]
      exact .start
  | arrived index receive bytes closeFails packet received outstanding own
      inserted pending silent =>
      refine ⟨[.arrive packet], .single
        (onArrival index receive bytes closeFails packet received
          outstanding own) ?_⟩
      rw [silent, List.append_nil, service, service, inserted, pending]
      rfl
  | answered index packet response sends busy answers inserted pending =>
      refine ⟨[.answer index response], .single
        (onAnswer index packet response sends busy) ?_⟩
      rw [answers, service, service, inserted, pending]
      simp [Service.step, pending_getElem? busy]

/-- A recorded step is a step of the server, with its answers. -/
theorem stepped_of_recorded [Header H]
    {cfg : Config} {before after : Server H × List Answer} {event : Event}
    (taken :
      recorded (step cfg) Server.answers before event = some after) :
    Stepped cfg before.1 event after.1 ∧
      after.2 = before.2 ++ before.1.answers event := by
  obtain ⟨taken, record⟩ := recorded_eq_some_iff.mp taken
  exact ⟨stepped_of_step taken, record⟩

end

theorem service_start (cfg : Config) (header : H) :
    service (Server.start cfg header, []) = .idle := by
  have fresh := Server.start_fresh cfg header
  simp [service, Service.idle, Server.pending, fresh.inserted,
    fresh.tasks, fresh.packetQueue]

/-- Every run of the server is a run of the service. -/
theorem service_run [Header H]
    {cfg : Config} {header : H} {events : List Event}
    {state : Server H × List Answer}
    (run :
      Run (recorded (step cfg) Server.answers)
        (Server.start cfg header, []) events state) :
    ∃ actions, Run Service.step .idle actions (service state) := by
  rw [← service_start cfg header]
  refine RunWhere.simulate service (fun _ => True) (fun _ => trivial)
    ?_ run
  rintro before event ⟨after, record⟩ - - taken
  obtain ⟨stepped, rfl⟩ := stepped_of_recorded taken
  exact stepped.served.simulated before.2
    (fun _ _ _ _ _ _ _ _ => trivial) (fun _ _ _ _ _ => trivial)

/-! ## Every message is answered at most once -/

/-- The messages of a connection that were answered. -/
def answeredMessages (connection : Nat) (answered : List Answer) :
    List (UInt16 × List UInt8) :=
  (answersOn connection answered).map fun answer => answer.1.message

/-- The messages of a connection that are still to be answered. -/
def Server.pendingMessages (server : Server H) (connection : Nat) :
    List (UInt16 × List UInt8) :=
  (onChannel Packet.connection connection server.pending).map
    Packet.message

/--
Whatever the workers do, the messages that a connection delivered are those
that were answered and those that are pending, and the pending ones stand in
the order in which they were delivered.
-/
theorem delivered_messages_accounted [Header H]
    {cfg : Config} {header : H} {events : List Event}
    {state : Server H × List Answer}
    (run :
      Run (recorded (step cfg) Server.answers)
        (Server.start cfg header, []) events state)
    (connection : Nat) :
    (answeredMessages connection state.2 ++
        state.1.pendingMessages connection).Perm
        (state.1.messages connection) ∧
      (state.1.pendingMessages connection).Sublist
        (state.1.messages connection) := by
  obtain ⟨actions, matching⟩ := service_run run
  obtain ⟨settled, ordered⟩ := accounted matching
  have finished := onChannel_finished connection state
  constructor
  · have settled :=
      (settled.filter fun packet => packet.connection == connection).map
        Packet.message
    rw [List.filter_append, List.map_append] at settled
    rw [onChannel] at finished
    rw [finished, List.map_map] at settled
    exact settled
  · exact (ordered.filter _).map _

/-- The worker with the second message is done before the first one. -/
def overtaken : List Event :=
  pipelined ++ [Event.send 1]

theorem tasks_length_le [Header H]
    {cfg : Config} {header : H} {events : List Event} {server : Server H}
    (run : Run (step cfg) (Server.start cfg header) events server) :
    server.tasks.length ≤ cfg.workerCount := by
  refine Run.invariant
    (fun server => server.tasks.length ≤ cfg.workerCount) ?_ ?_ run
  · rw [(Server.start_fresh cfg header).tasks]
    exact Nat.zero_le _
  · intro before event after held taken
    cases stepped_of_step taken with
    | rejected =>
        obtain ⟨pool, acceptor, equal⟩ := before.acquireSession_eq cfg
        rw [equal]
        exact held
    | admitted session =>
        obtain ⟨pool, acceptor, equal⟩ :=
          (before.acceptClient session).acquireSession_eq cfg
        rw [equal]
        exact held
    | taken packet rest queued idle =>
        rw [List.length_append]
        exact idle
    | processed =>
        rw [List.length_set]
        exact held
    | sent index =>
        exact (List.eraseIdx_sublist _ index).length_le.trans held
    | _ => exact held

/-- A single worker answers the packets in the order of their arrival. -/
theorem inserted_of_single_worker [Header H]
    {cfg : Config} (alone : cfg.workerCount = 1)
    {header : H} {events : List Event} {state : Server H × List Answer}
    (run :
      Run (recorded (step cfg) Server.answers)
        (Server.start cfg header, []) events state) :
    state.1.inserted = state.2.map Prod.fst ++ state.1.pending := by
  have matched :
      ∃ actions,
        RunWhere Service.step (InOrder (fun _ : Packet => ()) ())
          (service (Server.start cfg header, [])) actions
          (service state) := by
    refine RunWhere.simulate service
      (fun state => state.1.tasks.length ≤ 1) ?_ ?_ run
    · intro earlier reached before
      rw [← alone]
      exact tasks_length_le (exists_recorded_iff.mp ⟨reached.2, before⟩)
    · rintro before event ⟨after, record⟩ single - taken
      obtain ⟨stepped, rfl⟩ := stepped_of_recorded taken
      refine stepped.served.simulated before.2
        (fun _ _ _ _ _ _ _ _ => trivial) ?_
      intro index packet response _ busy request found _
      obtain ⟨inside, -⟩ := List.getElem?_eq_some_iff.mp busy
      obtain rfl : index = 0 := by omega
      rfl
  obtain ⟨actions, abstractRun⟩ := matched
  rw [service_start] at abstractRun
  have answeredInOrder := ordered abstractRun
  simpa [Ordered, onChannel, service, Service.finished] using
    answeredInOrder

/-- `bin/Configure.ini` with one worker. -/
def oneWorker : Config :=
  { DummyServer.configureIni 2 with workerCount := 1 }

/-- The server with this configuration. -/
def oneWorkerServer : Server (DummyServer.HeaderCct oneWorker.build) :=
  Server.start oneWorker DummyServer.HeaderCct.make

/-- The first of two messages is answered, and the worker has the second. -/
def oneAfterTheOther : List Event :=
  [.acceptDone false,
    .receiveDone 0 (.received (DummyServer.headerImage 1)) false,
    .receiveDone 0 (.received (DummyServer.bodyImage 1)) false,
    .receiveDone 0 (.received (DummyServer.headerImage 1)) false,
    .receiveDone 0 (.received (DummyServer.bodyImage 1)) false,
    .getPacketInfo, .processing 0 (some [1, 2]), .send 0,
    .getPacketInfo]

/-- The steps that a worker still makes with its packet. -/
def Task.steps (task : Task) : Nat :=
  match task.phase with
  | .handling => 2
  | .sending _ => 1

/-- The steps that the workers still make with the packets. -/
def Server.work (server : Server H) : Nat :=
  3 * server.packetQueue.length + total Task.steps server.tasks

/-- The steps of the workers. -/
def Event.ofWorker : Event → Bool
  | .getPacketInfo => true
  | .processing _ _ => true
  | .send _ => true
  | _ => false

theorem Task.steps_pos (task : Task) : 0 < task.steps := by
  rw [Task.steps]
  split <;> decide

theorem work_eq_zero_iff (server : Server H) :
    server.work = 0 ↔ server.pending = [] := by
  rw [Server.work, Server.pending, List.append_eq_nil_iff,
    List.map_eq_nil_iff]
  cases server.tasks with
  | nil => simp
  | cons task rest =>
      have positive := task.steps_pos
      have sum :
          total Task.steps (task :: rest) =
            task.steps + total Task.steps rest := rfl
      simp only [sum, reduceCtorEq, false_and, iff_false]
      omega

/-- Each step of a worker is one step less to make. -/
theorem Stepped.work [Header H]
    {cfg : Config} {before after : Server H} {event : Event}
    (stepped : Stepped cfg before event after)
    (worker : event.ofWorker = true) :
    after.work + 1 = before.work := by
  cases stepped with
  | taken packet rest queued =>
      have sum := total_append Task.steps before.tasks [⟨packet, .handling⟩]
      have new : total Task.steps [⟨packet, .handling⟩] = 2 := rfl
      simp only [Server.work, queued, List.length_cons, sum, new]
      omega
  | processed index packet response busy =>
      obtain ⟨inside, -⟩ := List.getElem?_eq_some_iff.mp busy
      have sum := total_replaceAt Task.steps busy
        (some ⟨packet, .sending response⟩)
      have old : Task.steps ⟨packet, .handling⟩ = 2 := rfl
      have new : Task.steps ⟨packet, .sending response⟩ = 1 := rfl
      rw [replaceAt, Option.toList_some, List.append_assoc,
        List.singleton_append, Option.elim_some, old, new] at sum
      simp only [Server.work, List.set_eq_take_append_cons_drop,
        if_pos inside]
      omega
  | sent index packet response busy =>
      have sum := total_replaceAt Task.steps busy none
      have old : Task.steps ⟨packet, .sending response⟩ = 1 := rfl
      rw [replaceAt, Option.toList_none, List.append_nil,
        Option.elim_none, old] at sum
      simp only [Server.work, List.eraseIdx_eq_take_drop_succ]
      omega
  | _ => simp [Event.ofWorker] at worker

/-- While a packet is pending, some worker can make a step. -/
theorem exists_worker_step [Header H]
    {cfg : Config} (workers : 0 < cfg.workerCount) {server : Server H}
    (waiting : server.pending ≠ []) :
    ∃ event,
      event.ofWorker = true ∧ (step cfg server event).isSome = true := by
  cases tasks : server.tasks with
  | nil =>
      cases queue : server.packetQueue with
      | nil => simp [Server.pending, tasks, queue] at waiting
      | cons packet rest =>
          refine ⟨.getPacketInfo, rfl, ?_⟩
          simp [step, Server.getPacketInfo, tasks, queue, workers]
  | cons task rest =>
      obtain ⟨packet, phase⟩ := task
      cases phase with
      | handling =>
          refine ⟨.processing 0 none, rfl, ?_⟩
          simp [step, Server.processing, tasks]
      | sending response =>
          refine ⟨.send 0, rfl, ?_⟩
          simp [step, Server.send, tasks]

/--
From any state, in whatever order the workers go on, they make a fixed number
of steps, and when none can make a further one every packet was answered.
-/
theorem workers_answer_every_packet [Header H]
    {cfg : Config} (workers : 0 < cfg.workerCount)
    {server after : Server H} {events : List Event}
    (run :
      RunWhere (step cfg) (fun _ event => event.ofWorker = true) server
        events after) :
    events.length ≤ server.work ∧
      ((∀ event, event.ofWorker = true → step cfg after event = none) →
        after.pending = [] ∧ events.length = server.work) := by
  have count : events.length + after.work = server.work := by
    induction run with
    | start => exact Nat.zero_add _
    | snoc _ worker taken inductionHypothesis =>
        have less := (stepped_of_step taken).work worker
        rw [List.length_append, List.length_singleton]
        omega
  refine ⟨by omega, ?_⟩
  intro stuck
  have done : after.pending = [] := by
    by_contra waiting
    obtain ⟨event, worker, possible⟩ := exists_worker_step workers waiting
    rw [stuck event worker] at possible
    simp at possible
  have nothing := (work_eq_zero_iff after).mpr done
  exact ⟨done, by omega⟩

/-- A server with one packet in the queue. -/
def onePacket : Server (DummyServer.HeaderCct oneWorker.build) :=
  { oneWorkerServer with packetQueue := [⟨⟨0, 101, none, 0⟩, 1, []⟩] }

theorem workers_answer_one_packet :
    ∃ after,
      RunWhere (step oneWorker) (fun _ event => event.ofWorker = true)
          onePacket [.getPacketInfo, .processing 0 none, .send 0] after ∧
        after.pending = [] ∧
        3 ≤ onePacket.work ∧
          ((∀ event, event.ofWorker = true →
              step oneWorker after event = none) →
            after.pending = [] ∧ 3 = onePacket.work) := by
  have executed :
      (execWhere (step oneWorker) (fun _ event => event.ofWorker = true)
        onePacket [.getPacketInfo, .processing 0 none, .send 0]).map
          Server.pending = some [] := by
    decide +kernel
  obtain ⟨after, run, done⟩ := exists_runWhere_of_map_exec executed
  exact ⟨after, run, done,
    workers_answer_every_packet (by decide) run⟩

end LibSklt.Net
