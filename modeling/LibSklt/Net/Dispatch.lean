import LibSklt.Handler.HandlerManager
import LibSklt.Net.PacketPipeline

/-!
# Where the responses come from

A worker passes the protocol number and the body of its packet to
`HandlerManager::Processing`, and sends what the registered function returns.
So every piece of a response is a part of what a registered function returned
for a message that was received before.
-/

namespace LibSklt.Net

open LibSklt.Foundation.Framing
open LibSklt.Foundation.Services
open LibSklt.Foundation.Transition
open LibSklt.Handler

variable {H : Type}

/-- The step that ends the work on a packet is the one that answers it. -/
theorem answers_sends_cases (server : Server H) (event : Event) :
    (server.answers event = [] ∧ server.sends event = []) ∨
      ∃ index packet response,
        event = .send index ∧
          server.tasks[index]? = some ⟨packet, .sending response⟩ ∧
          server.answers event = [(packet, response)] ∧
          server.sends event = server.startWrites packet response := by
  cases event with
  | send index =>
      cases here : server.tasks[index]? with
      | none => simp [Server.answers, Server.sends, here]
      | some task =>
          obtain ⟨packet, phase⟩ := task
          cases phase with
          | handling => simp [Server.answers, Server.sends, here]
          | sending response =>
              refine Or.inr ⟨index, packet, response, rfl, here, ?_, ?_⟩
              · simp [Server.answers, here]
              · simp [Server.sends, here]
  | _ => exact Or.inl ⟨rfl, rfl⟩

/-! ## What the handlers answer -/

section

variable {World : Type} (manager : HandlerManager World)

/-- The protocol number as the `int32_t` of a `PacketInfo`. -/
def protocolKey (protocolNo : UInt16) : Int32 :=
  protocolNo.toUInt32.toInt32

/-- The handler may return the response for the packet. -/
def Returns (packet : Packet) (response : ResultObject) : Prop :=
  ∃ world,
    response =
      manager.processing (protocolKey packet.protocolNo) world
        packet.content

/-- The workers call `HandlerManager::Processing` with their packets. -/
def Dispatched (server : Server H) : Event → Prop
  | .processing index response =>
      ∀ task ∈ server.tasks[index]?, Returns manager task.packet response
  | _ => True

/-- The workers do so in a world that does not change. -/
def DispatchedIn (world : World) (server : Server H) : Event → Prop
  | .processing index response =>
      ∀ task ∈ server.tasks[index]?,
        response =
          manager.processing (protocolKey task.packet.protocolNo) world
            task.packet.content
  | _ => True

instance (world : World) (server : Server H) (event : Event) :
    Decidable (DispatchedIn manager world server event) :=
  match event with
  | .processing index response =>
      inferInstanceAs
        (Decidable
          (∀ task ∈ server.tasks[index]?,
            response =
              manager.processing (protocolKey task.packet.protocolNo)
                world task.packet.content))
  | .acceptDone _ => isTrue trivial
  | .receiveDone _ _ _ => isTrue trivial
  | .writeSome _ _ => isTrue trivial
  | .writeDone _ _ _ => isTrue trivial
  | .close _ _ => isTrue trivial
  | .getPacketInfo => isTrue trivial
  | .send _ => isTrue trivial

theorem DispatchedIn.dispatched
    {manager : HandlerManager World} {world : World} {server : Server H}
    {event : Event} (constant : DispatchedIn manager world server event) :
    Dispatched manager server event := by
  cases event with
  | processing index response =>
      exact fun task busy => ⟨world, constant task busy⟩
  | _ => trivial

/-- All responses were returned by the handler of their packet. -/
structure Handled (state : Server H × List Answer) : Prop where
  tasks :
    ∀ task ∈ state.1.tasks, ∀ response, task.phase = .sending response →
      Returns manager task.packet response
  answered : ∀ answer ∈ state.2, Returns manager answer.1 answer.2

variable {manager} [Header H] {cfg : Config}

theorem Handled.tasks_stepped
    {before after : Server H} {answered : List Answer} {event : Event}
    (handled : Handled manager (before, answered))
    (meets : Dispatched manager before event)
    (stepped : Stepped cfg before event after) :
    ∀ task ∈ after.tasks, ∀ response, task.phase = .sending response →
      Returns manager task.packet response := by
  have known := handled.tasks
  cases stepped with
  | rejected =>
      obtain ⟨pool, acceptor, equal⟩ := before.acquireSession_eq cfg
      rw [equal]
      exact known
  | admitted session =>
      obtain ⟨pool, acceptor, equal⟩ :=
        (before.acceptClient session).acquireSession_eq cfg
      rw [equal]
      exact known
  | taken packet rest queued =>
      intro task member response phase
      rcases List.mem_append.mp member with old | new
      · exact known task old response phase
      · obtain rfl := List.mem_singleton.mp new
        simp at phase
  | processed index packet returned busy =>
      intro task member response phase
      rcases List.mem_or_eq_of_mem_set member with old | rfl
      · exact known task old response phase
      · cases phase
        exact meets ⟨packet, .handling⟩ busy
  | sent index =>
      intro task member
      exact known task (List.mem_of_mem_eraseIdx member)
  | _ => exact known

theorem Handled.stepped
    {before after : Server H} {answered : List Answer} {event : Event}
    (handled : Handled manager (before, answered))
    (meets : Dispatched manager before event)
    (stepped : Stepped cfg before event after) :
    Handled manager (after, answered ++ before.answers event) := by
  refine ⟨handled.tasks_stepped meets stepped, ?_⟩
  intro answer member
  rcases List.mem_append.mp member with old | new
  · exact handled.answered answer old
  · rcases answers_sends_cases before event with
      ⟨answers, -⟩ | ⟨index, packet, response, -, busy, answers, -⟩
    · simp [answers] at new
    · rw [answers] at new
      obtain rfl := List.mem_singleton.mp new
      exact handled.tasks _ (List.mem_of_getElem? busy) response rfl

theorem handled_of_dispatched
    {header : H} {events : List Event} {state : Server H × List Answer}
    {allowed : Server H × List Answer → Event → Prop}
    (dispatched :
      ∀ state event, allowed state event →
        Dispatched manager state.1 event)
    (run :
      RunWhere (recorded (step cfg) Server.answers) allowed
        (Server.start cfg header, []) events state) :
    Handled manager state := by
  refine RunWhere.invariantWhere (fun _ => True) (Handled manager)
    (fun _ => trivial) ?_ ?_ run
  · have fresh := Server.start_fresh cfg header
    exact ⟨by simp [fresh.tasks], by simp⟩
  · rintro ⟨before, answered⟩ event ⟨after, record⟩ - held meets taken
    obtain ⟨stepped, rfl⟩ := stepped_of_recorded taken
    exact held.stepped (dispatched _ _ meets) stepped

end

/--
What the first function registered for the protocol number of a message
returns for its body; nothing if there is none.
-/
def answerTo {World : Type}
    (registrations : List (Int32 × FunctionObject World)) (world : World)
    (message : UInt16 × List UInt8) : List UInt8 :=
  ((registrations.lookup (protocolKey message.1)).bind fun objFunc =>
    objFunc world message.2).getD []

theorem Returns.getD_eq_answerTo
    {World : Type} {registrations : List (Int32 × FunctionObject World)}
    {packet : Packet} {response : ResultObject}
    (returns :
      Returns (HandlerManager.make.registerAll registrations) packet
        response) :
    ∃ world,
      response.getD [] = answerTo registrations world packet.message := by
  obtain ⟨world, rfl⟩ := returns
  refine ⟨world, ?_⟩
  rw [HandlerManager.processing,
    HandlerManager.getvalue_registerAll_make]
  simp only [answerTo, Packet.message]
  cases registrations.lookup (protocolKey packet.protocolNo) <;> rfl

/-! ## No response without a message -/

/-- What is left to write and what was written are parts of answers. -/
structure Sourced (state : Server H × List Answer) : Prop where
  writes :
    ∀ write ∈ state.1.writes, ∃ answer ∈ state.2,
      answer.1.connection = write.origin ∧
        write.remaining <:+ answer.2.getD []
  wire :
    ∀ transfer ∈ state.1.wire, ∃ answer ∈ state.2,
      answer.1.connection = transfer.origin ∧
        transfer.bytes <:+: answer.2.getD []

/-- A write that is started has the response of the answered packet. -/
theorem answer_of_sends
    {server : Server H} {event : Event} {write : Write}
    (member : write ∈ server.sends event) :
    ∃ answer ∈ server.answers event,
      answer.1.connection = write.origin ∧
        write.remaining = answer.2.getD [] := by
  rcases answers_sends_cases server event with
    ⟨-, sends⟩ | ⟨index, packet, response, -, -, answers, sends⟩
  · simp [sends] at member
  · rw [sends] at member
    refine ⟨(packet, response), by simp [answers], ?_⟩
    cases response with
    | none => simp [Server.startWrites] at member
    | some data =>
        simp only [Server.startWrites] at member
        split at member
        · obtain rfl := List.mem_singleton.mp member
          exact ⟨rfl, rfl⟩
        · simp at member

theorem Sourced.stepped [Header H]
    {cfg : Config} {before after : Server H} {answered : List Answer}
    {event : Event}
    (sourced : Sourced (before, answered))
    (stepped : Stepped cfg before event after) :
    Sourced (after, answered ++ before.answers event) := by
  have writes :
      ∀ write ∈ before.writes,
        ∃ answer ∈ answered ++ before.answers event,
          answer.1.connection = write.origin ∧
            write.remaining <:+ answer.2.getD [] := by
    intro write member
    obtain ⟨answer, old, part⟩ := sourced.writes write member
    exact ⟨answer, List.mem_append_left _ old, part⟩
  have wire :
      ∀ transfer ∈ before.wire,
        ∃ answer ∈ answered ++ before.answers event,
          answer.1.connection = transfer.origin ∧
            transfer.bytes <:+: answer.2.getD [] := by
    intro transfer member
    obtain ⟨answer, old, part⟩ := sourced.wire transfer member
    exact ⟨answer, List.mem_append_left _ old, part⟩
  cases stepped.traffic with
  | quiet fewer same silent =>
      refine ⟨fun write member => writes write (fewer.subset member), ?_⟩
      dsimp only
      rw [same]
      exact wire
  | began write sends _ _ _ _ more same =>
      constructor
      · intro other member
        dsimp only at member
        rw [more] at member
        rcases List.mem_append.mp member with old | new
        · exact writes other old
        · obtain rfl := List.mem_singleton.mp new
          obtain ⟨answer, given, number, whole⟩ :=
            @answer_of_sends _ before event other (by simp [sends])
          exact ⟨answer, List.mem_append_right _ given, number,
            whole ▸ List.suffix_rfl⟩
      · dsimp only
        rw [same]
        exact wire
  | moved front back write piece more _ parts _ _ _ _ _ outstanding
      rest extended =>
      obtain ⟨answer, given, number, part⟩ :=
        writes write (by simp [outstanding])
      rw [parts] at part
      constructor
      · intro other member
        dsimp only at member
        rw [rest] at member
        rcases List.mem_append.mp member with old | old
        · exact writes other (by simp [outstanding, old])
        · rcases List.mem_cons.mp old with rfl | old
          · exact ⟨answer, given, number,
              (List.suffix_append piece more).trans part⟩
          · exact writes other (by simp [outstanding, old])
      · intro transfer member
        dsimp only at member
        rw [extended] at member
        rcases List.mem_append.mp member with old | new
        · exact wire transfer old
        · obtain rfl := List.mem_singleton.mp new
          exact ⟨answer, given, number,
            (List.prefix_append piece more).isInfix.trans part.isInfix⟩

theorem sourced [Header H]
    {cfg : Config} {header : H} {events : List Event}
    {state : Server H × List Answer}
    (run :
      Run (recorded (step cfg) Server.answers)
        (Server.start cfg header, []) events state) :
    Sourced state := by
  refine Run.invariant Sourced ?_ ?_ run
  · have fresh := Server.start_fresh cfg header
    exact ⟨by simp [fresh.writes], by simp [fresh.wire]⟩
  · rintro ⟨before, answered⟩ event ⟨after, record⟩ held taken
    obtain ⟨stepped, rfl⟩ := stepped_of_recorded taken
    exact held.stepped stepped

/-- A function that sends the body back behind a first byte. -/
def echoing : List (Int32 × FunctionObject Unit) :=
  [(101, fun _ buffer => some (1 :: buffer))]

/-- A peer sends a message, and the first byte of the answer is written. -/
def answeredOnce : List Event :=
  [.acceptDone false,
    .receiveDone 0 (.received (DummyServer.headerImage 1)) false,
    .receiveDone 0 (.received (DummyServer.bodyImage 1)) false,
    .getPacketInfo, .processing 0 (some [1, 0]), .send 0,
    .writeSome 0 1]

end LibSklt.Net
