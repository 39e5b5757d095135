import LibSklt.Net.BodyBlocks

/-!
# Body blocks that do not go back

A worker releases nothing for a packet of size zero, although an empty body
still has a block for its ender; an accepted header replaces the pointer to a
block that was not released; and an exception of `m_tcpSocket.close()` ends
`Close` before it releases the block.  If none of this happens, every block
has been released once all connections are closed and all packets handled.
-/

namespace LibSklt.Net

open LibSklt.Foundation.Ledger
open LibSklt.Foundation.MachineWord
open LibSklt.Foundation.Transition

variable {H : Type}

/-! ## What a step may drop -/

/-- The session whose body arrives completely in this step. -/
def Server.completesBody (server : Server H) : Event → Option Nat
  | .receiveDone index (.received bytes) _ =>
      server.receives[index]?.bind fun receive =>
        if receive.stage = .body ∧
            (server.sessions receive.session).sizeOfBodyBuffer =
              bytes.length then
          some receive.session
        else
          none
  | _ => none

/--
No new block replaces the pointer to an unreleased block, no unreleased block
is handed over with an empty body, and no `Close` is cut off before it
releases one.
-/
structure NothingDropped [Header H] (cfg : Config) (before : Server H)
    (event : Event) : Prop where
  replaced :
    ∀ session ∈ before.obtainsBlock cfg event,
      ∀ block ∈ (before.sessions session).bodyBuffer,
        0 < releaseCount before.ledger block
  handedOver :
    ∀ session ∈ before.completesBody event,
      ∀ block ∈ (before.sessions session).bodyBuffer,
        releaseCount before.ledger block = 0 →
          subWord cfg.build.sizeBits
              (before.sessions session).sizeOfBodyBuffer
              (Header.getEnderSize (before.sessions session).header) ≠ 0
  cutOff :
    ∀ session ∈ before.closeThrows cfg event,
      ∀ block ∈ (before.sessions session).bodyBuffer,
        0 < releaseCount before.ledger block

instance [Header H] (cfg : Config) (before : Server H) (event : Event) :
    Decidable (NothingDropped cfg before event) :=
  decidable_of_iff
    ((∀ session ∈ before.obtainsBlock cfg event,
        ∀ block ∈ (before.sessions session).bodyBuffer,
          0 < releaseCount before.ledger block) ∧
      (∀ session ∈ before.completesBody event,
        ∀ block ∈ (before.sessions session).bodyBuffer,
          releaseCount before.ledger block = 0 →
            subWord cfg.build.sizeBits
                (before.sessions session).sizeOfBodyBuffer
                (Header.getEnderSize (before.sessions session).header) ≠
              0) ∧
      ∀ session ∈ before.closeThrows cfg event,
        ∀ block ∈ (before.sessions session).bodyBuffer,
          0 < releaseCount before.ledger block)
    ⟨fun all => ⟨all.1, all.2.1, all.2.2⟩,
      fun meets => ⟨meets.replaced, meets.handedOver, meets.cutOff⟩⟩

/-! ## Unreleased blocks -/

/--
A session with an unreleased block has an open connection, or a receive
operation whose completion closes the session.
-/
def Guarded (server : Server H) : Prop :=
  ∀ session block, (server.sessions session).bodyBuffer = some block →
    releaseCount server.ledger block = 0 →
      (server.sessions session).tcpSocket.isOpen = true ∨
        ∃ receive ∈ server.receives, receive.session = session

/-- A session with a block knows the size to release it with. -/
def Releasable (server : Server H) : Prop :=
  ∀ session, (server.sessions session).bodyBuffer ≠ none →
    (server.sessions session).sizeOfPrevBodyBuffer ≠ 0

theorem Releasable.step [Header H]
    {cfg : Config} {before after : Server H} {event : Event}
    (releasable : Releasable before)
    (blockStep : BlockStep cfg before event after.blocks) :
    Releasable after := by
  have known :
      ∀ session, before.blocks.pointer session ≠ none →
        before.blocks.prevSize session ≠ 0 := releasable
  change
    ∀ session, after.blocks.pointer session ≠ none →
      after.blocks.prevSize session ≠ 0
  generalize after.blocks = blocks at blockStep
  intro session held
  cases blockStep with
  | allocated holder block size _ _ _ _ _ _ positive =>
      by_cases own : session = holder
      · subst session
        simp only [Blocks.allocate, Function.update_self]
        exact Nat.ne_of_gt positive
      · simp only [Blocks.allocate, ne_eq, own, not_false_eq_true,
          Function.update_of_ne] at held ⊢
        exact known session held
  | handedOver index receive =>
      by_cases own : session = receive.session
      · subst session
        simp [Blocks.handOver] at held
      · simp only [Blocks.handOver, ne_eq, own, not_false_eq_true,
          Function.update_of_ne] at held
        exact known session held
  | released => exact known session held
  | handled => exact known session held
  | kept => exact known session held

theorem releasable [Header H]
    {cfg : Config} {header : H} {events : List Event} {server : Server H}
    (run : Run (step cfg) (Server.start cfg header) events server) :
    Releasable server := by
  refine Run.invariant Releasable ?_ ?_ run
  · intro session held
    rw [start_sessions] at held
    simp [AsyncSessionImpl.make] at held
  · intro before event after held taken
    exact held.step (blockStep_of_stepped (stepped_of_step taken))

/-- After a call of `Close` that is not cut off, the block is released. -/
theorem released_of_closing
    (cfg : Config) {server : Server H} {this : Nat} {closeFails : Bool}
    {outcome : Outcome H} (releasable : Releasable server)
    (closing :
      AsyncSessionImpl.Closing closeFails (server.sessions this) outcome)
    (cutOff :
      (server.sessions this).tcpSocket.isOpen = true →
        closeFails = true →
          ∀ block ∈ (server.sessions this).bodyBuffer,
            0 < releaseCount server.ledger block)
    {block : Block}
    (held :
      ((server.apply cfg this outcome).sessions this).bodyBuffer =
        some block) :
    0 < releaseCount (server.apply cfg this outcome).ledger block := by
  rw [sessions_apply_self, closing.bodyBuffer] at held
  cases closing with
  | threw failed _ _ _ _ entries =>
      have earlier := cutOff failed.1 failed.2 block held
      simp only [Server.apply, entries, List.append_nil]
      exact earlier
  | closed _ _ _ _ _ entries =>
      have size := releasable this (by simp [held])
      have released :
          (server.apply cfg this outcome).ledger =
            server.ledger ++
              [AsyncSessionImpl.bufferRelease .close block
                (server.sessions this).sizeOfPrevBodyBuffer] := by
        simp [Server.apply, entries, AsyncSessionImpl.closeEntries, held,
          size]
      rw [released, releaseCount_append, AsyncSessionImpl.bufferRelease]
      simp

/-- A call on another session keeps a session guarded. -/
theorem Guarded.apply_other
    {cfg : Config} {server : Server H} {this : Nat} {outcome : Outcome H}
    (guarded : Guarded server)
    {session : Nat} (other : session ≠ this) {block : Block}
    (held :
      ((server.apply cfg this outcome).sessions session).bodyBuffer =
        some block)
    (unreleased :
      releaseCount (server.apply cfg this outcome).ledger block = 0) :
    ((server.apply cfg this outcome).sessions
        session).tcpSocket.isOpen = true ∨
      ∃ receive ∈ server.receives, receive.session = session := by
  rw [sessions_apply_of_ne cfg server outcome other] at held ⊢
  refine guarded session block held ?_
  simp only [Server.apply, releaseCount_append] at unreleased
  omega

theorem mem_eraseIdx_of_session_ne
    {receives : List Receive} {index : Nat} {ended receive : Receive}
    (outstanding : receives[index]? = some ended)
    (member : receive ∈ receives)
    (other : receive.session ≠ ended.session) :
    receive ∈ receives.eraseIdx index := by
  obtain ⟨place, here⟩ := List.mem_iff_getElem?.mp member
  refine List.mem_eraseIdx_iff_getElem?.mpr ⟨place, ?_, here⟩
  rintro rfl
  rw [outstanding, Option.some.injEq] at here
  exact other (congrArg Receive.session here.symm)

/-- A completed receive operation concerns its own session only. -/
theorem Guarded.receive_other
    {server : Server H} {index : Nat} {ended : Receive}
    {outcome : Outcome H} (guarded : Guarded server) (cfg : Config)
    (outstanding : server.receives[index]? = some ended)
    (started : List Receive)
    {session : Nat} (other : session ≠ ended.session) {block : Block}
    (held :
      ((server.apply cfg ended.session outcome).sessions
        session).bodyBuffer = some block)
    (unreleased :
      releaseCount (server.apply cfg ended.session outcome).ledger
        block = 0) :
    ((server.apply cfg ended.session outcome).sessions
        session).tcpSocket.isOpen = true ∨
      ∃ receive ∈ server.receives.eraseIdx index ++ started,
        receive.session = session := by
  rcases guarded.apply_other other held unreleased with
    isOpen | ⟨receive, member, own⟩
  · exact Or.inl isOpen
  · refine Or.inr ⟨receive, List.mem_append_left _ ?_, own⟩
    exact mem_eraseIdx_of_session_ne outstanding member
      (fun same => other (own.symm.trans same))

theorem Guarded.close [Header H]
    {cfg : Config} {server : Server H} {event : Event} {this : Nat}
    (guarded : Guarded server) (releasable : Releasable server)
    (meets : NothingDropped cfg server event)
    (closes : server.closes cfg event = some this) :
    Guarded (server.close cfg this event.closeFails) := by
  intro session block held unreleased
  by_cases own : session = this
  · subst session
    have released :=
      released_of_closing cfg releasable
        (AsyncSessionImpl.close_closing event.closeFails _)
        (fun isOpen fails => meets.cutOff this
          (closeThrows_eq_some_iff.mpr ⟨closes, isOpen, fails⟩)) held
    exact absurd unreleased (Nat.ne_of_gt released)
  · exact guarded.apply_other own held unreleased

theorem Guarded.acquireSession
    {server : Server H} (guarded : Guarded server) (cfg : Config) :
    Guarded (server.acquireSession cfg) := by
  obtain ⟨pool, acceptor, equal⟩ := server.acquireSession_eq cfg
  rw [equal]
  exact guarded

/-- The accepted session is open; for the others nothing changes. -/
theorem Guarded.acceptClient [Header H]
    {server : Server H} (guarded : Guarded server) (offered : Nat) :
    Guarded (server.acceptClient offered) := by
  intro session block held unreleased
  by_cases own : session = offered
  · subst session
    rw [sessions_acceptClient_self]
    exact Or.inl rfl
  · rw [sessions_acceptClient_of_ne server own] at held ⊢
    rcases guarded session block held unreleased with
      isOpen | ⟨receive, member, same⟩
    · exact Or.inl isOpen
    · exact Or.inr ⟨receive, List.mem_append_left _ member, same⟩

theorem Guarded.stepped [Header H]
    {cfg : Config} {before after : Server H} {event : Event}
    (guarded : Guarded before) (releasable : Releasable before)
    (meets : NothingDropped cfg before event)
    (stepped : Stepped cfg before event after) :
    Guarded after := by
  cases stepped with
  | rejected => exact guarded.acquireSession cfg
  | admitted offered =>
      exact (guarded.acceptClient offered).acquireSession cfg
  | abandoned index ended completion closeFails session outstanding _
      givesUp =>
      intro holder block held unreleased
      by_cases own : holder = ended.session
      · subst holder
        have closes :=
          closes_receiveDone outstanding givesUp.refused closeFails
        have released :=
          released_of_closing cfg releasable
            (AsyncSessionImpl.abandon_closing givesUp.same closeFails)
            (fun isOpen fails => meets.cutOff ended.session
              (closeThrows_eq_some_iff.mpr ⟨closes, isOpen, fails⟩)) held
        exact absurd unreleased (Nat.ne_of_gt released)
      · have other :=
          guarded.receive_other cfg outstanding [] own held unreleased
        rwa [List.append_nil] at other
  | headerRead index ended bytes closeFails outstanding _ _ _ outcome =>
      intro holder block held unreleased
      by_cases own : holder = ended.session
      · exact Or.inr ⟨_, List.mem_append_right _
          (List.mem_singleton_self _), own.symm⟩
      · exact guarded.receive_other cfg outstanding _ own held unreleased
  | bodyRead index ended bytes closeFails outstanding _ _ _ _ outcome =>
      intro holder block held unreleased
      by_cases own : holder = ended.session
      · exact Or.inr ⟨_, List.mem_append_right _
          (List.mem_singleton_self _), own.symm⟩
      · exact guarded.receive_other cfg outstanding _ own held unreleased
  | writeFailed index write closeFails outstanding =>
      exact guarded.close releasable meets
        (closes_writeDone outstanding cfg closeFails)
  | closed session closeFails =>
      exact guarded.close releasable meets rfl
  | processed index packet response busy =>
      intro session block held unreleased
      refine guarded session block held ?_
      rw [releaseCount_append] at unreleased
      omega
  | wrote => exact guarded
  | writeDelivered => exact guarded
  | taken => exact guarded
  | sent => exact guarded

theorem guarded [Header H]
    {cfg : Config} {header : H} {events : List Event} {server : Server H}
    (run :
      RunWhere (step cfg) (NothingDropped cfg) (Server.start cfg header)
        events server) :
    Guarded server := by
  refine RunWhere.invariant Releasable Guarded releasable ?_ ?_ run
  · intro session block held
    rw [start_sessions] at held
    simp [AsyncSessionImpl.make] at held
  · intro before event after known held meets taken
    exact held.stepped known meets (stepped_of_step taken)

/-! ## No block is lost -/

/-- A block has been released, or a worker will, or a session points to it. -/
def Blocks.Traced (blocks : Blocks) (block : Block) : Prop :=
  0 < releaseCount blocks.ledger block ∨
    (∃ packet ∈ blocks.pending,
      packet.buffer = some block ∧ 0 < packet.sizeOfBuffer) ∨
    ∃ session, blocks.pointer session = some block

/-- Entries are only added to the ledger. -/
theorem BlockStep.ledger [Header H]
    {cfg : Config} {before : Server H} {event : Event} {after : Blocks}
    (blockStep : BlockStep cfg before event after) (block : Block) :
    releaseCount before.ledger block ≤ releaseCount after.ledger block := by
  cases blockStep with
  | allocated =>
      simp only [Blocks.allocate, releaseCount_append]
      exact Nat.le_add_right _ _
  | handedOver => exact Nat.le_refl _
  | released =>
      simp only [Blocks.release, releaseCount_append]
      exact Nat.le_add_right _ _
  | handled =>
      simp only [Blocks.handle, releaseCount_append]
      exact Nat.le_add_right _ _
  | kept => exact Nat.le_refl _

/-- A traced block is not lost in a step that drops nothing. -/
theorem Blocks.Traced.step [Header H]
    {cfg : Config} {before : Server H} {event : Event} {after : Blocks}
    {block : Block}
    (traced : before.blocks.Traced block)
    (meets : NothingDropped cfg before event)
    (blockStep : BlockStep cfg before event after) :
    after.Traced block := by
  rcases traced with released | waiting | held
  · exact Or.inl (Nat.lt_of_lt_of_le released (blockStep.ledger block))
  · obtain ⟨packet, member, buffer, size⟩ := waiting
    cases blockStep with
    | allocated => exact Or.inr (Or.inl ⟨packet, member, buffer, size⟩)
    | handedOver =>
        exact Or.inr (Or.inl
          ⟨packet, Multiset.mem_cons_of_mem member, buffer, size⟩)
    | released => exact Or.inr (Or.inl ⟨packet, member, buffer, size⟩)
    | handled handled rest pending =>
        rw [pending, Multiset.mem_cons] at member
        rcases member with rfl | remaining
        · refine Or.inl (releaseCount_pos_iff.mpr
            ⟨⟨.worker, packet.sizeOfBuffer % 2 ^ 32⟩, ?_⟩)
          refine List.mem_append_right _ ?_
          simp only [Server.processingEntries, buffer]
          rw [if_pos size]
          exact List.mem_singleton_self _
        · exact Or.inr (Or.inl ⟨packet, remaining, buffer, size⟩)
    | kept => exact Or.inr (Or.inl ⟨packet, member, buffer, size⟩)
  · obtain ⟨session, held⟩ := held
    cases blockStep with
    | allocated holder other size _ obtains =>
        by_cases own : session = holder
        · subst session
          have released := meets.replaced holder obtains block held
          exact Or.inl (Nat.lt_of_lt_of_le released (by
            simp only [Blocks.allocate, releaseCount_append]
            exact Nat.le_add_right _ _))
        · refine Or.inr (Or.inr ⟨session, ?_⟩)
          simpa [Blocks.allocate, own] using held
    | handedOver index receive bytes closeFails completes outstanding _
        stage complete =>
        by_cases own : session = receive.session
        · subst session
          have arrived :
              before.completesBody event = some receive.session := by
            simp [completes, Server.completesBody, outstanding, stage,
              complete]
          rcases Nat.eq_zero_or_pos
              (releaseCount before.ledger block) with never | released
          · have size :=
              meets.handedOver receive.session arrived block held never
            exact Or.inr (Or.inl
              ⟨(before.sessions receive.session).packet cfg
                  receive.session bytes,
                by simp [Blocks.handOver], held,
                Nat.pos_of_ne_zero size⟩)
          · exact Or.inl released
        · refine Or.inr (Or.inr ⟨session, ?_⟩)
          simpa [Blocks.handOver, own] using held
    | released => exact Or.inr (Or.inr ⟨session, held⟩)
    | handled => exact Or.inr (Or.inr ⟨session, held⟩)
    | kept => exact Or.inr (Or.inr ⟨session, held⟩)

/-- A new block is traced through the pointer of its session. -/
theorem BlockStep.traced_new [Header H]
    {cfg : Config} {before : Server H} {event : Event} {after : Blocks}
    {block : Block}
    (blockStep : BlockStep cfg before event after)
    (acquired : .acquired block ∈ after.ledger) :
    .acquired block ∈ before.ledger ∨ after.Traced block := by
  cases blockStep with
  | allocated session new =>
      rcases List.mem_append.mp acquired with old | last
      · exact Or.inl old
      · rw [List.mem_singleton, Entry.acquired.injEq] at last
        subst block
        refine Or.inr (Or.inr (Or.inr ⟨session, ?_⟩))
        simp [Blocks.allocate]
  | handedOver => exact Or.inl acquired
  | released =>
      rcases List.mem_append.mp acquired with old | last
      · exact Or.inl old
      · simp [AsyncSessionImpl.bufferRelease] at last
  | handled packet =>
      rcases List.mem_append.mp acquired with old | last
      · exact Or.inl old
      · simp only [Server.processingEntries] at last
        split at last
        · split at last <;> simp [AsyncSessionImpl.bufferRelease] at last
        · simp at last
  | kept => exact Or.inl acquired

/-- Every block that was ever obtained is traced. -/
theorem blocks_traced [Header H]
    {cfg : Config} {header : H} {events : List Event} {server : Server H}
    (run :
      RunWhere (step cfg) (NothingDropped cfg) (Server.start cfg header)
        events server) :
    ∀ block, .acquired block ∈ server.ledger →
      server.blocks.Traced block := by
  refine RunWhere.invariant (fun _ => True)
    (fun server =>
      ∀ block, .acquired block ∈ server.ledger →
        server.blocks.Traced block)
    (fun _ => trivial) ?_ ?_ run
  · intro block acquired
    simp [(Server.start_fresh cfg header).ledger] at acquired
  · intro before event after _ traced meets taken block acquired
    have blockStep := blockStep_of_stepped (stepped_of_step taken)
    rcases blockStep.traced_new acquired with old | new
    · exact (traced block old).step meets blockStep
    · exact new

/-- All connections are closed and all packets handled. -/
structure Quiescent (server : Server H) : Prop where
  closed :
    ∀ session, (server.sessions session).tcpSocket.isOpen = false
  receives : server.receives = []
  packetQueue : server.packetQueue = []
  tasks : ∀ task ∈ server.tasks, task.phase ≠ .handling

theorem Quiescent.pending
    {server : Server H} (quiescent : Quiescent server) :
    server.blocks.pending = 0 := by
  have none : handlingPackets server.tasks = 0 := by
    rw [handlingPackets, Multiset.map_eq_zero,
      Multiset.filter_eq_nil]
    exact quiescent.tasks
  simp [Server.blocks, quiescent.packetQueue, none]

/--
If nothing is dropped, every body block has been released once all
connections are closed and all packets handled.
-/
theorem body_blocks_settled [Header H]
    {cfg : Config} {header : H} {events : List Event} {server : Server H}
    (run :
      RunWhere (step cfg) (NothingDropped cfg) (Server.start cfg header)
        events server)
    (quiescent : Quiescent server) :
    Settled server.ledger := by
  intro block acquired
  rcases blocks_traced run block acquired with
    released | ⟨packet, member, -⟩ | ⟨session, held⟩
  · exact released
  · simp [quiescent.pending] at member
  · rw [Nat.pos_iff_ne_zero]
    intro never
    rcases guarded run session block held never with
      isOpen | ⟨receive, member, -⟩
    · simp [quiescent.closed session] at isOpen
    · simp [quiescent.receives] at member

/-- A check for quiescence that looks at the pooled sessions only. -/
def Server.isQuiescent (cfg : Config) (server : Server H) : Bool :=
  decide ((server.openSessions cfg).card = 0) &&
    server.receives.isEmpty && server.packetQueue.isEmpty &&
    server.tasks.isEmpty

/-- Only the pooled sessions ever have a connection. -/
theorem quiescent_of_isQuiescent [Header H]
    {cfg : Config} {header : H} {events : List Event} {server : Server H}
    (run : Run (step cfg) (Server.start cfg header) events server)
    (checked : server.isQuiescent cfg = true) :
    Quiescent server := by
  simp only [Server.isQuiescent, Bool.and_eq_true, decide_eq_true_eq,
    List.isEmpty_iff] at checked
  obtain ⟨⟨⟨closed, receives⟩, packetQueue⟩, tasks⟩ := checked
  refine ⟨?_, receives, packetQueue, by simp [tasks]⟩
  intro session
  by_contra isOpen
  rw [Bool.not_eq_false] at isOpen
  have acquired := sockets_serve run session isOpen
  have below :=
    ((custody_sound run).serving session acquired).trans_le
      (Custody.capacity_le cfg)
  have member : session ∈ server.openSessions cfg := by
    simp [Server.openSessions, below, isOpen]
  simp [Finset.card_eq_zero.mp closed] at member

/-- The first client leaves in a body, the last one after its message. -/
def allReturned : List Event :=
  pointerReplaced ++ [.send 0, .receiveDone 0 .failed false]

theorem body_blocks_settled_all_returned :
    ∃ server,
      RunWhere (step (DummyServer.configureIni 2))
          (NothingDropped (DummyServer.configureIni 2))
          (DummyServer.dummyServer 2) allReturned server ∧
        Quiescent server ∧
        server.ledger.length = 4 ∧
        Settled server.ledger := by
  have executed :
      (execWhere (step (DummyServer.configureIni 2))
        (NothingDropped (DummyServer.configureIni 2))
        (DummyServer.dummyServer 2) allReturned).map
          (fun server =>
            (server.isQuiescent (DummyServer.configureIni 2),
              server.ledger.length)) =
        some (true, 4) := by
    decide
  obtain ⟨server, run, values⟩ := exists_runWhere_of_map_exec executed
  rw [Prod.mk.injEq] at values
  have quiescent := quiescent_of_isQuiescent run.toRun values.1
  exact ⟨server, run, quiescent, values.2,
    body_blocks_settled run quiescent⟩

/-- A client sends a message with an empty body and leaves. -/
def emptyBody : List Event :=
  [.acceptDone false,
    .receiveDone 0 (.received (DummyServer.headerImage 0)) false,
    .receiveDone 0 (.received (DummyServer.bodyImage 0)) false,
    .getPacketInfo, .processing 0 none, .send 0,
    .receiveDone 0 .failed false]

/-- The block of the ender is never released. -/
theorem body_block_of_empty_body_lost :
    ∃ server,
      Run (step (DummyServer.configureIni 2)) (DummyServer.dummyServer 2)
          emptyBody server ∧
        Quiescent server ∧
        ¬ Settled server.ledger := by
  have executed :
      (execWhere (step (DummyServer.configureIni 2)) (fun _ _ => True)
        (DummyServer.dummyServer 2) emptyBody).map
          (fun server =>
            (server.isQuiescent (DummyServer.configureIni 2),
              server.ledger)) =
        some (true, [.acquired ⟨0, 0, 16⟩]) := by
    decide
  obtain ⟨server, run, values⟩ := exists_runWhere_of_map_exec executed
  rw [Prod.mk.injEq] at values
  obtain ⟨checked, ledger⟩ := values
  refine ⟨server, run, quiescent_of_isQuiescent run checked, ?_⟩
  intro settled
  have released := settled ⟨0, 0, 16⟩ (by simp [ledger])
  rw [ledger] at released
  simp at released

end LibSklt.Net
