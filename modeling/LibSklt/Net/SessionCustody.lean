import LibSklt.DummyServer.Main

/-!
# Custody of the pooled sessions

Where every session is at any time: in the queue of the pool, offered to the
next client by the accept loop, or serving a connection.  Only the pool, the
accept loop and the `m_nSessionPoolState` of the sessions matter for this, so
the server is viewed as a smaller machine, `Custody`, with three kinds of
steps: a session is lost by a failed accept, taken into service by a
successful one, or returned by `Close`.

The invariant of that machine says that the three places are disjoint.  It
gives the conservation law: sessions in the three places, plus failed accepts
so far, always make up the number of sessions created at start-up.
-/

namespace LibSklt.Net

open LibSklt.Foundation.Transition
open LibSklt.Util

variable {H : Type}

/-! ## Start-up -/

/-- The number of sessions that `AsyncSessionPool::Initialize` gets pooled. -/
def capacity (cfg : Config) : Nat :=
  (initializeSessions cfg).queue.length

/--
The loop of `Initialize` queues the sessions in order until the queue
refuses one, and there was room for every one before.
-/
structure Filled (sizeBits max count : Nat) (pool : Pool Nat) : Prop where
  limit : pool.sizeFlexibleMaxCnt = max
  queue : pool.queue = List.range pool.queue.length
  bound : pool.queue.length ≤ count
  room :
    ∀ size < pool.queue.length, Pool.roomAt sizeBits max size = true
  stop :
    pool.queue.length = count ∨
      Pool.roomAt sizeBits max pool.queue.length = false

theorem createSessions_filled (sizeBits max count : Nat) :
    Filled sizeBits max count
      (createSessions sizeBits count (Pool.make max)) := by
  induction count with
  | zero =>
      exact ⟨rfl, rfl, Nat.le_refl _,
        fun size below => absurd below (Nat.not_lt_zero size),
        Or.inl rfl⟩
  | succ count inductionHypothesis =>
      obtain ⟨maxEq, queueEq, bound, room, stop⟩ := inductionHypothesis
      rw [createSessions, List.range_succ, List.foldl_append,
        List.foldl_cons, List.foldl_nil, ← createSessions, Pool.create]
      generalize createSessions sizeBits count (Pool.make max) = pool at *
      cases hasRoom : pool.hasRoom sizeBits with
      | true =>
          obtain ⟨-, appended⟩ := Pool.restore_of_hasRoom hasRoom count true
          have roomHere :
              Pool.roomAt sizeBits max pool.queue.length = true := by
            rw [← maxEq]
            exact hasRoom
          have full : pool.queue.length = count := by
            rcases stop with full | refused
            · exact full
            · simp [roomHere] at refused
          refine ⟨by simp [maxEq], ?_, ?_, ?_, Or.inl ?_⟩
          · rw [appended, List.length_append, List.length_singleton,
              List.range_succ, ← queueEq, full]
          · simp [appended, full]
          · intro size below
            rw [appended, List.length_append, List.length_singleton]
              at below
            rcases Nat.lt_succ_iff_lt_or_eq.mp below with earlier | last
            · exact room size earlier
            · rw [last]
              exact roomHere
          · simp [appended, full]
      | false =>
          rw [Pool.restore_of_not_hasRoom hasRoom]
          refine ⟨maxEq, queueEq, bound.trans (Nat.le_succ _), room,
            Or.inr ?_⟩
          rw [← maxEq]
          exact hasRoom

/-- The pool right after start-up. -/
theorem initializeSessions_filled (cfg : Config) :
    Filled cfg.build.sizeBits cfg.sessionPoolCount cfg.sessionPoolCount
      (initializeSessions cfg) :=
  createSessions_filled _ _ _

theorem roomAt_of_lt_capacity
    {cfg : Config} {size : Nat} (below : size < capacity cfg) :
    Pool.roomAt cfg.build.sizeBits cfg.sessionPoolCount size = true :=
  (initializeSessions_filled cfg).room size below

/--
All configured sessions get pooled exactly when their number fits an
`int32_t`; otherwise the cast in `Restore` refuses the later ones.
-/
theorem capacity_eq_iff
    {cfg : Config} (wide : cfg.build.sizeBits = 64)
    (word : cfg.sessionPoolCount < 2 ^ 64) :
    capacity cfg = cfg.sessionPoolCount ↔
      cfg.sessionPoolCount ≤ 2 ^ 31 := by
  have filled := initializeSessions_filled cfg
  rw [wide] at filled
  rw [← Pool.roomAt_all_iff word]
  constructor
  · intro all size below
    exact filled.room size (by
      change size < capacity cfg
      omega)
  · intro room
    rcases filled.stop with full | refused
    · exact full
    · rcases Nat.lt_or_ge (capacity cfg) cfg.sessionPoolCount with
        fewer | all
      · have here := room _ fewer
        rw [capacity, refused] at here
        simp at here
      · exact Nat.le_antisymm filled.bound all

/-! ## The custody machine -/

/-- The part of the server that decides where its sessions are. -/
@[ext]
structure Custody where
  pool : Pool Nat
  acceptor : Acceptor
  states : Nat → SessionPoolState

/-- The custody view of a server. -/
def Server.custody (server : Server H) : Custody where
  pool := server.pool
  acceptor := server.acceptor
  states session := (server.sessions session).sessionPoolState

namespace Custody

/-- The accept loop takes the next session from the pool. -/
def acquireSession (cfg : Config) (custody : Custody) : Custody :=
  match custody.pool.acquire cfg.build.sizeBits with
  | (some session, pool) =>
      { custody with pool := pool, acceptor := .offering session }
  | (none, pool) =>
      { custody with pool := pool, acceptor := .disengaged }

/-- The offered session begins to serve a connection. -/
def serve (session : Nat) (custody : Custody) : Custody :=
  { custody with
    states := Function.update custody.states session .kAcquire }

/-- A serving session is returned to the pool. -/
def giveBack (cfg : Config) (session : Nat) (custody : Custody) :
    Custody :=
  { custody with
    states := Function.update custody.states session .kRestore
    pool :=
      (custody.pool.restore cfg.build.sizeBits (some session) false).2 }

/-- The steps of the custody machine. -/
inductive Moved (cfg : Config) (before : Custody) :
    Event → Custody → Prop where
  | lost (session : Nat)
      (offering : before.acceptor = .offering session) :
      Moved cfg before (.acceptDone true) (before.acquireSession cfg)
  | served (session : Nat)
      (offering : before.acceptor = .offering session) :
      Moved cfg before (.acceptDone false)
        ((before.serve session).acquireSession cfg)
  | returned {event : Event} (session : Nat)
      (acquired : before.states session = .kAcquire)
      (other : ∀ failed, event ≠ .acceptDone failed) :
      Moved cfg before event (before.giveBack cfg session)
  | kept {event : Event} (other : ∀ failed, event ≠ .acceptDone failed) :
      Moved cfg before event before

end Custody

/-! ## The server refines the custody machine -/

theorem custody_acquireSession (cfg : Config) (server : Server H) :
    (server.acquireSession cfg).custody =
      server.custody.acquireSession cfg := by
  simp only [Server.acquireSession, Custody.acquireSession,
    Server.custody]
  obtain ⟨acquired, pool⟩ := server.pool.acquire cfg.build.sizeBits
  cases acquired with
  | none => rfl
  | some session => rfl

theorem custody_acceptClient [Header H] (session : Nat) (server : Server H) :
    (server.acceptClient session).custody = server.custody.serve session := by
  simp only [Server.custody, Server.acceptClient, Custody.serve,
    Custody.mk.injEq, true_and]
  funext other
  by_cases same : other = session
  · subst other
    simp [Server.admitted, AsyncSessionImpl.recv]
  · simp [same]

/-- A call that does not touch the pool state keeps the custody. -/
theorem custody_apply_of_same
    {cfg : Config} {this : Nat} {outcome : Outcome H} {server : Server H}
    (restored : outcome.restored = false)
    (state :
      outcome.session.sessionPoolState =
        (server.sessions this).sessionPoolState) :
    (server.apply cfg this outcome).custody = server.custody := by
  simp only [Server.custody, Server.apply, restored, Bool.false_eq_true,
    if_false, Custody.mk.injEq, true_and]
  funext other
  by_cases same : other = this
  · subst other
    simp [state]
  · simp [same]

/-- `Close` returns an acquired session, and otherwise keeps the custody. -/
theorem custody_apply_closing
    (cfg : Config) {this : Nat} {closeFails : Bool} {outcome : Outcome H}
    {server : Server H}
    (closing :
      AsyncSessionImpl.Closing closeFails (server.sessions this)
        outcome) :
    ((server.sessions this).sessionPoolState = .kAcquire ∧
        (server.apply cfg this outcome).custody =
          server.custody.giveBack cfg this) ∨
      (server.apply cfg this outcome).custody = server.custody := by
  cases closing with
  | threw _ _ _ _ state _ _ restored =>
      exact Or.inr (custody_apply_of_same restored state)
  | closed _ _ _ _ state _ _ restored =>
      by_cases acquired :
          (server.sessions this).sessionPoolState = .kAcquire
      · refine Or.inl ⟨acquired, ?_⟩
        have wasRestored : outcome.restored = true := by
          simp [restored, acquired]
        apply Custody.ext
        · simp only [Server.custody, Server.apply, wasRestored, if_true,
            Custody.giveBack]
        · rfl
        · funext other
          by_cases same : other = this
          · subst other
            simp [Server.custody, Server.apply, Custody.giveBack, state,
              acquired]
          · simp [Server.custody, Server.apply, Custody.giveBack, same]
      · refine Or.inr (custody_apply_of_same ?_ ?_)
        · simp [restored, acquired]
        · simp [state, acquired]

/-- The custody step of any step that applies a call of `Close`. -/
theorem moved_of_closing
    {cfg : Config} {this : Nat} {closeFails : Bool} {outcome : Outcome H}
    {server after : Server H} {event : Event}
    (closing :
      AsyncSessionImpl.Closing closeFails (server.sessions this) outcome)
    (view : after.custody = (server.apply cfg this outcome).custody)
    (other : ∀ failed, event ≠ .acceptDone failed) :
    Custody.Moved cfg server.custody event after.custody := by
  rw [view]
  rcases custody_apply_closing cfg closing with
    ⟨acquired, returned⟩ | kept
  · rw [returned]
    exact .returned this acquired other
  · rw [kept]
    exact .kept other

/-- Every step of the server is a step of the custody machine. -/
theorem moved_of_stepped [Header H]
    {cfg : Config} {before after : Server H} {event : Event}
    (stepped : Stepped cfg before event after) :
    Custody.Moved cfg before.custody event after.custody := by
  cases stepped with
  | rejected session offering =>
      rw [custody_acquireSession]
      exact .lost session offering
  | admitted session offering =>
      rw [custody_acquireSession, custody_acceptClient]
      exact .served session offering
  | abandoned index receive completion closeFails session _ _ givesUp =>
      exact moved_of_closing
        (AsyncSessionImpl.abandon_closing givesUp.same closeFails) rfl
        (fun _ => by simp)
  | headerRead index receive bytes closeFails _ _ _ _ outcome allocated =>
      have kept :
          (before.apply cfg receive.session outcome).custody =
            before.custody := by
        have accepting :=
          AsyncSessionImpl.allocateBody_accepting before.ledger.length
            ((before.sessions receive.session).measured cfg bytes)
        rw [allocated]
        exact custody_apply_of_same accepting.restored accepting.state
      exact Eq.subst (motive := Custody.Moved cfg before.custody _)
        kept.symm (.kept fun _ => by simp)
  | bodyRead index receive bytes closeFails _ _ _ _ _ outcome handed =>
      have kept :
          (before.apply cfg receive.session outcome).custody =
            before.custody := by
        apply custody_apply_of_same <;> rw [handed] <;> rfl
      exact Eq.subst (motive := Custody.Moved cfg before.custody _)
        kept.symm (.kept fun _ => by simp)
  | wrote => exact .kept fun _ => by simp
  | writeDelivered => exact .kept fun _ => by simp
  | writeFailed index write closeFails =>
      exact moved_of_closing
        ((before.sessions write.session).close_closing closeFails) rfl
        (fun _ => by simp)
  | closed session closeFails =>
      exact moved_of_closing
        ((before.sessions session).close_closing closeFails) rfl
        (fun _ => by simp)
  | taken => exact .kept fun _ => by simp
  | processed => exact .kept fun _ => by simp
  | sent => exact .kept fun _ => by simp

/-! ## The three places are disjoint -/

namespace Custody

/-- The pool holds sessions that exist, once each, and none that serves. -/
structure Shelved (cfg : Config) (custody : Custody) : Prop where
  limit : custody.pool.sizeFlexibleMaxCnt = cfg.sessionPoolCount
  nodup : custody.pool.queue.Nodup
  queued :
    ∀ session ∈ custody.pool.queue,
      session < capacity cfg ∧ custody.states session ≠ .kAcquire
  serving :
    ∀ session, custody.states session = .kAcquire →
      session < capacity cfg

/-- The offered session exists, is not in the pool and does not serve. -/
structure Sound (cfg : Config) (custody : Custody) : Prop
    extends Shelved cfg custody where
  offered :
    ∀ session, custody.acceptor = .offering session →
      session < capacity cfg ∧ session ∉ custody.pool.queue ∧
        custody.states session ≠ .kAcquire

variable {cfg : Config} {custody : Custody}

/-- The pool never holds all sessions while one of them serves. -/
theorem Shelved.length_lt
    (shelved : Shelved cfg custody) {session : Nat}
    (acquired : custody.states session = .kAcquire) :
    custody.pool.queue.length < capacity cfg := by
  have absent : session ∉ custody.pool.queue := fun member =>
    (shelved.queued session member).2 acquired
  have included :
      custody.pool.queue.toFinset ⊆
        (Finset.range (capacity cfg)).erase session := by
    intro other member
    rw [List.mem_toFinset] at member
    rw [Finset.mem_erase, Finset.mem_range]
    exact ⟨fun same => absent (same ▸ member),
      (shelved.queued other member).1⟩
  have bounded := Finset.card_le_card included
  have positive := shelved.serving session acquired
  rw [List.toFinset_card_of_nodup shelved.nodup,
    Finset.card_erase_of_mem (Finset.mem_range.mpr positive),
    Finset.card_range] at bounded
  omega

/-- So there is room for every serving session in the pool. -/
theorem Shelved.hasRoom
    (shelved : Shelved cfg custody) {session : Nat}
    (acquired : custody.states session = .kAcquire) :
    custody.pool.hasRoom cfg.build.sizeBits = true := by
  rw [Pool.hasRoom, shelved.limit]
  exact roomAt_of_lt_capacity (shelved.length_lt acquired)

theorem Shelved.sound_acquireSession (shelved : Shelved cfg custody) :
    Sound cfg (custody.acquireSession cfg) := by
  cases queue : custody.pool.queue with
  | nil =>
      rw [Custody.acquireSession, Pool.acquire_nil queue]
      exact ⟨⟨shelved.limit, shelved.nodup, shelved.queued,
        shelved.serving⟩, fun _ offering => by cases offering⟩
  | cons head rest =>
      have nodup := shelved.nodup
      rw [queue, List.nodup_cons] at nodup
      have queued : ∀ session ∈ head :: rest,
          session < capacity cfg ∧
            custody.states session ≠ .kAcquire := by
        rw [← queue]
        exact shelved.queued
      rw [Custody.acquireSession, Pool.acquire_cons queue]
      refine ⟨⟨shelved.limit, nodup.2, ?_, shelved.serving⟩, ?_⟩
      · intro session member
        exact queued session (List.mem_cons_of_mem head member)
      · intro session offering
        cases offering
        obtain ⟨below, idle⟩ := queued head List.mem_cons_self
        exact ⟨below, nodup.1, idle⟩

theorem Sound.shelved_serve
    (sound : Sound cfg custody) {session : Nat}
    (offering : custody.acceptor = .offering session) :
    Shelved cfg (custody.serve session) := by
  obtain ⟨below, absent, -⟩ := sound.offered session offering
  refine ⟨sound.limit, sound.nodup, ?_, ?_⟩
  · intro other member
    have different : other ≠ session := fun same =>
      absent (same ▸ member)
    simpa [serve, different] using sound.queued other member
  · intro other acquired
    by_cases same : other = session
    · exact same ▸ below
    · exact sound.serving other (by simpa [serve, same] using acquired)

theorem Sound.giveBack
    (sound : Sound cfg custody) {session : Nat}
    (acquired : custody.states session = .kAcquire) :
    Sound cfg (custody.giveBack cfg session) := by
  obtain ⟨-, appended⟩ :=
    Pool.restore_of_hasRoom (sound.hasRoom acquired) session false
  have absent : session ∉ custody.pool.queue := fun member =>
    (sound.queued session member).2 acquired
  have below := sound.serving session acquired
  have states :
      (custody.giveBack cfg session).states =
        Function.update custody.states session .kRestore := rfl
  have queue :
      (custody.giveBack cfg session).pool.queue =
        custody.pool.queue ++ [session] := appended
  refine ⟨⟨?_, ?_, ?_, ?_⟩, ?_⟩
  · simpa [Custody.giveBack] using sound.limit
  · rw [queue]
    exact sound.nodup.append (List.nodup_singleton session)
      (by simpa using absent)
  · intro other member
    rw [queue, List.mem_append, List.mem_singleton] at member
    rw [states]
    rcases member with member | rfl
    · have different : other ≠ session := fun same =>
        absent (same ▸ member)
      simpa [different] using sound.queued other member
    · simpa using below
  · intro other stillAcquired
    rw [states] at stillAcquired
    by_cases same : other = session
    · exact same ▸ below
    · exact sound.serving other (by simpa [same] using stillAcquired)
  · intro other offering
    obtain ⟨otherBelow, otherAbsent, idle⟩ := sound.offered other offering
    have different : other ≠ session := fun same =>
      idle (same ▸ acquired)
    rw [queue, states]
    exact ⟨otherBelow, by simp [otherAbsent, different],
      by simpa [different] using idle⟩

/-- The invariant of the custody machine. -/
theorem Sound.moved
    {after : Custody} {event : Event}
    (sound : Sound cfg custody)
    (moved : Moved cfg custody event after) :
    Sound cfg after := by
  cases moved with
  | lost session offering => exact sound.sound_acquireSession
  | served session offering =>
      exact (sound.shelved_serve offering).sound_acquireSession
  | returned session acquired => exact sound.giveBack acquired
  | kept => exact sound

end Custody

theorem start_shelved (cfg : Config) (header : H) :
    Custody.Shelved cfg
      { pool := initializeSessions cfg
        acceptor := .disengaged
        states := fun session =>
          (AsyncSessionImpl.make header
            (cfg.rawPrevSize session)).sessionPoolState } := by
  have filled := initializeSessions_filled cfg
  refine ⟨filled.limit, ?_, ?_, ?_⟩
  · change (initializeSessions cfg).queue.Nodup
    rw [filled.queue]
    exact List.nodup_range
  · intro session member
    change session ∈ (initializeSessions cfg).queue at member
    rw [filled.queue, List.mem_range] at member
    exact ⟨member, by simp [AsyncSessionImpl.make]⟩
  · intro session acquired
    simp [AsyncSessionImpl.make] at acquired

theorem custody_start (cfg : Config) (header : H) :
    (Server.start cfg header).custody =
      Custody.acquireSession cfg
        { pool := initializeSessions cfg
          acceptor := .disengaged
          states := fun session =>
            (AsyncSessionImpl.make header
              (cfg.rawPrevSize session)).sessionPoolState } :=
  custody_acquireSession cfg _

/-- In every reachable state the three places are disjoint. -/
theorem custody_sound [Header H]
    {cfg : Config} {header : H} {events : List Event} {server : Server H}
    (run : Run (step cfg) (Server.start cfg header) events server) :
    Custody.Sound cfg server.custody := by
  refine Run.invariant
    (fun server => Custody.Sound cfg server.custody) ?_ ?_ run
  · rw [custody_start]
    exact (start_shelved cfg header).sound_acquireSession
  · intro before event after sound taken
    exact sound.moved (moved_of_stepped (stepped_of_step taken))

/-! ## Open connections -/

/-- Whether `m_tcpSocket.close()` would throw in this step. -/
def Event.closeFails : Event → Bool
  | .receiveDone _ _ closeFails => closeFails
  | .writeDone _ _ closeFails => closeFails
  | .close _ closeFails => closeFails
  | _ => false

/-- The session on which this step calls `Close`. -/
def Server.closes [Header H] (cfg : Config) (server : Server H) :
    Event → Option Nat
  | .receiveDone index completion _ =>
      server.receives[index]?.bind fun receive =>
        if (server.sessions receive.session).accepts cfg receive.stage
            completion then
          none
        else
          some receive.session
  | .writeDone index true _ => server.writes[index]?.map Write.session
  | .close session _ => some session
  | _ => none

/-- The session whose `Close` is cut off in this step, because
`m_tcpSocket.close()` throws. -/
def Server.closeThrows [Header H] (cfg : Config) (server : Server H)
    (event : Event) : Option Nat :=
  (server.closes cfg event).filter fun session =>
    (server.sessions session).tcpSocket.isOpen && event.closeFails

theorem closes_receiveDone [Header H]
    {cfg : Config} {server : Server H} {index : Nat} {receive : Receive}
    {completion : Completion}
    (outstanding : server.receives[index]? = some receive)
    (refused :
      (server.sessions receive.session).accepts cfg receive.stage
        completion = false)
    (closeFails : Bool) :
    server.closes cfg (.receiveDone index completion closeFails) =
      some receive.session := by
  simp [Server.closes, outstanding, refused]

theorem closes_writeDone [Header H]
    {server : Server H} {index : Nat} {write : Write}
    (outstanding : server.writes[index]? = some write)
    (cfg : Config) (closeFails : Bool) :
    server.closes cfg (.writeDone index true closeFails) =
      some write.session := by
  simp [Server.closes, outstanding]

theorem closeThrows_eq_some_iff [Header H]
    {cfg : Config} {server : Server H} {event : Event} {session : Nat} :
    server.closeThrows cfg event = some session ↔
      server.closes cfg event = some session ∧
        (server.sessions session).tcpSocket.isOpen = true ∧
          event.closeFails = true := by
  simp [Server.closeThrows, Option.filter_eq_some_iff]

/-- A session with an open socket serves. -/
def SocketsServe (server : Server H) : Prop :=
  ∀ session,
    (server.sessions session).tcpSocket.isOpen = true →
      (server.sessions session).sessionPoolState = .kAcquire

theorem SocketsServe.apply
    {this : Nat} {outcome : Outcome H} {server : Server H}
    (serve : SocketsServe server) (cfg : Config)
    (same :
      outcome.session.tcpSocket.isOpen = true →
        outcome.session.sessionPoolState = .kAcquire) :
    SocketsServe (server.apply cfg this outcome) := by
  intro session
  by_cases own : session = this
  · subst session
    rw [sessions_apply_self]
    exact same
  · rw [sessions_apply_of_ne cfg server outcome own]
    exact serve session

theorem SocketsServe.apply_closing
    {this : Nat} {closeFails : Bool} {outcome : Outcome H}
    {server : Server H} (serve : SocketsServe server) (cfg : Config)
    (closing :
      AsyncSessionImpl.Closing closeFails (server.sessions this) outcome) :
    SocketsServe (server.apply cfg this outcome) := by
  apply serve.apply cfg
  rw [closing.tcpSocket]
  simp

theorem SocketsServe.stepped [Header H]
    {cfg : Config} {before after : Server H} {event : Event}
    (serve : SocketsServe before)
    (stepped : Stepped cfg before event after) :
    SocketsServe after := by
  cases stepped with
  | rejected =>
      intro session
      rw [sessions_acquireSession]
      exact serve session
  | admitted offered =>
      intro session
      rw [sessions_acquireSession]
      by_cases own : session = offered
      · subst session
        rw [sessions_acceptClient_self]
        exact fun _ => rfl
      · rw [sessions_acceptClient_of_ne before own]
        exact serve session
  | abandoned index receive completion closeFails session _ _ givesUp =>
      exact serve.apply_closing cfg
        (AsyncSessionImpl.abandon_closing givesUp.same closeFails)
  | headerRead index receive bytes closeFails _ _ _ _ outcome allocated =>
      have accepting :=
        AsyncSessionImpl.allocateBody_accepting before.ledger.length
          ((before.sessions receive.session).measured cfg bytes)
      apply serve.apply cfg
      rw [allocated, accepting.tcpSocket, accepting.state]
      exact serve receive.session
  | bodyRead index receive bytes closeFails _ _ _ _ _ outcome handed =>
      apply serve.apply cfg
      rw [handed]
      exact serve receive.session
  | wrote => exact serve
  | writeDelivered => exact serve
  | writeFailed index write closeFails =>
      exact serve.apply_closing cfg
        ((before.sessions write.session).close_closing closeFails)
  | closed session closeFails =>
      exact serve.apply_closing cfg
        ((before.sessions session).close_closing closeFails)
  | taken => exact serve
  | processed => exact serve
  | sent => exact serve

theorem start_sessions (cfg : Config) (header : H) (session : Nat) :
    (Server.start cfg header).sessions session =
      AsyncSessionImpl.make header (cfg.rawPrevSize session) := by
  rw [Server.start, sessions_acquireSession]

theorem sockets_serve [Header H]
    {cfg : Config} {header : H} {events : List Event} {server : Server H}
    (run : Run (step cfg) (Server.start cfg header) events server) :
    SocketsServe server := by
  refine Run.invariant SocketsServe ?_ ?_ run
  · intro session
    rw [start_sessions]
    simp [AsyncSessionImpl.make]
  · intro before event after serve taken
    exact serve.stepped (stepped_of_step taken)

/-! ## Conservation -/

namespace Custody

variable {cfg : Config} {custody : Custody}

/-- The sessions that serve a connection. -/
def servingSet (cfg : Config) (custody : Custody) : Finset Nat :=
  (Finset.range cfg.sessionPoolCount).filter fun session =>
    custody.states session = .kAcquire

@[simp]
theorem mem_servingSet_iff {session : Nat} :
    session ∈ custody.servingSet cfg ↔
      session < cfg.sessionPoolCount ∧
        custody.states session = .kAcquire := by
  simp [servingSet]

/-- One while a session is offered, none after the loop ran dry. -/
def offeredCount (custody : Custody) : Nat :=
  match custody.acceptor with
  | .offering _ => 1
  | .disengaged => 0

/-- The number of sessions in the three places. -/
def inPlace (cfg : Config) (custody : Custody) : Nat :=
  custody.pool.queue.length + custody.offeredCount +
    (custody.servingSet cfg).card

theorem capacity_le (cfg : Config) :
    capacity cfg ≤ cfg.sessionPoolCount :=
  (initializeSessions_filled cfg).bound

/-- Taking a session from the pool moves it from one place to another. -/
theorem inPlace_acquireSession (cfg : Config) (custody : Custody) :
    (custody.acquireSession cfg).inPlace cfg =
      custody.pool.queue.length + (custody.servingSet cfg).card := by
  cases queue : custody.pool.queue with
  | nil =>
      rw [acquireSession, Pool.acquire_nil queue]
      simp [inPlace, offeredCount, servingSet, queue]
  | cons head rest =>
      rw [acquireSession, Pool.acquire_cons queue]
      simp [inPlace, offeredCount, servingSet]

theorem card_servingSet_serve
    {session : Nat} (below : session < cfg.sessionPoolCount)
    (idle : custody.states session ≠ .kAcquire) :
    ((custody.serve session).servingSet cfg).card =
      (custody.servingSet cfg).card + 1 := by
  have inserted :
      (custody.serve session).servingSet cfg =
        insert session (custody.servingSet cfg) := by
    ext other
    by_cases same : other = session
    · subst other
      simp [serve, below]
    · simp [serve, same]
  rw [inserted, Finset.card_insert_of_notMem]
  simp [idle]

theorem card_servingSet_giveBack
    {session : Nat} (below : session < cfg.sessionPoolCount)
    (acquired : custody.states session = .kAcquire) :
    ((custody.giveBack cfg session).servingSet cfg).card + 1 =
      (custody.servingSet cfg).card := by
  have erased :
      (custody.giveBack cfg session).servingSet cfg =
        (custody.servingSet cfg).erase session := by
    ext other
    by_cases same : other = session
    · subst other
      simp [giveBack]
    · simp [giveBack, same]
  have member : session ∈ custody.servingSet cfg := by
    simp [below, acquired]
  rw [erased, Finset.card_erase_add_one member]

/-- A step keeps the number of sessions in place, or loses the offered one. -/
theorem Sound.inPlace_moved
    {after : Custody} {event : Event}
    (sound : Sound cfg custody)
    (moved : Moved cfg custody event after) :
    after.inPlace cfg + [event].count (.acceptDone true) =
      custody.inPlace cfg := by
  cases moved with
  | lost session offering =>
      rw [inPlace_acquireSession]
      simp [inPlace, offeredCount, offering]
      omega
  | served session offering =>
      obtain ⟨below, -, idle⟩ := sound.offered session offering
      have served :=
        card_servingSet_serve (Nat.lt_of_lt_of_le below (capacity_le cfg))
          idle
      rw [inPlace_acquireSession, served]
      simp [inPlace, offeredCount, offering, serve]
      omega
  | returned session acquired other =>
      obtain ⟨-, appended⟩ :=
        Pool.restore_of_hasRoom (sound.hasRoom acquired) session false
      have below :=
        Nat.lt_of_lt_of_le (sound.serving session acquired)
          (capacity_le cfg)
      have fewer := card_servingSet_giveBack below acquired
      have queue :
          (custody.giveBack cfg session).pool.queue.length =
            custody.pool.queue.length + 1 := by
        simpa [Custody.giveBack] using congrArg List.length appended
      have offered :
          (custody.giveBack cfg session).offeredCount =
            custody.offeredCount := rfl
      simp only [inPlace, queue, offered,
        List.count_singleton, beq_iff_eq, other, if_false]
      omega
  | kept other =>
      simp [other]

end Custody

/-- The accepts that failed. -/
def failedAccepts (events : List Event) : Nat :=
  events.count (.acceptDone true)

theorem failedAccepts_snoc (events : List Event) (event : Event) :
    failedAccepts (events ++ [event]) =
      failedAccepts events + [event].count (.acceptDone true) :=
  List.count_append

/--
The conservation law: the sessions in the three places, and one for each
failed accept, make up the sessions pooled at start-up.
-/
theorem inPlace_add_failedAccepts [Header H]
    {cfg : Config} {header : H} {events : List Event} {server : Server H}
    (run : Run (step cfg) (Server.start cfg header) events server) :
    server.custody.inPlace cfg + failedAccepts events = capacity cfg := by
  induction run with
  | start =>
      have empty :
          Custody.servingSet cfg
              { pool := initializeSessions cfg
                acceptor := .disengaged
                states := fun session =>
                  (AsyncSessionImpl.make header
                    (cfg.rawPrevSize session)).sessionPoolState } = ∅ := by
        simp [Custody.servingSet, AsyncSessionImpl.make]
      rw [custody_start, Custody.inPlace_acquireSession, empty]
      rfl
  | snoc earlier _ taken inductionHypothesis =>
      have sound := custody_sound earlier
      have step :=
        sound.inPlace_moved (moved_of_stepped (stepped_of_step taken))
      rw [failedAccepts_snoc]
      omega

/-! ## No session is handed out twice -/

/--
In every reachable state the queue of the pool holds no session twice and
none that serves, and the pool has room for every session that serves, so
that the `Restore` in `Close` succeeds.
-/
theorem pool_queue_nodup_and_restore [Header H]
    {cfg : Config} {header : H} {events : List Event} {server : Server H}
    (run : Run (step cfg) (Server.start cfg header) events server) :
    server.pool.queue.Nodup ∧
      ∀ session,
        (server.sessions session).sessionPoolState = .kAcquire →
          session ∉ server.pool.queue ∧
            (server.pool.restore cfg.build.sizeBits (some session)
              false).1 = true := by
  have sound := custody_sound run
  refine ⟨sound.nodup, ?_⟩
  intro session acquired
  constructor
  · intro member
    exact (sound.queued session member).2 acquired
  · exact (Pool.restore_of_hasRoom (sound.hasRoom acquired) session
      false).1

/--
Two sessions are used in turn; the first one is closed twice and then serves
a second client.
-/
def reuseEvents : List Event :=
  [.acceptDone false, .close 0 false, .close 0 false, .acceptDone false,
    .close 1 false, .acceptDone false]

theorem pool_queue_nodup_and_restore_reuse :
    ∃ server,
      Run (step (DummyServer.configureIni 2)) (DummyServer.dummyServer 2)
          reuseEvents server ∧
        server.pool.queue.Nodup ∧
        ∀ session,
          (server.sessions session).sessionPoolState = .kAcquire →
            session ∉ server.pool.queue ∧
              (server.pool.restore 64 (some session) false).1 = true := by
  have executed :
      (execWhere (step (DummyServer.configureIni 2)) (fun _ _ => True)
        (DummyServer.dummyServer 2) reuseEvents).isSome = true := by
    decide
  obtain ⟨server, run⟩ := exists_runWhere_of_exec executed
  have settled := pool_queue_nodup_and_restore run
  exact ⟨server, run, settled⟩

/-! ## The accept loop and an empty pool -/

/--
The sessions that were accepted and not restored since: they serve an open
connection, or their `Close` was cut off.
-/
def Server.acquiredSessions (cfg : Config) (server : Server H) :
    Finset Nat :=
  (Finset.range cfg.sessionPoolCount).filter fun session =>
    (server.sessions session).sessionPoolState = .kAcquire

namespace Custody

/-- Only a completed accept moves the accept loop. -/
theorem Moved.acceptor
    {cfg : Config} {before after : Custody} {event : Event}
    (moved : Moved cfg before event after)
    (other : ∀ failed, event ≠ .acceptDone failed) :
    after.acceptor = before.acceptor := by
  cases moved with
  | lost => exact absurd rfl (other true)
  | served => exact absurd rfl (other false)
  | returned => rfl
  | kept => rfl

/-- The accept loop gets a session exactly when the pool is not empty. -/
theorem acquireSession_engaged_iff (cfg : Config) (custody : Custody) :
    (custody.acquireSession cfg).acceptor ≠ .disengaged ↔
      0 < custody.pool.queue.length := by
  cases queue : custody.pool.queue with
  | nil =>
      rw [Custody.acquireSession, Pool.acquire_nil queue]
      simp
  | cons head rest =>
      rw [Custody.acquireSession, Pool.acquire_cons queue]
      simp

/--
After a completed accept the loop goes on with a session exactly when the
pool was not empty.  The accepted session does not come back in between.
-/
theorem Moved.engaged_iff
    {cfg : Config} {before after : Custody} {failed : Bool}
    (moved : Moved cfg before (.acceptDone failed) after) :
    before.acceptor ≠ .disengaged ∧
      (after.acceptor ≠ .disengaged ↔ 0 < before.pool.queue.length) := by
  cases moved with
  | lost session offering =>
      exact ⟨by simp [offering], acquireSession_engaged_iff cfg before⟩
  | served session offering =>
      exact ⟨by simp [offering],
        acquireSession_engaged_iff cfg (before.serve session)⟩
  | returned _ _ other => exact absurd rfl (other failed)
  | kept other => exact absurd rfl (other failed)

end Custody

theorem capacity_pos
    {cfg : Config} (positive : 0 < cfg.sessionPoolCount) :
    0 < capacity cfg := by
  rcases (initializeSessions_filled cfg).stop with full | refused
  · rw [capacity, full]
    exact positive
  · by_contra empty
    have none : (initializeSessions cfg).queue.length = 0 :=
      Nat.eq_zero_of_not_pos empty
    rw [none] at refused
    simp [Pool.roomAt, Foundation.MachineWord.signedCast,
      Foundation.MachineWord.unsignedCast] at refused
    omega

/--
When an accept completes, at least one session is left for the next one:
the sessions in use and the failed accepts so far do not use up the pool.
-/
def SessionLeft (cfg : Config) (earlier : List Event)
    (before : Server H) (event : Event) : Prop :=
  ∀ failed, event = .acceptDone failed →
    (before.acquiredSessions cfg).card + failedAccepts earlier + 1 <
      capacity cfg

/-- The accept loop holds a session exactly when one was left every time. -/
theorem acceptor_engaged_iff [Header H]
    {cfg : Config} (positive : 0 < cfg.sessionPoolCount) {header : H}
    {events : List Event} {server : Server H}
    (run : Run (step cfg) (Server.start cfg header) events server) :
    server.acceptor ≠ .disengaged ↔
      EachStep (step cfg) (Server.start cfg header) events
        (SessionLeft cfg) := by
  induction run with
  | start =>
      have engaged :
          (Server.start cfg header).custody.acceptor ≠ .disengaged := by
        rw [custody_start, Custody.acquireSession_engaged_iff]
        exact capacity_pos positive
      exact iff_of_true engaged (eachStep_nil _)
  | @snoc events before after event earlier _ taken inductionHypothesis =>
      have moved := moved_of_stepped (stepped_of_step taken)
      rw [eachStep_snoc_iff earlier, ← inductionHypothesis]
      by_cases accepted : ∃ failed, event = .acceptDone failed
      · obtain ⟨failed, rfl⟩ := accepted
        obtain ⟨engaged, next⟩ := moved.engaged_iff
        have conserved := inPlace_add_failedAccepts earlier
        have offered : before.custody.offeredCount = 1 := by
          cases acceptor : before.custody.acceptor with
          | offering session => simp [Custody.offeredCount, acceptor]
          | disengaged => exact absurd acceptor engaged
        have serving :
            (before.custody.servingSet cfg).card =
              (before.acquiredSessions cfg).card := rfl
        rw [Custody.inPlace, offered, serving] at conserved
        have left :
            SessionLeft cfg events before (.acceptDone failed) ↔
              0 < before.custody.pool.queue.length := by
          simp only [SessionLeft, Event.acceptDone.injEq, forall_eq']
          omega
        rw [left]
        exact ⟨fun still => ⟨engaged, next.mp still⟩,
          fun both => next.mpr both.2⟩
      · have other : ∀ failed, event ≠ .acceptDone failed :=
          fun failed equal => accepted ⟨failed, equal⟩
        have same : after.acceptor = before.acceptor :=
          moved.acceptor other
        rw [same]
        have left : SessionLeft cfg events before event :=
          fun failed equal => absurd equal (other failed)
        exact ⟨fun still => ⟨still, left⟩, fun both => both.1⟩

/-- With two pooled sessions one client can be served at a time. -/
theorem acceptor_engaged_iff_reuse :
    ∃ server,
      Run (step (DummyServer.configureIni 2)) (DummyServer.dummyServer 2)
          reuseEvents server ∧
        (server.acceptor ≠ .disengaged ↔
          EachStep (step (DummyServer.configureIni 2))
            (DummyServer.dummyServer 2) reuseEvents
            (SessionLeft (DummyServer.configureIni 2))) := by
  have executed :
      (execWhere (step (DummyServer.configureIni 2)) (fun _ _ => True)
        (DummyServer.dummyServer 2) reuseEvents).isSome = true := by
    decide
  obtain ⟨server, run⟩ := exists_runWhere_of_exec executed
  exact ⟨server, run, acceptor_engaged_iff (by decide) run⟩

/-- With one pooled session the first client makes the loop run dry. -/
theorem acceptor_disengaged_after_one_client :
    ∃ server,
      Run (step (DummyServer.configureIni 1)) (DummyServer.dummyServer 1)
          [.acceptDone false] server ∧
        server.acceptor = .disengaged := by
  have executed :
      ((execWhere (step (DummyServer.configureIni 1)) (fun _ _ => True)
        (DummyServer.dummyServer 1) [.acceptDone false]).map
          Server.acceptor) = some .disengaged := by
    decide
  obtain ⟨server, run, disengaged⟩ := exists_runWhere_of_map_exec executed
  exact ⟨server, run, disengaged⟩

/-! ## No session is lost -/

namespace Custody

variable {cfg : Config} {custody : Custody}

/-- The sessions in the three places. -/
def places (cfg : Config) (custody : Custody) : Finset Nat :=
  custody.pool.queue.toFinset ∪
    ((Finset.range cfg.sessionPoolCount).filter fun session =>
      custody.acceptor = .offering session) ∪
    custody.servingSet cfg

theorem mem_places_iff {session : Nat}
    (below : session < cfg.sessionPoolCount) :
    session ∈ custody.places cfg ↔
      session ∈ custody.pool.queue ∨
        custody.acceptor = .offering session ∨
        custody.states session = .kAcquire := by
  simp [places, below]

theorem Sound.card_offered (sound : Sound cfg custody) :
    ((Finset.range cfg.sessionPoolCount).filter fun session =>
      custody.acceptor = .offering session).card =
        custody.offeredCount := by
  cases acceptor : custody.acceptor with
  | offering offered =>
      have below :=
        Nat.lt_of_lt_of_le (sound.offered offered acceptor).1
          (capacity_le cfg)
      rw [offeredCount, acceptor, Finset.card_eq_one]
      refine ⟨offered, ?_⟩
      ext session
      simp only [Finset.mem_filter, Finset.mem_range,
        Acceptor.offering.injEq, Finset.mem_singleton]
      constructor
      · intro both
        exact both.2.symm
      · rintro rfl
        exact ⟨below, rfl⟩
  | disengaged => simp [offeredCount, acceptor]

/-- The three places are counted without overlap. -/
theorem Sound.card_places (sound : Sound cfg custody) :
    (custody.places cfg).card = custody.inPlace cfg := by
  rw [places, Finset.card_union_of_disjoint,
    Finset.card_union_of_disjoint, sound.card_offered,
    List.toFinset_card_of_nodup sound.nodup]
  · rfl
  · rw [Finset.disjoint_left]
    intro session queued offered
    rw [List.mem_toFinset] at queued
    rw [Finset.mem_filter] at offered
    exact (sound.offered session offered.2).2.1 queued
  · rw [Finset.disjoint_left]
    intro session elsewhere serving
    rw [mem_servingSet_iff] at serving
    rw [Finset.mem_union, List.mem_toFinset, Finset.mem_filter]
      at elsewhere
    rcases elsewhere with queued | offered
    · exact (sound.queued session queued).2 serving.2
    · exact (sound.offered session offered.2).2.2 serving.2

theorem Sound.places_subset (sound : Sound cfg custody) :
    custody.places cfg ⊆ Finset.range (capacity cfg) := by
  intro session member
  simp only [places, Finset.mem_union, List.mem_toFinset,
    Finset.mem_filter, mem_servingSet_iff] at member
  rw [Finset.mem_range]
  rcases member with (queued | offered) | serving
  · exact (sound.queued session queued).1
  · exact (sound.offered session offered.2).1
  · exact sound.serving session serving.2

/-- If nothing was lost, every pooled session is in one of the places. -/
theorem Sound.mem_places
    (sound : Sound cfg custody)
    (complete : custody.inPlace cfg = capacity cfg)
    {session : Nat} (below : session < capacity cfg) :
    session ∈ custody.places cfg := by
  have all : custody.places cfg = Finset.range (capacity cfg) := by
    apply Finset.eq_of_subset_of_card_le sound.places_subset
    rw [Finset.card_range, sound.card_places, complete]
  rw [all]
  exact Finset.mem_range.mpr below

end Custody

/-- `Close` puts a serving session back into the pool. -/
theorem mem_queue_close
    {cfg : Config} {server : Server H} {session : Nat}
    (sound : Custody.Sound cfg server.custody)
    (acquired :
      (server.sessions session).sessionPoolState = .kAcquire) :
    session ∈ (server.close cfg session false).pool.queue := by
  obtain ⟨-, appended⟩ :=
    Pool.restore_of_hasRoom (sound.hasRoom acquired) session false
  have restored :
      ((server.sessions session).close false).restored = true := by
    simp [AsyncSessionImpl.close, acquired]
  have pool :
      (server.close cfg session false).pool =
        (server.pool.restore cfg.build.sizeBits (some session)
          false).2 := by
    simp only [Server.close, Server.apply, restored, if_true]
  rw [pool]
  exact appended ▸ List.mem_append_right _ (List.mem_singleton_self _)

/-- The sessions with an open connection. -/
def Server.openSessions (cfg : Config) (server : Server H) : Finset Nat :=
  (Finset.range cfg.sessionPoolCount).filter fun session =>
    (server.sessions session).tcpSocket.isOpen = true

/--
Every configured session is in the pool, or offered, or serves an open
connection whose `Close` puts it back into the pool, and these three places
hold as many sessions as were configured.
-/
structure SessionsConserved (cfg : Config) (server : Server H) : Prop where
  placed :
    ∀ session < cfg.sessionPoolCount,
      session ∈ server.pool.queue ∨
        server.acceptor = .offering session ∨
        ((server.sessions session).tcpSocket.isOpen = true ∧
          session ∈ (server.close cfg session false).pool.queue)
  total :
    server.pool.queue.length + server.custody.offeredCount +
        (server.openSessions cfg).card =
      cfg.sessionPoolCount

/-- A session serves exactly while its socket is open. -/
def SocketsAgree (server : Server H) : Prop :=
  ∀ session,
    (server.sessions session).tcpSocket.isOpen = true ↔
      (server.sessions session).sessionPoolState = .kAcquire

theorem SocketsServe.openSessions_subset
    {cfg : Config} {server : Server H} (serve : SocketsServe server) :
    server.openSessions cfg ⊆ server.custody.servingSet cfg := by
  intro session member
  rw [Server.openSessions, Finset.mem_filter, Finset.mem_range] at member
  rw [Custody.mem_servingSet_iff]
  exact ⟨member.1, serve session member.2⟩

theorem SocketsAgree.openSessions
    {cfg : Config} {server : Server H} (agree : SocketsAgree server) :
    server.openSessions cfg = server.custody.servingSet cfg := by
  ext session
  simp [Server.openSessions, Server.custody, agree session]

theorem SocketsAgree.apply
    {this : Nat} {outcome : Outcome H} {server : Server H}
    (agree : SocketsAgree server) (cfg : Config)
    (same :
      outcome.session.tcpSocket.isOpen = true ↔
        outcome.session.sessionPoolState = .kAcquire) :
    SocketsAgree (server.apply cfg this outcome) := by
  intro session
  by_cases own : session = this
  · subst session
    rw [sessions_apply_self]
    exact same
  · rw [sessions_apply_of_ne cfg server outcome own]
    exact agree session

/-- `Close` keeps the agreement exactly if it is not cut off. -/
theorem SocketsAgree.apply_closing_iff
    {this : Nat} {closeFails : Bool} {outcome : Outcome H}
    {server : Server H} (agree : SocketsAgree server) (cfg : Config)
    (closing :
      AsyncSessionImpl.Closing closeFails (server.sessions this) outcome) :
    SocketsAgree (server.apply cfg this outcome) ↔
      ¬ ((server.sessions this).tcpSocket.isOpen = true ∧
        closeFails = true) := by
  have serving := agree this
  cases closing with
  | threw failed _ _ tcpSocket state =>
      refine iff_of_false ?_ (not_not.mpr failed)
      intro after
      have still := after this
      rw [sessions_apply_self, tcpSocket, state, ← serving] at still
      simp [failed.1] at still
  | closed done _ _ tcpSocket state =>
      refine iff_of_true (agree.apply cfg ?_) done
      rw [tcpSocket, state]
      split_ifs with acquired
      · simp
      · simp [acquired]

theorem start_agrees (cfg : Config) (header : H) :
    SocketsAgree (Server.start cfg header) := by
  intro session
  rw [start_sessions]
  simp [AsyncSessionImpl.make]

section

variable [Header H] {cfg : Config} {header : H} {events : List Event}
  {server : Server H}

/--
In a reachable state the sessions are conserved if no accept has failed, the
sessions in use are those with an open socket, and the `int32_t` cast of the
pool let all sessions in at start-up.
-/
theorem sessionsConserved_iff_agree
    (run : Run (step cfg) (Server.start cfg header) events server) :
    SessionsConserved cfg server ↔
      failedAccepts events = 0 ∧ SocketsAgree server ∧
        capacity cfg = cfg.sessionPoolCount := by
  have sound := custody_sound run
  have serve := sockets_serve run
  have conserved := inPlace_add_failedAccepts run
  have bound := Custody.capacity_le cfg
  rw [Custody.inPlace] at conserved
  change server.pool.queue.length + _ + _ + _ = _ at conserved
  constructor
  · intro holds
    have all := holds.total
    have fewer :=
      Finset.card_le_card (@SocketsServe.openSessions_subset _ cfg _ serve)
    have same :
        server.openSessions cfg = server.custody.servingSet cfg :=
      Finset.eq_of_subset_of_card_le serve.openSessions_subset (by omega)
    refine ⟨by omega, ?_, by omega⟩
    intro session
    refine ⟨serve session, ?_⟩
    intro acquired
    have below := (sound.serving session acquired).trans_le bound
    have member : session ∈ server.openSessions cfg := by
      rw [same, Custody.mem_servingSet_iff]
      exact ⟨below, acquired⟩
    exact (Finset.mem_filter.mp member).2
  · rintro ⟨none, agree, full⟩
    refine ⟨?_, by rw [agree.openSessions]; omega⟩
    intro session below
    have complete : server.custody.inPlace cfg = capacity cfg := by
      rw [Custody.inPlace]
      change server.pool.queue.length + _ + _ = _
      omega
    have placed :=
      sound.mem_places complete (by omega : session < capacity cfg)
    rw [Custody.mem_places_iff below] at placed
    rcases placed with queued | offered | serving
    · exact Or.inl queued
    · exact Or.inr (Or.inl offered)
    · exact Or.inr (Or.inr
        ⟨(agree session).mpr serving, mem_queue_close sound serving⟩)

/-- A step that loses no session: its accept does not fail, and no `Close` is
cut off. -/
def KeepsSessions (cfg : Config) (before : Server H) (event : Event) :
    Prop :=
  event ≠ .acceptDone true ∧ before.closeThrows cfg event = none

theorem closeThrows_eq_none_iff {event : Event} {session : Nat}
    (closes : server.closes cfg event = some session) :
    server.closeThrows cfg event = none ↔
      ¬ ((server.sessions session).tcpSocket.isOpen = true ∧
        event.closeFails = true) := by
  rw [Server.closeThrows, closes]
  simp

theorem closeThrows_of_closes_eq_none {event : Event}
    (closes : server.closes cfg event = none) :
    server.closeThrows cfg event = none := by
  rw [Server.closeThrows, closes]
  rfl

theorem SocketsAgree.stepped_iff {after : Server H} {event : Event}
    (agree : SocketsAgree server)
    (stepped : Stepped cfg server event after) :
    SocketsAgree after ↔ server.closeThrows cfg event = none := by
  cases stepped with
  | rejected =>
      refine iff_of_true ?_ (closeThrows_of_closes_eq_none rfl)
      intro session
      rw [sessions_acquireSession]
      exact agree session
  | admitted offered =>
      refine iff_of_true ?_ (closeThrows_of_closes_eq_none rfl)
      intro session
      rw [sessions_acquireSession]
      by_cases own : session = offered
      · subst session
        rw [sessions_acceptClient_self]
        exact iff_of_true rfl rfl
      · rw [sessions_acceptClient_of_ne server own]
        exact agree session
  | abandoned index receive completion closeFails session outstanding _
      givesUp =>
      rw [closeThrows_eq_none_iff
        (closes_receiveDone outstanding givesUp.refused closeFails)]
      exact agree.apply_closing_iff cfg
        (AsyncSessionImpl.abandon_closing givesUp.same closeFails)
  | headerRead index receive bytes closeFails outstanding _ stage admitted
      outcome allocated =>
      refine iff_of_true (agree.apply cfg ?_)
        (closeThrows_of_closes_eq_none ?_)
      · rw [allocated, (AsyncSessionImpl.allocateBody_accepting _ _).tcpSocket,
          (AsyncSessionImpl.allocateBody_accepting _ _).state]
        exact agree receive.session
      · simp [Server.closes, outstanding, stage, AsyncSessionImpl.accepts,
          admitted]
  | bodyRead index receive bytes closeFails outstanding _ stage complete _
      outcome handed =>
      refine iff_of_true (agree.apply cfg ?_)
        (closeThrows_of_closes_eq_none ?_)
      · rw [handed]
        exact agree receive.session
      · simp [Server.closes, outstanding, stage, AsyncSessionImpl.accepts,
          complete]
  | writeFailed index write closeFails outstanding =>
      rw [closeThrows_eq_none_iff
        (closes_writeDone outstanding cfg closeFails)]
      exact agree.apply_closing_iff cfg
        ((server.sessions write.session).close_closing closeFails)
  | closed session closeFails =>
      have closes :
          server.closes cfg (.close session closeFails) = some session := rfl
      rw [closeThrows_eq_none_iff closes]
      exact agree.apply_closing_iff cfg
        ((server.sessions session).close_closing closeFails)
  | wrote | writeDelivered | taken | processed | sent =>
      exact iff_of_true agree (closeThrows_of_closes_eq_none rfl)

end

/--
The sessions are conserved in all states of a run exactly if no accept of the
run fails, no `Close` of the run is cut off by an exception, and the
`int32_t` cast of the pool let all of them in at start-up.
-/
theorem sessionsConserved_iff [Header H]
    {cfg : Config} (wide : cfg.build.sizeBits = 64)
    (word : cfg.sessionPoolCount < 2 ^ 64) {header : H}
    {events : List Event} {server : Server H}
    (run : Run (step cfg) (Server.start cfg header) events server) :
    EachState (step cfg) (Server.start cfg header) events
        (SessionsConserved cfg) ↔
      EachStep (step cfg) (Server.start cfg header) events
          (fun _ before event => KeepsSessions cfg before event) ∧
        cfg.sessionPoolCount ≤ 2 ^ 31 := by
  rw [← capacity_eq_iff wide word]
  induction run with
  | start =>
      rw [eachState_nil_iff, sessionsConserved_iff_agree .start]
      exact ⟨fun holds => ⟨eachStep_nil _, holds.2.2⟩,
        fun holds => ⟨rfl, start_agrees cfg header, holds.2⟩⟩
  | @snoc events before after event earlier meets taken
      inductionHypothesis =>
      rw [eachState_snoc_iff earlier taken, eachStep_snoc_iff earlier,
        sessionsConserved_iff_agree (earlier.snoc meets taken),
        failedAccepts_snoc, Nat.add_eq_zero_iff]
      have accepts :
          [event].count (.acceptDone true) = 0 ↔
            event ≠ .acceptDone true := by
        rw [List.count_eq_zero, List.mem_singleton, ne_comm]
      rw [accepts]
      constructor
      · rintro ⟨states, ⟨-, notFailed⟩, agree, full⟩
        have settled :=
          (sessionsConserved_iff_agree earlier).mp
            (states events [] before (by simp) earlier)
        have unbroken :=
          (settled.2.1.stepped_iff (stepped_of_step taken)).mp agree
        exact ⟨⟨(inductionHypothesis.mp states).1, notFailed, unbroken⟩,
          full⟩
      · rintro ⟨⟨steps, notFailed, unbroken⟩, full⟩
        have states := inductionHypothesis.mpr ⟨steps, full⟩
        have settled :=
          (sessionsConserved_iff_agree earlier).mp
            (states events [] before (by simp) earlier)
        have agree :=
          (settled.2.1.stepped_iff (stepped_of_step taken)).mpr unbroken
        exact ⟨states, ⟨settled.1, notFailed⟩, agree, full⟩

theorem sessionsConserved_iff_reuse :
    ∃ server,
      Run (step (DummyServer.configureIni 2)) (DummyServer.dummyServer 2)
          reuseEvents server ∧
        (EachState (step (DummyServer.configureIni 2))
            (DummyServer.dummyServer 2) reuseEvents
            (SessionsConserved (DummyServer.configureIni 2)) ↔
          EachStep (step (DummyServer.configureIni 2))
              (DummyServer.dummyServer 2) reuseEvents
              (fun _ before event =>
                KeepsSessions (DummyServer.configureIni 2) before event) ∧
            (DummyServer.configureIni 2).sessionPoolCount ≤ 2 ^ 31) := by
  have executed :
      (execWhere (step (DummyServer.configureIni 2)) (fun _ _ => True)
        (DummyServer.dummyServer 2) reuseEvents).isSome = true := by
    decide
  obtain ⟨server, run⟩ := exists_runWhere_of_exec executed
  exact ⟨server, run, sessionsConserved_iff rfl (by decide) run⟩

/-- A failed accept loses the session that was offered. -/
theorem not_sessionsConserved_after_failed_accept :
    ∃ server,
      Run (step (DummyServer.configureIni 2)) (DummyServer.dummyServer 2)
          [.acceptDone true] server ∧
        ¬ SessionsConserved (DummyServer.configureIni 2) server := by
  have executed :
      ((execWhere (step (DummyServer.configureIni 2)) (fun _ _ => True)
        (DummyServer.dummyServer 2) [.acceptDone true]).map
          fun server =>
            server.pool.queue.length + server.custody.offeredCount +
              (server.openSessions (DummyServer.configureIni 2)).card) =
        some 1 := by
    decide
  obtain ⟨server, run, total⟩ := exists_runWhere_of_map_exec executed
  refine ⟨server, run, ?_⟩
  intro conserved
  have all := conserved.total
  rw [total] at all
  simp [DummyServer.configureIni] at all

end LibSklt.Net
