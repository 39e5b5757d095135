import LibSklt.Foundation.Transition
import LibSklt.Net.PacketProcess
import LibSklt.Net.PoolCalls

/-!
# A client that is alone with its pool

When one client uses a pool, all sessions are in the queue between its calls
of `PacketProcess`, and the connection counter is their number.  A round of
the loop that does not end the call then costs a session: the branch without
a session and with a counter that is not zero is never taken.  The call ends
after as many rounds as there are sessions, those that the maintenance creates
meanwhile included, and one more.

All of this rests on the counter.  An error of `Close` leaves the call as an
exception before the counter goes down, and a later call then spins.
-/

namespace LibSklt.Net.SyncSessionPool

open LibSklt.Foundation.MachineWord
open LibSklt.Foundation.Transition
open LibSklt.Net.PoolCalls (containerSize)
open LibSklt.Util

variable {H : Type}

/--
The constructor: `initialize` creates the sessions, and catches what
`Connect` throws.
-/
def construct (sizeBits : Nat) (makeHeader : H) (sizePoolCnt : Nat)
    (connects : List ConnectResult) : SyncSessionPool H :=
  (createObject sizeBits makeHeader sizePoolCnt connects
    { sessionContainer := Pool.make containerSize
      sizePoolCnt := sizePoolCnt
      sizeConnectionCnt := 0 }).2

/-- A call of `PacketProcess`, with what the environment decides in it. -/
structure ClientCall where
  request : List UInt8
  memory : List UInt8
  rounds : List Iteration

/-- What a call of the client that ends makes of the pool. -/
def clientStep [SyncHeader H] (sizeBits : Nat) (makeHeader : H)
    (pool : SyncSessionPool H) (call : ClientCall) :
    Option (SyncSessionPool H) :=
  let outcome :=
    packetProcess sizeBits makeHeader call.request call.rounds pool
      call.memory
  if outcome.ending = .looping then none else some outcome.pool

/-- `Close` reports no error in the rounds of the call. -/
def ClosesQuietly (_ : SyncSessionPool H) (call : ClientCall) : Prop :=
  ∀ round ∈ call.rounds, round.closeFails = false

/-- The number of sessions that the maintenance of a round creates. -/
def createdBy (sizeBits : Nat) (makeHeader : H) (round : Iteration)
    (pool : SyncSessionPool H) : Nat :=
  (maintenanceManager sizeBits makeHeader round
      pool).2.sessionContainer.queue.length -
    pool.sessionContainer.queue.length

/-- The number of sessions that the maintenance creates during a call. -/
def createdDuring [SyncHeader H] (sizeBits : Nat) (makeHeader : H)
    (request : List UInt8) :
    List Iteration → SyncSessionPool H → List UInt8 → Nat
  | [], _, _ => 0
  | round :: rounds, pool, memory =>
      let outcome :=
        packetProcess sizeBits makeHeader request [round] pool memory
      createdBy sizeBits makeHeader round pool +
        if outcome.ending = .looping then
          createdDuring sizeBits makeHeader request rounds outcome.pool
            outcome.recvBuffer
        else
          0

/-! ## Rounds without maintenance -/

section

variable {sizeBits : Nat} {makeHeader : H} {round : Iteration}

theorem maintenanceManager_of_quiet
    (quiet : round.timerExpired = false) (pool : SyncSessionPool H) :
    maintenanceManager sizeBits makeHeader round pool = (false, pool) := by
  simp [maintenanceManager, quiet]

theorem createdBy_of_quiet
    (quiet : round.timerExpired = false) (pool : SyncSessionPool H) :
    createdBy sizeBits makeHeader round pool = 0 := by
  rw [createdBy, maintenanceManager_of_quiet quiet, Nat.sub_self]

/-- `Acquire` only looks into the queue, unless the timer has expired. -/
theorem acquire_of_quiet
    (quiet : round.timerExpired = false) (pool : SyncSessionPool H) :
    acquire sizeBits makeHeader round pool =
      (some (pool.sessionContainer.acquire sizeBits).1,
        { pool with
          sessionContainer :=
            (pool.sessionContainer.acquire sizeBits).2 }) := by
  rw [acquire, maintenanceManager_of_quiet quiet]
  rfl

end

/-! ## The counter and the queue -/

/--
All sessions but `held` are in the queue, and the counter is the number of
sessions.
-/
structure Accounted (sizeBits held : Nat) (pool : SyncSessionPool H) :
    Prop where
  counted :
    pool.sizeConnectionCnt = pool.sessionContainer.queue.length + held
  planned :
    pool.sessionContainer.queue.length + held ≤ pool.sizePoolCnt
  word : pool.sizePoolCnt < 2 ^ sizeBits
  capacity : pool.sessionContainer.sizeFlexibleMaxCnt = containerSize
  fits : pool.sessionContainer.queue.length + held ≤ containerSize

section

variable {sizeBits held : Nat} {makeHeader : H} {pool : SyncSessionPool H}

/-- The test of `Restore` compares the length of the queue with the capacity. -/
theorem Accounted.hasRoom_iff
    (wide : 31 ≤ sizeBits) (accounted : Accounted sizeBits held pool) :
    pool.sessionContainer.hasRoom sizeBits = true ↔
      pool.sessionContainer.queue.length < containerSize := by
  have fits := accounted.fits
  rw [Pool.hasRoom, accounted.capacity,
    Pool.roomAt_iff_lt wide (by simp only [containerSize] at fits; omega)]

/-- A new session is counted if the queue has room for it. -/
theorem accounted_connetion
    (wide : 31 ≤ sizeBits) (accounted : Accounted sizeBits 0 pool)
    (below : pool.sessionContainer.queue.length < pool.sizePoolCnt)
    (session : SyncSessionImpl H) :
    connetion sizeBits pool session = (false, pool) ∨
      ∃ next,
        connetion sizeBits pool session = (true, next) ∧
          Accounted sizeBits 0 next ∧
          next.sessionContainer.queue.length =
            pool.sessionContainer.queue.length + 1 ∧
          next.sizePoolCnt = pool.sizePoolCnt := by
  have roomIff := accounted.hasRoom_iff wide
  obtain ⟨counted, planned, word, capacity, fits⟩ := accounted
  cases room : pool.sessionContainer.hasRoom sizeBits with
  | false =>
      left
      simp only [connetion, restore, Pool.restore_of_not_hasRoom room]
      rfl
  | true =>
      right
      have shorter := roomIff.mp room
      obtain ⟨succeeds, queue⟩ :=
        Pool.restore_of_hasRoom room session false
      have limit :=
        Pool.restore_sizeFlexibleMaxCnt sizeBits pool.sessionContainer
          (some session) false
      simp only [connetion, restore, succeeds, if_true]
      refine ⟨_, rfl, ⟨?_, ?_, word, ?_, ?_⟩, ?_, rfl⟩
      · simp only [queue, List.length_append, List.length_singleton]
        rw [counted, addWord_of_lt (by omega)]
      · simp only [queue, List.length_append, List.length_singleton]
        omega
      · simp only [limit, capacity]
      · simp only [queue, List.length_append, List.length_singleton]
        exact shorter
      · simp only [queue, List.length_append, List.length_singleton]

/-- `CreateObject` keeps the accounts, as far as the pool is planned. -/
theorem accounted_createObject
    (wide : 31 ≤ sizeBits) (accounted : Accounted sizeBits 0 pool)
    {count : Nat}
    (planned :
      pool.sessionContainer.queue.length + count ≤ pool.sizePoolCnt)
    (connects : List ConnectResult) :
    Accounted sizeBits 0
        (createObject sizeBits makeHeader count connects pool).2 ∧
      pool.sessionContainer.queue.length ≤
        (createObject sizeBits makeHeader count connects
          pool).2.sessionContainer.queue.length := by
  induction count generalizing connects pool with
  | zero => exact ⟨accounted, le_rfl⟩
  | succ count inductionHypothesis =>
      cases connects with
      | nil => exact ⟨accounted, le_rfl⟩
      | cons result connects =>
          cases result with
          | threw => exact ⟨accounted, le_rfl⟩
          | failed => exact ⟨accounted, le_rfl⟩
          | connected sendResults recvResults incoming =>
              rcases accounted_connetion wide accounted (by omega)
                  (connectedSession makeHeader sendResults recvResults
                    incoming) with
                refused | ⟨next, created, nextAccounted, longer, same⟩
              · simp only [createObject, refused]
                exact ⟨accounted, le_rfl⟩
              · simp only [createObject, created, if_true]
                obtain ⟨later, grows⟩ :=
                  inductionHypothesis nextAccounted (by omega) connects
                exact ⟨later, by omega⟩

theorem accounted_maintenanceManager
    (wide : 31 ≤ sizeBits) (accounted : Accounted sizeBits 0 pool)
    (round : Iteration) :
    Accounted sizeBits 0
        (maintenanceManager sizeBits makeHeader round pool).2 ∧
      pool.sessionContainer.queue.length ≤
        (maintenanceManager sizeBits makeHeader round
          pool).2.sessionContainer.queue.length := by
  have counted := accounted.counted
  rw [maintenanceManager]
  split_ifs with expired missing
  · exact accounted_createObject wide accounted (by omega) round.connects
  · exact ⟨accounted, le_rfl⟩
  · exact ⟨accounted, le_rfl⟩

theorem accounted_construct
    (wide : 31 ≤ sizeBits) {sizePoolCnt : Nat}
    (word : sizePoolCnt < 2 ^ sizeBits)
    (connects : List ConnectResult) :
    Accounted sizeBits 0
      (construct sizeBits makeHeader sizePoolCnt connects) := by
  have empty :
      Accounted sizeBits 0
        ({ sessionContainer := Pool.make containerSize
           sizePoolCnt := sizePoolCnt
           sizeConnectionCnt := 0 } : SyncSessionPool H) :=
    ⟨rfl, Nat.zero_le _, word, rfl, Nat.zero_le _⟩
  exact
    (accounted_createObject wide empty (Nat.zero_add sizePoolCnt).le
      connects).1

/-! ## One round -/

/-- `Acquire` throws, finds the queue empty or takes one session. -/
theorem accounted_acquire
    (wide : 31 ≤ sizeBits) (accounted : Accounted sizeBits 0 pool)
    (round : Iteration) :
    (∃ next,
        acquire sizeBits makeHeader round pool = (none, next) ∧
          Accounted sizeBits 0 next) ∨
      (∃ next,
        acquire sizeBits makeHeader round pool = (some none, next) ∧
          Accounted sizeBits 0 next ∧
          next.getConnectionCount = 0) ∨
      ∃ session next,
        acquire sizeBits makeHeader round pool = (some (some session), next) ∧
          Accounted sizeBits 1 next ∧
          next.sessionContainer.queue.length + 1 =
            pool.sessionContainer.queue.length +
              createdBy sizeBits makeHeader round pool := by
  obtain ⟨maintained, grows⟩ :=
    @accounted_maintenanceManager _ _ makeHeader _ wide accounted round
  rw [acquire, createdBy]
  generalize maintenanceManager sizeBits makeHeader round pool = result at *
  obtain ⟨threw, next⟩ := result
  simp only at maintained grows ⊢
  cases threw with
  | true => exact .inl ⟨next, rfl, maintained⟩
  | false =>
      simp only [Bool.false_eq_true, if_false]
      right
      obtain ⟨counted, planned, word, capacity, fits⟩ := maintained
      cases queue : next.sessionContainer.queue with
      | nil =>
          left
          rw [Pool.acquire_nil queue]
          refine ⟨next, rfl, ⟨counted, planned, word, capacity, fits⟩, ?_⟩
          rw [getConnectionCount, counted, queue, List.length_nil]
      | cons session rest =>
          right
          rw [Pool.acquire_cons queue]
          simp only [queue, List.length_cons] at counted planned fits grows
          refine ⟨session, _, rfl, ⟨?_, ?_, word, capacity, ?_⟩, ?_⟩
          · simp only
            omega
          · simp only
            omega
          · simp only
            omega
          · simp only [List.length_cons]
            omega

/-- A session that is given back has room in the queue. -/
theorem accounted_restore
    (wide : 31 ≤ sizeBits) (accounted : Accounted sizeBits 1 pool)
    (session : SyncSessionImpl H) :
    Accounted sizeBits 0 (pool.restore sizeBits session).2 := by
  have roomIff := accounted.hasRoom_iff wide
  obtain ⟨counted, planned, word, capacity, fits⟩ := accounted
  have room := roomIff.mpr (by omega)
  have queue := (Pool.restore_of_hasRoom room session false).2
  have limit :=
    Pool.restore_sizeFlexibleMaxCnt sizeBits pool.sessionContainer
      (some session) false
  refine ⟨?_, ?_, word, ?_, ?_⟩
  · simp only [restore, queue, List.length_append, List.length_singleton]
    omega
  · simp only [restore, queue, List.length_append, List.length_singleton]
    omega
  · simp only [restore, limit, capacity]
  · simp only [restore, queue, List.length_append, List.length_singleton]
    omega

/-- A session that is dropped is counted no longer. -/
theorem accounted_connectionCountSub
    (accounted : Accounted sizeBits 1 pool) :
    Accounted sizeBits 0 (pool.connectionCountSub sizeBits) := by
  obtain ⟨counted, planned, word, capacity, fits⟩ := accounted
  refine ⟨?_, by simp only [connectionCountSub]; omega, word, capacity,
    by simp only [connectionCountSub]; omega⟩
  simp only [connectionCountSub]
  rw [subWord_of_le (by omega) (by omega)]
  omega

variable [SyncHeader H] {request : List UInt8}

/--
A round ends the call, or it takes one session out of the accounts.  There is
no round that finds the queue empty and goes on.
-/
theorem packetProcess_round
    (wide : 31 ≤ sizeBits) (accounted : Accounted sizeBits 0 pool)
    (round : Iteration) (memory : List UInt8) :
    (∃ outcome,
        outcome.ending ≠ .looping ∧
          (round.closeFails = false → Accounted sizeBits 0 outcome.pool) ∧
          ∀ rounds,
            packetProcess sizeBits makeHeader request (round :: rounds) pool
                memory =
              outcome) ∨
      ∃ next recvBuffer attempt,
        Accounted sizeBits 0 next ∧
          next.sessionContainer.queue.length + 1 =
            pool.sessionContainer.queue.length +
              createdBy sizeBits makeHeader round pool ∧
          ∀ rounds,
            packetProcess sizeBits makeHeader request (round :: rounds) pool
                memory =
              { packetProcess sizeBits makeHeader request rounds next
                  recvBuffer with
                attempts :=
                  attempt ::
                    (packetProcess sizeBits makeHeader request rounds next
                      recvBuffer).attempts } := by
  rcases @accounted_acquire _ _ makeHeader _ wide accounted round with
    ⟨next, acquired, nextAccounted⟩ |
    ⟨next, acquired, nextAccounted, noConnection⟩ |
    ⟨session, next, acquired, lent, taken⟩
  · left
    refine ⟨⟨.threw, next, memory, []⟩, by simp, fun _ => nextAccounted, ?_⟩
    intro rounds
    rw [packetProcess, acquired]
  · left
    refine ⟨⟨.returned false, next, memory, []⟩, by simp,
      fun _ => nextAccounted, ?_⟩
    intro rounds
    rw [packetProcess, acquired]
    simp only
    rw [if_pos noConnection]
  · have connected : next.getConnectionCount ≠ 0 := by
      rw [getConnectionCount, lent.counted]
      omega
    simp only [packetProcess, acquired, if_neg connected]
    generalize exchanged :
      (if (session.send request).1 = true then
        (session.send request).2.recv memory
      else (false, (session.send request).2, memory)) = exchange
    obtain ⟨succeeded, session', recvBuffer⟩ := exchange
    cases succeeded with
    | true =>
        left
        simp only [if_true]
        exact ⟨_, by simp, fun _ => accounted_restore wide lent session',
          fun _ => rfl⟩
    | false =>
        simp only [Bool.false_eq_true, if_false]
        cases closeFails : round.closeFails with
        | true =>
            left
            simp only [if_true]
            exact ⟨_, by simp, by simp, fun _ => rfl⟩
        | false =>
            right
            simp only [Bool.false_eq_true, if_false]
            exact ⟨_, _, _, accounted_connectionCountSub lent, taken,
              fun _ => rfl⟩

/-! ## A whole call -/

/-- Without an error of `Close`, a call leaves the accounts in order. -/
theorem accounted_packetProcess
    (wide : 31 ≤ sizeBits) (accounted : Accounted sizeBits 0 pool)
    {rounds : List Iteration}
    (quietly : ∀ round ∈ rounds, round.closeFails = false)
    (memory : List UInt8) :
    Accounted sizeBits 0
      (packetProcess sizeBits makeHeader request rounds pool memory).pool := by
  induction rounds generalizing pool memory with
  | nil => exact accounted
  | cons round rounds inductionHypothesis =>
      rcases @packetProcess_round _ _ makeHeader _ _ request wide accounted
          round memory with
        ⟨outcome, -, settled, ends⟩ |
        ⟨next, recvBuffer, attempt, nextAccounted, -, continues⟩
      · rw [ends]
        exact settled (quietly round List.mem_cons_self)
      · rw [continues]
        exact inductionHypothesis nextAccounted
          (fun later member => quietly later (List.mem_cons_of_mem _ member))
          recvBuffer

/-- Each round of a call that is still in its loop has cost a session. -/
theorem length_of_looping
    (wide : 31 ≤ sizeBits) (accounted : Accounted sizeBits 0 pool)
    {rounds : List Iteration} {memory : List UInt8}
    (looping :
      (packetProcess sizeBits makeHeader request rounds pool
        memory).ending = .looping) :
    rounds.length ≤
      pool.sessionContainer.queue.length +
        createdDuring sizeBits makeHeader request rounds pool memory := by
  induction rounds generalizing pool memory with
  | nil => exact Nat.zero_le _
  | cons round rounds inductionHypothesis =>
      rcases @packetProcess_round _ _ makeHeader _ _ request wide accounted
          round memory with
        ⟨outcome, ended, -, ends⟩ |
        ⟨next, recvBuffer, attempt, nextAccounted, taken, continues⟩
      · rw [ends] at looping
        exact absurd looping ended
      · rw [continues] at looping
        have later := inductionHypothesis nextAccounted looping
        have single :
            packetProcess sizeBits makeHeader request [round] pool memory =
              ⟨.looping, next, recvBuffer, [attempt]⟩ :=
          continues []
        simp only [createdDuring, single, if_true, List.length_cons]
        omega

/-- Once the timer expires no more, no session is created. -/
theorem createdDuring_append_quiet
    {quietRounds : List Iteration}
    (quiet : ∀ round ∈ quietRounds, round.timerExpired = false)
    (rounds : List Iteration) (pool : SyncSessionPool H)
    (memory : List UInt8) :
    createdDuring sizeBits makeHeader request (rounds ++ quietRounds) pool
        memory =
      createdDuring sizeBits makeHeader request rounds pool memory := by
  induction rounds generalizing pool memory with
  | nil =>
      rw [List.nil_append]
      induction quietRounds generalizing pool memory with
      | nil => rfl
      | cons round quietRounds inductionHypothesis =>
          have later :=
            inductionHypothesis fun round member =>
              quiet round (List.mem_cons_of_mem _ member)
          simp only [createdDuring] at later ⊢
          rw [createdBy_of_quiet (quiet round List.mem_cons_self), later]
          simp
  | cons round rounds inductionHypothesis =>
      simp only [List.cons_append, createdDuring, inductionHypothesis]

theorem createdDuring_le_append
    (rounds later : List Iteration) (pool : SyncSessionPool H)
    (memory : List UInt8) :
    createdDuring sizeBits makeHeader request rounds pool memory ≤
      createdDuring sizeBits makeHeader request (rounds ++ later) pool
        memory := by
  induction rounds generalizing pool memory with
  | nil => exact Nat.zero_le _
  | cons round rounds inductionHypothesis =>
      simp only [List.cons_append, createdDuring]
      refine Nat.add_le_add_left ?_ _
      split
      · exact inductionHypothesis _ _
      · exact le_rfl

/-- The first rounds of a call. -/
def firstRounds (rounds : Nat → Iteration) (count : Nat) : List Iteration :=
  (List.range count).map rounds

/-- A call whose timer expires only finitely often does end. -/
theorem exists_ending
    (wide : 31 ≤ sizeBits) (accounted : Accounted sizeBits 0 pool)
    {rounds : Nat → Iteration} {last : Nat}
    (quiet : ∀ index, last ≤ index → (rounds index).timerExpired = false)
    (memory : List UInt8) :
    ∃ count,
      (packetProcess sizeBits makeHeader request (firstRounds rounds count)
        pool memory).ending ≠ .looping := by
  refine ⟨last +
    (pool.sessionContainer.queue.length +
      createdDuring sizeBits makeHeader request (firstRounds rounds last)
        pool memory + 1), fun looping => ?_⟩
  have bound := length_of_looping wide accounted looping
  have split (more : Nat) :
      firstRounds rounds (last + more) =
        firstRounds rounds last ++
          (List.range more).map fun index => rounds (last + index) := by
    simp [firstRounds, List.range_add]
  rw [split, createdDuring_append_quiet (by simp [quiet])] at bound
  simp only [firstRounds, List.length_append, List.length_map,
    List.length_range] at bound
  omega

/-- The accounts bound the rounds of a call. -/
theorem Accounted.terminates
    (wide : 31 ≤ sizeBits) (accounted : Accounted sizeBits 0 pool)
    {rounds : Nat → Iteration}
    (finitely :
      ∃ last, ∀ index, last ≤ index →
        (rounds index).timerExpired = false)
    (memory : List UInt8) :
    ∃ count,
      (packetProcess sizeBits makeHeader request (firstRounds rounds count)
          pool memory).ending ≠ .looping ∧
        count ≤
          pool.sessionContainer.queue.length +
            createdDuring sizeBits makeHeader request
              (firstRounds rounds count) pool memory +
            1 := by
  obtain ⟨last, quiet⟩ := finitely
  have ends :=
    @exists_ending _ _ makeHeader _ _ request wide accounted _ _ quiet memory
  -- The first count of rounds that ends the call: one round less does not.
  refine ⟨Nat.find ends, Nat.find_spec ends, ?_⟩
  cases first : Nat.find ends with
  | zero => exact Nat.zero_le _
  | succ count =>
      have shorter : count < Nat.find ends := by omega
      have looping := not_not.mp (Nat.find_min ends shorter)
      have bound := length_of_looping wide accounted looping
      have grows :=
        @createdDuring_le_append _ sizeBits makeHeader _ request
          (firstRounds rounds count) [rounds count] pool memory
      simp only [firstRounds, List.length_map, List.length_range] at bound
      simp only [firstRounds, List.range_succ, List.map_append,
        List.map_singleton] at grows ⊢
      omega

/-- The pools between the calls of a client whose sessions close quietly. -/
theorem accounted_of_run
    (wide : 31 ≤ sizeBits) {sizePoolCnt : Nat}
    (word : sizePoolCnt < 2 ^ sizeBits) {connects : List ConnectResult}
    {calls : List ClientCall}
    (run :
      RunWhere (clientStep sizeBits makeHeader) ClosesQuietly
        (construct sizeBits makeHeader sizePoolCnt connects) calls pool) :
    Accounted sizeBits 0 pool := by
  refine RunWhere.invariant (fun _ => True) (Accounted sizeBits 0)
    (fun _ => trivial) (accounted_construct wide word connects) ?_ run
  intro before call after _ accounted quietly taken
  simp only [clientStep] at taken
  split at taken
  · cases taken
  · cases taken
    exact accounted_packetProcess wide accounted quietly call.memory

/--
A lone client whose sessions have closed without an error comes out of every
call: after as many rounds as there are sessions, those created meanwhile
included, and one more.
-/
theorem packetProcess_terminates
    {sizeBits : Nat} (wide : 31 ≤ sizeBits) {makeHeader : H}
    {sizePoolCnt : Nat} (word : sizePoolCnt < 2 ^ sizeBits)
    {connects : List ConnectResult} {calls : List ClientCall}
    {pool : SyncSessionPool H}
    (run :
      RunWhere (clientStep sizeBits makeHeader) ClosesQuietly
        (construct sizeBits makeHeader sizePoolCnt connects) calls pool)
    (request memory : List UInt8) {rounds : Nat → Iteration}
    (finitely :
      ∃ last, ∀ index, last ≤ index →
        (rounds index).timerExpired = false) :
    ∃ count,
      (packetProcess sizeBits makeHeader request (firstRounds rounds count)
          pool memory).ending ≠ .looping ∧
        count ≤
          pool.sessionContainer.queue.length +
            createdDuring sizeBits makeHeader request
              (firstRounds rounds count) pool memory +
            1 :=
  (accounted_of_run wide word run).terminates wide finitely memory

/-- With a counter that no session of the queue answers for, a call spins. -/
theorem looping_of_unaccounted
    (counted : pool.getConnectionCount ≠ 0)
    (empty : pool.sessionContainer.queue = [])
    {rounds : List Iteration}
    (quiet : ∀ round ∈ rounds, round.timerExpired = false)
    (memory : List UInt8) :
    (packetProcess sizeBits makeHeader request rounds pool memory).ending =
      .looping := by
  induction rounds with
  | nil => rfl
  | cons round rounds inductionHypothesis =>
      have acquired :
          acquire sizeBits makeHeader round pool = (some none, pool) := by
        rw [acquire_of_quiet (quiet round List.mem_cons_self),
          Pool.acquire_nil empty]
      simp only [packetProcess, acquired, if_neg counted]
      exact inductionHypothesis fun round member =>
        quiet round (List.mem_cons_of_mem _ member)

end

open LibSklt.DummyServer
open LibSklt.Util.ByteOrder

/-- A new pool, whose only session cannot send. -/
def mutePool : SyncSessionPool (HeaderCct ⟨true, 64⟩) :=
  construct 64 HeaderCct.make 1 [.connected [-1] [] []]

/-- A round in which nothing is maintained and `Close` succeeds. -/
def quietRound : Iteration :=
  ⟨false, [], false⟩

/-- The first call loses the only session; the next one ends as well. -/
theorem packetProcess_terminates_mute :
    ∃ pool,
      RunWhere (clientStep 64 HeaderCct.make) ClosesQuietly mutePool
          [⟨[1], [], [quietRound, quietRound]⟩] pool ∧
        ∃ count,
          (packetProcess 64 HeaderCct.make [1]
              (firstRounds (fun _ => quietRound) count) pool
              []).ending ≠ .looping ∧
            count ≤
              pool.sessionContainer.queue.length +
                createdDuring 64 HeaderCct.make [1]
                  (firstRounds (fun _ => quietRound) count) pool [] +
                1 := by
  have quietly :
      ClosesQuietly mutePool ⟨[1], [], [quietRound, quietRound]⟩ := by
    simp [ClosesQuietly, quietRound]
  obtain ⟨pool, run⟩ :
      ∃ pool,
        RunWhere (clientStep 64 HeaderCct.make) ClosesQuietly mutePool
          [⟨[1], [], [quietRound, quietRound]⟩] pool :=
    ⟨_, .snoc .start quietly rfl⟩
  exact ⟨pool, run,
    packetProcess_terminates (by omega) (by omega) run [1] []
      ⟨0, fun _ _ => rfl⟩⟩

/--
`Close` reports an error and the first call ends with an exception.  The
session is gone, the counter still counts it, and the second call spins.
-/
theorem packetProcess_spins_after_close_error :
    ∃ pool,
      Run (clientStep 64 HeaderCct.make) mutePool
          [⟨[1], [], [⟨false, [], true⟩]⟩] pool ∧
        ∀ count,
          (packetProcess 64 HeaderCct.make [1]
              (firstRounds (fun _ => quietRound) count) pool
              []).ending = .looping := by
  refine ⟨_, .snoc .start trivial rfl, fun count => ?_⟩
  refine looping_of_unaccounted ?_ rfl ?_ []
  · decide
  · simp [firstRounds, quietRound]

end LibSklt.Net.SyncSessionPool
