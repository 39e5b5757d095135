import LibSklt.Net.PoolCalls

/-!
# The connection counter of the pool

`m_sizeConnectionCnt` should be the number of sessions in the queue whenever
no call is in progress.  While calls run, it also counts the sessions that
they hold, and does not count a session that was pushed a moment ago; the
counter may even wrap around for a moment.  `balance` is what it stands for.

Four steps break this: a client with a session in hand that reads a count of
zero leaves and drops the session; a `Close` that throws ends the call before
its session is counted down; a `Restore` that is refused drops a session
without counting it down; and two maintenances at a time each fill the pool.
-/

namespace LibSklt.Net.PoolCalls

open LibSklt.Foundation.MachineWord
open LibSklt.Foundation.Processes
open LibSklt.Foundation.Transition
open LibSklt.Util

/-! ## What the calls stand for -/

/-- Sessions that are counted and not in the queue. -/
def owed (call : Call) : Nat :=
  match call.point with
  | .loadCount true | .exchange | .countSub | .restoreSize | .restorePush => 1
  | _ => 0

/-- Sessions that are in the queue and not counted. -/
def uncounted (call : Call) : Nat :=
  match call.point with
  | .countAdd _ => 1
  | _ => 0

/-- Whether the call is between the timer and the end of `CreateObject`. -/
def maintaining (call : Call) : Nat :=
  match call.point with
  | .loadFirst | .loadSecond | .connect _ | .createSize _ | .createPush _
  | .countAdd _ => 1
  | _ => 0

/-- Sessions that the call may still create. -/
def pending (call : Call) : Nat :=
  match call.point with
  | .loadSecond => 1
  | .connect remaining | .createSize remaining | .createPush remaining
  | .countAdd remaining => max remaining 1
  | _ => 0

theorem uncounted_le_maintaining (call : Call) :
    uncounted call ≤ maintaining call := by
  rw [uncounted, maintaining]
  split
  case h_1 point => simp [point]
  case h_2 => exact Nat.zero_le _

theorem pending_eq_zero
    (call : Call) (idle : maintaining call = 0) : pending call = 0 := by
  rw [maintaining] at idle
  rw [pending]
  cases point : call.point <;> simp [point] at idle ⊢

/-- What the connection counter stands for. -/
def State.balance (state : State) : Int :=
  state.shared.queued + total owed state.calls - total uncounted state.calls

/-- The counter is right, and no more sessions are planned than fit. -/
structure Accounted (config : Config) (state : State) : Prop where
  word : state.shared.sizeConnectionCnt < 2 ^ config.sizeBits
  counted :
    (state.shared.sizeConnectionCnt : Int) ≡ state.balance
      [ZMOD (2 ^ config.sizeBits : Nat)]
  limit :
    state.balance + total pending state.calls ≤ config.sizePoolCnt
  single : total maintaining state.calls ≤ 1

/--
The steps that keep the accounts: the maintenance starts only while no other
one is running, no client with a session in hand reads a count of zero, no
`Close` throws, and the queue has room for a session that is given back.
-/
structure CarefulStep (config : Config) (state : State) (call : Call)
    (decision : Decision) : Prop where
  alone :
    call.point = .timer → decision = .yes →
      total maintaining state.calls = 0
  present :
    call.point = .loadCount true → state.shared.sizeConnectionCnt ≠ 0
  closes :
    call.point = .exchange → decision ≠ .throw
  room :
    call.point = .restoreSize →
      Pool.roomAt config.sizeBits containerSize state.shared.queued = true

def Careful (config : Config) (state : State) : Event → Prop
  | .call => True
  | .advance index decision =>
      ∀ call ∈ state.calls[index]?, CarefulStep config state call decision

instance (config : Config) (state : State) (call : Call)
    (decision : Decision) :
    Decidable (CarefulStep config state call decision) :=
  decidable_of_iff
    ((call.point = .timer → decision = .yes →
        total maintaining state.calls = 0) ∧
      (call.point = .loadCount true →
        state.shared.sizeConnectionCnt ≠ 0) ∧
      (call.point = .exchange → decision ≠ .throw) ∧
      (call.point = .restoreSize →
        Pool.roomAt config.sizeBits containerSize state.shared.queued =
          true))
    ⟨fun ⟨alone, present, closes, room⟩ => ⟨alone, present, closes, room⟩,
      fun careful =>
        ⟨careful.alone, careful.present, careful.closes, careful.room⟩⟩

instance (config : Config) (state : State) (event : Event) :
    Decidable (Careful config state event) :=
  match event with
  | .call => inferInstanceAs (Decidable True)
  | .advance index decision =>
      inferInstanceAs
        (Decidable (∀ call ∈ state.calls[index]?,
          CarefulStep config state call decision))

/-! ## One step -/

section

variable {config : Config} {state : State} {index : Nat} {call : Call}

/--
A step that changes the counter by `change`.  The other calls keep their
weights, so that only the call that takes the step has to be looked at.
-/
theorem Accounted.replace
    (accounted : Accounted config state)
    (found : state.calls[index]? = some call) {shared : Shared}
    {next : Option Call} (change : Int)
    (word : shared.sizeConnectionCnt < 2 ^ config.sizeBits)
    (counted :
      (shared.sizeConnectionCnt : Int) ≡
        state.shared.sizeConnectionCnt + change
        [ZMOD (2 ^ config.sizeBits : Nat)])
    (balanced :
      (shared.queued : Int) + next.elim 0 owed - next.elim 0 uncounted =
        state.shared.queued + owed call - uncounted call + change)
    (limit :
      state.balance + change + total pending state.calls +
          next.elim 0 pending ≤
        config.sizePoolCnt + pending call)
    (single :
      total maintaining state.calls + next.elim 0 maintaining ≤
        1 + maintaining call) :
    Accounted config ⟨shared, replaceAt state.calls index next⟩ := by
  have owedTotal := total_replaceAt owed found next
  have uncountedTotal := total_replaceAt uncounted found next
  have pendingTotal := total_replaceAt pending found next
  have maintainingTotal := total_replaceAt maintaining found next
  have balance :
      State.balance ⟨shared, replaceAt state.calls index next⟩ =
        state.balance + change := by
    simp only [State.balance] at balanced ⊢
    omega
  refine ⟨word, ?_, ?_, ?_⟩
  · rw [balance]
    exact counted.trans (accounted.counted.add_right change)
  · rw [balance]
    simp only
    omega
  · simp only
    omega

/-- A step that does not count, but may plan sessions. -/
theorem Accounted.replace_uncounted
    (accounted : Accounted config state)
    (found : state.calls[index]? = some call) {shared : Shared}
    {next : Option Call}
    (same : shared.sizeConnectionCnt = state.shared.sizeConnectionCnt)
    (balanced :
      shared.queued + next.elim 0 owed + uncounted call =
        state.shared.queued + owed call + next.elim 0 uncounted)
    (limit :
      state.balance + total pending state.calls + next.elim 0 pending ≤
        config.sizePoolCnt + pending call)
    (single :
      total maintaining state.calls + next.elim 0 maintaining ≤
        1 + maintaining call) :
    Accounted config ⟨shared, replaceAt state.calls index next⟩ := by
  refine accounted.replace found 0 (same ▸ accounted.word) ?_ ?_ ?_ single
  · rw [same, add_zero]
  · omega
  · omega

/-- A step that neither counts nor plans sessions. -/
theorem Accounted.replace_quiet
    (accounted : Accounted config state)
    (found : state.calls[index]? = some call) {shared : Shared}
    {next : Option Call}
    (same : shared.sizeConnectionCnt = state.shared.sizeConnectionCnt)
    (balanced :
      shared.queued + next.elim 0 owed + uncounted call =
        state.shared.queued + owed call + next.elim 0 uncounted)
    (planned : next.elim 0 pending ≤ pending call)
    (busy : next.elim 0 maintaining ≤ maintaining call) :
    Accounted config ⟨shared, replaceAt state.calls index next⟩ := by
  have limit := accounted.limit
  have single := accounted.single
  exact accounted.replace_uncounted found same balanced
    (by omega) (by omega)

/-- While one call is in its maintenance, the others are not. -/
theorem Accounted.alone
    (accounted : Accounted config state)
    (found : state.calls[index]? = some call)
    (busy : maintaining call = 1) :
    total uncounted state.calls = uncounted call ∧
      total pending state.calls = pending call := by
  have single := accounted.single
  have rest := total_replaceAt maintaining found none
  have restIdle :
      total maintaining (replaceAt state.calls index none) = 0 := by
    simp only [Option.elim_none] at rest
    omega
  have noUncounted :=
    total_eq_zero
      (fun call idle =>
        Nat.le_zero.mp (idle ▸ uncounted_le_maintaining call)) restIdle
  have noPending := total_eq_zero pending_eq_zero restIdle
  have uncountedTotal := total_replaceAt uncounted found none
  have pendingTotal := total_replaceAt pending found none
  simp only [Option.elim_none] at uncountedTotal pendingTotal
  omega

/-- A maintenance that reads the counter reads the right number. -/
theorem Accounted.count_eq
    (accounted : Accounted config state)
    (found : state.calls[index]? = some call)
    (busy : maintaining call = 1) (settled : uncounted call = 0) :
    (state.shared.sizeConnectionCnt : Int) = state.balance := by
  obtain ⟨noUncounted, -⟩ := accounted.alone found busy
  have limit := accounted.limit
  have range := config.poolCnt_lt
  refine eq_of_modEq accounted.word ?_ ?_ accounted.counted
  · simp only [State.balance]
    omega
  · omega

/-- What a creation of so many sessions still plans. -/
theorem pending_creating (caller : Caller) (remaining : Nat) :
    (creating caller remaining).elim 0 pending = remaining ∧
      (creating caller remaining).elim 0 owed = 0 ∧
        (creating caller remaining).elim 0 uncounted = 0 ∧
          (creating caller remaining).elim 0 maintaining ≤ 1 := by
  rw [creating]
  split
  case isTrue nothing =>
    subst remaining
    cases caller <;> simp [afterCreation, pending, owed, uncounted,
      maintaining]
  case isFalse more =>
    refine ⟨?_, rfl, rfl, le_rfl⟩
    simp only [Option.elim_some, pending]
    omega

/-- After `CreateObject(count)` nothing is planned. -/
theorem weights_afterCreation (caller : Caller) :
    (afterCreation caller).elim 0 pending = 0 ∧
      (afterCreation caller).elim 0 owed = 0 ∧
        (afterCreation caller).elim 0 uncounted = 0 ∧
          (afterCreation caller).elim 0 maintaining = 0 := by
  cases caller <;> simp [afterCreation, pending, owed, uncounted, maintaining]

/-! ## The steps that plan or count sessions -/

variable {caller : Caller} {remaining : Nat}

/-- The timer has expired, and no other call is in its maintenance. -/
theorem Accounted.timer
    (accounted : Accounted config state)
    (found : state.calls[index]? = some ⟨caller, .timer⟩)
    (alone : total maintaining state.calls = 0) :
    Accounted config
      ⟨state.shared,
        replaceAt state.calls index (some ⟨caller, .loadFirst⟩)⟩ := by
  have limit := accounted.limit
  refine accounted.replace_uncounted found rfl rfl ?_ ?_
  · simp only [Option.elim_some, pending]
    omega
  · simp only [Option.elim_some, maintaining]
    omega

/-- The first read finds that sessions are missing: one at least. -/
theorem Accounted.loadFirst
    (accounted : Accounted config state)
    (found : state.calls[index]? = some ⟨caller, .loadFirst⟩)
    (below : state.shared.sizeConnectionCnt < config.sizePoolCnt) :
    Accounted config
      ⟨state.shared,
        replaceAt state.calls index (some ⟨caller, .loadSecond⟩)⟩ := by
  have single := accounted.single
  have count := accounted.count_eq found rfl rfl
  obtain ⟨-, planned⟩ := accounted.alone found rfl
  refine accounted.replace_uncounted found rfl rfl ?_ ?_
  · simp only [Option.elim_some, pending] at planned ⊢
    omega
  · simp only [Option.elim_some, maintaining]
    omega

/-- The second read says how many sessions to create. -/
theorem Accounted.loadSecond
    (accounted : Accounted config state)
    (found : state.calls[index]? = some ⟨caller, .loadSecond⟩) :
    Accounted config
      ⟨state.shared,
        replaceAt state.calls index
          (creating caller
            (subWord config.sizeBits config.sizePoolCnt
              state.shared.sizeConnectionCnt))⟩ := by
  have limit := accounted.limit
  have single := accounted.single
  have count := accounted.count_eq found rfl rfl
  have range := config.poolCnt_lt
  obtain ⟨-, planned⟩ := accounted.alone found rfl
  simp only [pending] at planned
  have missing :
      subWord config.sizeBits config.sizePoolCnt
          state.shared.sizeConnectionCnt =
        config.sizePoolCnt - state.shared.sizeConnectionCnt :=
    subWord_of_le (by omega) range
  obtain ⟨nextPending, nextOwed, nextUncounted, nextBusy⟩ :=
    pending_creating caller
      (config.sizePoolCnt - state.shared.sizeConnectionCnt)
  rw [missing]
  refine accounted.replace_uncounted found rfl ?_ ?_ ?_
  · rw [nextOwed, nextUncounted]
    rfl
  · rw [nextPending]
    simp only [pending]
    omega
  · simp only [maintaining] at nextBusy ⊢
    omega

/-- A creation is given up. -/
theorem Accounted.giveUp
    (accounted : Accounted config state)
    (found : state.calls[index]? = some call)
    (nothing : owed call = 0) (settled : uncounted call = 0) :
    Accounted config
      ⟨state.shared,
        replaceAt state.calls index (afterCreation call.caller)⟩ := by
  obtain ⟨nextPending, nextOwed, nextUncounted, nextBusy⟩ :=
    weights_afterCreation call.caller
  refine accounted.replace_quiet found rfl ?_ ?_ ?_
  · rw [nextOwed, nextUncounted, nothing, settled]
  · rw [nextPending]
    exact Nat.zero_le _
  · rw [nextBusy]
    exact Nat.zero_le _

/-- A session that is in the queue is counted. -/
theorem Accounted.countAdd
    (accounted : Accounted config state)
    (found : state.calls[index]? = some ⟨caller, .countAdd remaining⟩) :
    Accounted config
      ⟨{ state.shared with
          sizeConnectionCnt :=
            addWord config.sizeBits state.shared.sizeConnectionCnt 1 },
        replaceAt state.calls index (creating caller (remaining - 1))⟩ := by
  have limit := accounted.limit
  have single := accounted.single
  obtain ⟨nextPending, nextOwed, nextUncounted, nextBusy⟩ :=
    pending_creating caller (remaining - 1)
  refine accounted.replace found 1 ?_ ?_ ?_ ?_ ?_
  · exact Nat.mod_lt _ (Nat.two_pow_pos _)
  · exact addWord_modEq _ _ 1
  · rw [nextOwed, nextUncounted]
    simp [owed, uncounted]
  · rw [nextPending]
    simp only [pending]
    omega
  · simp only [maintaining] at nextBusy ⊢
    omega

/-- A session that was closed is counted no longer. -/
theorem Accounted.countSub
    (accounted : Accounted config state)
    (found : state.calls[index]? = some ⟨caller, .countSub⟩) :
    Accounted config
      ⟨{ state.shared with
          sizeConnectionCnt :=
            subWord config.sizeBits state.shared.sizeConnectionCnt 1 },
        replaceAt state.calls index (some ⟨caller, .timer⟩)⟩ := by
  have limit := accounted.limit
  have single := accounted.single
  refine accounted.replace found (-1) ?_ ?_ ?_ ?_ ?_
  · exact Nat.mod_lt _ (Nat.two_pow_pos _)
  · exact subWord_modEq _ _ 1
  · simp [owed, uncounted]
  · simp only [Option.elim_some, pending]
    omega
  · simp only [Option.elim_some, maintaining]
    omega

/-! ## One step of any kind -/

/-- A careful step of a call keeps the accounts. -/
theorem accounted_advance
    (accounted : Accounted config state)
    (found : state.calls[index]? = some call) {decision : Decision}
    (careful : CarefulStep config state call decision) :
    Accounted config
      ⟨(advance config call decision state.shared).1,
        replaceAt state.calls index
          (advance config call decision state.shared).2⟩ := by
  obtain ⟨caller, point⟩ := call
  cases point with
  | timer =>
      cases decision with
      | yes => exact accounted.timer found (careful.alone rfl rfl)
      | no | throw =>
          refine accounted.replace_quiet found rfl ?_ ?_ ?_ <;>
            simp [advance, owed, uncounted, pending, maintaining]
  | loadFirst =>
      simp only [advance]
      split
      case isTrue below => exact accounted.loadFirst found below
      case isFalse =>
        refine accounted.replace_quiet found rfl ?_ ?_ ?_ <;>
          simp [owed, uncounted, pending, maintaining]
  | loadSecond => exact accounted.loadSecond found
  | connect remaining =>
      cases decision with
      | yes =>
          refine accounted.replace_quiet found rfl ?_ ?_ ?_ <;>
            simp [advance, owed, uncounted, pending, maintaining]
      | no => exact accounted.giveUp found rfl rfl
      | throw =>
          refine accounted.replace_quiet found rfl ?_ ?_ ?_ <;>
            simp [advance, owed, uncounted]
  | createSize remaining =>
      simp only [advance]
      split
      · refine accounted.replace_quiet found rfl ?_ ?_ ?_ <;>
          simp [owed, uncounted, pending, maintaining]
      · exact accounted.giveUp found rfl rfl
  | createPush remaining =>
      refine accounted.replace_quiet found rfl ?_ ?_ ?_ <;>
        simp [advance, owed, uncounted, pending, maintaining]
  | countAdd remaining => exact accounted.countAdd found
  | empty =>
      simp only [advance]
      split <;>
        refine accounted.replace_quiet found rfl ?_ ?_ ?_ <;>
          simp [owed, uncounted, pending, maintaining]
  | tryPop =>
      simp only [advance]
      split
      case isTrue =>
        refine accounted.replace_quiet found rfl ?_ ?_ ?_ <;>
          simp [owed, uncounted, pending, maintaining]
      case isFalse some =>
        refine accounted.replace_quiet found rfl ?_ ?_ ?_ <;>
          simp [owed, uncounted, pending, maintaining]
        omega
  | loadCount held =>
      simp only [advance]
      cases held with
      | true =>
          rw [if_neg (careful.present rfl), if_pos rfl]
          refine accounted.replace_quiet found rfl ?_ ?_ ?_ <;>
            simp [owed, uncounted, pending, maintaining]
      | false =>
          rw [if_neg (Bool.false_ne_true)]
          split <;>
            refine accounted.replace_quiet found rfl ?_ ?_ ?_ <;>
              simp [owed, uncounted, pending, maintaining]
  | exchange =>
      cases decision with
      | yes | no =>
          refine accounted.replace_quiet found rfl ?_ ?_ ?_ <;>
            simp [advance, owed, uncounted, pending, maintaining]
      | throw => exact absurd rfl (careful.closes rfl)
  | countSub => exact accounted.countSub found
  | restoreSize =>
      simp only [advance]
      rw [if_pos (careful.room rfl)]
      refine accounted.replace_quiet found rfl ?_ ?_ ?_ <;>
        simp [owed, uncounted, pending, maintaining]
  | restorePush =>
      refine accounted.replace_quiet found rfl ?_ ?_ ?_ <;>
        simp [advance, owed, uncounted, pending, maintaining]

end

/-! ## Whole runs -/

section

variable {config : Config}

theorem accounted_start : Accounted config (start config) := by
  obtain ⟨startPending, startOwed, startUncounted, startBusy⟩ :=
    pending_creating .constructor config.sizePoolCnt
  have balance : (start config).balance = 0 := by
    simp only [State.balance, start, total_toList, startOwed, startUncounted]
    rfl
  refine ⟨Nat.two_pow_pos _, ?_, ?_, ?_⟩
  · rw [balance]
    exact .refl _
  · rw [balance]
    simp only [start, total_toList, startPending, Int.zero_add, le_refl]
  · simp only [start, total_toList]
    exact startBusy

theorem accounted_step
    {state next : State} {event : Event}
    (accounted : Accounted config state)
    (careful : Careful config state event)
    (taken : step config state event = some next) :
    Accounted config next := by
  cases event with
  | call =>
      simp only [step] at taken
      split at taken
      case isTrue => cases taken
      case isFalse =>
        cases taken
        have limit := accounted.limit
        have single := accounted.single
        have same (weight : Call → Nat) (none : weight ⟨.client, .timer⟩ = 0) :
            total weight (state.calls ++ [⟨.client, .timer⟩]) =
              total weight state.calls := by
          rw [total_append]
          simp [total, none]
        have balance :
            State.balance
                { state with
                  calls := state.calls ++ [⟨.client, .timer⟩] } =
              state.balance := by
          simp only [State.balance, same owed rfl, same uncounted rfl]
        refine ⟨accounted.word, ?_, ?_, ?_⟩
        · rw [balance]
          exact accounted.counted
        · rw [balance, same pending rfl]
          exact limit
        · rw [same maintaining rfl]
          exact single
  | advance index decision =>
      simp only [step, Option.map_eq_some_iff] at taken
      obtain ⟨call, found, rfl⟩ := taken
      exact accounted_advance accounted found (careful call found)

/--
In every run of careful steps, the counter is the number of sessions in the
queue and at most the size of the pool whenever no call is in progress.
-/
theorem connectionCnt_eq_queued
    {events : List Event} {state : State}
    (run : RunWhere (step config) (Careful config) (start config) events
      state)
    (quiescent : state.calls = []) :
    state.shared.sizeConnectionCnt = state.shared.queued ∧
      state.shared.sizeConnectionCnt ≤ config.sizePoolCnt := by
  have accounted : Accounted config state :=
    run.invariant (fun _ => True) (Accounted config) (fun _ => trivial)
      accounted_start
      fun _ _ _ _ accounted careful taken =>
        accounted_step accounted careful taken
  have balance : state.balance = state.shared.queued := by
    simp [State.balance, quiescent]
  have limit := accounted.limit
  have range := config.poolCnt_lt
  rw [balance, quiescent, total_nil] at limit
  have counted := accounted.counted
  rw [balance] at counted
  have same := eq_of_modEq accounted.word (by omega) (by omega) counted
  omega

/-- The constructor connects one session, and a call uses it. -/
def oneCall : List Event :=
  List.replicate 4 (Event.advance 0 .yes) ++
    [Event.call, Event.advance 0 .no] ++
    List.replicate 6 (Event.advance 0 .yes)

theorem connectionCnt_eq_queued_of_one_call :
    ∃ state,
      RunWhere (step ⟨64, 1, by decide⟩) (Careful ⟨64, 1, by decide⟩)
          (start ⟨64, 1, by decide⟩) oneCall state ∧
        state.shared.sizeConnectionCnt = state.shared.queued ∧
          state.shared.sizeConnectionCnt ≤ 1 := by
  have run :
      RunWhere (step ⟨64, 1, by decide⟩) (Careful ⟨64, 1, by decide⟩)
          (start ⟨64, 1, by decide⟩) oneCall ⟨⟨1, 1⟩, []⟩ :=
    runWhere_of_exec (by decide +kernel)
  exact ⟨_, run, connectionCnt_eq_queued run rfl⟩

/--
The constructor's connect fails.  The maintenance of the first client pushes
a session; the second client takes it before it is counted, and leaves with
it.  The first client then counts it, and connects and uses another one.
-/
def leavingClient : List Event :=
  [Event.advance 0 .no, Event.call, Event.call] ++
    List.replicate 6 (Event.advance 0 .yes) ++
    [Event.advance 1 .no] ++
    List.replicate 3 (Event.advance 1 .yes) ++
    List.replicate 11 (Event.advance 0 .yes)

/-- The pool counts two connections and has one. -/
theorem connectionCnt_ne_queued :
    ∃ state,
      Run (step ⟨64, 2, by decide⟩) (start ⟨64, 2, by decide⟩)
          leavingClient state ∧
        state.calls = [] ∧
          state.shared.sizeConnectionCnt ≠ state.shared.queued := by
  have run :
      Run (step ⟨64, 2, by decide⟩) (start ⟨64, 2, by decide⟩)
          leavingClient ⟨⟨1, 2⟩, []⟩ :=
    runWhere_of_exec (by decide +kernel)
  exact ⟨_, run, rfl, by decide⟩

end

end LibSklt.Net.PoolCalls
