import LibSklt.Foundation.Transition
import LibSklt.Util.Pool

/-!
# The use count of a pool

`GetUseCount` should be the number of objects that the pool handed out and
that were not given back.  The state below keeps these objects beside the
pool.  `Acquire` counts what it hands out, but `WaitAcquire` does not;
`Restore` counts down for every object, also for one that the pool never
handed out, and `Create` never does.  The count is right after every call
exactly if no call of the second kind is made.
-/

namespace LibSklt.Util.PoolUse

open LibSklt.Foundation.MachineWord
open LibSklt.Foundation.Transition

variable {Object : Type}

/-- The calls of a pool; a null object is `none`. -/
inductive PoolCall (Object : Type) where
  | create (object : Option Object)
  | acquire
  | waitAcquire
  | restore (object : Option Object)
deriving DecidableEq

/-- A pool, with the objects that it handed out and that are not back. -/
structure Lending (Object : Type) where
  pool : Pool Object
  handedOut : List Object

/-- A new pool has handed out nothing. -/
def Lending.make (count : Nat) : Lending Object where
  pool := Pool.make count
  handedOut := []

variable [DecidableEq Object]

/-- `Create` and `Restore`: an object that the pool takes is back. -/
def Lending.giveBack (sizeBits : Nat) (state : Lending Object)
    (object : Option Object) (isCreate : Bool) : Lending Object :=
  let (taken, pool) := state.pool.restore sizeBits object isCreate
  match object with
  | some object =>
      if taken then
        { pool := pool, handedOut := state.handedOut.erase object }
      else
        { state with pool := pool }
  | none => { state with pool := pool }

/-- One call; a call of `WaitAcquire` on an empty pool does not return. -/
def step (sizeBits : Nat) (state : Lending Object) :
    PoolCall Object → Option (Lending Object)
  | .create object => some (state.giveBack sizeBits object true)
  | .restore object => some (state.giveBack sizeBits object false)
  | .acquire =>
      let (object, pool) := state.pool.acquire sizeBits
      some
        { pool := pool, handedOut := state.handedOut ++ object.toList }
  | .waitAcquire =>
      state.pool.waitAcquire.map fun (object, pool) =>
        { pool := pool, handedOut := state.handedOut ++ [object] }

/-- The use count is the number of objects that are out. -/
def Counted (state : Lending Object) : Prop :=
  state.pool.getUseCount = state.handedOut.length

/-- A call after which the use count is right. -/
def CountedAfter (sizeBits : Nat) (state : Lending Object)
    (call : PoolCall Object) : Prop :=
  ∀ after, step sizeBits state call = some after → Counted after

/--
The calls that keep the count: objects go out by `Acquire` only, as long as
the counter can hold their number; an object that the queue has room for
comes back by `Restore` if it was out, and by `Create` if it was not.
-/
def Balanced (sizeBits : Nat) (state : Lending Object) :
    PoolCall Object → Prop
  | .acquire =>
      state.pool.queue ≠ [] →
        state.handedOut.length + 1 < 2 ^ sizeBits
  | .waitAcquire => False
  | .create object =>
      ∀ fresh ∈ object,
        state.pool.hasRoom sizeBits = true → fresh ∉ state.handedOut
  | .restore object =>
      ∀ back ∈ object,
        state.pool.hasRoom sizeBits = true → back ∈ state.handedOut

/-! ## One call -/

section

variable {sizeBits : Nat} {state : Lending Object}

/-- An object that the queue has no room for changes nothing. -/
theorem giveBack_of_full
    (full : state.pool.hasRoom sizeBits = false) (object : Option Object)
    (isCreate : Bool) :
    state.giveBack sizeBits object isCreate = state := by
  cases object with
  | none => rfl
  | some object =>
      rw [Lending.giveBack, Pool.restore_of_not_hasRoom full]
      rfl

theorem giveBack_of_room
    (room : state.pool.hasRoom sizeBits = true) (object : Object)
    (isCreate : Bool) :
    (state.giveBack sizeBits (some object) isCreate).handedOut =
        state.handedOut.erase object ∧
      (state.giveBack sizeBits (some object) isCreate).pool.getUseCount =
        if isCreate then state.pool.sizeUseCnt
        else subWord sizeBits state.pool.sizeUseCnt 1 := by
  simp [Lending.giveBack, Pool.restore, room, Pool.getUseCount]

/-- Counting down gives another number. -/
theorem subWord_one_ne
    (positive : 0 < sizeBits) {count : Nat} (word : count < 2 ^ sizeBits) :
    subWord sizeBits count 1 ≠ count := by
  have range : 2 ^ 1 ≤ 2 ^ sizeBits :=
    Nat.pow_le_pow_right (by omega) positive
  by_cases zero : count = 0
  · subst count
    rw [subWord_of_lt (by omega) (by omega)]
    omega
  · rw [subWord_of_le (by omega) word]
    omega

theorem counted_acquire_iff (counted : Counted state) :
    CountedAfter sizeBits state .acquire ↔
      Balanced sizeBits state .acquire := by
  rw [Counted, Pool.getUseCount] at counted
  simp only [CountedAfter, Balanced, step, Option.some.injEq, forall_eq']
  cases queue : state.pool.queue with
  | nil =>
      rw [Pool.acquire_nil queue]
      simpa [Counted, Pool.getUseCount] using counted
  | cons object rest =>
      rw [Pool.acquire_cons queue]
      simp only [Counted, Pool.getUseCount, Option.toList_some,
        List.length_append, List.length_singleton, counted, ne_eq,
        reduceCtorEq, not_false_eq_true, forall_const]
      constructor
      · intro same
        rw [← same]
        exact Nat.mod_lt _ (Nat.two_pow_pos _)
      · intro fits
        exact addWord_of_lt fits

/-- An object that `WaitAcquire` hands out is not counted. -/
theorem not_counted_waitAcquire
    (counted : Counted state) {after : Lending Object}
    (returns : step sizeBits state .waitAcquire = some after) :
    ¬ Counted after := by
  rw [Counted, Pool.getUseCount] at counted
  simp only [step, Pool.waitAcquire] at returns
  cases queue : state.pool.queue with
  | nil => simp [queue] at returns
  | cons object rest =>
      simp only [queue, Option.map_some, Option.some.injEq] at returns
      subst after
      simp only [Counted, Pool.getUseCount, counted, List.length_append,
        List.length_singleton]
      omega

/-- An object that is taken was out exactly if the count goes down. -/
theorem counted_giveBack_iff
    (positive : 0 < sizeBits) (counted : Counted state)
    (word : state.pool.sizeUseCnt < 2 ^ sizeBits)
    (object : Option Object) (isCreate : Bool) :
    Counted (state.giveBack sizeBits object isCreate) ↔
      ∀ given ∈ object,
        state.pool.hasRoom sizeBits = true →
          (isCreate = true ↔ given ∉ state.handedOut) := by
  cases room : state.pool.hasRoom sizeBits with
  | false =>
      rw [giveBack_of_full room]
      simpa using counted
  | true =>
      cases object with
      | none => exact iff_of_true counted (by simp)
      | some object =>
          obtain ⟨out, count⟩ := giveBack_of_room room object isCreate
          rw [Counted, Pool.getUseCount] at counted
          rw [Counted, out, count]
          simp only [Option.mem_def, Option.some.injEq, forall_eq',
            forall_const]
          rw [counted] at word
          by_cases member : object ∈ state.handedOut
          · have some := List.length_pos_of_mem member
            rw [List.length_erase_of_mem member, counted,
              subWord_of_le some word]
            cases isCreate with
            | true =>
                refine iff_of_false ?_ (by simp [member])
                rw [if_pos rfl]
                omega
            | false => exact iff_of_true rfl (by simp [member])
          · rw [List.erase_of_not_mem member, counted]
            cases isCreate with
            | true => exact iff_of_true rfl (by simp [member])
            | false =>
                refine iff_of_false ?_ (by simp [member])
                rw [if_neg Bool.false_ne_true]
                exact subWord_one_ne positive word

/-- After a call that starts with the right count. -/
theorem countedAfter_iff
    (positive : 0 < sizeBits) (counted : Counted state)
    (word : state.pool.sizeUseCnt < 2 ^ sizeBits)
    {call : PoolCall Object} {after : Lending Object}
    (taken : step sizeBits state call = some after) :
    CountedAfter sizeBits state call ↔ Balanced sizeBits state call := by
  cases call with
  | acquire => exact counted_acquire_iff counted
  | waitAcquire =>
      refine iff_of_false (fun counts => ?_) id
      exact not_counted_waitAcquire counted taken (counts after taken)
  | create object =>
      simp only [CountedAfter, step, Option.some.injEq, forall_eq',
        counted_giveBack_iff positive counted word, true_iff, Balanced]
  | restore object =>
      simp only [CountedAfter, step, Option.some.injEq, forall_eq',
        counted_giveBack_iff positive counted word, Bool.false_eq_true,
        false_iff, not_not, Balanced]

/-- The counter is a `size_t`. -/
theorem word_step
    (word : state.pool.sizeUseCnt < 2 ^ sizeBits)
    {call : PoolCall Object} {after : Lending Object}
    (taken : step sizeBits state call = some after) :
    after.pool.sizeUseCnt < 2 ^ sizeBits := by
  have back (object : Option Object) (isCreate : Bool) :
      (state.giveBack sizeBits object isCreate).pool.sizeUseCnt <
        2 ^ sizeBits := by
    cases room : state.pool.hasRoom sizeBits with
    | false =>
        rw [giveBack_of_full room]
        exact word
    | true =>
        cases object with
        | none => exact word
        | some object =>
            have count := (giveBack_of_room room object isCreate).2
            rw [Pool.getUseCount] at count
            rw [count]
            split
            · exact word
            · exact Nat.mod_lt _ (Nat.two_pow_pos _)
  cases call with
  | create object =>
      cases taken
      exact back object true
  | restore object =>
      cases taken
      exact back object false
  | acquire =>
      cases taken
      cases state.pool.queue with
      | nil => exact word
      | cons object rest => exact Nat.mod_lt _ (Nat.two_pow_pos _)
  | waitAcquire =>
      simp only [step, Pool.waitAcquire] at taken
      cases queue : state.pool.queue with
      | nil => simp [queue] at taken
      | cons object rest =>
          simp only [queue, Option.map_some, Option.some.injEq] at taken
          subst after
          exact word

end

/-! ## All calls -/

/--
In every sequence of calls on a new pool, the use count is the number of
objects that are out after each call exactly if every call is balanced.
-/
theorem useCount_eq_handedOut_iff
    {sizeBits count : Nat} (positive : 0 < sizeBits)
    {calls : List (PoolCall Object)} {state : Lending Object}
    (run : Run (step sizeBits) (Lending.make count) calls state) :
    EachStep (step sizeBits) (Lending.make count : Lending Object) calls
        (fun _ before call => CountedAfter sizeBits before call) ↔
      EachStep (step sizeBits) (Lending.make count : Lending Object) calls
        (fun _ before call => Balanced sizeBits before call) := by
  -- As long as all calls were balanced, the next one starts counted.
  suffices both :
      state.pool.sizeUseCnt < 2 ^ sizeBits ∧
        (EachStep (step sizeBits) (Lending.make count) calls
            (fun _ before call => CountedAfter sizeBits before call) →
          Counted state) ∧
        (EachStep (step sizeBits) (Lending.make count) calls
            (fun _ before call => CountedAfter sizeBits before call) ↔
          EachStep (step sizeBits) (Lending.make count) calls
            (fun _ before call => Balanced sizeBits before call)) from
    both.2.2
  induction run with
  | start =>
      exact ⟨Nat.two_pow_pos _, fun _ => rfl,
        iff_of_true (eachStep_nil _) (eachStep_nil _)⟩
  | snoc earlier _ taken inductionHypothesis =>
      obtain ⟨word, counts, agree⟩ := inductionHypothesis
      rw [eachStep_snoc_iff earlier, eachStep_snoc_iff earlier, ← agree]
      refine ⟨word_step word taken, ?_, ?_⟩
      · rintro ⟨-, last⟩
        exact last _ taken
      · refine and_congr_right fun each => ?_
        exact countedAfter_iff positive (counts each) word taken

/-- A session that is created, handed out and given back. -/
theorem useCount_eq_handedOut_of_round :
    EachStep (step 64) (Lending.make 5000 : Lending Nat)
      [.create (some 1), .acquire, .restore (some 1)]
      (fun _ before call => CountedAfter 64 before call) := by
  have created :
      Run (step 64) (Lending.make 5000 : Lending Nat) [.create (some 1)]
        ⟨⟨[1], 0, 5000⟩, []⟩ :=
    .snoc .start trivial rfl
  have acquired :
      Run (step 64) (Lending.make 5000 : Lending Nat)
        [.create (some 1), .acquire] ⟨⟨[], 1, 5000⟩, [1]⟩ :=
    .snoc created trivial rfl
  have restored :
      Run (step 64) (Lending.make 5000 : Lending Nat)
        [.create (some 1), .acquire, .restore (some 1)]
        ⟨⟨[1], 0, 5000⟩, []⟩ :=
    .snoc acquired trivial rfl
  refine (useCount_eq_handedOut_iff (by decide) restored).mpr ?_
  refine (eachStep_snoc_iff acquired).mpr ⟨?_, by simp [Balanced]⟩
  refine (eachStep_snoc_iff created).mpr ⟨?_, by simp [Balanced]⟩
  exact (eachStep_snoc_iff .start).mpr
    ⟨eachStep_nil _, by simp [Balanced, Lending.make]⟩

/--
`Connetion` gives a new session to `Restore`, and the count wraps around; an
object that `WaitAcquire` handed out is not counted.
-/
theorem useCount_ne_handedOut :
    (∃ state,
      Run (step 64) (Lending.make 5000 : Lending Nat)
          [.restore (some 1)] state ∧
        state.handedOut = [] ∧
        state.pool.getUseCount = 2 ^ 64 - 1) ∧
      ∃ state,
        Run (step 64) (Lending.make 5000 : Lending Nat)
            [.create (some 1), .waitAcquire] state ∧
          state.handedOut = [1] ∧ state.pool.getUseCount = 0 := by
  constructor
  · have wraps : subWord 64 0 1 = 2 ^ 64 - 1 := by
      rw [subWord_of_lt (by decide) (by decide), Nat.zero_add]
    exact ⟨⟨⟨[1], subWord 64 0 1, 5000⟩, []⟩, .snoc .start trivial rfl,
      rfl, wraps⟩
  · exact ⟨⟨⟨[], 0, 5000⟩, [1]⟩,
      .snoc (.snoc .start trivial rfl) trivial rfl, rfl, rfl⟩

end LibSklt.Util.PoolUse
