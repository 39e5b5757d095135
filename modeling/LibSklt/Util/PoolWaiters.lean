import LibSklt.Util.PoolUse

/-!
# Callers that wait for an object

A caller of `WaitAcquire` on an empty pool is blocked in `pop` until an object
is pushed.  The size that the queue reports is then negative: the queued
objects minus the blocked callers.  `Restore` compares it with an unsigned
limit, so that it refuses objects exactly while callers wait for one.
-/

namespace LibSklt.Util.PoolWaiters

open LibSklt.Foundation.MachineWord
open LibSklt.Foundation.Transition
open LibSklt.Util.PoolUse

variable {Object : Type}

/-- A pool, with the callers that are blocked in `pop`. -/
structure WaitingPool (Object : Type) where
  pool : Pool Object
  waiting : Nat
  /-- The objects that blocked callers received. -/
  received : List Object

namespace WaitingPool

/-- A new pool, on which nobody waits. -/
def make (count : Nat) : WaitingPool Object where
  pool := Pool.make count
  waiting := 0
  received := []

/-- `m_queue.size()`. -/
def size (state : WaitingPool Object) : Int :=
  state.pool.queue.length - state.waiting

/-- The test for room in `Restore`, on a size that may be negative. -/
def hasRoom (sizeBits : Nat) (state : WaitingPool Object) : Bool :=
  unsignedCast sizeBits (signedCast 32 state.size) <
    state.pool.sizeFlexibleMaxCnt

/-- `m_queue.push`: a blocked caller receives the object. -/
def push (state : WaitingPool Object) (object : Object) :
    WaitingPool Object :=
  if state.waiting = 0 then
    { state with
      pool := { state.pool with queue := state.pool.queue ++ [object] } }
  else
    { state with
      waiting := state.waiting - 1
      received := state.received ++ [object] }

/-- `Pool::Restore`; the Boolean of the result is its return value. -/
def restore (sizeBits : Nat) (state : WaitingPool Object)
    (object : Option Object) (isCreate : Bool) :
    Bool × WaitingPool Object :=
  match object with
  | none => (false, state)
  | some object =>
      if state.hasRoom sizeBits then
        let pushed := state.push object
        (true,
          { pushed with
            pool :=
              { pushed.pool with
                sizeUseCnt :=
                  if isCreate then pushed.pool.sizeUseCnt
                  else subWord sizeBits pushed.pool.sizeUseCnt 1 } })
      else
        (false, state)

end WaitingPool

/-- One call; `WaitAcquire` on an empty queue blocks its caller. -/
def step (sizeBits : Nat) (state : WaitingPool Object) :
    PoolCall Object → Option (WaitingPool Object)
  | .create object => some (state.restore sizeBits object true).2
  | .restore object => some (state.restore sizeBits object false).2
  | .acquire =>
      some { state with pool := (state.pool.acquire sizeBits).2 }
  | .waitAcquire =>
      match state.pool.waitAcquire with
      | some (_, pool) => some { state with pool := pool }
      | none => some { state with waiting := state.waiting + 1 }

/-- `Restore` or `Create` took the object, for a waiting caller if any. -/
structure Taken (sizeBits : Nat) (state : WaitingPool Object)
    (object : Object) (isCreate : Bool) : Prop where
  succeeds : (state.restore sizeBits (some object) isCreate).1 = true
  queued :
    state.waiting = 0 →
      (state.restore sizeBits (some object) isCreate).2.pool.queue =
        state.pool.queue ++ [object]
  received :
    0 < state.waiting →
      (state.restore sizeBits (some object) isCreate).2.received =
          state.received ++ [object] ∧
        (state.restore sizeBits (some object) isCreate).2.waiting + 1 =
          state.waiting

/-- An object that is offered while fewer than the maximum are queued. -/
def Offers (state : WaitingPool Object) :
    PoolCall Object → Object → Bool → Prop
  | .create object, given, isCreate =>
      object = some given ∧ isCreate = true ∧
        state.pool.queue.length < state.pool.sizeFlexibleMaxCnt
  | .restore object, given, isCreate =>
      object = some given ∧ isCreate = false ∧
        state.pool.queue.length < state.pool.sizeFlexibleMaxCnt
  | _, _, _ => False

/-- No object that is offered below the maximum is dropped. -/
def Serves (sizeBits : Nat) (state : WaitingPool Object)
    (call : PoolCall Object) : Prop :=
  ∀ object isCreate, Offers state call object isCreate →
    Taken sizeBits state object isCreate

/-- Objects are offered only while nobody waits and an `int32_t` suffices. -/
def Unhindered (state : WaitingPool Object) (call : PoolCall Object) :
    Prop :=
  ∀ object isCreate, Offers state call object isCreate →
    state.waiting = 0 ∧ state.pool.queue.length < 2 ^ 31

/-! ## One call -/

section

variable {sizeBits : Nat} {state : WaitingPool Object}

theorem taken_iff_hasRoom (object : Object) (isCreate : Bool) :
    Taken sizeBits state object isCreate ↔
      state.hasRoom sizeBits = true := by
  cases room : state.hasRoom sizeBits with
  | false =>
      refine iff_of_false (fun taken => ?_) Bool.false_ne_true
      have succeeds := taken.succeeds
      simp [WaitingPool.restore, room] at succeeds
  | true =>
      refine iff_of_true ⟨?_, ?_, ?_⟩ rfl
      · simp [WaitingPool.restore, room]
      · intro alone
        simp [WaitingPool.restore, room, WaitingPool.push, alone]
      · intro waiting
        simp only [WaitingPool.restore, room, if_true, WaitingPool.push,
          if_neg (Nat.pos_iff_ne_zero.mp waiting), true_and]
        omega

/-- While nobody waits, the pool is the one without waiting callers. -/
theorem hasRoom_of_alone (alone : state.waiting = 0) :
    state.hasRoom sizeBits = state.pool.hasRoom sizeBits := by
  rw [WaitingPool.hasRoom, WaitingPool.size, alone, Int.natCast_zero,
    Int.sub_zero]
  rfl

/-- Up to `2 ^ 31` waiting callers make the size a huge `size_t`. -/
theorem hasRoom_of_waiting
    (wide : 32 ≤ sizeBits)
    (limit : state.pool.sizeFlexibleMaxCnt + 2 ^ 31 ≤ 2 ^ sizeBits)
    (empty : state.pool.queue = []) (waiting : 0 < state.waiting)
    (few : state.waiting ≤ 2 ^ 31) :
    state.hasRoom sizeBits = false := by
  have range : (2 : Nat) ^ 32 ≤ 2 ^ sizeBits :=
    Nat.pow_le_pow_right (by omega) wide
  have negative : state.size = -(state.waiting : Nat) := by
    simp [WaitingPool.size, empty]
  rw [WaitingPool.hasRoom, negative,
    signedCast_of_range (by decide) (by omega) (by omega),
    unsignedCast_neg waiting (by omega), decide_eq_false_iff_not]
  omega

theorem hasRoom_of_longest
    (wide : 32 ≤ sizeBits)
    (limit : state.pool.sizeFlexibleMaxCnt + 2 ^ 31 ≤ 2 ^ sizeBits)
    (alone : state.waiting = 0)
    (longest : state.pool.queue.length = 2 ^ 31) :
    state.hasRoom sizeBits = false := by
  have range : (2 : Nat) ^ 32 ≤ 2 ^ sizeBits :=
    Nat.pow_le_pow_right (by omega) wide
  have size : state.size = (2 ^ 31 : Nat) := by
    simp [WaitingPool.size, alone, longest]
  have negative : signedCast 32 ((2 ^ 31 : Nat) : Int) = -(2 ^ 31 : Nat) := by
    rw [signedCast_of_ge (by decide) (by decide)]
    rfl
  rw [WaitingPool.hasRoom, size, negative,
    unsignedCast_neg (by decide) (by omega), decide_eq_false_iff_not]
  omega

/-- Callers wait only on an empty queue, which never gets longer. -/
structure Ordered (count : Nat) (state : WaitingPool Object) : Prop where
  limit : state.pool.sizeFlexibleMaxCnt = count
  empty : 0 < state.waiting → state.pool.queue = []
  short : state.pool.queue.length ≤ 2 ^ 31

variable {count : Nat} (wide : 32 ≤ sizeBits)
  (limit : count + 2 ^ 31 ≤ 2 ^ sizeBits)

include wide limit

theorem ordered_restore
    (ordered : Ordered count state) (object : Option Object)
    (isCreate : Bool) :
    Ordered count (state.restore sizeBits object isCreate).2 := by
  obtain ⟨same, empty, short⟩ := ordered
  cases object with
  | none => exact ⟨same, empty, short⟩
  | some object =>
      cases room : state.hasRoom sizeBits with
      | false =>
          simp only [WaitingPool.restore, room, Bool.false_eq_true, if_false]
          exact ⟨same, empty, short⟩
      | true =>
          simp only [WaitingPool.restore, room, if_true, WaitingPool.push]
          by_cases alone : state.waiting = 0
          · rw [if_pos alone]
            refine ⟨same, fun waiting => ?_, ?_⟩
            · exact absurd alone (Nat.pos_iff_ne_zero.mp waiting)
            · have notLongest : state.pool.queue.length ≠ 2 ^ 31 := by
                intro longest
                have full :=
                  hasRoom_of_longest wide (same ▸ limit) alone longest
                rw [room] at full
                cases full
              simp only [List.length_append, List.length_singleton]
              omega
          · rw [if_neg alone]
            exact ⟨same, fun _ => empty (Nat.pos_of_ne_zero alone), short⟩

theorem ordered_step
    (ordered : Ordered count state) {call : PoolCall Object}
    {after : WaitingPool Object}
    (taken : step sizeBits state call = some after) :
    Ordered count after := by
  cases call with
  | create object =>
      cases taken
      exact ordered_restore wide limit ordered object true
  | restore object =>
      cases taken
      exact ordered_restore wide limit ordered object false
  | acquire =>
      cases taken
      obtain ⟨same, empty, short⟩ := ordered
      cases queue : state.pool.queue with
      | nil =>
          rw [Pool.acquire_nil queue]
          exact ⟨same, empty, short⟩
      | cons object rest =>
          rw [Pool.acquire_cons queue]
          rw [queue] at empty short
          refine ⟨same, fun waiting => (nomatch empty waiting), ?_⟩
          exact (Nat.le_succ _).trans short
  | waitAcquire =>
      obtain ⟨same, empty, short⟩ := ordered
      simp only [step, Pool.waitAcquire] at taken
      cases queue : state.pool.queue with
      | nil =>
          simp only [queue, Option.some.injEq] at taken
          subst after
          exact ⟨same, fun _ => queue, short⟩
      | cons object rest =>
          simp only [queue, Option.some.injEq] at taken
          subst after
          rw [queue] at empty short
          refine ⟨same, fun waiting => (nomatch empty waiting), ?_⟩
          exact (Nat.le_succ _).trans short

/-- Where the queue has room for an offered object, nobody waits. -/
theorem unhindered_of_serves
    (ordered : Ordered count state) (few : state.waiting ≤ 2 ^ 31)
    {call : PoolCall Object} (serves : Serves sizeBits state call) :
    Unhindered state call := by
  intro object isCreate offers
  have room :=
    (taken_iff_hasRoom object isCreate).mp (serves object isCreate offers)
  by_cases alone : state.waiting = 0
  · refine ⟨alone, lt_of_le_of_ne ordered.short fun longest => ?_⟩
    have full :=
      hasRoom_of_longest wide (ordered.limit ▸ limit) alone longest
    rw [room] at full
    cases full
  · have waiting := Nat.pos_of_ne_zero alone
    have full :=
      hasRoom_of_waiting wide (ordered.limit ▸ limit)
        (ordered.empty waiting) waiting few
    rw [room] at full
    cases full

omit limit in
/-- An object that is offered while nobody waits is taken. -/
theorem serves_of_unhindered
    {call : PoolCall Object} (unhindered : Unhindered state call) :
    Serves sizeBits state call := by
  intro object isCreate offers
  obtain ⟨alone, short⟩ := unhindered object isCreate offers
  have below : state.pool.queue.length < state.pool.sizeFlexibleMaxCnt := by
    cases call with
    | create => exact offers.2.2
    | restore => exact offers.2.2
    | acquire => exact offers.elim
    | waitAcquire => exact offers.elim
  rw [taken_iff_hasRoom, hasRoom_of_alone alone]
  exact Pool.roomAt_of_lt (by omega) below short

end

/-! ## All calls -/

/--
In every order of calls in which objects are offered only while nobody waits,
and while fewer than `2 ^ 31` are queued, no offered object is dropped.  For
a limit that leaves room for negative numbers, and up to `2 ^ 31` waiting
callers, these are all such orders.
-/
theorem objects_served
    {sizeBits : Nat} (wide : 32 ≤ sizeBits) (count : Nat)
    (calls : List (PoolCall Object)) :
    (EachStep (step sizeBits) (WaitingPool.make count) calls
        (fun _ before call => Unhindered before call) →
      EachStep (step sizeBits) (WaitingPool.make count) calls
        (fun _ before call => Serves sizeBits before call)) ∧
      (count + 2 ^ 31 ≤ 2 ^ sizeBits →
        EachStep (step sizeBits) (WaitingPool.make count) calls
          (fun _ before _ => before.waiting ≤ 2 ^ 31) →
        EachStep (step sizeBits) (WaitingPool.make count) calls
          (fun _ before call => Serves sizeBits before call) →
        EachStep (step sizeBits) (WaitingPool.make count) calls
          (fun _ before call => Unhindered before call)) := by
  constructor
  · intro unhindered earlier call later before split reached
    exact serves_of_unhindered wide
      (unhindered earlier call later before split reached)
  · intro limit few serves earlier call later before split reached
    have ordered : Ordered count before :=
      reached.invariant (Ordered count)
        ⟨rfl, fun _ => rfl, Nat.zero_le _⟩
        fun _ _ _ ordered taken => ordered_step wide limit ordered taken
    exact unhindered_of_serves wide limit ordered
      (few earlier call later before split reached)
      (serves earlier call later before split reached)

/-- An object that is created before somebody asks for one. -/
theorem objects_served_without_waiting :
    EachStep (step 64) (WaitingPool.make 1 : WaitingPool Nat)
      [.create (some 7), .waitAcquire]
      (fun _ before call => Serves 64 before call) := by
  refine (objects_served (by decide) 1 _).1 ?_
  have created :
      Run (step 64) (WaitingPool.make 1 : WaitingPool Nat)
        [.create (some 7)] ⟨⟨[7], 0, 1⟩, 0, []⟩ :=
    .snoc .start trivial rfl
  refine (eachStep_snoc_iff created).mpr ⟨?_, ?_⟩
  · refine (eachStep_snoc_iff .start).mpr ⟨eachStep_nil _, ?_⟩
    intro object isCreate offers
    exact ⟨rfl, by decide⟩
  · intro object isCreate offers
    exact offers.elim

/-- With one caller waiting, the object that is given back is dropped. -/
theorem object_dropped_while_waiting :
    ∃ state : WaitingPool Nat,
      Run (step 64) (WaitingPool.make 1) [.waitAcquire] state ∧
        state.pool.queue.length < state.pool.sizeFlexibleMaxCnt ∧
        state.waiting = 1 ∧
        state.restore 64 (some 7) false = (false, state) := by
  let waiting : WaitingPool Nat := ⟨Pool.make 1, 1, []⟩
  have full : waiting.hasRoom 64 = false :=
    hasRoom_of_waiting (by decide) (by decide) rfl (by decide) (by decide)
  refine ⟨waiting, .snoc .start trivial rfl, by decide, rfl, ?_⟩
  simp [WaitingPool.restore, full]

end LibSklt.Util.PoolWaiters
