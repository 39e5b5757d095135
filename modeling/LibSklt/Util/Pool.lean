import LibSklt.Foundation.MachineWord
import Mathlib.Data.List.Basic

/-!
# The object pool `Pool<T>` (`util/pool.h`)

A `Pool` is a queue of objects with two counters: how many objects are in
use, and how many objects the queue may hold.  A null object is `none`.

`Restore` tests for room by casting the queue's size to `int32_t` and
comparing it with an unsigned limit; the comparison is made in `size_t`.
As long as no caller is blocked in `pop`, `m_queue.size()` is the number of
queued objects.
-/

namespace LibSklt.Util

open LibSklt.Foundation.MachineWord

/-- The members of `Pool<T>`. -/
structure Pool (Object : Type) where
  queue : List Object
  sizeUseCnt : Nat
  sizeFlexibleMaxCnt : Nat

variable {Object : Type}

namespace Pool

/-- The constructor: an empty pool for `count` objects. -/
def make (count : Nat) : Pool Object where
  queue := []
  sizeUseCnt := 0
  sizeFlexibleMaxCnt := count

/-- `Pool::Acquire`. -/
def acquire (sizeBits : Nat) (pool : Pool Object) :
    Option Object × Pool Object :=
  match pool.queue with
  | [] => (none, pool)
  | object :: rest =>
      (some object,
        { pool with
          queue := rest
          sizeUseCnt := addWord sizeBits pool.sizeUseCnt 1 })

/--
`Pool::WaitAcquire`; `none` means that the caller is blocked in `pop`.  The
counter is left as it is.
-/
def waitAcquire (pool : Pool Object) : Option (Object × Pool Object) :=
  match pool.queue with
  | [] => none
  | object :: rest => some (object, { pool with queue := rest })

/-- `Pool::GetUseCount`. -/
def getUseCount (pool : Pool Object) : Nat :=
  pool.sizeUseCnt

/-- The comparison `(int32_t)size < max`, with an unsigned `max`. -/
def roomAt (sizeBits max size : Nat) : Bool :=
  unsignedCast sizeBits (signedCast 32 size) < max

/-- The test for room in `Restore`. -/
def hasRoom (sizeBits : Nat) (pool : Pool Object) : Bool :=
  roomAt sizeBits pool.sizeFlexibleMaxCnt pool.queue.length

/-- `Pool::Restore`; the Boolean of the result is its return value. -/
def restore (sizeBits : Nat) (pool : Pool Object)
    (object : Option Object) (isCreate : Bool) : Bool × Pool Object :=
  match object with
  | none => (false, pool)
  | some object =>
      if pool.hasRoom sizeBits then
        (true,
          { pool with
            queue := pool.queue ++ [object]
            sizeUseCnt :=
              if isCreate then pool.sizeUseCnt
              else subWord sizeBits pool.sizeUseCnt 1 })
      else
        (false, pool)

/-- `Pool::Create`. -/
def create (sizeBits : Nat) (pool : Pool Object)
    (object : Option Object) : Bool × Pool Object :=
  pool.restore sizeBits object true

/-! ## Room in the queue -/

/-- As long as the size fits an `int32_t`, the test is the comparison. -/
theorem roomAt_iff_lt
    {sizeBits max size : Nat} (wide : 31 ≤ sizeBits)
    (fits : size < 2 ^ 31) :
    roomAt sizeBits max size = true ↔ size < max := by
  have wordRange : (2 : Nat) ^ 31 ≤ 2 ^ sizeBits :=
    Nat.pow_le_pow_right (by omega) wide
  rw [roomAt, signedCast_of_lt fits, unsignedCast_of_lt (by omega),
    decide_eq_true_iff]

/-- A size below the limit passes the test, as long as it fits an `int32_t`. -/
theorem roomAt_of_lt
    {sizeBits max size : Nat} (wide : 31 ≤ sizeBits)
    (belowMax : size < max) (fits : size < 2 ^ 31) :
    roomAt sizeBits max size = true :=
  (roomAt_iff_lt wide fits).mpr belowMax

/--
A size from `2 ^ 31` on is cast to a negative number, which is compared as
a huge `size_t`.
-/
theorem roomAt_of_ge
    {max size : Nat} (large : 2 ^ 31 ≤ size) (fits : size < 2 ^ 32) :
    roomAt 64 max size = decide (2 ^ 64 - 2 ^ 32 + size < max) := by
  have negative : signedCast 32 (size : Int) = size - (2 ^ 32 : Nat) :=
    signedCast_of_ge large fits
  have shifted :
      ((size : Int) - (2 ^ 32 : Nat)) % ((2 ^ 64 : Nat) : Int) =
        ((2 ^ 64 - 2 ^ 32 + size : Nat) : Int) := by
    rw [← Int.add_emod_right, Int.emod_eq_of_lt (by omega) (by omega)]
    omega
  rw [roomAt, negative, unsignedCast, shifted, Int.toNat_natCast]

/-- Every size below `max` passes the test only if `max` fits an `int32_t`. -/
theorem roomAt_all_iff
    {max : Nat} (word : max < 2 ^ 64) :
    (∀ size < max, roomAt 64 max size = true) ↔ max ≤ 2 ^ 31 := by
  constructor
  · intro room
    by_contra large
    have atCast := room (2 ^ 31) (by omega)
    rw [roomAt_of_ge (by omega) (by omega), decide_eq_true_iff] at atCast
    have atLast := room (2 ^ 32 - 1) (by omega)
    rw [roomAt_of_ge (by omega) (by omega), decide_eq_true_iff] at atLast
    omega
  · intro small size below
    exact roomAt_of_lt (by omega) below (by omega)

/-! ## Specifications of the operations -/

theorem acquire_nil
    {sizeBits : Nat} {pool : Pool Object} (empty : pool.queue = []) :
    pool.acquire sizeBits = (none, pool) := by
  rw [acquire, empty]

theorem acquire_cons
    {sizeBits : Nat} {pool : Pool Object}
    {object : Object} {rest : List Object}
    (nonempty : pool.queue = object :: rest) :
    pool.acquire sizeBits =
      (some object,
        { pool with
          queue := rest
          sizeUseCnt := addWord sizeBits pool.sizeUseCnt 1 }) := by
  rw [acquire, nonempty]

@[simp]
theorem restore_sizeFlexibleMaxCnt
    (sizeBits : Nat) (pool : Pool Object)
    (object : Option Object) (isCreate : Bool) :
    (pool.restore sizeBits object isCreate).2.sizeFlexibleMaxCnt =
      pool.sizeFlexibleMaxCnt := by
  cases object with
  | none => rfl
  | some object =>
      simp only [restore]
      split <;> rfl

/-- With room, `Restore` succeeds and appends the object. -/
theorem restore_of_hasRoom
    {sizeBits : Nat} {pool : Pool Object}
    (room : pool.hasRoom sizeBits = true)
    (object : Object) (isCreate : Bool) :
    (pool.restore sizeBits (some object) isCreate).1 = true ∧
      (pool.restore sizeBits (some object) isCreate).2.queue =
        pool.queue ++ [object] := by
  simp [restore, room]

/-- Without room, `Restore` fails and changes nothing. -/
theorem restore_of_not_hasRoom
    {sizeBits : Nat} {pool : Pool Object}
    (full : pool.hasRoom sizeBits = false)
    (object : Object) (isCreate : Bool) :
    pool.restore sizeBits (some object) isCreate = (false, pool) := by
  simp [restore, full]

end Pool

end LibSklt.Util
