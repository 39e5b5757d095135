import LibSklt.Foundation.Ring
import LibSklt.Foundation.Transition
import LibSklt.Util.MemoryManager

/-!
# Sequences of bounds-checked accesses

`ReadFromBuffer` and `WriteToBuffer` share a buffer and a cursor.  What they
are for is said with natural numbers: an access that ends inside of the
buffer copies its bytes and moves the cursor behind them, and every other
access does nothing.  The functions compare the end of the access as a
`size_t`, so they do the same as long as that sum does not wrap.
-/

namespace LibSklt.Util.BufferCursor

open LibSklt.Foundation.MachineWord
open LibSklt.Foundation.Ring
open LibSklt.Foundation.Transition
open LibSklt.Util.MemoryManager

/-- The buffer, and `buffer_pos`. -/
structure Cursor where
  buffer : List UInt8
  bufferPos : Nat
deriving DecidableEq

/-- Which of the two functions is called. -/
inductive Direction where
  | readFromBuffer
  | writeToBuffer
deriving DecidableEq

/--
A call of one of the four overloads.  The target is its `sizeof(_T)` or
`target_size` bytes; both sizes are `size_t` values.
-/
structure Access (sizeBits : Nat) where
  direction : Direction
  target : List UInt8
  word : target.length < 2 ^ sizeBits

/-- What a call returns, and what the caller's objects hold afterwards. -/
structure Accessed where
  result : Bool
  cursor : Cursor
  target : List UInt8
deriving DecidableEq

variable {sizeBits : Nat}

/-- The call of the function. -/
def Access.run (bufferSize : Nat) (cursor : Cursor)
    (access : Access sizeBits) : Accessed :=
  match access.direction with
  | .readFromBuffer =>
      match readFromBuffer sizeBits cursor.buffer bufferSize
          cursor.bufferPos access.target.length with
      | some (bytes, position) =>
          ⟨true, ⟨cursor.buffer, position⟩, bytes⟩
      | none => ⟨false, cursor, access.target⟩
  | .writeToBuffer =>
      match writeToBuffer sizeBits cursor.buffer bufferSize
          cursor.bufferPos access.target with
      | some (buffer, position) =>
          ⟨true, ⟨buffer, position⟩, access.target⟩
      | none => ⟨false, cursor, access.target⟩

/-- What the call is for, in natural numbers. -/
def Access.specified (bufferSize : Nat) (cursor : Cursor)
    (access : Access sizeBits) : Accessed :=
  if cursor.bufferPos + access.target.length ≤ bufferSize then
    match access.direction with
    | .readFromBuffer =>
        { result := true
          cursor :=
            { cursor with
              bufferPos := cursor.bufferPos + access.target.length }
          target :=
            load cursor.buffer cursor.bufferPos access.target.length }
    | .writeToBuffer =>
        { result := true
          cursor :=
            ⟨store cursor.buffer cursor.bufferPos access.target,
              cursor.bufferPos + access.target.length⟩
          target := access.target }
  else
    ⟨false, cursor, access.target⟩

/-- The cursor after a call. -/
def step (bufferSize : Nat) (cursor : Cursor)
    (access : Access sizeBits) : Option Cursor :=
  some (access.run bufferSize cursor).cursor

section

variable {bufferSize : Nat} {cursor : Cursor} {access : Access sizeBits}

/-- Without a wrap the functions do what they are for. -/
theorem Access.run_of_lt
    (fits : cursor.bufferPos + access.target.length < 2 ^ sizeBits) :
    access.run bufferSize cursor =
      access.specified bufferSize cursor := by
  rw [run, specified]
  cases access.direction with
  | readFromBuffer =>
      simp only [readFromBuffer, addWord_of_lt fits]
      by_cases inside :
          cursor.bufferPos + access.target.length ≤ bufferSize
      · rw [if_neg (Nat.not_lt.mpr inside), if_pos inside]
        rfl
      · rw [if_pos (Nat.lt_of_not_le inside), if_neg inside]
  | writeToBuffer =>
      simp only [writeToBuffer, addWord_of_lt fits]
      by_cases inside :
          cursor.bufferPos + access.target.length ≤ bufferSize
      · rw [if_neg (Nat.not_lt.mpr inside), if_pos inside]
        rfl
      · rw [if_pos (Nat.lt_of_not_le inside), if_neg inside]

/-- A sum that wraps is smaller than the cursor: the call is not refused. -/
theorem Access.run_of_ge
    (inside : cursor.bufferPos ≤ bufferSize)
    (word : bufferSize < 2 ^ sizeBits)
    (wraps : 2 ^ sizeBits ≤ cursor.bufferPos + access.target.length) :
    (access.run bufferSize cursor).result = true ∧
      (access.run bufferSize cursor).cursor.bufferPos =
        cursor.bufferPos + access.target.length - 2 ^ sizeBits := by
  have small := access.word
  have sum :
      addWord sizeBits cursor.bufferPos access.target.length =
        cursor.bufferPos + access.target.length - 2 ^ sizeBits :=
    addWord_of_ge wraps (by omega) small
  rw [run]
  cases access.direction with
  | readFromBuffer =>
      simp only [readFromBuffer, sum]
      rw [if_neg (by omega)]
      exact ⟨rfl, rfl⟩
  | writeToBuffer =>
      simp only [writeToBuffer, sum]
      rw [if_neg (by omega)]
      exact ⟨rfl, rfl⟩

/-- A call does what it is for exactly if its sum does not wrap. -/
theorem Access.run_eq_specified_iff
    (inside : cursor.bufferPos ≤ bufferSize)
    (word : bufferSize < 2 ^ sizeBits) :
    access.run bufferSize cursor = access.specified bufferSize cursor ↔
      cursor.bufferPos + access.target.length < 2 ^ sizeBits := by
  constructor
  · intro same
    by_contra wraps
    obtain ⟨accepted, -⟩ :=
      access.run_of_ge inside word (Nat.le_of_not_lt wraps)
    rw [same, specified, if_neg (by omega)] at accepted
    cases accepted
  · exact run_of_lt

/-- No call takes the cursor out of the buffer. -/
theorem Access.bufferPos_run_le
    (inside : cursor.bufferPos ≤ bufferSize)
    (word : bufferSize < 2 ^ sizeBits) :
    (access.run bufferSize cursor).cursor.bufferPos ≤ bufferSize := by
  by_cases fits : cursor.bufferPos + access.target.length < 2 ^ sizeBits
  · rw [run_of_lt fits, specified]
    split_ifs with within
    · cases access.direction with
      | readFromBuffer => exact within
      | writeToBuffer => exact within
    · exact inside
  · have small := access.word
    rw [(access.run_of_ge inside word (Nat.le_of_not_lt fits)).2]
    omega

end

section

variable
    {bufferSize : Nat} {buffer : List UInt8}
    {accesses : List (Access sizeBits)} {finish : Cursor}

/-- The cursor stays in the buffer, also after sums that wrapped. -/
theorem bufferPos_le
    (word : bufferSize < 2 ^ sizeBits)
    (run : Run (step bufferSize) ⟨buffer, 0⟩ accesses finish) :
    finish.bufferPos ≤ bufferSize := by
  refine Run.invariant (fun cursor => cursor.bufferPos ≤ bufferSize)
    (Nat.zero_le _) ?_ run
  intro before access after inside taken
  cases taken
  exact access.bufferPos_run_le inside word

/--
All calls of a sequence do what they are for, and the cursor stays in the
buffer, exactly if no call computes a sum that wraps.
-/
theorem accesses_specified_iff
    (word : bufferSize < 2 ^ sizeBits)
    (run : Run (step bufferSize) ⟨buffer, 0⟩ accesses finish) :
    (EachStep (step bufferSize) ⟨buffer, 0⟩ accesses
          (fun _ cursor access =>
            access.run bufferSize cursor =
              access.specified bufferSize cursor) ∧
        finish.bufferPos ≤ bufferSize) ↔
      EachStep (step bufferSize) ⟨buffer, 0⟩ accesses
        (fun _ cursor access =>
          cursor.bufferPos + access.target.length < 2 ^ sizeBits) := by
  rw [and_iff_left (bufferPos_le word run)]
  refine eachStep_congr run ?_
  intro earlier before access after reached taken
  exact access.run_eq_specified_iff (bufferPos_le word reached) word

end

/-- Three bytes are written, and two more are refused. -/
theorem accesses_specified_iff_refused :
    ∃ finish,
      Run (step 4) ⟨[0, 0, 0, 0], 0⟩
          [(⟨.writeToBuffer, [1, 2, 3], by decide⟩ : Access 64),
            ⟨.readFromBuffer, [0, 0], by decide⟩]
          finish ∧
        ((EachStep (step 4) ⟨[0, 0, 0, 0], 0⟩
              [(⟨.writeToBuffer, [1, 2, 3], by decide⟩ : Access 64),
                ⟨.readFromBuffer, [0, 0], by decide⟩]
              (fun _ cursor access =>
                access.run 4 cursor = access.specified 4 cursor) ∧
            finish.bufferPos ≤ 4) ↔
          EachStep (step 4) ⟨[0, 0, 0, 0], 0⟩
            [(⟨.writeToBuffer, [1, 2, 3], by decide⟩ : Access 64),
              ⟨.readFromBuffer, [0, 0], by decide⟩]
            (fun _ cursor access =>
              cursor.bufferPos + access.target.length < 2 ^ 64)) := by
  have run :
      Run (step 4) ⟨[0, 0, 0, 0], 0⟩
        [(⟨.writeToBuffer, [1, 2, 3], by decide⟩ : Access 64),
          ⟨.readFromBuffer, [0, 0], by decide⟩]
        ⟨[1, 2, 3, 0], 3⟩ :=
    runWhere_of_exec rfl
  exact ⟨_, run, accesses_specified_iff (by decide) run⟩

/--
Behind the four bytes of a length, as a decoder with 32-bit sizes reads them,
a read of `2 ^ 32 - 4` bytes is accepted in a buffer of eight.
-/
theorem not_accesses_specified :
    ∃ first second : Access 32, ∃ finish,
      Run (step 8) ⟨List.replicate 8 255, 0⟩ [first, second] finish ∧
        second.direction = .readFromBuffer ∧
        second.target.length = 2 ^ 32 - 4 ∧
        (second.run 8 ⟨List.replicate 8 255, 4⟩).result = true ∧
        ¬ EachStep (step 8) ⟨List.replicate 8 255, 0⟩ [first, second]
          (fun _ cursor access =>
            access.run 8 cursor = access.specified 8 cursor) := by
  have length :
      (List.replicate (2 ^ 32 - 4) (0 : UInt8)).length = 2 ^ 32 - 4 :=
    List.length_replicate
  obtain ⟨second, read, size⟩ :
      ∃ second : Access 32,
        second.direction = .readFromBuffer ∧
          second.target.length = 2 ^ 32 - 4 :=
    ⟨⟨.readFromBuffer, _, length.trans_lt (by decide)⟩, rfl, length⟩
  have early :
      Run (step 8) ⟨List.replicate 8 255, 0⟩
        [(⟨.readFromBuffer, [0, 0, 0, 0], by decide⟩ : Access 32)]
        ⟨List.replicate 8 255, 4⟩ :=
    runWhere_of_exec rfl
  have wraps : 2 ^ 32 ≤ 4 + second.target.length := by
    rw [size]
    decide
  refine ⟨_, second, _, early.snoc trivial rfl, read, size, ?_, ?_⟩
  · exact
      (@Access.run_of_ge 32 8 ⟨_, 4⟩ second (by decide) (by decide)
        wraps).1
  · intro each
    have fits :=
      (Access.run_eq_specified_iff (by decide) (by decide)).mp
        (each [_] second [] _ rfl early)
    exact absurd fits (Nat.not_lt.mpr wraps)

end LibSklt.Util.BufferCursor
