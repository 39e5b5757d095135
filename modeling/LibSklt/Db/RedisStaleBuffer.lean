import LibSklt.Db.RedisHandlers
import LibSklt.Db.RedisRounds

/-!
# The Redis parser and what was in the buffer before

`Paser` works on the bytes that it received and on whatever the caller's
buffer holds behind them.  The bytes received in a call always form a prefix
of the buffer.  This module says for which results of `recv` the rest of the
buffer does not matter: whenever a handler is called, either the received
bytes fill the buffer, or the handler finds everything it looks for within
them.
-/

namespace LibSklt.Db

open LibSklt.Foundation.CString
open LibSklt.Foundation.MachineWord

/-! ## The received prefix -/

/-- The received prefix after further bytes were stored in the buffer. -/
def hold (size : Nat) (held : List UInt8) (offset : Nat)
    (bytes : List UInt8) : Option (List UInt8) :=
  if bytes = [] then
    some held
  else if offset + bytes.length ≤ size then
    some (held.take offset ++ bytes ++ held.drop (offset + bytes.length))
  else
    none

/-- The next bytes are stored within the received prefix or right behind it. -/
def Adjacent (size : Nat) (held : List UInt8) (offset : Nat) : Prop :=
  offset ≤ held.length ∨ size ≤ offset

theorem length_hold
    {size offset : Nat} {held bytes extended : List UInt8}
    (bounded : held.length ≤ size) (adjacent : Adjacent size held offset)
    (held' : hold size held offset bytes = some extended) :
    held.length ≤ extended.length ∧
      bytes.length ≤ extended.length ∧ extended.length ≤ size := by
  rw [hold] at held'
  split at held'
  case isTrue empty =>
    cases held'
    subst bytes
    exact ⟨Nat.le_refl _, Nat.zero_le _, bounded⟩
  case isFalse nonempty =>
    split at held'
    case isTrue fits =>
      cases held'
      have positive : 0 < bytes.length := List.length_pos_of_ne_nil nonempty
      have inside : offset ≤ held.length := by
        rcases adjacent with inside | beyond
        · exact inside
        · omega
      simp only [List.length_append, List.length_take, List.length_drop]
      omega
    case isFalse => cases held'

/-- Storing bytes extends the received prefix and keeps the rest. -/
theorem store_append
    {size offset : Nat} {held stale : List UInt8} (bytes : List UInt8)
    (total : held.length + stale.length = size)
    (adjacent : Adjacent size held offset) :
    store (held ++ stale) offset bytes =
      (hold size held offset bytes).map fun extended =>
        extended ++ stale.drop (extended.length - held.length) := by
  rw [store, hold, List.length_append, total]
  by_cases empty : bytes = []
  · rw [if_pos empty, if_pos empty]
    simp
  · rw [if_neg empty, if_neg empty]
    by_cases fits : offset + bytes.length ≤ size
    · rw [if_pos fits, if_pos fits]
      have positive : 0 < bytes.length := List.length_pos_of_ne_nil empty
      have inside : offset ≤ held.length := by
        rcases adjacent with inside | beyond
        · exact inside
        · omega
      simp only [Option.map_some, Option.some.injEq, List.length_append,
        List.length_take, List.length_drop, List.append_assoc]
      rw [List.take_append_of_le_length inside, List.drop_append]
      congr 3
      congr 1
      omega
    · rw [if_neg fits, if_neg fits]
      rfl

/--
Whenever a handler is called, it reads received bytes only, or the received
bytes fill the buffer.
-/
def Covered (sizeBits size : Nat) :
    List RecvResult → List UInt8 → Nat → Bool → Prop
  | [], _, _, _ => True
  | result :: results, held, offset, retry =>
      0 < result.available sizeBits →
        ∀ extended ∈ hold size held offset result.bytes,
          (extended.length = size ∨
              handlerStatus sizeBits extended ≠ .overrun) ∧
            (handlerStatus sizeBits extended = .retry ∨
                (handlerStatus sizeBits extended = .done ∧ retry = true) →
              Covered sizeBits size results extended
                (result.available sizeBits) true)

section

variable {sizeBits : Nat}

/-! ## The stale bytes -/

/-- The state of `Paser` with a received prefix and stale bytes behind it. -/
def staleState (held stale : List UInt8) (offset : Nat) (retry : Bool)
    (connector : RedisConnector) (calls : Nat) : PaserState :=
  { buffer := held ++ stale
    availableBytesTransferred := offset
    retry := retry
    connector := connector
    recvCalls := calls }

/-- A handler does the same whatever stands behind what it may read. -/
theorem processing_stale
    (wide : 32 ≤ sizeBits) {size : Nat} {extended stale : List UInt8}
    (covered :
      extended.length = size ∨ handlerStatus sizeBits extended ≠ .overrun)
    (total : extended.length + stale.length = size)
    (connector : RedisConnector) :
    processing sizeBits (extended ++ stale) connector =
      processing sizeBits extended connector := by
  rcases covered with full | stays
  · have nothing : stale = [] := List.eq_nil_of_length_eq_zero (by omega)
    rw [nothing, List.append_nil]
  · rw [← processing_status sizeBits extended connector] at stays
    exact processing_append wide stays stale

/-- The offset of the next bytes lies in the received prefix again. -/
theorem adjacent_available
    {size : Nat} (bounded : size < 2 ^ sizeBits) (result : RecvResult)
    {extended : List UInt8}
    (received : result.bytes.length ≤ extended.length) :
    Adjacent size extended (result.available sizeBits) := by
  cases result with
  | failed =>
      right
      rw [RecvResult.available, unsignedCast_neg_one]
      omega
  | received bytes =>
      left
      exact received

/-- Where the handlers are covered, the stale bytes have no influence. -/
theorem paserLoop_stale
    (wide : 32 ≤ sizeBits) {size : Nat} (bounded : size < 2 ^ sizeBits)
    {results : List RecvResult} {held : List UInt8} {offset : Nat}
    {retry : Bool} (covered : Covered sizeBits size results held offset retry)
    (adjacent : Adjacent size held offset)
    {first second : List UInt8}
    (firstLength : held.length + first.length = size)
    (secondLength : held.length + second.length = size)
    (connector : RedisConnector) (calls : Nat) :
    paserLoop sizeBits results
        (staleState held first offset retry connector calls) =
      paserLoop sizeBits results
        (staleState held second offset retry connector calls) := by
  induction results generalizing held offset retry first second connector
    calls with
  | nil => rfl
  | cons result results inductionHypothesis =>
      have firstStored := store_append result.bytes firstLength adjacent
      have secondStored := store_append result.bytes secondLength adjacent
      cases extension : hold size held offset result.bytes with
      | none =>
          rw [extension] at firstStored secondStored
          simp only [paserLoop, staleState, firstStored, secondStored,
            Option.map_none]
      | some extended =>
          rw [extension, Option.map_some] at firstStored secondStored
          by_cases positive : 0 < result.available sizeBits
          · obtain ⟨grown, received, fits⟩ :=
              length_hold (by omega) adjacent extension
            have reads := covered positive extended extension
            have rest :
                ∀ stale : List UInt8, held.length + stale.length = size →
                  extended.length +
                    (stale.drop (extended.length - held.length)).length =
                      size := by
              intro stale total
              rw [List.length_drop]
              omega
            have firstProcessed :=
              processing_stale wide reads.1 (rest first firstLength)
                connector
            have secondProcessed :=
              processing_stale wide reads.1 (rest second secondLength)
                connector
            rcases processed : processing sizeBits extended connector with
              ⟨connector', status⟩
            rw [processed] at firstProcessed secondProcessed
            by_cases again :
                status = .retry ∨ (status = .done ∧ retry = true)
            · rw [paserLoop_continues firstStored positive firstProcessed
                  again,
                paserLoop_continues secondStored positive secondProcessed
                  again]
              rw [← processing_status sizeBits extended connector,
                processed] at reads
              exact inductionHypothesis (reads.2 again)
                (adjacent_available bounded result received)
                (rest first firstLength) (rest second secondLength)
                connector' (calls + 1)
            · rw [paserLoop_ends firstStored positive firstProcessed again,
                paserLoop_ends secondStored positive secondProcessed again]
              rfl
          · have none : ∀ stale : List UInt8,
                store (held ++ stale) offset result.bytes =
                    some (extended ++
                      stale.drop (extended.length - held.length)) →
                  paserLoop sizeBits (result :: results)
                      (staleState held stale offset retry connector calls) =
                    (.returned false connector, calls + 1) := by
              intro stale stored
              rw [paserLoop, staleState, stored]
              simp only [if_neg positive]
            rw [none first firstStored, none second secondStored]

/--
In a round that never differs by the stale bytes behind the received ones,
the handler reads received bytes only: a scan that leaves them is stopped by a
terminator there, and is not stopped by `$` characters.
-/
theorem covered_round_of_stale
    (wide : 32 ≤ sizeBits) {size : Nat}
    {result : RecvResult} {results : List RecvResult}
    {held front extended : List UInt8} {offset : Nat} {retry : Bool}
    {connector : RedisConnector} {calls : Nat}
    (positive : 0 < result.available sizeBits)
    (fits : extended.length ≤ size)
    (stored :
      ∀ stale : List UInt8, extended.length + stale.length = size →
        store (held ++ (front ++ stale)) offset result.bytes =
          some (extended ++ stale))
    (same :
      ∀ first second : List UInt8,
        extended.length + first.length = size →
          extended.length + second.length = size →
            paserLoop sizeBits (result :: results)
                (staleState held (front ++ first) offset retry connector
                  calls) =
              paserLoop sizeBits (result :: results)
                (staleState held (front ++ second) offset retry connector
                  calls)) :
    extended.length = size ∨ handlerStatus sizeBits extended ≠ .overrun := by
  by_contra uncovered
  rw [not_or, not_not] at uncovered
  obtain ⟨room, runsOver⟩ := uncovered
  obtain ⟨more, left⟩ :=
    Nat.exists_eq_add_of_lt (lt_of_le_of_ne fits room)
  have filled (byte : UInt8) :
      extended.length + (List.replicate (more + 1) byte).length = size := by
    rw [List.length_replicate]
    omega
  have terminated :
      (0 : UInt8) ∈ extended ++ List.replicate (more + 1) 0 :=
    List.mem_append_right _ (by simp)
  refine paserLoop_ne_overrun (stored _ (filled 0)) positive
    (processing_of_terminated wide terminated _)
    ((same _ _ (filled 0) (filled rcBulk)).trans ?_)
  exact paserLoop_overrun (stored _ (filled rcBulk)) positive
    (processing_append_replicate wide runsOver more) results

/-- Where two runs never differ by the stale bytes, the handlers are
covered. -/
theorem covered_of_stale
    (wide : 32 ≤ sizeBits) {size : Nat} (bounded : size < 2 ^ sizeBits)
    {results : List RecvResult} {held : List UInt8} {offset : Nat}
    {retry : Bool} (connector : RedisConnector) (calls : Nat)
    (within : held.length ≤ size) (adjacent : Adjacent size held offset)
    (independent :
      ∀ first second : List UInt8,
        held.length + first.length = size →
          held.length + second.length = size →
            paserLoop sizeBits results
                (staleState held first offset retry connector calls) =
              paserLoop sizeBits results
                (staleState held second offset retry connector calls)) :
    Covered sizeBits size results held offset retry := by
  induction results generalizing held offset retry connector calls with
  | nil => trivial
  | cons result results inductionHypothesis =>
      intro positive extended extension
      obtain ⟨grown, received, fits⟩ :=
        length_hold within adjacent extension
      -- Any bytes may stand behind the extended prefix.
      have stored :
          ∀ stale : List UInt8, extended.length + stale.length = size →
            store
              (held ++
                (List.replicate (extended.length - held.length) 0 ++ stale))
              offset result.bytes = some (extended ++ stale) := by
        intro stale total
        rw [store_append result.bytes (by simp; omega) adjacent, extension]
        simp
      have same :
          ∀ first second : List UInt8,
            extended.length + first.length = size →
              extended.length + second.length = size →
                paserLoop sizeBits (result :: results)
                    (staleState held
                      (List.replicate (extended.length - held.length) 0 ++
                        first) offset retry connector calls) =
                  paserLoop sizeBits (result :: results)
                    (staleState held
                      (List.replicate (extended.length - held.length) 0 ++
                        second) offset retry connector calls) := by
        intro first second firstLength secondLength
        exact independent _ _ (by simp; omega) (by simp; omega)
      have covered := covered_round_of_stale wide positive fits stored same
      refine ⟨covered, fun again => ?_⟩
      rcases processed : processing sizeBits extended connector with
        ⟨connector', status⟩
      rw [← processing_status sizeBits extended connector, processed]
        at again
      refine inductionHypothesis connector' (calls + 1) fits
        (adjacent_available bounded result received) ?_
      intro first second firstLength secondLength
      have equal := same first second firstLength secondLength
      have firstProcessed :=
        processing_stale wide covered firstLength connector
      have secondProcessed :=
        processing_stale wide covered secondLength connector
      rw [processed] at firstProcessed secondProcessed
      rwa [paserLoop_continues (stored first firstLength) positive
          firstProcessed again,
        paserLoop_continues (stored second secondLength) positive
          secondProcessed again] at equal

end

/-! ## What the caller's buffer held before -/

/--
The result, the number of calls of `recv` and the members do not depend on
what the buffer held before exactly if no handler ever reads behind the bytes
received in the call.
-/
theorem paser_ignores_stale_bytes_iff
    {sizeBits size : Nat} (wide : 32 ≤ sizeBits)
    (bounded : size < 2 ^ sizeBits) (self : RedisConnector)
    (results : List RecvResult) :
    (∀ first second : List UInt8,
      first.length = size → second.length = size →
        paser sizeBits self first results =
          paser sizeBits self second results) ↔
      Covered sizeBits size results [] 0 false := by
  have adjacent : Adjacent size [] 0 := Or.inl (Nat.zero_le _)
  constructor
  · intro independent
    refine covered_of_stale wide bounded self 0 (Nat.zero_le _) adjacent ?_
    intro first second firstLength secondLength
    exact independent first second (by simpa using firstLength)
      (by simpa using secondLength)
  · intro covered first second firstLength secondLength
    exact paserLoop_stale wide bounded covered adjacent
      (by simpa using firstLength) (by simpa using secondLength) self 0

/-- The reply `:1` with its line end does not need the rest of the buffer. -/
theorem paser_ignores_stale_bytes_of_line :
    paser 32 ⟨[], [], [], [], 0⟩ (List.replicate 64 0)
        [.received [58, 49, 13, 10]] =
      paser 32 ⟨[], [], [], [], 0⟩ (List.replicate 64 255)
        [.received [58, 49, 13, 10]] := by
  refine (paser_ignores_stale_bytes_iff (by decide) (by decide) _ _).mpr ?_
    (List.replicate 64 0) (List.replicate 64 255) List.length_replicate
    List.length_replicate
  rintro - extended extension
  cases extension
  exact ⟨Or.inr (by decide), fun _ => trivial⟩

/--
The bytes `:1` without a line end.  In a zeroed buffer the number stays what
it was; behind an earlier reply `:2` and its line end it becomes one.
-/
theorem paser_reads_stale_line_end :
    ¬ ∀ (results : List RecvResult) (self : RedisConnector)
        (first second : List UInt8),
      first.length = second.length →
        paser 32 self first results = paser 32 self second results := by
  intro independent
  have equal :=
    independent [.received [58, 49]] ⟨[], [], [], [], 0⟩ [0, 0, 0, 0]
      [58, 50, 13, 10] rfl
  exact absurd equal (by decide)

end LibSklt.Db
