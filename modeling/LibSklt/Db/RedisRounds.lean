import LibSklt.Db.RedisConnector
import Mathlib.Tactic

/-!
# Rounds of the Redis parser

How a handler ends is a matter of the memory only.  By this status a round of
the loop of `Paser` either ends the call or goes on with the next result of
`recv`.
-/

namespace LibSklt.Db

/-! ## The status of a handler -/

/-- How the handler ends on the given memory. -/
def handlerStatus (sizeBits : Nat) (buffer : List UInt8) : Status :=
  (processing sizeBits buffer ⟨[], [], [], [], 0⟩).2

theorem lineProcessing_status
    {Value : Type}
    (parse : List UInt8 → Option (Option (Value × List UInt8)))
    (assign : Value → RedisConnector → RedisConnector)
    (buffer : List UInt8) (self other : RedisConnector) :
    (lineProcessing parse assign buffer self).2 =
      (lineProcessing parse assign buffer other).2 := by
  rw [lineProcessing, lineProcessing]
  rcases parse buffer with _ | _ | ⟨value, rest⟩
  · rfl
  · rfl
  · rfl

/-- The members have no influence on how a handler ends. -/
theorem processing_status
    (sizeBits : Nat) (buffer : List UInt8) (self : RedisConnector) :
    (processing sizeBits buffer self).2 = handlerStatus sizeBits buffer := by
  rw [handlerStatus]
  cases buffer with
  | nil => rfl
  | cons marker passbuffer =>
      rw [processing, processing]
      cases registered : processFunc sizeBits marker with
      | none => rfl
      | some handler =>
          rw [processFunc] at registered
          split_ifs at registered
          · cases registered
            exact lineProcessing_status _ _ _ _ _
          · cases registered
            exact lineProcessing_status _ _ _ _ _
          · cases registered
            simp only [bulkProcessing]
            cases bulk sizeBits passbuffer <;> rfl
          · cases registered
            simp only [multiBulkProcessing]
            rcases identifierParseToInt passbuffer with
              _ | _ | ⟨count, rest⟩
            · rfl
            · rfl
            · rfl
          · cases registered
            exact lineProcessing_status _ _ _ _ _

/-! ## One round of the loop -/

section

variable {sizeBits : Nat}

/-- The loop goes on with the next result. -/
theorem paserLoop_continues
    {result : RecvResult} {state : PaserState} {buffer : List UInt8}
    {connector : RedisConnector} {status : Status}
    (stored :
      store state.buffer state.availableBytesTransferred result.bytes =
        some buffer)
    (positive : 0 < result.available sizeBits)
    (processed :
      processing sizeBits buffer state.connector = (connector, status))
    (again : status = .retry ∨ (status = .done ∧ state.retry = true))
    (results : List RecvResult) :
    paserLoop sizeBits (result :: results) state =
      paserLoop sizeBits results
        { buffer := buffer
          availableBytesTransferred := result.available sizeBits
          retry := true
          connector := connector
          recvCalls := state.recvCalls + 1 } := by
  rw [paserLoop, stored]
  rcases again with rfl | ⟨rfl, retried⟩
  · simp [if_pos positive, processed]
  · simp [if_pos positive, processed, retried]

/-- How the loop ends with the status of the last handler. -/
def Status.outcome (connector : RedisConnector) : Status → Outcome
  | .threw => .threw connector
  | .overrun => .overrun
  | .done => .returned true connector
  | .retry => .returned true connector

/-- The loop ends with the first result. -/
theorem paserLoop_ends
    {result : RecvResult} {state : PaserState} {buffer : List UInt8}
    {connector : RedisConnector} {status : Status}
    (stored :
      store state.buffer state.availableBytesTransferred result.bytes =
        some buffer)
    (positive : 0 < result.available sizeBits)
    (processed :
      processing sizeBits buffer state.connector = (connector, status))
    (last : ¬ (status = .retry ∨ (status = .done ∧ state.retry = true)))
    (results : List RecvResult) :
    paserLoop sizeBits (result :: results) state =
      (status.outcome connector, state.recvCalls + 1) := by
  rw [paserLoop, stored]
  cases status with
  | done =>
      have first : state.retry = false := by simpa using last
      simp [if_pos positive, processed, first, Status.outcome]
  | retry => simp at last
  | threw => simp [if_pos positive, processed, Status.outcome]
  | overrun => simp [if_pos positive, processed, Status.outcome]

/-- Once a handler asked for more, the call does not succeed any more. -/
theorem paserLoop_of_retry
    {results : List RecvResult} {state : PaserState}
    {connector : RedisConnector} {calls : Nat}
    (retried : state.retry = true) :
    paserLoop sizeBits results state ≠
      (.returned true connector, calls) := by
  induction results generalizing state with
  | nil => simp [paserLoop]
  | cons result results inductionHypothesis =>
      rw [paserLoop]
      split
      · simp
      · split
        · split
          · simp
          · simp
          · rw [retried, Bool.true_or, if_pos rfl]
            exact inductionHypothesis rfl
        · simp

/-- What a call that succeeds saw and did: one result, and one handler. -/
theorem paserLoop_eq_returned_iff
    {result : RecvResult} {state : PaserState}
    {connector : RedisConnector} {calls : Nat}
    (results : List RecvResult) :
    paserLoop sizeBits (result :: results) state =
        (.returned true connector, calls) ↔
      0 < result.available sizeBits ∧ state.retry = false ∧
        calls = state.recvCalls + 1 ∧
          ∃ buffer,
            store state.buffer state.availableBytesTransferred
                result.bytes = some buffer ∧
              processing sizeBits buffer state.connector =
                (connector, .done) := by
  constructor
  · intro returned
    have first : state.retry = false := by
      by_contra retried
      rw [Bool.not_eq_false] at retried
      exact paserLoop_of_retry retried returned
    cases stored :
      store state.buffer state.availableBytesTransferred result.bytes with
    | none => simp [paserLoop, stored] at returned
    | some buffer =>
        have positive : 0 < result.available sizeBits := by
          by_contra none
          simp [paserLoop, stored, none] at returned
        rcases processed : processing sizeBits buffer state.connector with
          ⟨next, status⟩
        by_cases again :
            status = .retry ∨ (status = .done ∧ state.retry = true)
        · rw [paserLoop_continues stored positive processed again]
            at returned
          exact absurd returned (paserLoop_of_retry rfl)
        · rw [paserLoop_ends stored positive processed again] at returned
          cases status with
          | done =>
              cases returned
              exact ⟨positive, first, rfl, buffer, rfl, processed⟩
          | retry => simp at again
          | threw => simp [Status.outcome] at returned
          | overrun => simp [Status.outcome] at returned
  · rintro ⟨positive, first, rfl, buffer, stored, processed⟩
    have last :
        ¬ (Status.done = .retry ∨ (Status.done = .done ∧
          state.retry = true)) := by
      simp [first]
    rw [paserLoop_ends stored positive processed last]
    rfl

/-- A run that reads behind the buffer made a call of `recv` before. -/
theorem recvCalls_lt_of_overrun
    {results : List RecvResult} {state : PaserState} {calls : Nat}
    (runsOver : paserLoop sizeBits results state = (.overrun, calls)) :
    state.recvCalls < calls := by
  induction results generalizing state with
  | nil => simp [paserLoop] at runsOver
  | cons result results inductionHypothesis =>
      rw [paserLoop] at runsOver
      split at runsOver
      · cases runsOver
        exact Nat.lt_succ_self _
      · split at runsOver
        · split at runsOver
          · cases runsOver
          · cases runsOver
            exact Nat.lt_succ_self _
          · split at runsOver
            · have later := inductionHypothesis runsOver
              exact Nat.lt_of_succ_lt later
            · cases runsOver
        · cases runsOver

/-- A handler that reads behind the end of the buffer ends the call. -/
theorem paserLoop_overrun
    {result : RecvResult} {state : PaserState} {buffer : List UInt8}
    (stored :
      store state.buffer state.availableBytesTransferred result.bytes =
        some buffer)
    (positive : 0 < result.available sizeBits)
    (leaves : handlerStatus sizeBits buffer = .overrun)
    (results : List RecvResult) :
    paserLoop sizeBits (result :: results) state =
      (.overrun, state.recvCalls + 1) := by
  rw [← processing_status sizeBits buffer state.connector] at leaves
  rcases processed : processing sizeBits buffer state.connector with
    ⟨connector, status⟩
  rw [processed] at leaves
  obtain rfl : status = .overrun := leaves
  rw [paserLoop_ends stored positive processed (by simp)]
  rfl

/-- A handler that stays in its memory does not end the run with an overrun. -/
theorem paserLoop_ne_overrun
    {result : RecvResult} {results : List RecvResult}
    {state : PaserState} {buffer : List UInt8}
    (stored :
      store state.buffer state.availableBytesTransferred result.bytes =
        some buffer)
    (positive : 0 < result.available sizeBits)
    (stays : handlerStatus sizeBits buffer ≠ .overrun) :
    paserLoop sizeBits (result :: results) state ≠
      (.overrun, state.recvCalls + 1) := by
  intro runsOver
  rw [← processing_status sizeBits buffer state.connector] at stays
  rcases processed : processing sizeBits buffer state.connector with
    ⟨connector, status⟩
  rw [processed] at stays
  by_cases again : status = .retry ∨ (status = .done ∧ state.retry = true)
  · rw [paserLoop_continues stored positive processed again] at runsOver
    exact absurd (recvCalls_lt_of_overrun runsOver) (lt_irrefl _)
  · rw [paserLoop_ends stored positive processed again] at runsOver
    cases status with
    | done => simp [Status.outcome] at runsOver
    | retry => simp at again
    | threw => simp [Status.outcome] at runsOver
    | overrun => exact stays rfl

end

end LibSklt.Db
