import LibSklt.Db.RedisMemory
import LibSklt.Db.RedisReplies

/-!
# When the success of the Redis parser means a reply

`Paser` may succeed only on a complete reply whose value the matching member
holds, and has to return `false` otherwise.  It keeps to that when the first
result of `recv` is nothing or is such a reply, and when it leaves a reply in
the buffer of which bytes are still to come and no later chunk leaves one
there that cannot be read: after the first request for more bytes the call
cannot succeed any more.
-/

namespace LibSklt.Db

open LibSklt.Foundation.Decimal
open LibSklt.Foundation.MachineWord
open LibSklt.Foundation.Resp

/-- The end of a call is right for the bytes received in it. -/
def Sound (received : List UInt8) : Outcome → Prop
  | .returned true connector =>
      ∃ reply, Encodes reply received ∧ Holds connector reply
  | .returned false _ => True
  | .threw _ => False
  | .overrun => False
  | .waiting _ => True

/-- Before `recv` reports nothing, each chunk fits behind the last one and
leaves nothing in the buffer that cannot be read. -/
def Quiet (sizeBits : Nat) :
    List RecvResult → List UInt8 → Nat → Prop
  | [], _, _ => True
  | result :: results, buffer, offset =>
      ∃ stored, store buffer offset result.bytes = some stored ∧
        (0 < result.available sizeBits →
          ¬ Breaks sizeBits stored ∧
            Quiet sizeBits results stored (result.available sizeBits))

/-- The results on which the end of the call is right. -/
def Reported (sizeBits : Nat) (buffer : List UInt8) :
    List RecvResult → Prop
  | [] => True
  | .failed :: results =>
      Lacks sizeBits buffer ∧
        Quiet sizeBits results buffer (RecvResult.failed.available sizeBits)
  | .received bytes :: results =>
      bytes = [] ∨
        (bytes.length ≤ buffer.length ∧
          ((∃ reply, Encodes reply bytes ∧ Plain reply ∧
              Decodable (bulkStrings reply) (buffer.drop bytes.length)) ∨
            (Lacks sizeBits (bytes ++ buffer.drop bytes.length) ∧
              Quiet sizeBits results (bytes ++ buffer.drop bytes.length)
                bytes.length)))

section

variable {sizeBits : Nat}

/-- After a request for more bytes only the quiet results end well. -/
theorem sound_iff_quiet
    {results : List RecvResult} {state : PaserState}
    (retried : state.retry = true) (received : List UInt8) :
    Sound received (paserLoop sizeBits results state).1 ↔
      Quiet sizeBits results state.buffer
        state.availableBytesTransferred := by
  induction results generalizing state with
  | nil => exact ⟨fun _ => trivial, fun _ => trivial⟩
  | cons result results inductionHypothesis =>
      rw [Quiet]
      cases stored :
        store state.buffer state.availableBytesTransferred
          result.bytes with
      | none => simp [paserLoop, stored, Sound]
      | some buffer =>
          simp only [Option.some.injEq, exists_eq_left']
          by_cases positive : 0 < result.available sizeBits
          · rcases processed :
              processing sizeBits buffer state.connector with
              ⟨connector, status⟩
            rw [not_breaks_iff,
              ← processing_status sizeBits buffer state.connector, processed]
            by_cases again :
                status = .retry ∨ (status = .done ∧ state.retry = true)
            · rw [paserLoop_continues stored positive processed again,
                inductionHypothesis rfl]
              constructor
              · intro quiet _
                refine ⟨?_, quiet⟩
                exact again.symm.imp_left And.left
              · intro quiet
                exact (quiet positive).2
            · rw [paserLoop_ends stored positive processed again]
              cases status with
              | done => simp [retried] at again
              | retry => simp at again
              | threw => simp [Status.outcome, Sound, positive]
              | overrun => simp [Status.outcome, Sound, positive]
          · simp [paserLoop, stored, positive, Sound]

/-- A reply has a marker and at least one line end. -/
theorem three_le_length_of_encodes
    {reply : Reply} {bytes : List UInt8} (encodes : Encodes reply bytes) :
    3 ≤ bytes.length := by
  have two : crlf.length = 2 := rfl
  cases encodes with
  | error | status | integer | nullMultiBulk | multiBulk =>
      simp only [List.cons_append, List.length_cons, List.length_append]
      omega
  | bulk encodes =>
      cases encodes <;>
        simp only [List.length_cons, List.length_append] <;> omega

/-- The first round of a call, where a handler is called in it. -/
theorem sound_first_iff
    {result : RecvResult} {buffer stored : List UInt8}
    (held : store buffer 0 result.bytes = some stored)
    (positive : 0 < result.available sizeBits)
    (results : List RecvResult) (self : RedisConnector) :
    Sound
        (((result :: results).take
          (paser sizeBits self buffer (result :: results)).2).flatMap
            RecvResult.bytes)
        (paser sizeBits self buffer (result :: results)).1 ↔
      (∃ connector reply,
        processing sizeBits stored self = (connector, .done) ∧
          Encodes reply result.bytes ∧ Holds connector reply) ∨
        (Lacks sizeBits stored ∧
          Quiet sizeBits results stored (result.available sizeBits)) := by
  rcases processed : processing sizeBits stored self with
    ⟨connector, status⟩
  rw [← handlerStatus_eq_retry_iff,
    ← processing_status sizeBits stored self, processed, paser]
  cases status with
  | done =>
      rw [paserLoop_ends held positive processed (by simp)]
      simp [Status.outcome, Sound]
  | retry =>
      rw [paserLoop_continues held positive processed (Or.inl rfl),
        sound_iff_quiet rfl]
      simp
  | threw =>
      rw [paserLoop_ends held positive processed (by simp)]
      simp [Status.outcome, Sound]
  | overrun =>
      rw [paserLoop_ends held positive processed (by simp)]
      simp [Status.outcome, Sound]

end

/-! ## The end of a call -/

/--
Whatever the members were, the end of a call is right for the bytes that it
received exactly on the results above.
-/
theorem paser_sound_iff
    {sizeBits : Nat} (wide : 32 ≤ sizeBits) (buffer : List UInt8)
    (results : List RecvResult)
    (small : ∀ result ∈ results, result.bytes.length < 2 ^ 31) :
    (∀ self,
      Sound
        ((results.take (paser sizeBits self buffer results).2).flatMap
          RecvResult.bytes)
        (paser sizeBits self buffer results).1) ↔
      Reported sizeBits buffer results := by
  cases results with
  | nil => exact ⟨fun _ => trivial, fun _ _ => trivial⟩
  | cons result results =>
      have bounded := small result List.mem_cons_self
      cases result with
      | failed =>
          have positive : 0 < RecvResult.failed.available sizeBits := by
            have range := Nat.pow_le_pow_right Nat.two_pos wide
            rw [RecvResult.available, unsignedCast_neg_one]
            omega
          have held : store buffer 0 RecvResult.failed.bytes = some buffer :=
            rfl
          simp only [sound_first_iff held positive]
          rw [Reported]
          constructor
          · intro sound
            rcases sound ⟨[], [], [], [], 0⟩ with
              ⟨connector, reply, -, encodes, -⟩ | quiet
            · exact absurd (three_le_length_of_encodes encodes) (by decide)
            · exact quiet
          · intro quiet self
            exact Or.inr quiet
      | received bytes =>
          rw [Reported]
          by_cases empty : bytes = []
          · subst bytes
            simp [paser, paserLoop, store, RecvResult.bytes,
              RecvResult.available, Sound]
          · have positive : 0 < bytes.length :=
              List.length_pos_of_ne_nil empty
            by_cases fits : bytes.length ≤ buffer.length
            · have held := store_zero fits
              have first :=
                @sound_first_iff sizeBits (.received bytes) buffer _ held
                  positive results
              simp only [first, empty, fits, false_or, true_and]
              constructor
              · intro sound
                rcases sound ⟨[], [], [], [], 0⟩ with
                  ⟨connector, reply, processed, encodes, holds⟩ | quiet
                · exact Or.inl ⟨reply, encodes,
                    decodable_of_processing wide encodes bounded processed
                      holds⟩
                · exact Or.inr quiet
              · rintro (⟨reply, encodes, plain, decodable⟩ | quiet) self
                · obtain ⟨connector, processed, holds⟩ :=
                    processing_of_decodable wide encodes bounded plain
                      decodable self
                  exact Or.inl ⟨connector, reply, processed, encodes, holds⟩
                · exact Or.inr quiet
            · have stored : store buffer 0 bytes = none := by
                rw [store, if_neg empty, Nat.zero_add, if_neg fits]
              simp only [paser, paserLoop, stored, RecvResult.bytes, Sound,
                empty, fits, false_and, or_false, iff_false]
              intro sound
              exact sound ⟨[], [], [], [], 0⟩

/-- The number `1` as a reply of its own, in a buffer of four bytes. -/
theorem paser_sound_on_number :
    Sound
      ((List.take
        (paser 32 ⟨[], [], [], [], 0⟩ [0, 0, 0, 0]
          [.received [58, 49, 13, 10]]).2
        [RecvResult.received [58, 49, 13, 10]]).flatMap RecvResult.bytes)
      (paser 32 ⟨[], [], [], [], 0⟩ [0, 0, 0, 0]
        [.received [58, 49, 13, 10]]).1 := by
  refine (paser_sound_iff (by decide) _ _ (by decide)).mpr ?_
    ⟨[], [], [], [], 0⟩
  refine Or.inr
    ⟨by decide, Or.inl ⟨.integer 1, ?_, ?_, decodable_nil _⟩⟩
  · have one : scanDigits 0 [49] = 1 := by decide
    have digits : Digits [49] :=
      ⟨by simp, List.forall_mem_singleton.mpr rfl⟩
    have numeral := Numeral.plain digits
    rw [one] at numeral
    exact .integer numeral
  · exact ⟨by decide, by decide⟩

/-- The bytes `:1` without a line end count as a success. -/
theorem paser_succeeds_without_line_end :
    ¬ ∀ (results : List RecvResult) (self : RedisConnector),
      Sound
        ((results.take
          (paser 32 self [0, 0, 0, 0] results).2).flatMap
            RecvResult.bytes)
        (paser 32 self [0, 0, 0, 0] results).1 := by
  intro sound
  have succeeds := sound [.received [58, 49]] ⟨[], [], [], [], 0⟩
  have returned :
      paser 32 ⟨[], [], [], [], 0⟩ [0, 0, 0, 0] [.received [58, 49]] =
        (.returned true ⟨[], [], [], [], 0⟩, 1) := by
    decide
  rw [returned] at succeeds
  obtain ⟨reply, encodes, -⟩ := succeeds
  exact absurd (three_le_length_of_encodes encodes) (by decide)

end LibSklt.Db
