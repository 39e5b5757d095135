import LibSklt.Db.RedisReplies

/-!
# Lists of bulk strings, call by call

`MultiBulkProcessing` returns a Boolean, may set `retry` and calls `Bulk` for
each element.  The handler of the connector keeps what the parser needs of
this; here a call is followed with all that it returns, and with the inner
calls of `Bulk`.  On the encoding of a list of strings each inner call starts
behind the marker of its element and returns the position behind the line end
that closes it, whatever the strings contain.
-/

namespace LibSklt.Db

open LibSklt.Foundation.CString
open LibSklt.Foundation.Decimal
open LibSklt.Foundation.Resp

/-- What a call of `MultiBulkProcessing` leaves behind. -/
structure MultiBulkCall where
  returned : Bool
  retry : Bool
  multiBulk : List (List UInt8)
  /-- The inner calls of `Bulk`: the argument and the result. -/
  calls : List (List UInt8 × BulkResult)
deriving DecidableEq

/--
The loop of `MultiBulkProcessing`; `none` where an exception leaves it or the
memory ends.
-/
def multiBulkLoop (sizeBits : Nat) :
    Nat → List UInt8 → MultiBulkCall → Option MultiBulkCall
  | 0, _, call => some call
  | _ + 1, [], _ => none
  | count + 1, byte :: rest, call =>
      if byte = rcBulk then
        let result := bulk sizeBits rest
        let call := { call with calls := call.calls ++ [(rest, result)] }
        match result with
        | .position value behind =>
            multiBulkLoop sizeBits count behind
              { call with multiBulk := call.multiBulk ++ [value] }
        | .null retry =>
            some
              { call with returned := false, retry := call.retry || retry }
        | _ => none
      else
        multiBulkLoop sizeBits count (byte :: rest) call

/-- `MultiBulkProcessing`, with its return value and its inner calls. -/
def multiBulkCall (sizeBits : Nat) (buffer : List UInt8) (retry : Bool)
    (self : RedisConnector) : Option MultiBulkCall :=
  match identifierParseToInt buffer with
  | none => none
  | some none => some ⟨true, retry, self.multiBulk, []⟩
  | some (some (bulkCount, atLineEnd)) =>
      multiBulkLoop sizeBits bulkCount.toNat
        (atLineEnd.drop rcIdentifier.length) ⟨true, retry, [], []⟩

/-! ## The handler and its calls -/

section

variable {sizeBits : Nat}

/-- The loop of the handler is the loop with its calls. -/
theorem bulks_of_multiBulkLoop
    {count : Nat} {buffer : List UInt8} {call last : MultiBulkCall}
    (quiet : call.retry = false)
    (ends : multiBulkLoop sizeBits count buffer call = some last) :
    bulks sizeBits count buffer call.multiBulk =
      (last.multiBulk, if last.retry then .retry else .done) := by
  induction count generalizing buffer call with
  | zero =>
      cases ends
      rw [bulks, quiet]
      rfl
  | succ count inductionHypothesis =>
      cases buffer with
      | nil => cases ends
      | cons byte rest =>
          rw [multiBulkLoop] at ends
          rw [bulks]
          by_cases marker : byte = rcBulk
          · rw [if_pos marker] at ends ⊢
            cases result : bulk sizeBits rest with
            | position value behind =>
                simp only [result] at ends
                exact inductionHypothesis (by exact quiet) ends
            | null retry =>
                simp only [result] at ends
                cases ends
                simp [quiet]
            | threw => simp [result] at ends
            | overrun => simp [result] at ends
          · rw [if_neg marker] at ends ⊢
            exact inductionHypothesis quiet ends

/-- What the parser sees of a call. -/
theorem multiBulkProcessing_of_call
    {buffer : List UInt8} {self : RedisConnector} {call : MultiBulkCall}
    (ends : multiBulkCall sizeBits buffer false self = some call) :
    multiBulkProcessing sizeBits buffer self =
      ({ self with multiBulk := call.multiBulk },
        if call.retry then .retry else .done) := by
  rw [multiBulkCall] at ends
  rw [multiBulkProcessing]
  cases parsed : identifierParseToInt buffer with
  | none => simp [parsed] at ends
  | some found =>
      cases found with
      | none =>
          simp only [parsed] at ends
          cases ends
          rfl
      | some line =>
          simp only [parsed] at ends
          have same := bulks_of_multiBulkLoop rfl ends
          simp only at same
          simp only [same]

/-! ## Encoded lists -/

/--
The inner calls on the bytes of the elements: each call starts behind the
marker of its element and returns the position behind its line end, where the
bytes of the following elements start.
-/
inductive ElementCalls :
    List (List UInt8) → List UInt8 → List (List UInt8 × BulkResult) →
      Prop where
  | nil (behind : List UInt8) : ElementCalls [] behind []
  | cons {content number : List UInt8} {contents : List (List UInt8)}
      {behind : List UInt8} {calls : List (List UInt8 × BulkResult)}
      (numeral : Numeral content.length number)
      (rest : ElementCalls contents behind calls) :
      ElementCalls (content :: contents)
        (rcBulk :: (number ++ (crlf ++ (content ++ (crlf ++ behind)))))
        ((number ++ (crlf ++ (content ++ (crlf ++ behind))),
            .position content behind) ::
          calls)

/-- `Bulk` on a string that is not longer than an `int` can say. -/
theorem bulk_of_numeral
    (wide : 32 ≤ sizeBits) {content number behind : List UInt8}
    (numeral : Numeral content.length number)
    (clean : (0 : UInt8) ∉ content) (small : content.length < 2 ^ 31)
    (terminated : (0 : UInt8) ∈ behind) :
    bulk sizeBits (number ++ (crlf ++ (content ++ (crlf ++ behind)))) =
      .position content behind := by
  have exact' : saturate content.length = content.length := by
    rw [saturate_eq_iff]
    omega
  rw [bulk_numeral numeral, exact',
    bulkContent_of_terminated wide clean small terminated]

/-- The loop finds the elements one after the other. -/
theorem multiBulkLoop_of_encodes
    (wide : 32 ≤ sizeBits) {contents : List (List UInt8)}
    {bytes : List UInt8}
    (encodes : EncodesElements (contents.map some) bytes)
    (clean : ∀ content ∈ contents, (0 : UInt8) ∉ content)
    (small : ∀ content ∈ contents, content.length < 2 ^ 31)
    {behind : List UInt8} (terminated : (0 : UInt8) ∈ behind)
    (call : MultiBulkCall) :
    ∃ calls,
      ElementCalls contents (bytes ++ behind) calls ∧
        multiBulkLoop sizeBits contents.length (bytes ++ behind) call =
          some
            { call with
              multiBulk := call.multiBulk ++ contents
              calls := call.calls ++ calls } := by
  induction contents generalizing bytes call with
  | nil =>
      cases encodes
      exact ⟨[], .nil _, by simp [multiBulkLoop]⟩
  | cons content contents inductionHypothesis =>
      rw [List.map_cons] at encodes
      cases encodes with
      | @cons _ _ first rest head tail =>
          cases head with
          | @string _ number numeral =>
              have later : (0 : UInt8) ∈ rest ++ behind :=
                List.mem_append_right _ terminated
              have here :=
                bulk_of_numeral wide numeral
                  (clean content List.mem_cons_self)
                  (small content List.mem_cons_self) later
              obtain ⟨calls, elements, runs⟩ :=
                inductionHypothesis tail
                  (fun other member =>
                    clean other (List.mem_cons_of_mem _ member))
                  (fun other member =>
                    small other (List.mem_cons_of_mem _ member))
                  { call with
                    multiBulk := call.multiBulk ++ [content]
                    calls :=
                      call.calls ++
                        [(number ++ (crlf ++ (content ++
                            (crlf ++ (rest ++ behind)))),
                          .position content (rest ++ behind))] }
              have joined :
                  36 :: (number ++ crlf ++ content ++ crlf) ++ rest ++
                      behind =
                    rcBulk :: (number ++ (crlf ++ (content ++
                      (crlf ++ (rest ++ behind))))) := by
                simp only [List.cons_append, List.append_assoc]
                rfl
              rw [joined]
              refine ⟨_, .cons numeral elements, ?_⟩
              simp only [List.length_cons, multiBulkLoop, if_true, here,
                runs, List.append_assoc, List.singleton_append]

/--
`MultiBulkProcessing` inverts the encoding of a list of strings: behind the
marker `*`, and in front of a terminator, it finds the list whatever the
member held, returns `true` and leaves `retry` as it was, and each of its
calls of `Bulk` ends behind its element.
-/
theorem multiBulkProcessing_inverts_encoding
    (wide : 32 ≤ sizeBits) {contents : List (List UInt8)}
    (few : contents.length < 2 ^ 31)
    (small : ∀ content ∈ contents, content.length < 2 ^ 31)
    (clean : ∀ content ∈ contents, (0 : UInt8) ∉ content)
    (stale : List UInt8) (retry : Bool) (self : RedisConnector) :
    ∃ calls,
      multiBulkCall sizeBits (encodeMultiBulk contents ++ 0 :: stale) retry
            self =
          some ⟨true, retry, contents, calls⟩ ∧
        ElementCalls contents (contents.flatMap encodeBulk ++ 0 :: stale)
          calls ∧
        multiBulkProcessing sizeBits
            (encodeMultiBulk contents ++ 0 :: stale) self =
          ({ self with multiBulk := contents }, .done) := by
  have terminated : (0 : UInt8) ∈ 0 :: stale := List.mem_cons_self
  have count : (saturate contents.length).toNat = contents.length := by
    rw [(saturate_eq_iff _).mpr (by omega), Int.toNat_natCast]
  have joined :
      encodeMultiBulk contents ++ 0 :: stale =
        decimal contents.length ++
          (crlf ++ (contents.flatMap encodeBulk ++ 0 :: stale)) := by
    simp only [encodeMultiBulk, List.append_assoc]
  have runs (asked : Bool) :
      ∃ calls,
        ElementCalls contents (contents.flatMap encodeBulk ++ 0 :: stale)
            calls ∧
          multiBulkCall sizeBits
              (encodeMultiBulk contents ++ 0 :: stale) asked self =
            some ⟨true, asked, contents, calls⟩ := by
    obtain ⟨calls, elements, finds⟩ :=
      multiBulkLoop_of_encodes wide (encodesElements_encodeBulk contents)
        clean small terminated ⟨true, asked, [], []⟩
    refine ⟨calls, elements, ?_⟩
    rw [multiBulkCall, joined,
      identifierParseToInt_numeral (numeral_decimal _)]
    simp only [count]
    exact finds
  obtain ⟨calls, elements, found⟩ := runs retry
  obtain ⟨_, -, unasked⟩ := runs false
  exact ⟨calls, found, elements, multiBulkProcessing_of_call unasked⟩

/-- Two strings, one of them with a line end and a marker in it. -/
theorem multiBulkProcessing_inverts_encoding_of_two :
    ∃ calls,
      multiBulkCall 64 (encodeMultiBulk [[13, 10, 36], []] ++ [0]) true
          ⟨[], [], [], [[7]], 0⟩ =
        some ⟨true, true, [[13, 10, 36], []], calls⟩ := by
  obtain ⟨calls, found, -⟩ :=
    @multiBulkProcessing_inverts_encoding 64 (by decide)
      [[13, 10, 36], []] (by decide) (by decide) (by decide) [] true
      ⟨[], [], [], [[7]], 0⟩
  exact ⟨calls, found⟩

end

end LibSklt.Db
