import LibSklt.Db.RedisConnector

/-!
# What the handlers of the Redis connector read

A handler that does not run over the end of the memory it is given does the
same in longer memory.  In memory with a terminator no handler runs over the
end.  A handler that does run over the end also runs over any number of
further `$` characters: none of its scans is stopped by them.
-/

namespace LibSklt.Db

open LibSklt.Foundation.CString
open LibSklt.Foundation.MachineWord

/-! ## Line ends -/

theorem zero_not_mem_rcIdentifier : (0 : UInt8) ∉ rcIdentifier := by
  decide

/-- The line end that was found lies in memory. -/
theorem lineEnd_le
    {buffer : List UInt8} {position : Nat}
    (found : strstr rcIdentifier buffer = some (some position)) :
    position + rcIdentifier.length ≤ buffer.length := by
  have inside := (strstr_found found).1.length_le
  rw [List.length_drop] at inside
  have positive : 0 < rcIdentifier.length := by decide
  omega

/-- A terminator behind a line end stays behind it. -/
theorem zero_mem_behind_lineEnd
    {buffer : List UInt8} {position : Nat}
    (found : strstr rcIdentifier buffer = some (some position))
    (terminated : (0 : UInt8) ∈ buffer) :
    (0 : UInt8) ∈ (buffer.drop position).drop rcIdentifier.length := by
  obtain ⟨⟨behind, there⟩, clean⟩ := strstr_found found
  rw [← List.take_append_drop position buffer, List.mem_append] at terminated
  have later := terminated.resolve_left clean
  rw [← there, List.mem_append] at later
  rw [← there, List.drop_left]
  exact later.resolve_left zero_not_mem_rcIdentifier

theorem saturate_lt (value : Int) : saturate value < 2 ^ 31 := by
  rw [saturate]
  omega

theorem atoi_lt (text : List UInt8) : atoi text < 2 ^ 31 := by
  rw [atoi]
  split
  · decide
  · split
    · exact saturate_lt _
    · split
      · exact saturate_lt _
      · exact saturate_lt _

/-! ## `Bulk` -/

section

variable {sizeBits : Nat}

/-- The sum in `Bulk` for a length that is not negative. -/
theorem addWord_bodyLength
    (wide : 32 ≤ sizeBits) {bodyLength : Int}
    (notNegative : 0 ≤ bodyLength) (small : bodyLength < 2 ^ 31) :
    addWord sizeBits (unsignedCast sizeBits bodyLength)
        rcIdentifier.length =
      bodyLength.toNat + rcIdentifier.length := by
  have range : (2 : Nat) ^ 32 ≤ 2 ^ sizeBits :=
    Nat.pow_le_pow_right (by omega) wide
  have two : rcIdentifier.length = 2 := rfl
  obtain ⟨length, rfl⟩ := Int.eq_ofNat_of_zero_le notNegative
  have bounded : length < 2 ^ 31 := by exact_mod_cast small
  rw [Int.toNat_natCast, unsignedCast_of_lt (by omega),
    addWord_of_lt (by omega)]

/-- A content that `Bulk` takes lies in memory, with its line end. -/
theorem content_le
    (wide : 32 ≤ sizeBits) {bodyLength : Int} {content : List UInt8}
    {length : Nat} (small : bodyLength < 2 ^ 31)
    (measured : strlen content = some length)
    (enough :
      ¬ length <
        addWord sizeBits (unsignedCast sizeBits bodyLength)
          rcIdentifier.length)
    (notNegative : ¬ bodyLength < 0) :
    bodyLength.toNat + rcIdentifier.length ≤ length ∧
      length < content.length := by
  rw [addWord_bodyLength wide (not_lt.mp notNegative) small] at enough
  refine ⟨not_lt.mp enough, ?_⟩
  have terminator := zero_mem_drop_of_strlen measured (Nat.le_refl _)
  by_contra short
  rw [List.drop_of_length_le (not_lt.mp short)] at terminator
  simp at terminator

theorem bulkContent_eq_overrun_iff
    {bodyLength : Int} {content : List UInt8} :
    bulkContent sizeBits bodyLength content = .overrun ↔
      (0 : UInt8) ∉ content := by
  rw [bulkContent, ← strlen_eq_none_iff]
  cases strlen content with
  | none => simp
  | some length =>
      simp only [reduceCtorEq, iff_false]
      split_ifs <;> simp

/-- More memory behind a result. -/
def BulkResult.before (behind : List UInt8) : BulkResult → BulkResult
  | .position value rest => .position value (rest ++ behind)
  | .null retry => .null retry
  | .threw => .threw
  | .overrun => .overrun

theorem bulkContent_append
    (wide : 32 ≤ sizeBits) {bodyLength : Int} {content : List UInt8}
    (small : bodyLength < 2 ^ 31)
    (ends : bulkContent sizeBits bodyLength content ≠ .overrun)
    (behind : List UInt8) :
    bulkContent sizeBits bodyLength (content ++ behind) =
      (bulkContent sizeBits bodyLength content).before behind := by
  rw [bulkContent] at ends
  rw [bulkContent, bulkContent]
  cases measured : strlen content with
  | none => simp [measured] at ends
  | some length =>
      rw [strlen_append measured]
      simp only
      split
      case isTrue => rfl
      case isFalse enough =>
        split
        case isTrue => rfl
        case isFalse notNegative =>
          obtain ⟨taken, bounded⟩ :=
            content_le wide small measured enough notNegative
          rw [BulkResult.before, List.take_append_of_le_length (by omega),
            List.drop_append_of_le_length (by omega)]

theorem zero_mem_of_bulkContent
    (wide : 32 ≤ sizeBits) {bodyLength : Int}
    {content value rest : List UInt8} (small : bodyLength < 2 ^ 31)
    (equal :
      bulkContent sizeBits bodyLength content = .position value rest) :
    (0 : UInt8) ∈ rest := by
  rw [bulkContent] at equal
  cases measured : strlen content with
  | none => simp [measured] at equal
  | some length =>
      rw [measured] at equal
      simp only at equal
      split at equal
      case isTrue => cases equal
      case isFalse enough =>
        split at equal
        case isTrue => cases equal
        case isFalse notNegative =>
          obtain ⟨taken, -⟩ :=
            content_le wide small measured enough notNegative
          cases equal
          exact zero_mem_drop_of_strlen measured taken

/-! ## `Bulk` by the line with the length -/

theorem bulk_of_none
    {buffer : List UInt8} (none : strstr rcIdentifier buffer = none) :
    bulk sizeBits buffer = .overrun := by
  rw [bulk, identifierParseToInt, none]
  rfl

theorem bulk_of_missing
    {buffer : List UInt8}
    (missing : strstr rcIdentifier buffer = some none) :
    bulk sizeBits buffer = .null false := by
  rw [bulk, identifierParseToInt, missing]
  rfl

theorem bulk_of_found
    {buffer : List UInt8} {position : Nat}
    (found : strstr rcIdentifier buffer = some (some position)) :
    bulk sizeBits buffer =
      bulkContent sizeBits (atoi (buffer.take position))
        (buffer.drop (position + rcIdentifier.length)) := by
  rw [bulk, identifierParseToInt, found, ← List.drop_drop]
  rfl

/-- `Bulk` does not depend on the memory behind what it reads. -/
theorem bulk_append
    (wide : 32 ≤ sizeBits) {buffer : List UInt8}
    (ends : bulk sizeBits buffer ≠ .overrun) (behind : List UInt8) :
    bulk sizeBits (buffer ++ behind) =
      (bulk sizeBits buffer).before behind := by
  cases searched : strstr rcIdentifier buffer with
  | none => exact absurd (bulk_of_none searched) ends
  | some found =>
      have longer := strstr_append searched behind
      cases found with
      | none =>
          rw [bulk_of_missing searched, bulk_of_missing longer]
          rfl
      | some position =>
          have inside := lineEnd_le searched
          rw [bulk_of_found searched] at ends ⊢
          rw [bulk_of_found longer,
            List.take_append_of_le_length (by omega),
            List.drop_append_of_le_length inside]
          exact bulkContent_append wide (atoi_lt _) ends behind

/-- In terminated memory `Bulk` ends, and a terminator is left behind it. -/
theorem bulk_of_terminated
    (wide : 32 ≤ sizeBits) {buffer : List UInt8}
    (terminated : (0 : UInt8) ∈ buffer) :
    bulk sizeBits buffer ≠ .overrun ∧
      ∀ value rest, bulk sizeBits buffer = .position value rest →
        (0 : UInt8) ∈ rest := by
  cases searched : strstr rcIdentifier buffer with
  | none =>
      exact absurd terminated
        (zero_not_mem_of_strstr zero_not_mem_rcIdentifier searched)
  | some found =>
      cases found with
      | none =>
          rw [bulk_of_missing searched]
          exact ⟨by simp, by simp⟩
      | some position =>
          rw [bulk_of_found searched]
          constructor
          · rw [Ne, bulkContent_eq_overrun_iff, not_not, ← List.drop_drop]
            exact zero_mem_behind_lineEnd searched terminated
          · intro value rest equal
            exact zero_mem_of_bulkContent wide (atoi_lt _) equal

/-- The character `$` stops no scan. -/
theorem avoids_replicate (count : Nat) :
    ∀ byte ∈ List.replicate count rcBulk,
      byte ≠ 0 ∧ byte ∉ rcIdentifier := by
  intro byte member
  rw [List.eq_of_mem_replicate member]
  decide

theorem bulk_append_replicate
    {buffer : List UInt8} (runsOver : bulk sizeBits buffer = .overrun)
    (count : Nat) :
    bulk sizeBits (buffer ++ List.replicate count rcBulk) = .overrun := by
  have stops := avoids_replicate count
  cases searched : strstr rcIdentifier buffer with
  | none =>
      exact bulk_of_none
        (strstr_append_of_avoids zero_not_mem_rcIdentifier searched stops)
  | some found =>
      cases found with
      | none =>
          rw [bulk_of_missing searched] at runsOver
          cases runsOver
      | some position =>
          rw [bulk_of_found searched, bulkContent_eq_overrun_iff]
            at runsOver
          rw [bulk_of_found (strstr_append searched _),
            bulkContent_eq_overrun_iff,
            List.drop_append_of_le_length (lineEnd_le searched),
            List.mem_append, not_or]
          exact ⟨runsOver, fun member => (stops 0 member).1 rfl⟩

theorem bulk_replicate (count : Nat) :
    bulk sizeBits (List.replicate count rcBulk) = .overrun := by
  have empty : bulk sizeBits [] = .overrun := bulk_of_none rfl
  simpa using bulk_append_replicate empty count

/-! ## The elements of a list -/

theorem bulks_append
    (wide : 32 ≤ sizeBits) {count : Nat} {buffer : List UInt8}
    {values : List (List UInt8)}
    (ends : (bulks sizeBits count buffer values).2 ≠ .overrun)
    (behind : List UInt8) :
    bulks sizeBits count (buffer ++ behind) values =
      bulks sizeBits count buffer values := by
  induction count generalizing buffer values with
  | zero => simp [bulks]
  | succ count inductionHypothesis =>
      cases buffer with
      | nil => simp [bulks] at ends
      | cons byte rest =>
          simp only [List.cons_append, bulks] at ends ⊢
          split
          case isTrue isMarker =>
            rw [if_pos isMarker] at ends
            have unread : bulk sizeBits rest ≠ .overrun := by
              intro runsOver
              simp [runsOver] at ends
            rw [bulk_append wide unread]
            cases found : bulk sizeBits rest with
            | position value later =>
                rw [found] at ends
                exact inductionHypothesis ends
            | null => rfl
            | threw => rfl
            | overrun => rfl
          case isFalse other =>
            rw [if_neg other] at ends
            rw [← List.cons_append]
            exact inductionHypothesis ends

theorem bulks_of_terminated
    (wide : 32 ≤ sizeBits) {buffer : List UInt8}
    (terminated : (0 : UInt8) ∈ buffer) (count : Nat)
    (values : List (List UInt8)) :
    (bulks sizeBits count buffer values).2 ≠ .overrun := by
  induction count generalizing buffer values with
  | zero => simp [bulks]
  | succ count inductionHypothesis =>
      cases buffer with
      | nil => simp at terminated
      | cons byte rest =>
          rw [bulks]
          split
          case isTrue isMarker =>
            have later : (0 : UInt8) ∈ rest := by
              rw [isMarker, List.mem_cons] at terminated
              exact terminated.resolve_left (by decide)
            obtain ⟨ends, stays⟩ := bulk_of_terminated wide later
            cases found : bulk sizeBits rest with
            | position value behind =>
                exact inductionHypothesis (stays value behind found) _
            | null retry => cases retry <;> simp
            | threw => simp
            | overrun => exact absurd found ends
          case isFalse => exact inductionHypothesis terminated values

theorem bulks_append_replicate
    (wide : 32 ≤ sizeBits) {count : Nat} {buffer : List UInt8}
    {values : List (List UInt8)}
    (runsOver : (bulks sizeBits count buffer values).2 = .overrun)
    (more : Nat) :
    (bulks sizeBits count
      (buffer ++ List.replicate (more + 1) rcBulk) values).2 =
        .overrun := by
  induction count generalizing buffer values with
  | zero => simp [bulks] at runsOver
  | succ count inductionHypothesis =>
      cases buffer with
      | nil =>
          rw [List.nil_append, List.replicate_succ, bulks, if_pos rfl,
            bulk_replicate]
      | cons byte rest =>
          simp only [List.cons_append, bulks] at runsOver ⊢
          split
          case isTrue isMarker =>
            rw [if_pos isMarker] at runsOver
            by_cases unread : bulk sizeBits rest = .overrun
            · rw [bulk_append_replicate unread]
            · rw [bulk_append wide unread]
              cases found : bulk sizeBits rest with
              | position value later =>
                  rw [found] at runsOver
                  exact inductionHypothesis runsOver
              | null retry =>
                  rw [found] at runsOver
                  exact runsOver
              | threw =>
                  rw [found] at runsOver
                  exact runsOver
              | overrun => exact absurd found unread
          case isFalse other =>
            rw [if_neg other] at runsOver
            rw [← List.cons_append]
            exact inductionHypothesis runsOver

end

/-! ## All handlers -/

/-- What a handler reads of the memory it is given. -/
structure Scans
    (handler : List UInt8 → RedisConnector → RedisConnector × Status) :
    Prop where
  append :
    ∀ buffer self behind, (handler buffer self).2 ≠ .overrun →
      handler (buffer ++ behind) self = handler buffer self
  terminated :
    ∀ buffer self, (0 : UInt8) ∈ buffer →
      (handler buffer self).2 ≠ .overrun
  runsOver :
    ∀ buffer self more, (handler buffer self).2 = .overrun →
      (handler (buffer ++ List.replicate (more + 1) rcBulk) self).2 =
        .overrun

/-- Handlers of one line: `read` is what they make of its text. -/
theorem lineProcessing_scans
    {Value : Type}
    {parse : List UInt8 → Option (Option (Value × List UInt8))}
    (read : List UInt8 → Value)
    (parses :
      ∀ buffer,
        parse buffer =
          (strstr rcIdentifier buffer).map
            (Option.map fun position =>
              (read (buffer.take position), buffer.drop position)))
    (assign : Value → RedisConnector → RedisConnector) :
    Scans (lineProcessing parse assign) where
  append buffer self behind ends := by
    rw [lineProcessing, parses] at ends
    rw [lineProcessing, lineProcessing, parses, parses]
    cases searched : strstr rcIdentifier buffer with
    | none => simp [searched] at ends
    | some found =>
        rw [strstr_append searched]
        cases found with
        | none => rfl
        | some position =>
            have inside := lineEnd_le searched
            simp only [Option.map_some]
            rw [List.take_append_of_le_length (by omega)]
  terminated buffer self terminated := by
    rw [lineProcessing, parses]
    cases searched : strstr rcIdentifier buffer with
    | none =>
        exact absurd terminated
          (zero_not_mem_of_strstr zero_not_mem_rcIdentifier searched)
    | some found =>
        cases found with
        | none => simp
        | some position => simp
  runsOver buffer self more runsOver := by
    rw [lineProcessing, parses] at runsOver ⊢
    cases searched : strstr rcIdentifier buffer with
    | none =>
        rw [strstr_append_of_avoids zero_not_mem_rcIdentifier searched
          (avoids_replicate (more + 1))]
        rfl
    | some found =>
        rw [searched] at runsOver
        cases found with
        | none => simp at runsOver
        | some position => simp at runsOver

section

variable {sizeBits : Nat}

theorem bulkProcessing_scans (wide : 32 ≤ sizeBits) :
    Scans (bulkProcessing sizeBits) where
  append buffer self behind ends := by
    have unread : bulk sizeBits buffer ≠ .overrun := by
      intro runsOver
      simp [bulkProcessing, runsOver] at ends
    rw [bulkProcessing, bulkProcessing, bulk_append wide unread]
    cases bulk sizeBits buffer <;> rfl
  terminated buffer self terminated := by
    have ends := (bulk_of_terminated wide terminated).1
    rw [bulkProcessing]
    cases found : bulk sizeBits buffer with
    | position => simp
    | null retry => cases retry <;> simp
    | threw => simp
    | overrun => exact absurd found ends
  runsOver buffer self more runsOver := by
    have unread : bulk sizeBits buffer = .overrun := by
      rw [bulkProcessing] at runsOver
      cases found : bulk sizeBits buffer with
      | position => simp [found] at runsOver
      | null retry => cases retry <;> simp [found] at runsOver
      | threw => simp [found] at runsOver
      | overrun => rfl
    rw [bulkProcessing, bulk_append_replicate unread]

/-- `MultiBulkProcessing` by the line with the count. -/
theorem multiBulkProcessing_of_found
    {buffer : List UInt8} {position : Nat}
    (found : strstr rcIdentifier buffer = some (some position))
    (self : RedisConnector) :
    multiBulkProcessing sizeBits buffer self =
      let elements :=
        bulks sizeBits (atoi (buffer.take position)).toNat
          (buffer.drop (position + rcIdentifier.length)) []
      ({ self with multiBulk := elements.1 }, elements.2) := by
  rw [multiBulkProcessing, identifierParseToInt, found, ← List.drop_drop]
  rfl

theorem multiBulkProcessing_scans (wide : 32 ≤ sizeBits) :
    Scans (multiBulkProcessing sizeBits) where
  append buffer self behind ends := by
    cases searched : strstr rcIdentifier buffer with
    | none =>
        simp [multiBulkProcessing, identifierParseToInt, searched] at ends
    | some found =>
        have longer := strstr_append searched behind
        cases found with
        | none =>
            simp [multiBulkProcessing, identifierParseToInt, searched,
              longer]
        | some position =>
            have inside := lineEnd_le searched
            rw [multiBulkProcessing_of_found searched] at ends ⊢
            rw [multiBulkProcessing_of_found longer,
              List.take_append_of_le_length (by omega),
              List.drop_append_of_le_length inside,
              bulks_append wide ends]
  terminated buffer self terminated := by
    cases searched : strstr rcIdentifier buffer with
    | none =>
        exact absurd terminated
          (zero_not_mem_of_strstr zero_not_mem_rcIdentifier searched)
    | some found =>
        cases found with
        | none =>
            simp [multiBulkProcessing, identifierParseToInt, searched]
        | some position =>
            have later := zero_mem_behind_lineEnd searched terminated
            rw [List.drop_drop] at later
            rw [multiBulkProcessing_of_found searched]
            exact bulks_of_terminated wide later _ []
  runsOver buffer self more runsOver := by
    cases searched : strstr rcIdentifier buffer with
    | none =>
        have longer :=
          strstr_append_of_avoids zero_not_mem_rcIdentifier searched
            (avoids_replicate (more + 1))
        simp [multiBulkProcessing, identifierParseToInt, longer]
    | some found =>
        cases found with
        | none =>
            simp [multiBulkProcessing, identifierParseToInt, searched]
              at runsOver
        | some position =>
            have inside := lineEnd_le searched
            rw [multiBulkProcessing_of_found searched] at runsOver
            rw [multiBulkProcessing_of_found (strstr_append searched _),
              List.take_append_of_le_length (by omega),
              List.drop_append_of_le_length inside]
            exact bulks_append_replicate wide runsOver more

/-- Every registered handler scans its memory in the same way. -/
theorem processFunc_scans
    (wide : 32 ≤ sizeBits) {marker : UInt8}
    {handler : List UInt8 → RedisConnector → RedisConnector × Status}
    (registered : processFunc sizeBits marker = some handler) :
    Scans handler := by
  rw [processFunc] at registered
  split_ifs at registered with isError isInline isBulk isMultiBulk isInt
  · cases registered
    exact lineProcessing_scans id (fun _ => rfl) _
  · cases registered
    exact lineProcessing_scans id (fun _ => rfl) _
  · cases registered
    exact bulkProcessing_scans wide
  · cases registered
    exact multiBulkProcessing_scans wide
  · cases registered
    exact lineProcessing_scans atoi (fun _ => rfl) _

theorem processing_append
    (wide : 32 ≤ sizeBits) {buffer : List UInt8} {self : RedisConnector}
    (ends : (processing sizeBits buffer self).2 ≠ .overrun)
    (behind : List UInt8) :
    processing sizeBits (buffer ++ behind) self =
      processing sizeBits buffer self := by
  cases buffer with
  | nil => simp [processing] at ends
  | cons marker passbuffer =>
      simp only [List.cons_append, processing] at ends ⊢
      cases registered : processFunc sizeBits marker with
      | none => rfl
      | some handler =>
          rw [registered] at ends
          exact (processFunc_scans wide registered).append passbuffer self
            behind ends

theorem processing_of_terminated
    (wide : 32 ≤ sizeBits) {buffer : List UInt8}
    (terminated : (0 : UInt8) ∈ buffer) (self : RedisConnector) :
    (processing sizeBits buffer self).2 ≠ .overrun := by
  cases buffer with
  | nil => simp at terminated
  | cons marker passbuffer =>
      rw [processing]
      cases registered : processFunc sizeBits marker with
      | none => simp
      | some handler =>
          have isMarker : marker ≠ 0 := by
            rintro rfl
            simp [processFunc, rcError, rcInline, rcBulk, rcMultiBulk,
              rcInt] at registered
          rw [List.mem_cons] at terminated
          exact (processFunc_scans wide registered).terminated passbuffer
            self (terminated.resolve_left (Ne.symm isMarker))

theorem processing_append_replicate
    (wide : 32 ≤ sizeBits) {buffer : List UInt8} {self : RedisConnector}
    (runsOver : (processing sizeBits buffer self).2 = .overrun)
    (more : Nat) :
    (processing sizeBits (buffer ++ List.replicate (more + 1) rcBulk)
      self).2 = .overrun := by
  cases buffer with
  | nil =>
      have registered :
          processFunc sizeBits rcBulk = some (bulkProcessing sizeBits) :=
        rfl
      rw [List.nil_append, List.replicate_succ, processing, registered]
      simp only
      rw [bulkProcessing, bulk_replicate]
  | cons marker passbuffer =>
      simp only [List.cons_append, processing] at runsOver ⊢
      cases registered : processFunc sizeBits marker with
      | none => simp [registered] at runsOver
      | some handler =>
          rw [registered] at runsOver
          exact (processFunc_scans wide registered).runsOver passbuffer self
            more runsOver

end

end LibSklt.Db
