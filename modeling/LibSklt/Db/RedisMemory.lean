import LibSklt.Db.RedisRounds

/-!
# What the handlers of the Redis parser find in memory

A bulk string is a line with the announced length and the bytes behind it up
to the first zero.  A handler asks for more exactly if these are fewer bytes
than announced, in a bulk string of its own or in an element of a list.  It
throws if they are enough for a negative length, and it leaves the buffer
where neither a line end nor a zero stops a scan.
-/

namespace LibSklt.Db

open LibSklt.Foundation.CString
open LibSklt.Foundation.Decimal
open LibSklt.Foundation.MachineWord

/-- The first line is the number, and the bytes stand behind its end. -/
def Announces (text : List UInt8) (number : Int) (behind : List UInt8) :
    Prop :=
  ∃ position,
    strstr rcIdentifier text = some (some position) ∧
      atoi (text.take position) = number ∧
        text.drop (position + rcIdentifier.length) = behind

section

variable (sizeBits : Nat)

/-- The announced bytes with their line end, counted in `size_t`. -/
def demanded (number : Int) : Nat :=
  addWord sizeBits (unsignedCast sizeBits number) rcIdentifier.length

/-- A bulk string with fewer bytes before the first zero than announced. -/
def BulkLacks (text : List UInt8) : Prop :=
  ∃ number behind length,
    Announces text number behind ∧ strlen behind = some length ∧
      length < demanded sizeBits number

/-- A bulk string with all of its bytes, in front of the rest. -/
def BulkWhole (text rest : List UInt8) : Prop :=
  ∃ number behind length,
    Announces text number behind ∧ strlen behind = some length ∧
      demanded sizeBits number ≤ length ∧ 0 ≤ number ∧
        behind.drop (number.toNat + rcIdentifier.length) = rest

/-- A bulk string at which `Bulk` throws or leaves the buffer. -/
inductive BulkBreaks (text : List UInt8) : Prop where
  | line (endless : strstr rcIdentifier text = none)
  | content {number : Int} {behind : List UInt8}
      (announces : Announces text number behind)
      (endless : (0 : UInt8) ∉ behind)
  | negative {number : Int} {behind : List UInt8} {length : Nat}
      (announces : Announces text number behind)
      (ends : strlen behind = some length)
      (enough : demanded sizeBits number ≤ length) (sign : number < 0)

/-- Behind fewer whole elements than the count stands what is described. -/
inductive Elements (found : List UInt8 → Prop) :
    Nat → List UInt8 → Prop where
  | here {count : Nat} {text : List UInt8} (holds : found text) :
      Elements found (count + 1) text
  | behind {count : Nat} {text rest : List UInt8}
      (whole : BulkWhole sizeBits text rest)
      (later : Elements found count rest) :
      Elements found (count + 1) (rcBulk :: text)

/-- A bulk string with its marker that lacks bytes. -/
def ElementLacks (memory : List UInt8) : Prop :=
  ∃ text, memory = rcBulk :: text ∧ BulkLacks sizeBits text

/-- Nothing, or a bulk string that cannot be read. -/
def ElementBreaks (memory : List UInt8) : Prop :=
  memory = [] ∨ ∃ text, memory = rcBulk :: text ∧ BulkBreaks sizeBits text

/-- A list with its marker, with what is described among its elements. -/
def ListHas (found : List UInt8 → Prop) (memory : List UInt8) : Prop :=
  ∃ text number behind,
    memory = rcMultiBulk :: text ∧ Announces text number behind ∧
      Elements sizeBits found number.toNat behind

/-- A reply with a line that neither a line end nor a zero stops. -/
def Endless (memory : List UInt8) : Prop :=
  ∃ marker text,
    memory = marker :: text ∧
      marker ∈ [rcError, rcInline, rcMultiBulk, rcInt] ∧
        strstr rcIdentifier text = none

/-- The memory holds a reply of which bytes are still to come. -/
def Lacks (memory : List UInt8) : Prop :=
  ElementLacks sizeBits memory ∨
    ListHas sizeBits (ElementLacks sizeBits) memory

/-- The memory holds what a handler cannot read without an exception or
behind the end of the buffer. -/
def Breaks (memory : List UInt8) : Prop :=
  ElementBreaks sizeBits memory ∨
    ListHas sizeBits (ElementBreaks sizeBits) memory ∨ Endless memory

end

variable {sizeBits : Nat}

/-! ## Bulk strings -/

theorem bulk_of_announces
    {text behind : List UInt8} {number : Int}
    (announces : Announces text number behind) :
    bulk sizeBits text = bulkContent sizeBits number behind := by
  obtain ⟨position, found, rfl, rfl⟩ := announces
  rw [bulk, identifierParseToInt, found]
  simp only [Option.map_some, List.drop_drop]

theorem bulk_of_lacks
    {text : List UInt8} (lacks : BulkLacks sizeBits text) :
    bulk sizeBits text = .null true := by
  obtain ⟨number, behind, length, announces, ends, few⟩ := lacks
  rw [bulk_of_announces announces, bulkContent, ends]
  exact if_pos few

theorem bulk_of_whole
    {text rest : List UInt8} (whole : BulkWhole sizeBits text rest) :
    ∃ value, bulk sizeBits text = .position value rest := by
  obtain ⟨number, behind, length, announces, ends, enough, sign, rfl⟩ :=
    whole
  refine ⟨behind.take number.toNat, ?_⟩
  rw [bulk_of_announces announces, bulkContent, ends]
  exact (if_neg (not_lt.mpr enough)).trans (if_neg (not_lt.mpr sign))

theorem bulk_of_breaks
    {text : List UInt8} (breaks : BulkBreaks sizeBits text) :
    bulk sizeBits text = .threw ∨ bulk sizeBits text = .overrun := by
  cases breaks with
  | line endless =>
      right
      rw [bulk, identifierParseToInt, endless]
      rfl
  | content announces endless =>
      right
      rw [bulk_of_announces announces, bulkContent,
        strlen_eq_none_iff.mpr endless]
  | negative announces ends enough sign =>
      left
      rw [bulk_of_announces announces, bulkContent, ends]
      exact (if_neg (not_lt.mpr enough)).trans (if_pos sign)

/-- The four ways in which `Bulk` ends on the memory. -/
theorem bulk_cases (text : List UInt8) :
    (BulkBreaks sizeBits text ∧
        (bulk sizeBits text = .threw ∨ bulk sizeBits text = .overrun)) ∨
      (BulkLacks sizeBits text ∧ bulk sizeBits text = .null true) ∨
      (∃ value rest, BulkWhole sizeBits text rest ∧
        bulk sizeBits text = .position value rest) ∨
      bulk sizeBits text = .null false := by
  rcases found : strstr rcIdentifier text with _ | _ | position
  · exact Or.inl ⟨.line found, bulk_of_breaks (.line found)⟩
  · right
    right
    right
    rw [bulk, identifierParseToInt, found]
    rfl
  · have announces : Announces text _ _ := ⟨position, found, rfl, rfl⟩
    rw [bulk_of_announces announces, bulkContent]
    cases ends :
        strlen (text.drop (position + rcIdentifier.length)) with
    | none =>
        exact Or.inl ⟨.content announces (strlen_eq_none_iff.mp ends),
          Or.inr rfl⟩
    | some length =>
        simp only
        split_ifs with few sign
        · exact Or.inr (Or.inl ⟨⟨_, _, length, announces, ends, few⟩, rfl⟩)
        · exact Or.inl ⟨.negative announces ends (not_lt.mp few) sign,
            Or.inl rfl⟩
        · exact Or.inr (Or.inr (Or.inl ⟨_, _,
            ⟨_, _, length, announces, ends, not_lt.mp few, not_lt.mp sign,
              rfl⟩, rfl⟩))

theorem bulkLacks_iff {text : List UInt8} :
    BulkLacks sizeBits text ↔ bulk sizeBits text = .null true := by
  refine ⟨bulk_of_lacks, fun ends => ?_⟩
  rcases @bulk_cases sizeBits text with
    ⟨-, broken | broken⟩ | ⟨lacks, -⟩ | ⟨value, rest, -, whole⟩ | nothing
  · cases ends.symm.trans broken
  · cases ends.symm.trans broken
  · exact lacks
  · cases ends.symm.trans whole
  · cases ends.symm.trans nothing

theorem bulkBreaks_iff {text : List UInt8} :
    BulkBreaks sizeBits text ↔
      bulk sizeBits text = .threw ∨ bulk sizeBits text = .overrun := by
  refine ⟨bulk_of_breaks, fun ends => ?_⟩
  rcases @bulk_cases sizeBits text with
    ⟨breaks, -⟩ | ⟨-, other⟩ | ⟨value, rest, -, other⟩ | other
  · exact breaks
  · simp [other] at ends
  · simp [other] at ends
  · simp [other] at ends

theorem bulkWhole_iff {text rest : List UInt8} :
    BulkWhole sizeBits text rest ↔
      ∃ value, bulk sizeBits text = .position value rest := by
  refine ⟨bulk_of_whole, fun ⟨value, ends⟩ => ?_⟩
  rcases @bulk_cases sizeBits text with
    ⟨-, broken | broken⟩ | ⟨-, lacks⟩ | ⟨other, behind, whole, same⟩ |
      nothing
  · cases ends.symm.trans broken
  · cases ends.symm.trans broken
  · cases ends.symm.trans lacks
  · cases ends.symm.trans same
    exact whole
  · cases ends.symm.trans nothing

/-! ## Lists -/

/-- How a handler ends that ends with a result of `Bulk`. -/
def BulkResult.status : BulkResult → Status
  | .position _ _ => .done
  | .null retry => if retry then .retry else .done
  | .threw => .threw
  | .overrun => .overrun

theorem bulkProcessing_status (text : List UInt8) (self : RedisConnector) :
    (bulkProcessing sizeBits text self).2 =
      (bulk sizeBits text).status := by
  rw [bulkProcessing]
  cases bulk sizeBits text <;> rfl

theorem identifierParseToString_eq_none_iff {text : List UInt8} :
    identifierParseToString text = none ↔
      strstr rcIdentifier text = none := by
  rw [identifierParseToString, Option.map_eq_none_iff]

theorem identifierParseToInt_eq_none_iff {text : List UInt8} :
    identifierParseToInt text = none ↔ strstr rcIdentifier text = none := by
  rw [identifierParseToInt, Option.map_eq_none_iff]

theorem endless_cons_iff {marker : UInt8} {text : List UInt8} :
    Endless (marker :: text) ↔
      marker ∈ [rcError, rcInline, rcMultiBulk, rcInt] ∧
        strstr rcIdentifier text = none := by
  constructor
  · rintro ⟨marker, text, same, listed, endless⟩
    cases same
    exact ⟨listed, endless⟩
  · rintro ⟨listed, endless⟩
    exact ⟨marker, text, rfl, listed, endless⟩

section

variable {found : List UInt8 → Prop} {goal : Status → Prop}

theorem elements_succ_iff {count : Nat} {text : List UInt8} :
    Elements sizeBits found (count + 1) text ↔
      found text ∨
        ∃ bulk rest, text = rcBulk :: bulk ∧ BulkWhole sizeBits bulk rest ∧
          Elements sizeBits found count rest := by
  constructor
  · rintro (holds | ⟨whole, later⟩)
    · exact Or.inl holds
    · exact Or.inr ⟨_, _, rfl, whole, later⟩
  · rintro (holds | ⟨bulk, rest, rfl, whole, later⟩)
    · exact .here holds
    · exact .behind whole later

theorem not_elements_of_ne
    (other : ∀ byte rest, byte ≠ rcBulk → ¬ found (byte :: rest))
    {count : Nat} {byte : UInt8} {rest : List UInt8}
    (unmarked : byte ≠ rcBulk) :
    ¬ Elements sizeBits found count (byte :: rest) := by
  intro elements
  cases elements with
  | here holds => exact other byte rest unmarked holds
  | behind whole later => exact unmarked rfl

theorem listHas_cons_iff {marker : UInt8} {text : List UInt8} :
    ListHas sizeBits found (marker :: text) ↔
      marker = rcMultiBulk ∧
        ∃ number behind, Announces text number behind ∧
          Elements sizeBits found number.toNat behind := by
  constructor
  · rintro ⟨text, number, behind, same, announces, elements⟩
    cases same
    exact ⟨rfl, number, behind, announces, elements⟩
  · rintro ⟨rfl, number, behind, announces, elements⟩
    exact ⟨text, number, behind, rfl, announces, elements⟩

theorem lineProcessing_status_iff {Value : Type}
    (notDone : ¬ goal .done)
    {parse : List UInt8 → Option (Option (Value × List UInt8))}
    {text : List UInt8}
    (ends : parse text = none ↔ strstr rcIdentifier text = none)
    (assign : Value → RedisConnector → RedisConnector)
    (self : RedisConnector) :
    goal (lineProcessing parse assign text self).2 ↔
      goal .overrun ∧ strstr rcIdentifier text = none := by
  rw [← ends, lineProcessing]
  rcases parse text with _ | _ | ⟨value, rest⟩ <;> simp [notDone]

variable (notDone : ¬ goal .done) (empty : found [] ↔ goal .overrun)
  (marked :
    ∀ rest, found (rcBulk :: rest) ↔ goal (bulk sizeBits rest).status)
  (other : ∀ byte rest, byte ≠ rcBulk → ¬ found (byte :: rest))

include notDone empty marked other

/-- How the loop over the elements ends. -/
theorem bulks_status_iff
    (count : Nat) (text : List UInt8) (values : List (List UInt8)) :
    goal (bulks sizeBits count text values).2 ↔
      Elements sizeBits found count text := by
  induction count generalizing text values with
  | zero =>
      rw [bulks]
      refine iff_of_false notDone ?_
      intro elements
      cases elements
  | succ count inductionHypothesis =>
      cases text with
      | nil =>
          rw [bulks, elements_succ_iff, empty]
          simp
      | cons byte rest =>
          by_cases marker : byte = rcBulk
          · subst marker
            rw [bulks, if_pos rfl, elements_succ_iff, marked]
            cases ends : bulk sizeBits rest with
            | position value behind =>
                simp [BulkResult.status, notDone, inductionHypothesis,
                  bulkWhole_iff, ends]
            | null retry =>
                simp [BulkResult.status, bulkWhole_iff, ends]
            | threw => simp [BulkResult.status, bulkWhole_iff, ends]
            | overrun => simp [BulkResult.status, bulkWhole_iff, ends]
          · rw [bulks, if_neg marker, inductionHypothesis]
            exact iff_of_false (not_elements_of_ne other marker)
              (not_elements_of_ne other marker)

/-! ## Handlers -/

theorem multiBulkProcessing_status_iff
    (text : List UInt8) (self : RedisConnector) :
    goal (multiBulkProcessing sizeBits text self).2 ↔
      (∃ number behind, Announces text number behind ∧
          Elements sizeBits found number.toNat behind) ∨
        (goal .overrun ∧ strstr rcIdentifier text = none) := by
  rw [multiBulkProcessing, identifierParseToInt]
  rcases line : strstr rcIdentifier text with _ | _ | position
  · simp [Announces, line]
  · simp [Announces, line, notDone]
  · simp [Announces, line, bulks_status_iff notDone empty marked other]

/-- How the handler ends on the memory. -/
theorem handlerStatus_iff (memory : List UInt8) :
    goal (handlerStatus sizeBits memory) ↔
      found memory ∨ ListHas sizeBits found memory ∨
        (goal .overrun ∧ Endless memory) := by
  cases memory with
  | nil =>
      have none : ¬ ListHas sizeBits found [] := by
        rintro ⟨text, number, behind, impossible, -⟩
        cases impossible
      have nothing : ¬ Endless [] := by
        rintro ⟨marker, text, impossible, -⟩
        cases impossible
      simp [handlerStatus, processing, empty, none, nothing]
  | cons marker text =>
      rw [endless_cons_iff, listHas_cons_iff, handlerStatus, processing,
        processFunc]
      split_ifs with error inline bulkString list integer
      · subst marker
        simp only [errorProcessing, lineProcessing_status_iff notDone
          identifierParseToString_eq_none_iff, other rcError text (by decide)]
        simp [show rcError ≠ rcMultiBulk by decide]
      · subst marker
        simp only [inlineProcessing, lineProcessing_status_iff notDone
          identifierParseToString_eq_none_iff,
          other rcInline text (by decide)]
        simp [show rcInline ≠ rcMultiBulk by decide]
      · subst marker
        rw [marked, ← bulkProcessing_status text ⟨[], [], [], [], 0⟩]
        simp [show rcBulk ≠ rcMultiBulk by decide,
          show rcBulk ∉ [rcError, rcInline, rcMultiBulk, rcInt] by decide]
      · subst marker
        simp only [multiBulkProcessing_status_iff notDone empty marked other,
          other rcMultiBulk text (by decide)]
        simp
      · subst marker
        simp only [intProcessing, lineProcessing_status_iff notDone
          identifierParseToInt_eq_none_iff, other rcInt text (by decide)]
        simp [show rcInt ≠ rcMultiBulk by decide]
      · simp [notDone, other marker text bulkString, error, inline, list,
          integer]

end

/-! ## What the status says about the memory -/

/-- A handler asks for more exactly where bytes are still to come. -/
theorem handlerStatus_eq_retry_iff {memory : List UInt8} :
    handlerStatus sizeBits memory = .retry ↔ Lacks sizeBits memory := by
  have status :=
    @handlerStatus_iff sizeBits (ElementLacks sizeBits) (· = .retry)
      (by decide) (by simp [ElementLacks]) ?_ ?_ memory
  · simpa [Lacks] using status
  · intro rest
    simp only [ElementLacks, List.cons.injEq, true_and, exists_eq_left',
      bulkLacks_iff]
    rcases bulk sizeBits rest with _ | ⟨retry⟩ | _ | _
    · simp [BulkResult.status]
    · cases retry <;> simp [BulkResult.status]
    · simp [BulkResult.status]
    · simp [BulkResult.status]
  · rintro byte rest unmarked ⟨text, same, -⟩
    exact unmarked (List.cons.inj same).1

/-- A handler throws or leaves the buffer exactly where this is described. -/
theorem handlerStatus_breaks_iff {memory : List UInt8} :
    (handlerStatus sizeBits memory = .threw ∨
        handlerStatus sizeBits memory = .overrun) ↔
      Breaks sizeBits memory := by
  have status :=
    @handlerStatus_iff sizeBits (ElementBreaks sizeBits)
      (fun status => status = .threw ∨ status = .overrun)
      (by decide) (by simp [ElementBreaks]) ?_ ?_ memory
  · simpa [Breaks] using status
  · intro rest
    simp only [ElementBreaks, List.cons.injEq, true_and, exists_eq_left',
      bulkBreaks_iff, List.cons_ne_nil, false_or]
    rcases bulk sizeBits rest with _ | ⟨retry⟩ | _ | _
    · simp [BulkResult.status]
    · cases retry <;> simp [BulkResult.status]
    · simp [BulkResult.status]
    · simp [BulkResult.status]
  · rintro byte rest unmarked (impossible | ⟨text, same, -⟩)
    · cases impossible
    · exact unmarked (List.cons.inj same).1

/-- Otherwise the handler is done or asks for more. -/
theorem not_breaks_iff {memory : List UInt8} :
    ¬ Breaks sizeBits memory ↔
      handlerStatus sizeBits memory = .done ∨
        handlerStatus sizeBits memory = .retry := by
  rw [← handlerStatus_breaks_iff]
  cases handlerStatus sizeBits memory <;> simp

end LibSklt.Db
