import LibSklt.Db.RedisHandlers
import LibSklt.Db.RedisRounds
import LibSklt.Foundation.Resp

/-!
# The Redis parser on a complete reply

A complete reply lies at the start of the buffer, with zeroes behind it.  The
handlers decode it if its lines hold no terminator, its number is an `int`,
none of its bulk strings is null, and, as soon as there is a bulk string, a
zero stands behind the reply.  `Paser` reports the reply only if it came in
one piece: once a handler asked for more, no handler takes that back.
-/

namespace LibSklt.Db

open LibSklt.Foundation.CString
open LibSklt.Foundation.Decimal
open LibSklt.Foundation.MachineWord
open LibSklt.Foundation.Resp

/-- The member for the kind of the reply holds the decoded value. -/
def Holds (connector : RedisConnector) : Reply → Prop
  | .error text => connector.error = text
  | .status text => connector.inline = text
  | .integer value => connector.int = value
  | .bulk content => connector.bulk = content.getD []
  | .multiBulk elements =>
      connector.multiBulk = (elements.getD []).map (·.getD [])

/-- The replies that the handlers can decode. -/
def Plain : Reply → Prop
  | .error text => (0 : UInt8) ∉ text
  | .status text => (0 : UInt8) ∉ text
  | .integer value => -2 ^ 31 ≤ value ∧ value < 2 ^ 31
  | .bulk content => content ≠ none
  | .multiBulk elements => none ∉ elements.getD []

/-- The bulk strings of a reply. -/
def bulkStrings : Reply → List (Option (List UInt8))
  | .bulk content => [content]
  | .multiBulk elements => elements.getD []
  | _ => []

/-- No content of the bulk strings holds a terminator. -/
def CleanContents (elements : List (Option (List UInt8))) : Prop :=
  ∀ content, some content ∈ elements → (0 : UInt8) ∉ content

/-! ## Lines -/

theorem zero_not_mem_crlf : (0 : UInt8) ∉ crlf := by
  decide

/-- The end of a line is found behind its text. -/
theorem strstr_line
    {text : List UInt8} (line : Line text) (clean : (0 : UInt8) ∉ text)
    (behind : List UInt8) :
    strstr rcIdentifier (text ++ (crlf ++ behind)) =
      some (some text.length) := by
  refine @strstr_behind 13 [10] text ?_ behind
  intro byte member
  refine ⟨?_, (line byte member).1⟩
  rintro rfl
  exact clean member

/-- A terminator in the text hides the end of the line. -/
theorem strstr_line_of_zero
    {text : List UInt8} (line : Line text) (dirty : (0 : UInt8) ∈ text)
    (behind : List UInt8) :
    strstr rcIdentifier (text ++ behind) = some none := by
  obtain ⟨before, after, split, first⟩ :=
    List.eq_append_cons_of_mem dirty
  rw [split, List.append_assoc, List.cons_append]
  refine @strstr_terminated 13 [10] before (by decide) ?_ (after ++ behind)
  intro byte member
  refine ⟨?_, (line byte (split ▸ List.mem_append_left _ member)).1⟩
  rintro rfl
  exact first member

/-- A numeral is the text of a line. -/
theorem Numeral.line
    {value : Int} {number : List UInt8} (numeral : Numeral value number) :
    Line number ∧ (0 : UInt8) ∉ number := by
  have printable := numeral.printable
  constructor
  · intro byte member
    constructor
    · rintro rfl
      exact absurd (printable _ member) (by decide)
    · rintro rfl
      exact absurd (printable _ member) (by decide)
  · intro member
    exact absurd (printable _ member) (by decide)

theorem strstr_numeral
    {value : Int} {number : List UInt8} (numeral : Numeral value number)
    (behind : List UInt8) :
    strstr rcIdentifier (number ++ (crlf ++ behind)) =
      some (some number.length) :=
  strstr_line (Numeral.line numeral).1 (Numeral.line numeral).2 behind

/-- The number on a line. -/
theorem identifierParseToInt_numeral
    {value : Int} {number : List UInt8} (numeral : Numeral value number)
    (behind : List UInt8) :
    identifierParseToInt (number ++ (crlf ++ behind)) =
      some (some (saturate value, crlf ++ behind)) := by
  rw [identifierParseToInt, strstr_numeral numeral]
  simp [atoi_numeral numeral]

/-! ## Bulk strings -/

section

variable {sizeBits : Nat}

theorem bulk_numeral
    {value : Int} {number : List UInt8} (numeral : Numeral value number)
    (behind : List UInt8) :
    bulk sizeBits (number ++ (crlf ++ behind)) =
      bulkContent sizeBits (saturate value) behind := by
  rw [bulk, identifierParseToInt_numeral numeral]
  rfl

/-- A bulk string in front of further memory with a terminator. -/
theorem bulkContent_of_terminated
    (wide : 32 ≤ sizeBits) {content behind : List UInt8}
    (clean : (0 : UInt8) ∉ content) (small : content.length < 2 ^ 31)
    (terminated : (0 : UInt8) ∈ behind) :
    bulkContent sizeBits content.length (content ++ (crlf ++ behind)) =
      .position content behind := by
  obtain ⟨length, measured⟩ :
      ∃ length, strlen behind = some length := by
    rw [← Option.ne_none_iff_exists', Ne, strlen_eq_none_iff, not_not]
    exact terminated
  have total :
      strlen (content ++ (crlf ++ behind)) =
        some (content.length + (crlf.length + length)) := by
    rw [strlen_clean_append clean, strlen_clean_append zero_not_mem_crlf,
      measured]
    rfl
  have enough :=
    addWord_bodyLength wide (Int.natCast_nonneg content.length)
      (by exact_mod_cast small)
  have same : rcIdentifier.length = crlf.length := rfl
  rw [bulkContent, total]
  simp only [enough, Int.toNat_natCast]
  rw [if_neg (by omega), if_neg (by omega), same,
    ← List.drop_drop, List.take_left, List.drop_left, List.drop_left]

/-- The results of `Bulk` with which a handler does not end. -/
def BulkResult.Fails (result : BulkResult) : Prop :=
  result = .overrun ∨ result = .null true ∨ result = .threw

/-- The announced length `-1` never gives a value. -/
theorem bulkContent_of_null (content : List UInt8) :
    (bulkContent sizeBits (-1) content).Fails := by
  rw [BulkResult.Fails, bulkContent]
  cases strlen content with
  | none => exact Or.inl rfl
  | some length =>
      right
      simp only
      split
      · exact Or.inl rfl
      · exact Or.inr rfl

/-- A terminator in the content, or none behind it. -/
theorem bulkContent_fails
    (wide : 32 ≤ sizeBits) {content behind : List UInt8}
    (small : content.length < 2 ^ 31)
    (unclean : (0 : UInt8) ∈ content ∨ (0 : UInt8) ∉ behind) :
    (bulkContent sizeBits content.length
      (content ++ (crlf ++ behind))).Fails := by
  by_cases dirty : (0 : UInt8) ∈ content
  · obtain ⟨length, measured⟩ : ∃ length, strlen content = some length := by
      rw [← Option.ne_none_iff_exists', Ne, strlen_eq_none_iff, not_not]
      exact dirty
    have terminator := zero_mem_drop_of_strlen measured (Nat.le_refl _)
    have short : length < content.length := by
      by_contra long
      rw [List.drop_of_length_le (not_lt.mp long)] at terminator
      simp at terminator
    have enough :=
      addWord_bodyLength wide (Int.natCast_nonneg content.length)
        (by exact_mod_cast small)
    right
    left
    rw [bulkContent, strlen_append measured]
    simp only [enough, Int.toNat_natCast]
    rw [if_pos (by omega)]
  · left
    rw [bulkContent_eq_overrun_iff, List.mem_append, List.mem_append,
      not_or, not_or]
    exact ⟨dirty, zero_not_mem_crlf, unclean.resolve_left dirty⟩

/-- The bytes of a bulk string in front of further memory. -/
theorem bulk_encodes
    (wide : 32 ≤ sizeBits) {element : Option (List UInt8)}
    {bytes : List UInt8} (encodes : EncodesBulk element bytes)
    (small : bytes.length < 2 ^ 31) (behind : List UInt8) :
    (∃ content, element = some content ∧ (0 : UInt8) ∉ content ∧
        (0 : UInt8) ∈ behind ∧
          bulk sizeBits (bytes ++ behind) = .position content behind) ∨
      ((element = none ∨ (0 : UInt8) ∉ behind ∨
          ∃ content, element = some content ∧ (0 : UInt8) ∈ content) ∧
        (bulk sizeBits (bytes ++ behind)).Fails) := by
  cases encodes with
  | null numeral =>
      right
      rw [List.append_assoc, bulk_numeral numeral]
      exact ⟨Or.inl rfl, bulkContent_of_null _⟩
  | @string content number numeral =>
      have length : content.length < 2 ^ 31 := by
        simp only [List.length_append] at small
        omega
      have exact' : saturate content.length = content.length := by
        rw [saturate_eq_iff]
        omega
      simp only [List.append_assoc]
      rw [bulk_numeral numeral, exact']
      by_cases clean : (0 : UInt8) ∉ content ∧ (0 : UInt8) ∈ behind
      · left
        exact ⟨content, rfl, clean.1, clean.2,
          bulkContent_of_terminated wide clean.1 length clean.2⟩
      · right
        rw [not_and_or, not_not] at clean
        refine ⟨?_, bulkContent_fails wide length clean⟩
        rcases clean with dirty | unterminated
        · exact Or.inr (Or.inr ⟨content, rfl, dirty⟩)
        · exact Or.inr (Or.inl unterminated)

/-- Bulk strings that the handlers can decode in front of further memory. -/
structure Decodable (elements : List (Option (List UInt8)))
    (behind : List UInt8) : Prop where
  present : none ∉ elements
  clean : CleanContents elements
  terminated : elements ≠ [] → (0 : UInt8) ∈ behind

theorem decodable_cons_iff
    {element : Option (List UInt8)}
    {elements : List (Option (List UInt8))} {rest : List UInt8}
    (encodes : EncodesElements elements rest) (behind : List UInt8) :
    Decodable (element :: elements) behind ↔
      (element ≠ none ∧
        (∀ content, element = some content → (0 : UInt8) ∉ content) ∧
          (0 : UInt8) ∈ rest ++ behind) ∧ Decodable elements behind := by
  constructor
  · intro decodable
    have terminated := decodable.terminated (List.cons_ne_nil _ _)
    refine ⟨⟨?_, ?_, List.mem_append_right _ terminated⟩, ?_, ?_, ?_⟩
    · rintro rfl
      exact decodable.present List.mem_cons_self
    · rintro content rfl
      exact decodable.clean content List.mem_cons_self
    · intro null
      exact decodable.present (List.mem_cons_of_mem _ null)
    · intro content member
      exact decodable.clean content (List.mem_cons_of_mem _ member)
    · intro _
      exact terminated
  · rintro ⟨⟨present, clean, terminated⟩, decodable⟩
    refine ⟨?_, ?_, ?_⟩
    · rw [List.mem_cons, not_or]
      exact ⟨Ne.symm present, decodable.present⟩
    · intro content member
      rcases List.mem_cons.mp member with first | later
      · exact clean content first.symm
      · exact decodable.clean content later
    · intro _
      cases encodes with
      | nil => simpa using terminated
      | cons => exact decodable.terminated (List.cons_ne_nil _ _)

/-- The handler of a list finds all elements, or does not end. -/
theorem bulks_encodes
    (wide : 32 ≤ sizeBits) {elements : List (Option (List UInt8))}
    {bytes : List UInt8} (encodes : EncodesElements elements bytes)
    (small : bytes.length < 2 ^ 31) (behind : List UInt8)
    (values : List (List UInt8)) :
    (Decodable elements behind ∧
        bulks sizeBits elements.length (bytes ++ behind) values =
          (values ++ elements.map (·.getD []), .done)) ∨
      (¬ Decodable elements behind ∧
        (bulks sizeBits elements.length (bytes ++ behind) values).2 ≠
          .done) := by
  induction encodes generalizing values with
  | nil =>
      left
      refine ⟨⟨by simp, ?_, by simp⟩, by simp [bulks]⟩
      intro content member
      simp at member
  | @cons element elements first rest head tail inductionHypothesis =>
      simp only [List.cons_append, List.length_cons, List.length_append]
        at small
      have marker : (36 : UInt8) = rcBulk := rfl
      rw [List.length_cons, List.cons_append, List.cons_append, bulks,
        if_pos marker, List.append_assoc, decodable_cons_iff tail]
      rcases bulk_encodes wide head (by omega) (rest ++ behind) with
        ⟨content, rfl, clean, terminated, found⟩ | ⟨missing, fails⟩
      · rw [found]
        have here :
            some content ≠ none ∧
              (∀ other, some content = some other → (0 : UInt8) ∉ other) ∧
                (0 : UInt8) ∈ rest ++ behind := by
          refine ⟨by simp, ?_, terminated⟩
          rintro other ⟨⟩
          exact clean
        rcases inductionHypothesis (by omega) (values ++ [content]) with
          ⟨decodable, equal⟩ | ⟨undecodable, unfinished⟩
        · left
          refine ⟨⟨here, decodable⟩, equal.trans ?_⟩
          simp
        · right
          exact ⟨fun both => undecodable both.2, unfinished⟩
      · right
        constructor
        · rintro ⟨⟨present, clean, terminated⟩, -⟩
          rcases missing with null | unterminated | ⟨content, some', dirty⟩
          · exact present null
          · exact unterminated terminated
          · exact clean content some' dirty
        · rcases fails with result | result | result
          · simp [result]
          · simp [result]
          · simp [result]

/-! ## The handlers on a reply -/

/-- The handlers of texts decode lines without a terminator. -/
theorem lineProcessing_text
    (assign : List UInt8 → RedisConnector → RedisConnector)
    {text : List UInt8} (line : Line text) (behind : List UInt8)
    (self : RedisConnector) :
    lineProcessing identifierParseToString assign
        (text ++ (crlf ++ behind)) self =
      (if (0 : UInt8) ∈ text then self else assign text self, .done) := by
  rw [lineProcessing, identifierParseToString]
  split_ifs with dirty
  · rw [strstr_line_of_zero line dirty]
    rfl
  · rw [strstr_line line dirty]
    simp

theorem intProcessing_numeral
    {value : Int} {number : List UInt8} (numeral : Numeral value number)
    (behind : List UInt8) (self : RedisConnector) :
    intProcessing (number ++ (crlf ++ behind)) self =
      ({ self with int := saturate value }, .done) := by
  rw [intProcessing, lineProcessing, identifierParseToInt_numeral numeral]

theorem multiBulkProcessing_numeral
    {value : Int} {number : List UInt8} (numeral : Numeral value number)
    (behind : List UInt8) (self : RedisConnector) :
    multiBulkProcessing sizeBits (number ++ (crlf ++ behind)) self =
      ({ self with
          multiBulk :=
            (bulks sizeBits (saturate value).toNat behind []).1 },
        (bulks sizeBits (saturate value).toNat behind []).2) := by
  rw [multiBulkProcessing, identifierParseToInt_numeral numeral]
  rfl

theorem decodable_nil (behind : List UInt8) : Decodable [] behind where
  present := List.not_mem_nil
  clean := by
    intro content member
    simp at member
  terminated := by simp

/-- The elements of a list are not more than its bytes. -/
theorem length_elements_le
    {elements : List (Option (List UInt8))} {bytes : List UInt8}
    (encodes : EncodesElements elements bytes) :
    elements.length ≤ bytes.length := by
  induction encodes with
  | nil => exact Nat.le_refl _
  | cons head tail inductionHypothesis =>
      simp only [List.cons_append, List.length_cons, List.length_append]
      omega

theorem bulkProcessing_encodes_iff
    (wide : 32 ≤ sizeBits) {content : Option (List UInt8)}
    {bytes : List UInt8} (encodes : EncodesBulk content bytes)
    (small : bytes.length < 2 ^ 31) (behind : List UInt8)
    (self : RedisConnector) :
    (∃ connector,
      bulkProcessing sizeBits (bytes ++ behind) self = (connector, .done) ∧
        connector.bulk = content.getD []) ↔ Decodable [content] behind := by
  rw [decodable_cons_iff EncodesElements.nil, List.nil_append,
    bulkProcessing]
  rcases bulk_encodes wide encodes small behind with
    ⟨value, rfl, clean, terminated, found⟩ | ⟨missing, fails⟩
  · rw [found]
    refine ⟨fun _ => ?_, fun _ => ⟨{ self with bulk := value }, rfl, rfl⟩⟩
    refine ⟨⟨by simp, ?_, terminated⟩, decodable_nil _⟩
    rintro other ⟨⟩
    exact clean
  · constructor
    · rintro ⟨connector, equal, -⟩
      rcases fails with result | result | result
      · simp [result] at equal
      · simp [result] at equal
      · simp [result] at equal
    · rintro ⟨⟨present, clean, terminated⟩, -⟩
      rcases missing with null | unterminated | ⟨value, some', dirty⟩
      · exact absurd null present
      · exact absurd terminated unterminated
      · exact absurd dirty (clean value some')

theorem multiBulkProcessing_encodes_iff
    (wide : 32 ≤ sizeBits) {elements : List (Option (List UInt8))}
    {number bytes : List UInt8}
    (numeral : Numeral elements.length number)
    (encodes : EncodesElements elements bytes)
    (small : bytes.length < 2 ^ 31) (behind : List UInt8)
    (self : RedisConnector) :
    (∃ connector,
      multiBulkProcessing sizeBits
          (number ++ (crlf ++ (bytes ++ behind))) self =
            (connector, .done) ∧
        connector.multiBulk = elements.map (·.getD [])) ↔
      Decodable elements behind := by
  have count : (saturate elements.length).toNat = elements.length := by
    have bounded := length_elements_le encodes
    rw [(saturate_eq_iff _).mpr (by omega), Int.toNat_natCast]
  rw [multiBulkProcessing_numeral numeral, count]
  rcases bulks_encodes wide encodes small behind [] with
    ⟨decodable, found⟩ | ⟨undecodable, unfinished⟩
  · refine ⟨fun _ => decodable, fun _ => ?_⟩
    refine ⟨{ self with multiBulk := elements.map (·.getD []) }, ?_, rfl⟩
    rw [found, List.nil_append]
  · constructor
    · rintro ⟨connector, equal, -⟩
      exact absurd (congrArg Prod.snd equal) unfinished
    · intro decodable
      exact absurd decodable undecodable

theorem Plain.present {reply : Reply} (plain : Plain reply) :
    none ∉ bulkStrings reply := by
  cases reply with
  | error => exact List.not_mem_nil
  | status => exact List.not_mem_nil
  | integer => exact List.not_mem_nil
  | bulk content =>
      rw [bulkStrings, List.mem_singleton]
      exact Ne.symm plain
  | multiBulk elements => exact plain

/-- The handler of a reply that can be decoded. -/
theorem processing_of_decodable
    (wide : 32 ≤ sizeBits) {reply : Reply} {bytes : List UInt8}
    (encodes : Encodes reply bytes) (small : bytes.length < 2 ^ 31)
    {behind : List UInt8} (plain : Plain reply)
    (decodable : Decodable (bulkStrings reply) behind)
    (self : RedisConnector) :
    ∃ connector,
      processing sizeBits (bytes ++ behind) self = (connector, .done) ∧
        Holds connector reply := by
  cases encodes with
  | @error text line =>
      refine ⟨{ self with error := text }, ?_, rfl⟩
      have read :=
        lineProcessing_text (fun value self => { self with error := value })
          line behind self
      rw [if_neg plain] at read
      rw [List.append_assoc]
      exact read
  | @status text line =>
      refine ⟨{ self with inline := text }, ?_, rfl⟩
      have read :=
        lineProcessing_text (fun value self => { self with inline := value })
          line behind self
      rw [if_neg plain] at read
      rw [List.append_assoc]
      exact read
  | @integer value number numeral =>
      refine ⟨{ self with int := saturate value }, ?_,
        (saturate_eq_iff value).mpr plain⟩
      rw [List.append_assoc]
      exact intProcessing_numeral numeral behind self
  | @bulk content bytes encodes =>
      exact (bulkProcessing_encodes_iff wide encodes
        (Nat.lt_of_succ_lt small) behind self).mpr decodable
  | @nullMultiBulk number numeral =>
      refine ⟨{ self with multiBulk := [] }, ?_, rfl⟩
      rw [List.append_assoc]
      exact multiBulkProcessing_numeral numeral behind self
  | @multiBulk elements number bytes numeral encodes =>
      simp only [List.cons_append, List.length_cons, List.length_append]
        at small
      simp only [List.cons_append, List.append_assoc]
      exact (multiBulkProcessing_encodes_iff wide numeral encodes
        (by omega) behind self).mpr decodable

/--
A handler that ends with the decoded value in its member, where this was not
the value before, was given a reply that it can decode.
-/
theorem decodable_of_processing
    (wide : 32 ≤ sizeBits) {reply : Reply} {bytes : List UInt8}
    (encodes : Encodes reply bytes) (small : bytes.length < 2 ^ 31)
    {behind : List UInt8} {connector : RedisConnector}
    (processed :
      processing sizeBits (bytes ++ behind) ⟨[], [], [], [], 0⟩ =
        (connector, .done))
    (holds : Holds connector reply) :
    Plain reply ∧ Decodable (bulkStrings reply) behind := by
  cases encodes with
  | @error text line =>
      refine ⟨fun dirty => ?_, decodable_nil _⟩
      have read :=
        lineProcessing_text (fun value self => { self with error := value })
          line behind ⟨[], [], [], [], 0⟩
      rw [if_pos dirty] at read
      rw [List.append_assoc] at processed
      cases processed.symm.trans read
      cases holds
      simp at dirty
  | @status text line =>
      refine ⟨fun dirty => ?_, decodable_nil _⟩
      have read :=
        lineProcessing_text (fun value self => { self with inline := value })
          line behind ⟨[], [], [], [], 0⟩
      rw [if_pos dirty] at read
      rw [List.append_assoc] at processed
      cases processed.symm.trans read
      cases holds
      simp at dirty
  | @integer value number numeral =>
      have read := intProcessing_numeral numeral behind ⟨[], [], [], [], 0⟩
      rw [List.append_assoc] at processed
      cases processed.symm.trans read
      exact ⟨(saturate_eq_iff value).mp holds, decodable_nil _⟩
  | @bulk content bytes encodes =>
      have decodable :=
        (bulkProcessing_encodes_iff wide encodes (Nat.lt_of_succ_lt small)
          behind _).mp ⟨connector, processed, holds⟩
      exact ⟨fun null => decodable.present (null ▸ List.mem_cons_self),
        decodable⟩
  | nullMultiBulk => exact ⟨List.not_mem_nil, decodable_nil _⟩
  | @multiBulk elements number bytes numeral encodes =>
      simp only [List.cons_append, List.length_cons, List.length_append]
        at small
      simp only [List.cons_append, List.append_assoc] at processed
      have decodable :=
        (multiBulkProcessing_encodes_iff wide numeral encodes (by omega)
          behind _).mp ⟨connector, processed, holds⟩
      exact ⟨decodable.present, decodable⟩

/--
The handler of a complete reply ends with the decoded value in its member,
whatever the members were, exactly for the replies that it can decode.
-/
theorem processing_encodes_iff
    (wide : 32 ≤ sizeBits) {reply : Reply} {bytes : List UInt8}
    (encodes : Encodes reply bytes) (small : bytes.length < 2 ^ 31)
    (behind : List UInt8) :
    (∀ self, ∃ connector,
      processing sizeBits (bytes ++ behind) self = (connector, .done) ∧
        Holds connector reply) ↔
      Plain reply ∧ Decodable (bulkStrings reply) behind := by
  constructor
  · intro decodes
    obtain ⟨connector, processed, holds⟩ := decodes ⟨[], [], [], [], 0⟩
    exact decodable_of_processing wide encodes small processed holds
  · rintro ⟨plain, decodable⟩ self
    exact processing_of_decodable wide encodes small plain decodable self

end

/-! ## A reply in chunks -/

/-- The first chunk at the start of the buffer. -/
theorem store_zero
    {buffer bytes : List UInt8} (fits : bytes.length ≤ buffer.length) :
    store buffer 0 bytes = some (bytes ++ buffer.drop bytes.length) := by
  rw [store]
  split_ifs with empty fits'
  · rw [empty]
    rfl
  · rw [Nat.zero_add, List.take_zero, List.nil_append]
  · omega

/-- A call that succeeds with its first result. -/
theorem paser_eq_returned_iff
    {sizeBits : Nat} {self connector : RedisConnector}
    {buffer bytes : List UInt8} {calls : Nat}
    (positive : 0 < bytes.length) (fits : bytes.length ≤ buffer.length)
    (results : List RecvResult) :
    paser sizeBits self buffer (.received bytes :: results) =
        (.returned true connector, calls) ↔
      calls = 1 ∧
        processing sizeBits (bytes ++ buffer.drop bytes.length) self =
          (connector, .done) := by
  rw [paser, paserLoop_eq_returned_iff]
  simp only [RecvResult.bytes, store_zero fits, Option.some.injEq,
    exists_eq_left']
  exact ⟨fun ended => ended.2.2, fun ended => ⟨positive, trivial, ended⟩⟩

/--
`Paser` returns `true` after exactly the calls of `recv` that bring the reply,
with the decoded value in its member, if and only if the reply comes in one
piece, the handlers can decode it, and a zero stands behind its bulk strings.
-/
theorem paser_decodes_reply_iff
    {sizeBits size : Nat} (wide : 32 ≤ sizeBits)
    {reply : Reply} {bytes : List UInt8} {chunks : List (List UInt8)}
    (encodes : Encodes reply bytes)
    (clean : CleanContents (bulkStrings reply))
    (split : chunks.flatten = bytes)
    (received : ∀ chunk ∈ chunks, 0 < chunk.length ∧ chunk.length < 2 ^ 31)
    (fits : bytes.length ≤ size) :
    (∀ self, ∃ connector,
      paser sizeBits self (List.replicate size 0)
          (chunks.map .received) =
        (.returned true connector, chunks.length) ∧
          Holds connector reply) ↔
      chunks = [bytes] ∧ Plain reply ∧
        (bulkStrings reply ≠ [] → bytes.length < size) := by
  cases chunks with
  | nil =>
      constructor
      · intro decodes
        obtain ⟨connector, equal, -⟩ := decodes ⟨[], [], [], [], 0⟩
        simp [paser, paserLoop] at equal
      · rintro ⟨impossible, -⟩
        simp at impossible
  | cons chunk chunks =>
      obtain ⟨positive, small⟩ := received chunk List.mem_cons_self
      have total : chunk.length + chunks.flatten.length = bytes.length := by
        rw [← split, List.flatten_cons, List.length_append]
      have single :=
        fun self connector =>
          @paser_eq_returned_iff sizeBits self connector
            (List.replicate size 0) chunk (chunks.length + 1) positive
            (by simp; omega) (chunks.map .received)
      simp only [List.map_cons, List.length_cons, single,
        List.drop_replicate]
      cases chunks with
      | nil =>
          have whole : chunk = bytes := by simpa using split
          subst chunk
          simp only [List.length_nil, Nat.zero_add, true_and]
          rw [processing_encodes_iff wide encodes small]
          refine and_congr_right fun plain => ?_
          constructor
          · intro decodable bulks
            have terminated := decodable.terminated bulks
            rw [List.mem_replicate] at terminated
            omega
          · intro room
            refine ⟨plain.present, clean, fun bulks => ?_⟩
            rw [List.mem_replicate]
            have spare := room bulks
            exact ⟨by omega, rfl⟩
      | cons second chunks =>
          constructor
          · intro decodes
            obtain ⟨connector, ⟨once, -⟩, -⟩ := decodes ⟨[], [], [], [], 0⟩
            rw [List.length_cons] at once
            omega
          · rintro ⟨whole, -⟩
            simp at whole

/-- The bulk string `ok`. -/
theorem encodes_ok :
    Encodes (.bulk (some [111, 107]))
      [36, 50, 13, 10, 111, 107, 13, 10] := by
  have two : scanDigits 0 [50] = 2 := by decide
  have digits : Digits [50] :=
    ⟨by simp, List.forall_mem_singleton.mpr rfl⟩
  have numeral := Numeral.plain digits
  rw [two] at numeral
  exact .bulk (@EncodesBulk.string [111, 107] [50] numeral)

theorem cleanContents_ok :
    CleanContents (bulkStrings (.bulk (some [111, 107]))) := by
  intro content member
  have same : content = [111, 107] := by simpa [bulkStrings] using member
  rw [same]
  decide

/-- The bulk string `ok` in one piece, with room for a terminator. -/
theorem paser_decodes_reply_whole :
    ∃ connector,
      paser 32 ⟨[], [], [], [], 0⟩ (List.replicate 16 0)
          [.received [36, 50, 13, 10, 111, 107, 13, 10]] =
        (.returned true connector, 1) ∧
          Holds connector (.bulk (some [111, 107])) := by
  have received :
      ∀ chunk : List UInt8, chunk ∈ [[36, 50, 13, 10, 111, 107, 13, 10]] →
        0 < chunk.length ∧ chunk.length < 2 ^ 31 := by
    decide
  have fits : [36, 50, 13, 10, 111, 107, 13, 10].length ≤ 16 := by
    decide
  exact (paser_decodes_reply_iff (by decide) encodes_ok cleanContents_ok
    rfl received fits).mpr ⟨rfl, by simp [Plain], by decide⟩
    ⟨[], [], [], [], 0⟩

/-- The bulk string `ok` in two pieces: `Paser` waits for a third one. -/
theorem paser_waits_after_split_reply :
    ¬ ∀ (reply : Reply) (bytes : List UInt8) (chunks : List (List UInt8)),
      Encodes reply bytes → CleanContents (bulkStrings reply) →
        chunks.flatten = bytes → (∀ chunk ∈ chunks, 0 < chunk.length) →
          ∀ self, ∃ connector,
            paser 32 self (List.replicate (bytes.length + 1) 0)
                (chunks.map .received) =
              (.returned true connector, chunks.length) ∧
                Holds connector reply := by
  intro decodes
  obtain ⟨connector, equal, -⟩ :=
    decodes _ _ [[36, 50, 13, 10, 111], [107, 13, 10]] encodes_ok
      cleanContents_ok rfl (by decide) ⟨[], [], [], [], 0⟩
  have waits :
      paser 32 ⟨[], [], [], [], 0⟩ (List.replicate 9 0)
          [.received [36, 50, 13, 10, 111], .received [107, 13, 10]] =
        (.waiting ⟨[], [], [111, 107], [], 0⟩, 2) := by
    decide
  have ended := waits.symm.trans equal
  simp at ended

end LibSklt.Db
