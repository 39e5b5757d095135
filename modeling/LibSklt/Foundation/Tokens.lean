import LibSklt.Foundation.Separated

/-!
# The tokens of a text in a language like C

A text is scanned one character after the other.  `scan` has the mode in
which a piece of a text is entered and the one in which it is left, so that
the tokens of a text are those of its pieces, one piece after the other.
Comments run from two slashes to the end of the line.
-/

namespace LibSklt.Foundation.Tokens

open LibSklt.Foundation.Separated

inductive Token where
  /-- A name or a number. -/
  | word (text : String)
  /-- Any other character. -/
  | mark (char : Char)
  /-- What stands between quotes. -/
  | quoted (text : String)
deriving DecidableEq

/-- What the scanner is in the middle of. -/
inductive Mode where
  | code
  | word (chars : List Char)
  | slash
  | comment
  | quoted (chars : List Char)
  | escape (chars : List Char)
deriving DecidableEq

/-- The characters of names and numbers. -/
def isWordChar (char : Char) : Bool :=
  char.isAlphanum || char == '_'

/-- A character that begins something new. -/
def scanFresh (char : Char) : List Token × Mode :=
  if isWordChar char then
    ([], .word [char])
  else if char.isWhitespace then
    ([], .code)
  else if char = '/' then
    ([], .slash)
  else if char = '"' then
    ([], .quoted [])
  else
    ([.mark char], .code)

/-- One character: the tokens that end with it, and the mode behind it. -/
def scanChar (mode : Mode) (char : Char) : List Token × Mode :=
  match mode with
  | .code => scanFresh char
  | .word chars =>
      if isWordChar char then
        ([], .word (chars ++ [char]))
      else
        (.word (String.ofList chars) :: (scanFresh char).1,
          (scanFresh char).2)
  | .slash =>
      if char = '/' then
        ([], .comment)
      else
        (.mark '/' :: (scanFresh char).1, (scanFresh char).2)
  | .comment => if char = '\n' then ([], .code) else ([], .comment)
  | .quoted chars =>
      if char = '"' then
        ([.quoted (String.ofList chars)], .code)
      else if char = '\\' then
        ([], .escape chars)
      else
        ([], .quoted (chars ++ [char]))
  | .escape chars => ([], .quoted (chars ++ ['\\', char]))

/-- The characters of a text, one after the other. -/
def scan (mode : Mode) : List Char → List Token × Mode
  | [] => ([], mode)
  | char :: chars =>
      let (first, next) := scanChar mode char
      let (later, last) := scan next chars
      (first ++ later, last)

/-- What the end of a text completes. -/
def Mode.finish : Mode → List Token
  | .word chars => [.word (String.ofList chars)]
  | .slash => [.mark '/']
  | _ => []

/-- The tokens of a text. -/
@[irreducible]
def tokens (text : String) : List Token :=
  (scan .code text.toList).1 ++ (scan .code text.toList).2.finish

/-- A piece of a text, with its tokens and the modes around it. -/
def Scans (before : Mode) (piece : String) (found : List Token)
    (after : Mode) : Prop :=
  scan before piece.toList = (found, after)

section

variable {before middle after : Mode} {first second piece name : String}
  {found later : List Token}

theorem scan_append (mode : Mode) (first second : List Char) :
    scan mode (first ++ second) =
      ((scan mode first).1 ++ (scan (scan mode first).2 second).1,
        (scan (scan mode first).2 second).2) := by
  induction first generalizing mode with
  | nil => rfl
  | cons char chars inductionHypothesis =>
      simp only [List.cons_append, scan, inductionHypothesis,
        List.append_assoc]

theorem Scans.append
    (left : Scans before first found middle)
    (right : Scans middle second later after) :
    Scans before (first ++ second) (found ++ later) after := by
  rw [Scans, String.toList_append, scan_append, left, right]

/-- A fixed piece; its characters are found by unification. -/
theorem scans_chars (chars : List Char)
    (spelled : piece = String.ofList chars)
    (scanned : scan before chars = (found, after)) :
    Scans before piece found after := by
  rw [Scans, spelled, String.toList_ofList, scanned]

/-- A fixed piece whose last tokens are those of another text. -/
theorem scans_led (lead : List Token) {text : String}
    (chars fixed : List Char)
    (spelled : piece = String.ofList chars)
    (textSpelled : text = String.ofList fixed)
    (scanned :
      scan before chars =
        (lead ++ ((scan .code fixed).1 ++ (scan .code fixed).2.finish),
          after)) :
    Scans before piece (lead ++ tokens text) after := by
  refine scans_chars chars spelled ?_
  rw [tokens, textSpelled, String.toList_ofList, scanned]

/-- A fixed piece that differs from another text in its spacing only. -/
theorem scans_fixed {text : String} (chars fixed : List Char)
    (spelled : piece = String.ofList chars)
    (textSpelled : text = String.ofList fixed)
    (scanned :
      scan before chars =
        ((scan .code fixed).1 ++ (scan .code fixed).2.finish, after)) :
    Scans before piece (tokens text) after :=
  scans_led [] chars fixed spelled textSpelled scanned

/-- The tokens of a fixed text. -/
theorem tokens_chars (chars : List Char)
    (spelled : piece = String.ofList chars)
    (scanned : scan .code chars = (found, after)) :
    tokens piece = found ++ after.finish := by
  rw [tokens, spelled, String.toList_ofList, scanned]

theorem tokens_of_scans (whole : Scans .code piece found .code) :
    tokens piece = found := by
  rw [tokens, whole]
  exact List.append_nil found

/-! ## Names -/

/-- Names and numbers. -/
structure Identifier (name : String) : Prop where
  nonempty : name.toList ≠ []
  wordChars : ∀ char ∈ name.toList, isWordChar char = true

theorem wordChars_chars (chars : List Char)
    (spelled : name = String.ofList chars)
    (wordChars : chars.all isWordChar = true) :
    ∀ char ∈ name.toList, isWordChar char = true := by
  rw [spelled, String.toList_ofList]
  exact List.all_eq_true.mp wordChars

theorem identifier_chars (chars : List Char)
    (spelled : name = String.ofList chars) (nonempty : chars ≠ [])
    (wordChars : chars.all isWordChar = true) : Identifier name where
  nonempty := by rwa [spelled, String.toList_ofList]
  wordChars := wordChars_chars chars spelled wordChars

theorem Identifier.append
    (left : Identifier first)
    (right : ∀ char ∈ second.toList, isWordChar char = true) :
    Identifier (first ++ second) where
  nonempty := by
    rw [String.toList_append]
    exact List.append_ne_nil_of_left_ne_nil left.nonempty _
  wordChars := by
    rw [String.toList_append]
    intro char member
    rcases List.mem_append.mp member with inFirst | inSecond
    · exact left.wordChars char inFirst
    · exact right char inSecond

/-- A piece that does not go on with a name before it. -/
def Boundary (piece : String) : Prop :=
  (piece.toList.head?.any fun char => !isWordChar char) = true

theorem Boundary.exists_cons (boundary : Boundary piece) :
    ∃ char chars, piece.toList = char :: chars ∧ isWordChar char = false := by
  rw [Boundary] at boundary
  cases letters : piece.toList with
  | nil => simp [letters] at boundary
  | cons char chars =>
      refine ⟨char, chars, rfl, ?_⟩
      simpa [letters] using boundary

theorem Boundary.append (boundary : Boundary first) (second : String) :
    Boundary (first ++ second) := by
  obtain ⟨char, chars, starts, outside⟩ := boundary.exists_cons
  rw [Boundary, String.toList_append, starts, List.cons_append,
    List.head?_cons, Option.any_some, outside]
  rfl

/-- A fixed piece; its characters are found by unification. -/
theorem boundary_chars (char : Char) (chars : List Char)
    (spelled : piece = String.ofList (char :: chars))
    (outside : isWordChar char = false) : Boundary piece := by
  rw [Boundary, spelled, String.toList_ofList, List.head?_cons,
    Option.any_some, outside]
  rfl

theorem scan_word (chars : List Char) {letters : List Char}
    (wordChars : ∀ char ∈ letters, isWordChar char = true) :
    scan (.word chars) letters = ([], .word (chars ++ letters)) := by
  induction letters generalizing chars with
  | nil => rw [List.append_nil]; rfl
  | cons char letters inductionHypothesis =>
      rw [List.forall_mem_cons] at wordChars
      rw [scan, scanChar, if_pos wordChars.1]
      simp only [inductionHypothesis _ wordChars.2, List.append_assoc,
        List.singleton_append, List.nil_append]

theorem scan_name (identifier : Identifier name) :
    scan .code name.toList = ([], .word name.toList) := by
  obtain ⟨nonempty, wordChars⟩ := identifier
  cases letters : name.toList with
  | nil => exact absurd letters nonempty
  | cons char rest =>
      rw [letters, List.forall_mem_cons] at wordChars
      rw [scan, scanChar, scanFresh, if_pos wordChars.1]
      simp only [scan_word _ wordChars.2]
      rfl

/-- The end of a name. -/
theorem scan_of_boundary (chars : List Char) (boundary : Boundary piece) :
    scan (.word chars) piece.toList =
      (.word (String.ofList chars) :: (scan .code piece.toList).1,
        (scan .code piece.toList).2) := by
  obtain ⟨char, rest, starts, outside⟩ := boundary.exists_cons
  rw [starts, scan, scanChar, if_neg (by simp [outside])]
  rfl

/-- A piece that is met between tokens, before a boundary. -/
def Spells (piece : String) (found : List Token) : Prop :=
  ∀ (rest : String) (later : List Token) (after : Mode),
    Boundary rest → Scans .code rest later after →
      Scans .code (piece ++ rest) (found ++ later) after

theorem Scans.spells (whole : Scans .code piece found .code) :
    Spells piece found :=
  fun _ _ _ _ right => whole.append right

theorem spells_empty : Spells "" [] := by
  intro rest later after _ right
  rwa [String.empty_append]

theorem spells_name (identifier : Identifier name) :
    Spells name [.word name] := by
  intro rest later after boundary right
  rw [Scans, String.toList_append, scan_append, scan_name identifier,
    scan_of_boundary _ boundary, right, String.ofList_toList]
  rfl

theorem Spells.append
    (left : Spells first found) (boundary : Boundary second)
    (right : Spells second later) :
    Spells (first ++ second) (found ++ later) := by
  intro rest behind after restBoundary restScans
  rw [String.append_assoc, List.append_assoc]
  exact left _ _ _ (boundary.append rest)
    (right _ _ _ restBoundary restScans)

theorem Scans.append_spells
    (left : Scans .code first found .code) (right : Spells second later) :
    Spells (first ++ second) (found ++ later) := by
  intro rest behind after restBoundary restScans
  rw [String.append_assoc, List.append_assoc]
  exact left.append (right _ _ _ restBoundary restScans)

theorem Spells.scans
    (left : Spells first found) (boundary : Boundary second)
    (right : Scans .code second later after) :
    Scans .code (first ++ second) (found ++ later) after :=
  left _ _ _ boundary right

/-- A name, fixed text and the rest of a text. -/
theorem Scans.afterName
    (left : Scans .code first found middle) (identifier : Identifier name)
    (boundary : Boundary first) (right : Scans middle second later after) :
    Scans .code (name ++ (first ++ second))
      (.word name :: (found ++ later)) after :=
  (spells_name identifier).scans (boundary.append second)
    (left.append right)

/-! ## Texts between quotes -/

/-- A text that has neither quotes nor escapes. -/
def Plain (piece : String) : Prop :=
  ∀ char ∈ piece.toList, char ≠ '"' ∧ char ≠ '\\'

/-- A fixed piece; its characters are found by unification. -/
theorem plain_chars (chars : List Char)
    (spelled : piece = String.ofList chars)
    (plain : chars.all (fun char => char ≠ '"' && char ≠ '\\') = true) :
    Plain piece := by
  intro char member
  rw [spelled, String.toList_ofList] at member
  simpa using List.all_eq_true.mp plain char member

theorem Plain.append (left : Plain first) (right : Plain second) :
    Plain (first ++ second) := by
  intro char member
  rw [String.toList_append] at member
  rcases List.mem_append.mp member with inFirst | inSecond
  · exact left char inFirst
  · exact right char inSecond

theorem plain_intercalate {separator : String} (separates : Plain separator)
    {pieces : List String} (each : ∀ piece ∈ pieces, Plain piece) :
    Plain (separator.intercalate pieces) := by
  induction pieces with
  | nil => simp [Plain]
  | cons piece pieces inductionHypothesis =>
      rw [List.forall_mem_cons] at each
      by_cases last : pieces = []
      · rw [last, String.intercalate_singleton]
        exact each.1
      · rw [String.intercalate_cons_of_ne_nil last]
        exact (each.1.append separates).append (inductionHypothesis each.2)

theorem Identifier.plain (identifier : Identifier name) : Plain name := by
  intro char member
  have wordChar := identifier.wordChars char member
  constructor
  · rintro rfl
    simp [isWordChar] at wordChar
  · rintro rfl
    simp [isWordChar] at wordChar

theorem scan_quoted (chars : List Char) {letters : List Char}
    (plain : ∀ char ∈ letters, char ≠ '"' ∧ char ≠ '\\') :
    scan (.quoted chars) letters = ([], .quoted (chars ++ letters)) := by
  induction letters generalizing chars with
  | nil => rw [List.append_nil]; rfl
  | cons char letters inductionHypothesis =>
      rw [List.forall_mem_cons] at plain
      rw [scan, scanChar, if_neg plain.1.1, if_neg plain.1.2]
      simp only [inductionHypothesis _ plain.2, List.append_assoc,
        List.singleton_append, List.nil_append]

/-- A text with quotes around it. -/
def quote (text : String) : String :=
  "\"" ++ text ++ "\""

theorem scans_quote (plain : Plain piece) :
    Scans .code (quote piece) [.quoted piece] .code := by
  have opened : Scans .code "\"" [] (.quoted []) := rfl
  have inside : Scans (.quoted []) piece [] (.quoted piece.toList) :=
    scan_quoted [] plain
  have closed :
      Scans (.quoted piece.toList) "\""
        [.quoted (String.ofList piece.toList)] .code := rfl
  rw [String.ofList_toList] at closed
  exact (opened.append inside).append closed

/-! ## Lists in a text -/

section

variable {α : Type} {text : α → String} {spelled : α → List Token}

theorem scans_join_nil (mode : Mode) :
    Scans mode (String.join []) ([] : List (List Token)).flatten mode :=
  rfl

theorem boundary_join (boundary : Boundary first) (pieces : List String) :
    Boundary (String.join (first :: pieces)) := by
  rw [String.join_cons]
  exact boundary.append _

/-- The pieces of a text one after the other, and the lists of their
tokens. -/
theorem Scans.cons {pieces : List String} {spelled : List (List Token)}
    (left : Scans before first found middle)
    (right : Scans middle (String.join pieces) spelled.flatten after) :
    Scans before (String.join (first :: pieces))
      (found :: spelled).flatten after := by
  rw [String.join_cons, List.flatten_cons]
  exact left.append right

theorem Spells.cons {pieces : List String} {spelled : List (List Token)}
    (left : Spells first found)
    (boundary : Boundary (String.join pieces))
    (right : Scans .code (String.join pieces) spelled.flatten after) :
    Scans .code (String.join (first :: pieces))
      (found :: spelled).flatten after := by
  rw [String.join_cons, List.flatten_cons]
  exact left.scans boundary right

theorem scans_join
    {items : List α}
    (each : ∀ item ∈ items, Scans .code (text item) (spelled item) .code) :
    Scans .code (String.join (items.map text)) (items.flatMap spelled)
      .code := by
  induction items with
  | nil => rfl
  | cons item items inductionHypothesis =>
      rw [List.forall_mem_cons] at each
      rw [List.map_cons, String.join_cons, List.flatMap_cons]
      exact each.1.append (inductionHypothesis each.2)

/-- A list whose items are separated by a mark. -/
theorem spells_intercalate
    {separator : String} {mark : Char} (boundary : Boundary separator)
    (separates : Scans .code separator [.mark mark] .code)
    {items : List α}
    (each : ∀ item ∈ items, Spells (text item) (spelled item)) :
    Spells (separator.intercalate (items.map text))
      ([.mark mark].intercalate (items.map spelled)) := by
  induction items with
  | nil => exact spells_empty
  | cons item items inductionHypothesis =>
      rw [List.forall_mem_cons] at each
      cases items with
      | nil =>
          rw [List.map_singleton, List.map_singleton,
            String.intercalate_singleton, List.intercalate_singleton]
          exact each.1
      | cons next items =>
          have later := inductionHypothesis each.2
          simp only [List.map_cons, String.intercalate_cons_cons,
            List.intercalate_cons_cons, List.append_assoc,
            String.append_assoc] at later ⊢
          exact each.1.append (boundary.append _)
            (separates.append_spells later)

end

end

/-! ## Reading tokens -/

section

variable {stop : Token} {before behind : List Token} {text : String}

/-- Read a fixed text, however it is spaced. -/
def expect (text : String) (found : List Token) : Option (List Token) :=
  if (tokens text).isPrefixOf found then
    some (found.drop (tokens text).length)
  else
    none

/-- Read up to a token, and this token. -/
def upTo (stop : Token) : List Token → Option (List Token × List Token)
  | [] => none
  | token :: found =>
      if token = stop then
        some ([], found)
      else
        (upTo stop found).map fun read => (token :: read.1, read.2)

/-- Read a name. -/
def readWord : List Token → Option (String × List Token)
  | .word name :: found => some (name, found)
  | _ => none

@[simp]
theorem expect_append (text : String) (behind : List Token) :
    expect text (tokens text ++ behind) = some behind := by
  rw [expect, if_pos (by simp), List.drop_left]

/-! The steps of a reader, on tokens that are given as a list of pieces. -/

theorem bind_expect {β : Type} (text : String) (pieces : List (List Token))
    (behind : List Token) (next : List Token → Option β) :
    (expect text ((tokens text :: pieces).flatten ++ behind)).bind next =
      next (pieces.flatten ++ behind) := by
  rw [List.flatten_cons, List.append_assoc, expect_append]
  rfl

theorem bind_readWord {β : Type} (name : String)
    (pieces : List (List Token)) (behind : List Token)
    (next : String × List Token → Option β) :
    (readWord (([.word name] :: pieces).flatten ++ behind)).bind next =
      next (name, pieces.flatten ++ behind) :=
  rfl

theorem flatten_nil_cons (pieces : List (List Token)) :
    ([] :: pieces).flatten = pieces.flatten :=
  rfl

theorem upTo_append (absent : stop ∉ before) :
    upTo stop (before ++ stop :: behind) = some (before, behind) := by
  induction before with
  | nil => rw [List.nil_append, upTo, if_pos rfl]
  | cons token before inductionHypothesis =>
      rw [List.mem_cons, not_or] at absent
      rw [List.cons_append, upTo, if_neg (Ne.symm absent.1),
        inductionHypothesis absent.2]
      rfl

theorem bind_upTo {β : Type} (absent : stop ∉ before)
    (pieces : List (List Token)) (behind : List Token)
    (next : List Token × List Token → Option β) :
    (upTo stop ((before :: [stop] :: pieces).flatten ++ behind)).bind next =
      next (before, pieces.flatten ++ behind) := by
  rw [List.flatten_cons, List.flatten_cons, List.append_assoc,
    List.append_assoc, List.singleton_append, upTo_append absent]
  rfl

/-- A list whose items end with a token each. -/
theorem splitOn_flatMap {α : Type} {spelled : α → List Token}
    {items : List α} (absent : ∀ item ∈ items, stop ∉ spelled item) :
    (items.flatMap fun item => spelled item ++ [stop]).splitOn stop =
      items.map spelled ++ [[]] := by
  have joined :
      (items.flatMap fun item => spelled item ++ [stop]) =
        [stop].intercalate (items.map spelled ++ [[]]) := by
    clear absent
    induction items with
    | nil => rfl
    | cons item items inductionHypothesis =>
        rw [List.flatMap_cons, List.map_cons, List.cons_append,
          List.intercalate_cons_of_ne_nil (by simp), inductionHypothesis]
  rw [joined, List.splitOn_intercalate]
  · intro piece member
    rcases List.mem_append.mp member with inItems | isLast
    · obtain ⟨item, inside, rfl⟩ := List.mem_map.mp inItems
      exact absent item inside
    · rw [List.mem_singleton.mp isLast]
      exact List.not_mem_nil
  · simp

end

end LibSklt.Foundation.Tokens
