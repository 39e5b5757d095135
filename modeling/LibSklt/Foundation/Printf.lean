import LibSklt.Foundation.Decimal
import LibSklt.Foundation.MachineWord

/-!
# The `printf` family

A format is a text with conversions in it.  `pieces` takes it apart, and
`render` goes through the pieces: a character stands for itself, a conversion
takes the next argument.  An argument of another type than its conversion
expects, a missing argument and a pointer to characters without a terminator
have no defined result; neither has a conversion outside of `%c`, `%d`,
`%lld`, `%s` and `%%`.

Formats are put together from smaller ones.  `Parses` is the property of a
text that it can be taken apart on its own, whatever follows.
-/

namespace LibSklt.Foundation.Printf

open LibSklt.Foundation.Decimal
open LibSklt.Foundation.MachineWord

/-- An argument behind a format, after the default promotions. -/
inductive Argument where
  | int (value : Int)
  | longLong (value : Int)
  /-- A pointer, with the memory that it points to. -/
  | chars (memory : List UInt8)
deriving DecidableEq

inductive Conversion where
  /-- `%c`. -/
  | character
  /-- `%d`. -/
  | decimal
  /-- `%lld`. -/
  | longDecimal
  /-- `%s`. -/
  | string
deriving DecidableEq

inductive Piece where
  | literal (char : Char)
  | conversion (kind : Conversion)
deriving DecidableEq

/-- The parts of a format. -/
def pieces : List Char → Option (List Piece)
  | [] => some []
  | '%' :: '%' :: rest => (pieces rest).map (.literal '%' :: ·)
  | '%' :: 'c' :: rest => (pieces rest).map (.conversion .character :: ·)
  | '%' :: 'd' :: rest => (pieces rest).map (.conversion .decimal :: ·)
  | '%' :: 's' :: rest => (pieces rest).map (.conversion .string :: ·)
  | '%' :: 'l' :: 'l' :: 'd' :: rest =>
      (pieces rest).map (.conversion .longDecimal :: ·)
  | char :: rest =>
      if char = '%' then none else (pieces rest).map (.literal char :: ·)

/-- The byte of a character in ASCII. -/
def byteOf (char : Char) : UInt8 :=
  UInt8.ofNat char.toNat

def bytesOf (text : String) : List UInt8 :=
  text.toList.map byteOf

/-- A number with its sign, if it is negative. -/
def signedDecimal (value : Int) : List UInt8 :=
  if value < 0 then 45 :: decimal value.natAbs else decimal value.natAbs

/-- The text of an argument. -/
def Conversion.render : Conversion → Argument → Option (List UInt8)
  | .character, .int value => some [UInt8.ofNat (unsignedCast 8 value)]
  | .decimal, .int value => some (signedDecimal (signedCast 32 value))
  | .longDecimal, .longLong value =>
      some (signedDecimal (signedCast 64 value))
  | .string, .chars memory =>
      if (0 : UInt8) ∈ memory then
        some (memory.takeWhile (· ≠ 0))
      else
        none
  | _, _ => none

/-- The text of the parts, with the arguments that are left over. -/
def render :
    List Piece → List Argument → Option (List UInt8 × List Argument)
  | [], arguments => some ([], arguments)
  | .literal char :: pieces, arguments =>
      (render pieces arguments).map fun behind =>
        (byteOf char :: behind.1, behind.2)
  | .conversion _ :: _, [] => none
  | .conversion kind :: pieces, argument :: arguments =>
      (kind.render argument).bind fun shown =>
        (render pieces arguments).map fun behind =>
          (shown ++ behind.1, behind.2)

/-- The text of a format. -/
def format (text : String) (arguments : List Argument) :
    Option (List UInt8 × List Argument) :=
  (pieces text.toList).bind fun pieces => render pieces arguments

/-! ## Taking formats apart -/

/-- The text can be taken apart on its own. -/
def Parses (text : String) (found : List Piece) : Prop :=
  ∀ rest, pieces (text.toList ++ rest) = (pieces rest).map (found ++ ·)

theorem Parses.pieces_eq {text : String} {found : List Piece}
    (parses : Parses text found) : pieces text.toList = some found := by
  have whole := parses []
  simpa [pieces] using whole

theorem parses_empty : Parses "" [] := by
  intro rest
  simp

theorem Parses.append {first second : String} {front back : List Piece}
    (left : Parses first front) (right : Parses second back) :
    Parses (first ++ second) (front ++ back) := by
  intro rest
  rw [String.toList_append, List.append_assoc, left, right, Option.map_map]
  congr 1
  funext behind
  simp

/-- A text without conversions. -/
def literals (text : String) : List Piece :=
  text.toList.map .literal

theorem pieces_cons {char : Char} (plain : char ≠ '%') (rest : List Char) :
    pieces (char :: rest) = (pieces rest).map (.literal char :: ·) := by
  rw [pieces] <;> simp [plain]

theorem parses_literals {text : String} (plain : '%' ∉ text.toList) :
    Parses text (literals text) := by
  intro rest
  rw [literals]
  generalize text.toList = chars at plain
  induction chars with
  | nil => simp
  | cons char chars inductionHypothesis =>
      simp only [List.mem_cons, not_or] at plain
      rw [List.cons_append, pieces_cons (Ne.symm plain.1),
        inductionHypothesis plain.2, Option.map_map]
      rfl

/-- The text of a conversion. -/
def Conversion.text : Conversion → String
  | .character => "%c"
  | .decimal => "%d"
  | .longDecimal => "%lld"
  | .string => "%s"

theorem parses_conversion (kind : Conversion) :
    Parses kind.text [.conversion kind] := by
  intro rest
  cases kind <;> rfl

/-- A string behind plain text. -/
theorem Parses.cons_string {literal rest : String} {found : List Piece}
    (plain : '%' ∉ literal.toList) (parses : Parses rest found) :
    Parses (literal ++ (Conversion.string.text ++ rest))
      (literals literal ++ ([.conversion .string] ++ found)) :=
  (parses_literals plain).append ((parses_conversion .string).append parses)

theorem parses_intercalate {α : Type} {separator : String}
    {between : List Piece} (parsesBetween : Parses separator between)
    {text : α → String} {found : α → List Piece} {items : List α}
    (each : ∀ item ∈ items, Parses (text item) (found item)) :
    Parses (separator.intercalate (items.map text))
      (between.intercalate (items.map found)) := by
  induction items with
  | nil => exact parses_empty
  | cons item items inductionHypothesis =>
      rw [List.forall_mem_cons] at each
      cases items with
      | nil =>
          rw [List.map_singleton, List.map_singleton,
            String.intercalate_singleton, List.intercalate_singleton]
          exact each.1
      | cons next items =>
          have later := inductionHypothesis each.2
          simp only [List.map_cons, String.intercalate_cons_cons,
            List.intercalate_cons_cons] at later ⊢
          exact (each.1.append parsesBetween).append later

/-! ## Rendering -/

theorem render_append (first second : List Piece)
    (arguments : List Argument) :
    render (first ++ second) arguments =
      (render first arguments).bind fun front =>
        (render second front.2).map fun behind =>
          (front.1 ++ behind.1, behind.2) := by
  induction first generalizing arguments with
  | nil => simp [render]
  | cons piece first inductionHypothesis =>
      cases piece with
      | literal char =>
          rw [List.cons_append, render, inductionHypothesis, render]
          cases render first arguments with
          | none => rfl
          | some result =>
              simp only [Option.bind_some, Option.map_some, Option.map_map]
              rfl
      | conversion kind =>
          cases arguments with
          | nil => rfl
          | cons argument arguments =>
              rw [List.cons_append, render, inductionHypothesis, render]
              cases kind.render argument with
              | none => rfl
              | some shown =>
                  cases render first arguments with
                  | none => rfl
                  | some result =>
                      simp only [Option.bind_some, Option.map_some,
                        Option.map_map]
                      congr 1
                      funext behind
                      simp

theorem render_literals (text : String) (arguments : List Argument) :
    render (literals text) arguments = some (bytesOf text, arguments) := by
  rw [literals, bytesOf]
  induction text.toList with
  | nil => rfl
  | cons char chars inductionHypothesis =>
      rw [List.map_cons, render, inductionHypothesis]
      rfl

theorem render_conversion (kind : Conversion) (argument : Argument)
    (arguments : List Argument) :
    render [.conversion kind] (argument :: arguments) =
      (kind.render argument).map fun shown => (shown, arguments) := by
  rw [render]
  cases kind.render argument <;> simp [render]

theorem render_cons_string (literal : String) {memory : List UInt8}
    (terminated : (0 : UInt8) ∈ memory) (found : List Piece)
    (arguments : List Argument) :
    render (literals literal ++ ([.conversion .string] ++ found))
        (.chars memory :: arguments) =
      (render found arguments).map fun behind =>
        (bytesOf literal ++ (memory.takeWhile (· ≠ 0) ++ behind.1),
          behind.2) := by
  rw [render_append, render_literals, Option.bind_some, render_append,
    render_conversion, Conversion.render, if_pos terminated,
    Option.map_some, Option.bind_some, Option.map_map]
  rfl

/-- A list of items with a separator, each of which takes one argument. -/
theorem render_intercalate {α : Type} {between : List Piece}
    {separator : List UInt8}
    (separates :
      ∀ rest, render between rest = some (separator, rest))
    {found : α → List Piece} {argument : α → Argument}
    {shown : α → Option (List UInt8)} {items : List α}
    (each :
      ∀ item ∈ items, ∀ rest,
        render (found item) (argument item :: rest) =
          (shown item).map fun text => (text, rest)) :
    render (between.intercalate (items.map found)) (items.map argument) =
      (items.mapM shown).map fun texts => (separator.intercalate texts, [])
    := by
  induction items with
  | nil => rfl
  | cons item items inductionHypothesis =>
      rw [List.forall_mem_cons] at each
      have later := inductionHypothesis each.2
      cases items with
      | nil =>
          rw [List.map_singleton, List.map_singleton,
            List.intercalate_singleton, each.1, List.mapM_cons]
          cases shown item with
          | none => rfl
          | some text => simp
      | cons next items =>
          have split :
              between.intercalate ((item :: next :: items).map found) =
                found item ++
                  (between ++
                    between.intercalate ((next :: items).map found)) := by
            simp [List.intercalate_cons_cons]
          have first :
              (item :: next :: items).map argument =
                argument item :: (next :: items).map argument := rfl
          rw [split, first, render_append, each.1, List.mapM_cons]
          cases shown item with
          | none => rfl
          | some text =>
              rw [Option.map_some, Option.bind_some, render_append,
                separates, Option.bind_some, later, List.mapM_cons]
              cases shown next with
              | none => rfl
              | some nextText =>
                  cases items.mapM shown with
                  | none => rfl
                  | some texts => simp [List.intercalate_cons_cons]

theorem format_of_parses {text : String} {found : List Piece}
    (parses : Parses text found) (arguments : List Argument) :
    format text arguments = render found arguments := by
  rw [format, parses.pieces_eq]
  rfl

/-! ## Lengths -/

theorem length_bytesOf (text : String) :
    (bytesOf text).length = text.length := by
  rw [bytesOf, List.length_map, String.length_toList]

theorem length_decimal_le {value digits : Nat} (some : 0 < digits)
    (small : value < 10 ^ digits) : (decimal value).length ≤ digits := by
  rw [decimal]
  split_ifs with zero
  · exact some
  · rw [List.length_reverse, List.length_map]
    exact Nat.digits_length_le_iff (by decide) value |>.mpr small

theorem length_signedDecimal_le {value : Int} {digits : Nat}
    (some : 0 < digits) (small : value.natAbs < 10 ^ digits) :
    (signedDecimal value).length ≤
      digits + if value < 0 then 1 else 0 := by
  have bounded := length_decimal_le some small
  rw [signedDecimal]
  split_ifs with negative
  · exact Nat.succ_le_succ bounded
  · exact bounded

end LibSklt.Foundation.Printf
