import LibSklt.Foundation.Decimal
import Mathlib.Tactic

/-!
# C strings in bounded memory

Memory is the list of the bytes from a pointer to the end of the object it
points into.  The functions of `<cstring>` that scan a string read one byte
after the other, and a scan that runs over the end of the object has no
defined result: it is `none`.

Three facts about such a scan are used again and again: a scan that ends does
not depend on the bytes behind its end, a scan of memory with a terminator
ends, and a scan that runs over the end runs over the end of longer memory
too, if nothing in the added bytes stops it.
-/

namespace LibSklt.Foundation.CString

open LibSklt.Foundation.Decimal

/-! ## `strlen` -/

/-- `strlen`. -/
def strlen : List UInt8 → Option Nat
  | [] => none
  | byte :: rest =>
      if byte = 0 then some 0 else (strlen rest).map (· + 1)

theorem strlen_append
    {memory : List UInt8} {length : Nat}
    (ends : strlen memory = some length) (behind : List UInt8) :
    strlen (memory ++ behind) = some length := by
  induction memory generalizing length with
  | nil => simp [strlen] at ends
  | cons byte rest inductionHypothesis =>
      simp only [List.cons_append, strlen] at ends ⊢
      split at ends
      case isTrue terminator => rw [if_pos terminator, ends]
      case isFalse other =>
        obtain ⟨shorter, scanned, rfl⟩ := Option.map_eq_some_iff.mp ends
        rw [if_neg other, inductionHypothesis scanned]
        rfl

theorem strlen_eq_none_iff {memory : List UInt8} :
    strlen memory = none ↔ (0 : UInt8) ∉ memory := by
  induction memory with
  | nil => simp [strlen]
  | cons byte rest inductionHypothesis =>
      simp only [strlen, List.mem_cons, not_or]
      split
      case isTrue terminator => simp [terminator]
      case isFalse other =>
        rw [Option.map_eq_none_iff, inductionHypothesis]
        simp [Ne.symm other]

/-- A text without a terminator only adds its length. -/
theorem strlen_clean_append
    {text : List UInt8} (clean : (0 : UInt8) ∉ text)
    (behind : List UInt8) :
    strlen (text ++ behind) = (strlen behind).map (text.length + ·) := by
  induction text with
  | nil => simp
  | cons byte rest inductionHypothesis =>
      simp only [List.mem_cons, not_or] at clean
      rw [List.cons_append, strlen, if_neg (Ne.symm clean.1),
        inductionHypothesis clean.2, Option.map_map]
      congr 1
      funext length
      simp only [Function.comp_apply, List.length_cons]
      omega

/-- Up to its length a string can be skipped without passing the end. -/
theorem zero_mem_drop_of_strlen
    {memory : List UInt8} {length skipped : Nat}
    (ends : strlen memory = some length) (within : skipped ≤ length) :
    (0 : UInt8) ∈ memory.drop skipped := by
  induction memory generalizing length skipped with
  | nil => simp [strlen] at ends
  | cons byte rest inductionHypothesis =>
      simp only [strlen] at ends
      split at ends
      case isTrue terminator =>
        simp only [Option.some.injEq] at ends
        have nothing : skipped = 0 := by omega
        simp [nothing, terminator]
      case isFalse =>
        obtain ⟨shorter, scanned, rfl⟩ := Option.map_eq_some_iff.mp ends
        cases skipped with
        | zero =>
            have later : (0 : UInt8) ∈ rest.drop 0 :=
              inductionHypothesis scanned (Nat.zero_le _)
            exact List.mem_cons_of_mem byte later
        | succ skipped => exact inductionHypothesis scanned (by omega)

/-! ## `strstr` -/

/-- Whether the string at a pointer starts with the given characters. -/
def startsWith : List UInt8 → List UInt8 → Option Bool
  | [], _ => some true
  | _ :: _, [] => none
  | wanted :: needle, byte :: rest =>
      if byte = wanted then startsWith needle rest else some false

/--
`strstr`: the offset of the first occurrence, or `some none` for a null
pointer.
-/
def strstr (needle : List UInt8) : List UInt8 → Option (Option Nat)
  | [] =>
      match needle with
      | [] => some (some 0)
      | _ :: _ => none
  | byte :: rest =>
      match startsWith needle (byte :: rest) with
      | none => none
      | some true => some (some 0)
      | some false =>
          if byte = 0 then
            some none
          else
            (strstr needle rest).map (Option.map (· + 1))

theorem startsWith_append
    {needle memory : List UInt8} {found : Bool}
    (ends : startsWith needle memory = some found)
    (behind : List UInt8) :
    startsWith needle (memory ++ behind) = some found := by
  induction needle generalizing memory with
  | nil => simpa [startsWith] using ends
  | cons wanted needle inductionHypothesis =>
      cases memory with
      | nil => simp [startsWith] at ends
      | cons byte rest =>
          simp only [List.cons_append, startsWith] at ends ⊢
          split at ends
          case isTrue same =>
            rw [if_pos same]
            exact inductionHypothesis ends
          case isFalse other => rw [if_neg other, ends]

/-- A comparison runs over the end at a proper prefix of the needle only. -/
theorem startsWith_eq_none
    {needle memory : List UInt8}
    (runsOver : startsWith needle memory = none) :
    ∃ missing, missing ≠ [] ∧ needle = memory ++ missing := by
  induction needle generalizing memory with
  | nil => simp [startsWith] at runsOver
  | cons wanted needle inductionHypothesis =>
      cases memory with
      | nil => exact ⟨wanted :: needle, by simp, rfl⟩
      | cons byte rest =>
          simp only [startsWith] at runsOver
          split at runsOver
          case isTrue same =>
            obtain ⟨missing, nonempty, split⟩ :=
              inductionHypothesis runsOver
            exact ⟨missing, nonempty, by rw [split, same, List.cons_append]⟩
          case isFalse => simp at runsOver

theorem startsWith_eq_true
    {needle memory : List UInt8}
    (found : startsWith needle memory = some true) :
    needle <+: memory := by
  induction needle generalizing memory with
  | nil => exact List.nil_prefix
  | cons wanted needle inductionHypothesis =>
      cases memory with
      | nil => simp [startsWith] at found
      | cons byte rest =>
          simp only [startsWith] at found
          split at found
          case isTrue same =>
            subst byte
            exact List.cons_prefix_cons.mpr
              ⟨rfl, inductionHypothesis found⟩
          case isFalse => simp at found

theorem startsWith_self (needle behind : List UInt8) :
    startsWith needle (needle ++ behind) = some true := by
  induction needle with
  | nil => rfl
  | cons wanted needle inductionHypothesis =>
      simp [startsWith, inductionHypothesis]

theorem strstr_append
    {needle memory : List UInt8} {position : Option Nat}
    (ends : strstr needle memory = some position)
    (behind : List UInt8) :
    strstr needle (memory ++ behind) = some position := by
  induction memory generalizing position with
  | nil =>
      cases needle with
      | nil =>
          simp only [strstr] at ends
          cases behind with
          | nil => simpa [strstr] using ends
          | cons => simpa [strstr, startsWith] using ends
      | cons => simp [strstr] at ends
  | cons byte rest inductionHypothesis =>
      simp only [List.cons_append, strstr] at ends ⊢
      cases compared : startsWith needle (byte :: rest) with
      | none => simp [compared] at ends
      | some found =>
          have same := startsWith_append compared behind
          rw [List.cons_append] at same
          rw [same]
          rw [compared] at ends
          cases found with
          | true => exact ends
          | false =>
              simp only at ends ⊢
              split at ends
              case isTrue terminator => rw [if_pos terminator, ends]
              case isFalse other =>
                obtain ⟨scanned, rest, rfl⟩ :=
                  Option.map_eq_some_iff.mp ends
                rw [if_neg other, inductionHypothesis rest]
                rfl

/-- A search that runs over the end saw no terminator. -/
theorem zero_not_mem_of_strstr
    {needle memory : List UInt8} (clean : (0 : UInt8) ∉ needle)
    (runsOver : strstr needle memory = none) :
    (0 : UInt8) ∉ memory := by
  induction memory with
  | nil => simp
  | cons byte rest inductionHypothesis =>
      simp only [strstr] at runsOver
      cases compared : startsWith needle (byte :: rest) with
      | none =>
          obtain ⟨missing, -, split⟩ := startsWith_eq_none compared
          rw [split, List.mem_append, not_or] at clean
          exact clean.1
      | some found =>
          rw [compared] at runsOver
          cases found with
          | true => simp at runsOver
          | false =>
              simp only at runsOver
              split at runsOver
              case isTrue => simp at runsOver
              case isFalse other =>
                rw [Option.map_eq_none_iff] at runsOver
                simp only [List.mem_cons, not_or]
                exact ⟨Ne.symm other, inductionHypothesis runsOver⟩

/-- The search in memory that is shorter than the needle. -/
theorem strstr_of_short
    {needle memory : List UInt8} (clean : (0 : UInt8) ∉ memory)
    (short : memory.length < needle.length) :
    strstr needle memory = none := by
  induction memory with
  | nil =>
      cases needle with
      | nil => simp at short
      | cons => rfl
  | cons byte rest inductionHypothesis =>
      simp only [List.mem_cons, not_or] at clean
      rw [List.length_cons] at short
      rw [strstr]
      cases compared : startsWith needle (byte :: rest) with
      | none => rfl
      | some found =>
          cases found with
          | true =>
              have bounded := (startsWith_eq_true compared).length_le
              rw [List.length_cons] at bounded
              omega
          | false =>
              simp only
              rw [if_neg (Ne.symm clean.1),
                inductionHypothesis clean.2 (by omega)]
              rfl

theorem strstr_of_avoids
    {needle memory : List UInt8} (nonempty : needle ≠ [])
    (avoids : ∀ byte ∈ memory, byte ≠ 0 ∧ byte ∉ needle) :
    strstr needle memory = none := by
  obtain ⟨wanted, needle, rfl⟩ := List.exists_cons_of_ne_nil nonempty
  induction memory with
  | nil => rfl
  | cons byte rest inductionHypothesis =>
      obtain ⟨notZero, notWanted⟩ := avoids byte List.mem_cons_self
      have other : byte ≠ wanted := by
        intro same
        exact notWanted (same ▸ List.mem_cons_self)
      have later :=
        inductionHypothesis fun byte member =>
          avoids byte (List.mem_cons_of_mem _ member)
      simp [strstr, startsWith, other, notZero, later]

/--
A search that runs over the end also runs over bytes behind it in which
neither the terminator nor a character of the needle occurs.
-/
theorem strstr_append_of_avoids
    {needle memory behind : List UInt8} (clean : (0 : UInt8) ∉ needle)
    (runsOver : strstr needle memory = none)
    (avoids : ∀ byte ∈ behind, byte ≠ 0 ∧ byte ∉ needle) :
    strstr needle (memory ++ behind) = none := by
  induction memory with
  | nil =>
      cases needle with
      | nil => simp [strstr] at runsOver
      | cons => exact strstr_of_avoids (by simp) avoids
  | cons byte rest inductionHypothesis =>
      have wholeClean := zero_not_mem_of_strstr clean runsOver
      simp only [List.mem_cons, not_or] at wholeClean
      rw [List.cons_append, strstr]
      cases compared : startsWith needle (byte :: rest) with
      | none =>
          obtain ⟨missing, more, split⟩ := startsWith_eq_none compared
          obtain ⟨wanted, missing, rfl⟩ :=
            List.exists_cons_of_ne_nil more
          have short : strstr needle rest = none := by
            apply strstr_of_short wholeClean.2
            simp [split]
          cases found : startsWith needle (byte :: (rest ++ behind)) with
          | none => rfl
          | some found' =>
              cases found' with
              | true =>
                  have whole := startsWith_eq_true found
                  rw [split, ← List.cons_append,
                    List.prefix_append_right_inj] at whole
                  obtain ⟨tail, equal⟩ := whole
                  have member : wanted ∈ behind := by
                    rw [← equal]
                    exact List.mem_append_left _ List.mem_cons_self
                  refine absurd ?_ (avoids wanted member).2
                  rw [split]
                  exact List.mem_append_right _ List.mem_cons_self
              | false =>
                  simp only
                  rw [if_neg (Ne.symm wholeClean.1),
                    inductionHypothesis short]
                  rfl
      | some found =>
          have same := startsWith_append compared behind
          rw [List.cons_append] at same
          rw [same]
          rw [strstr, compared] at runsOver
          cases found with
          | true => simp at runsOver
          | false =>
              simp only at runsOver ⊢
              rw [if_neg (Ne.symm wholeClean.1)] at runsOver ⊢
              rw [Option.map_eq_none_iff] at runsOver
              rw [inductionHypothesis runsOver]
              rfl

/-- An occurrence behind a text that does not hold the needle's start. -/
theorem strstr_behind
    {wanted : UInt8} {needle text : List UInt8}
    (avoids : ∀ byte ∈ text, byte ≠ 0 ∧ byte ≠ wanted)
    (behind : List UInt8) :
    strstr (wanted :: needle) (text ++ (wanted :: needle ++ behind)) =
      some (some text.length) := by
  induction text with
  | nil =>
      have here := startsWith_self (wanted :: needle) behind
      rw [List.cons_append] at here
      rw [List.nil_append, List.cons_append, strstr, here]
      rfl
  | cons byte rest inductionHypothesis =>
      obtain ⟨notZero, other⟩ := avoids byte List.mem_cons_self
      have later :=
        inductionHypothesis fun byte member =>
          avoids byte (List.mem_cons_of_mem _ member)
      simp only [List.cons_append] at later ⊢
      simp [strstr, startsWith, notZero, other, later]

/-- The terminator stands before any start of the needle. -/
theorem strstr_terminated
    {wanted : UInt8} {needle text : List UInt8}
    (clean : wanted ≠ 0)
    (avoids : ∀ byte ∈ text, byte ≠ 0 ∧ byte ≠ wanted)
    (behind : List UInt8) :
    strstr (wanted :: needle) (text ++ 0 :: behind) = some none := by
  induction text with
  | nil => simp [strstr, startsWith, Ne.symm clean]
  | cons byte rest inductionHypothesis =>
      obtain ⟨notZero, other⟩ := avoids byte List.mem_cons_self
      have later :=
        inductionHypothesis fun byte member =>
          avoids byte (List.mem_cons_of_mem _ member)
      simp [strstr, startsWith, notZero, other, later]

/-- What is found is there, and no terminator stands before it. -/
theorem strstr_found
    {needle memory : List UInt8} {position : Nat}
    (found : strstr needle memory = some (some position)) :
    needle <+: memory.drop position ∧
      (0 : UInt8) ∉ memory.take position := by
  induction memory generalizing position with
  | nil =>
      cases needle with
      | nil => exact ⟨List.nil_prefix, by simp⟩
      | cons => simp [strstr] at found
  | cons byte rest inductionHypothesis =>
      rw [strstr] at found
      cases compared : startsWith needle (byte :: rest) with
      | none => simp [compared] at found
      | some here =>
          rw [compared] at found
          cases here with
          | true =>
              simp only [Option.some.injEq] at found
              subst position
              exact ⟨startsWith_eq_true compared, by simp⟩
          | false =>
              simp only at found
              split at found
              case isTrue => simp at found
              case isFalse other =>
                obtain ⟨scanned, later, more⟩ :=
                  Option.map_eq_some_iff.mp found
                obtain ⟨earlier, rfl, rfl⟩ :=
                  Option.map_eq_some_iff.mp more
                obtain ⟨there, clean⟩ := inductionHypothesis later
                refine ⟨there, ?_⟩
                rw [List.take_succ_cons, List.mem_cons, not_or]
                exact ⟨Ne.symm other, clean⟩

/-! ## `atoi` -/

/-- `isspace` in the C locale. -/
def isSpace (byte : UInt8) : Bool :=
  byte == 32 || (9 ≤ byte && byte ≤ 13)

/-- The nearest number that an `int` can hold. -/
def saturate (value : Int) : Int :=
  max (-2 ^ 31) (min value (2 ^ 31 - 1))

/--
`atoi` of a text.  The standard leaves a number that is too large undefined;
the library of the compiler saturates.
-/
def atoi (text : List UInt8) : Int :=
  match text.dropWhile isSpace with
  | [] => 0
  | first :: rest =>
      if first = 45 then
        saturate (-(scanDigits 0 rest : Nat))
      else if first = 43 then
        saturate (scanDigits 0 rest)
      else
        saturate (scanDigits 0 (first :: rest))

theorem saturate_eq_iff (value : Int) :
    saturate value = value ↔ -2 ^ 31 ≤ value ∧ value < 2 ^ 31 := by
  rw [saturate]
  omega

theorem isSpace_of_printable {byte : UInt8} (printable : 32 < byte) :
    isSpace byte = false := by
  rw [UInt8.lt_iff_toNat_lt] at printable
  have notBlank : byte ≠ 32 := by
    rintro rfl
    simp at printable
  have large : ¬ byte ≤ 13 := by
    rw [UInt8.le_iff_toNat_le]
    simp only [UInt8.reduceToNat] at printable ⊢
    omega
  simp [isSpace, notBlank, large]

/-- `atoi` reads the value of a numeral. -/
theorem atoi_numeral
    {value : Int} {text : List UInt8} (numeral : Numeral value text) :
    atoi text = saturate value := by
  obtain ⟨first, rest, rfl⟩ :=
    List.exists_cons_of_ne_nil numeral.nonempty
  have printable := numeral.printable first List.mem_cons_self
  rw [atoi, List.dropWhile_cons_of_neg (by
    simp [isSpace_of_printable printable])]
  cases numeral with
  | plain wellFormed =>
      have digit := wellFormed.all first List.mem_cons_self
      have notMinus : first ≠ 45 := by
        rintro rfl
        simp [isDigit] at digit
      have notPlus : first ≠ 43 := by
        rintro rfl
        simp [isDigit] at digit
      simp [notMinus, notPlus]
  | positive => simp
  | negative => simp

end LibSklt.Foundation.CString
