import Mathlib.Tactic

/-!
# Decimal numerals

A numeral is a sequence of decimal digits with an optional sign, as text in
ASCII.  `scanDigits` is the loop by which readers of numerals work: it takes
digits as long as there are some.
-/

namespace LibSklt.Foundation.Decimal

/-- Whether a character is a decimal digit. -/
def isDigit (byte : UInt8) : Bool :=
  48 ≤ byte && byte ≤ 57

/-- The value of a digit. -/
def digitValue (byte : UInt8) : Nat :=
  byte.toNat - 48

/-- Read digits from the left, as long as there are some. -/
def scanDigits (value : Nat) : List UInt8 → Nat
  | [] => value
  | byte :: rest =>
      if isDigit byte then
        scanDigits (10 * value + digitValue byte) rest
      else
        value

/-- The text consists of digits, and of at least one. -/
structure Digits (text : List UInt8) : Prop where
  nonempty : text ≠ []
  all : ∀ byte ∈ text, isDigit byte = true

/-- The texts that denote an integer. -/
inductive Numeral : Int → List UInt8 → Prop where
  | plain {digits : List UInt8} (wellFormed : Digits digits) :
      Numeral (scanDigits 0 digits) digits
  | positive {digits : List UInt8} (wellFormed : Digits digits) :
      Numeral (scanDigits 0 digits) (43 :: digits)
  | negative {digits : List UInt8} (wellFormed : Digits digits) :
      Numeral (-(scanDigits 0 digits : Nat)) (45 :: digits)

/-- A numeral has no control characters in it. -/
theorem Numeral.printable
    {value : Int} {text : List UInt8} (numeral : Numeral value text) :
    ∀ byte ∈ text, 32 < byte := by
  have digit : ∀ byte : UInt8, isDigit byte = true → 32 < byte := by
    intro byte isDigit'
    simp only [isDigit, Bool.and_eq_true, decide_eq_true_iff] at isDigit'
    have below : (32 : UInt8) < 48 := by decide
    exact UInt8.lt_of_lt_of_le below isDigit'.1
  intro byte member
  cases numeral with
  | plain wellFormed => exact digit byte (wellFormed.all byte member)
  | positive wellFormed =>
      rcases List.mem_cons.mp member with rfl | inside
      · decide
      · exact digit byte (wellFormed.all byte inside)
  | negative wellFormed =>
      rcases List.mem_cons.mp member with rfl | inside
      · decide
      · exact digit byte (wellFormed.all byte inside)

theorem Numeral.nonempty
    {value : Int} {text : List UInt8} (numeral : Numeral value text) :
    text ≠ [] := by
  cases numeral with
  | plain wellFormed => exact wellFormed.nonempty
  | positive => simp
  | negative => simp

/-! ## The usual numeral of a number -/

/-- The character of a digit. -/
def digitByte (digit : Nat) : UInt8 :=
  UInt8.ofNat (48 + digit)

/-- The decimal numeral of a number, without leading zeros. -/
def decimal (value : Nat) : List UInt8 :=
  if value = 0 then [48] else ((Nat.digits 10 value).map digitByte).reverse

theorem toNat_digitByte {digit : Nat} (small : digit < 10) :
    (digitByte digit).toNat = 48 + digit := by
  rw [digitByte, UInt8.toNat_ofNat']
  omega

theorem isDigit_digitByte {digit : Nat} (small : digit < 10) :
    isDigit (digitByte digit) = true := by
  have value := toNat_digitByte small
  simp only [isDigit, Bool.and_eq_true, decide_eq_true_iff,
    UInt8.le_iff_toNat_le, value]
  exact ⟨Nat.le_add_right 48 digit, show 48 + digit ≤ 57 by omega⟩

/-- Reading one more digit, behind others. -/
theorem scanDigits_snoc
    {front : List UInt8} (all : ∀ byte ∈ front, isDigit byte = true)
    {last : UInt8} (isLast : isDigit last = true) (value : Nat) :
    scanDigits value (front ++ [last]) =
      10 * scanDigits value front + digitValue last := by
  induction front generalizing value with
  | nil => simp [scanDigits, isLast]
  | cons byte front inductionHypothesis =>
      rw [List.cons_append, scanDigits, scanDigits,
        if_pos (all byte List.mem_cons_self),
        if_pos (all byte List.mem_cons_self)]
      exact inductionHypothesis
        (fun other member => all other (List.mem_cons_of_mem _ member)) _

/-- The digits of a number, read from the most significant one. -/
theorem scanDigits_reverse
    {digits : List Nat} (small : ∀ digit ∈ digits, digit < 10) :
    scanDigits 0 (digits.map digitByte).reverse =
      Nat.ofDigits 10 digits := by
  induction digits with
  | nil => rfl
  | cons digit digits inductionHypothesis =>
      have here := small digit List.mem_cons_self
      have rest : ∀ other ∈ digits, other < 10 :=
        fun other member => small other (List.mem_cons_of_mem _ member)
      have value : digitValue (digitByte digit) = digit := by
        rw [digitValue, toNat_digitByte here]
        omega
      rw [List.map_cons, List.reverse_cons, scanDigits_snoc,
        inductionHypothesis rest, Nat.ofDigits_cons, value]
      · omega
      · intro byte member
        rw [List.mem_reverse, List.mem_map] at member
        obtain ⟨other, among, rfl⟩ := member
        exact isDigit_digitByte (rest other among)
      · exact isDigit_digitByte here

theorem numeral_decimal (value : Nat) : Numeral value (decimal value) := by
  by_cases zero : value = 0
  · subst value
    have zeroDigit : isDigit 48 = true := rfl
    exact @Numeral.plain [48] ⟨by simp, by simp [zeroDigit]⟩
  · have small : ∀ digit ∈ Nat.digits 10 value, digit < 10 :=
      fun digit member => Nat.digits_lt_base (by decide) member
    have wellFormed : Digits (decimal value) := by
      rw [decimal, if_neg zero]
      constructor
      · simp [Nat.digits_ne_nil_iff_ne_zero, zero]
      · intro byte member
        rw [List.mem_reverse, List.mem_map] at member
        obtain ⟨digit, among, rfl⟩ := member
        exact isDigit_digitByte (small digit among)
    have read : scanDigits 0 (decimal value) = value := by
      rw [decimal, if_neg zero, scanDigits_reverse small,
        Nat.ofDigits_digits]
    have numeral := Numeral.plain wellFormed
    rw [read] at numeral
    exact numeral

end LibSklt.Foundation.Decimal
