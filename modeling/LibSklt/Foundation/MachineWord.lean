import Mathlib.Data.Int.ModEq
import Mathlib.Tactic

/-!
# Arithmetic of fixed-width words

An unsigned word of a given width is a natural number below `2 ^ width`;
sums and differences are reduced modulo `2 ^ width`.  The two casts turn an
integer into the word, or the signed word, with the same bits.
-/

namespace LibSklt.Foundation.MachineWord

/-- The sum of two unsigned words. -/
def addWord (width left right : Nat) : Nat :=
  (left + right) % 2 ^ width

/-- The difference of two unsigned words. -/
def subWord (width left right : Nat) : Nat :=
  (left + (2 ^ width - right % 2 ^ width)) % 2 ^ width

/-- Conversion of an integer to an unsigned word. -/
def unsignedCast (width : Nat) (value : Int) : Nat :=
  (value % (2 ^ width : Nat)).toNat

/-- Conversion of an integer to a signed word. -/
def signedCast (width : Nat) (value : Int) : Int :=
  let bits := unsignedCast width value
  if bits < 2 ^ (width - 1) then bits else bits - (2 ^ width : Nat)

theorem addWord_of_lt
    {width left right : Nat} (fits : left + right < 2 ^ width) :
    addWord width left right = left + right :=
  Nat.mod_eq_of_lt fits

/-- A sum that leaves the range wraps once. -/
theorem addWord_of_ge
    {width left right : Nat} (wraps : 2 ^ width ≤ left + right)
    (leftWord : left < 2 ^ width) (rightWord : right < 2 ^ width) :
    addWord width left right = left + right - 2 ^ width := by
  rw [addWord, Nat.mod_eq_sub_mod wraps, Nat.mod_eq_of_lt (by omega)]

/-- Subtracting what was added gives the first summand back. -/
theorem subWord_addWord
    {width left : Nat} (fits : left < 2 ^ width) (right : Nat) :
    subWord width (addWord width left right) right = left := by
  have positive := Nat.two_pow_pos width
  have reduced : right % 2 ^ width < 2 ^ width :=
    Nat.mod_lt _ positive
  have split := Nat.mod_add_div right (2 ^ width)
  rw [subWord, addWord, Nat.mod_add_mod]
  have regrouped :
      left + right + (2 ^ width - right % 2 ^ width) =
        left + 2 ^ width * (right / 2 ^ width + 1) := by
    rw [Nat.mul_add, Nat.mul_one]
    omega
  rw [regrouped, Nat.add_mul_mod_self_left, Nat.mod_eq_of_lt fits]

/-- A natural number below the range survives the unsigned cast. -/
theorem unsignedCast_of_lt
    {width value : Nat} (small : value < 2 ^ width) :
    unsignedCast width value = value := by
  rw [unsignedCast,
    Int.emod_eq_of_lt (by omega) (by exact_mod_cast small)]
  rfl

/-- A negative number is counted down from the range. -/
theorem unsignedCast_neg
    {width count : Nat} (positive : 0 < count) (small : count ≤ 2 ^ width) :
    unsignedCast width (-count) = 2 ^ width - count := by
  rw [unsignedCast, Int.emod_eq_add_self_emod,
    Int.emod_eq_of_lt (by omega) (by omega)]
  omega

/-- The word of `-1` is the largest one. -/
theorem unsignedCast_neg_one (width : Nat) :
    unsignedCast width (-1) = 2 ^ width - 1 :=
  unsignedCast_neg Nat.one_pos (Nat.two_pow_pos width)

/-- A number below half the range survives the signed cast. -/
theorem signedCast_of_lt
    {width value : Nat} (small : value < 2 ^ (width - 1)) :
    signedCast width value = value := by
  have range : 2 ^ (width - 1) ≤ 2 ^ width :=
    Nat.pow_le_pow_right (by omega) (by omega)
  rw [signedCast, unsignedCast_of_lt (by omega), if_pos small]

/-- A number in the upper half of the range becomes negative. -/
theorem signedCast_of_ge
    {width value : Nat} (large : 2 ^ (width - 1) ≤ value)
    (small : value < 2 ^ width) :
    signedCast width value = value - (2 ^ width : Nat) := by
  rw [signedCast, unsignedCast_of_lt small,
    if_neg (Nat.not_lt.mpr large)]

/-- The bits of an integer, as an integer. -/
theorem natCast_unsignedCast (width : Nat) (value : Int) :
    (unsignedCast width value : Int) = value % (2 ^ width : Nat) := by
  have positive := Nat.two_pow_pos width
  exact Int.toNat_of_nonneg (Int.emod_nonneg value (by omega))

theorem unsignedCast_lt (width : Nat) (value : Int) :
    unsignedCast width value < 2 ^ width := by
  have positive := Nat.two_pow_pos width
  have upper :=
    Int.emod_lt_of_pos value (show (0 : Int) < (2 ^ width : Nat) by omega)
  rw [← natCast_unsignedCast] at upper
  exact Int.ofNat_lt.mp upper

/-- Half of the words stand for numbers that are not negative. -/
theorem two_pow_eq_twice {width : Nat} (positive : 0 < width) :
    2 ^ width = 2 * 2 ^ (width - 1) := by
  rw [← Nat.pow_succ', Nat.succ_eq_add_one, Nat.sub_add_cancel positive]

theorem signedCast_range
    {width : Nat} (positive : 0 < width) (value : Int) :
    -(2 ^ (width - 1) : Nat) ≤ signedCast width value ∧
      signedCast width value < (2 ^ (width - 1) : Nat) := by
  have bits := unsignedCast_lt width value
  have twice := two_pow_eq_twice positive
  rw [signedCast]
  split <;> omega

/-- A signed word is read back from its bits. -/
theorem signedCast_unsignedCast
    {width : Nat} (positive : 0 < width) {value : Int}
    (lower : -(2 ^ (width - 1) : Nat) ≤ value)
    (upper : value < (2 ^ (width - 1) : Nat)) :
    signedCast width (unsignedCast width value) = value := by
  have twice := two_pow_eq_twice positive
  have bits := natCast_unsignedCast width value
  rcases lt_or_ge value 0 with negative | nonnegative
  · rw [Int.emod_eq_add_self_emod,
      Int.emod_eq_of_lt (by omega) (by omega)] at bits
    rw [signedCast_of_ge (by omega) (by omega)]
    omega
  · rw [Int.emod_eq_of_lt nonnegative (by omega)] at bits
    rw [signedCast_of_lt (by omega)]
    exact bits

/-- A signed word survives the signed cast. -/
theorem signedCast_of_range
    {width : Nat} (positive : 0 < width) {value : Int}
    (lower : -(2 ^ (width - 1) : Nat) ≤ value)
    (upper : value < (2 ^ (width - 1) : Nat)) :
    signedCast width value = value := by
  have same := signedCast_unsignedCast positive lower upper
  rwa [signedCast, unsignedCast_of_lt (unsignedCast_lt width value),
    ← signedCast] at same

/-- The bits of a signed word are those it was made of. -/
theorem unsignedCast_signedCast
    {width bits : Nat} (small : bits < 2 ^ width) :
    unsignedCast width (signedCast width bits) = bits := by
  rcases Nat.lt_or_ge bits (2 ^ (width - 1)) with lower | upper
  · rw [signedCast_of_lt lower, unsignedCast_of_lt small]
  · rw [signedCast_of_ge upper small, unsignedCast, Int.sub_emod_right,
      ← unsignedCast, unsignedCast_of_lt small]

/-! ## Words as residues -/

theorem addWord_modEq (width left right : Nat) :
    ((addWord width left right : Nat) : Int) ≡ left + right
      [ZMOD (2 ^ width : Nat)] := by
  rw [addWord, Int.natCast_mod, Nat.cast_add]
  exact Int.mod_modEq _ _

theorem subWord_modEq (width left right : Nat) :
    ((subWord width left right : Nat) : Int) ≡ left - right
      [ZMOD (2 ^ width : Nat)] := by
  have reduced := Nat.mod_lt right (Nat.two_pow_pos width)
  have opposite :
      ((2 ^ width - right % 2 ^ width : Nat) : Int) ≡ -right
        [ZMOD (2 ^ width : Nat)] := by
    rw [Nat.cast_sub reduced.le, Int.natCast_mod, ← zero_sub]
    refine Int.ModEq.sub ?_ (Int.mod_modEq _ _)
    exact Int.modEq_zero_iff_dvd.mpr (dvd_refl _)
  rw [subWord, Int.natCast_mod, Nat.cast_add, sub_eq_add_neg]
  exact (Int.mod_modEq _ _).trans ((Int.ModEq.refl _).add opposite)

theorem signedCast_modEq (width : Nat) (value : Int) :
    signedCast width value ≡ value [ZMOD (2 ^ width : Nat)] := by
  have bits :
      (unsignedCast width value : Int) ≡ value [ZMOD (2 ^ width : Nat)] := by
    rw [natCast_unsignedCast]
    exact Int.mod_modEq _ _
  rw [signedCast]
  split
  · exact bits
  · rw [Int.ModEq, Int.sub_emod_right]
    exact bits

/-- A signed word depends on the residue only. -/
theorem signedCast_congr
    {width : Nat} {left right : Int}
    (same : left ≡ right [ZMOD (2 ^ width : Nat)]) :
    signedCast width left = signedCast width right := by
  rw [signedCast, signedCast, unsignedCast, unsignedCast, same]

theorem subWord_of_le
    {width left right : Nat} (ordered : right ≤ left)
    (small : left < 2 ^ width) : subWord width left right = left - right := by
  have reduced : right % 2 ^ width = right :=
    Nat.mod_eq_of_lt (ordered.trans_lt small)
  have wrapped : left + (2 ^ width - right) = left - right + 2 ^ width := by
    omega
  rw [subWord, reduced, wrapped, Nat.add_mod_right,
    Nat.mod_eq_of_lt (by omega)]

theorem subWord_self
    {width value : Nat} (small : value < 2 ^ width) :
    subWord width value value = 0 := by
  rw [subWord_of_le (Nat.le_refl _) small, Nat.sub_self]

/-- A negative difference wraps once. -/
theorem subWord_of_lt
    {width left right : Nat} (ordered : left < right)
    (small : right < 2 ^ width) :
    subWord width left right = left + 2 ^ width - right := by
  rw [subWord, Nat.mod_eq_of_lt small, ← Nat.add_sub_assoc small.le,
    Nat.mod_eq_of_lt (by omega)]

/-- A word that stands for a number in range is this number. -/
theorem eq_of_modEq
    {width count : Nat} {value : Int} (word : count < 2 ^ width)
    (nonnegative : 0 ≤ value) (small : value < (2 ^ width : Nat))
    (counted : (count : Int) ≡ value [ZMOD (2 ^ width : Nat)]) :
    (count : Int) = value := by
  rw [Int.ModEq, Int.emod_eq_of_lt (by omega) (by omega),
    Int.emod_eq_of_lt nonnegative small] at counted
  exact counted

end LibSklt.Foundation.MachineWord
