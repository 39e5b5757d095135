import Mathlib.Tactic

/-!
# Memory images of unsigned numbers

`leBytes size value` are the `size` bytes that a little-endian machine stores
for `value`, and `ofLe` reads such an image.  Both directions are inverse to
each other on images of the right size, and a number is below `256 ^ size`
exactly when its image of that size is faithful.  `beBytes size value` are
the same bytes as a big-endian machine stores them.

Reversing an image is a permutation of bit positions; `leBytes_reverse` is
the criterion by which a byte swap written with shifts is recognised.
-/

namespace LibSklt.Foundation.ByteImage

/-- The `size` low bytes of a number, least significant byte first. -/
def leBytes : Nat → Nat → List UInt8
  | 0, _ => []
  | size + 1, value => UInt8.ofNat value :: leBytes size (value / 256)

/-- The number with the given bytes, least significant byte first. -/
def ofLe : List UInt8 → Nat
  | [] => 0
  | byte :: rest => byte.toNat + 256 * ofLe rest

/-- The `size` low bytes of a number, most significant byte first. -/
def beBytes : Nat → Nat → List UInt8
  | 0, _ => []
  | size + 1, value => UInt8.ofNat (value / 256 ^ size) :: beBytes size value

@[simp]
theorem length_leBytes (size value : Nat) :
    (leBytes size value).length = size := by
  induction size generalizing value with
  | zero => rfl
  | succ size inductionHypothesis =>
      rw [leBytes, List.length_cons, inductionHypothesis]

/-- Reading an image gives the number modulo the range. -/
theorem ofLe_leBytes (size value : Nat) :
    ofLe (leBytes size value) = value % 256 ^ size := by
  induction size generalizing value with
  | zero => simp [leBytes, ofLe, Nat.mod_one]
  | succ size inductionHypothesis =>
      rw [leBytes, ofLe, inductionHypothesis, pow_succ', Nat.mod_mul,
        UInt8.toNat_ofNat']

theorem ofLe_leBytes_of_lt
    {size value : Nat} (fits : value < 256 ^ size) :
    ofLe (leBytes size value) = value := by
  rw [ofLe_leBytes, Nat.mod_eq_of_lt fits]

/-- Numbers in range are determined by their images. -/
theorem eq_of_leBytes_eq
    {size left right : Nat}
    (leftFits : left < 256 ^ size) (rightFits : right < 256 ^ size)
    (same : leBytes size left = leBytes size right) :
    left = right := by
  rw [← ofLe_leBytes_of_lt leftFits, same, ofLe_leBytes_of_lt rightFits]

theorem ofLe_lt (image : List UInt8) :
    ofLe image < 256 ^ image.length := by
  induction image with
  | nil => simp [ofLe]
  | cons byte rest inductionHypothesis =>
      have bounded := byte.toNat_lt
      rw [ofLe, List.length_cons, pow_succ']
      omega

/-- Storing what was read gives the image back. -/
theorem leBytes_ofLe (image : List UInt8) :
    leBytes image.length (ofLe image) = image := by
  induction image with
  | nil => rfl
  | cons byte rest inductionHypothesis =>
      have bounded := byte.toNat_lt
      have low : UInt8.ofNat (byte.toNat + 256 * ofLe rest) = byte := by
        apply UInt8.toNat_inj.mp
        rw [UInt8.toNat_ofNat']
        omega
      have high : (byte.toNat + 256 * ofLe rest) / 256 = ofLe rest := by
        omega
      rw [List.length_cons, leBytes, ofLe, low, high,
        inductionHypothesis]

theorem leBytes_zero (size : Nat) :
    leBytes size 0 = List.replicate size 0 := by
  induction size with
  | zero => rfl
  | succ size inductionHypothesis =>
      rw [leBytes, Nat.zero_div, inductionHypothesis, List.replicate_succ]
      rfl

/-! ## Byte reversal -/

theorem leBytes_succ (size value : Nat) :
    leBytes (size + 1) value =
      leBytes size value ++ [UInt8.ofNat (value / 256 ^ size)] := by
  induction size generalizing value with
  | zero => simp [leBytes]
  | succ size inductionHypothesis =>
      rw [leBytes, inductionHypothesis, Nat.div_div_eq_div_mul,
        ← pow_succ', leBytes, List.cons_append]

/-- The two byte orders are opposite. -/
theorem reverse_leBytes (size value : Nat) :
    (leBytes size value).reverse = beBytes size value := by
  induction size with
  | zero => rfl
  | succ size inductionHypothesis =>
      rw [leBytes_succ, List.reverse_append, inductionHypothesis, beBytes]
      rfl

theorem getElem_leBytes
    {size value index : Nat} (inside : index < (leBytes size value).length) :
    (leBytes size value)[index] = UInt8.ofNat (value / 256 ^ index) := by
  induction size generalizing value index with
  | zero => simp [leBytes] at inside
  | succ size inductionHypothesis =>
      cases index with
      | zero => simp [leBytes]
      | succ index =>
          simp only [leBytes, List.getElem_cons_succ]
          rw [inductionHypothesis, Nat.div_div_eq_div_mul, pow_succ']

/-- Two bytes of numbers agree when their bits do. -/
theorem byte_eq_of_testBit
    {left right first second : Nat}
    (agree :
      ∀ bit < 8,
        left.testBit (8 * first + bit) =
          right.testBit (8 * second + bit)) :
    UInt8.ofNat (left / 256 ^ first) =
      UInt8.ofNat (right / 256 ^ second) := by
  have power : ∀ index : Nat, (256 : Nat) ^ index = 2 ^ (8 * index) := by
    intro index
    rw [pow_mul]
    norm_num
  apply UInt8.toNat_inj.mp
  rw [UInt8.toNat_ofNat', UInt8.toNat_ofNat', power, power]
  apply Nat.eq_of_testBit_eq
  intro bit
  rw [Nat.testBit_mod_two_pow, Nat.testBit_mod_two_pow,
    Nat.testBit_div_two_pow, Nat.testBit_div_two_pow]
  by_cases inside : bit < 8
  · rw [Nat.add_comm bit, Nat.add_comm bit, agree bit inside]
  · simp [inside]

/--
A number whose bits are those of another with the bytes in opposite order
has the reversed image.
-/
theorem leBytes_reverse
    {size value swapped : Nat}
    (bits :
      ∀ index < 8 * size,
        swapped.testBit index =
          value.testBit (index + 8 * (size - 1) - 16 * (index / 8))) :
    leBytes size swapped = (leBytes size value).reverse := by
  apply List.ext_getElem
  · simp
  · intro index inside _
    have below : index < size := by simpa using inside
    rw [List.getElem_reverse, getElem_leBytes, getElem_leBytes]
    apply byte_eq_of_testBit
    intro bit small
    rw [bits _ (by omega), length_leBytes]
    congr 1
    omega

end LibSklt.Foundation.ByteImage
