import Mathlib.Data.Nat.Digits.Lemmas
import Mathlib.Tactic

/-!
# Hexadecimal texts

Numbers and bytes as hexadecimal digits, in lower case and in ASCII.
`hexText width value` is the shortest text of a number, filled up with zeroes
on the left; it has two digits exactly if the number is a byte.  A sequence
of bytes is encoded by two digits for each byte, and `decodeHex` reads such a
text back.
-/

namespace LibSklt.Foundation.Hex

/-- The character of a hexadecimal digit. -/
def hexDigit (digit : Nat) : UInt8 :=
  if digit < 10 then UInt8.ofNat (48 + digit) else UInt8.ofNat (87 + digit)

/-- The value of a hexadecimal digit. -/
def hexValue (character : UInt8) : Option Nat :=
  if 48 ≤ character ∧ character ≤ 57 then
    some (character.toNat - 48)
  else if 97 ≤ character ∧ character ≤ 102 then
    some (character.toNat - 87)
  else
    none

/-- The digits of a number, without leading zeroes. -/
def hexNumeral (value : Nat) : List UInt8 :=
  if value = 0 then
    [hexDigit 0]
  else
    ((Nat.digits 16 value).map hexDigit).reverse

/-- The digits of a number, with leading zeroes up to a width. -/
def hexText (width value : Nat) : List UInt8 :=
  List.replicate (width - (hexNumeral value).length) (hexDigit 0) ++
    hexNumeral value

/-- Two digits for each byte. -/
def encodeHex (bytes : List UInt8) : List UInt8 :=
  bytes.flatMap fun byte =>
    [hexDigit (byte.toNat / 16), hexDigit (byte.toNat % 16)]

/-- The bytes for pairs of digits. -/
def decodeHex : List UInt8 → Option (List UInt8)
  | [] => some []
  | [_] => none
  | upper :: lower :: rest =>
      match hexValue upper, hexValue lower with
      | some high, some low =>
          (decodeHex rest).map (UInt8.ofNat (16 * high + low) :: ·)
      | _, _ => none

/-! ## Digits -/

theorem hexValue_hexDigit {digit : Nat} (small : digit < 16) :
    hexValue (hexDigit digit) = some digit := by
  interval_cases digit <;> rfl

theorem hexDigit_ne_zero {digit : Nat} (small : digit < 16) :
    hexDigit digit ≠ 0 := by
  interval_cases digit <;> decide

/-! ## The text of a number -/

/-- A byte has two digits. -/
theorem hexText_of_byte {value : Nat} (small : value < 256) :
    hexText 2 value = [hexDigit (value / 16), hexDigit (value % 16)] := by
  rcases Nat.eq_zero_or_pos value with rfl | positive
  · simp [hexText, hexNumeral]
  · rw [hexText, hexNumeral, if_neg positive.ne',
      Nat.digits_def' (by decide) positive]
    rcases Nat.eq_zero_or_pos (value / 16) with zero | upper
    · rw [zero]
      simp
    · have single : Nat.digits 16 (value / 16) = [value / 16] :=
        Nat.digits_of_lt 16 _ upper.ne' (by omega)
      rw [single]
      simp

/-- A larger number has more than two digits. -/
theorem two_lt_length_hexText {value : Nat} (large : 256 ≤ value) :
    2 < (hexText 2 value).length := by
  have digits : 2 < (Nat.digits 16 value).length :=
    (Nat.lt_digits_length_iff (by decide) value).mpr large
  rw [hexText, hexNumeral, if_neg (by omega), List.length_append,
    List.length_reverse, List.length_map]
  omega

/-! ## Sequences of bytes -/

theorem length_encodeHex (bytes : List UInt8) :
    (encodeHex bytes).length = 2 * bytes.length := by
  rw [encodeHex, List.length_flatMap]
  simp [Nat.mul_comm]

theorem isSome_hexValue_of_mem
    {bytes : List UInt8} {character : UInt8}
    (member : character ∈ encodeHex bytes) :
    (hexValue character).isSome = true := by
  obtain ⟨byte, -, among⟩ := List.mem_flatMap.mp member
  have bounded := byte.toNat_lt
  simp only [List.mem_cons, List.not_mem_nil, or_false] at among
  rcases among with rfl | rfl
  · rw [hexValue_hexDigit (by omega)]
    rfl
  · rw [hexValue_hexDigit (by omega)]
    rfl

/-- The bytes are recovered from their digits. -/
theorem decodeHex_encodeHex (bytes : List UInt8) :
    decodeHex (encodeHex bytes) = some bytes := by
  induction bytes with
  | nil => rfl
  | cons byte bytes inductionHypothesis =>
      have bounded := byte.toNat_lt
      have whole : 16 * (byte.toNat / 16) + byte.toNat % 16 = byte.toNat := by
        omega
      rw [encodeHex, List.flatMap_cons, ← encodeHex]
      simp only [List.cons_append, List.nil_append, decodeHex]
      rw [hexValue_hexDigit (by omega), hexValue_hexDigit (by omega)]
      simp only
      rw [inductionHypothesis, whole, UInt8.ofNat_toNat, Option.map_some]

end LibSklt.Foundation.Hex
