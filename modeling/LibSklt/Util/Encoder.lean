import LibSklt.Foundation.Hex
import LibSklt.Foundation.MachineWord

/-!
# The encoder (`util/encoder.h`)

`Encoder::StrtoBinary` writes the bytes of a string as hexadecimal digits:
each byte is formatted by `"%02x"` into an array of three bytes, which is then
appended to the destination.  The bytes are plain, signed `char`s and are
promoted to `int`, so a byte from `0x80` on reaches the format as a 32-bit
word with its sign extended, and its text has eight digits instead of two.

`SNPRINTF` is `sprintf_s`, which checks the size of its array: for a text that
does not fit it calls the invalid parameter handler, which ends the program.
-/

namespace LibSklt.Util.Encoder

open LibSklt.Foundation.Hex
open LibSklt.Foundation.MachineWord

/-- `sizeof(charTmp)`. -/
def scratchSize : Nat := 3

/-- The text of `"%02x"` for `src[nCnt]`: the signed `char` is promoted to
`int` and read by the format as `unsigned int`. -/
def formatted (byte : UInt8) : List UInt8 :=
  hexText 2 (unsignedCast 32 (signedCast 8 byte.toNat))

/-- `sprintf_s` into an array of zeroes: the array afterwards, or nothing if
the text and its terminator do not fit. -/
def sprintfS (size : Nat) (text : List UInt8) : Option (List UInt8) :=
  if text.length < size then
    some (text ++ List.replicate (size - text.length) 0)
  else
    none

/-- `strcat`: the text of an array is appended to a text. -/
def strcat (dst charTmp : List UInt8) : List UInt8 :=
  dst ++ charTmp.takeWhile (· ≠ 0)

/-- `Encoder::StrtoBinary`, for the bytes of `src` from `nCnt` on. -/
def strtoBinary : List UInt8 → List UInt8 → Option (List UInt8)
  | [], dst => some dst
  | byte :: src, dst =>
      match sprintfS scratchSize (formatted byte) with
      | none => none
      | some charTmp => strtoBinary src (strcat dst charTmp)

/-- A string whose encoding is faithful: every text fits the array, and the
destination holds two digits for each byte, from which the string is read
back. -/
structure Faithful (src : List UInt8) : Prop where
  /-- Each text and its terminator fit the array. -/
  fits : ∀ byte ∈ src, (formatted byte).length < scratchSize
  /-- The destination has two digits for each byte, in order. -/
  encoded :
    ∃ dst,
      strtoBinary src [] = some dst ∧ dst = encodeHex src ∧
        dst.length = 2 * src.length ∧
        (∀ character ∈ dst, (hexValue character).isSome = true) ∧
        decodeHex dst = some src

/-! ## The text of one byte -/

theorem formatted_of_lt {byte : UInt8} (ascii : byte.toNat < 128) :
    formatted byte =
      [hexDigit (byte.toNat / 16), hexDigit (byte.toNat % 16)] := by
  rw [formatted, signedCast_of_lt ascii,
    unsignedCast_of_lt (by omega), hexText_of_byte (by omega)]

/-- A negative `char` has more digits than the array has room for. -/
theorem scratchSize_le_length_formatted
    {byte : UInt8} (negative : 128 ≤ byte.toNat) :
    scratchSize ≤ (formatted byte).length := by
  have bounded : byte.toNat < 2 ^ 8 := byte.toNat_lt
  have extended :
      signedCast 8 byte.toNat = -((256 - byte.toNat : Nat) : Int) := by
    rw [signedCast_of_ge negative bounded]
    omega
  rw [formatted, extended, unsignedCast_neg (by omega) (by omega)]
  exact two_lt_length_hexText (by omega)

theorem length_formatted_lt_iff (byte : UInt8) :
    (formatted byte).length < scratchSize ↔ byte.toNat < 128 := by
  constructor
  · intro fits
    by_contra negative
    have long := scratchSize_le_length_formatted (Nat.not_lt.mp negative)
    omega
  · intro ascii
    rw [formatted_of_lt ascii]
    exact Nat.lt_succ_self 2

/-! ## Whole strings -/

/-- One round of the loop appends the two digits of an ASCII byte. -/
theorem strtoBinary_cons
    {byte : UInt8} (ascii : byte.toNat < 128) (src dst : List UInt8) :
    strtoBinary (byte :: src) dst =
      strtoBinary src
        (dst ++ [hexDigit (byte.toNat / 16), hexDigit (byte.toNat % 16)]) := by
  have upper : hexDigit (byte.toNat / 16) ≠ 0 :=
    hexDigit_ne_zero (by omega)
  have lower : hexDigit (byte.toNat % 16) ≠ 0 :=
    hexDigit_ne_zero (by omega)
  rw [strtoBinary, formatted_of_lt ascii]
  simp [sprintfS, scratchSize, strcat, upper, lower]

/-- The loop appends the digits of the remaining bytes. -/
theorem strtoBinary_eq
    {src : List UInt8} (ascii : ∀ byte ∈ src, byte.toNat < 128)
    (dst : List UInt8) :
    strtoBinary src dst = some (dst ++ encodeHex src) := by
  induction src generalizing dst with
  | nil => simp [strtoBinary, encodeHex]
  | cons byte src inductionHypothesis =>
      rw [strtoBinary_cons (ascii byte List.mem_cons_self),
        inductionHypothesis
          (fun other member => ascii other (List.mem_cons_of_mem _ member))]
      simp [encodeHex]

/-- The encoding is faithful exactly for the strings of ASCII bytes. -/
theorem faithful_iff_ascii (src : List UInt8) :
    Faithful src ↔ ∀ byte ∈ src, byte.toNat < 128 := by
  constructor
  · intro faithful byte member
    exact (length_formatted_lt_iff byte).mp (faithful.fits byte member)
  · intro ascii
    refine
      { fits := fun byte member =>
          (length_formatted_lt_iff byte).mpr (ascii byte member)
        encoded := ⟨encodeHex src, strtoBinary_eq ascii [], rfl,
          length_encodeHex src, ?_, decodeHex_encodeHex src⟩ }
    intro character member
    exact isSome_hexValue_of_mem member

/-- The text of the byte `0x80` is `"ffffff80"`, and the program ends. -/
theorem strtoBinary_of_0x80 :
    formatted 0x80 = [102, 102, 102, 102, 102, 102, 56, 48] ∧
      strtoBinary [0x80] [] = none ∧ ¬ Faithful [0x80] := by
  refine ⟨?_, rfl, ?_⟩
  · simp [formatted, hexText, hexNumeral, hexDigit, unsignedCast, signedCast]
  · intro faithful
    have fits := faithful.fits 0x80 List.mem_cons_self
    have negative : scratchSize ≤ (formatted 0x80).length :=
      scratchSize_le_length_formatted (by decide)
    omega

end LibSklt.Util.Encoder
