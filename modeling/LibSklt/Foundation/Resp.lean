import LibSklt.Foundation.Decimal

/-!
# Replies of the Redis serialisation protocol

A reply is an error, a status, an integer, a bulk string or a list of bulk
strings; a bulk string and a list may be null.  `Encodes` says which bytes
are a reply: a marker, a line or a length, and the contents, with each line
and each content ended by CR and LF.  Numbers may be written with any
numeral.
-/

namespace LibSklt.Foundation.Resp

open LibSklt.Foundation.Decimal

/-- The end of a line. -/
def crlf : List UInt8 := [13, 10]

/-- The five kinds of replies. -/
inductive Reply where
  | error (text : List UInt8)
  | status (text : List UInt8)
  | integer (value : Int)
  | bulk (content : Option (List UInt8))
  | multiBulk (elements : Option (List (Option (List UInt8))))
deriving DecidableEq

/-- The text of a line holds neither CR nor LF. -/
def Line (text : List UInt8) : Prop :=
  ∀ byte ∈ text, byte ≠ 13 ∧ byte ≠ 10

/-- The bytes of a bulk string behind its marker. -/
inductive EncodesBulk : Option (List UInt8) → List UInt8 → Prop where
  | null {number : List UInt8} (numeral : Numeral (-1) number) :
      EncodesBulk none (number ++ crlf)
  | string {content number : List UInt8}
      (numeral : Numeral content.length number) :
      EncodesBulk (some content) (number ++ crlf ++ content ++ crlf)

/-- The bytes of the elements of a list, each with its marker. -/
inductive EncodesElements :
    List (Option (List UInt8)) → List UInt8 → Prop where
  | nil : EncodesElements [] []
  | cons {element : Option (List UInt8)}
      {elements : List (Option (List UInt8))}
      {first rest : List UInt8}
      (head : EncodesBulk element first)
      (tail : EncodesElements elements rest) :
      EncodesElements (element :: elements) (36 :: first ++ rest)

/-- The bytes of a reply. -/
inductive Encodes : Reply → List UInt8 → Prop where
  | error {text : List UInt8} (line : Line text) :
      Encodes (.error text) (45 :: text ++ crlf)
  | status {text : List UInt8} (line : Line text) :
      Encodes (.status text) (43 :: text ++ crlf)
  | integer {value : Int} {number : List UInt8}
      (numeral : Numeral value number) :
      Encodes (.integer value) (58 :: number ++ crlf)
  | bulk {content : Option (List UInt8)} {bytes : List UInt8}
      (encodes : EncodesBulk content bytes) :
      Encodes (.bulk content) (36 :: bytes)
  | nullMultiBulk {number : List UInt8} (numeral : Numeral (-1) number) :
      Encodes (.multiBulk none) (42 :: number ++ crlf)
  | multiBulk {elements : List (Option (List UInt8))}
      {number bytes : List UInt8}
      (numeral : Numeral elements.length number)
      (encodes : EncodesElements elements bytes) :
      Encodes (.multiBulk (some elements))
        (42 :: number ++ crlf ++ bytes)

/-! ## The encoding of a list of strings -/

/-- A bulk string with its marker. -/
def encodeBulk (content : List UInt8) : List UInt8 :=
  36 :: (decimal content.length ++ crlf ++ content ++ crlf)

/-- A list of bulk strings behind its marker. -/
def encodeMultiBulk (contents : List (List UInt8)) : List UInt8 :=
  decimal contents.length ++ crlf ++ contents.flatMap encodeBulk

theorem encodesElements_encodeBulk (contents : List (List UInt8)) :
    EncodesElements (contents.map some) (contents.flatMap encodeBulk) := by
  induction contents with
  | nil => exact .nil
  | cons content contents inductionHypothesis =>
      exact .cons (.string (numeral_decimal _)) inductionHypothesis

end LibSklt.Foundation.Resp
