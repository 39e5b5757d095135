import LibSklt.Foundation.Decimal
import LibSklt.PacketGenerator.ProtocolProcess

/-!
# The packet builder (`packet_generator/packet_test.py`)

`GetSendData` reads the rows of a definition without `ORDER BY`, takes for
each of them the next piece of the text `sendvalue` and packs it with the
format letter of its own table `parse_type`.  The generator reads the same
rows in the order of `order_no` and looks their types up in
`type_dictionary`.
-/

namespace LibSklt.PacketGenerator

open LibSklt.Foundation.Decimal
open LibSklt.Util
open LibSklt.Util.ByteOrder

/-- A row of the tables `Header` and `Send`, without its `unique_no`. -/
structure Row where
  orderNo : Int
  type : String
  name : String
deriving DecidableEq

/-! ## The rows in the generator -/

/-- The argument that `write_generator` appends for a row. -/
def Row.arg (row : Row) : Option Arg :=
  (typeReplacement row.type).map fun type => ⟨type, row.name⟩

/-- `order by order_no`. -/
def orderedRows (rows : List Row) : List Row :=
  rows.mergeSort fun first second => first.orderNo ≤ second.orderNo

/-- `send_arg` of `write_generator`. -/
def sendArgs (rows : List Row) : Option (List Arg) :=
  (orderedRows rows).mapM Row.arg

/-! ## The rows in the packet builder -/

/-- The format letters of `parse_type`. -/
inductive PackFormat where
  | b
  | B
  | h
  | H
  | i
  | I
  | q
  | Q
  | s
deriving DecidableEq

/-- The integers that a letter packs. -/
def PackFormat.intType : PackFormat → Option IntType
  | .b => some .int8
  | .B => some .uint8
  | .h => some .int16
  | .H => some .uint16
  | .i => some .int32
  | .I => some .uint32
  | .q => some .int64
  | .Q => some .uint64
  | .s => none

/-- `parse_type`, without the sizes, which nothing reads. -/
def parseType : List (String × PackFormat) :=
  [("char", .B),
    ("uchar", .b),
    ("short", .h),
    ("int16", .h),
    ("ushort", .H),
    ("uint16", .H),
    ("int", .i),
    ("int32", .i),
    ("uint", .I),
    ("uint32", .I),
    ("int64", .q),
    ("uint64", .Q),
    ("string", .s)]

/-- The blanks that `int` skips. -/
def isBlank (byte : UInt8) : Bool :=
  byte = 32 || (9 ≤ byte && byte ≤ 13)

/-- A text without the blanks around it. -/
def strip (text : List UInt8) : List UInt8 :=
  ((text.dropWhile isBlank).reverse.dropWhile isBlank).reverse

/-- The number that a text of digits denotes. -/
def digitsToNat (text : List UInt8) : Option Nat :=
  if text ≠ [] ∧ text.all isDigit then some (scanDigits 0 text) else none

/-- `int(text)`; `none` is a `ValueError`. -/
def pythonInt (text : List UInt8) : Option Int :=
  match strip text with
  | 45 :: digits => (digitsToNat digits).map fun value => -value
  | 43 :: digits => (digitsToNat digits).map fun value => value
  | digits => (digitsToNat digits).map fun value => value

/-- `struct.pack('>' + letter, value)`; `none` is a `struct.error`. -/
def structPack (format : PackFormat) (value : Int) : Option (List UInt8) :=
  format.intType.bind fun type =>
    if type.InRange value then some (type.image value).reverse else none

/-- What `GetSendData` appends for a row of the header. -/
def packHeaderField (row : Row) (text : List UInt8) : Option (List UInt8) :=
  (parseType.lookup row.type).bind fun format =>
    (pythonInt text).bind (structPack format)

/-- What `GetSendData` appends for a row of `Send`. -/
def packSendField (row : Row) (text : List UInt8) : Option (List UInt8) :=
  (parseType.lookup row.type).bind fun format =>
    if format = .s then
      some text
    else
      (pythonInt text).bind (structPack format)

/-- The loops over the rows, from the element `index` of the list on. -/
def packRows (pack : Row → List UInt8 → Option (List UInt8))
    (sendValueList : List (List UInt8)) :
    List Row → Nat → Option (List UInt8 × Nat)
  | [], index => some ([], index)
  | row :: rows, index =>
      sendValueList[index]?.bind fun text =>
        (pack row text).bind fun bytes =>
          (packRows pack sendValueList rows (index + 1)).map
            fun (buffer, index) => (bytes ++ buffer, index)

/-- The bytes of a text; the strings of the builder hold UTF-8. -/
def encode (text : List Char) : List UInt8 :=
  text.flatMap String.utf8EncodeChar

/-- `send_value.split(',')`. -/
def splitSendValue (sendValue : List Char) : List (List UInt8) :=
  (sendValue.splitOn ',').map encode

/-- `struct.pack(endian + 'I', 51409)`. -/
def packedEnd : List UInt8 :=
  (IntType.uint32.image 51409).reverse

/--
`GetSendData`, on the rows of the header and of `Send` in storage order.  An
exception is `none`.
-/
def getSendData (headerRows rows : List Row) (sendValue : List Char) :
    Option (List UInt8) :=
  (packRows packHeaderField (splitSendValue sendValue) headerRows 0).bind
    fun (header, index) =>
      (packRows packSendField (splitSendValue sendValue) rows index).map
        fun (body, _) => header ++ body ++ packedEnd

/-! ## Definitions -/

/--
The rows of one definition in `Send`, in storage order.  `order_no` belongs to
the primary key; the names are parameters of one function, and the generated
code compiles only if the length of each string is one of the integers.
-/
structure SendDefinition where
  rows : List Row
  primaryKey : (rows.map Row.orderNo).Nodup
  parameters : (rows.map Row.name).Nodup
  known :
    ∀ row ∈ rows,
      (typeReplacement row.type).isSome ∧ (parseType.lookup row.type).isSome
  lengths :
    ∀ row ∈ rows, row.type = "string" →
      ∃ length ∈ rows,
        length.name = nameLength row.name ∧ length.type ≠ "string"

/-- The text of a field value denotes the value. -/
def Denotes (row : Row) (text : List Char) : Value → Prop
  | .integer type value =>
      typeReplacement row.type = some (.integer type) ∧
        type.InRange value ∧ pythonInt (encode text) = some value
  | .text bytes =>
      typeReplacement row.type = some .string ∧ encode text = bytes
  | .chars _ => False

/-- Texts without commas that denote the values of the rows. -/
structure Denoted (build : Build) (rows : List Row) (args : List Arg)
    (texts : List (List Char)) (values : Store) : Prop where
  commaFree : ∀ text ∈ texts, ',' ∉ text
  denote :
    List.Forall₂ (fun row text => Denotes row text (values row.name)) rows
      texts
  consistent : Consistent args values
  small : totalSize args values < 2 ^ build.sizeBits

/--
Whatever the header is and whatever the variables held before, `GetSendData`
builds a packet, and `Deserialize` reads the values back from its body.
-/
def ReadBack (build : Build) (className : String) (rows : List Row)
    (args : List Arg) (texts : List (List Char)) (values : Store) : Prop :=
  ∀ headerRows headerTexts header locals,
    (∀ text ∈ headerTexts, ',' ∉ text) →
      packRows packHeaderField (headerTexts.map encode) headerRows 0 =
          some (header, headerTexts.length) →
        Typed args locals →
          ∃ body read,
            getSendData headerRows rows
                ([','].intercalate (headerTexts ++ texts)) =
                some (header ++ body ++ packedEnd) ∧
              (deserializeCodec className args).deserialize build
                  (fun _ => true) locals body = .returned read ∧
                Agree args read.store values

/-- All values are read back. -/
def Agrees (build : Build) (className : String)
    (definition : SendDefinition) : Prop :=
  ∃ args, sendArgs definition.rows = some args ∧
    ∀ texts values,
      Denoted build definition.rows args texts values →
        ReadBack build className definition.rows args texts values

end LibSklt.PacketGenerator
