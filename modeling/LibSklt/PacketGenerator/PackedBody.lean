import LibSklt.PacketGenerator.PacketTest

/-!
# The packet builder against the generated decoder

The two tables describe the same bytes except for `char` and `uchar`, whose
format letters are exchanged.  Packing a field can therefore fail, and where
it succeeds it gives the wire format of the field.  The body of a packet is
the wire format of the fields in storage order, and `Deserialize` expects it
in the order of `order_no`.
-/

namespace LibSklt.PacketGenerator

open LibSklt.Foundation.Tokens
open LibSklt.Util
open LibSklt.Util.ByteOrder

/-! ## The two tables -/

/-- What the two tables say about a type that both of them know. -/
inductive TableEntry : String → CppType → PackFormat → Prop where
  | string : TableEntry "string" .string .s
  | char : TableEntry "char" (.integer .int8) .B
  | uchar : TableEntry "uchar" (.integer .uint8) .b
  | wide {name : String} {type : IntType} {format : PackFormat}
      (notChar : name ≠ "char") (notUchar : name ≠ "uchar")
      (notString : name ≠ "string") (packs : format.intType = some type) :
      TableEntry name (.integer type) format

theorem tableEntry_of_known
    {name : String} (inDictionary : (typeReplacement name).isSome)
    (inParseType : (parseType.lookup name).isSome) :
    ∃ type format,
      typeReplacement name = some type ∧
        parseType.lookup name = some format ∧ TableEntry name type format := by
  obtain ⟨⟨key, format⟩, entry, same⟩ := List.lookup_isSome_iff.mp inParseType
  obtain rfl : name = key := by simpa using same
  simp only [parseType, List.mem_cons, Prod.mk.injEq, List.not_mem_nil,
    or_false] at entry
  rcases entry with ⟨rfl, -⟩ | ⟨rfl, -⟩ | entry
  · exact ⟨_, _, rfl, rfl, .char⟩
  · exact ⟨_, _, rfl, rfl, .uchar⟩
  · rcases entry with ⟨rfl, -⟩ | ⟨rfl, -⟩ | ⟨rfl, -⟩ | ⟨rfl, -⟩ | ⟨rfl, -⟩ |
      ⟨rfl, -⟩ | ⟨rfl, -⟩ | ⟨rfl, -⟩ | ⟨rfl, -⟩ | ⟨rfl, -⟩ | ⟨rfl, -⟩
    all_goals first
      | exact ⟨_, _, rfl, rfl, .string⟩
      | exact ⟨_, _, rfl, rfl,
          .wide (by decide) (by decide) (by decide) rfl⟩

namespace SendDefinition

variable (definition : SendDefinition)

theorem tableEntry {row : Row} (member : row ∈ definition.rows) :
    ∃ type format,
      typeReplacement row.type = some type ∧
        parseType.lookup row.type = some format ∧
          TableEntry row.type type format :=
  tableEntry_of_known (definition.known row member).1
    (definition.known row member).2

end SendDefinition

/-- The argument for a row whose type is known. -/
def Row.toArg (row : Row) : Arg :=
  ⟨(typeReplacement row.type).getD .charPointer, row.name⟩

theorem mapM_arg
    {rows : List Row}
    (known : ∀ row ∈ rows, (typeReplacement row.type).isSome) :
    rows.mapM Row.arg = some (rows.map Row.toArg) := by
  induction rows with
  | nil => rfl
  | cons row rows inductionHypothesis =>
      obtain ⟨type, found⟩ :=
        Option.isSome_iff_exists.mp (known row List.mem_cons_self)
      have first : row.arg = some row.toArg := by
        rw [Row.arg, Row.toArg, found]
        rfl
      have rest :=
        inductionHypothesis fun later member =>
          known later (List.mem_cons_of_mem _ member)
      rw [List.mapM_cons, first, rest]
      rfl

theorem orderedRows_perm (rows : List Row) :
    (orderedRows rows).Perm rows :=
  List.mergeSort_perm rows _

/-- The generator knows the types of all rows. -/
theorem SendDefinition.sendArgs_eq (definition : SendDefinition) :
    sendArgs definition.rows =
      some ((orderedRows definition.rows).map Row.toArg) := by
  apply mapM_arg
  intro row member
  exact (definition.known row
    ((orderedRows_perm definition.rows).mem_iff.mp member)).1

/-! ## Packing rows -/

/-- The loop over the rows, each with its own piece of the text. -/
def packAll (pack : Row → List UInt8 → Option (List UInt8)) :
    List Row → List (List UInt8) → Option (List UInt8)
  | [], _ => some []
  | _ :: _, [] => none
  | row :: rows, text :: texts =>
      (pack row text).bind fun bytes =>
        (packAll pack rows texts).map fun buffer => bytes ++ buffer

section

variable {pack : Row → List UInt8 → Option (List UInt8)}

theorem packRows_eq
    (sendValueList : List (List UInt8)) (rows : List Row) (index : Nat) :
    packRows pack sendValueList rows index =
      (packAll pack rows (sendValueList.drop index)).map
        fun buffer => (buffer, index + rows.length) := by
  induction rows generalizing index with
  | nil => rfl
  | cons row rows inductionHypothesis =>
      rw [packRows, inductionHypothesis]
      by_cases inside : index < sendValueList.length
      · rw [List.getElem?_eq_getElem inside, List.drop_eq_getElem_cons inside,
          packAll, Option.bind_some]
        cases pack row sendValueList[index] with
        | none => rfl
        | some bytes =>
            cases packAll pack rows (sendValueList.drop (index + 1)) with
            | none => rfl
            | some buffer =>
                simp only [Option.bind_some, Option.map_some,
                  List.length_cons]
                rw [Nat.add_assoc, Nat.add_comm 1]
      · have behind := Nat.le_of_not_lt inside
        rw [List.getElem?_eq_none behind, List.drop_of_length_le behind]
        rfl

/-- Texts behind those of the rows are not looked at. -/
theorem packAll_append
    {rows : List Row} {texts : List (List UInt8)}
    (enough : rows.length ≤ texts.length) (more : List (List UInt8)) :
    packAll pack rows (texts ++ more) = packAll pack rows texts := by
  induction rows generalizing texts with
  | nil => rfl
  | cons row rows inductionHypothesis =>
      cases texts with
      | nil => simp at enough
      | cons text texts =>
          rw [List.cons_append, packAll, packAll,
            inductionHypothesis (Nat.le_of_succ_le_succ enough)]

end

/-- Splitting undoes joining, up to one piece where there is no text. -/
theorem splitSendValue_intercalate
    {texts : List (List Char)} (commaFree : ∀ text ∈ texts, ',' ∉ text) :
    ∃ more,
      splitSendValue ([','].intercalate texts) =
        texts.map encode ++ more := by
  by_cases empty : texts = []
  · subst texts
    exact ⟨_, rfl⟩
  · refine ⟨[], ?_⟩
    rw [splitSendValue, List.splitOn_intercalate ',' commaFree empty,
      List.append_nil]

/-- The body of the packet is what packing the rows of `Send` gives. -/
theorem getSendData_eq
    {headerRows rows : List Row} {headerTexts texts : List (List Char)}
    {header : List UInt8}
    (commaFree : ∀ text ∈ headerTexts ++ texts, ',' ∉ text)
    (packed :
      packRows packHeaderField (headerTexts.map encode) headerRows 0 =
        some (header, headerTexts.length))
    (enough : rows.length ≤ texts.length) :
    getSendData headerRows rows ([','].intercalate (headerTexts ++ texts)) =
      (packAll packSendField rows (texts.map encode)).map
        fun body => header ++ body ++ packedEnd := by
  obtain ⟨more, split⟩ := splitSendValue_intercalate commaFree
  rw [packRows_eq, List.drop_zero, Option.map_eq_some_iff] at packed
  obtain ⟨buffer, packed, same⟩ := packed
  rw [Prod.mk.injEq] at same
  obtain ⟨rfl, count⟩ := same
  have headerEnough :
      headerRows.length ≤ (headerTexts.map encode).length := by
    rw [List.length_map]
    omega
  have bodyEnough : rows.length ≤ (texts.map encode).length := by
    rw [List.length_map]
    exact enough
  have bodyTexts :
      (headerTexts.map encode ++ (texts.map encode ++ more)).drop
          (0 + headerRows.length) =
        texts.map encode ++ more := by
    rw [count, ← List.length_map encode, List.drop_left]
  rw [getSendData, split, List.map_append, List.append_assoc, packRows_eq,
    List.drop_zero, packAll_append headerEnough, packed, Option.map_some,
    Option.bind_some]
  simp only [packRows_eq, bodyTexts, packAll_append bodyEnough,
    Option.map_map]
  rfl

/-! ## One field -/

section

variable {build : Build} {row : Row} {text : List Char} {value : Value}

/-- The image of a value depends on the size of its type only. -/
theorem image_eq_of_bytes
    {first second : IntType} (same : first.bytes = second.bytes)
    (value : Int) : first.image value = second.image value := by
  rw [IntType.image, IntType.image, same]

theorem structPack_eq_some
    {format : PackFormat} {number : Int} {bytes : List UInt8}
    (packed : structPack format number = some bytes) :
    ∃ type, format.intType = some type ∧ type.InRange number ∧
      bytes = (type.image number).reverse := by
  rw [structPack, Option.bind_eq_some_iff] at packed
  obtain ⟨type, packs, packed⟩ := packed
  split at packed
  case isTrue inRange =>
    cases packed
    exact ⟨type, packs, inRange, rfl⟩
  case isFalse => cases packed

/-- The letter of a type packs integers of the same size. -/
theorem TableEntry.bytes_eq
    {name : String} {type packed : IntType} {format : PackFormat}
    (entry : TableEntry name (.integer type) format)
    (packs : format.intType = some packed) : packed.bytes = type.bytes := by
  cases entry with
  | char =>
      cases packs
      rfl
  | uchar =>
      cases packs
      rfl
  | wide _ _ _ same =>
      cases same.symm.trans packs
      rfl

theorem TableEntry.ne_bytes
    {name : String} {type : IntType} {format : PackFormat}
    (entry : TableEntry name (.integer type) format) : format ≠ .s := by
  rintro rfl
  cases entry with
  | wide _ _ _ packs => cases packs

theorem packSendField_integer
    {type : IntType} {number : Int} {format : PackFormat}
    (inParseType : parseType.lookup row.type = some format)
    (entry : TableEntry row.type (.integer type) format)
    (denotes : Denotes row text (.integer type number)) :
    packSendField row (encode text) = structPack format number := by
  rw [packSendField, inParseType, Option.bind_some, if_neg entry.ne_bytes,
    denotes.2.2, Option.bind_some]

theorem packSendField_text
    {format : PackFormat} {content : List UInt8}
    (inParseType : parseType.lookup row.type = some format)
    (entry : TableEntry row.type .string format)
    (denotes : Denotes row text (.text content)) :
    packSendField row (encode text) = some content := by
  obtain rfl : format = .s := by
    generalize row.type = name at entry
    cases entry
    rfl
  rw [packSendField, inParseType, Option.bind_some, if_pos rfl, denotes.2]

/-- What is packed for a field is its wire format. -/
theorem packSendField_eq_wire
    (enabled : build.enable = true) {type : CppType} {format : PackFormat}
    (inDictionary : typeReplacement row.type = some type)
    (inParseType : parseType.lookup row.type = some format)
    (entry : TableEntry row.type type format)
    (denotes : Denotes row text value) {bytes : List UInt8}
    (packed : packSendField row (encode text) = some bytes) :
    bytes = value.wire build := by
  cases value with
  | chars => exact denotes.elim
  | text content =>
      cases inDictionary.symm.trans denotes.1
      rw [packSendField_text inParseType entry denotes] at packed
      cases packed
      rfl
  | integer valueType number =>
      cases inDictionary.symm.trans denotes.1
      rw [packSendField_integer inParseType entry denotes] at packed
      obtain ⟨packedType, packs, -, rfl⟩ := structPack_eq_some packed
      rw [Value.wire, IntType.wire, if_pos enabled,
        image_eq_of_bytes (entry.bytes_eq packs)]

/-- A number that the format letter of its row does not refuse. -/
def Packable (row : Row) : Value → Prop
  | .integer _ number =>
      (row.type = "char" → 0 ≤ number) ∧ (row.type = "uchar" → number < 128)
  | _ => True

/-- A field is packed exactly if its letter accepts the number. -/
theorem packSendField_isSome_iff
    {type : CppType} {format : PackFormat}
    (inDictionary : typeReplacement row.type = some type)
    (inParseType : parseType.lookup row.type = some format)
    (entry : TableEntry row.type type format)
    (denotes : Denotes row text value) :
    (packSendField row (encode text)).isSome ↔ Packable row value := by
  cases value with
  | chars => exact denotes.elim
  | text content =>
      cases inDictionary.symm.trans denotes.1
      rw [packSendField_text inParseType entry denotes]
      simp [Packable]
  | integer valueType number =>
      cases inDictionary.symm.trans denotes.1
      rw [packSendField_integer inParseType entry denotes, Packable]
      have inRange := denotes.2.1
      generalize row.type = name at entry
      cases entry with
      | char =>
          simp only [IntType.InRange, IntType.signed, IntType.bytes, if_true]
            at inRange
          simp [structPack, PackFormat.intType, IntType.InRange,
            IntType.signed, IntType.bytes]
          omega
      | uchar =>
          simp only [IntType.InRange, IntType.signed, IntType.bytes] at inRange
          simp [structPack, PackFormat.intType, IntType.InRange,
            IntType.signed, IntType.bytes]
          simp at inRange
          omega
      | wide notChar notUchar notString packs =>
          simp [structPack, packs, inRange, notChar, notUchar]

end

/-! ## All fields -/

section

variable {build : Build} {values : Store}

/-- The texts, one for each row, denote the values. -/
abbrev AllDenote (values : Store) : List Row → List (List Char) → Prop :=
  List.Forall₂ fun row text => Denotes row text (values row.name)

/-- The body of a packet is the wire format in storage order. -/
theorem packAll_eq_wireFormat
    (enabled : build.enable = true) {rows : List Row}
    (known :
      ∀ row ∈ rows,
        (typeReplacement row.type).isSome ∧
          (parseType.lookup row.type).isSome)
    {texts : List (List Char)} (denote : AllDenote values rows texts)
    {body : List UInt8}
    (packed : packAll packSendField rows (texts.map encode) = some body) :
    body = wireFormat build (rows.map Row.toArg) values := by
  induction denote generalizing body with
  | nil =>
      cases packed
      rfl
  | @cons row text rows texts denotes rest inductionHypothesis =>
      obtain ⟨inBoth, knownRest⟩ := List.forall_mem_cons.mp known
      obtain ⟨type, format, inDictionary, inParseType, entry⟩ :=
        tableEntry_of_known inBoth.1 inBoth.2
      rw [List.map_cons, packAll, Option.bind_eq_some_iff] at packed
      obtain ⟨bytes, packedFirst, packed⟩ := packed
      rw [Option.map_eq_some_iff] at packed
      obtain ⟨buffer, packedRest, rfl⟩ := packed
      rw [List.map_cons, wireFormat_cons,
        packSendField_eq_wire enabled inDictionary inParseType entry denotes
          packedFirst,
        inductionHypothesis knownRest packedRest]
      rfl

/-- The body is packed exactly if every letter accepts its number. -/
theorem packAll_isSome_iff
    {rows : List Row}
    (known :
      ∀ row ∈ rows,
        (typeReplacement row.type).isSome ∧
          (parseType.lookup row.type).isSome)
    {texts : List (List Char)} (denote : AllDenote values rows texts) :
    (packAll packSendField rows (texts.map encode)).isSome ↔
      ∀ row ∈ rows, Packable row (values row.name) := by
  induction denote with
  | nil => simp [packAll]
  | @cons row text rows texts denotes rest inductionHypothesis =>
      obtain ⟨inBoth, knownRest⟩ := List.forall_mem_cons.mp known
      obtain ⟨type, format, inDictionary, inParseType, entry⟩ :=
        tableEntry_of_known inBoth.1 inBoth.2
      rw [List.forall_mem_cons, ← inductionHypothesis knownRest,
        ← packSendField_isSome_iff inDictionary inParseType entry denotes,
        List.map_cons, packAll]
      cases packSendField row (encode text) with
      | none => simp
      | some bytes => simp

end

/-! ## Agreement on the body -/

namespace SendDefinition

variable (definition : SendDefinition) {build : Build}

/-- The parameters of the generated functions. -/
def args : List Arg :=
  (orderedRows definition.rows).map Row.toArg

/-- The fields in the order in which they are packed. -/
def storedArgs : List Arg :=
  definition.rows.map Row.toArg

theorem args_perm : definition.args.Perm definition.storedArgs :=
  (orderedRows_perm definition.rows).map Row.toArg

/--
Every letter accepts its number, and the statements of `Deserialize` read the
fields back from the wire format in storage order.
-/
def AgreesOnBody (build : Build) : Prop :=
  ∀ texts values locals,
    Denoted build definition.rows definition.args texts values →
      Typed definition.args locals →
        (∀ row ∈ definition.rows, Packable row (values row.name)) ∧
          ∃ read,
            readFields build (fun _ => true) definition.args locals
                (wireFormat build definition.storedArgs values) =
              .running read ∧ Agree definition.args read.store values

/-! ## The rows and their arguments -/

variable {definition}

theorem row_eq_of_name_eq
    {first second : Row} (firstMember : first ∈ definition.rows)
    (secondMember : second ∈ definition.rows)
    (same : first.name = second.name) : first = second :=
  List.inj_on_of_nodup_map definition.parameters firstMember secondMember same

theorem args_distinct : (definition.args.map Arg.name).Nodup := by
  rw [(definition.args_perm.map Arg.name).nodup_iff]
  have names :
      definition.storedArgs.map Arg.name = definition.rows.map Row.name := by
    rw [storedArgs, List.map_map]
    rfl
  rw [names]
  exact definition.parameters

/-- The argument of a row that is not a string. -/
theorem toArg_integer
    {row : Row} (member : row ∈ definition.rows)
    (notString : row.type ≠ "string") :
    ∃ type, row.toArg = ⟨.integer type, row.name⟩ := by
  obtain ⟨type, format, inDictionary, -, entry⟩ :=
    definition.tableEntry member
  rw [Row.toArg, inDictionary]
  generalize row.type = name at entry notString
  cases entry with
  | string => exact absurd rfl notString
  | char => exact ⟨_, rfl⟩
  | uchar => exact ⟨_, rfl⟩
  | wide => exact ⟨_, rfl⟩

theorem toArg_string {row : Row} (isString : row.type = "string") :
    row.toArg = ⟨.string, row.name⟩ := by
  rw [Row.toArg, isString]
  rfl

theorem toArg_type_ne_charPointer
    {row : Row} (member : row ∈ definition.rows) :
    row.toArg.type ≠ .charPointer := by
  by_cases isString : row.type = "string"
  · rw [toArg_string isString]
    simp
  · obtain ⟨type, isInteger⟩ := toArg_integer member isString
    rw [isInteger]
    simp

theorem toArg_type_eq_string
    {row : Row} (member : row ∈ definition.rows)
    (isString : row.toArg.type = .string) : row.type = "string" := by
  by_contra notString
  obtain ⟨type, isInteger⟩ := toArg_integer member notString
  rw [isInteger] at isString
  cases isString

theorem noPointer_args :
    ∀ arg ∈ definition.args, arg.type ≠ .charPointer := by
  intro arg member
  obtain ⟨row, among, rfl⟩ :=
    List.mem_map.mp (definition.args_perm.mem_iff.mp member)
  exact toArg_type_ne_charPointer among

theorem args_named
    (identifiers : ∀ row ∈ definition.rows, Identifier row.name) :
    ∀ arg ∈ definition.args, Identifier arg.name := by
  intro arg member
  obtain ⟨row, among, rfl⟩ :=
    List.mem_map.mp (definition.args_perm.mem_iff.mp member)
  exact identifiers row among

/-- The length of a string is an integer. -/
theorem length_notString
    {text length : Row} (textMember : text ∈ definition.rows)
    (isString : text.type = "string") (member : length ∈ definition.rows)
    (name : length.name = nameLength text.name) :
    length.type ≠ "string" := by
  obtain ⟨other, otherMember, otherName, notString⟩ :=
    definition.lengths text textMember isString
  rw [row_eq_of_name_eq member otherMember (name.trans otherName.symm)]
  exact notString

theorem hasType_of_denotes
    {row : Row} {text : List Char} {value : Value}
    (denotes : Denotes row text value) : HasType row.toArg.type value := by
  rw [Row.toArg]
  cases value with
  | chars => exact denotes.elim
  | text => simp [denotes.1, HasType]
  | integer => simp [denotes.1, HasType, denotes.2.1]

theorem hasType_of_allDenote
    {values : Store} {rows : List Row} {texts : List (List Char)}
    (denote : AllDenote values rows texts) :
    ∀ row ∈ rows, HasType row.toArg.type (values row.name) := by
  induction denote with
  | nil => simp
  | cons denotes _ inductionHypothesis =>
      exact List.forall_mem_cons.mpr
        ⟨hasType_of_denotes denotes, inductionHypothesis⟩

theorem typed_args_iff {values : Store} :
    Typed definition.args values ↔
      ∀ row ∈ definition.rows, HasType row.toArg.type (values row.name) := by
  constructor
  · intro typed row member
    exact typed row.toArg
      (definition.args_perm.mem_iff.mpr (List.mem_map_of_mem member))
  · intro typed arg member
    obtain ⟨row, among, rfl⟩ :=
      List.mem_map.mp (definition.args_perm.mem_iff.mp member)
    exact typed row among

/-! ## The body of a packet -/

section

variable {className : String} {texts : List (List Char)} {values : Store}
  (enabled : build.enable = true)
  (denoted : Denoted build definition.rows definition.args texts values)

include denoted

theorem typed_of_denoted : Typed definition.args values :=
  typed_args_iff.mpr (hasType_of_allDenote denoted.denote)

include enabled

theorem packAll_of_packable
    (packable : ∀ row ∈ definition.rows, Packable row (values row.name)) :
    packAll packSendField definition.rows (texts.map encode) =
      some (wireFormat build definition.storedArgs values) := by
  rw [← packAll_isSome_iff definition.known denoted.denote,
    Option.isSome_iff_exists] at packable
  obtain ⟨body, packed⟩ := packable
  rw [packed,
    packAll_eq_wireFormat enabled definition.known denoted.denote packed]
  rfl

/-- The header and the end mark do not matter. -/
theorem body_of_readBack
    (readBack :
      ReadBack build className definition.rows definition.args texts values)
    {locals : Store} (typed : Typed definition.args locals) :
    (∀ row ∈ definition.rows, Packable row (values row.name)) ∧
      ∃ read,
        (deserializeCodec className definition.args).deserialize build
            (fun _ => true) locals
            (wireFormat build definition.storedArgs values) =
          .returned read ∧ Agree definition.args read.store values := by
  obtain ⟨body, read, built, reads, agree⟩ :=
    readBack [] [] [] locals (by simp) rfl typed
  rw [getSendData_eq denoted.commaFree rfl denoted.denote.length_eq.le,
    Option.map_eq_some_iff] at built
  obtain ⟨packedBody, packed, same⟩ := built
  rw [List.nil_append, List.nil_append, List.append_cancel_right_eq] at same
  subst packedBody
  refine ⟨?_, read, ?_, agree⟩
  · rw [← packAll_isSome_iff definition.known denoted.denote, packed]
    rfl
  · rw [packAll_eq_wireFormat enabled definition.known denoted.denote packed]
      at reads
    exact reads

/-! ## The line of `Deserialize` -/

variable (named : Identifier className)
  (identifiers : ∀ row ∈ definition.rows, Identifier row.name)

include named identifiers

theorem lineFits_of_readBack
    (readBack :
      ReadBack build className definition.rows definition.args texts
        values) :
    LineFits className "][InputData] " definition.args values := by
  obtain ⟨-, read, reads, agree⟩ :=
    body_of_readBack enabled denoted readBack (typed_of_denoted denoted)
  have readTyped := agree.typed (typed_of_denoted denoted)
  by_contra long
  rw [deserialize_of_running named (args_named identifiers) noPointer_args
    (running_of_deserialize reads) readTyped,
    if_neg ((lineFits_congr agree).not.mpr long)] at reads
  cases reads

theorem readBack_of_lineFits
    (agrees : definition.AgreesOnBody build)
    (fits : LineFits className "][InputData] " definition.args values) :
    ReadBack build className definition.rows definition.args texts
      values := by
  intro headerRows headerTexts header locals commaFree packed typed
  obtain ⟨packable, read, reads, agree⟩ := agrees texts values locals denoted
    typed
  have readTyped := agree.typed (typed_of_denoted denoted)
  have texts : ∀ text ∈ headerTexts ++ texts, ',' ∉ text := by
    intro text member
    rcases List.mem_append.mp member with inHeader | inBody
    · exact commaFree text inHeader
    · exact denoted.commaFree text inBody
  refine ⟨wireFormat build definition.storedArgs values, read, ?_, ?_,
    agree⟩
  · rw [getSendData_eq texts packed denoted.denote.length_eq.le,
      packAll_of_packable enabled denoted packable]
    rfl
  · rw [deserialize_of_running named (args_named identifiers) noPointer_args
      reads readTyped, if_pos ((lineFits_congr agree).mpr fits)]

end

theorem agreesOnBody_of_agrees
    {className : String} (enabled : build.enable = true)
    (agrees : Agrees build className definition) :
    definition.AgreesOnBody build := by
  intro texts values locals denoted typed
  obtain ⟨args, generated, readBack⟩ := agrees
  rw [definition.sendArgs_eq, Option.some.injEq] at generated
  subst args
  obtain ⟨packable, read, reads, agree⟩ :=
    body_of_readBack enabled denoted (readBack texts values denoted) typed
  exact ⟨packable, read, running_of_deserialize reads, agree⟩

end SendDefinition

end LibSklt.PacketGenerator
