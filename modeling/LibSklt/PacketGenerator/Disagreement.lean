import LibSklt.PacketGenerator.PackedBody
import LibSklt.PacketGenerator.SettledFields

/-!
# Packets on which the builder and the decoder disagree

A definition is tried with a packet whose strings are short and whose numbers
are lengths of strings or chosen freely.  Where the decoder starts with the
right values in its variables, it reads a field wrongly exactly if the bytes
at its cursor are not the wire format of the field.
-/

namespace LibSklt.PacketGenerator

open LibSklt.Foundation.ByteImage
open LibSklt.Foundation.MachineWord
open LibSklt.Util
open LibSklt.Util.ByteOrder

/-- A `size_t` has at least 32 bits. -/
theorem word_range
    {build : Build} (machine : build.sizeBits = 32 ∨ build.sizeBits = 64) :
    2 ^ 32 ≤ 2 ^ build.sizeBits := by
  rcases machine with size | size
  · rw [size]
  · rw [size]
    decide

/-! ## Sample packets -/

/-- The contents of a packet. -/
structure Sample where
  /-- The contents of the strings. -/
  text : String → List Char
  /-- The integers that are not the length of a string. -/
  free : String → Int

/-- An integer as text. -/
def numeral (number : Int) : List Char :=
  (toString number).toList

namespace Sample

variable (definition : SendDefinition) (sample : Sample)

/-- The integer in a field. -/
def number (name : String) : Int :=
  match definition.rows.find? fun row =>
      row.type = "string" ∧ nameLength row.name = name with
  | some row => (encode (sample.text row.name)).length
  | none => sample.free name

/-- The value of a field. -/
def value (row : Row) : Value :=
  match row.toArg.type with
  | .integer type => .integer type (sample.number definition row.name)
  | _ => .text (encode (sample.text row.name))

/-- The values of all fields. -/
def store (name : String) : Value :=
  match definition.rows.find? fun row => row.name = name with
  | some row => sample.value definition row
  | none => .text []

/-- The text of a field in `sendvalue`. -/
def fieldText (row : Row) : List Char :=
  match row.toArg.type with
  | .integer _ => numeral (sample.number definition row.name)
  | _ => sample.text row.name

/-- The fields of the packet can be written down, and the packet is short. -/
structure Valid : Prop where
  commaFree : ∀ name, ',' ∉ sample.text name
  short : ∀ name, (encode (sample.text name)).length ≤ 200
  plain :
    ∀ row ∈ definition.rows,
      sample.number definition row.name ∈ [0, 1, 200, -1]
  inRange :
    ∀ row ∈ definition.rows, ∀ type, row.toArg.type = .integer type →
      type.InRange (sample.number definition row.name)

variable {definition} {sample}

theorem store_of_mem
    {row : Row} (member : row ∈ definition.rows) :
    sample.store definition row.name = sample.value definition row := by
  rw [store]
  cases found : definition.rows.find? fun other => other.name = row.name with
  | none =>
      have unnamed := List.find?_eq_none.mp found row member
      simp at unnamed
  | some other =>
      have same := List.find?_some found
      simp only [decide_eq_true_eq] at same
      rw [SendDefinition.row_eq_of_name_eq (List.mem_of_find?_eq_some found)
        member same]

/-- The number in the length of a string. -/
theorem number_of_length
    {row : Row} (member : row ∈ definition.rows)
    (isString : row.type = "string") :
    sample.number definition (nameLength row.name) =
      (encode (sample.text row.name)).length := by
  rw [number]
  cases found : definition.rows.find? fun other =>
      other.type = "string" ∧ nameLength other.name = nameLength row.name with
  | none =>
      have unnamed := List.find?_eq_none.mp found row member
      simp [isString] at unnamed
  | some other =>
      have same := List.find?_some found
      simp only [decide_eq_true_eq] at same
      rw [SendDefinition.row_eq_of_name_eq (List.mem_of_find?_eq_some found)
        member (nameLength_injective same.2)]

theorem value_of_string {row : Row} (isString : row.type = "string") :
    sample.value definition row = .text (encode (sample.text row.name)) := by
  rw [value, SendDefinition.toArg_string isString]

theorem value_of_integer
    {row : Row} {type : IntType} (isInteger : row.toArg.type = .integer type) :
    sample.value definition row =
      .integer type (sample.number definition row.name) := by
  rw [value, isInteger]

theorem readable
    {number : Int} (plain : number ∈ [(0 : Int), 1, 200, -1]) :
    pythonInt (encode (numeral number)) = some number ∧
      ',' ∉ numeral number := by
  simp only [List.mem_cons, List.not_mem_nil, or_false] at plain
  rcases plain with rfl | rfl | rfl | rfl
  · decide
  · decide
  · decide
  · decide

section

variable (valid : sample.Valid definition)

include valid

theorem Valid.denotes {row : Row} (member : row ∈ definition.rows) :
    Denotes row (sample.fieldText definition row)
      (sample.store definition row.name) := by
  rw [store_of_mem member, fieldText]
  by_cases isString : row.type = "string"
  · rw [value_of_string isString, SendDefinition.toArg_string isString]
    exact ⟨by rw [isString]; rfl, rfl⟩
  · obtain ⟨type, isInteger⟩ :=
      SendDefinition.toArg_integer member isString
    have kind : row.toArg.type = .integer type := by rw [isInteger]
    rw [value_of_integer kind, kind]
    refine ⟨?_, valid.inRange row member type kind,
      (readable (valid.plain row member)).1⟩
    obtain ⟨known, format, inDictionary, -, -⟩ :=
      definition.tableEntry member
    rw [Row.toArg, inDictionary] at kind
    rw [inDictionary]
    exact congrArg some kind

theorem Valid.denote :
    AllDenote (sample.store definition) definition.rows
      (definition.rows.map (sample.fieldText definition)) := by
  rw [AllDenote, List.forall₂_map_right_iff, List.forall₂_same]
  exact fun row member => valid.denotes member

theorem Valid.commaFree_texts :
    ∀ text ∈ definition.rows.map (sample.fieldText definition),
      ',' ∉ text := by
  intro text member
  obtain ⟨row, among, rfl⟩ := List.mem_map.mp member
  rw [fieldText]
  split
  · exact (readable (valid.plain row among)).2
  · exact valid.commaFree row.name

theorem Valid.typed :
    Typed definition.args (sample.store definition) :=
  SendDefinition.typed_args_iff.mpr
    (SendDefinition.hasType_of_allDenote valid.denote)

omit valid

/-- The variable with the length of a string. -/
theorem store_length
    {row : Row} (member : row ∈ definition.rows)
    (isString : row.type = "string") :
    ∃ type,
      sample.store definition (nameLength row.name) =
        .integer type (encode (sample.text row.name)).length := by
  obtain ⟨length, lengthMember, name, notString⟩ :=
    definition.lengths row member isString
  obtain ⟨type, isInteger⟩ :=
    SendDefinition.toArg_integer lengthMember notString
  refine ⟨type, ?_⟩
  rw [← name, store_of_mem lengthMember,
    value_of_integer (by rw [isInteger] : length.toArg.type = .integer type),
    name, number_of_length member isString]

theorem consistent :
    Consistent definition.args (sample.store definition) := by
  intro arg member bytes text
  obtain ⟨row, among, rfl⟩ :=
    List.mem_map.mp (definition.args_perm.mem_iff.mp member)
  have text : sample.store definition row.name = .text bytes := text
  rw [store_of_mem among] at text
  by_cases isString : row.type = "string"
  · rw [value_of_string isString, Value.text.injEq] at text
    subst bytes
    exact store_length among isString
  · obtain ⟨type, isInteger⟩ := SendDefinition.toArg_integer among isString
    rw [value_of_integer
      (by rw [isInteger] : row.toArg.type = .integer type)] at text
    cases text

include valid

theorem Valid.totalSize_le :
    totalSize definition.args (sample.store definition) ≤
      200 * definition.rows.length := by
  have sizes :
      ∀ size ∈ definition.args.map (fieldSize (sample.store definition)),
        size ≤ 200 := by
    intro size member
    obtain ⟨arg, argMember, rfl⟩ := List.mem_map.mp member
    obtain ⟨row, among, rfl⟩ :=
      List.mem_map.mp (definition.args_perm.mem_iff.mp argMember)
    by_cases isString : row.type = "string"
    · obtain ⟨type, length⟩ :=
        @store_length definition sample row among isString
      rw [SendDefinition.toArg_string isString]
      simp only [fieldSize, length, Int.toNat_natCast]
      exact valid.short row.name
    · obtain ⟨type, isInteger⟩ :=
        SendDefinition.toArg_integer among isString
      have small := type.bytes_le
      rw [isInteger]
      simp only [fieldSize]
      omega
  have bound := List.sum_le_card_nsmul _ 200 sizes
  rw [List.length_map, definition.args_perm.length_eq,
    SendDefinition.storedArgs, List.length_map, smul_eq_mul] at bound
  rw [totalSize]
  omega

/-- What agreement says about a sample packet. -/
theorem Valid.agreement
    {build : Build} (machine : build.sizeBits = 32 ∨ build.sizeBits = 64)
    (few : definition.rows.length < 2 ^ 24)
    (agrees : definition.AgreesOnBody build) {locals : Store}
    (typed : Typed definition.args locals) :
    (∀ row ∈ definition.rows,
        Packable row (sample.store definition row.name)) ∧
      ∃ read,
        readFields build (fun _ => true) definition.args locals
            (wireFormat build definition.storedArgs
              (sample.store definition)) =
          .running read ∧
            Agree definition.args read.store (sample.store definition) := by
  refine agrees _ _ locals
    ⟨valid.commaFree_texts, valid.denote, consistent, ?_⟩ typed
  have small := valid.totalSize_le
  have range := word_range machine
  omega

end

end Sample

/-! ## A field behind the wrong bytes -/

/-- The field that the decoder reads next has not been packed yet. -/
theorem mem_rest_of_ordered
    {definition : SendDefinition} {front behind rest : List Row} {field : Row}
    (ordered : orderedRows definition.rows = front ++ field :: behind)
    (stored : definition.rows = front ++ rest) : field ∈ rest := by
  have perm := orderedRows_perm definition.rows
  have member : field ∈ definition.rows := by
    rw [← perm.mem_iff, ordered]
    exact List.mem_append_right _ List.mem_cons_self
  rw [stored] at member
  rcases List.mem_append.mp member with inFront | inRest
  · have unique := (perm.map Row.name).nodup_iff.mpr definition.parameters
    rw [ordered, List.map_append, List.nodup_append] at unique
    exact absurd rfl
      (unique.2.2 field.name (List.mem_map_of_mem inFront) field.name
        (List.mem_map_of_mem List.mem_cons_self))
  · exact inRest

section

variable {definition : SendDefinition} {sample : Sample} {build : Build}
  (valid : sample.Valid definition)
  (machine : build.sizeBits = 32 ∨ build.sizeBits = 64)
  (few : definition.rows.length < 2 ^ 24)

include valid machine few

theorem length_storedFormat_lt :
    (wireFormat build definition.storedArgs
      (sample.store definition)).length + 1 < 2 ^ build.sizeBits := by
  have length :=
    length_wireFormat build SendDefinition.noPointer_args
      ⟨valid.typed, Sample.consistent⟩
  have same :
      (wireFormat build definition.storedArgs
          (sample.store definition)).length =
        (wireFormat build definition.args
          (sample.store definition)).length :=
    (definition.args_perm.flatMap_right _).length_eq.symm
  have small := valid.totalSize_le
  have range := word_range machine
  omega

/--
The decoder has read the same fields as the builder has packed so far, and the
bytes of its next field do not follow.
-/
theorem not_agrees_of_wrong_bytes
    {front behind rest : List Row} {field : Row}
    (ordered : orderedRows definition.rows = front ++ field :: behind)
    (stored : definition.rows = front ++ rest)
    (wrong :
      (wireFormat build (rest.map Row.toArg)
            (sample.store definition)).take
          ((sample.value definition field).wire build).length ≠
        (sample.value definition field).wire build) :
    ¬ definition.AgreesOnBody build := by
  intro agrees
  obtain ⟨-, read, reads, agree⟩ :=
    valid.agreement machine few agrees valid.typed
  have bounded := Nat.lt_of_succ_lt (length_storedFormat_lt valid machine few)
  have distinct := definition.args_distinct
  have args :
      definition.args =
        front.map Row.toArg ++ field.toArg :: behind.map Row.toArg := by
    rw [SendDefinition.args, ordered, List.map_append, List.map_cons]
  have bodyEq :
      wireFormat build definition.storedArgs (sample.store definition) =
        wireFormat build (front.map Row.toArg) (sample.store definition) ++
          wireFormat build (rest.map Row.toArg)
            (sample.store definition) := by
    rw [SendDefinition.storedArgs, stored, List.map_append, wireFormat_append]
  have fieldInRest := mem_rest_of_ordered ordered stored
  have fieldMember : field ∈ definition.rows := by
    rw [stored]
    exact List.mem_append_right _ fieldInRest
  have fits :
      (wireFormat build (front.map Row.toArg)
            (sample.store definition)).length +
          ((sample.store definition field.name).wire build).length ≤
        (wireFormat build definition.storedArgs
          (sample.store definition)).length := by
    have within :=
      @length_wire_le build (rest.map Row.toArg) field.toArg
        (List.mem_map_of_mem fieldInRest) (sample.store definition)
    rw [bodyEq, List.length_append]
    exact Nat.add_le_add_left within _
  have frontArgs :
      ∀ arg ∈ front.map Row.toArg, arg ∈ definition.args := by
    intro arg member
    rw [args]
    exact List.mem_append_left _ member
  have fieldArg : field.toArg ∈ definition.args := by
    rw [args]
    exact List.mem_append_right _ List.mem_cons_self
  rw [args] at distinct reads
  obtain ⟨final, ran, kept⟩ :=
    deserialize_split distinct
      (fun arg member =>
        SendDefinition.noPointer_args arg (frontArgs arg member))
      (fun arg member => valid.typed arg (frontArgs arg member))
      (fun arg member => Sample.consistent arg (frontArgs arg member)) bounded
      (by rw [bodyEq]; exact List.prefix_append _ _) reads
  obtain ⟨other, ranToo, took⟩ :=
    @unserializeArg_reads build
      ⟨sample.store definition,
        wireFormat build definition.storedArgs (sample.store definition),
        (wireFormat build (front.map Row.toArg)
          (sample.store definition)).length⟩
      field.toArg (SendDefinition.noPointer_args _ fieldArg)
      (valid.typed _ fieldArg)
      (Sample.consistent _ fieldArg) bounded fits
  cases ran.symm.trans ranToo
  rw [← kept, agree _ fieldArg] at took
  apply wrong
  have holds :
      sample.store definition field.toArg.name =
        sample.value definition field :=
    Sample.store_of_mem fieldMember
  simp only [slice] at took
  rw [holds, bodyEq, List.drop_left] at took
  exact took.symm

end

/-! ## Two kinds of packets -/

theorem encode_replicate (count : Nat) :
    encode (List.replicate count 'a') = List.replicate count 97 := by
  induction count with
  | zero => rfl
  | succ count inductionHypothesis =>
      rw [encode] at inductionHypothesis ⊢
      rw [List.replicate_succ, List.flatMap_cons, inductionHypothesis]
      rfl

theorem inRange_one (type : IntType) : type.InRange 1 := by
  cases type <;> decide

namespace Sample

/--
One integer has the given value, and if it is the length of a string, the
string has that length; everything else is zero or empty.
-/
def marked (name : String) (number : Int) : Sample where
  text string :=
    if nameLength string = name then List.replicate number.toNat 'a' else []
  free integer := if integer = name then number else 0

/-- Two strings of one character each; everything else is zero or empty. -/
def pair (first second : String) : Sample where
  text string :=
    if string = first then ['a'] else if string = second then ['b'] else []
  free _ := 0

variable {definition : SendDefinition}

/-- The field is the length of one of the strings. -/
def IsLength (definition : SendDefinition) (name : String) : Prop :=
  ∃ text ∈ definition.rows,
    text.type = "string" ∧ name = nameLength text.name

theorem number_marked
    {name : String} {number : Int}
    (possible : 0 ≤ number ∨ ¬ IsLength definition name) (other : String) :
    (marked name number).number definition other =
      if other = name then number else 0 := by
  rw [Sample.number]
  cases found : definition.rows.find? fun row =>
      row.type = "string" ∧ nameLength row.name = other with
  | none => rfl
  | some row =>
      have same := List.find?_some found
      simp only [decide_eq_true_eq] at same
      simp only [marked, same.2]
      by_cases isMarked : other = name
      · rw [if_pos isMarked, if_pos isMarked, encode_replicate,
          List.length_replicate]
        rcases possible with nonnegative | notLength
        · exact Int.toNat_of_nonneg nonnegative
        · exact absurd
            ⟨row, List.mem_of_find?_eq_some found, same.1,
              isMarked.symm.trans same.2.symm⟩ notLength
      · rw [if_neg isMarked, if_neg isMarked]
        rfl

theorem valid_marked
    {name : String} {number : Int}
    (possible : 0 ≤ number ∨ ¬ IsLength definition name)
    (plain : number ∈ [(0 : Int), 1, 200, -1])
    (inRange :
      ∀ row ∈ definition.rows, row.name = name →
        ∀ type, row.toArg.type = .integer type → type.InRange number) :
    (marked name number).Valid definition where
  commaFree string := by
    simp only [marked]
    split
    · intro comma
      exact absurd (List.eq_of_mem_replicate comma) (by decide)
    · exact List.not_mem_nil
  short string := by
    have small : number.toNat ≤ 200 := by
      simp only [List.mem_cons, List.not_mem_nil, or_false] at plain
      omega
    simp only [marked]
    split
    · rw [encode_replicate, List.length_replicate]
      exact small
    · exact Nat.zero_le _
  plain row member := by
    rw [number_marked possible]
    split
    · exact plain
    · decide
  inRange row member type isInteger := by
    rw [number_marked possible]
    split
    case isTrue isMarked => exact inRange row member isMarked type isInteger
    case isFalse => exact inRange_zero type

theorem valid_marked_one (name : String) :
    (marked name 1).Valid definition :=
  valid_marked (Or.inl (by decide)) (by decide)
    fun _ _ _ type _ => inRange_one type

theorem number_marked_one (name other : String) :
    (marked name 1).number definition other = 0 ∨
      (marked name 1).number definition other = 1 := by
  rw [number_marked (Or.inl (by decide))]
  split
  · exact Or.inr rfl
  · exact Or.inl rfl

theorem length_text_pair (first second string : String) :
    (encode ((pair first second).text string)).length ≤ 1 := by
  simp only [pair]
  split
  · decide
  · split
    · decide
    · decide

theorem number_pair (first second other : String) :
    (pair first second).number definition other = 0 ∨
      (pair first second).number definition other = 1 := by
  rw [Sample.number]
  split
  case h_1 row found =>
    have short := length_text_pair first second row.name
    omega
  case h_2 => exact Or.inl rfl

theorem valid_pair (first second : String) :
    (pair first second).Valid definition where
  commaFree string := by
    simp only [pair]
    split
    · decide
    · split
      · decide
      · decide
  short string := (length_text_pair first second string).trans (by decide)
  plain row member := by
    rcases number_pair first second row.name with zero | one
    · rw [zero]
      decide
    · rw [one]
      decide
  inRange row member type isInteger := by
    rcases number_pair first second row.name with zero | one
    · rw [zero]
      exact inRange_zero type
    · rw [one]
      exact inRange_one type

end Sample

/-! ## Bytes of another field -/

/-- The field is not what stands where the other value was packed. -/
def WrongBytes (build : Build) (packed field : Value) : Prop :=
  ∀ more,
    (packed.wire build ++ more).take (field.wire build).length ≠
      field.wire build

section

variable (build : Build)

theorem wire_zero (type : IntType) :
    type.wire build 0 = List.replicate type.bytes 0 := by
  rw [IntType.wire, image_zero, List.reverse_replicate, ite_self]

theorem wire_one_ne_wire_zero (type : IntType) :
    type.wire build 1 ≠ type.wire build 0 := by
  intro same
  have impossible :=
    IntType.wire_injective build (inRange_one type) (inRange_zero type) same
  cases impossible

/-- The wire format of zero and of one has no letter in it. -/
theorem not_mem_wire
    (type : IntType) {number : Int} (small : number = 0 ∨ number = 1) :
    97 ∉ type.wire build number := by
  rw [mem_wire_iff]
  rcases small with rfl | rfl
  · cases type <;> decide
  · cases type <;> decide

theorem wrongBytes_text_text : WrongBytes build (.text [98]) (.text [97]) := by
  intro more same
  simp [Value.wire] at same

theorem wrongBytes_integer_text
    (type : IntType) {number : Int} (small : number = 0 ∨ number = 1) :
    WrongBytes build (.integer type number) (.text [97]) := by
  intro more same
  simp only [Value.wire, List.length_singleton] at same
  have size : 1 ≤ (type.wire build number).length := by
    rw [IntType.length_wire]
    exact type.bytes_pos
  rw [List.take_append_of_le_length size] at same
  apply not_mem_wire build type small
  apply List.mem_of_mem_take
  rw [same]
  exact List.mem_singleton_self _

theorem wrongBytes_text_integer
    (type : IntType) {number : Int} (small : number = 0 ∨ number = 1) :
    WrongBytes build (.text [97]) (.integer type number) := by
  intro more same
  simp only [Value.wire, IntType.length_wire] at same
  apply not_mem_wire build type small
  obtain ⟨size, bytes⟩ := Nat.exists_eq_add_of_le' type.bytes_pos
  rw [← same, bytes]
  exact List.mem_cons_self

/-- A one behind the cursor where a zero of at least its size stands. -/
theorem wrongBytes_zero_one
    {packed field : IntType} (fits : field.bytes ≤ packed.bytes) :
    WrongBytes build (.integer packed 0) (.integer field 1) := by
  intro more same
  simp only [Value.wire, IntType.length_wire] at same
  rw [List.take_append_of_le_length (by rw [IntType.length_wire]; exact fits),
    wire_zero, List.take_replicate, Nat.min_eq_left fits, ← wire_zero build]
    at same
  exact wire_one_ne_wire_zero build field same.symm

/-- A zero behind the cursor where a shorter one stands. -/
theorem wrongBytes_one_zero
    {packed field : IntType} (shorter : packed.bytes ≤ field.bytes) :
    WrongBytes build (.integer packed 1) (.integer field 0) := by
  intro more same
  simp only [Value.wire, IntType.length_wire] at same
  have first := congrArg (List.take packed.bytes) same
  rw [List.take_take, Nat.min_eq_left shorter,
    List.take_append_of_le_length (by rw [IntType.length_wire]),
    List.take_of_length_le (by rw [IntType.length_wire]), wire_zero,
    List.take_replicate, Nat.min_eq_left shorter, ← wire_zero build] at first
  exact wire_one_ne_wire_zero build packed first

end

/-! ## The ways to disagree -/

/-- Two lists of one length are equal, or differ behind a common beginning. -/
theorem exists_first_difference
    {Element : Type} {left right : List Element}
    (length : left.length = right.length) (different : left ≠ right) :
    ∃ front leftHead leftRest rightHead rightRest,
      left = front ++ leftHead :: leftRest ∧
        right = front ++ rightHead :: rightRest ∧ leftHead ≠ rightHead := by
  induction left generalizing right with
  | nil => exact absurd (List.length_eq_zero_iff.mp length.symm).symm different
  | cons leftHead leftRest inductionHypothesis =>
      cases right with
      | nil => cases length
      | cons rightHead rightRest =>
          by_cases same : leftHead = rightHead
          · subst rightHead
            obtain ⟨front, first, firstRest, second, secondRest, isLeft,
                isRight, unequal⟩ :=
              inductionHypothesis (Nat.succ.inj length)
                fun equal => different (congrArg _ equal)
            exact ⟨leftHead :: front, first, firstRest, second, secondRest,
              congrArg _ isLeft, congrArg _ isRight, unequal⟩
          · exact ⟨[], leftHead, leftRest, rightHead, rightRest, rfl, rfl,
              same⟩

section

variable {definition : SendDefinition} {build : Build}
  (machine : build.sizeBits = 32 ∨ build.sizeBits = 64)
  (few : definition.rows.length < 2 ^ 24)
  (agrees : definition.AgreesOnBody build)

include machine few agrees

/-- An integer of a sample packet is accepted by its format letter. -/
theorem packable_marked
    {name : String} {number : Int}
    (valid : (Sample.marked name number).Valid definition)
    (possible : 0 ≤ number ∨ ¬ Sample.IsLength definition name)
    {row : Row} (member : row ∈ definition.rows) (isMarked : row.name = name)
    {type : IntType} (isInteger : row.toArg.type = .integer type) :
    Packable row (.integer type number) := by
  have packable := (valid.agreement machine few agrees valid.typed).1 row member
  rw [Sample.store_of_mem member, Sample.value_of_integer isInteger,
    Sample.number_marked possible, if_pos isMarked] at packable
  exact packable

/-- `b` refuses the upper half of an `uchar`. -/
theorem type_ne_uchar_of_agrees
    {row : Row} (member : row ∈ definition.rows) : row.type ≠ "uchar" := by
  intro isUchar
  have isInteger : row.toArg.type = .integer .uint8 := by
    rw [Row.toArg, isUchar]
    rfl
  have valid : (Sample.marked row.name 200).Valid definition := by
    refine Sample.valid_marked (Or.inl (by decide)) (by decide) ?_
    intro other otherMember same type otherType
    rw [SendDefinition.row_eq_of_name_eq otherMember member same,
      isInteger] at otherType
    cases otherType
    decide
  have packable :=
    packable_marked machine few agrees valid (Or.inl (by decide)) member rfl
      isInteger
  exact absurd (packable.2 isUchar) (by decide)

/-- `B` refuses the negative half of a `char`. -/
theorem isLength_of_agrees
    {row : Row} (member : row ∈ definition.rows)
    (isChar : row.type = "char") :
    Sample.IsLength definition row.name := by
  by_contra notLength
  have isInteger : row.toArg.type = .integer .int8 := by
    rw [Row.toArg, isChar]
    rfl
  have valid : (Sample.marked row.name (-1)).Valid definition := by
    refine Sample.valid_marked (Or.inr notLength) (by decide) ?_
    intro other otherMember same type otherType
    rw [SendDefinition.row_eq_of_name_eq otherMember member same,
      isInteger] at otherType
    cases otherType
    decide
  have packable :=
    packable_marked machine few agrees valid (Or.inr notLength) member rfl
      isInteger
  exact absurd (packable.1 isChar) (by decide)

omit agrees

theorem not_agrees_of_wrongBytes
    {sample : Sample} (valid : sample.Valid definition)
    {front behind rest : List Row} {field packed : Row}
    (ordered : orderedRows definition.rows = front ++ field :: behind)
    (stored : definition.rows = front ++ packed :: rest)
    (wrong :
      WrongBytes build (sample.value definition packed)
        (sample.value definition field)) :
    ¬ definition.AgreesOnBody build := by
  refine not_agrees_of_wrong_bytes valid machine few ordered stored ?_
  have packedMember : packed ∈ definition.rows := by
    rw [stored]
    exact List.mem_append_right _ List.mem_cons_self
  have holds :
      sample.store definition packed.toArg.name =
        sample.value definition packed :=
    Sample.store_of_mem packedMember
  rw [List.map_cons, wireFormat_cons, holds]
  exact wrong _

/-- The decoder expects another field than the builder has packed. -/
theorem not_agrees_of_field_ne
    {front behind rest : List Row} {field packed : Row}
    (ordered : orderedRows definition.rows = front ++ field :: behind)
    (stored : definition.rows = front ++ packed :: rest)
    (different : field ≠ packed) :
    ¬ definition.AgreesOnBody build := by
  have fieldMember : field ∈ definition.rows := by
    rw [← (orderedRows_perm definition.rows).mem_iff, ordered]
    exact List.mem_append_right _ List.mem_cons_self
  have packedMember : packed ∈ definition.rows := by
    rw [stored]
    exact List.mem_append_right _ List.mem_cons_self
  have otherName : packed.name ≠ field.name := fun same =>
    different
      (SendDefinition.row_eq_of_name_eq packedMember fieldMember same).symm
  -- The packet is chosen by the kinds of the two fields.
  by_cases fieldString : field.type = "string"
  · by_cases packedString : packed.type = "string"
    · refine not_agrees_of_wrongBytes machine few
        (Sample.valid_pair field.name packed.name) ordered stored ?_
      rw [Sample.value_of_string fieldString,
        Sample.value_of_string packedString]
      simp only [Sample.pair, if_pos, if_neg otherName]
      exact wrongBytes_text_text build
    · obtain ⟨type, isInteger⟩ :=
        SendDefinition.toArg_integer packedMember packedString
      refine not_agrees_of_wrongBytes machine few
        (Sample.valid_marked_one (nameLength field.name)) ordered stored ?_
      rw [Sample.value_of_string fieldString,
        Sample.value_of_integer (congrArg Arg.type isInteger)]
      simp only [Sample.marked, if_pos]
      refine wrongBytes_integer_text build type ?_
      exact Sample.number_marked_one _ _
  · obtain ⟨fieldType, fieldInteger⟩ :=
      SendDefinition.toArg_integer fieldMember fieldString
    by_cases packedString : packed.type = "string"
    · refine not_agrees_of_wrongBytes machine few
        (Sample.valid_marked_one (nameLength packed.name)) ordered stored ?_
      rw [Sample.value_of_string packedString,
        Sample.value_of_integer (congrArg Arg.type fieldInteger)]
      simp only [Sample.marked, if_pos]
      refine wrongBytes_text_integer build fieldType ?_
      exact Sample.number_marked_one _ _
    · obtain ⟨packedType, packedInteger⟩ :=
        SendDefinition.toArg_integer packedMember packedString
      rcases le_or_gt fieldType.bytes packedType.bytes with fits | shorter
      · refine not_agrees_of_wrongBytes machine few
          (Sample.valid_marked_one field.name) ordered stored ?_
        rw [Sample.value_of_integer (congrArg Arg.type fieldInteger),
          Sample.value_of_integer (congrArg Arg.type packedInteger),
          Sample.number_marked (Or.inl (by decide)), if_neg otherName,
          Sample.number_marked (Or.inl (by decide)), if_pos rfl]
        exact wrongBytes_zero_one build fits
      · refine not_agrees_of_wrongBytes machine few
          (Sample.valid_marked_one packed.name) ordered stored ?_
        rw [Sample.value_of_integer (congrArg Arg.type fieldInteger),
          Sample.value_of_integer (congrArg Arg.type packedInteger),
          Sample.number_marked (Or.inl (by decide)), if_pos rfl,
          Sample.number_marked (Or.inl (by decide)), if_neg otherName.symm]
        exact wrongBytes_one_zero build shorter.le

include agrees

/-- The rows are stored in the order in which the decoder reads them. -/
theorem orderedRows_of_agrees :
    orderedRows definition.rows = definition.rows := by
  by_contra different
  obtain ⟨front, field, behind, packed, rest, ordered, stored, unequal⟩ :=
    exists_first_difference (orderedRows_perm definition.rows).length_eq
      different
  exact not_agrees_of_field_ne machine few ordered stored unequal agrees

theorem stored_of_agrees :
    definition.rows.Pairwise fun first second =>
      first.orderNo < second.orderNo := by
  have sorted :
      (orderedRows definition.rows).Pairwise fun first second =>
        decide (first.orderNo ≤ second.orderNo) = true := by
    apply List.pairwise_mergeSort
    · intro first second third
      simp only [decide_eq_true_eq]
      exact Int.le_trans
    · intro first second
      simp only [Bool.or_eq_true, decide_eq_true_eq]
      exact Int.le_total _ _
  rw [orderedRows_of_agrees machine few agrees] at sorted
  have unique := List.pairwise_map.mp definition.primaryKey
  refine (sorted.and unique).imp ?_
  rintro first second ⟨before, other⟩
  exact lt_of_le_of_ne (of_decide_eq_true before) other

/--
A string whose length is read later gets the length that the variable happens
to hold.
-/
theorem lengthFirst_of_agrees
    {text : Row} (member : text ∈ definition.rows)
    (isString : text.type = "string") :
    ∃ length ∈ definition.rows,
      length.name = nameLength text.name ∧
        length.orderNo < text.orderNo := by
  obtain ⟨length, lengthMember, lengthName, notString⟩ :=
    definition.lengths text member isString
  refine ⟨length, lengthMember, lengthName, ?_⟩
  by_contra notBefore
  have stored := stored_of_agrees machine few agrees
  have ordered := orderedRows_of_agrees machine few agrees
  obtain ⟨type, lengthInteger⟩ :=
    SendDefinition.toArg_integer lengthMember notString
  obtain ⟨front, behind, split⟩ := List.append_of_mem member
  have argsSplit :
      definition.args =
        front.map Row.toArg ++ text.toArg :: behind.map Row.toArg := by
    rw [SendDefinition.args, ordered, split, List.map_append, List.map_cons]
  have frontArgs : ∀ arg ∈ front.map Row.toArg, arg ∈ definition.args := by
    intro arg among
    rw [argsSplit]
    exact List.mem_append_left _ among
  have late : ∀ arg ∈ front.map Row.toArg, arg.name ≠ nameLength text.name := by
    intro arg among same
    obtain ⟨row, inFront, rfl⟩ := List.mem_map.mp among
    have rowMember : row ∈ definition.rows := by
      rw [split]
      exact List.mem_append_left _ inFront
    rw [split] at stored
    have before :=
      (List.pairwise_append.mp stored).2.2 row inFront text List.mem_cons_self
    rw [SendDefinition.row_eq_of_name_eq rowMember lengthMember
      (same.trans lengthName.symm)] at before
    exact notBefore before
  -- All values are zero, and the variable for the length holds a one.
  have valid : (Sample.marked text.name 0).Valid definition :=
    Sample.valid_marked (Or.inl le_rfl) (by decide)
      fun _ _ _ type _ => inRange_zero type
  have empty :
      (Sample.marked text.name 0).store definition text.name = .text [] := by
    rw [Sample.store_of_mem member, Sample.value_of_string isString]
    simp [Sample.marked, encode]
  have targets :
      Typed definition.args
        (Function.update ((Sample.marked text.name 0).store definition)
          (nameLength text.name) (.integer type 1)) := by
    have typed := valid.typed
    rw [SendDefinition.typed_args_iff] at typed ⊢
    intro row among
    by_cases same : row.name = nameLength text.name
    · rw [same, Function.update_self,
        SendDefinition.row_eq_of_name_eq among lengthMember
          (same.trans lengthName.symm), lengthInteger]
      exact ⟨rfl, inRange_one type⟩
    · rw [Function.update_of_ne same]
      exact typed row among
  obtain ⟨-, read, reads, agree⟩ :=
    valid.agreement machine few agrees targets
  have textArg : text.toArg ∈ definition.args := by
    rw [argsSplit]
    exact List.mem_append_right _ List.mem_cons_self
  have distinct := definition.args_distinct
  rw [argsSplit, SendDefinition.toArg_string isString] at distinct reads
  refine deserialize_late_length distinct
    (fun arg among =>
      SendDefinition.noPointer_args arg (frontArgs arg among))
    (fun arg among => valid.typed arg (frontArgs arg among))
    (fun arg among => Sample.consistent arg (frontArgs arg among)) empty late
    (length_storedFormat_lt valid machine few) ?_ reads
    ((agree _ textArg).trans empty)
  rw [SendDefinition.storedArgs, split, List.map_append, wireFormat_append]
  exact List.prefix_append _ _

end

end LibSklt.PacketGenerator
