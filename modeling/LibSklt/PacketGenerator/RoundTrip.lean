import LibSklt.PacketGenerator.LostBytes
import LibSklt.PacketGenerator.ProtocolProcess

/-!
# The round trip of the generated codec

What `Serialize` wrote into a buffer of the size that `make_arg_get_size`
gives is handed to `Deserialize`.  Without `_ENABLE` the values come back for
every list of fields.  With it they do exactly if there are neither strings
nor integers of eight bits: `Serialize` resizes a string with its swapped
length, and sends an integer of eight bits through the overload for 32 bits.

In both functions a line for the logger comes in between.  Where it does not
fit, the program ends; the longer of the two is that of `Serialize`.
-/

namespace LibSklt.PacketGenerator

open LibSklt.Foundation.ByteImage
open LibSklt.Foundation.MachineWord
open LibSklt.Foundation.Tokens
open LibSklt.Util
open LibSklt.Util.ByteOrder

/-- Lengths of strings are unsigned. -/
def UnsignedLength (type : IntType) : Prop :=
  type.signed = false

/--
The statements around the calls of the logger bring every assignment back that
fits in memory, whatever the buffer and the variables on the reading side held
before, and both functions report the same number of bytes.
-/
def FieldsRoundTrip (build : Build) (args : List Arg) : Prop :=
  ∀ values targets buffer,
    Assignment args values →
      totalSize args values < 2 ^ build.sizeBits →
        Typed args targets →
          buffer.length =
              getSize build.sizeBits values (makeArgGetSize args) →
            ∃ written read,
              writeFields build (fun _ => true) args values buffer =
                  .running written ∧
                readFields build (fun _ => true) args targets
                    (written.buffer.take written.bufferIdx) =
                  .running read ∧
                Agree args read.store values ∧
                  read.bufferIdx = written.bufferIdx

section

variable {build : Build}

theorem getSize_of_assignment
    {args : List Arg} {values : Store}
    (noPointer : ∀ arg ∈ args, arg.type ≠ .charPointer)
    (assignment : Assignment args values)
    (small : totalSize args values < 2 ^ build.sizeBits) :
    getSize build.sizeBits values (makeArgGetSize args) =
      totalSize args values := by
  refine getSize_eq_totalSize noPointer assignment.typed ?_ small
  intro arg member isString
  have typed := assignment.typed arg member
  rw [isString] at typed
  cases holds : values arg.name with
  | integer => simp [holds, HasType] at typed
  | chars => simp [holds, HasType] at typed
  | text bytes =>
      obtain ⟨type, length⟩ := assignment.consistent arg member bytes holds
      exact ⟨type, bytes.length, length⟩

theorem fieldsRoundTrip_of_writable
    {args : List Arg} (schema : Schema UnsignedLength args)
    (distinct : (args.map Arg.name).Nodup)
    (writable : ∀ arg ∈ args, Writable build arg) :
    FieldsRoundTrip build args := by
  intro values targets buffer assignment small typed size
  have ordered := schema.stringsBehindLengths []
  have noPointer := schema.noPointer
  have length := length_wireFormat build noPointer assignment
  rw [getSize_of_assignment noPointer assignment small] at size
  obtain ⟨next, wrote⟩ :=
    @exec_serialize_wireFormat build (fun _ => true) [] buffer args values
      writable noPointer distinct assignment.typed assignment.consistent
      (fun _ => rfl) (by omega) (by simp; omega)
  rw [List.nil_append] at wrote
  rcases @exec_unserialize_wireFormat build (fun _ => true) UnsignedLength []
      args values ⟨targets, wireFormat build args values, 0⟩ ordered
      ⟨distinct, by simp⟩ assignment.typed assignment.consistent typed
      (fun arg member => by simp at member) (by simp only; omega)
      (Nat.zero_le _) (List.prefix_refl _) with
    threw | ⟨read, runs, moved, -, agree⟩
  · obtain ⟨count, impossible⟩ := exec_threw threw
    simp at impossible
  · refine ⟨_, read, wrote, ?_, agree, ?_⟩
    · rw [readFields, writingFrame, List.take_left]
      exact runs
    · rw [moved, Nat.zero_add]
      rfl

/-! ## Variables with zeroes -/

/-- The value zero of a type. -/
def zeroValue : CppType → Value
  | .integer type => .integer type 0
  | .string => .text []
  | .charPointer => .chars []

/-- All fields are zero or empty. -/
def zeroStore : List Arg → Store
  | [] => fun _ => .text []
  | arg :: args =>
      Function.update (zeroStore args) arg.name (zeroValue arg.type)

theorem zeroStore_of_mem
    {args : List Arg} (distinct : (args.map Arg.name).Nodup) {arg : Arg}
    (member : arg ∈ args) : zeroStore args arg.name = zeroValue arg.type := by
  induction args with
  | nil => simp at member
  | cons first args inductionHypothesis =>
      obtain ⟨new, distinctRest⟩ := List.nodup_cons.mp distinct
      rw [zeroStore]
      rcases List.mem_cons.mp member with rfl | among
      · exact Function.update_self _ _ _
      · rw [Function.update_of_ne]
        · exact inductionHypothesis distinctRest among
        · intro same
          exact new (same ▸ List.mem_map_of_mem among)

theorem inRange_zero (type : IntType) : type.InRange 0 := by
  cases type <;> simp [IntType.InRange, IntType.signed, IntType.bytes]

theorem hasType_zeroValue (type : CppType) :
    HasType type (zeroValue type) := by
  cases type with
  | integer type => exact ⟨rfl, inRange_zero type⟩
  | string => trivial
  | charPointer => trivial

theorem typed_zeroStore
    {args : List Arg} (distinct : (args.map Arg.name).Nodup) :
    Typed args (zeroStore args) := by
  intro arg member
  rw [zeroStore_of_mem distinct member]
  exact hasType_zeroValue arg.type

theorem image_zero (type : IntType) :
    type.image 0 = List.replicate type.bytes 0 := by
  rw [IntType.image, ← leBytes_zero]
  rfl

theorem not_mem_contents_zeroStore
    {byte : UInt8} (nonzero : byte ≠ 0) (args : List Arg) (name : String) :
    byte ∉ (zeroStore args name).contents := by
  induction args with
  | nil => simp [zeroStore, Value.contents]
  | cons arg args inductionHypothesis =>
      rw [zeroStore]
      by_cases same : name = arg.name
      · rw [same, Function.update_self]
        cases arg.type with
        | integer type =>
            rw [zeroValue, Value.contents, image_zero]
            intro member
            exact nonzero (List.eq_of_mem_replicate member)
        | string => simp [zeroValue, Value.contents]
        | charPointer => simp [zeroValue, Value.contents]
      · rw [Function.update_of_ne same]
        exact inductionHypothesis

theorem hostToNetwork_zero (type : IntType) :
    type.hostToNetwork build 0 = 0 := by
  obtain ⟨enable, sizeBits⟩ := build
  cases enable <;> cases type <;> rfl

/-! ## Lost values -/

/-- A byte of a field that is not written refutes the round trip. -/
theorem not_fieldsRoundTrip_of_unwritten
    {args : List Arg} (schema : Schema UnsignedLength args)
    (distinct : (args.map Arg.name).Nodup) {values : Store}
    (assignment : Assignment args values)
    (small : totalSize args values < 2 ^ build.sizeBits)
    {byte : UInt8} (nonzero : byte ≠ 0) {arg : Arg} (member : arg ∈ args)
    (held : byte ∈ (values arg.name).contents)
    (unwritten : ∀ arg ∈ args, Unwritten build values byte arg) :
    ¬ FieldsRoundTrip build args := by
  intro roundTrips
  have ordered := schema.stringsBehindLengths []
  have noPointer := schema.noPointer
  obtain ⟨written, read, wrote, reads, agree, -⟩ :=
    roundTrips values (zeroStore args)
      (List.replicate
        (getSize build.sizeBits values (makeArgGetSize args)) 0)
      assignment small (typed_zeroStore distinct) List.length_replicate
  have zeroes (count : Nat) : byte ∉ List.replicate count (0 : UInt8) :=
    fun member => nonzero (List.eq_of_mem_replicate member)
  have absent :=
    (exec_serialize_unwritten ordered ⟨distinct, by simp⟩ assignment.typed
      (fun earlier among => by simp at among)
      ⟨fun _ _ => rfl, fun earlier among => by simp at among⟩ unwritten
      (fun _ => rfl) (zeroes _) wrote).1
  have clean :=
    exec_unserialize_clean nonzero noPointer distinct
      (typed_zeroStore distinct)
      ⟨fun among => absent (List.mem_of_mem_take among),
        not_mem_contents_zeroStore nonzero args, Nat.zero_le _⟩ reads
  apply clean.store arg.name
  rw [agree arg member]
  exact held

/-- The size of the integers among the fields. -/
def fixedSize (args : List Arg) : Nat :=
  (args.map fun arg =>
    match arg.type with
    | .integer type => type.bytes
    | _ => 0).sum

theorem eq_of_name_eq
    {args : List Arg} (distinct : (args.map Arg.name).Nodup)
    {first second : Arg} (firstMember : first ∈ args)
    (secondMember : second ∈ args) (same : first.name = second.name) :
    first = second :=
  List.inj_on_of_nodup_map distinct firstMember secondMember same

/-- Fields that are zero are written as zeroes. -/
theorem unwritten_of_zero
    {byte : UInt8} (nonzero : byte ≠ 0) {values : Store} {arg : Arg}
    (zero : values arg.name = zeroValue arg.type) :
    Unwritten build values byte arg := by
  rw [Unwritten, zero]
  cases arg.type with
  | integer type =>
      simp only [zeroValue]
      rw [hostToNetwork_zero, image_zero]
      exact fun member => nonzero (List.eq_of_mem_replicate member)
  | string =>
      simp only [zeroValue]
      intro type value _
      exact not_mem_resized nonzero List.not_mem_nil _
  | charPointer => trivial

/-- The 32-bit overload moves an eight-bit value out of its byte. -/
theorem hostToNetwork_one_of_eightBits
    (enabled : build.enable = true) {type : IntType}
    (eightBits : type.bytes = 1) : type.hostToNetwork build 1 = 0 := by
  cases type <;> simp [IntType.bytes] at eightBits
  · rw [IntType.hostToNetwork, hostToNetworkS32, enabled]
    rfl
  · rw [IntType.hostToNetwork, hostToNetworkS32, enabled]
    rfl

/-- An integer of eight bits does not survive `_ENABLE`. -/
theorem not_fieldsRoundTrip_of_eightBits
    {args : List Arg} (enabled : build.enable = true)
    (schema : Schema UnsignedLength args)
    (distinct : (args.map Arg.name).Nodup)
    (integers : ∀ arg ∈ args, ∃ type, arg.type = .integer type)
    (small : fixedSize args < 2 ^ build.sizeBits)
    {type : IntType} (eightBits : type.bytes = 1) {name : String}
    (member : ⟨.integer type, name⟩ ∈ args) :
    ¬ FieldsRoundTrip build args := by
  have typed :
      Typed args
        (Function.update (zeroStore args) name (.integer type 1)) := by
    intro arg among
    by_cases same : arg.name = name
    · rw [eq_of_name_eq distinct among member same, Function.update_self]
      cases type <;> simp [IntType.bytes] at eightBits <;>
        simp [HasType, IntType.InRange, IntType.signed, IntType.bytes]
    · rw [Function.update_of_ne same]
      exact typed_zeroStore distinct arg among
  have assignment :
      Assignment args
        (Function.update (zeroStore args) name (.integer type 1)) := by
    refine ⟨typed, fun arg among bytes text => ?_⟩
    obtain ⟨integerType, isInteger⟩ := integers arg among
    have isString := typed arg among
    rw [text] at isString
    rw [isString.eq_string] at isInteger
    cases isInteger
  have total :
      totalSize args
          (Function.update (zeroStore args) name (.integer type 1)) =
        fixedSize args := by
    rw [totalSize, fixedSize]
    congr 1
    apply List.map_congr_left
    intro arg among
    obtain ⟨integerType, isInteger⟩ := integers arg among
    simp only [fieldSize, isInteger]
  have nonzero : (1 : UInt8) ≠ 0 := by decide
  refine not_fieldsRoundTrip_of_unwritten schema distinct assignment
    (by rw [total]; exact small) nonzero member ?_ ?_
  · simp only [Function.update_self, Value.contents]
    cases type <;> simp [IntType.bytes] at eightBits <;> decide
  · intro arg among
    by_cases same : arg.name = name
    · rw [Unwritten, same, Function.update_self]
      simp only
      rw [hostToNetwork_one_of_eightBits enabled eightBits, image_zero]
      exact fun byte => nonzero (List.eq_of_mem_replicate byte)
    · apply unwritten_of_zero nonzero
      rw [Function.update_of_ne same, zeroStore_of_mem distinct among]

/-- A length of moderate size that `Serialize` turns into a smaller one. -/
def CutLength (build : Build) (type : IntType) (length : Nat) : Prop :=
  type.InRange length ∧ length ≤ 2 ^ (build.sizeBits - 8) ∧
    unsignedCast build.sizeBits (type.hostToNetwork build length) < length ∧
      (120 : UInt8) ∉ type.image (type.hostToNetwork build length)

instance (build : Build) (type : IntType) (length : Nat) :
    Decidable (CutLength build type length) :=
  inferInstanceAs (Decidable (_ ∧ _ ∧ _ ∧ _))

/-- Such a length for each of the unsigned types. -/
def cutLength (sizeBits : Nat) : IntType → Nat
  | .uint16 => 2 ^ 8
  | .uint32 => 2 ^ 24
  | .uint64 => if sizeBits = 64 then 2 ^ 56 else 1
  | _ => 1

theorem cutLength_cutLength
    (enabled : build.enable = true)
    (machine : build.sizeBits = 32 ∨ build.sizeBits = 64)
    {type : IntType} (unsigned : UnsignedLength type) :
    CutLength build type (cutLength build.sizeBits type) := by
  obtain ⟨enable, sizeBits⟩ := build
  simp only at enabled machine
  subst enable
  cases type with
  | int8 | int16 | int32 | int64 =>
      simp [UnsignedLength, IntType.signed] at unsigned
  | uint8 | uint16 | uint32 | uint64 =>
      rcases machine with rfl | rfl
      · decide
      · decide

/-- A text whose only letter stands at its end. -/
def markedText (length : Nat) : List UInt8 :=
  List.replicate (length - 1) 0 ++ [120]

theorem length_markedText {length : Nat} (positive : 0 < length) :
    (markedText length).length = length := by
  rw [markedText, List.length_append, List.length_replicate,
    List.length_singleton]
  omega

/-- Cutting the text removes the letter. -/
theorem not_mem_resized_markedText
    {length count : Nat} (cut : count < length) :
    (120 : UInt8) ∉ resized count (markedText length) := by
  have whole := length_markedText (Nat.zero_lt_of_lt cut)
  have nothing : count - (markedText length).length = 0 := by omega
  rw [resized, nothing, List.replicate_zero, List.append_nil, markedText,
    List.take_append_of_le_length (by rw [List.length_replicate]; omega)]
  intro member
  have zero := List.eq_of_mem_replicate (List.mem_of_mem_take member)
  exact absurd zero (by decide)

/-- All fields are zero or empty, except one string and its length. -/
def markedStore (args : List Arg) (name : String) (type : IntType)
    (length : Nat) : Store :=
  Function.update
    (Function.update (zeroStore args) (nameLength name)
      (.integer type length))
    name (.text (markedText length))

section

variable {args : List Arg} {name : String} {type : IntType} {length : Nat}

theorem markedStore_text :
    markedStore args name type length name = .text (markedText length) :=
  Function.update_self _ _ _

theorem markedStore_length :
    markedStore args name type length (nameLength name) =
      .integer type length := by
  rw [markedStore, Function.update_of_ne (nameLength_ne name),
    Function.update_self]

theorem markedStore_of_ne
    {other : String} (notText : other ≠ name)
    (notLength : other ≠ nameLength name) :
    markedStore args name type length other = zeroStore args other := by
  rw [markedStore, Function.update_of_ne notText,
    Function.update_of_ne notLength]

/-- The fields of the list: the string, its length, and zeroes. -/
theorem markedStore_cases
    (distinct : (args.map Arg.name).Nodup)
    (text : ⟨.string, name⟩ ∈ args)
    (lengthField : ⟨.integer type, nameLength name⟩ ∈ args)
    (length : Nat) {arg : Arg} (member : arg ∈ args) :
    arg = ⟨.string, name⟩ ∨ arg = ⟨.integer type, nameLength name⟩ ∨
      markedStore args name type length arg.name = zeroValue arg.type := by
  by_cases isText : arg.name = name
  · exact Or.inl (eq_of_name_eq distinct member text isText)
  · by_cases isLength : arg.name = nameLength name
    · exact Or.inr
        (Or.inl (eq_of_name_eq distinct member lengthField isLength))
    · right
      right
      rw [markedStore_of_ne isText isLength, zeroStore_of_mem distinct member]

theorem nameLength_injective {first second : String}
    (same : nameLength first = nameLength second) : first = second := by
  rw [nameLength, nameLength, String.append_left_inj] at same
  exact same

theorem markedStore_assignment
    (schema : Schema UnsignedLength args)
    (distinct : (args.map Arg.name).Nodup)
    (text : ⟨.string, name⟩ ∈ args)
    (lengthField : ⟨.integer type, nameLength name⟩ ∈ args)
    (positive : 0 < length) (inRange : type.InRange length) :
    Assignment args (markedStore args name type length) := by
  constructor
  · intro arg member
    rcases markedStore_cases distinct text lengthField length member with
      rfl | rfl | zero
    · rw [markedStore_text]
      trivial
    · rw [markedStore_length]
      exact ⟨rfl, inRange⟩
    · rw [zero]
      exact hasType_zeroValue arg.type
  · intro arg member bytes holds
    rcases markedStore_cases distinct text lengthField length member with
      rfl | rfl | zero
    · rw [markedStore_text] at holds
      cases holds
      refine ⟨type, ?_⟩
      rw [markedStore_length, length_markedText positive]
    · rw [markedStore_length] at holds
      cases holds
    · -- Another string is empty, and its length is zero.
      have isString : arg.type = .string := by
        have typed := hasType_zeroValue arg.type
        rw [← zero, holds] at typed
        exact typed.eq_string
      have empty : bytes = [] := by
        rw [zero, isString] at holds
        cases holds
        rfl
      obtain ⟨lengthType, -, among⟩ :=
        ((schema.stringsBehindLengths []).length_mem arg member).2 isString
      rw [List.append_nil] at among
      rcases markedStore_cases distinct text lengthField length among with
        impossible | same | zeroLength
      · cases impossible
      · have sameName : arg.name = name :=
          nameLength_injective (congrArg Arg.name same)
        rw [sameName, markedStore_text, Value.text.injEq] at holds
        have whole := length_markedText positive
        rw [holds, empty, List.length_nil] at whole
        omega
      · exact ⟨lengthType, by rw [zeroLength, empty]; rfl⟩

theorem sum_single_le
    {args : List Arg} (distinct : args.Nodup) (arg : Arg) (size : Nat) :
    (args.map fun other => if other = arg then size else 0).sum ≤ size := by
  induction args with
  | nil => simp
  | cons first args inductionHypothesis =>
      obtain ⟨new, distinctRest⟩ := List.nodup_cons.mp distinct
      rw [List.map_cons, List.sum_cons]
      by_cases same : first = arg
      · have nothing :
            (args.map fun other => if other = arg then size else 0).sum =
              0 := by
          apply List.sum_eq_zero
          intro term member
          obtain ⟨other, among, rfl⟩ := List.mem_map.mp member
          rw [if_neg]
          rintro rfl
          exact new (same ▸ among)
        rw [if_pos same, nothing]
        omega
      · rw [if_neg same, Nat.zero_add]
        exact inductionHypothesis distinctRest

theorem totalSize_markedStore_le
    (schema : Schema UnsignedLength args)
    (distinct : (args.map Arg.name).Nodup)
    (text : ⟨.string, name⟩ ∈ args)
    (lengthField : ⟨.integer type, nameLength name⟩ ∈ args)
    (positive : 0 < length) (inRange : type.InRange length) :
    totalSize args (markedStore args name type length) ≤
      fixedSize args + length := by
  have assignment :=
    markedStore_assignment schema distinct text lengthField positive inRange
  have each :
      ∀ arg ∈ args,
        fieldSize (markedStore args name type length) arg ≤
          (match arg.type with
            | .integer type => type.bytes
            | _ => 0) +
            if arg = ⟨.string, name⟩ then length else 0 := by
    intro arg member
    rw [← length_wire_eq_fieldSize ⟨false, 0⟩ (schema.noPointer arg member)
      (assignment.typed arg member) (assignment.consistent arg member)]
    rcases markedStore_cases distinct text lengthField length member with
      rfl | rfl | zero
    · rw [markedStore_text]
      simp [Value.wire, length_markedText positive]
    · rw [markedStore_length]
      simp [Value.wire]
    · rw [zero]
      cases kind : arg.type with
      | integer integerType => simp [zeroValue, Value.wire]
      | string => simp [zeroValue, Value.wire]
      | charPointer => exact absurd kind (schema.noPointer arg member)
  calc
    totalSize args (markedStore args name type length) ≤
        (args.map fun arg =>
          (match arg.type with
            | .integer type => type.bytes
            | _ => 0) +
            if arg = ⟨.string, name⟩ then length else 0).sum :=
      List.sum_le_sum each
    _ =
        fixedSize args +
          (args.map fun arg =>
            if arg = ⟨.string, name⟩ then length else 0).sum :=
      List.sum_map_add
    _ ≤ fixedSize args + length :=
      Nat.add_le_add_left (sum_single_le distinct.of_map _ length) _

/-- A string does not survive `_ENABLE`. -/
theorem not_fieldsRoundTrip_of_string
    {build : Build} (enabled : build.enable = true)
    (machine : build.sizeBits = 32 ∨ build.sizeBits = 64)
    (schema : Schema UnsignedLength args)
    (distinct : (args.map Arg.name).Nodup)
    (small : fixedSize args < 2 ^ (build.sizeBits - 1))
    (text : ⟨.string, name⟩ ∈ args) : ¬ FieldsRoundTrip build args := by
  obtain ⟨type, unsigned, lengthField⟩ :=
    ((schema.stringsBehindLengths []).length_mem _ text).2 rfl
  rw [List.append_nil] at lengthField
  obtain ⟨inRange, moderate, cut, silent⟩ :=
    cutLength_cutLength enabled machine unsigned
  generalize cutLength build.sizeBits type = length at *
  have positive : 0 < length := Nat.zero_lt_of_lt cut
  have assignment :=
    markedStore_assignment schema distinct text lengthField positive inRange
  have total :=
    totalSize_markedStore_le schema distinct text lengthField positive
      inRange
  have fits :
      totalSize args (markedStore args name type length) <
        2 ^ build.sizeBits := by
    rcases machine with width | width
    · rw [width] at small moderate ⊢
      omega
    · rw [width] at small moderate ⊢
      omega
  have nonzero : (120 : UInt8) ≠ 0 := by decide
  refine not_fieldsRoundTrip_of_unwritten schema distinct assignment fits
    nonzero text ?_ ?_
  · rw [markedStore_text, Value.contents, markedText]
    simp
  · intro arg member
    rcases markedStore_cases distinct text lengthField length member with
      rfl | rfl | zero
    · rw [Unwritten, markedStore_text]
      intro lengthType value holds
      rw [markedStore_length] at holds
      cases holds
      exact not_mem_resized_markedText cut
    · rw [Unwritten, markedStore_length]
      exact silent
    · exact unwritten_of_zero nonzero zero

end

end

/-! ## The round trip -/

/-- The builds and lists of fields for which no value is lost. -/
def Faithful (build : Build) (args : List Arg) : Prop :=
  build.enable = false ∨
    ∀ arg ∈ args, ∃ type, arg.type = .integer type ∧ type.bytes ≠ 1

/-- The statements bring the values back exactly for those. -/
theorem fieldsRoundTrip_iff_faithful
    {build : Build} (machine : build.sizeBits = 32 ∨ build.sizeBits = 64)
    {args : List Arg} (schema : Schema UnsignedLength args)
    (distinct : (args.map Arg.name).Nodup)
    (small : fixedSize args < 2 ^ (build.sizeBits - 1)) :
    FieldsRoundTrip build args ↔ Faithful build args := by
  constructor
  · intro roundTrips
    cases enabled : build.enable with
    | false => exact Or.inl enabled
    | true =>
        right
        have integers : ∀ arg ∈ args, ∃ type, arg.type = .integer type := by
          intro arg member
          obtain ⟨kind, name⟩ := arg
          cases kind with
          | integer type => exact ⟨type, rfl⟩
          | string =>
              exact absurd roundTrips
                (not_fieldsRoundTrip_of_string enabled machine schema
                  distinct small member)
          | charPointer =>
              exact absurd rfl (schema.noPointer _ member)
        intro arg member
        obtain ⟨type, isInteger⟩ := integers arg member
        refine ⟨type, isInteger, fun eightBits => ?_⟩
        obtain ⟨kind, name⟩ := arg
        cases isInteger
        have range :
            2 ^ (build.sizeBits - 1) ≤ 2 ^ build.sizeBits :=
          Nat.pow_le_pow_right Nat.two_pos (Nat.sub_le _ _)
        exact not_fieldsRoundTrip_of_eightBits enabled schema distinct
          integers (by omega) eightBits member roundTrips
  · rintro (disabled | wide)
    · exact fieldsRoundTrip_of_writable schema distinct
        fun _ _ => Or.inl disabled
    · exact fieldsRoundTrip_of_writable schema distinct
        fun arg member => Or.inr (wide arg member)

/--
The values come back through `Serialize` and `Deserialize`, whatever the
buffer and the variables on the reading side held before, and both functions
report the same number of bytes.
-/
def RoundTrip (build : Build) (className : String) (args : List Arg)
    (values : Store) : Prop :=
  ∀ targets buffer, Typed args targets →
    buffer.length = getSize build.sizeBits values (makeArgGetSize args) →
      ∃ written read,
        (serializeCodec className args).serialize build (fun _ => true)
            values buffer = .returned written ∧
          (deserializeCodec className args).deserialize build
              (fun _ => true) targets
              (written.buffer.take written.bufferIdx) = .returned read ∧
            Agree args read.store values ∧
              read.bufferIdx = written.bufferIdx

/-- Every assignment that fits in memory comes back. -/
def RoundTrips (build : Build) (className : String) (args : List Arg) :
    Prop :=
  ∀ values, Assignment args values →
    totalSize args values < 2 ^ build.sizeBits →
      RoundTrip build className args values

theorem RoundTrips.fields
    {build : Build} {className : String} {args : List Arg}
    (roundTrips : RoundTrips build className args) :
    FieldsRoundTrip build args := by
  intro values targets buffer assignment small typed size
  obtain ⟨written, read, wrote, reads, agree, sameSize⟩ :=
    roundTrips values assignment small targets buffer typed size
  exact ⟨written, read, running_of_serialize wrote,
    running_of_deserialize reads, agree, sameSize⟩

section

variable {build : Build} {className : String} {args : List Arg}
  (named : Identifier className)
  (identifiers : ∀ arg ∈ args, Identifier arg.name)
  (noPointer : ∀ arg ∈ args, arg.type ≠ .charPointer)

include named identifiers noPointer

theorem lineFits_of_roundTrip
    {values : Store} (assignment : Assignment args values)
    (roundTrip : RoundTrip build className args values) :
    LineFits className "][OutputData] " args values := by
  obtain ⟨written, -, wrote, -⟩ :=
    roundTrip values (List.replicate _ 0) assignment.typed
      List.length_replicate
  rw [serialize_of_typed named identifiers noPointer assignment.typed]
    at wrote
  by_contra long
  rw [if_neg long] at wrote
  cases wrote

theorem roundTrip_of_lineFits
    (roundTrips : FieldsRoundTrip build args)
    {values : Store} (assignment : Assignment args values)
    (small : totalSize args values < 2 ^ build.sizeBits)
    (fits : LineFits className "][OutputData] " args values) :
    RoundTrip build className args values := by
  intro targets buffer typed size
  obtain ⟨written, read, wrote, reads, agree, sameSize⟩ :=
    roundTrips values targets buffer assignment small typed size
  have readTyped := agree.typed assignment.typed
  refine ⟨written, read, ?_, ?_, agree, sameSize⟩
  · rw [serialize_of_typed named identifiers noPointer assignment.typed,
      if_pos fits, wrote]
    rfl
  · -- What was read fills a line that is shorter than the one before.
    rw [deserialize_of_running named identifiers noPointer reads readTyped,
      if_pos ((lineFits_congr agree).mpr fits.input)]

end

/--
The generated code round-trips exactly without `_ENABLE`, or if all fields are
integers of at least sixteen bits, and if the line of `Serialize` fits for
every assignment.  In these cases an assignment comes back exactly if its own
line fits.
-/
theorem roundTrips_iff
    {build : Build} (machine : build.sizeBits = 32 ∨ build.sizeBits = 64)
    {className : String} (named : Identifier className)
    {args : List Arg} (schema : Schema UnsignedLength args)
    (identifiers : ∀ arg ∈ args, Identifier arg.name)
    (distinct : (args.map Arg.name).Nodup)
    (small : fixedSize args < 2 ^ (build.sizeBits - 1)) :
    (RoundTrips build className args ↔
        Faithful build args ∧
          ∀ values, Assignment args values →
            totalSize args values < 2 ^ build.sizeBits →
              LineFits className "][OutputData] " args values) ∧
      (Faithful build args →
        ∀ values, Assignment args values →
          totalSize args values < 2 ^ build.sizeBits →
            (RoundTrip build className args values ↔
              LineFits className "][OutputData] " args values)) := by
  have noPointer := schema.noPointer
  have exactly := fieldsRoundTrip_iff_faithful machine schema distinct small
  refine ⟨⟨?_, ?_⟩, ?_⟩
  · intro roundTrips
    exact ⟨exactly.mp roundTrips.fields, fun values assignment room =>
      lineFits_of_roundTrip named identifiers noPointer assignment
        (roundTrips values assignment room)⟩
  · rintro ⟨faithful, fits⟩ values assignment room
    exact roundTrip_of_lineFits named identifiers noPointer
      (exactly.mpr faithful) assignment room (fits values assignment room)
  · intro faithful values assignment room
    exact ⟨lineFits_of_roundTrip named identifiers noPointer assignment,
      roundTrip_of_lineFits named identifiers noPointer
        (exactly.mpr faithful) assignment room⟩

/-- A packet with a string round-trips without `_ENABLE`. -/
theorem roundTrip_of_path :
    RoundTrip ⟨false, 64⟩ "OpenFile" pathArgs (pathStore 2 [111, 107]) := by
  have assignment : Assignment pathArgs (pathStore 2 [111, 107]) :=
    ⟨pathStore_typed (by decide) _, pathStore_consistent [111, 107]⟩
  have unsigned : UnsignedLength .uint16 := rfl
  refine ((@roundTrips_iff ⟨false, 64⟩ (Or.inr rfl) "OpenFile"
    identifier_openFile pathArgs (.string unsigned "path" .nil) pathArgs_named
    pathArgs_distinct (by decide)).2 (Or.inl rfl) _ assignment ?_).mpr ?_
  · decide
  · decide

/-- The number one in a field of eight bits becomes zero. -/
theorem eightBits_lost :
    ¬ RoundTrips ⟨true, 64⟩ "SetLevel" [⟨.integer .uint8, "level"⟩] := by
  intro roundTrips
  have typed (value : Int) (inRange : IntType.uint8.InRange value) :
      Typed [⟨.integer .uint8, "level"⟩]
        (fun _ => .integer .uint8 value) := by
    intro arg member
    rw [List.mem_singleton] at member
    subst arg
    exact ⟨rfl, inRange⟩
  obtain ⟨written, read, wrote, reads, agree, -⟩ :=
    roundTrips (fun _ => .integer .uint8 1)
      ⟨typed 1 (by decide), fun _ _ _ text => nomatch text⟩ (by decide)
      (fun _ => .integer .uint8 0) [0] (typed 0 (by decide)) rfl
  have zeroWritten :
      writeFields ⟨true, 64⟩ (fun _ => true) [⟨.integer .uint8, "level"⟩]
          (fun _ => .integer .uint8 1) [0] =
        .running
          ⟨Function.update (fun _ => .integer .uint8 1) "level"
            (.integer .uint8 0), [0], 1⟩ :=
    rfl
  cases (running_of_serialize wrote).symm.trans zeroWritten
  have zeroRead :
      readFields ⟨true, 64⟩ (fun _ => true) [⟨.integer .uint8, "level"⟩]
          (fun _ => .integer .uint8 0) [0] =
        .running
          ⟨Function.update (fun _ => .integer .uint8 0) "level"
            (.integer .uint8 0), [0], 1⟩ :=
    rfl
  cases (running_of_deserialize reads).symm.trans zeroRead
  have same := agree _ List.mem_cons_self
  exact absurd same (by decide)

end LibSklt.PacketGenerator
