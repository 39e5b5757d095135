import LibSklt.PacketGenerator.CodecTexts
import LibSklt.PacketGenerator.Deserialize
import LibSklt.Util.Logger

/-!
# What the generated functions log

`Serialize` and `Deserialize` log the values of their fields, in one line of
a format that the generator puts together.  Each conversion of the format
meets the argument of its field, so that the line is the list of the fields
with their values.

The call is the first statement of `Serialize` and the last one of
`Deserialize` before it returns.  A line that does not fit the array of the
logger ends the program there.
-/

namespace LibSklt.PacketGenerator

open LibSklt.Foundation.MachineWord
open LibSklt.Foundation.Printf
open LibSklt.Foundation.Separated
open LibSklt.Foundation.Tokens
open LibSklt.Util
open LibSklt.Util.ByteOrder
open LibSklt.Util.Logger

/-- What an expression passes for `...`: integers below 64 bits are promoted
to 32 bits, a `std::string` cannot be passed. -/
def LogValue.argument (store : Store) : LogValue → Option Argument
  | .variable name =>
      match store name with
      | .integer type value =>
          some (if type.bytes = 8 then .longLong value else .int value)
      | .chars memory => some (.chars memory)
      | .text _ => none
  | .cStr name =>
      match store name with
      | .text bytes => some (.chars (bytes ++ [0]))
      | _ => none

/-- The call of the logger in one of the functions. -/
def Codec.log (codec : Codec) (store : Store) : Logged :=
  match codec.values.mapM (LogValue.argument store) with
  | none => .undefined
  | some arguments => Logger.info codec.format arguments

/-- How `Serialize` or `Deserialize` ends. -/
inductive CodecEnd where
  | returned (frame : Frame)
  | threw
  /-- The logger ended the program. -/
  | ended
  | undefined

/-- The end of a function after its last statement. -/
def Run.codecEnd : Run → CodecEnd
  | .running frame => .returned frame
  | .threw => .threw
  | .undefined => .undefined

/-- `Serialize`, with its call of the logger. -/
def Codec.serialize (build : Build) (resizes : Nat → Bool)
    (codec : Codec) (values : Store) (buffer : List UInt8) : CodecEnd :=
  match codec.log values with
  | .ended => .ended
  | .undefined => .undefined
  | .line _ _ =>
      (exec build resizes codec.statements ⟨values, buffer, 0⟩).codecEnd

/-- `Deserialize`, with its call of the logger. -/
def Codec.deserialize (build : Build) (resizes : Nat → Bool)
    (codec : Codec) (locals : Store) (buffer : List UInt8) : CodecEnd :=
  match exec build resizes codec.statements ⟨locals, buffer, 0⟩ with
  | .threw => .threw
  | .undefined => .undefined
  | .running frame =>
      match codec.log frame.store with
      | .line _ _ => .returned frame
      | .ended => .ended
      | .undefined => .undefined

/-! ## The line that is meant -/

/-- A value as text; a pointer needs a terminator in its memory. -/
def Value.shown : Value → Option (List UInt8)
  | .integer type value =>
      if type.bytes = 1 then
        some [UInt8.ofNat (unsignedCast 8 value)]
      else if type.bytes = 8 then
        some (signedDecimal (signedCast 64 value))
      else
        some (signedDecimal (signedCast 32 value))
  | .text bytes => some (bytes.takeWhile (· ≠ 0))
  | .chars memory =>
      if (0 : UInt8) ∈ memory then
        some (memory.takeWhile (· ≠ 0))
      else
        none

/-- A field with its value. -/
def shownField (store : Store) (arg : Arg) : Option (List UInt8) :=
  (store arg.name).shown.map fun text =>
    bytesOf (arg.name ++ "[") ++ (text ++ bytesOf "]")

/-- The line of all fields. -/
def shownFields (className title : String) (args : List Arg)
    (store : Store) : Option (List UInt8) :=
  (args.mapM (shownField store)).map fun fields =>
    bytesOf ("[" ++ className ++ title) ++ (bytesOf ", ").intercalate fields

/-- What becomes of a line. -/
def loggedLine : Option (List UInt8) → Logged
  | none => .undefined
  | some line =>
      if line.length < kMaxBufferLength then
        .line .info (line.takeWhile (· ≠ 0))
      else
        .ended

/-! ## Fields -/

/-- The conversion of `print_dictionary`. -/
def CppType.conversionKind : CppType → Conversion
  | .integer type =>
      if type.bytes = 1 then .character
      else if type.bytes = 8 then .longDecimal
      else .decimal
  | .string => .string
  | .charPointer => .string

theorem conversionKind_text (type : CppType) :
    type.conversionKind.text = type.conversion := by
  cases type with
  | integer type => cases type <;> rfl
  | string => rfl
  | charPointer => rfl

/-- The parts of the format of one field. -/
def fieldPieces (arg : Arg) : List Piece :=
  literals (arg.name ++ "[") ++
    ([.conversion arg.type.conversionKind] ++ literals "]")

/-- The argument of a field. -/
def fieldArgument (store : Store) (arg : Arg) : Argument :=
  match store arg.name with
  | .integer type value =>
      if type.bytes = 8 then .longLong value else .int value
  | .text bytes => .chars (bytes ++ [0])
  | .chars memory => .chars memory

theorem percent_not_mem {name : String} (named : Identifier name) :
    '%' ∉ name.toList := by
  intro member
  have wordChar := named.wordChars '%' member
  exact absurd wordChar (by decide)

theorem parses_printSource {arg : Arg} (named : Identifier arg.name) :
    Parses arg.printSource (fieldPieces arg) := by
  have front : '%' ∉ (arg.name ++ "[").toList := by
    simp [percent_not_mem named]
  have back : '%' ∉ "]".toList := by decide
  rw [Arg.printSource, String.append_assoc, ← conversionKind_text]
  exact (parses_literals front).append
    ((parses_conversion _).append (parses_literals back))

section

variable {className title : String} {args : List Arg} {store : Store}

theorem parses_logFormat
    (plainTitle : '%' ∉ title.toList) (named : Identifier className)
    (fields : ∀ arg ∈ args, Identifier arg.name) :
    Parses (logFormat className title args)
      (literals ("[" ++ className ++ title) ++
        (literals ", ").intercalate (args.map fieldPieces)) := by
  have head : '%' ∉ ("[" ++ className ++ title).toList := by
    simp [percent_not_mem named, plainTitle]
  have comma : '%' ∉ ", ".toList := by decide
  exact (parses_literals head).append
    (parses_intercalate (parses_literals comma)
      fun arg member => parses_printSource (fields arg member))

/-- The conversion of a field fits its argument. -/
theorem render_fieldArgument {arg : Arg}
    (typed : HasType arg.type (store arg.name)) :
    arg.type.conversionKind.render (fieldArgument store arg) =
      (store arg.name).shown := by
  rw [fieldArgument]
  cases kind : arg.type with
  | integer type =>
      cases holds : store arg.name with
      | integer valueType value =>
          rw [kind, holds] at typed
          obtain ⟨rfl, -⟩ := typed
          cases valueType <;> rfl
      | text => simp [kind, holds, HasType] at typed
      | chars => simp [kind, holds, HasType] at typed
  | string =>
      cases holds : store arg.name with
      | integer => simp [kind, holds, HasType] at typed
      | text bytes =>
          have ends :
              (bytes ++ [0]).takeWhile (· ≠ 0) = bytes.takeWhile (· ≠ 0) :=
            takeWhile_append_zeroes bytes 1
          simp only [CppType.conversionKind, Conversion.render, Value.shown,
            ends]
          simp
      | chars => simp [kind, holds, HasType] at typed
  | charPointer =>
      cases holds : store arg.name with
      | integer => simp [kind, holds, HasType] at typed
      | text => simp [kind, holds, HasType] at typed
      | chars memory => rfl

theorem render_fieldPieces {arg : Arg}
    (typed : HasType arg.type (store arg.name)) (rest : List Argument) :
    render (fieldPieces arg) (fieldArgument store arg :: rest) =
      (shownField store arg).map fun text => (text, rest) := by
  rw [fieldPieces, render_append, render_literals, Option.bind_some,
    render_append, render_conversion, render_fieldArgument typed, shownField]
  cases (store arg.name).shown with
  | none => rfl
  | some text =>
      simp only [Option.map_some, Option.bind_some, render_literals]

theorem argument_logValue {arg : Arg}
    (typed : HasType arg.type (store arg.name)) :
    arg.logValue.argument store = some (fieldArgument store arg) := by
  rw [Arg.logValue, fieldArgument]
  cases kind : arg.type with
  | integer type =>
      cases holds : store arg.name with
      | integer => simp [LogValue.argument, holds]
      | text => simp [kind, holds, HasType] at typed
      | chars => simp [kind, holds, HasType] at typed
  | string =>
      cases holds : store arg.name with
      | integer => simp [kind, holds, HasType] at typed
      | text => simp [LogValue.argument, holds]
      | chars => simp [kind, holds, HasType] at typed
  | charPointer =>
      cases holds : store arg.name with
      | integer => simp [kind, holds, HasType] at typed
      | text => simp [kind, holds, HasType] at typed
      | chars => simp [LogValue.argument, holds]

/-! ## The line -/

theorem format_logFormat
    (plainTitle : '%' ∉ title.toList) (named : Identifier className)
    (fields : ∀ arg ∈ args, Identifier arg.name)
    (typed : Typed args store) :
    format (logFormat className title args)
        (args.map (fieldArgument store)) =
      (shownFields className title args store).map fun line =>
        (line, []) := by
  have separated :=
    render_intercalate (fun rest => render_literals ", " rest)
      (fun arg member rest =>
        render_fieldPieces (typed arg member) rest)
  rw [format_of_parses (parses_logFormat plainTitle named fields),
    render_append, render_literals, Option.bind_some, separated,
    shownFields]
  cases args.mapM (shownField store) <;> rfl

theorem info_logFormat
    (plainTitle : '%' ∉ title.toList) (named : Identifier className)
    (fields : ∀ arg ∈ args, Identifier arg.name)
    (typed : Typed args store) :
    Logger.info (logFormat className title args)
        (args.map (fieldArgument store)) =
      loggedLine (shownFields className title args store) := by
  have formats := format_logFormat plainTitle named fields typed
  cases shows : shownFields className title args store with
  | none =>
      rw [shows] at formats
      exact write_of_undefined formats .info
  | some line =>
      rw [shows] at formats
      exact write_of_format formats .info

theorem log_of_values {codec : Codec}
    (values : codec.values = args.map Arg.logValue)
    (typed : Typed args store) :
    codec.log store =
      Logger.info codec.format (args.map (fieldArgument store)) := by
  have passed :
      codec.values.mapM (LogValue.argument store) =
        some (args.map (fieldArgument store)) := by
    rw [values]
    exact mapM_spelled (fieldArgument store)
      (fun arg member => argument_logValue (typed arg member))
  rw [Codec.log, passed]

theorem shown_eq_none_iff (value : Value) :
    value.shown = none ↔
      ∃ memory, value = .chars memory ∧ (0 : UInt8) ∉ memory := by
  cases value with
  | integer type value => cases type <;> simp [Value.shown, IntType.bytes]
  | text bytes => simp [Value.shown]
  | chars memory => simp [Value.shown]

theorem log_serializeCodec (named : Identifier className)
    (fields : ∀ arg ∈ args, Identifier arg.name)
    (typed : Typed args store) :
    (serializeCodec className args).log store =
      loggedLine (shownFields className "][OutputData] " args store) := by
  rw [log_of_values rfl typed]
  exact info_logFormat (by decide) named fields typed

theorem log_deserializeCodec (named : Identifier className)
    (fields : ∀ arg ∈ args, Identifier arg.name)
    (typed : Typed args store) :
    (deserializeCodec className args).log store =
      loggedLine (shownFields className "][InputData] " args store) := by
  rw [log_of_values rfl typed]
  exact info_logFormat (by decide) named fields typed

/--
The calls of the logger in the generated functions.  Whatever the fields and
their values are, the format meets its arguments: the line has the fields in
their order, each with its value, and is undefined exactly if one of the
fields is a pointer to memory without a terminator.  It ends the program
exactly if it is too long.
-/
theorem generated_log_line (named : Identifier className)
    (fields : ∀ arg ∈ args, Identifier arg.name)
    (typed : Typed args store) :
    (serializeCodec className args).log store =
        loggedLine (shownFields className "][OutputData] " args store) ∧
      (deserializeCodec className args).log store =
        loggedLine (shownFields className "][InputData] " args store) ∧
      ∀ title,
        (shownFields className title args store = none ↔
          ∃ arg ∈ args, ∃ memory,
            store arg.name = .chars memory ∧ (0 : UInt8) ∉ memory) := by
  refine ⟨log_serializeCodec named fields typed,
    log_deserializeCodec named fields typed, ?_⟩
  intro title
  simp only [shownFields, Option.map_eq_none_iff, mapM_eq_none_iff,
    shownField, shown_eq_none_iff]

end

/-- A packet with one string. -/
def pathArgs : List Arg :=
  [⟨.integer .uint16, nameLength "path"⟩, ⟨.string, "path"⟩]

/-- Variables for the packet. -/
def pathStore (length : Int) (bytes : List UInt8) : Store :=
  fun name => if name = "path" then .text bytes else .integer .uint16 length

theorem pathArgs_distinct : (pathArgs.map Arg.name).Nodup := by
  have different := nameLength_ne "path"
  simp [pathArgs, different]

theorem pathStore_typed
    {length : Int} (inRange : IntType.uint16.InRange length)
    (bytes : List UInt8) : Typed pathArgs (pathStore length bytes) := by
  have different := nameLength_ne "path"
  intro arg member
  simp only [pathArgs, List.mem_cons, List.not_mem_nil, or_false] at member
  rcases member with rfl | rfl
  · simp [pathStore, different, HasType, inRange]
  · simp [pathStore, HasType]

theorem pathStore_consistent (bytes : List UInt8) :
    Consistent pathArgs (pathStore bytes.length bytes) := by
  have different := nameLength_ne "path"
  intro arg member text holds
  simp only [pathArgs, List.mem_cons, List.not_mem_nil, or_false] at member
  rcases member with rfl | rfl
  · simp [pathStore, different] at holds
  · simp only [pathStore, if_true, Value.text.injEq] at holds
    subst text
    exact ⟨.uint16, by simp [pathStore, different]⟩

theorem identifier_path_length : Identifier (nameLength "path") :=
  identifier_chars "path_length".toList (by decide) (by decide) (by decide)

theorem pathArgs_named : ∀ arg ∈ pathArgs, Identifier arg.name := by
  have path : Identifier "path" := identifier_chars _ rfl (by simp) (by decide)
  simpa [pathArgs] using ⟨identifier_path_length, path⟩

/-- The line for the string `ok`. -/
theorem generated_log_line_path :
    (deserializeCodec "OpenFile" pathArgs).log (pathStore 2 [111, 107]) =
      .line .info
        (bytesOf "[OpenFile][InputData] path_length[2], path[ok]") := by
  have named : Identifier "OpenFile" :=
    identifier_chars _ rfl (by simp) (by decide)
  have typed : Typed pathArgs (pathStore 2 [111, 107]) :=
    pathStore_typed (by decide) _
  rw [(generated_log_line named pathArgs_named typed).2.1]
  decide

/-! ## The length of the line -/

/-- The length of the text of a value. -/
def Value.shownLength (value : Value) : Nat :=
  (value.shown.getD []).length

/-- The length of the line of all fields. -/
def lineLength (className title : String) (args : List Arg)
    (size : Arg → Nat) : Nat :=
  ("[" ++ className ++ title).length +
    ((args.map fun arg => arg.name.length + 2 + size arg).sum +
      2 * (args.length - 1))

/-- The line of the fields fits the array of the logger. -/
def LineFits (className title : String) (args : List Arg) (store : Store) :
    Prop :=
  lineLength className title args
      (fun arg => (store arg.name).shownLength) <
    kMaxBufferLength

instance (className title : String) (args : List Arg) (store : Store) :
    Decidable (LineFits className title args store) :=
  inferInstanceAs (Decidable (_ < _))

section

variable {className title : String} {args : List Arg} {store : Store}

theorem lineLength_le {size bound : Arg → Nat}
    (each : ∀ arg ∈ args, size arg ≤ bound arg) :
    lineLength className title args size ≤
      lineLength className title args bound := by
  have fields :
      (args.map fun arg => arg.name.length + 2 + size arg).sum ≤
        (args.map fun arg => arg.name.length + 2 + bound arg).sum := by
    apply List.sum_le_sum
    intro arg member
    have here := each arg member
    omega
  rw [lineLength, lineLength]
  omega

theorem size_le_lineLength {size : Arg → Nat} {arg : Arg}
    (member : arg ∈ args) :
    size arg ≤ lineLength className title args size := by
  have field :
      arg.name.length + 2 + size arg ≤
        (args.map fun arg => arg.name.length + 2 + size arg).sum :=
    List.single_le_sum (by simp) _ (List.mem_map_of_mem member)
  rw [lineLength]
  omega

/-- The line shows the fields only. -/
theorem lineFits_congr {other : Store} (agree : Agree args store other) :
    LineFits className title args store ↔
      LineFits className title args other := by
  have same :
      (args.map fun arg => arg.name.length + 2 +
          (store arg.name).shownLength) =
        args.map fun arg => arg.name.length + 2 +
          (other arg.name).shownLength := by
    apply List.map_congr_left
    intro arg member
    rw [agree arg member]
  rw [LineFits, LineFits, lineLength, lineLength, same]

/-- The line of `Deserialize` is shorter by one than that of `Serialize`. -/
theorem LineFits.input
    (fits : LineFits className "][OutputData] " args store) :
    LineFits className "][InputData] " args store := by
  have output : "][OutputData] ".length = 14 := by decide
  have input : "][InputData] ".length = 13 := by decide
  simp only [LineFits, lineLength, String.length_append, output] at fits
  simp only [LineFits, lineLength, String.length_append, input]
  omega

theorem exists_shownFields
    (noPointer : ∀ arg ∈ args, arg.type ≠ .charPointer)
    (typed : Typed args store) :
    ∃ line,
      shownFields className title args store = some line ∧
        line.length =
          lineLength className title args
            fun arg => (store arg.name).shownLength := by
  have each :
      ∀ arg ∈ args,
        shownField store arg =
          some (bytesOf (arg.name ++ "[") ++
            ((store arg.name).shown.getD [] ++ bytesOf "]")) := by
    intro arg member
    have defined : (store arg.name).shown ≠ none := by
      rw [ne_eq, shown_eq_none_iff]
      rintro ⟨memory, holds, -⟩
      have pointer := typed arg member
      rw [holds] at pointer
      cases kind : arg.type with
      | integer => simp [kind, HasType] at pointer
      | string => simp [kind, HasType] at pointer
      | charPointer => exact noPointer arg member kind
    obtain ⟨text, shows⟩ := Option.ne_none_iff_exists'.mp defined
    rw [shownField, shows]
    rfl
  have texts :
      args.mapM (shownField store) =
        some (args.map fun arg =>
          bytesOf (arg.name ++ "[") ++
            ((store arg.name).shown.getD [] ++ bytesOf "]")) := by
    have spelled := mapM_spelled _ fun arg member => each (id arg) member
    rwa [List.map_id] at spelled
  have opening : "[".length = 1 := by decide
  have closing : "]".length = 1 := by decide
  have comma : ", ".length = 2 := by decide
  refine ⟨_, by rw [shownFields, texts]; rfl, ?_⟩
  rw [lineLength, List.length_append, length_intercalate, length_bytesOf,
    length_bytesOf, comma, List.length_map, List.map_map]
  congr 3
  apply List.map_congr_left
  intro arg _
  simp only [Function.comp_apply, List.length_append, length_bytesOf,
    String.length_append, opening, closing, Value.shownLength]
  omega

/-- Whether the call of the logger returns. -/
theorem loggedLine_shownFields
    (noPointer : ∀ arg ∈ args, arg.type ≠ .charPointer)
    (typed : Typed args store) :
    if LineFits className title args store then
      ∃ text,
        loggedLine (shownFields className title args store) =
          .line .info text
    else
      loggedLine (shownFields className title args store) = .ended := by
  obtain ⟨line, shows, length⟩ :=
    @exists_shownFields className title args store noPointer typed
  rw [shows, loggedLine, length]
  split_ifs with fits short short
  · exact ⟨_, rfl⟩
  · exact absurd fits short
  · exact absurd short fits
  · rfl

/-! ## The functions with their calls of the logger -/

section

variable {build : Build} {resizes : Nat → Bool} {buffer : List UInt8}
  (named : Identifier className)
  (fields : ∀ arg ∈ args, Identifier arg.name)
  (noPointer : ∀ arg ∈ args, arg.type ≠ .charPointer)

include named fields noPointer

theorem serialize_of_typed (typed : Typed args store) :
    (serializeCodec className args).serialize build resizes store buffer =
      if LineFits className "][OutputData] " args store then
        (writeFields build resizes args store buffer).codecEnd
      else
        .ended := by
  have logs := log_serializeCodec named fields typed
  have line :=
    @loggedLine_shownFields className "][OutputData] " args store noPointer
      typed
  rw [← logs] at line
  rw [Codec.serialize]
  split_ifs at line ⊢ with fits
  · obtain ⟨text, written⟩ := line
    rw [written]
    rfl
  · rw [line]

theorem deserialize_of_running {final : Frame}
    (runs : readFields build resizes args store buffer = .running final)
    (typed : Typed args final.store) :
    (deserializeCodec className args).deserialize build resizes store
        buffer =
      if LineFits className "][InputData] " args final.store then
        .returned final
      else
        .ended := by
  have statements :
      exec build resizes (deserializeCodec className args).statements
        ⟨store, buffer, 0⟩ = .running final := runs
  have logs := log_deserializeCodec named fields typed
  have line :=
    @loggedLine_shownFields className "][InputData] " args final.store
      noPointer typed
  rw [← logs] at line
  rw [Codec.deserialize, statements]
  split_ifs at line ⊢ with fits
  · obtain ⟨text, written⟩ := line
    simp only [written]
  · simp only [line]

end

theorem deserialize_of_threw
    {build : Build} {resizes : Nat → Bool} {buffer : List UInt8}
    (threw : readFields build resizes args store buffer = .threw) :
    (deserializeCodec className args).deserialize build resizes store
      buffer = .threw := by
  have statements :
      exec build resizes (deserializeCodec className args).statements
        ⟨store, buffer, 0⟩ = .threw := threw
  rw [Codec.deserialize, statements]

/-- A function that returns came through its statements. -/
theorem running_of_serialize
    {build : Build} {resizes : Nat → Bool} {buffer : List UInt8}
    {written : Frame}
    (returns :
      (serializeCodec className args).serialize build resizes store buffer =
        .returned written) :
    writeFields build resizes args store buffer = .running written := by
  rw [Codec.serialize] at returns
  split at returns
  · cases returns
  · cases returns
  · change (writeFields build resizes args store buffer).codecEnd = _
      at returns
    cases runs : writeFields build resizes args store buffer <;>
      rw [runs] at returns <;> cases returns
    rfl

theorem running_of_deserialize
    {build : Build} {resizes : Nat → Bool} {buffer : List UInt8}
    {read : Frame}
    (returns :
      (deserializeCodec className args).deserialize build resizes store
        buffer = .returned read) :
    readFields build resizes args store buffer = .running read := by
  rw [Codec.deserialize] at returns
  split at returns
  · cases returns
  · cases returns
  · rename_i frame runs
    split at returns
    · cases returns
      exact runs
    · cases returns
    · cases returns

end

end LibSklt.PacketGenerator
