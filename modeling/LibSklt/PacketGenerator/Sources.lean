import LibSklt.PacketGenerator.Texts

/-!
# The text of the emitted statements

The statements, summands and arguments of `PacketGenerator.Generator` as C++
text, with the tokens of the text.  For names that are identifiers, what the
generator collects in its loops is the text of the modelled statements.
-/

namespace LibSklt.PacketGenerator

open LibSklt.Foundation.Tokens
open LibSklt.Util

/-- An argument of a call of the logger. -/
inductive LogValue where
  | variable (name : String)
  /-- `name.c_str()`. -/
  | cStr (name : String)
deriving DecidableEq

/-- The argument that is logged for a field. -/
def Arg.logValue (arg : Arg) : LogValue :=
  if arg.type = .string then .cStr arg.name else .variable arg.name

/-- The text of a type in `print_dictionary`. -/
def CppType.conversion : CppType → String
  | .integer .int8 => "%c"
  | .integer .uint8 => "%c"
  | .integer .int16 => "%d"
  | .integer .uint16 => "%d"
  | .integer .int32 => "%d"
  | .integer .uint32 => "%d"
  | .integer .int64 => "%lld"
  | .integer .uint64 => "%lld"
  | .string => "%s"
  | .charPointer => "%s"

/-! ## Texts -/

/-- A parameter of the generated functions. -/
def Arg.parameterSource (arg : Arg) : String :=
  arg.type.text ++ "& " ++ arg.name

/-- The field as a local variable of `ProtocolProcess`. -/
def Arg.withFront (front : String) (arg : Arg) : Arg :=
  ⟨arg.type, front ++ arg.name⟩

def Arg.printSource (arg : Arg) : String :=
  arg.name ++ "[" ++ arg.type.conversion ++ "]"

def LogValue.source : LogValue → String
  | .variable name => name
  | .cStr name => name ++ ".c_str()"

def SizeTerm.source : SizeTerm → String
  | .sizeOf name => "sizeof(" ++ name ++ ")"
  | .variable name => name

/-- The summand with the names of the caller's variables. -/
def SizeTerm.withFront (front : String) : SizeTerm → SizeTerm
  | .sizeOf name => .sizeOf (front ++ name)
  | .variable name => .variable (front ++ name)

def Statement.source : Statement → String
  | .resize name length => name ++ ".resize(" ++ length ++ ")"
  | .hostToNetwork name =>
      name ++ " = BYTE_ORDER::host_to_network(" ++ name ++ ")"
  | .networkToHost name =>
      name ++ " = BYTE_ORDER::network_to_host(" ++ name ++ ")"
  | .writeValue name => Text.writeCall ++ "&" ++ name ++ ")"
  | .writeText name length =>
      Text.writeCall ++ "&" ++ name ++ "[0], " ++ length ++ ")"
  | .writeChars name length =>
      Text.writeCall ++ name ++ ", BYTE_ORDER::network_to_host(" ++
        length ++ "))"
  | .readValue name => Text.readCall ++ "&" ++ name ++ ")"
  | .readText name length =>
      Text.readCall ++ "&" ++ name ++ "[0], " ++ length ++ ")"
  | .readChars name length =>
      Text.readCall ++ name ++ ", " ++ length ++ ")"

/-- The sum of the sizes of the fields, with the blank that is left of the
last separator. -/
def sumSource (front : String) (args : List Arg) : String :=
  if args = [] then
    ""
  else
    " + ".intercalate
      (args.map fun arg => ((argGetSize arg).withFront front).source) ++ " "

/-- Statements, each with its semicolon and its line end. -/
def statementLines (statements : List Statement) : String :=
  String.join (statements.map fun statement => statement.source ++ ";\n\t")

namespace Text

section

variable {args : List Arg}

theorem printReplacement_text (type : CppType) :
    printReplacement type.text = some type.conversion := by
  cases type with
  | integer type => cases type <;> decide
  | string => decide
  | charPointer => decide

theorem text_eq_string_iff (type : CppType) :
    type.text = "std::string" ↔ type = .string := by
  cases type with
  | integer type => cases type <;> decide
  | string => decide
  | charPointer => decide

theorem text_eq_charPointer_iff (type : CppType) :
    type.text = "char*" ↔ type = .charPointer := by
  cases type with
  | integer type => cases type <;> decide
  | string => decide
  | charPointer => decide

theorem text_eq_single_iff (type : IntType) :
    (IntType.text type = "uint8_t" ∨ IntType.text type = "int8_t") ↔
      type = .uint8 ∨ type = .int8 := by
  cases type <;> decide

theorem makePrintString_text (uncut : ∀ arg ∈ args, Uncut arg) :
    makePrintString (args.map Arg.text) =
      some (", ".intercalate (args.map Arg.printSource)) := by
  have closing : "], " = "]" ++ ", " := by decide
  have each :
      ∀ arg ∈ args,
        (printReplacement arg.type.text).map
            (fun print => arg.name ++ "[" ++ print ++ "], ") =
          some (arg.printSource ++ ", ") := by
    intro arg _
    rw [printReplacement_text, Option.map_some, closing,
      ← String.append_assoc, Arg.printSource]
  rw [makePrintString, appendParts_text uncut each, Option.map_some,
    withoutLastTwo_separated]

theorem makeArgRefString_text (uncut : ∀ arg ∈ args, Uncut arg) :
    makeArgRefString (args.map Arg.text) =
      some (", ".intercalate (args.map Arg.parameterSource)) := by
  have each :
      ∀ arg ∈ args,
        some (replaceBlank arg.text "& " ++ ", ") =
          some (arg.parameterSource ++ ", ") := by
    intro arg member
    rw [replaceBlank_text (uncut arg member), Arg.parameterSource]
  rw [makeArgRefString, appendEach_text each, Option.map_some,
    withoutLastTwo_separated]

theorem makeArgDeclaration_text (uncut : ∀ arg ∈ args, Uncut arg)
    (front : String) :
    makeArgDeclaration (args.map Arg.text) front =
      some (String.join
        (args.map fun arg => (arg.withFront front).text ++ ";\n\t")) := by
  rw [makeArgDeclaration]
  refine appendEach_text ?_
  intro arg member
  have closing : ";\n\t" = ";" ++ "\n\t" := by decide
  rw [replaceBlank_text (uncut arg member), Arg.text,
    Arg.withFront, closing]
  simp only [String.append_assoc]

theorem makeAr2ndEnum_text (uncut : ∀ arg ∈ args, Uncut arg)
    (front : String) :
    makeAr2ndEnum (args.map Arg.text) front =
      some (", ".intercalate (args.map fun arg => front ++ arg.name)) := by
  rw [makeAr2ndEnum, appendParts_text uncut (fun arg _ => rfl),
    Option.map_some, withoutLastTwo_separated fun arg => front ++ arg.name]

theorem makeArg2ndValEnum_text (uncut : ∀ arg ∈ args, Uncut arg) :
    makeArg2ndValEnum (args.map Arg.text) "" =
      some (", ".intercalate
        (args.map fun arg => arg.logValue.source)) := by
  have each :
      ∀ arg ∈ args,
        some
            ((if arg.type.text = "std::string" then
                "" ++ arg.name ++ ".c_str()"
              else "" ++ arg.name) ++ ", ") =
          some (arg.logValue.source ++ ", ") := by
    intro arg _
    simp only [Arg.logValue, text_eq_string_iff, String.empty_append]
    split_ifs <;> rfl
  rw [makeArg2ndValEnum, appendParts_text uncut each, Option.map_some,
    withoutLastTwo_separated fun arg => arg.logValue.source]

theorem makeArgGetSize_text (uncut : ∀ arg ∈ args, Uncut arg)
    (front : String) :
    makeArgGetSize (args.map Arg.text) front =
      some (sumSource front args) := by
  have each :
      ∀ arg ∈ args,
        some
            ((if arg.type.text = "std::string" ∨
                  arg.type.text = "char*" then
                front ++ arg.name ++ "_length"
              else "sizeof(" ++ front ++ arg.name ++ ")") ++ " + ") =
          some (((argGetSize arg).withFront front).source ++ " + ") := by
    intro arg _
    simp only [text_eq_string_iff, text_eq_charPointer_iff, argGetSize]
    cases arg.type <;>
      simp [SizeTerm.source, SizeTerm.withFront, nameLength,
        String.append_assoc]
  rw [makeArgGetSize, appendParts_text uncut each, Option.map_some, sumSource]
  split_ifs with empty
  · rw [empty]
    rfl
  · rw [withoutLastTwo_sum _ empty]

theorem statementLines_flatMap (statements : Arg → List Statement)
    (args : List Arg) :
    statementLines (args.flatMap statements) =
      String.join (args.map fun arg => statementLines (statements arg)) := by
  rw [← String.toList_inj]
  simp only [statementLines, String.toList_join, List.map_flatMap,
    List.flatMap_map, List.flatMap_assoc]

theorem closing_line : ");\n\t" = ")" ++ ";\n\t" := by decide

theorem writeStr_text (uncut : ∀ arg ∈ args, Uncut arg) :
    writeStr (args.map Arg.text) =
      some (statementLines
        (PacketGenerator.makeCppSerialize args)) := by
  have closingTwo : "));\n\t" = "))" ++ ";\n\t" := by decide
  rw [PacketGenerator.makeCppSerialize, statementLines_flatMap, writeStr]
  refine appendParts_text uncut ?_
  intro arg _
  simp only [text_eq_string_iff, text_eq_charPointer_iff, serializeArg]
  cases arg.type <;>
    simp only [reduceCtorEq, if_true, if_false, statementLines, List.map_cons,
      List.map_nil, String.join_cons, String.join_nil, Statement.source,
      nameLength, closing_line, closingTwo, String.append_assoc,
      String.append_empty]

theorem readStr_text (uncut : ∀ arg ∈ args, Uncut arg) :
    readStr (args.map Arg.text) =
      some (statementLines
        (PacketGenerator.makeCppUnserialize args)) := by
  rw [PacketGenerator.makeCppUnserialize, statementLines_flatMap, readStr]
  refine appendParts_text uncut ?_
  intro arg _
  simp only [text_eq_string_iff, text_eq_charPointer_iff, unserializeArg]
  cases arg.type with
  | integer type =>
      simp only [reduceCtorEq, if_false, CppType.text, text_eq_single_iff]
      split_ifs <;>
        simp only [statementLines, List.map_cons, List.map_nil,
          String.join_cons, String.join_nil, Statement.source, closing_line,
          String.append_assoc, String.append_empty]
  | string =>
      simp only [if_true, statementLines, List.map_cons, List.map_nil,
        String.join_cons, String.join_nil, Statement.source, nameLength,
        closing_line, String.append_assoc, String.append_empty]
  | charPointer =>
      simp only [reduceCtorEq, if_true, if_false, statementLines,
        List.map_cons, List.map_nil, String.join_cons, String.join_nil,
        Statement.source, nameLength, closing_line, String.append_assoc,
        String.append_empty]

end

end Text

end LibSklt.PacketGenerator
