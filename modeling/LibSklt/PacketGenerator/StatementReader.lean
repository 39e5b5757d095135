import LibSklt.PacketGenerator.Sources

/-!
# Reading the emitted statements

A reader of the statements, declarations and expressions that the generator
writes.  It works on tokens, so that blanks, line ends and comments are of no
concern to it.  For names that are identifiers, the texts of
`PacketGenerator.Sources` are read back as what they are the text of.
-/

namespace LibSklt.PacketGenerator

open LibSklt.Foundation.Tokens
open LibSklt.Util

/-! ## Statements -/

/-- The arguments that every call of the buffer functions begins with. -/
def bufferArguments : List Token :=
  tokens "(buffer, buffer_size, buffer_idx,"

/-- `scope::function`. -/
def qualified (scope function : String) : List Token :=
  [.word scope, .mark ':', .mark ':', .word function]

/-- The tokens of the text of a statement. -/
def Statement.spelled : Statement → List Token
  | .resize name length =>
      [.word name, .mark '.', .word "resize", .mark '(', .word length,
        .mark ')']
  | .hostToNetwork name =>
      .word name :: .mark '=' ::
        (qualified "BYTE_ORDER" "host_to_network" ++
          [.mark '(', .word name, .mark ')'])
  | .networkToHost name =>
      .word name :: .mark '=' ::
        (qualified "BYTE_ORDER" "network_to_host" ++
          [.mark '(', .word name, .mark ')'])
  | .writeValue name =>
      qualified "MEMORY_MANAGER" "WriteToBuffer" ++
        (bufferArguments ++ [.mark '&', .word name, .mark ')'])
  | .writeText name length =>
      qualified "MEMORY_MANAGER" "WriteToBuffer" ++
        (bufferArguments ++
          [.mark '&', .word name, .mark '[', .word "0", .mark ']', .mark ',',
            .word length, .mark ')'])
  | .writeChars name length =>
      qualified "MEMORY_MANAGER" "WriteToBuffer" ++
        (bufferArguments ++
          (.word name :: .mark ',' ::
            (qualified "BYTE_ORDER" "network_to_host" ++
              [.mark '(', .word length, .mark ')', .mark ')'])))
  | .readValue name =>
      qualified "MEMORY_MANAGER" "ReadFromBuffer" ++
        (bufferArguments ++ [.mark '&', .word name, .mark ')'])
  | .readText name length =>
      qualified "MEMORY_MANAGER" "ReadFromBuffer" ++
        (bufferArguments ++
          [.mark '&', .word name, .mark '[', .word "0", .mark ']', .mark ',',
            .word length, .mark ')'])
  | .readChars name length =>
      qualified "MEMORY_MANAGER" "ReadFromBuffer" ++
        (bufferArguments ++
          [.word name, .mark ',', .word length, .mark ')'])

/-- The assignment of a swapped value to the variable itself. -/
def readSwap (name scope function value : String) : Option Statement :=
  if scope ≠ "BYTE_ORDER" ∨ value ≠ name then
    none
  else if function = "host_to_network" then
    some (.hostToNetwork name)
  else if function = "network_to_host" then
    some (.networkToHost name)
  else
    none

/-- The last arguments of `WriteToBuffer`. -/
def readWrite : List Token → Option Statement
  | [.mark '&', .word name, .mark ')'] => some (.writeValue name)
  | [.mark '&', .word name, .mark '[', .word index, .mark ']', .mark ',',
      .word length, .mark ')'] =>
      if index = "0" then some (.writeText name length) else none
  | [.word name, .mark ',', .word scope, .mark ':', .mark ':',
      .word function, .mark '(', .word length, .mark ')', .mark ')'] =>
      if scope = "BYTE_ORDER" ∧ function = "network_to_host" then
        some (.writeChars name length)
      else
        none
  | _ => none

/-- The last arguments of `ReadFromBuffer`. -/
def readRead : List Token → Option Statement
  | [.mark '&', .word name, .mark ')'] => some (.readValue name)
  | [.mark '&', .word name, .mark '[', .word index, .mark ']', .mark ',',
      .word length, .mark ')'] =>
      if index = "0" then some (.readText name length) else none
  | [.word name, .mark ',', .word length, .mark ')'] =>
      some (.readChars name length)
  | _ => none

/-- A call of a function of the memory manager. -/
def readCall (function : String) (found : List Token) : Option Statement := do
  let found ← expect "(buffer, buffer_size, buffer_idx," found
  if function = "WriteToBuffer" then
    readWrite found
  else if function = "ReadFromBuffer" then
    readRead found
  else
    none

/-- A statement without its semicolon. -/
def readStatement : List Token → Option Statement
  | [.word name, .mark '.', .word member, .mark '(', .word length,
      .mark ')'] =>
      if member = "resize" then some (.resize name length) else none
  | [.word name, .mark '=', .word scope, .mark ':', .mark ':',
      .word function, .mark '(', .word value, .mark ')'] =>
      readSwap name scope function value
  | .word scope :: .mark ':' :: .mark ':' :: .word function :: found =>
      if scope = "MEMORY_MANAGER" then readCall function found else none
  | _ => none

/-- The names in a statement. -/
def Statement.names : Statement → List String
  | .resize name length => [name, length]
  | .hostToNetwork name => [name]
  | .networkToHost name => [name]
  | .writeValue name => [name]
  | .writeText name length => [name, length]
  | .writeChars name length => [name, length]
  | .readValue name => [name]
  | .readText name length => [name, length]
  | .readChars name length => [name, length]

theorem readCall_bufferArguments (function : String) (found : List Token) :
    readCall function (bufferArguments ++ found) =
      if function = "WriteToBuffer" then
        readWrite found
      else if function = "ReadFromBuffer" then
        readRead found
      else
        none := by
  rw [readCall, bufferArguments, expect_append]
  rfl

theorem readStatement_spelled (statement : Statement) :
    readStatement statement.spelled = some statement := by
  cases statement <;>
    simp [Statement.spelled, qualified, readStatement, readSwap,
      readCall_bufferArguments, readWrite, readRead]

theorem bufferArguments_eq :
    bufferArguments =
      [.mark '(', .word "buffer", .mark ',', .word "buffer_size", .mark ',',
        .word "buffer_idx", .mark ','] :=
  tokens_of_scans (scans_chars _ rfl rfl)

section

variable {rest : String} {later : List Token}

theorem scans_writeCall (right : Scans .code rest later .code) :
    Scans .code (Text.writeCall ++ rest)
      (qualified "MEMORY_MANAGER" "WriteToBuffer" ++
        (bufferArguments ++ later)) .code := by
  have call :
      Scans .code Text.writeCall
        (qualified "MEMORY_MANAGER" "WriteToBuffer" ++ bufferArguments)
        .code := by
    rw [bufferArguments_eq]
    exact scans_chars _ rfl rfl
  rw [← List.append_assoc]
  exact call.append right

theorem scans_readCall (right : Scans .code rest later .code) :
    Scans .code (Text.readCall ++ rest)
      (qualified "MEMORY_MANAGER" "ReadFromBuffer" ++
        (bufferArguments ++ later)) .code := by
  have call :
      Scans .code Text.readCall
        (qualified "MEMORY_MANAGER" "ReadFromBuffer" ++ bufferArguments)
        .code := by
    rw [bufferArguments_eq]
    exact scans_chars _ rfl rfl
  rw [← List.append_assoc]
  exact call.append right

end

theorem scans_statement
    (statement : Statement)
    (named : ∀ name ∈ statement.names, Identifier name) :
    Scans .code (statement.source ++ ";\n\t")
      (statement.spelled ++ [.mark ';']) .code := by
  have line : Scans .code ";\n\t" [.mark ';'] .code := scans_chars _ rfl rfl
  have closing : Scans .code ")" [.mark ')'] .code := scans_chars _ rfl rfl
  have address : Scans .code "&" [.mark '&'] .code := scans_chars _ rfl rfl
  have first :
      Scans .code "[0], "
        [.mark '[', .word "0", .mark ']', .mark ','] .code :=
    scans_chars _ rfl rfl
  cases statement with
  | resize name length =>
      have opening :
          Scans .code ".resize(" [.mark '.', .word "resize", .mark '(']
            .code := scans_chars _ rfl rfl
      simp only [Statement.names, List.forall_mem_cons] at named
      simp only [Statement.source, String.append_assoc]
      exact opening.afterName named.1 rfl
        (closing.afterName named.2.1 rfl line)
  | hostToNetwork name =>
      have opening :
          Scans .code " = BYTE_ORDER::host_to_network("
            (.mark '=' ::
              (qualified "BYTE_ORDER" "host_to_network" ++ [.mark '(']))
            .code := scans_chars _ rfl rfl
      simp only [Statement.names, List.forall_mem_cons] at named
      simp only [Statement.source, String.append_assoc]
      exact opening.afterName named.1 rfl
        (closing.afterName named.1 rfl line)
  | networkToHost name =>
      have opening :
          Scans .code " = BYTE_ORDER::network_to_host("
            (.mark '=' ::
              (qualified "BYTE_ORDER" "network_to_host" ++ [.mark '(']))
            .code := scans_chars _ rfl rfl
      simp only [Statement.names, List.forall_mem_cons] at named
      simp only [Statement.source, String.append_assoc]
      exact opening.afterName named.1 rfl
        (closing.afterName named.1 rfl line)
  | writeValue name =>
      simp only [Statement.names, List.forall_mem_cons] at named
      simp only [Statement.source, Statement.spelled, String.append_assoc,
        List.append_assoc]
      exact scans_writeCall
        (address.append (closing.afterName named.1 rfl line))
  | writeText name length =>
      simp only [Statement.names, List.forall_mem_cons] at named
      simp only [Statement.source, Statement.spelled, String.append_assoc,
        List.append_assoc]
      exact scans_writeCall
        (address.append
          (first.afterName named.1 rfl
            (closing.afterName named.2.1 rfl line)))
  | writeChars name length =>
      have opening :
          Scans .code ", BYTE_ORDER::network_to_host("
            (.mark ',' ::
              (qualified "BYTE_ORDER" "network_to_host" ++ [.mark '(']))
            .code := scans_chars _ rfl rfl
      have closingTwo : Scans .code "))" [.mark ')', .mark ')'] .code :=
        scans_chars _ rfl rfl
      simp only [Statement.names, List.forall_mem_cons] at named
      simp only [Statement.source, Statement.spelled, String.append_assoc,
        List.append_assoc]
      exact scans_writeCall
        (opening.afterName named.1 rfl
          (closingTwo.afterName named.2.1 rfl line))
  | readValue name =>
      simp only [Statement.names, List.forall_mem_cons] at named
      simp only [Statement.source, Statement.spelled, String.append_assoc,
        List.append_assoc]
      exact scans_readCall
        (address.append (closing.afterName named.1 rfl line))
  | readText name length =>
      simp only [Statement.names, List.forall_mem_cons] at named
      simp only [Statement.source, Statement.spelled, String.append_assoc,
        List.append_assoc]
      exact scans_readCall
        (address.append
          (first.afterName named.1 rfl
            (closing.afterName named.2.1 rfl line)))
  | readChars name length =>
      have comma : Scans .code ", " [.mark ','] .code :=
        scans_chars _ rfl rfl
      simp only [Statement.names, List.forall_mem_cons] at named
      simp only [Statement.source, Statement.spelled, String.append_assoc,
        List.append_assoc]
      exact scans_readCall
        (comma.afterName named.1 rfl
          (closing.afterName named.2.1 rfl line))

/-! ## Fields -/

/-- The tokens of the text of a type. -/
def CppType.spelled : CppType → List Token
  | .integer type => [.word (IntType.text type)]
  | .string => qualified "std" "string"
  | .charPointer => [.word "char", .mark '*']

def Arg.parameterSpelled (arg : Arg) : List Token :=
  arg.type.spelled ++ [.mark '&', .word arg.name]

def Arg.spelled (arg : Arg) : List Token :=
  arg.type.spelled ++ [.word arg.name]

def LogValue.spelled : LogValue → List Token
  | .variable name => [.word name]
  | .cStr name =>
      [.word name, .mark '.', .word "c_str", .mark '(', .mark ')']

def SizeTerm.spelled : SizeTerm → List Token
  | .sizeOf name => [.word "sizeof", .mark '(', .word name, .mark ')']
  | .variable name => [.word name]

def integerTypes : List IntType :=
  [.int8, .uint8, .int16, .uint16, .int32, .uint32, .int64, .uint64]

def readType : List Token → Option CppType
  | [.word text] =>
      (integerTypes.find? fun type => IntType.text type = text).map .integer
  | [.word text, .mark '*'] =>
      if text = "char" then some .charPointer else none
  | [.word scope, .mark ':', .mark ':', .word text] =>
      if scope = "std" ∧ text = "string" then some .string else none
  | _ => none

/-- A parameter: the type of a reference and the name. -/
def readParameter (found : List Token) : Option Arg :=
  match found.reverse with
  | .word name :: .mark '&' :: type =>
      (readType type.reverse).map fun type => ⟨type, name⟩
  | _ => none

/-- A declaration without its semicolon. -/
def readDeclaration (found : List Token) : Option Arg :=
  match found.reverse with
  | .word name :: type =>
      (readType type.reverse).map fun type => ⟨type, name⟩
  | _ => none

def readLogValue : List Token → Option LogValue
  | [.word name] => some (.variable name)
  | [.word name, .mark '.', .word member, .mark '(', .mark ')'] =>
      if member = "c_str" then some (.cStr name) else none
  | _ => none

def readSizeTerm : List Token → Option SizeTerm
  | [.word name] => some (.variable name)
  | [.word operator, .mark '(', .word name, .mark ')'] =>
      if operator = "sizeof" then some (.sizeOf name) else none
  | _ => none

/-- One name. -/
def readName : List Token → Option String
  | [.word name] => some name
  | _ => none

theorem readType_spelled (type : CppType) :
    readType type.spelled = some type := by
  cases type with
  | integer type =>
      cases type <;>
        simp [CppType.spelled, readType, integerTypes, IntType.text]
  | string => simp [CppType.spelled, qualified, readType]
  | charPointer => simp [CppType.spelled, readType]

theorem readParameter_spelled (arg : Arg) :
    readParameter arg.parameterSpelled = some arg := by
  simp [readParameter, Arg.parameterSpelled, readType_spelled]

theorem readDeclaration_spelled (arg : Arg) :
    readDeclaration arg.spelled = some arg := by
  simp [readDeclaration, Arg.spelled, readType_spelled]

theorem readLogValue_spelled (value : LogValue) :
    readLogValue value.spelled = some value := by
  cases value <;> simp [LogValue.spelled, readLogValue]

theorem readSizeTerm_spelled (term : SizeTerm) :
    readSizeTerm term.spelled = some term := by
  cases term <;> simp [SizeTerm.spelled, readSizeTerm]

theorem spells_type (type : CppType) : Spells type.text type.spelled := by
  cases type with
  | integer type =>
      refine spells_name ?_
      cases type <;> exact identifier_chars _ rfl (by simp) (by decide)
  | string =>
      have scope :
          Scans .code "std::" [.word "std", .mark ':', .mark ':'] .code :=
        scans_chars _ rfl rfl
      have whole : "std::string" = "std::" ++ "string" := by decide
      rw [CppType.text, whole]
      exact scope.append_spells
        (spells_name (identifier_chars _ rfl (by simp) (by decide)))
  | charPointer =>
      have pointer :
          Scans .code "char*" [.word "char", .mark '*'] .code :=
        scans_chars _ rfl rfl
      exact pointer.spells

theorem spells_parameter {arg : Arg} (named : Identifier arg.name) :
    Spells arg.parameterSource arg.parameterSpelled := by
  have reference : Scans .code "& " [.mark '&'] .code :=
    scans_chars _ rfl rfl
  have apart : Boundary "& " := rfl
  rw [Arg.parameterSource, Arg.parameterSpelled, String.append_assoc]
  exact (spells_type arg.type).append (apart.append _)
    (reference.append_spells (spells_name named))

theorem scans_declaration {arg : Arg} (named : Identifier arg.name) :
    Scans .code (arg.text ++ ";\n\t") (arg.spelled ++ [.mark ';'])
      .code := by
  have blank : Scans .code " " [] .code := scans_chars _ rfl rfl
  have line : Scans .code ";\n\t" [.mark ';'] .code := scans_chars _ rfl rfl
  have apart : Boundary " " := rfl
  rw [Arg.text, Arg.spelled, String.append_assoc, String.append_assoc,
    List.append_assoc]
  exact (spells_type arg.type).scans (apart.append _)
    (blank.append ((spells_name named).scans rfl line))

theorem spells_logValue {arg : Arg} (named : Identifier arg.name) :
    Spells arg.logValue.source arg.logValue.spelled := by
  have call :
      Scans .code ".c_str()"
        [.mark '.', .word "c_str", .mark '(', .mark ')'] .code :=
    scans_chars _ rfl rfl
  rw [Arg.logValue]
  split_ifs
  · exact (spells_name named).append rfl call.spells
  · exact spells_name named

theorem spells_sizeTerm {arg : Arg} {front : String}
    (named : Identifier (front ++ arg.name)) :
    Spells ((argGetSize arg).withFront front).source
      ((argGetSize arg).withFront front).spelled := by
  have opening :
      Scans .code "sizeof(" [.word "sizeof", .mark '('] .code :=
    scans_chars _ rfl rfl
  have closing : Scans .code ")" [.mark ')'] .code := scans_chars _ rfl rfl
  have length : Identifier (front ++ nameLength arg.name) := by
    rw [nameLength, ← String.append_assoc]
    exact named.append (wordChars_chars _ rfl rfl)
  rw [argGetSize]
  cases arg.type with
  | integer =>
      rw [SizeTerm.withFront, SizeTerm.source, String.append_assoc]
      exact opening.append_spells
        ((spells_name named).append rfl closing.spells)
  | string => exact spells_name length
  | charPointer => exact spells_name length

/-! ## The marks in the texts -/

section

variable {char : Char}

theorem mark_not_mem_statement (statement : Statement)
    (outside : char ∉ ['.', '(', ')', '=', ':', '&', '[', ']', ',']) :
    .mark char ∉ statement.spelled := by
  simp only [List.mem_cons, List.not_mem_nil, or_false, not_or] at outside
  cases statement <;>
    simp [Statement.spelled, bufferArguments_eq, qualified, outside]

theorem mark_not_mem_type (type : CppType) (outside : char ∉ [':', '*']) :
    .mark char ∉ type.spelled := by
  simp only [List.mem_cons, List.not_mem_nil, or_false, not_or] at outside
  cases type <;> simp [CppType.spelled, qualified, outside]

theorem mark_not_mem_parameter (arg : Arg)
    (outside : char ∉ [':', '*', '&']) :
    .mark char ∉ arg.parameterSpelled := by
  have inType := mark_not_mem_type arg.type
    (fun member => outside (by simp at member ⊢; tauto))
  simp only [List.mem_cons, List.not_mem_nil, or_false, not_or] at outside
  simp [Arg.parameterSpelled, inType, outside]

theorem mark_not_mem_declaration (arg : Arg) (outside : char ∉ [':', '*']) :
    .mark char ∉ arg.spelled := by
  simp [Arg.spelled, mark_not_mem_type arg.type outside]

theorem mark_not_mem_logValue (value : LogValue)
    (outside : char ∉ ['.', '(', ')']) : .mark char ∉ value.spelled := by
  simp only [List.mem_cons, List.not_mem_nil, or_false, not_or] at outside
  cases value <;> simp [LogValue.spelled, outside]

theorem mark_not_mem_sizeTerm (term : SizeTerm)
    (outside : char ∉ ['(', ')']) : .mark char ∉ term.spelled := by
  simp only [List.mem_cons, List.not_mem_nil, or_false, not_or] at outside
  cases term <;> simp [SizeTerm.spelled, outside]

end

end LibSklt.PacketGenerator
