import LibSklt.Foundation.Tokens
import LibSklt.PacketGenerator.Generator

/-!
# The texts of the packet generator (`packet_generator/packet_generator.py`)

The functions of the generator as they write text.  An argument is the text
`<type> <name>`; each function splits it again at the blanks.  An index that
the split does not have and a type that `print_dictionary` does not have end
the generator with an exception, here `none`.
-/

namespace LibSklt.PacketGenerator

open LibSklt.Foundation.Tokens
open LibSklt.Util

/-- The type in C++. -/
def IntType.text : IntType → String
  | .int8 => "int8_t"
  | .uint8 => "uint8_t"
  | .int16 => "int16_t"
  | .uint16 => "uint16_t"
  | .int32 => "int32_t"
  | .uint32 => "uint32_t"
  | .int64 => "int64_t"
  | .uint64 => "uint64_t"

/-- The texts on the right side of `type_dictionary`. -/
def CppType.text : CppType → String
  | .integer type => IntType.text type
  | .string => "std::string"
  | .charPointer => "char*"

/-- An element of `send_arg` and `recv_arg` in `write_generator`. -/
def Arg.text (arg : Arg) : String :=
  arg.type.text ++ " " ++ arg.name

namespace Text

/-- `print_dictionary`. -/
def printDictionary : List (String × String) :=
  [("char", "%c"),
    ("uchar", "%c"),
    ("int8_t", "%c"),
    ("uint8_t", "%c"),
    ("int16_t", "%d"),
    ("uint16_t", "%d"),
    ("int32_t", "%d"),
    ("uint32_t", "%d"),
    ("int64_t", "%lld"),
    ("uint64_t", "%lld"),
    ("std::string", "%s"),
    ("char*", "%s")]

/-- `print_replacement`. -/
def printReplacement (defType : String) : Option String :=
  printDictionary.lookup defType

/-- `get_index_list`. -/
def getIndexList (arg : String) (index : Nat) (identify : Char) :
    Option String :=
  ((arg.toList.splitOn identify).map String.ofList)[index]?

/-- `arg.replace(' ', text)`. -/
def replaceBlank (arg text : String) : String :=
  String.ofList
    (arg.toList.flatMap fun char =>
      if char = ' ' then text.toList else [char])

/-- `result[:-2]`. -/
def withoutLastTwo (result : String) : String :=
  String.ofList result.toList.dropLast.dropLast

/-- What a loop of the generator appends for its arguments. -/
def appendEach (piece : String → Option String) (args : List String) :
    Option String :=
  args.foldlM (fun result arg => (piece arg).map (result ++ ·)) ""

/-- The loops that look at the type and the name of an argument. -/
def appendParts (piece : String → String → Option String)
    (args : List String) : Option String :=
  appendEach
    (fun arg => do
      let type ← getIndexList arg 0 ' '
      let name ← getIndexList arg 1 ' '
      piece type name)
    args

/-- `make_print_string`. -/
def makePrintString (args : List String) : Option String :=
  (appendParts
    (fun type name =>
      (printReplacement type).map fun print =>
        name ++ "[" ++ print ++ "], ")
    args).map withoutLastTwo

/-- `make_arg_ref_string`. -/
def makeArgRefString (args : List String) : Option String :=
  (appendEach (fun arg => some (replaceBlank arg "& " ++ ", ")) args).map
    withoutLastTwo

/-- `make_arg_declaration`. -/
def makeArgDeclaration (args : List String) (front : String) :
    Option String :=
  appendEach
    (fun arg => some (replaceBlank arg (" " ++ front) ++ ";" ++ "\n\t"))
    args

/-- `make_ar_2nd_enum`. -/
def makeAr2ndEnum (args : List String) (front : String) : Option String :=
  (appendParts (fun _ name => some (front ++ name ++ ", ")) args).map
    withoutLastTwo

/-- `make_arg_2nd_val_enum`. -/
def makeArg2ndValEnum (args : List String) (front : String) :
    Option String :=
  (appendParts
    (fun type name =>
      some
        ((if type = "std::string" then front ++ name ++ ".c_str()"
          else front ++ name) ++ ", "))
    args).map withoutLastTwo

/-- `make_arg_get_size`; of the three characters behind the last summand two
are cut off. -/
def makeArgGetSize (args : List String) (front : String) : Option String :=
  (appendParts
    (fun type name =>
      some
        ((if type = "std::string" ∨ type = "char*" then
            front ++ name ++ "_length"
          else "sizeof(" ++ front ++ name ++ ")") ++ " + "))
    args).map withoutLastTwo

/-- How the calls of `WriteToBuffer` begin. -/
def writeCall : String :=
  "MEMORY_MANAGER::WriteToBuffer(buffer, buffer_size, buffer_idx, "

/-- How the calls of `ReadFromBuffer` begin. -/
def readCall : String :=
  "MEMORY_MANAGER::ReadFromBuffer(buffer, buffer_size, buffer_idx, "

/-- The statements that `make_cpp_serialize` collects in `write_str`. -/
def writeStr (recvArgs : List String) : Option String :=
  appendParts
    (fun type name =>
      let nameLen := name ++ "_length"
      if type = "std::string" then
        some
          (name ++ ".resize(" ++ nameLen ++ ");\n\t" ++
            writeCall ++ "&" ++ name ++ "[0], " ++ nameLen ++ ");\n\t")
      else if type = "char*" then
        some
          (writeCall ++ name ++ ", BYTE_ORDER::network_to_host(" ++
            nameLen ++ "));\n\t")
      else
        some
          (name ++ " = BYTE_ORDER::host_to_network(" ++ name ++ ");\n\t" ++
            writeCall ++ "&" ++ name ++ ");\n\t"))
    recvArgs

/-- The statements that `make_cpp_unserialize` collects in `read_str`. -/
def readStr (sendArgs : List String) : Option String :=
  appendParts
    (fun type name =>
      let nameLen := name ++ "_length"
      if type = "std::string" then
        some
          (name ++ ".resize(" ++ nameLen ++ ");\n\t" ++
            readCall ++ "&" ++ name ++ "[0], " ++ nameLen ++ ");\n\t")
      else if type = "char*" then
        some
          (readCall ++ name ++ ", " ++ nameLen ++ ");\n\t")
      else if type = "uint8_t" ∨ type = "int8_t" then
        some
          (readCall ++ "&" ++ name ++ ");\n\t")
      else
        some
          (readCall ++ "&" ++ name ++ ");\n\t" ++
            name ++ " = BYTE_ORDER::network_to_host(" ++ name ++
            ");\n\t"))
    sendArgs

/-- `make_cpp_serialize`. -/
def makeCppSerialize (className : String) (recvArgs : List String) :
    Option String := do
  let parameters ← makeArgRefString recvArgs
  let print ← makePrintString recvArgs
  let values ← makeArg2ndValEnum recvArgs ""
  let statements ← writeStr recvArgs
  some (String.join
    ["\nsize_t ", className,
      "::Serialize(char* buffer, size_t buffer_size, ", parameters,
      ")\n\x7b\n    ST_LOGGER.Info(",
      quote ("[" ++ className ++ "][OutputData] " ++ print), ", ", values,
      ");\n\n    size_t buffer_idx = 0;\n\n    ", statements,
      "\n\n    return buffer_idx;\n\x7d\n    "])

/-- `make_cpp_unserialize`. -/
def makeCppUnserialize (className : String) (sendArgs : List String) :
    Option String := do
  let parameters ← makeArgRefString sendArgs
  let print ← makePrintString sendArgs
  let values ← makeArg2ndValEnum sendArgs ""
  let statements ← readStr sendArgs
  some (String.join
    ["\nsize_t ", className,
      "::Deserialize(char* buffer, size_t buffer_size, ", parameters,
      ")\n\x7b\n    size_t buffer_idx = 0;\n\n    ", statements,
      "\n\n    ST_LOGGER.Info(",
      quote ("[" ++ className ++ "][InputData] " ++ print), ", ", values,
      ");\n    return buffer_idx;\n\x7d\n    "])

/-- `make_cpp_error_result`. -/
def makeCppErrorResult (className : String) : String :=
  String.join
    ["\n", className, "::result_object ", className,
      "::ErrorResult(int16_t& result_value)\n\x7b\n",
      "    size_t response_size = sizeof(result_value);\n",
      "    char * response_buffer = COMMON_POOL::_new(response_size);\n\n",
      "    ST_LOGGER.Error(",
      quote
        ("[" ++ className ++
          "][OutputData][ErrorResult] result_value[%d]"),
      ", result_value);\n\n", "    size_t buffer_idx = 0;\n",
      "    result_value = BYTE_ORDER::host_to_network(result_value);\n",
      "    MEMORY_MANAGER::WriteToBuffer(response_buffer, response_size, ",
      "buffer_idx, &result_value);\n\n",
      "\treturn result_object((const char*)response_buffer, buffer_idx);\n",
      "\x7d\n    "]

/-- `make_cpp_protocol_process`. -/
def makeCppProtocolProcess (className : String)
    (sendArgs recvArgs : List String) : Option String := do
  let requests ← makeArgDeclaration sendArgs "request_"
  let arguments ← makeAr2ndEnum sendArgs "request_"
  let requestSize ← makeArgGetSize sendArgs "request_"
  let responses ← makeArgDeclaration recvArgs "response_"
  let responseSize ← makeArgGetSize recvArgs "response_"
  let results ← makeAr2ndEnum recvArgs "response_"
  some (String.join
    ["\n", className, "::result_object ", className,
      "::ProtocolProcess(const char * buffer, const size_t size)\n\x7b\n",
      "\n    // 클라이언트로부터 전달받은 데이터\n    ", requests,
      "\n\n    // 클라이언트로부터 전달받은 데이터를 처리 합니다.\n    ",
      "Deserialize", "((char*)buffer, size, ", arguments, ")", ";\n\n    ",
      "int16_t result_value = 0;\n    // 버퍼사이즈 점검\n    ",
      "if(size != ", requestSize, ")", "\n    \x7b\n        ", "LOG_ERROR(",
      quote ("[" ++ className ++ "] buffer Size Error"), ");\n        ",
      "return ErrorResult(result_value);\n    \x7d\n\n    ",
      "// 클라이언트에게 전송할 데이터\n    ", responses,
      "\n    // ----------------- [데이터 처리 시작] -----------------\n    ",
      "// TODO: Packet Handler body 작성\n\n    ",
      "// ----------------- [데이터 처리 완료] -----------------\n\n    ",
      "// 프로토콜이 정상적으로 처리 안됬을경우\n    ",
      "if", "(result_value != 1)\n    \x7b\n        ",
      "return ErrorResult(result_value);\n    \x7d\n\n    ",
      "response_result_value = static_cast<uint16_t>( result_value );\n\n    ",
      "// 클라이언트에게 전송할 데이터를 처리 합니다.\n    ",
      "size_t response_size = ", responseSize, ";\n    ",
      "char * response_buffer = COMMON_POOL::_new(response_size);\n    ",
      "size_t response_idx = 0;\n    response_index = ",
      "Serialize(response_buffer, response_size, ", results, ")",
      ";\n\n    ", "ST_LOGGER.Info(",
      quote ("[" ++ className ++ "] Complete response_index[%d]"),
      ", response_idx);\n\n    ",
      "return result_object((const char*)response_buffer, ",
      "response_idx);\n\x7d\n    "])

/-- `make_cpp_string`. -/
def makeCppString (className : String) (sendArgs recvArgs : List String) :
    Option String := do
  let protocolProcess ← makeCppProtocolProcess className sendArgs recvArgs
  let serialize ← makeCppSerialize className recvArgs
  let deserialize ← makeCppUnserialize className sendArgs
  some (String.join
    ["\n#include <util/memory_manager.h>\n#include <util/logger.h>\n",
      "#include <util/common_pool.h>\n#include <util/byte_order.h>\n",
      "#include ", quote (className ++ ".h"), "\n\n", protocolProcess,
      "\n\n", makeCppErrorResult className, "\n\n", serialize, "\n\n",
      deserialize, "\n\n    "])

/-- `class_name.upper()`, for a name in ASCII. -/
def upper (className : String) : String :=
  String.ofList (className.toList.map Char.toUpper)

/-- `make_header_string`. -/
def makeHeaderString (className : String)
    (sendArgs recvArgs : List String) : Option String := do
  let results ← makeArgRefString recvArgs
  let requests ← makeArgRefString sendArgs
  let guard := "__" ++ upper className ++ "_H_"
  some (String.join
    ["\n#pragma once\n\n#ifndef ", guard, "\n#define ", guard,
      "\n\n#include <boost/tuple/tuple.hpp>\n\nclass ", className,
      " \x7b\npublic :\n",
      "    typedef boost::tuple<const char*, size_t> result_object;\n",
      "    static result_object ProtocolProcess(const char * buffer, ",
      "const size_t size);\nprivate :\n",
      "    static result_object ErrorResult(int16_t& result_value);\n",
      "    static size_t Serialize(char* buffer, size_t buffer_size, ",
      results, ")",
      ";\n    static size_t Deserialize(char* buffer, size_t buffer_size, ",
      requests, ")", ";\n\x7d;\n\n#endif\n"])

/-! ## Names without blanks -/

section

variable {arg : Arg} {args : List Arg} {piece : String → Option String}
  {parts : String → String → Option String} {written : Arg → String}

/-- A name that the generator does not cut. -/
def Uncut (arg : Arg) : Prop :=
  ' ' ∉ arg.name.toList

theorem blank_not_mem_type (type : CppType) : ' ' ∉ type.text.toList := by
  cases type with
  | integer type => cases type <;> decide
  | string => decide
  | charPointer => decide

theorem toList_text (arg : Arg) :
    arg.text.toList =
      [' '].intercalate [arg.type.text.toList, arg.name.toList] := by
  rw [Arg.text, String.toList_append, String.toList_append]
  simp

theorem splitOn_text (uncut : Uncut arg) :
    arg.text.toList.splitOn ' ' =
      [arg.type.text.toList, arg.name.toList] := by
  rw [toList_text, List.splitOn_intercalate]
  · simpa using ⟨blank_not_mem_type arg.type, uncut⟩
  · simp

theorem getIndexList_type (uncut : Uncut arg) :
    getIndexList arg.text 0 ' ' = some arg.type.text := by
  rw [getIndexList, splitOn_text uncut]
  simp

theorem getIndexList_name (uncut : Uncut arg) :
    getIndexList arg.text 1 ' ' = some arg.name := by
  rw [getIndexList, splitOn_text uncut]
  simp

theorem flatMap_of_not_mem {letters : List Char} (text : String)
    (absent : ' ' ∉ letters) :
    (letters.flatMap fun char =>
      if char = ' ' then text.toList else [char]) = letters := by
  induction letters with
  | nil => rfl
  | cons char letters inductionHypothesis =>
      rw [List.mem_cons, not_or] at absent
      rw [List.flatMap_cons, if_neg (Ne.symm absent.1),
        inductionHypothesis absent.2, List.singleton_append]

theorem replaceBlank_text (uncut : Uncut arg) (text : String) :
    replaceBlank arg.text text = arg.type.text ++ text ++ arg.name := by
  rw [replaceBlank, Arg.text, String.toList_append, String.toList_append,
    List.flatMap_append, List.flatMap_append,
    flatMap_of_not_mem text (blank_not_mem_type arg.type),
    flatMap_of_not_mem text uncut]
  simp [String.append_assoc]

theorem foldlM_text
    (each : ∀ arg ∈ args, piece arg.text = some (written arg))
    (result : String) :
    (args.map Arg.text).foldlM
        (fun result arg => (piece arg).map (result ++ ·)) result =
      some (result ++ String.join (args.map written)) := by
  induction args generalizing result with
  | nil => simp
  | cons arg args inductionHypothesis =>
      rw [List.forall_mem_cons] at each
      rw [List.map_cons, List.foldlM_cons, each.1]
      simp only [Option.map_some, Option.bind_eq_bind, Option.bind_some,
        inductionHypothesis each.2, List.map_cons, String.join_cons,
        String.append_assoc]

theorem appendEach_text
    (each : ∀ arg ∈ args, piece arg.text = some (written arg)) :
    appendEach piece (args.map Arg.text) =
      some (String.join (args.map written)) := by
  rw [appendEach, foldlM_text each, String.empty_append]

theorem appendParts_text
    (uncut : ∀ arg ∈ args, Uncut arg)
    (each : ∀ arg ∈ args,
      parts arg.type.text arg.name = some (written arg)) :
    appendParts parts (args.map Arg.text) =
      some (String.join (args.map written)) := by
  refine appendEach_text ?_
  intro arg member
  simp only [getIndexList_type (uncut arg member),
    getIndexList_name (uncut arg member), Option.bind_eq_bind,
    Option.bind_some]
  exact each arg member

/-- A loop that writes a separator behind every item. -/
theorem join_separated (separator : String) (written : Arg → String)
    (nonempty : args ≠ []) :
    String.join (args.map fun arg => written arg ++ separator) =
      separator.intercalate (args.map written) ++ separator := by
  induction args with
  | nil => exact absurd rfl nonempty
  | cons arg args inductionHypothesis =>
      cases args with
      | nil => simp
      | cons next args =>
          have later := inductionHypothesis (List.cons_ne_nil _ _)
          rw [List.map_cons, String.join_cons, later]
          simp only [List.map_cons, String.intercalate_cons_cons,
            String.append_assoc]

theorem withoutLastTwo_separated (written : Arg → String) :
    withoutLastTwo (String.join (args.map fun arg => written arg ++ ", ")) =
      ", ".intercalate (args.map written) := by
  cases args with
  | nil => rfl
  | cons arg args =>
      rw [join_separated _ _ (List.cons_ne_nil _ _), withoutLastTwo,
        String.toList_append]
      have last : ", ".toList = [','] ++ [' '] := rfl
      rw [last, ← List.append_assoc, List.dropLast_concat,
        List.dropLast_concat, String.ofList_toList]

theorem withoutLastTwo_sum (written : Arg → String) (nonempty : args ≠ []) :
    withoutLastTwo (String.join (args.map fun arg => written arg ++ " + ")) =
      " + ".intercalate (args.map written) ++ " " := by
  rw [join_separated _ _ nonempty, withoutLastTwo, String.toList_append]
  have last : " + ".toList = " ".toList ++ ['+'] ++ [' '] := rfl
  rw [last, ← List.append_assoc, ← List.append_assoc, List.dropLast_concat,
    List.dropLast_concat, ← String.toList_append, String.ofList_toList]

end

end Text

end LibSklt.PacketGenerator
