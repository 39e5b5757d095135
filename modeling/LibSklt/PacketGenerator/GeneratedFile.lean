import LibSklt.PacketGenerator.CodecTexts

/-!
# The generated file and the model

The file of a packet with its four functions.  Its text is read back as the
functions of the model whenever it can be read at all, and this is so exactly
when the packet has a field in either direction.
-/

namespace LibSklt.PacketGenerator

open LibSklt.Foundation.Separated
open LibSklt.Foundation.Tokens
open LibSklt.Util

theorem bind_readQuoted {β : Type} (text : String)
    (pieces : List (List Token)) (behind : List Token)
    (next : String × List Token → Option β) :
    (readQuoted (([.quoted text] :: pieces).flatten ++ behind)).bind next =
      next (text, pieces.flatten ++ behind) :=
  rfl

/-- A line of comment has no tokens. -/
theorem flatten_comment (first : List Token) (pieces : List (List Token)) :
    (first :: [] :: pieces).flatten = (first :: pieces).flatten :=
  rfl

/-! ## The lists in `ProtocolProcess` -/

/-- The declarations of the variables of the fields. -/
def declarationLines (front : String) (args : List Arg) : List Token :=
  args.flatMap fun arg => (arg.withFront front).spelled ++ [.mark ';']

/-- The names of the variables, with commas between them. -/
def nameList (front : String) (args : List Arg) : List Token :=
  [.mark ','].intercalate (args.map fun arg => [.word (front ++ arg.name)])

/-- The sum of the sizes. -/
def sumTokens (front : String) (args : List Arg) : List Token :=
  [.mark '+'].intercalate
    ((args.map fun arg => (argGetSize arg).withFront front).map
      SizeTerm.spelled)

section

variable {front : String} {args : List Arg}

theorem readLines_declarationLines (front : String) (args : List Arg) :
    readLines (declarationLines front args) =
      some (args.map fun arg => (arg.withFront front).spelled) := by
  rw [declarationLines, readLines_flatMap
    (fun arg _ => mark_not_mem_declaration _ (by decide))]

theorem mapM_readDeclaration (front : String) (args : List Arg) :
    (args.map fun arg => (arg.withFront front).spelled).mapM
        readDeclaration =
      some (args.map (Arg.withFront front)) :=
  mapM_spelled (Arg.withFront front) (fun _ _ => readDeclaration_spelled _)

theorem readList_nameList (front : String) (args : List Arg) :
    readList readName (nameList front args) =
      if args = [] then none
      else some (args.map fun arg => front ++ arg.name) := by
  split_ifs with empty
  · rw [empty]
    rfl
  · rw [nameList, readList_intercalate (fun arg => front ++ arg.name) empty
      (fun arg _ => by simp) (fun arg _ => rfl)]

theorem readSum_sumTokens (front : String) (args : List Arg) :
    readSum (sumTokens front args) =
      if args = [] then none
      else some (args.map fun arg => (argGetSize arg).withFront front) := by
  split_ifs with empty
  · rw [empty]
    rfl
  · rw [sumTokens, readSum_intercalate (by simpa using empty)]

theorem mark_not_mem_nameList {char : Char} (outside : char ≠ ',') :
    .mark char ∉ nameList front args := by
  refine not_mem_intercalate (by simpa using outside) ?_
  intro piece member
  obtain ⟨arg, _, rfl⟩ := List.mem_map.mp member
  simp

theorem mark_not_mem_sumTokens {char : Char}
    (outside : char ∉ ['(', ')', '+']) :
    .mark char ∉ sumTokens front args := by
  refine not_mem_intercalate (by simp at outside ⊢; tauto) ?_
  intro piece member
  obtain ⟨term, _, rfl⟩ := List.mem_map.mp member
  exact mark_not_mem_sizeTerm term (by simp at outside ⊢; tauto)

/-- The texts of types and of variables with a front are no other words. -/
theorem word_not_mem_declarationLines {word : String}
    (outside :
      word ∉ ["std", "string", "char"] ∧
        (∀ type : IntType, IntType.text type ≠ word) ∧
          ∀ name, front ++ name ≠ word) :
    .word word ∉ declarationLines front args := by
  obtain ⟨noName, noType, noVariable⟩ := outside
  simp only [List.mem_cons, List.not_mem_nil, or_false, not_or] at noName
  intro member
  obtain ⟨arg, _, inside⟩ := List.mem_flatMap.mp member
  cases kind : arg.type with
  | integer type =>
      simp [Arg.spelled, Arg.withFront, CppType.spelled, kind] at inside
      rcases inside with same | same
      · exact noType type same.symm
      · exact noVariable arg.name same.symm
  | string =>
      simp [Arg.spelled, Arg.withFront, CppType.spelled, qualified, kind,
        noName] at inside
      exact noVariable arg.name inside.symm
  | charPointer =>
      simp [Arg.spelled, Arg.withFront, CppType.spelled, kind, noName]
        at inside
      exact noVariable arg.name inside.symm

theorem spells_nameList
    (named : ∀ arg ∈ args, Identifier (front ++ arg.name)) :
    Spells (", ".intercalate (args.map fun arg => front ++ arg.name))
      (nameList front args) := by
  have comma : Boundary ", " := rfl
  exact spells_intercalate comma (scans_chars _ rfl rfl)
    fun arg member => spells_name (named arg member)

theorem spells_sum (named : ∀ arg ∈ args, Identifier (front ++ arg.name)) :
    Spells (sumSource front args) (sumTokens front args) := by
  have plus : Boundary " + " := rfl
  have blank : Boundary " " := rfl
  have last : Scans .code " " [] .code := scans_chars _ rfl rfl
  rw [sumSource]
  split_ifs with empty
  · rw [empty]
    exact spells_empty
  · have terms :
        Spells
          (" + ".intercalate
            (args.map fun arg => ((argGetSize arg).withFront front).source))
          (sumTokens front args) := by
      rw [sumTokens, List.map_map]
      exact spells_intercalate plus (scans_chars _ rfl rfl)
        fun arg member => spells_sizeTerm (named arg member)
    simpa using terms.append blank last.spells

theorem scans_declarationLines
    (named : ∀ arg ∈ args, Identifier (front ++ arg.name)) :
    Scans .code
      (String.join
        (args.map fun arg => (arg.withFront front).text ++ ";\n\t"))
      (declarationLines front args) .code :=
  scans_join fun arg member => scans_declaration (named arg member)

end

/-! ## `ProtocolProcess` and `ErrorResult` -/

/-- The fields of one direction as they are read. -/
def fieldsOf (front : String) (args : List Arg) : Fields where
  declarations := args.map (Arg.withFront front)
  names := args.map fun arg => front ++ arg.name
  size := (makeArgGetSize args).map (SizeTerm.withFront front)

/-- `ProtocolProcess` as it is read. -/
def handlerOf (className : String) (sendArgs recvArgs : List Arg) :
    Handler where
  className := className
  request := fieldsOf "request_" sendArgs
  response := fieldsOf "response_" recvArgs

/-! The tokens of the parts, as the readers meet them; `[]` stands for a line
of comment. -/

def requestTokens (args : List Arg) : List (List Token) :=
  [declarationLines "request_" args, [], [.word "Deserialize"],
    tokens "((char*)buffer, size,", nameList "request_" args, [.mark ')'],
    tokens ";", tokens "int16_t result_value = 0;", tokens "if(size !=",
    sumTokens "request_" args, [.mark ')'], [.mark '\x7b']]

def refusalTokens (className : String) : List (List Token) :=
  [tokens "LOG_ERROR(",
    [.quoted ("[" ++ className ++ "] buffer Size Error")], tokens ");",
    tokens "return ErrorResult(result_value); \x7d"]

def responseTokens (args : List Arg) : List (List Token) :=
  [[], declarationLines "response_" args, [], [], [], [], [.word "if"],
    tokens "(result_value != 1) \x7b",
    tokens "return ErrorResult(result_value); \x7d",
    tokens "response_result_value = static_cast<uint16_t>(result_value);"]

def answerTokens (className : String) (args : List Arg) :
    List (List Token) :=
  [[], tokens "size_t response_size =", sumTokens "response_" args,
    [.mark ';'],
    tokens "char * response_buffer = COMMON_POOL::_new(response_size);",
    tokens "size_t response_idx = 0; response_index =",
    tokens "Serialize(response_buffer, response_size,",
    nameList "response_" args, [.mark ')'], tokens ";",
    tokens "ST_LOGGER.Info(",
    [.quoted ("[" ++ className ++ "] Complete response_index[%d]")],
    tokens ", response_idx);",
    tokens "return result_object((const char*)response_buffer,",
    tokens "response_idx); \x7d"]

theorem append_ne_word {front word : String}
    (apart : ∀ letters, front.toList ++ letters ≠ word.toList)
    (name : String) :
    front ++ name ≠ word := by
  intro same
  refine apart name.toList ?_
  rw [← String.toList_append, same]

theorem readRequest_requestTokens (args : List Arg) (behind : List Token) :
    readRequest ((requestTokens args).flatten ++ behind) =
      if args = [] then none
      else some (fieldsOf "request_" args, behind) := by
  have noDeserialize :
      .word "Deserialize" ∉ declarationLines "request_" args := by
    refine word_not_mem_declarationLines ⟨by decide, ?_, ?_⟩
    · intro type
      cases type <;> decide
    · exact append_ne_word (by simp)
  have noClosing : .mark ')' ∉ nameList "request_" args :=
    mark_not_mem_nameList (by decide)
  have noBrace :
      .mark '\x7b' ∉ sumTokens "request_" args ++ [.mark ')'] := by
    simp [mark_not_mem_sumTokens]
  have joined :
      [sumTokens "request_" args, [.mark ')'], [.mark '\x7b']].flatten =
        [sumTokens "request_" args ++ [.mark ')'],
          [.mark '\x7b']].flatten := by
    simp
  rw [readRequest, requestTokens, flatten_comment]
  simp only [Option.bind_eq_bind]
  rw [bind_upTo noDeserialize, readLines_declarationLines, Option.bind_some,
    mapM_readDeclaration, Option.bind_some, bind_expect,
    bind_upTo noClosing, readList_nameList]
  by_cases empty : args = []
  · rw [if_pos empty, if_pos empty]
    rfl
  · rw [if_neg empty, if_neg empty, Option.bind_some, bind_expect,
      bind_expect, bind_expect, joined, bind_upTo noBrace,
      readClosed_append, Option.bind_some, readSum_sumTokens, if_neg empty,
      Option.bind_some, fieldsOf, makeArgGetSize, List.map_map]
    rfl

theorem readRefusal_refusalTokens (className : String)
    (behind : List Token) :
    readRefusal ((refusalTokens className).flatten ++ behind) =
      some behind := by
  rw [readRefusal, refusalTokens]
  simp only [Option.bind_eq_bind]
  rw [bind_expect, bind_readQuoted, bind_expect, List.flatten_singleton,
    expect_append]

theorem readResponse_responseTokens (args : List Arg)
    (behind : List Token) :
    readResponse ((responseTokens args).flatten ++ behind) =
      some (args.map (Arg.withFront "response_"), behind) := by
  have noIf : .word "if" ∉ declarationLines "response_" args := by
    refine word_not_mem_declarationLines ⟨by decide, ?_, ?_⟩
    · intro type
      cases type <;> decide
    · exact append_ne_word (by simp)
  rw [readResponse, responseTokens, flatten_nil_cons, flatten_comment,
    flatten_comment, flatten_comment, flatten_comment]
  simp only [Option.bind_eq_bind]
  rw [bind_upTo noIf, readLines_declarationLines, Option.bind_some,
    mapM_readDeclaration, Option.bind_some, bind_expect, bind_expect,
    bind_expect]
  rfl

theorem readAnswer_answerTokens (className : String) (args : List Arg)
    (behind : List Token) :
    readAnswer ((answerTokens className args).flatten ++ behind) =
      if args = [] then none
      else
        some ((fieldsOf "response_" args).size,
          (fieldsOf "response_" args).names, behind) := by
  have noSemicolon : .mark ';' ∉ sumTokens "response_" args :=
    mark_not_mem_sumTokens (by decide)
  have noClosing : .mark ')' ∉ nameList "response_" args :=
    mark_not_mem_nameList (by decide)
  rw [readAnswer, answerTokens, flatten_nil_cons]
  simp only [Option.bind_eq_bind]
  rw [bind_expect, bind_upTo noSemicolon, readSum_sumTokens]
  by_cases empty : args = []
  · rw [if_pos empty, if_pos empty]
    rfl
  · rw [if_neg empty, if_neg empty, Option.bind_some, bind_expect,
      bind_expect, bind_expect, bind_upTo noClosing, readList_nameList,
      if_neg empty, Option.bind_some, bind_expect, bind_expect,
      bind_readQuoted, bind_expect, bind_expect, bind_expect, fieldsOf,
      makeArgGetSize, List.map_map]
    rfl

/-- The tokens of `ProtocolProcess`. -/
def protocolTokens (className : String) (sendArgs recvArgs : List Arg) :
    List (List Token) :=
  [[], [.word className], tokens "::result_object", [.word className],
      tokens "::ProtocolProcess(const char * buffer, const size_t size) \x7b",
      []] ++
    (requestTokens sendArgs ++
      (refusalTokens className ++
        (responseTokens recvArgs ++ answerTokens className recvArgs)))

theorem readProtocolProcess_protocolTokens (className : String)
    (sendArgs recvArgs : List Arg) (behind : List Token) :
    readProtocolProcess
        ((protocolTokens className sendArgs recvArgs).flatten ++ behind) =
      if sendArgs = [] ∨ recvArgs = [] then none
      else some (handlerOf className sendArgs recvArgs, behind) := by
  rw [readProtocolProcess, protocolTokens]
  simp only [Option.bind_eq_bind, List.cons_append, List.nil_append]
  rw [flatten_nil_cons, bind_readWord, bind_expect, bind_readWord,
    bind_expect, flatten_nil_cons, List.flatten_append, List.append_assoc,
    readRequest_requestTokens]
  by_cases noRequest : sendArgs = []
  · rw [if_pos noRequest, if_pos (Or.inl noRequest)]
    rfl
  · rw [if_neg noRequest, Option.bind_some, List.flatten_append,
      List.append_assoc, readRefusal_refusalTokens, Option.bind_some,
      List.flatten_append, List.append_assoc, readResponse_responseTokens,
      Option.bind_some, readAnswer_answerTokens]
    by_cases noResponse : recvArgs = []
    · rw [if_pos noResponse, if_pos (Or.inr noResponse)]
      rfl
    · rw [if_neg noResponse, if_neg (not_or.mpr ⟨noRequest, noResponse⟩),
        Option.bind_some, if_pos rfl]
      rfl

/-- The tokens of `ErrorResult`. -/
def errorResultTokens (className : String) : List (List Token) :=
  [[], [.word className], tokens "::result_object", [.word className],
    tokens "::ErrorResult(int16_t& result_value) \x7b",
    tokens "size_t response_size = sizeof(result_value);",
    tokens "char * response_buffer = COMMON_POOL::_new(response_size);",
    tokens "ST_LOGGER.Error(",
    [.quoted
      ("[" ++ className ++ "][OutputData][ErrorResult] result_value[%d]")],
    tokens ", result_value);", tokens "size_t buffer_idx = 0;",
    tokens "result_value = BYTE_ORDER::host_to_network(result_value);",
    tokens "MEMORY_MANAGER::WriteToBuffer(response_buffer, response_size,",
    tokens "buffer_idx, &result_value);",
    tokens "return result_object((const char*)response_buffer, buffer_idx);",
    tokens "\x7d"]

theorem readErrorResult_errorResultTokens (className : String)
    (behind : List Token) :
    readErrorResult className
        ((errorResultTokens className).flatten ++ behind) =
      some behind := by
  rw [readErrorResult, errorResultTokens, flatten_nil_cons]
  simp only [Option.bind_eq_bind]
  rw [bind_readWord, bind_expect, bind_readWord, bind_expect, bind_expect,
    bind_expect, bind_expect, bind_readQuoted, bind_expect, bind_expect,
    bind_expect, bind_expect, bind_expect, bind_expect, bind_expect,
    if_pos ⟨rfl, rfl⟩]
  rfl

/-! ## The texts of the two functions -/

section

variable {className : String} {sendArgs recvArgs : List Arg}
  {pieces : List String} {spelled : List (List Token)}

theorem plain_inBrackets (named : Identifier className) (title : String)
    (plain : Plain title) : Plain ("[" ++ className ++ title) := by
  have opening : Plain "[" := plain_chars _ rfl rfl
  exact (opening.append named.plain).append plain

theorem scans_lineEnd : Scans .code "\n" [] .code :=
  scans_chars _ rfl rfl

theorem scans_object :
    Scans .code "::result_object " (tokens "::result_object") .code :=
  scans_fixed _ _ rfl rfl rfl

theorem boundary_object : Boundary "::result_object " :=
  boundary_chars _ _ rfl rfl

theorem scans_errorResult (named : Identifier className) :
    Scans .code (Text.makeCppErrorResult className)
      (errorResultTokens className).flatten .code := by
  have function :
      Scans .code "::ErrorResult(int16_t& result_value)\n\x7b\n"
        (tokens "::ErrorResult(int16_t& result_value) \x7b") .code :=
    scans_fixed _ _ rfl rfl rfl
  have afterName :
      Boundary "::ErrorResult(int16_t& result_value)\n\x7b\n" :=
    boundary_chars _ _ rfl rfl
  have size :
      Scans .code "    size_t response_size = sizeof(result_value);\n"
        (tokens "size_t response_size = sizeof(result_value);") .code :=
    scans_fixed _ _ rfl rfl rfl
  have block :
      Scans .code
        "    char * response_buffer = COMMON_POOL::_new(response_size);\n\n"
        (tokens "char * response_buffer = COMMON_POOL::_new(response_size);")
        .code := scans_fixed _ _ rfl rfl rfl
  have log :
      Scans .code "    ST_LOGGER.Error(" (tokens "ST_LOGGER.Error(") .code :=
    scans_fixed _ _ rfl rfl rfl
  have format :=
    scans_quote
      (plain_inBrackets named "][OutputData][ErrorResult] result_value[%d]"
        (plain_chars _ rfl rfl))
  have value :
      Scans .code ", result_value);\n\n" (tokens ", result_value);") .code :=
    scans_fixed _ _ rfl rfl rfl
  have index :
      Scans .code "    size_t buffer_idx = 0;\n"
        (tokens "size_t buffer_idx = 0;") .code :=
    scans_fixed _ _ rfl rfl rfl
  have swap :
      Scans .code
        "    result_value = BYTE_ORDER::host_to_network(result_value);\n"
        (tokens "result_value = BYTE_ORDER::host_to_network(result_value);")
        .code := scans_fixed _ _ rfl rfl rfl
  have write :
      Scans .code
        "    MEMORY_MANAGER::WriteToBuffer(response_buffer, response_size, "
        (tokens
          "MEMORY_MANAGER::WriteToBuffer(response_buffer, response_size,")
        .code := scans_fixed _ _ rfl rfl rfl
  have target :
      Scans .code "buffer_idx, &result_value);\n\n"
        (tokens "buffer_idx, &result_value);") .code :=
    scans_fixed _ _ rfl rfl rfl
  have result :
      Scans .code
        "\treturn result_object((const char*)response_buffer, buffer_idx);\n"
        (tokens
          "return result_object((const char*)response_buffer, buffer_idx);")
        .code := scans_fixed _ _ rfl rfl rfl
  have last : Scans .code "\x7d\n    " (tokens "\x7d") .code :=
    scans_fixed _ _ rfl rfl rfl
  exact scans_lineEnd.cons
    ((spells_name named).cons (boundary_join boundary_object _)
      (scans_object.cons
        ((spells_name named).cons (boundary_join afterName _)
          (function.cons
            (size.cons
              (block.cons
                (log.cons
                  (format.cons
                    (value.cons
                      (index.cons
                        (swap.cons
                          (write.cons
                            (target.cons
                              (result.cons
                                (last.cons (scans_join_nil _))))))))))))))))

theorem withFront_named (front : String)
    (word : Identifier front) {args : List Arg}
    (fields : ∀ arg ∈ args, Identifier arg.name) :
    ∀ arg ∈ args, Identifier (front ++ arg.name) :=
  fun arg member => word.append (fields arg member).wordChars

theorem scans_closing : Scans .code ")" [.mark ')'] .code :=
  scans_chars _ rfl rfl

theorem boundary_closing : Boundary ")" :=
  boundary_chars _ _ rfl rfl

theorem scans_semicolon : Scans .code ";\n\n    " (tokens ";") .code :=
  scans_fixed _ _ rfl rfl rfl

theorem scans_return :
    Scans .code "return ErrorResult(result_value);\n    \x7d\n\n    "
      (tokens "return ErrorResult(result_value); \x7d") .code :=
  scans_fixed _ _ rfl rfl rfl

theorem scans_request
    (fields : ∀ arg ∈ sendArgs, Identifier arg.name)
    (right : Scans .code (String.join pieces) spelled.flatten .code) :
    Scans .code
      (String.join
        (String.join
            (sendArgs.map fun arg =>
              (arg.withFront "request_").text ++ ";\n\t") ::
          "\n\n    // 클라이언트로부터 전달받은 데이터를 처리 합니다.\n    " ::
          "Deserialize" :: "((char*)buffer, size, " ::
          ", ".intercalate (sendArgs.map fun arg => "request_" ++ arg.name) ::
          ")" :: ";\n\n    " ::
          "int16_t result_value = 0;\n    // 버퍼사이즈 점검\n    " ::
          "if(size != " :: sumSource "request_" sendArgs :: ")" ::
          "\n    \x7b\n        " :: pieces))
      (requestTokens sendArgs ++ spelled).flatten .code := by
  have named :=
    withFront_named "request_"
      (identifier_chars _ rfl (by simp) (by decide)) fields
  have comment :
      Scans .code
        "\n\n    // 클라이언트로부터 전달받은 데이터를 처리 합니다.\n    " []
        .code := scans_chars _ rfl rfl
  have word : Identifier "Deserialize" :=
    identifier_chars _ rfl (by simp) (by decide)
  have afterWord : Boundary "((char*)buffer, size, " :=
    boundary_chars _ _ rfl rfl
  have call :
      Scans .code "((char*)buffer, size, " (tokens "((char*)buffer, size,")
        .code := scans_fixed _ _ rfl rfl rfl
  have result :
      Scans .code "int16_t result_value = 0;\n    // 버퍼사이즈 점검\n    "
        (tokens "int16_t result_value = 0;") .code :=
    scans_fixed _ _ rfl rfl rfl
  have check : Scans .code "if(size != " (tokens "if(size !=") .code :=
    scans_fixed _ _ rfl rfl rfl
  have brace : Scans .code "\n    \x7b\n        " [.mark '\x7b'] .code :=
    scans_chars _ rfl rfl
  exact (scans_declarationLines named).cons
    (comment.cons
      ((spells_name word).cons (boundary_join afterWord _)
        (call.cons
          ((spells_nameList named).cons (boundary_join boundary_closing _)
            (scans_closing.cons
              (scans_semicolon.cons
                (result.cons
                  (check.cons
                    ((spells_sum named).cons
                      (boundary_join boundary_closing _)
                      (scans_closing.cons (brace.cons right)))))))))))

theorem scans_refusal (named : Identifier className)
    (right : Scans .code (String.join pieces) spelled.flatten .code) :
    Scans .code
      (String.join
        ("LOG_ERROR(" ::
          quote ("[" ++ className ++ "] buffer Size Error") ::
          ");\n        " ::
          "return ErrorResult(result_value);\n    \x7d\n\n    " :: pieces))
      (refusalTokens className ++ spelled).flatten .code := by
  have log : Scans .code "LOG_ERROR(" (tokens "LOG_ERROR(") .code :=
    scans_fixed _ _ rfl rfl rfl
  have format :=
    scans_quote
      (plain_inBrackets named "] buffer Size Error" (plain_chars _ rfl rfl))
  have closing : Scans .code ");\n        " (tokens ");") .code :=
    scans_fixed _ _ rfl rfl rfl
  exact log.cons (format.cons (closing.cons (scans_return.cons right)))

theorem scans_response
    (fields : ∀ arg ∈ recvArgs, Identifier arg.name)
    (right : Scans .code (String.join pieces) spelled.flatten .code) :
    Scans .code
      (String.join
        ("// 클라이언트에게 전송할 데이터\n    " ::
          String.join
            (recvArgs.map fun arg =>
              (arg.withFront "response_").text ++ ";\n\t") ::
          "\n    // ----------------- [데이터 처리 시작] -----------------\n    " ::
          "// TODO: Packet Handler body 작성\n\n    " ::
          "// ----------------- [데이터 처리 완료] -----------------\n\n    " ::
          "// 프로토콜이 정상적으로 처리 안됬을경우\n    " ::
          "if" :: "(result_value != 1)\n    \x7b\n        " ::
          "return ErrorResult(result_value);\n    \x7d\n\n    " ::
          "response_result_value = static_cast<uint16_t>( result_value );\n\n    " ::
          pieces))
      (responseTokens recvArgs ++ spelled).flatten .code := by
  have named :=
    withFront_named "response_"
      (identifier_chars _ rfl (by simp) (by decide)) fields
  have response :
      Scans .code "// 클라이언트에게 전송할 데이터\n    " [] .code :=
    scans_chars _ rfl rfl
  have start :
      Scans .code
        "\n    // ----------------- [데이터 처리 시작] -----------------\n    "
        [] .code := scans_chars _ rfl rfl
  have body : Scans .code "// TODO: Packet Handler body 작성\n\n    " []
      .code := scans_chars _ rfl rfl
  have done :
      Scans .code
        "// ----------------- [데이터 처리 완료] -----------------\n\n    "
        [] .code := scans_chars _ rfl rfl
  have failure :
      Scans .code "// 프로토콜이 정상적으로 처리 안됬을경우\n    " [] .code :=
    scans_chars _ rfl rfl
  have word : Identifier "if" :=
    identifier_chars _ rfl (by simp) (by decide)
  have afterWord : Boundary "(result_value != 1)\n    \x7b\n        " :=
    boundary_chars _ _ rfl rfl
  have check :
      Scans .code "(result_value != 1)\n    \x7b\n        "
        (tokens "(result_value != 1) \x7b") .code :=
    scans_fixed _ _ rfl rfl rfl
  have value :
      Scans .code
        "response_result_value = static_cast<uint16_t>( result_value );\n\n    "
        (tokens
          "response_result_value = static_cast<uint16_t>(result_value);")
        .code := scans_fixed _ _ rfl rfl rfl
  exact response.cons
    ((scans_declarationLines named).cons
      (start.cons
        (body.cons
          (done.cons
            (failure.cons
              ((spells_name word).cons (boundary_join afterWord _)
                (check.cons (scans_return.cons (value.cons right)))))))))

theorem scans_answer (named : Identifier className)
    (fields : ∀ arg ∈ recvArgs, Identifier arg.name) :
    Scans .code
      (String.join
        ["// 클라이언트에게 전송할 데이터를 처리 합니다.\n    ",
          "size_t response_size = ", sumSource "response_" recvArgs,
          ";\n    ",
          "char * response_buffer = COMMON_POOL::_new(response_size);\n    ",
          "size_t response_idx = 0;\n    response_index = ",
          "Serialize(response_buffer, response_size, ",
          ", ".intercalate
            (recvArgs.map fun arg => "response_" ++ arg.name),
          ")", ";\n\n    ", "ST_LOGGER.Info(",
          quote ("[" ++ className ++ "] Complete response_index[%d]"),
          ", response_idx);\n\n    ",
          "return result_object((const char*)response_buffer, ",
          "response_idx);\n\x7d\n    "])
      (answerTokens className recvArgs).flatten .code := by
  have fieldNames :=
    withFront_named "response_"
      (identifier_chars _ rfl (by simp) (by decide)) fields
  have comment :
      Scans .code "// 클라이언트에게 전송할 데이터를 처리 합니다.\n    " []
        .code := scans_chars _ rfl rfl
  have size :
      Scans .code "size_t response_size = " (tokens "size_t response_size =")
        .code := scans_fixed _ _ rfl rfl rfl
  have line : Scans .code ";\n    " [.mark ';'] .code :=
    scans_chars _ rfl rfl
  have afterSize : Boundary ";\n    " := boundary_chars _ _ rfl rfl
  have block :
      Scans .code
        "char * response_buffer = COMMON_POOL::_new(response_size);\n    "
        (tokens "char * response_buffer = COMMON_POOL::_new(response_size);")
        .code := scans_fixed _ _ rfl rfl rfl
  have index :
      Scans .code "size_t response_idx = 0;\n    response_index = "
        (tokens "size_t response_idx = 0; response_index =") .code :=
    scans_fixed _ _ rfl rfl rfl
  have call :
      Scans .code "Serialize(response_buffer, response_size, "
        (tokens "Serialize(response_buffer, response_size,") .code :=
    scans_fixed _ _ rfl rfl rfl
  have log : Scans .code "ST_LOGGER.Info(" (tokens "ST_LOGGER.Info(") .code :=
    scans_fixed _ _ rfl rfl rfl
  have format :=
    scans_quote
      (plain_inBrackets named "] Complete response_index[%d]"
        (plain_chars _ rfl rfl))
  have value :
      Scans .code ", response_idx);\n\n    " (tokens ", response_idx);")
        .code := scans_fixed _ _ rfl rfl rfl
  have result :
      Scans .code "return result_object((const char*)response_buffer, "
        (tokens "return result_object((const char*)response_buffer,")
        .code := scans_fixed _ _ rfl rfl rfl
  have last :
      Scans .code "response_idx);\n\x7d\n    "
        (tokens "response_idx); \x7d") .code := scans_fixed _ _ rfl rfl rfl
  exact comment.cons
    (size.cons
      ((spells_sum fieldNames).cons (boundary_join afterSize _)
        (line.cons
          (block.cons
            (index.cons
              (call.cons
                ((spells_nameList fieldNames).cons
                  (boundary_join boundary_closing _)
                  (scans_closing.cons
                    (scans_semicolon.cons
                      (log.cons
                        (format.cons
                          (value.cons
                            (result.cons
                              (last.cons (scans_join_nil _)))))))))))))))

/-- What `make_cpp_protocol_process` writes. -/
theorem exists_makeCppProtocolProcess
    (named : Identifier className)
    (sendFields : ∀ arg ∈ sendArgs, Identifier arg.name)
    (recvFields : ∀ arg ∈ recvArgs, Identifier arg.name) :
    ∃ text,
      Text.makeCppProtocolProcess className (sendArgs.map Arg.text)
          (recvArgs.map Arg.text) = some text ∧
        Scans .code text
          (protocolTokens className sendArgs recvArgs).flatten .code := by
  have sendUncut : ∀ arg ∈ sendArgs, Text.Uncut arg :=
    fun arg member => uncut_of_identifier (sendFields arg member)
  have recvUncut : ∀ arg ∈ recvArgs, Text.Uncut arg :=
    fun arg member => uncut_of_identifier (recvFields arg member)
  have function :
      Scans .code
        "::ProtocolProcess(const char * buffer, const size_t size)\n\x7b\n"
        (tokens
          "::ProtocolProcess(const char * buffer, const size_t size) \x7b")
        .code := scans_fixed _ _ rfl rfl rfl
  have afterName :
      Boundary
        "::ProtocolProcess(const char * buffer, const size_t size)\n\x7b\n" :=
    boundary_chars _ _ rfl rfl
  have comment :
      Scans .code "\n    // 클라이언트로부터 전달받은 데이터\n    " [] .code :=
    scans_chars _ rfl rfl
  refine ⟨_, ?_,
    scans_lineEnd.cons
      ((spells_name named).cons (boundary_join boundary_object _)
        (scans_object.cons
          ((spells_name named).cons (boundary_join afterName _)
            (function.cons
              (comment.cons
                (scans_request sendFields
                  (scans_refusal named
                    (scans_response recvFields
                      (scans_answer named recvFields)))))))))⟩
  rw [Text.makeCppProtocolProcess,
    Text.makeArgDeclaration_text sendUncut,
    Text.makeAr2ndEnum_text sendUncut, Text.makeArgGetSize_text sendUncut,
    Text.makeArgDeclaration_text recvUncut,
    Text.makeArgGetSize_text recvUncut, Text.makeAr2ndEnum_text recvUncut]
  rfl

/-! ## The file -/

/-- The tokens of the file. -/
def fileTokens (className : String) (sendArgs recvArgs : List Arg) :
    List (List Token) :=
  [tokens "#include <util/memory_manager.h> #include <util/logger.h>",
    tokens "#include <util/common_pool.h> #include <util/byte_order.h>",
    tokens "#include", [.quoted (className ++ ".h")], [],
    (protocolTokens className sendArgs recvArgs).flatten, [],
    (errorResultTokens className).flatten, [],
    functionTokens className "::Serialize(char* buffer, size_t buffer_size,"
      recvArgs (serializeLines className recvArgs), [],
    functionTokens className
      "::Deserialize(char* buffer, size_t buffer_size," sendArgs
      (deserializeLines className sendArgs), []]

/-- The file as it is read. -/
def cppFileOf (className : String) (sendArgs recvArgs : List Arg) :
    CppFile where
  handler := handlerOf className sendArgs recvArgs
  serialize := serializeCodec className recvArgs
  deserialize := deserializeCodec className sendArgs

/-- What `make_cpp_string` writes. -/
theorem exists_makeCppString
    (named : Identifier className)
    (sendFields : ∀ arg ∈ sendArgs, Identifier arg.name)
    (recvFields : ∀ arg ∈ recvArgs, Identifier arg.name) :
    ∃ text,
      Text.makeCppString className (sendArgs.map Arg.text)
          (recvArgs.map Arg.text) = some text ∧
        tokens text = (fileTokens className sendArgs recvArgs).flatten := by
  obtain ⟨protocolProcess, madeProtocol, protocolScans⟩ :=
    exists_makeCppProtocolProcess named sendFields recvFields
  obtain ⟨serialize, madeSerialize, serializeScans⟩ :=
    exists_makeCppSerialize named recvFields
  obtain ⟨deserialize, madeDeserialize, deserializeScans⟩ :=
    exists_makeCppUnserialize named sendFields
  have first :
      Scans .code
        "\n#include <util/memory_manager.h>\n#include <util/logger.h>\n"
        (tokens "#include <util/memory_manager.h> #include <util/logger.h>")
        .code := scans_fixed _ _ rfl rfl rfl
  have second :
      Scans .code
        "#include <util/common_pool.h>\n#include <util/byte_order.h>\n"
        (tokens "#include <util/common_pool.h> #include <util/byte_order.h>")
        .code := scans_fixed _ _ rfl rfl rfl
  have header : Scans .code "#include " (tokens "#include") .code :=
    scans_fixed _ _ rfl rfl rfl
  have extension : Plain ".h" := plain_chars _ rfl rfl
  have between : Scans .code "\n\n" [] .code := scans_chars _ rfl rfl
  have last : Scans .code "\n\n    " [] .code := scans_chars _ rfl rfl
  refine ⟨_, ?_, tokens_of_scans
    (first.cons
      (second.cons
        (header.cons
          ((scans_quote (named.plain.append extension)).cons
            (between.cons
              (protocolScans.cons
                (between.cons
                  ((scans_errorResult named).cons
                    (between.cons
                      (serializeScans.cons
                        (between.cons
                          (deserializeScans.cons
                            (last.cons (scans_join_nil _))))))))))))))⟩
  rw [Text.makeCppString, madeProtocol, madeSerialize, madeDeserialize]
  rfl

/--
The file reads as the functions of the model, with the fields as parameters
and variables in their order, or, where one of the lists is empty, it cannot
be read as C++ at all.
-/
theorem exists_readCppString
    (named : Identifier className)
    (sendFields : ∀ arg ∈ sendArgs, Identifier arg.name)
    (recvFields : ∀ arg ∈ recvArgs, Identifier arg.name) :
    ∃ text,
      Text.makeCppString className (sendArgs.map Arg.text)
          (recvArgs.map Arg.text) = some text ∧
        readCppString text =
          if sendArgs = [] ∨ recvArgs = [] then none
          else some (cppFileOf className sendArgs recvArgs) := by
  obtain ⟨text, made, spelledText⟩ :=
    exists_makeCppString named sendFields recvFields
  refine ⟨text, made, ?_⟩
  rw [readCppString, spelledText, fileTokens,
    ← List.append_nil (List.flatten _)]
  simp only [Option.bind_eq_bind]
  rw [bind_expect, bind_expect, bind_expect, bind_readQuoted,
    flatten_nil_cons, List.flatten_cons, List.append_assoc,
    readProtocolProcess_protocolTokens]
  by_cases empty : sendArgs = [] ∨ recvArgs = []
  · rw [if_pos empty, if_pos empty]
    rfl
  · obtain ⟨sendNonempty, recvNonempty⟩ := not_or.mp empty
    have readsError (behind : List Token) :=
      readErrorResult_errorResultTokens className behind
    rw [if_neg empty, if_neg empty, Option.bind_some, flatten_nil_cons,
      List.flatten_cons, List.append_assoc, handlerOf, readsError,
      Option.bind_some, flatten_nil_cons, List.flatten_cons,
      List.append_assoc, readSerialize_functionTokens recvNonempty,
      Option.bind_some, flatten_nil_cons, List.flatten_cons,
      List.append_assoc, readDeserialize_functionTokens sendNonempty,
      Option.bind_some, if_pos ⟨rfl, rfl, rfl, rfl⟩]
    rfl

end

end LibSklt.PacketGenerator
