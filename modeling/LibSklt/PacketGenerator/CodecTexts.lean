import LibSklt.PacketGenerator.FileReader

/-!
# The texts of `Serialize` and `Deserialize`

What `make_cpp_serialize` and `make_cpp_unserialize` write is scanned piece by
piece.  The tokens are read as a function with the fields as parameters, with
the statements of the model and with a call of the logger.
-/

namespace LibSklt.PacketGenerator

open LibSklt.Foundation.Separated
open LibSklt.Foundation.Tokens
open LibSklt.Util

/-! ## Lists -/

section

variable {α β : Type} {spelled : α → List Token}
  {read : List Token → Option β} {items : List α}

theorem readList_intercalate (value : α → β)
    (nonempty : items ≠ [])
    (absent : ∀ item ∈ items, .mark ',' ∉ spelled item)
    (each : ∀ item ∈ items, read (spelled item) = some (value item)) :
    readList read ([.mark ','].intercalate (items.map spelled)) =
      some (items.map value) := by
  rw [readList, List.splitOn_intercalate, mapM_spelled value each]
  · simpa using absent
  · simpa using nonempty

theorem readLines_flatMap
    (absent : ∀ item ∈ items, .mark ';' ∉ spelled item) :
    readLines (items.flatMap fun item => spelled item ++ [.mark ';']) =
      some (items.map spelled) := by
  rw [readLines, splitOn_flatMap absent]
  simp

end

theorem readSum_intercalate {terms : List SizeTerm} (nonempty : terms ≠ []) :
    readSum ([.mark '+'].intercalate (terms.map SizeTerm.spelled)) =
      some terms := by
  rw [readSum, List.splitOn_intercalate,
    mapM_spelled id fun term _ => readSizeTerm_spelled term]
  · rw [List.map_id]
  · intro piece member
    obtain ⟨term, _, rfl⟩ := List.mem_map.mp member
    exact mark_not_mem_sizeTerm term (by decide)
  · simpa using nonempty

theorem readClosed_append (inside : List Token) :
    readClosed (inside ++ [.mark ')']) = some inside := by
  simp [readClosed]

/-! ## `Serialize` and `Deserialize` -/

/-- The line of a call of the logger. -/
def logLine (format : String) (values : List LogValue) : List Token :=
  tokens "ST_LOGGER.Info(" ++
    (.quoted format ::
      (tokens "," ++
        ([.mark ','].intercalate (values.map LogValue.spelled) ++
          [.mark ')'])))

/-- The tokens of the parameters of a function. -/
def parameterTokens (args : List Arg) : List Token :=
  [.mark ','].intercalate (args.map Arg.parameterSpelled)

/-- The head of a function. -/
def signature (className name : String) (args : List Arg) : List Token :=
  tokens "size_t" ++
    (.word className ::
      (tokens name ++
        ([.mark ','].intercalate (args.map Arg.parameterSpelled) ++
          (.mark ')' :: tokens "\x7b"))))

/-- The format of the log of a function. -/
def logFormat (className title : String) (args : List Arg) : String :=
  "[" ++ className ++ title ++ ", ".intercalate (args.map Arg.printSource)

section

variable {className : String} {args : List Arg}

theorem readLog_logLine (format : String) {values : List LogValue}
    (nonempty : values ≠ []) :
    readLog (logLine format values) = some (format, values) := by
  have list :
      readList readLogValue
          ([.mark ','].intercalate (values.map LogValue.spelled)) =
        some values := by
    rw [readList_intercalate id nonempty
      (fun value _ => mark_not_mem_logValue value (by decide))
      (fun value _ => readLogValue_spelled value), List.map_id]
  simp [readLog, logLine, readQuoted, readClosed_append, list]

theorem mark_not_mem_parameterTokens (args : List Arg) :
    .mark ')' ∉ parameterTokens args := by
  refine not_mem_intercalate (by decide) ?_
  intro piece member
  obtain ⟨arg, -, rfl⟩ := List.mem_map.mp member
  exact mark_not_mem_parameter arg (by decide)

theorem readList_parameterTokens (args : List Arg) :
    readList readParameter (parameterTokens args) =
      if args = [] then none else some args := by
  split_ifs with empty
  · rw [empty]
    rfl
  · rw [parameterTokens, readList_intercalate id empty
      (fun arg _ => mark_not_mem_parameter arg (by decide))
      (fun arg _ => readParameter_spelled arg), List.map_id]

theorem readSignature_signature (name : String) (nonempty : args ≠ [])
    (behind : List Token) :
    readSignature name (signature className name args ++ behind) =
      some (className, args, behind) := by
  have list := readList_parameterTokens args
  have inside := mark_not_mem_parameterTokens args
  rw [if_neg nonempty] at list
  rw [parameterTokens] at list inside
  simp [readSignature, signature, readWord, upTo_append inside, list]

theorem tokens_info :
    tokens "ST_LOGGER.Info(" =
      [.word "ST_LOGGER", .mark '.', .word "Info", .mark '('] :=
  tokens_of_scans (scans_chars _ rfl rfl)

theorem tokens_comma : tokens "," = [.mark ','] :=
  tokens_of_scans (scans_chars _ rfl rfl)

theorem tokens_brace : tokens "\x7b" = [.mark '\x7b'] :=
  tokens_of_scans (scans_chars _ rfl rfl)

theorem tokens_index :
    tokens "size_t buffer_idx = 0" =
      [.word "size_t", .word "buffer_idx", .mark '=', .word "0"] :=
  tokens_chars _ rfl rfl

theorem tokens_return :
    tokens "return buffer_idx" = [.word "return", .word "buffer_idx"] :=
  tokens_chars _ rfl rfl

theorem mark_not_mem_logLine (format : String) (values : List LogValue)
    {char : Char} (outside : char ∉ ['.', '(', ')', ',']) :
    .mark char ∉ logLine format values := by
  have list :
      .mark char ∉ [.mark ','].intercalate
        (values.map LogValue.spelled) := by
    refine not_mem_intercalate (by simp at outside ⊢; tauto) ?_
    intro piece member
    obtain ⟨value, _, rfl⟩ := List.mem_map.mp member
    exact mark_not_mem_logValue value (by simp at outside ⊢; tauto)
  simp only [List.mem_cons, List.not_mem_nil, or_false, not_or] at outside
  simp [logLine, tokens_info, tokens_comma, list, outside]

/-- The lines of `Serialize`. -/
def serializeLines (className : String) (args : List Arg) :
    List (List Token) :=
  logLine (logFormat className "][OutputData] " args)
      (args.map Arg.logValue) ::
    tokens "size_t buffer_idx = 0" ::
    ((makeCppSerialize args).map Statement.spelled ++
      [tokens "return buffer_idx"])

/-- The lines of `Deserialize`. -/
def deserializeLines (className : String) (args : List Arg) :
    List (List Token) :=
  tokens "size_t buffer_idx = 0" ::
    ((makeCppUnserialize args).map Statement.spelled ++
      [logLine (logFormat className "][InputData] " args)
          (args.map Arg.logValue),
        tokens "return buffer_idx"])

/-- A function, from its head to its closing brace. -/
def functionTokens (className name : String) (args : List Arg)
    (lines : List (List Token)) : List Token :=
  signature className name args ++
    ((lines.flatMap fun line => line ++ [.mark ';']) ++ [.mark '\x7d'])

theorem mark_not_mem_serializeLines {char : Char}
    (outside :
      char ∉ ['.', '(', ')', '=', ':', '&', '[', ']', ',']) :
    ∀ line ∈ serializeLines className args, .mark char ∉ line := by
  intro line member
  simp only [serializeLines, List.mem_cons, List.mem_append, List.mem_map,
    List.not_mem_nil, or_false] at member
  rcases member with rfl | rfl | ⟨statement, _, rfl⟩ | rfl
  · exact mark_not_mem_logLine _ _ (by simp at outside ⊢; tauto)
  · simp only [List.mem_cons, List.not_mem_nil, or_false, not_or] at outside
    simp [tokens_index, outside]
  · exact mark_not_mem_statement statement outside
  · simp [tokens_return]

theorem mark_not_mem_deserializeLines {char : Char}
    (outside :
      char ∉ ['.', '(', ')', '=', ':', '&', '[', ']', ',']) :
    ∀ line ∈ deserializeLines className args, .mark char ∉ line := by
  intro line member
  simp only [deserializeLines, List.mem_cons, List.mem_append, List.mem_map,
    List.not_mem_nil, or_false] at member
  rcases member with rfl | ⟨statement, _, rfl⟩ | rfl | rfl
  · simp only [List.mem_cons, List.not_mem_nil, or_false, not_or] at outside
    simp [tokens_index, outside]
  · exact mark_not_mem_statement statement outside
  · exact mark_not_mem_logLine _ _ (by simp at outside ⊢; tauto)
  · simp [tokens_return]

/-- The body of a function is read line by line. -/
theorem upTo_functionBody {lines : List (List Token)}
    (absent : ∀ line ∈ lines, .mark '\x7d' ∉ line) (behind : List Token) :
    upTo (.mark '\x7d')
        ((lines.flatMap fun line => line ++ [.mark ';']) ++
          .mark '\x7d' :: behind) =
      some (lines.flatMap fun line => line ++ [.mark ';'], behind) := by
  refine upTo_append ?_
  simpa using absent

theorem readLines_functionBody {lines : List (List Token)}
    (absent : ∀ line ∈ lines, .mark ';' ∉ line) :
    readLines (lines.flatMap fun line => line ++ [.mark ';']) =
      some lines := by
  rw [readLines_flatMap absent, List.map_id']

/-- `Serialize` as it is read. -/
def serializeCodec (className : String) (args : List Arg) : Codec where
  className := className
  parameters := args
  statements := makeCppSerialize args
  format := logFormat className "][OutputData] " args
  values := args.map Arg.logValue

/-- `Deserialize` as it is read. -/
def deserializeCodec (className : String) (args : List Arg) : Codec where
  className := className
  parameters := args
  statements := makeCppUnserialize args
  format := logFormat className "][InputData] " args
  values := args.map Arg.logValue

theorem readSerialize_functionTokens (nonempty : args ≠ [])
    (behind : List Token) :
    readSerialize
        (functionTokens className
            "::Serialize(char* buffer, size_t buffer_size," args
            (serializeLines className args) ++ behind) =
      some (serializeCodec className args, behind) := by
  have values : args.map Arg.logValue ≠ [] := by simpa using nonempty
  have statements :
      ((makeCppSerialize args).map Statement.spelled).mapM readStatement =
        some (makeCppSerialize args) := by
    rw [mapM_spelled id fun statement _ =>
      readStatement_spelled statement, List.map_id]
  rw [readSerialize, functionTokens, List.append_assoc,
    readSignature_signature _ nonempty]
  simp only [Option.bind_eq_bind, Option.bind_some, List.append_assoc,
    List.singleton_append,
    upTo_functionBody (mark_not_mem_serializeLines (by decide)),
    readLines_functionBody (mark_not_mem_serializeLines (by decide))]
  simp [serializeLines, readLog_logLine _ values, statements,
    serializeCodec]

theorem readDeserialize_functionTokens (nonempty : args ≠ [])
    (behind : List Token) :
    readDeserialize
        (functionTokens className
            "::Deserialize(char* buffer, size_t buffer_size," args
            (deserializeLines className args) ++ behind) =
      some (deserializeCodec className args, behind) := by
  have values : args.map Arg.logValue ≠ [] := by simpa using nonempty
  have statements :
      ((makeCppUnserialize args).map Statement.spelled).mapM readStatement =
        some (makeCppUnserialize args) := by
    rw [mapM_spelled id fun statement _ =>
      readStatement_spelled statement, List.map_id]
  rw [readDeserialize, functionTokens, List.append_assoc,
    readSignature_signature _ nonempty]
  simp only [Option.bind_eq_bind, Option.bind_some, List.append_assoc,
    List.singleton_append,
    upTo_functionBody (mark_not_mem_deserializeLines (by decide)),
    readLines_functionBody (mark_not_mem_deserializeLines (by decide))]
  simp [deserializeLines, readLog_logLine _ values, statements,
    deserializeCodec]

/-! ## The texts of the two functions -/

theorem uncut_of_identifier {arg : Arg} (named : Identifier arg.name) :
    Text.Uncut arg := by
  intro blank
  have wordChar := named.wordChars ' ' blank
  simp [isWordChar] at wordChar

theorem spells_parameters (named : ∀ arg ∈ args, Identifier arg.name) :
    Spells (", ".intercalate (args.map Arg.parameterSource))
      (parameterTokens args) := by
  have comma : Boundary ", " := rfl
  exact spells_intercalate comma (scans_chars _ rfl rfl)
    fun arg member => spells_parameter (named arg member)

theorem spells_logValues (named : ∀ arg ∈ args, Identifier arg.name) :
    Spells (", ".intercalate (args.map fun arg => arg.logValue.source))
      ([.mark ','].intercalate
        ((args.map Arg.logValue).map LogValue.spelled)) := by
  have comma : Boundary ", " := rfl
  rw [List.map_map]
  exact spells_intercalate comma (scans_chars _ rfl rfl)
    fun arg member => spells_logValue (named arg member)

theorem plain_logFormat (title : String) (plainTitle : Plain title)
    (named : Identifier className)
    (fields : ∀ arg ∈ args, Identifier arg.name) :
    Plain (logFormat className title args) := by
  have opening : Plain "[" := plain_chars _ rfl rfl
  have closing : Plain "]" := plain_chars _ rfl rfl
  have comma : Plain ", " := plain_chars _ rfl rfl
  refine ((opening.append named.plain).append plainTitle).append
    (plain_intercalate comma ?_)
  intro piece member
  obtain ⟨arg, inside, rfl⟩ := List.mem_map.mp member
  have conversion : Plain arg.type.conversion := by
    cases arg.type with
    | integer type => cases type <;> exact plain_chars _ rfl rfl
    | string => exact plain_chars _ rfl rfl
    | charPointer => exact plain_chars _ rfl rfl
  exact (((fields arg inside).plain.append opening).append
    conversion).append closing

theorem names_serializeArg {arg : Arg} {statement : Statement}
    (member : statement ∈ serializeArg arg) :
    ∀ name ∈ statement.names,
      name = arg.name ∨ name = nameLength arg.name := by
  obtain ⟨type, field⟩ := arg
  cases type <;>
    simp only [serializeArg, List.mem_cons, List.not_mem_nil, or_false]
      at member
  · rcases member with rfl | rfl <;> simp [Statement.names]
  · rcases member with rfl | rfl <;> simp [Statement.names]
  · subst member
    simp [Statement.names]

theorem names_unserializeArg {arg : Arg} {statement : Statement}
    (member : statement ∈ unserializeArg arg) :
    ∀ name ∈ statement.names,
      name = arg.name ∨ name = nameLength arg.name := by
  obtain ⟨type, field⟩ := arg
  cases type with
  | integer type =>
      simp only [unserializeArg] at member
      split_ifs at member <;>
        simp only [List.mem_cons, List.not_mem_nil, or_false] at member
      · subst member
        simp [Statement.names]
      · rcases member with rfl | rfl <;> simp [Statement.names]
  | string =>
      simp only [unserializeArg, List.mem_cons, List.not_mem_nil, or_false]
        at member
      rcases member with rfl | rfl <;> simp [Statement.names]
  | charPointer =>
      simp only [unserializeArg, List.mem_singleton] at member
      subst member
      simp [Statement.names]

/-- The statements that are written for the fields. -/
theorem scans_statementLines {statements : Arg → List Statement}
    (names :
      ∀ {arg : Arg} {statement : Statement},
        statement ∈ statements arg →
          ∀ name ∈ statement.names,
            name = arg.name ∨ name = nameLength arg.name)
    (fields : ∀ arg ∈ args, Identifier arg.name) :
    Scans .code (statementLines (args.flatMap statements))
      ((args.flatMap statements).flatMap fun statement =>
        statement.spelled ++ [.mark ';']) .code := by
  refine scans_join fun statement member => scans_statement statement ?_
  obtain ⟨arg, inside, member⟩ := List.mem_flatMap.mp member
  have length : Identifier (nameLength arg.name) :=
    (fields arg inside).append (wordChars_chars _ rfl rfl)
  intro name used
  rcases names member name used with rfl | rfl
  · exact fields arg inside
  · exact length

theorem scans_head : Scans .code "\nsize_t " (tokens "size_t") .code :=
  scans_fixed _ _ rfl rfl rfl

theorem scans_comma : Scans .code ", " (tokens ",") .code :=
  scans_fixed _ _ rfl rfl rfl

theorem scans_serialize
    (named : Identifier className)
    (fields : ∀ arg ∈ args, Identifier arg.name) :
    Scans .code
      (String.join
        ["\nsize_t ", className,
          "::Serialize(char* buffer, size_t buffer_size, ",
          ", ".intercalate (args.map Arg.parameterSource),
          ")\n\x7b\n    ST_LOGGER.Info(",
          quote (logFormat className "][OutputData] " args), ", ",
          ", ".intercalate (args.map fun arg => arg.logValue.source),
          ");\n\n    size_t buffer_idx = 0;\n\n    ",
          statementLines (makeCppSerialize args),
          "\n\n    return buffer_idx;\n\x7d\n    "])
      (functionTokens className
        "::Serialize(char* buffer, size_t buffer_size," args
        (serializeLines className args)) .code := by
  have name :
      Scans .code "::Serialize(char* buffer, size_t buffer_size, "
        (tokens "::Serialize(char* buffer, size_t buffer_size,") .code :=
    scans_fixed _ _ rfl rfl rfl
  have opening :
      Scans .code ")\n\x7b\n    ST_LOGGER.Info("
        (.mark ')' :: (tokens "\x7b" ++ tokens "ST_LOGGER.Info(")) .code := by
    rw [tokens_brace, tokens_info]
    exact scans_chars _ rfl rfl
  have index :
      Scans .code ");\n\n    size_t buffer_idx = 0;\n\n    "
        (.mark ')' :: .mark ';' ::
          (tokens "size_t buffer_idx = 0" ++ [.mark ';'])) .code := by
    rw [tokens_index]
    exact scans_chars _ rfl rfl
  have last :
      Scans .code "\n\n    return buffer_idx;\n\x7d\n    "
        (tokens "return buffer_idx" ++ [.mark ';', .mark '\x7d']) .code := by
    rw [tokens_return]
    exact scans_chars _ rfl rfl
  have format :=
    scans_quote
      (plain_logFormat "][OutputData] " (plain_chars _ rfl rfl) named fields)
  have afterName :
      Boundary "::Serialize(char* buffer, size_t buffer_size, " :=
    boundary_chars _ _ rfl rfl
  have afterParameters : Boundary ")\n\x7b\n    ST_LOGGER.Info(" :=
    boundary_chars _ _ rfl rfl
  have afterValues :
      Boundary ");\n\n    size_t buffer_idx = 0;\n\n    " :=
    boundary_chars _ _ rfl rfl
  have statements := scans_statementLines names_serializeArg fields
  have whole :=
    scans_head.cons
      ((spells_name named).cons (boundary_join afterName _)
        (name.cons
          ((spells_parameters fields).cons (boundary_join afterParameters _)
            (opening.cons
              (format.cons
                (scans_comma.cons
                  ((spells_logValues fields).cons
                    (boundary_join afterValues _)
                    (index.cons
                      (statements.cons
                        (last.cons (scans_join_nil _)))))))))))
  simp only [functionTokens, signature, serializeLines, logLine,
    List.flatten_cons, List.flatten_nil, List.flatMap_cons,
    List.flatMap_append, List.flatMap_map, List.flatMap_nil,
    List.append_assoc, List.cons_append, List.nil_append, List.append_nil]
    at whole ⊢
  exact whole

theorem scans_deserialize
    (named : Identifier className)
    (fields : ∀ arg ∈ args, Identifier arg.name) :
    Scans .code
      (String.join
        ["\nsize_t ", className,
          "::Deserialize(char* buffer, size_t buffer_size, ",
          ", ".intercalate (args.map Arg.parameterSource),
          ")\n\x7b\n    size_t buffer_idx = 0;\n\n    ",
          statementLines (makeCppUnserialize args),
          "\n\n    ST_LOGGER.Info(",
          quote (logFormat className "][InputData] " args), ", ",
          ", ".intercalate (args.map fun arg => arg.logValue.source),
          ");\n    return buffer_idx;\n\x7d\n    "])
      (functionTokens className
        "::Deserialize(char* buffer, size_t buffer_size," args
        (deserializeLines className args)) .code := by
  have name :
      Scans .code "::Deserialize(char* buffer, size_t buffer_size, "
        (tokens "::Deserialize(char* buffer, size_t buffer_size,") .code :=
    scans_fixed _ _ rfl rfl rfl
  have opening :
      Scans .code ")\n\x7b\n    size_t buffer_idx = 0;\n\n    "
        (.mark ')' ::
          (tokens "\x7b" ++ (tokens "size_t buffer_idx = 0" ++ [.mark ';'])))
        .code := by
    rw [tokens_brace, tokens_index]
    exact scans_chars _ rfl rfl
  have log :
      Scans .code "\n\n    ST_LOGGER.Info(" (tokens "ST_LOGGER.Info(")
        .code :=
    scans_fixed _ _ rfl rfl rfl
  have last :
      Scans .code ");\n    return buffer_idx;\n\x7d\n    "
        (.mark ')' :: .mark ';' ::
          (tokens "return buffer_idx" ++ [.mark ';', .mark '\x7d']))
        .code := by
    rw [tokens_return]
    exact scans_chars _ rfl rfl
  have format :=
    scans_quote
      (plain_logFormat "][InputData] " (plain_chars _ rfl rfl) named fields)
  have afterName :
      Boundary "::Deserialize(char* buffer, size_t buffer_size, " :=
    boundary_chars _ _ rfl rfl
  have afterParameters :
      Boundary ")\n\x7b\n    size_t buffer_idx = 0;\n\n    " :=
    boundary_chars _ _ rfl rfl
  have afterValues : Boundary ");\n    return buffer_idx;\n\x7d\n    " :=
    boundary_chars _ _ rfl rfl
  have statements := scans_statementLines names_unserializeArg fields
  have whole :=
    scans_head.cons
      ((spells_name named).cons (boundary_join afterName _)
        (name.cons
          ((spells_parameters fields).cons (boundary_join afterParameters _)
            (opening.cons
              (statements.cons
                (log.cons
                  (format.cons
                    (scans_comma.cons
                      ((spells_logValues fields).cons
                        (boundary_join afterValues _)
                        (last.cons (scans_join_nil _)))))))))))
  simp only [functionTokens, signature, deserializeLines, logLine,
    List.flatten_cons, List.flatten_nil, List.flatMap_cons,
    List.flatMap_append, List.flatMap_map, List.flatMap_nil,
    List.append_assoc, List.cons_append, List.nil_append, List.append_nil]
    at whole ⊢
  exact whole

/-- What `make_cpp_serialize` writes. -/
theorem exists_makeCppSerialize
    (named : Identifier className)
    (fields : ∀ arg ∈ args, Identifier arg.name) :
    ∃ text,
      Text.makeCppSerialize className (args.map Arg.text) = some text ∧
        Scans .code text
          (functionTokens className
            "::Serialize(char* buffer, size_t buffer_size," args
            (serializeLines className args)) .code := by
  have uncut : ∀ arg ∈ args, Text.Uncut arg :=
    fun arg member => uncut_of_identifier (fields arg member)
  refine ⟨_, ?_, scans_serialize named fields⟩
  rw [Text.makeCppSerialize, Text.makeArgRefString_text uncut,
    Text.makePrintString_text uncut, Text.makeArg2ndValEnum_text uncut,
    Text.writeStr_text uncut]
  rfl

/-- What `make_cpp_unserialize` writes. -/
theorem exists_makeCppUnserialize
    (named : Identifier className)
    (fields : ∀ arg ∈ args, Identifier arg.name) :
    ∃ text,
      Text.makeCppUnserialize className (args.map Arg.text) = some text ∧
        Scans .code text
          (functionTokens className
            "::Deserialize(char* buffer, size_t buffer_size," args
            (deserializeLines className args)) .code := by
  have uncut : ∀ arg ∈ args, Text.Uncut arg :=
    fun arg member => uncut_of_identifier (fields arg member)
  refine ⟨_, ?_, scans_deserialize named fields⟩
  rw [Text.makeCppUnserialize, Text.makeArgRefString_text uncut,
    Text.makePrintString_text uncut, Text.makeArg2ndValEnum_text uncut,
    Text.readStr_text uncut]
  rfl

end

end LibSklt.PacketGenerator
