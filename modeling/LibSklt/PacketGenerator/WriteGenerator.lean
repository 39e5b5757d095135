import LibSklt.PacketGenerator.GeneratedHeader
import LibSklt.PacketGenerator.PackedBody

/-!
# The run of the generator

`write_generator` goes through the table `Protocol` and writes the header and
the file of each class, and a line into `protocol_define.h`.  A type that is
not in `type_dictionary` ends the run; what was written before remains.
-/

namespace LibSklt.PacketGenerator

open LibSklt.Foundation.Separated
open LibSklt.Foundation.Tokens

/-- How a file system tells names apart: by their characters, where the case
of a letter may not count. -/
structure Naming where
  fold : Char → Char
  keeps : ∀ char, char.isUpper = false → fold char = char

/-- What is left of a name. -/
def Naming.key (naming : Naming) (name : String) : String :=
  String.ofList (name.toList.map naming.fold)

/-- The files in `output_path`, by the keys of their names; a file that does
not exist is empty. -/
abbrev Files := String → String

/-- A row of `Protocol`, as far as the generator reads it. -/
structure ProtocolRow where
  className : String
  transferNo : Int
deriving DecidableEq

/-- The tables; the rows of `Send` and `Recv` with their `unique_no`. -/
structure Database where
  protocol : List ProtocolRow
  send : List (Int × Row)
  recv : List (Int × Row)

/-- `where unique_no = ...`. -/
def entries (table : List (Int × Row)) (uniqueNo : Int) : List Row :=
  (table.filter fun entry => entry.1 = uniqueNo).map Prod.snd

/-- `type_replacement(row[0]) + ' ' + row[1]`. -/
def Row.text (row : Row) : Option String :=
  (typeReplacement row.type).map fun type =>
    type.text ++ " " ++ row.name

/-- `send_arg` and `recv_arg`, as the texts that they are. -/
def argTexts (rows : List Row) : Option (List String) :=
  (orderedRows rows).mapM Row.text

/-- `protocol_define.h`. -/
def defineFileName : String :=
  "protocol_define.h"

section

variable (naming : Naming)

/-- A file is opened, which empties it, and gets its text, unless making the
text throws. -/
def writeFile (name : String) (text : Option String) (files : Files) :
    Files × Bool :=
  match text with
  | none => (Function.update files (naming.key name) "", false)
  | some text => (Function.update files (naming.key name) text, true)

/-- `write_header_file`. -/
def writeHeaderFile (className : String) (sendArgs recvArgs : List String) :
    Files → Files × Bool :=
  writeFile naming (className ++ ".h")
    (Text.makeHeaderString className sendArgs recvArgs)

/-- `write_cpp_file`. -/
def writeCppFile (className : String) (sendArgs recvArgs : List String) :
    Files → Files × Bool :=
  writeFile naming (className ++ ".cpp")
    (Text.makeCppString className sendArgs recvArgs)

/-- The line for a class. -/
def includeLine (className : String) : String :=
  "#include " ++ quote (className ++ ".h") ++ "\n"

/-- `write_define`. -/
def writeDefine (className : String) (files : Files) : Files :=
  Function.update files (naming.key defineFileName)
    (files (naming.key defineFileName) ++ includeLine className)

/-- Go on after something that may have thrown. -/
def andThen (result : Files × Bool) (next : Files → Files × Bool) :
    Files × Bool :=
  if result.2 then next result.1 else (result.1, false)

/-- The loop of `write_generator` for one row. -/
def writeProtocol (database : Database) (row : ProtocolRow)
    (files : Files) : Files × Bool :=
  match argTexts (entries database.send row.transferNo),
      argTexts (entries database.recv row.transferNo) with
  | some sendArgs, some recvArgs =>
      andThen (writeHeaderFile naming row.className sendArgs recvArgs files)
        fun files =>
          andThen (writeCppFile naming row.className sendArgs recvArgs files)
            fun files => (writeDefine naming row.className files, true)
  | _, _ => (files, false)

/-- `write_generator`; the Boolean is whether it came to its end. -/
def writeGenerator (database : Database) :
    List ProtocolRow → Files → Files × Bool
  | [], files => (files, true)
  | row :: rows, files =>
      andThen (writeProtocol naming database row files)
        (writeGenerator database rows)

end

/-! ## Names of files -/

section

variable {naming : Naming} {first second className : String}

theorem Naming.key_append (naming : Naming) (first second : String) :
    naming.key (first ++ second) = naming.key first ++ naming.key second := by
  simp [Naming.key, String.ofList_append]

theorem Naming.key_chars (naming : Naming) (chars : List Char)
    (spelled : first = String.ofList chars)
    (lower : chars.all (fun char => !char.isUpper) = true) :
    naming.key first = first := by
  have kept :=
    calc chars.map naming.fold
        = chars.map id := by
            refine List.map_congr_left ?_
            intro char member
            refine naming.keeps char ?_
            simpa using List.all_eq_true.mp lower char member
      _ = chars := List.map_id chars
  rw [Naming.key, spelled, String.toList_ofList, kept]

theorem Naming.key_header (naming : Naming) : naming.key ".h" = ".h" :=
  naming.key_chars _ rfl rfl

theorem Naming.key_cpp (naming : Naming) : naming.key ".cpp" = ".cpp" :=
  naming.key_chars _ rfl rfl

theorem Naming.key_define (naming : Naming) :
    naming.key defineFileName = "protocol_define" ++ ".h" :=
  naming.key_chars _ rfl rfl

theorem header_ne_cpp (naming : Naming) (first second : String) :
    naming.key (first ++ ".h") ≠ naming.key (second ++ ".cpp") := by
  rw [naming.key_append, naming.key_append, naming.key_header,
    naming.key_cpp]
  intro same
  have last := congrArg (fun text => text.toList.getLast?) same
  simp at last

theorem Naming.key_append_inj (ending : String) :
    naming.key (first ++ ending) = naming.key (second ++ ending) ↔
      naming.key first = naming.key second := by
  rw [naming.key_append, naming.key_append, String.append_left_inj]

theorem header_ne_define (other : naming.key className ≠ "protocol_define") :
    naming.key (className ++ ".h") ≠ naming.key defineFileName := by
  rw [naming.key_define, naming.key_append, naming.key_header, ne_eq,
    String.append_left_inj]
  exact other

theorem cpp_ne_define (naming : Naming) (className : String) :
    naming.key (className ++ ".cpp") ≠ naming.key defineFileName := by
  have split : defineFileName = "protocol_define" ++ ".h" := by decide
  rw [split]
  exact (header_ne_cpp naming _ _).symm

end

/-! ## Rows with known types -/

/-- The fields of a class in both directions. -/
def Database.fields (database : Database) (row : ProtocolRow) : List Row :=
  entries database.send row.transferNo ++
    entries database.recv row.transferNo

/-- The types of all fields are in `type_dictionary`. -/
def Database.knows (database : Database) (row : ProtocolRow) : Bool :=
  (database.fields row).all fun field =>
    (typeReplacement field.type).isSome

section

variable {rows : List Row}

theorem sendArgs_of_known
    (known : ∀ row ∈ rows, (typeReplacement row.type).isSome) :
    sendArgs rows = some ((orderedRows rows).map Row.toArg) := by
  refine mapM_arg ?_
  intro row member
  exact known row ((orderedRows_perm rows).mem_iff.mp member)

theorem argTexts_of_known
    (known : ∀ row ∈ rows, (typeReplacement row.type).isSome) :
    argTexts rows =
      some (((orderedRows rows).map Row.toArg).map Arg.text) := by
  have each :
      ∀ row ∈ orderedRows rows,
        Row.text (id row) = some (Arg.text (Row.toArg row)) := by
    intro row member
    obtain ⟨type, found⟩ :=
      Option.isSome_iff_exists.mp
        (known row ((orderedRows_perm rows).mem_iff.mp member))
    rw [id, Row.text, Row.toArg, Arg.text, found]
    rfl
  have texts := mapM_spelled (fun row => Arg.text (Row.toArg row)) each
  rw [List.map_id] at texts
  rw [argTexts, texts, List.map_map]
  rfl

theorem argTexts_of_unknown {row : Row} (member : row ∈ rows)
    (unknown : typeReplacement row.type = none) :
    argTexts rows = none := by
  refine mapM_eq_none_iff.mpr
    ⟨row, (orderedRows_perm rows).mem_iff.mpr member, ?_⟩
  rw [Row.text, unknown]
  rfl

theorem identifier_toArg (named : ∀ row ∈ rows, Identifier row.name) :
    ∀ arg ∈ (orderedRows rows).map Row.toArg, Identifier arg.name := by
  intro arg member
  obtain ⟨row, ordered, rfl⟩ := List.mem_map.mp member
  exact named row ((orderedRows_perm rows).mem_iff.mp ordered)

end

/-! ## One class -/

section

variable {naming : Naming} {database : Database} {row : ProtocolRow}
  {files : Files}

/-- The names of a class and of its fields are identifiers, and its header is
not `protocol_define.h`. -/
structure Database.Names (naming : Naming) (database : Database)
    (row : ProtocolRow) : Prop where
  className : Identifier row.className
  other : naming.key row.className ≠ "protocol_define"
  fields : ∀ field ∈ database.fields row, Identifier field.name

/-- The files that are written for a class. -/
def fileKeys (naming : Naming) (row : ProtocolRow) : List String :=
  [naming.key (row.className ++ ".h"), naming.key (row.className ++ ".cpp"),
    naming.key defineFileName]

/-- The file of a class holds the functions for its fields, and its header
declares them. -/
def Described (naming : Naming) (database : Database) (row : ProtocolRow)
    (files : Files) : Prop :=
  ∃ request response,
    sendArgs (entries database.send row.transferNo) = some request ∧
      sendArgs (entries database.recv row.transferNo) = some response ∧
        readCppString (files (naming.key (row.className ++ ".cpp"))) =
            (if request = [] ∨ response = [] then none
              else some (cppFileOf row.className request response)) ∧
          readHeaderString (files (naming.key (row.className ++ ".h"))) =
            (readCppString
              (files (naming.key (row.className ++ ".cpp")))).map
                CppFile.declared

/-- What the round for a class does to the files. -/
structure Wrote (naming : Naming) (database : Database) (row : ProtocolRow)
    (files next : Files) : Prop where
  described : Described naming database row next
  define :
    next (naming.key defineFileName) =
      files (naming.key defineFileName) ++ includeLine row.className
  others : ∀ name ∉ fileKeys naming row, next name = files name

theorem writeProtocol_of_known (files : Files)
    (names : database.Names naming row)
    (known : database.knows row = true) :
    ∃ next,
      writeProtocol naming database row files = (next, true) ∧
        Wrote naming database row files next := by
  rw [Database.knows, List.all_eq_true] at known
  have knownSend := fun field member =>
    known field (List.mem_append_left _ member)
  have knownRecv := fun field member =>
    known field (List.mem_append_right _ member)
  have namedSend := identifier_toArg fun field member =>
    names.fields field (List.mem_append_left _ member)
  have namedRecv := identifier_toArg fun field member =>
    names.fields field (List.mem_append_right _ member)
  obtain ⟨header, madeHeader, readsHeader⟩ :=
    exists_readHeaderString names.className namedSend namedRecv
  obtain ⟨file, madeFile, readsFile⟩ :=
    exists_readCppString names.className namedSend namedRecv
  have headerOther := header_ne_define names.other
  have fileOther := cpp_ne_define naming row.className
  have apart := header_ne_cpp naming row.className row.className
  refine ⟨writeDefine naming row.className
    (Function.update
      (Function.update files (naming.key (row.className ++ ".h")) header)
      (naming.key (row.className ++ ".cpp")) file), ?_, ?_, ?_, ?_⟩
  · rw [writeProtocol, argTexts_of_known knownSend,
      argTexts_of_known knownRecv]
    simp only [writeHeaderFile, writeCppFile, madeHeader, madeFile, writeFile,
      andThen, if_true]
  · refine ⟨_, _, sendArgs_of_known knownSend, sendArgs_of_known knownRecv,
      ?_, ?_⟩
    · rw [writeDefine, Function.update_of_ne fileOther,
        Function.update_self]
      exact readsFile
    · rw [writeDefine, Function.update_of_ne fileOther,
        Function.update_of_ne headerOther, Function.update_self,
        Function.update_of_ne apart, Function.update_self, readsFile,
        readsHeader, map_declared]
  · rw [writeDefine, Function.update_self,
      Function.update_of_ne fileOther.symm,
      Function.update_of_ne headerOther.symm]
  · intro name outside
    simp only [fileKeys, List.mem_cons, List.not_mem_nil, or_false,
      not_or] at outside
    obtain ⟨notHeader, notFile, notDefine⟩ := outside
    rw [writeDefine, Function.update_of_ne notDefine,
      Function.update_of_ne notFile, Function.update_of_ne notHeader]

/-- A class with an unknown type writes nothing. -/
theorem writeProtocol_of_unknown (unknown : database.knows row = false) :
    writeProtocol naming database row files = (files, false) := by
  rw [Database.knows, List.all_eq_false] at unknown
  obtain ⟨field, member, noType⟩ := unknown
  have none : typeReplacement field.type = none := by
    simpa using noType
  rw [writeProtocol]
  rcases List.mem_append.mp member with sent | received
  · rw [argTexts_of_unknown sent none]
  · rw [argTexts_of_unknown received none]
    cases argTexts (entries database.send row.transferNo) <;> rfl

/-- The files of a class stay when a class with another name is written. -/
theorem Described.of_eq {next : Files}
    (described : Described naming database row files)
    (header :
      next (naming.key (row.className ++ ".h")) =
        files (naming.key (row.className ++ ".h")))
    (file :
      next (naming.key (row.className ++ ".cpp")) =
        files (naming.key (row.className ++ ".cpp"))) :
    Described naming database row next := by
  rw [Described, header, file]
  exact described

theorem header_not_mem_fileKeys {later : ProtocolRow}
    (names : database.Names naming row)
    (differs : naming.key later.className ≠ naming.key row.className) :
    naming.key (row.className ++ ".h") ∉ fileKeys naming later := by
  simp only [fileKeys, List.mem_cons, List.not_mem_nil, or_false, not_or]
  exact ⟨fun same => differs ((Naming.key_append_inj _).mp same).symm,
    header_ne_cpp naming _ _, header_ne_define names.other⟩

theorem cpp_not_mem_fileKeys {later : ProtocolRow}
    (differs : naming.key later.className ≠ naming.key row.className) :
    naming.key (row.className ++ ".cpp") ∉ fileKeys naming later := by
  simp only [fileKeys, List.mem_cons, List.not_mem_nil, or_false, not_or]
  exact ⟨(header_ne_cpp naming _ _).symm,
    fun same => differs ((Naming.key_append_inj _).mp same).symm,
    cpp_ne_define naming _⟩

end

/-! ## The run -/

section

variable {naming : Naming} {database : Database} {rows : List ProtocolRow}

/-- What a run that wrote these classes did to the files. -/
structure Generated (naming : Naming) (database : Database)
    (written : List ProtocolRow) (files last : Files) : Prop where
  define :
    last (naming.key defineFileName) =
      files (naming.key defineFileName) ++
        String.join (written.map fun row => includeLine row.className)
  described :
    ∀ before row after, written = before ++ row :: after →
      (∀ later ∈ after,
        naming.key later.className ≠ naming.key row.className) →
          Described naming database row last
  others :
    ∀ name, (∀ row ∈ written, name ∉ fileKeys naming row) →
      last name = files name

theorem generated_nil (files : Files) :
    Generated naming database [] files files where
  define := by simp
  described := by
    intro before row after split
    simp at split
  others := fun _ _ => rfl

/-- A class, and then the others. -/
theorem Wrote.generated_cons {row : ProtocolRow} {files next last : Files}
    (names : database.Names naming row)
    (wrote : Wrote naming database row files next)
    (generated : Generated naming database rows next last) :
    Generated naming database (row :: rows) files last where
  define := by
    rw [generated.define, wrote.define, List.map_cons, String.join_cons,
      String.append_assoc]
  described := by
    intro before found after split differs
    cases before with
    | nil =>
        -- the files of this class are those of no later one
        obtain ⟨rfl, rfl⟩ := List.cons.inj split
        refine wrote.described.of_eq ?_ ?_
        · refine generated.others _ ?_
          intro later member
          exact header_not_mem_fileKeys names (differs later member)
        · refine generated.others _ ?_
          intro later member
          exact cpp_not_mem_fileKeys (differs later member)
    | cons earlier before =>
        obtain ⟨-, split⟩ := List.cons.inj split
        exact generated.described before found after split differs
  others := by
    intro name outside
    rw [List.forall_mem_cons] at outside
    rw [generated.others name outside.2, wrote.others name outside.1]

/--
Whatever the tables hold, a run writes whole classes: those in front of the
first one with an unknown type, or all if there is none.  Each of them has
its line in `protocol_define.h`, in the order of the table, and unless a
later one has the same name, its file and its header hold the functions for
its fields.  No other file changes, and the run comes to its end exactly if
all types are known.
-/
theorem generator_writes_whole_classes
    (names : ∀ row ∈ rows, database.Names naming row) (files : Files) :
    Generated naming database (rows.takeWhile database.knows) files
        (writeGenerator naming database rows files).1 ∧
      ((writeGenerator naming database rows files).2 = true ↔
        ∀ row ∈ rows, database.knows row = true) := by
  induction rows generalizing files with
  | nil => exact ⟨generated_nil files, by simp [writeGenerator]⟩
  | cons row rows inductionHypothesis =>
      rw [List.forall_mem_cons] at names
      cases known : database.knows row with
      | true =>
          obtain ⟨next, round, wrote⟩ :=
            writeProtocol_of_known files names.1 known
          have later := inductionHypothesis names.2 next
          rw [writeGenerator, round, andThen, if_pos rfl,
            List.takeWhile_cons_of_pos known, List.forall_mem_cons]
          exact ⟨wrote.generated_cons names.1 later.1,
            by rw [later.2]; simp [known]⟩
      | false =>
          have stopped : ¬ database.knows row = true := by simp [known]
          rw [writeGenerator, writeProtocol_of_unknown known, andThen,
            if_neg Bool.false_ne_true, List.takeWhile_cons_of_neg stopped]
          exact ⟨generated_nil files, by simp [known]⟩

end

/-- File names on Windows. -/
def ignoringCase : Naming where
  fold := Char.toLower
  keeps := fun _ upper => dif_neg (of_decide_eq_false upper)

/-- `LeagueTimeSet`, and a class with a type that is in no table. -/
def leagueDatabase : Database where
  protocol := [⟨"LeagueTimeSet", 1⟩, ⟨"Ranking", 2⟩]
  send := [(1, ⟨1, "uint64", "leaguetime"⟩), (2, ⟨1, "float", "score"⟩)]
  recv := [(1, ⟨1, "ushort", "result_value"⟩)]

theorem leagueDatabase_names :
    ∀ row ∈ leagueDatabase.protocol,
      leagueDatabase.Names ignoringCase row := by
  have league : Identifier "LeagueTimeSet" :=
    identifier_chars _ rfl (by simp) (by decide)
  have ranking : Identifier "Ranking" :=
    identifier_chars _ rfl (by simp) (by decide)
  have time : Identifier "leaguetime" :=
    identifier_chars _ rfl (by simp) (by decide)
  have result : Identifier "result_value" :=
    identifier_chars _ rfl (by simp) (by decide)
  have score : Identifier "score" :=
    identifier_chars _ rfl (by simp) (by decide)
  simp only [leagueDatabase, List.forall_mem_cons]
  refine ⟨⟨league, by decide, ?_⟩, ⟨ranking, by decide, ?_⟩, by simp⟩
  · simpa [Database.fields, entries] using ⟨time, result⟩
  · simpa [Database.fields, entries] using score

/-- The run stops at the second class; the first one was written. -/
theorem generator_writes_whole_classes_league :
    (writeGenerator ignoringCase leagueDatabase leagueDatabase.protocol
          fun _ => "").2 = false ∧
      Described ignoringCase leagueDatabase ⟨"LeagueTimeSet", 1⟩
          (writeGenerator ignoringCase leagueDatabase
            leagueDatabase.protocol fun _ => "").1 ∧
        (writeGenerator ignoringCase leagueDatabase leagueDatabase.protocol
          fun _ => "").1 (ignoringCase.key defineFileName) =
            includeLine "LeagueTimeSet" := by
  have written :
      leagueDatabase.protocol.takeWhile leagueDatabase.knows =
        [⟨"LeagueTimeSet", 1⟩] := by decide
  have unknown : leagueDatabase.knows ⟨"Ranking", 2⟩ = false := by decide
  obtain ⟨generated, ends⟩ :=
    generator_writes_whole_classes leagueDatabase_names fun _ => ""
  rw [written] at generated
  refine ⟨?_, ?_, ?_⟩
  · rw [← Bool.not_eq_true, ends]
    intro known
    have second := known ⟨"Ranking", 2⟩ (by simp [leagueDatabase])
    rw [unknown] at second
    exact Bool.false_ne_true second
  · exact generated.described [] _ [] rfl (by simp)
  · simpa using generated.define

end LibSklt.PacketGenerator
