import LibSklt.Util.Logger
import Mathlib.Tactic

/-!
# The configuration (`util/configure.h`, `lib/configure.cpp`)

`ConfigureData` holds the tree of an INI file and the path of that file, to
which `WriteConfigureFile` writes the tree back.  `LoadCofigureFile` returns
`false` if the file does not exist, and an exception of `read_ini` passes
through it.  `Initialize` catches the exception but does not look at the
returned value, and the path is assigned before the file is read.

What was loaded is logged, one line for each key.  A line that does not fit
the array of the logger ends the program before `Initialize` returns.

The tree is a parameter of the model.  `read_ini` either replaces the tree by
the content of the file or throws and leaves it as it is.  A character of a
`String` stands for one byte of a `std::string`.
-/

namespace LibSklt.Util.Configure

open LibSklt.Foundation.Printf
open LibSklt.Util.Logger

variable {Tree : Type}

/-- What is found under a path. -/
inductive File (Tree : Type) where
  | absent
  | malformed
  | valid (content : Tree)
  deriving Repr, DecidableEq

/-- `boost::filesystem::exists`. -/
def File.fileExists : File Tree → Bool
  | .absent => false
  | .malformed => true
  | .valid _ => true

/-- `read_ini`: the content of a file, or nothing if it throws. -/
def File.readIni : File Tree → Option Tree
  | .absent => none
  | .malformed => none
  | .valid content => some content

/-- The members of `ConfigureData`. -/
structure ConfigureData (Tree : Type) where
  /-- `m_iniTree`. -/
  iniTree : Tree
  /-- `m_configurePath`. -/
  configurePath : String
  deriving Repr, DecidableEq

/-- A key of the tree, with its group and its data. -/
structure Entry where
  group : String
  key : String
  data : String
  deriving Repr, DecidableEq

/-- What the calls of the logger read. -/
structure Shown (Tree : Type) where
  /-- The keys of a tree, in the order of the two loops over it. -/
  entries : Tree → List Entry
  /-- The memory behind `path.c_str()`, whose characters can be wide. -/
  pathChars : String → List UInt8

/-- How `LoadCofigureFile` or `Initialize` ends. -/
inductive Completion where
  | returned (result : Bool)
  | threw
  /-- The logger ended the program. -/
  | ended
  deriving Repr, DecidableEq

/-- A `std::string` as the argument of `%s`. -/
def cStr (text : String) : Argument :=
  .chars (bytesOf text ++ [0])

namespace ConfigureData

/-- `ConfigureData::OutConfigureData`. -/
def outConfigureData (shown : Shown Tree) (data : ConfigureData Tree) :
    List Logged :=
  trace "[PRINT CONFIGURE DATA START]" [] ::
    ((shown.entries data.iniTree).map fun entry =>
      trace "[%s][%s][%s = %s]"
        [cStr data.configurePath, cStr entry.group, cStr entry.key,
          cStr entry.data]) ++
      [trace "[PRINT CONFIGURE DATA END]" []]

/-- `ConfigureData::LoadCofigureFile`. -/
def loadCofigureFile (shown : Shown Tree)
    (data : ConfigureData Tree) (path : String) (file : File Tree) :
    Completion × ConfigureData Tree :=
  if file.fileExists then
    let named := { data with configurePath := path }
    match file.readIni with
    | none => (.threw, named)
    | some content =>
        let loaded := { named with iniTree := content }
        if .ended ∈ loaded.outConfigureData shown then
          (.ended, loaded)
        else
          (.returned true, loaded)
  else if
      error "[ConfigureData][LoadCofigureFile] Not exist File[%s]"
        [.chars (shown.pathChars path)] = .ended then
    (.ended, data)
  else
    (.returned false, data)

/-- `ConfigureData::Initialize`. -/
def initializeFrom (shown : Shown Tree)
    (data : ConfigureData Tree) (path : String) (file : File Tree) :
    Completion × ConfigureData Tree :=
  match data.loadCofigureFile shown path file with
  | (.threw, after) => (.returned false, after)
  -- The result of `LoadCofigureFile` is not looked at.
  | (.returned _, after) => (.returned true, after)
  | (.ended, after) => (.ended, after)

/-- `ConfigureData::SetConfigureData`; what `erase` and `put` make of the tree
is left open. -/
def setConfigureData
    (data : ConfigureData Tree) (edit : Tree → Tree) : ConfigureData Tree :=
  { data with iniTree := edit data.iniTree }

/-- `ConfigureData::WriteConfigureFile`: the path and the tree that
`write_ini` is called with. -/
def writeConfigureFile (data : ConfigureData Tree) : String × Tree :=
  (data.configurePath, data.iniTree)

end ConfigureData

/-- A call, with the file that it finds under its path. -/
inductive Call (Tree : Type) where
  | initializeFrom (path : String) (file : File Tree)
  | loadCofigureFile (path : String) (file : File Tree)
  | setConfigureData (edit : Tree → Tree)
  | writeConfigureFile

/-- The members behind a call, if the program goes on. -/
def apply (shown : Shown Tree) (data : ConfigureData Tree) :
    Call Tree → Option (ConfigureData Tree)
  | .initializeFrom path file =>
      match data.initializeFrom shown path file with
      | (.ended, _) => none
      | (_, after) => some after
  | .loadCofigureFile path file =>
      match data.loadCofigureFile shown path file with
      | (.ended, _) => none
      | (_, after) => some after
  | .setConfigureData edit => some (data.setConfigureData edit)
  | .writeConfigureFile => some data

/-- What a call writes, and where. -/
def Call.writes (data : ConfigureData Tree) : Call Tree → List (String × Tree)
  | .writeConfigureFile => [data.writeConfigureFile]
  | _ => []

/-- What a sequence of calls writes, and where. -/
def writes (shown : Shown Tree) (data : ConfigureData Tree) :
    List (Call Tree) → List (String × Tree)
  | [] => []
  | call :: calls =>
      call.writes data ++
        match apply shown data call with
        | some after => writes shown after calls
        | none => []

/-- A call that finds a valid file under `path`. -/
def Call.Reloads (path : String) : Call Tree → Prop
  | .initializeFrom other (.valid _) => other = path
  | .loadCofigureFile other (.valid _) => other = path
  | _ => False

/-- A call that finds no absent or malformed file. -/
def Call.FindsValid : Call Tree → Prop
  | .initializeFrom _ file => ∃ content, file = .valid content
  | .loadCofigureFile _ file => ∃ content, file = .valid content
  | _ => True

/-- The members are those of a loaded file. -/
def Loaded
    (path : String) (file : File Tree) (data : ConfigureData Tree) : Prop :=
  file = .valid data.iniTree ∧ data.configurePath = path

/-- Loading is all or nothing: the returned value says whether the file was
loaded, and nothing is changed if it was not.  A file that was not loaded is
then not written either, until it is loaded by a later call. -/
structure AllOrNothing (shown : Shown Tree)
    (data : ConfigureData Tree) (path : String) (file : File Tree) :
    Prop where
  returns_loaded :
    (data.initializeFrom shown path file).1 = .returned true ↔
      Loaded path file (data.initializeFrom shown path file).2
  otherwise_unchanged :
    ¬ Loaded path file (data.initializeFrom shown path file).2 →
      data.initializeFrom shown path file = (.returned false, data)
  otherwise_unwritten :
    ¬ Loaded path file (data.initializeFrom shown path file).2 →
      ∀ calls : List (Call Tree),
        (∀ call ∈ calls, ¬ call.Reloads path) →
          ∀ written ∈
              writes shown (data.initializeFrom shown path file).2 calls,
            written.1 ≠ path

/-! ## The lines of the logger -/

/-- What `%s` shows of a string. -/
def shownText (text : String) : List UInt8 :=
  (bytesOf text).takeWhile (· ≠ 0)

/-- The length of the line for a key. -/
def Entry.lineLength (path : String) (entry : Entry) : Nat :=
  (shownText path).length + (shownText entry.group).length +
    (shownText entry.key).length + (shownText entry.data).length + 9

theorem render_cStr (literal text : String) (found : List Piece)
    (arguments : List Argument) :
    render (literals literal ++ ([.conversion .string] ++ found))
        (cStr text :: arguments) =
      (render found arguments).map fun behind =>
        (bytesOf literal ++ (shownText text ++ behind.1), behind.2) := by
  have ends :
      (bytesOf text ++ [0]).takeWhile (· ≠ 0) = shownText text :=
    takeWhile_append_zeroes _ 1
  rw [cStr, render_cons_string literal (by simp), ends]

theorem format_entry (path : String) (entry : Entry) :
    format "[%s][%s][%s = %s]"
        [cStr path, cStr entry.group, cStr entry.key, cStr entry.data] =
      some
        (bytesOf "[" ++ (shownText path ++
          (bytesOf "][" ++ (shownText entry.group ++
            (bytesOf "][" ++ (shownText entry.key ++
              (bytesOf " = " ++ (shownText entry.data ++
                bytesOf "]"))))))), []) := by
  have split :
      "[%s][%s][%s = %s]" =
        "[" ++ (Conversion.string.text ++
          ("][" ++ (Conversion.string.text ++
            ("][" ++ (Conversion.string.text ++
              (" = " ++ (Conversion.string.text ++ "]"))))))) := by
    decide
  have parses :=
    @Parses.cons_string "[" _ _ (by decide)
      (@Parses.cons_string "][" _ _ (by decide)
        (@Parses.cons_string "][" _ _ (by decide)
          (@Parses.cons_string " = " _ _ (by decide)
            (@parses_literals "]" (by decide)))))
  rw [split, format_of_parses parses, render_cStr, render_cStr, render_cStr,
    render_cStr, render_literals]
  rfl

/-- The line for a key ends the program exactly if it is too long. -/
theorem trace_entry_eq_ended_iff (path : String) (entry : Entry) :
    trace "[%s][%s][%s = %s]"
        [cStr path, cStr entry.group, cStr entry.key, cStr entry.data] =
          .ended ↔
      kMaxBufferLength ≤ entry.lineLength path := by
  have opening : "[".length = 1 := by decide
  have between : "][".length = 2 := by decide
  have equals : " = ".length = 3 := by decide
  have closing : "]".length = 1 := by decide
  rw [trace, write_of_format (format_entry path entry), Entry.lineLength]
  simp only [List.length_append, length_bytesOf, opening, between, equals,
    closing]
  split_ifs with fits
  · simp
    omega
  · simp
    omega

/-- The line for a missing file, without its path. -/
theorem error_notExist_eq_ended_iff {memory : List UInt8}
    (terminated : (0 : UInt8) ∈ memory) :
    error "[ConfigureData][LoadCofigureFile] Not exist File[%s]"
        [.chars memory] = .ended ↔
      kMaxBufferLength ≤ (memory.takeWhile (· ≠ 0)).length + 50 := by
  have split :
      "[ConfigureData][LoadCofigureFile] Not exist File[%s]" =
        "[ConfigureData][LoadCofigureFile] Not exist File[" ++
          (Conversion.string.text ++ "]") := by
    decide
  have front :
      "[ConfigureData][LoadCofigureFile] Not exist File[".length = 49 := by
    decide
  have closing : "]".length = 1 := by decide
  have parses :=
    @Parses.cons_string "[ConfigureData][LoadCofigureFile] Not exist File["
      _ _ (by decide) (@parses_literals "]" (by decide))
  have formats :
      format "[ConfigureData][LoadCofigureFile] Not exist File[%s]"
          [.chars memory] =
        some
          (bytesOf "[ConfigureData][LoadCofigureFile] Not exist File[" ++
            (memory.takeWhile (· ≠ 0) ++ bytesOf "]"), []) := by
    rw [split, format_of_parses parses, render_cons_string _ terminated,
      render_literals]
    rfl
  rw [error, write_of_format formats]
  simp only [List.length_append, length_bytesOf, front, closing]
  split_ifs with fits
  · exact iff_of_false (by simp) (by omega)
  · exact iff_of_true rfl (by omega)

theorem ended_mem_outConfigureData_iff
    (shown : Shown Tree) (data : ConfigureData Tree) :
    .ended ∈ data.outConfigureData shown ↔
      ∃ entry ∈ shown.entries data.iniTree,
        kMaxBufferLength ≤ entry.lineLength data.configurePath := by
  have start : trace "[PRINT CONFIGURE DATA START]" [] ≠ .ended := by
    decide
  have stop : trace "[PRINT CONFIGURE DATA END]" [] ≠ .ended := by
    decide
  simp only [ConfigureData.outConfigureData, List.mem_cons, List.mem_append,
    List.mem_map, List.not_mem_nil, or_false, start.symm, stop.symm,
    false_or, trace_entry_eq_ended_iff]

/-! ## The three kinds of files -/

section

variable (shown : Shown Tree) (data : ConfigureData Tree) (path : String)

/-- A missing file is reported as loaded, if its path can be logged. -/
theorem initializeFrom_absent :
    data.initializeFrom shown path .absent =
      (if error "[ConfigureData][LoadCofigureFile] Not exist File[%s]"
            [.chars (shown.pathChars path)] = .ended then
          .ended
        else
          .returned true,
        data) := by
  simp only [ConfigureData.initializeFrom, ConfigureData.loadCofigureFile,
    File.fileExists]
  split_ifs <;> simp_all

/-- A malformed file leaves its path behind, with the earlier tree. -/
theorem initializeFrom_malformed :
    data.initializeFrom shown path .malformed =
      (.returned false, { data with configurePath := path }) :=
  rfl

theorem initializeFrom_valid (content : Tree) :
    data.initializeFrom shown path (.valid content) =
      (if .ended ∈
            ConfigureData.outConfigureData shown
              { iniTree := content, configurePath := path } then
          .ended
        else
          .returned true,
        { iniTree := content, configurePath := path }) := by
  simp only [ConfigureData.initializeFrom, ConfigureData.loadCofigureFile,
    File.fileExists, File.readIni, if_true]
  split_ifs <;> simp_all

theorem loaded_valid (content : Tree) :
    Loaded path (.valid content)
      (data.initializeFrom shown path (.valid content)).2 := by
  rw [initializeFrom_valid]
  exact ⟨rfl, rfl⟩

theorem not_allOrNothing_absent :
    ¬ AllOrNothing shown data path .absent := by
  intro whole
  have failed :
      ¬ Loaded path .absent (data.initializeFrom shown path .absent).2 := by
    rintro ⟨loaded, -⟩
    cases loaded
  have refused := whole.otherwise_unchanged failed
  rw [initializeFrom_absent] at refused
  split_ifs at refused <;> cases refused

/-- The next `WriteConfigureFile` writes the earlier tree over the file. -/
theorem not_allOrNothing_malformed :
    ¬ AllOrNothing shown data path .malformed := by
  intro whole
  have failed :
      ¬ Loaded path .malformed
        (data.initializeFrom shown path .malformed).2 := by
    rintro ⟨loaded, -⟩
    cases loaded
  have unwritten :=
    whole.otherwise_unwritten failed [.writeConfigureFile]
      (by simp [Call.Reloads])
  rw [initializeFrom_malformed] at unwritten
  exact unwritten (path, data.iniTree) List.mem_cons_self rfl

/-- Loading is all or nothing exactly for a file that exists and is read
without an exception, and whose keys fit in their lines. -/
theorem allOrNothing_iff_valid (file : File Tree) :
    AllOrNothing shown data path file ↔
      ∃ content, file = .valid content ∧
        ∀ entry ∈ shown.entries content,
          entry.lineLength path < kMaxBufferLength := by
  constructor
  · intro whole
    cases file with
    | absent => exact absurd whole (not_allOrNothing_absent shown data path)
    | malformed =>
        exact absurd whole (not_allOrNothing_malformed shown data path)
    | valid content =>
        refine ⟨content, rfl, fun entry among => ?_⟩
        have reported :=
          whole.returns_loaded.mpr (loaded_valid shown data path content)
        by_contra long
        have ends :
            .ended ∈
              ConfigureData.outConfigureData shown
                { iniTree := content, configurePath := path } := by
          rw [ended_mem_outConfigureData_iff]
          exact ⟨entry, among, not_lt.mp long⟩
        rw [initializeFrom_valid, if_pos ends] at reported
        cases reported
  · rintro ⟨content, rfl, fits⟩
    have loaded := loaded_valid shown data path content
    have survives :
        .ended ∉
          ConfigureData.outConfigureData shown
            { iniTree := content, configurePath := path } := by
      rw [ended_mem_outConfigureData_iff]
      rintro ⟨entry, among, long⟩
      exact absurd (fits entry among) (not_lt.mpr long)
    have reported :
        (data.initializeFrom shown path (.valid content)).1 =
          .returned true := by
      rw [initializeFrom_valid, if_neg survives]
    exact
      { returns_loaded := iff_of_true reported loaded
        otherwise_unchanged := fun failed => absurd loaded failed
        otherwise_unwritten := fun failed => absurd loaded failed }

end

/-- A path as wide characters. -/
def wideChars (path : String) : List UInt8 :=
  path.toList.flatMap (fun char => [byteOf char, 0]) ++ [0, 0]

/-- A missing file is reported as loaded, and after a malformed one the tree
of another file is written over it. -/
theorem initializeFrom_new_ini :
    let shown : Shown (List Entry) := ⟨id, wideChars⟩
    let data : ConfigureData (List Entry) :=
      { iniTree := [⟨"CONFIGURE", "PORT", "12800"⟩]
        configurePath := "old.ini" }
    data.initializeFrom shown "new.ini" .absent = (.returned true, data) ∧
      (data.initializeFrom shown "new.ini" .malformed).1 =
        .returned false ∧
      writes shown (data.initializeFrom shown "new.ini" .malformed).2
          [.writeConfigureFile] =
        [("new.ini", [⟨"CONFIGURE", "PORT", "12800"⟩])] ∧
      ¬ AllOrNothing shown data "new.ini" .absent ∧
      ¬ AllOrNothing shown data "new.ini" .malformed := by
  intro shown data
  have logged :
      error "[ConfigureData][LoadCofigureFile] Not exist File[%s]"
        [.chars (wideChars "new.ini")] ≠ .ended := by
    have wide :
        wideChars "new.ini" =
          [110, 0, 101, 0, 119, 0, 46, 0, 105, 0, 110, 0, 105, 0, 0, 0] := by
      decide
    rw [wide, ne_eq, error_notExist_eq_ended_iff (by decide)]
    decide
  refine ⟨?_, rfl, rfl, not_allOrNothing_absent shown data "new.ini",
    not_allOrNothing_malformed shown data "new.ini"⟩
  rw [initializeFrom_absent]
  exact congrArg (·, data) (if_neg logged)

/-! ## Where the tree is written -/

section

variable {shown : Shown Tree} {data : ConfigureData Tree}

/-- A call writes with the members from before it. -/
theorem eq_of_mem_call_writes
    {call : Call Tree} {written : String × Tree}
    (member : written ∈ call.writes data) :
    written = data.writeConfigureFile := by
  cases call with
  | writeConfigureFile => exact List.mem_singleton.mp member
  | _ => cases member

theorem configurePath_loadCofigureFile_valid
    (path : String) (content : Tree) :
    (data.loadCofigureFile shown path (.valid content)).2.configurePath =
      path := by
  simp only [ConfigureData.loadCofigureFile, File.fileExists, File.readIni,
    if_true]
  split_ifs <;> rfl

/-- A call that finds no invalid file keeps the path, or loads from the new
one. -/
theorem configurePath_apply
    {call : Call Tree} (valid : call.FindsValid)
    {after : ConfigureData Tree}
    (applied : apply shown data call = some after) :
    after.configurePath = data.configurePath ∨
      call.Reloads after.configurePath := by
  cases call with
  | initializeFrom path file =>
      obtain ⟨content, rfl⟩ := valid
      right
      rw [apply, initializeFrom_valid] at applied
      split_ifs at applied
      cases applied
      rfl
  | loadCofigureFile path file =>
      obtain ⟨content, rfl⟩ := valid
      right
      have loaded :=
        @configurePath_loadCofigureFile_valid _ shown data path content
      rw [apply] at applied
      split at applied
      · cases applied
      · rename_i ends
        cases applied
        rw [ends] at loaded
        exact loaded.symm
  | setConfigureData edit =>
      cases applied
      exact .inl rfl
  | writeConfigureFile =>
      cases applied
      exact .inl rfl

/-- As long as every file that is found is valid, the tree is only written to
the path from before or to one that a valid file was loaded from. -/
theorem written_path_of_findsValid
    {calls : List (Call Tree)} (valid : ∀ call ∈ calls, call.FindsValid)
    {written : String × Tree} (member : written ∈ writes shown data calls) :
    written.1 = data.configurePath ∨
      ∃ call ∈ calls, call.Reloads written.1 := by
  induction calls generalizing data with
  | nil => cases member
  | cons call calls inductionHypothesis =>
      rw [writes] at member
      rcases List.mem_append.mp member with now | later
      · rw [eq_of_mem_call_writes now]
        exact .inl rfl
      · cases applied : apply shown data call with
        | none => simp [applied] at later
        | some after =>
            simp only [applied] at later
            have rest :=
              inductionHypothesis
                (fun other among =>
                  valid other (List.mem_cons_of_mem _ among)) later
            rcases rest with same | ⟨other, among, reloads⟩
            · rw [same]
              rcases configurePath_apply (valid call List.mem_cons_self)
                  applied with kept | reloads
              · exact .inl kept
              · exact .inr ⟨call, List.mem_cons_self, reloads⟩
            · exact .inr ⟨other, List.mem_cons_of_mem _ among, reloads⟩

end

end LibSklt.Util.Configure
