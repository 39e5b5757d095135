import LibSklt.PacketGenerator.Disagreement

/-!
# The packet builder against the generated decoder

The builder and `Deserialize` agree on a definition exactly if its rows are
stored in the order of `order_no`, none of them is an `uchar`, a `char` is
only used for the length of a string, and lengths come before their strings,
and if the line that `Deserialize` logs fits for all values.
-/

namespace LibSklt.PacketGenerator

open LibSklt.Foundation.Tokens
open LibSklt.Util
open LibSklt.Util.ByteOrder

namespace SendDefinition

variable (definition : SendDefinition) {build : Build}

/-! ## Compatible definitions -/

/--
The rows are stored in the order of `order_no`, there is no `uchar`, each
`char` is the length of a string, and lengths come before their strings.
-/
structure Compatible : Prop where
  stored :
    definition.rows.Pairwise fun first second =>
      first.orderNo < second.orderNo
  noUchar : ∀ row ∈ definition.rows, row.type ≠ "uchar"
  charIsLength :
    ∀ row ∈ definition.rows, row.type = "char" →
      ∃ text ∈ definition.rows,
        text.type = "string" ∧ row.name = nameLength text.name
  lengthFirst :
    ∀ text ∈ definition.rows, text.type = "string" →
      ∃ length ∈ definition.rows,
        length.name = nameLength text.name ∧ length.orderNo < text.orderNo

variable {definition}

theorem Compatible.args_eq (compatible : definition.Compatible) :
    definition.args = definition.storedArgs := by
  rw [args, storedArgs, orderedRows, List.mergeSort_of_pairwise]
  refine compatible.stored.imp ?_
  intro first second before
  exact decide_eq_true before.le

theorem stringsBehindLengths_of_rows
    {before rest : List Row}
    (among : ∀ row ∈ rest, row ∈ definition.rows)
    (stored :
      rest.Pairwise fun first second => first.orderNo < second.orderNo)
    (lengthFirst :
      ∀ text ∈ rest, text.type = "string" →
        ∃ length ∈ definition.rows,
          length.name = nameLength text.name ∧
            (length ∈ before ∨
              length ∈ rest ∧ length.orderNo < text.orderNo)) :
    StringsBehindLengths (fun _ => True) (before.map Row.toArg)
      (rest.map Row.toArg) := by
  induction rest generalizing before with
  | nil => trivial
  | cons row rest inductionHypothesis =>
      obtain ⟨first, storedRest⟩ := List.pairwise_cons.mp stored
      have member := among row List.mem_cons_self
      refine ⟨⟨toArg_type_ne_charPointer member, fun isString => ?_⟩, ?_⟩
      · have isString := toArg_type_eq_string member isString
        obtain ⟨length, lengthMember, name, place⟩ :=
          lengthFirst row List.mem_cons_self isString
        obtain ⟨type, isInteger⟩ :=
          toArg_integer lengthMember
            (length_notString member isString lengthMember name)
        refine ⟨type, trivial, ?_⟩
        rcases place with inFront | ⟨later, smaller⟩
        · rw [Row.toArg, ← name, ← isInteger]
          exact List.mem_map_of_mem inFront
        · rcases List.mem_cons.mp later with rfl | later
          · omega
          · have larger := first length later
            omega
      · refine @inductionHypothesis (row :: before)
          (fun later within => among later (List.mem_cons_of_mem _ within))
          storedRest ?_
        intro text within isString
        obtain ⟨length, lengthMember, name, place⟩ :=
          lengthFirst text (List.mem_cons_of_mem _ within) isString
        refine ⟨length, lengthMember, name, ?_⟩
        rcases place with inFront | ⟨later, smaller⟩
        · exact Or.inl (List.mem_cons_of_mem _ inFront)
        · rcases List.mem_cons.mp later with rfl | later
          · exact Or.inl List.mem_cons_self
          · exact Or.inr ⟨later, smaller⟩

/-- The length of a string is not negative. -/
theorem packable_of_compatible
    (compatible : definition.Compatible) {values : Store}
    (typed : Typed definition.args values)
    (consistent : Consistent definition.args values) {row : Row}
    (member : row ∈ definition.rows) : Packable row (values row.name) := by
  cases holds : values row.name with
  | text => trivial
  | chars => trivial
  | integer type number =>
      refine ⟨fun isChar => ?_,
        fun isUchar => absurd isUchar (compatible.noUchar row member)⟩
      obtain ⟨text, textMember, isString, name⟩ :=
        compatible.charIsLength row member isChar
      have textTyped := typed_args_iff.mp typed text textMember
      rw [toArg_string isString] at textTyped
      cases content : values text.name with
      | integer => simp [content, HasType] at textTyped
      | chars => simp [content, HasType] at textTyped
      | text bytes =>
          have among : text.toArg ∈ definition.args :=
            definition.args_perm.mem_iff.mpr (List.mem_map_of_mem textMember)
          obtain ⟨lengthType, length⟩ :=
            consistent text.toArg among bytes content
          have length : values row.name = .integer lengthType bytes.length :=
            name ▸ length
          rw [holds] at length
          cases length
          exact Int.natCast_nonneg _

/-- Compatible definitions are read back. -/
theorem Compatible.agreesOnBody
    (compatible : definition.Compatible) : definition.AgreesOnBody build := by
  intro texts values locals denoted targets
  have typed := typed_of_denoted denoted
  have consistent := denoted.consistent
  have small := denoted.small
  refine ⟨fun row member =>
    packable_of_compatible compatible typed consistent member, ?_⟩
  rw [← compatible.args_eq]
  have behind : StringsBehindLengths (fun _ => True) [] definition.args := by
    rw [compatible.args_eq]
    refine @stringsBehindLengths_of_rows definition [] definition.rows
      (fun _ member => member) compatible.stored ?_
    intro text member isString
    obtain ⟨length, lengthMember, name, earlier⟩ :=
      compatible.lengthFirst text member isString
    exact ⟨length, lengthMember, name, Or.inr ⟨lengthMember, earlier⟩⟩
  have length := length_wireFormat build noPointer_args ⟨typed, consistent⟩
  rcases @exec_unserialize_wireFormat build (fun _ => true) (fun _ => True) []
      definition.args values
      ⟨locals, wireFormat build definition.args values, 0⟩ behind
      ⟨args_distinct, by simp⟩ typed consistent targets
      (fun arg member => by simp at member) (by simp only; omega)
      (Nat.zero_le _) (List.prefix_refl _) with
    threw | ⟨read, runs, -, -, agree⟩
  · obtain ⟨count, impossible⟩ := exec_threw threw
    simp at impossible
  · exact ⟨read, runs, agree⟩

/-- The condition is necessary: each failure of it has its own packet. -/
theorem compatible_of_agreesOnBody
    (machine : build.sizeBits = 32 ∨ build.sizeBits = 64)
    (few : definition.rows.length < 2 ^ 24)
    (agrees : definition.AgreesOnBody build) : definition.Compatible where
  stored := stored_of_agrees machine few agrees
  noUchar _ member := type_ne_uchar_of_agrees machine few agrees member
  charIsLength _ member isChar :=
    isLength_of_agrees machine few agrees member isChar
  lengthFirst _ member isString :=
    lengthFirst_of_agrees machine few agrees member isString

end SendDefinition

/--
The builder and the decoder agree exactly on the compatible definitions whose
lines all fit.  In a compatible definition the values that are read back are
those whose own line fits.
-/
theorem agrees_iff_compatible
    {build : Build} (enabled : build.enable = true)
    (machine : build.sizeBits = 32 ∨ build.sizeBits = 64)
    {className : String} (named : Identifier className)
    (definition : SendDefinition)
    (identifiers : ∀ row ∈ definition.rows, Identifier row.name)
    (few : definition.rows.length < 2 ^ 24) :
    (Agrees build className definition ↔
        definition.Compatible ∧
          ∀ texts values,
            Denoted build definition.rows definition.args texts values →
              LineFits className "][InputData] " definition.args values) ∧
      (definition.Compatible →
        ∀ texts values,
          Denoted build definition.rows definition.args texts values →
            (ReadBack build className definition.rows definition.args texts
                values ↔
              LineFits className "][InputData] " definition.args
                values)) := by
  have exactly (compatible : definition.Compatible)
      (texts : List (List Char)) (values : Store)
      (denoted :
        Denoted build definition.rows definition.args texts values) :
      ReadBack build className definition.rows definition.args texts
          values ↔
        LineFits className "][InputData] " definition.args values :=
    ⟨SendDefinition.lineFits_of_readBack enabled denoted named identifiers,
      SendDefinition.readBack_of_lineFits enabled denoted named identifiers
        compatible.agreesOnBody⟩
  refine ⟨⟨?_, ?_⟩, exactly⟩
  · intro agrees
    have compatible :=
      SendDefinition.compatible_of_agreesOnBody machine few
        (SendDefinition.agreesOnBody_of_agrees enabled agrees)
    refine ⟨compatible, fun texts values denoted => ?_⟩
    obtain ⟨args, generated, readBack⟩ := agrees
    rw [definition.sendArgs_eq, Option.some.injEq] at generated
    subst args
    exact (exactly compatible texts values denoted).mp
      (readBack texts values denoted)
  · rintro ⟨compatible, fits⟩
    refine ⟨_, definition.sendArgs_eq, fun texts values denoted => ?_⟩
    exact (exactly compatible texts values denoted).mpr
      (fits texts values denoted)

/-- The first rows of the definition in the packet database. -/
def loginDefinition : SendDefinition where
  rows :=
    [⟨1, "uint64", "leaguetime"⟩, ⟨2, "int32", "pitcher_path_length"⟩,
      ⟨3, "string", "pitcher_path"⟩]
  primaryKey := by decide
  parameters := by decide
  known := by decide
  lengths := by decide

/-- Values for the rows. -/
def loginStore : Store := fun name =>
  if name = "leaguetime" then .integer .uint64 5
  else if name = "pitcher_path" then .text (encode "a/b".toList)
  else .integer .int32 3

theorem loginDefinition_readBack :
    ReadBack ⟨true, 64⟩ "UserLogin" loginDefinition.rows
      loginDefinition.args ["5".toList, "3".toList, "a/b".toList]
      loginStore := by
  have identifiers : ∀ row ∈ loginDefinition.rows, Identifier row.name := by
    have leaguetime : Identifier "leaguetime" :=
      identifier_chars _ rfl (by simp) (by decide)
    have length : Identifier "pitcher_path_length" :=
      identifier_chars _ rfl (by simp) (by decide)
    have path : Identifier "pitcher_path" :=
      identifier_chars _ rfl (by simp) (by decide)
    simpa [loginDefinition] using ⟨leaguetime, length, path⟩
  have compatible : loginDefinition.Compatible :=
    { stored := by decide
      noUchar := by decide
      charIsLength := by decide
      lengthFirst := by decide }
  have args :
      loginDefinition.args =
        [⟨.integer .uint64, "leaguetime"⟩,
          ⟨.integer .int32, "pitcher_path_length"⟩,
          ⟨.string, "pitcher_path"⟩] := by
    rw [compatible.args_eq]
    rfl
  have denoted :
      Denoted ⟨true, 64⟩ loginDefinition.rows loginDefinition.args
        ["5".toList, "3".toList, "a/b".toList] loginStore := by
    rw [args]
    exact
      { commaFree := by decide
        denote := .cons ⟨rfl, by decide, by decide⟩
          (.cons ⟨rfl, by decide, by decide⟩ (.cons ⟨rfl, rfl⟩ .nil))
        consistent := by
          intro arg member bytes text
          simp only [List.mem_cons, List.not_mem_nil, or_false] at member
          rcases member with rfl | rfl | rfl
          · cases text
          · cases text
          · cases text
            exact ⟨.int32, by decide⟩
        small := by decide }
  have reads :=
    (@agrees_iff_compatible ⟨true, 64⟩ rfl (Or.inr rfl) "UserLogin"
      (identifier_chars _ rfl (by simp) (by decide)) loginDefinition
      identifiers (by decide)).2 compatible _ loginStore denoted
  refine reads.mpr ?_
  rw [args]
  decide

/-- The definition of one `char`. -/
def gradeDefinition : SendDefinition where
  rows := [⟨1, "char", "grade"⟩]
  primaryKey := by decide
  parameters := by decide
  known := by decide
  lengths := by decide

/-- The builder cannot pack a negative `char`. -/
theorem gradeDefinition_disagrees :
    ¬ Agrees ⟨true, 64⟩ "SetGrade" gradeDefinition := by
  rintro ⟨args, generated, agrees⟩
  rw [gradeDefinition.sendArgs_eq, Option.some.injEq] at generated
  have single : args = [⟨.integer .int8, "grade"⟩] := by
    rw [← generated]
    simp [gradeDefinition, orderedRows, Row.toArg]
    rfl
  subst single
  have denoted :
      Denoted ⟨true, 64⟩ gradeDefinition.rows [⟨.integer .int8, "grade"⟩]
        ["-1".toList] fun _ => .integer .int8 (-1) :=
    { commaFree := by decide
      denote := .cons ⟨rfl, by decide, by decide⟩ .nil
      consistent := by
        intro _ _ _ text
        cases text
      small := by decide }
  obtain ⟨body, read, built, -, -⟩ :=
    agrees _ _ denoted [] [] [] (fun _ => .integer .int8 0) (by simp) rfl
      (fun arg member => by
        rw [List.mem_singleton] at member
        subst arg
        exact ⟨rfl, by decide⟩)
  have refused :
      getSendData [] gradeDefinition.rows
        ([','].intercalate ([] ++ ["-1".toList])) = none := by
    decide
  rw [refused] at built
  cases built

end LibSklt.PacketGenerator
