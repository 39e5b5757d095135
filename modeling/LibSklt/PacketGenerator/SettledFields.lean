import LibSklt.PacketGenerator.RoundTrip

/-!
# `Deserialize` on variables that already hold the values

A statement changes the variable that it names and no other.  Where the
variables hold the values of the first fields before these are read, nothing
changes but the cursor, whatever the order of the fields is; the next field
becomes what stands behind them.
-/

namespace LibSklt.PacketGenerator

open LibSklt.Util
open LibSklt.Util.ByteOrder

/-! ## Variables that are not touched -/

section

variable {build : Build} {resizes : Nat → Bool} {frame final : Frame}
  {other : String}

theorem assign_other
    {name : String} {value : Value} (different : other ≠ name)
    (ran : Run.running (frame.assign name value) = .running final) :
    final.store other = frame.store other := by
  cases ran
  exact assign_store_of_ne frame value different

theorem read_other
    {name : String} {value : List UInt8 → Value} {count : Nat}
    (different : other ≠ name)
    (ran : frame.read build.sizeBits name value count = .running final) :
    final.store other = frame.store other := by
  rw [Frame.read] at ran
  split at ran
  · split at ran
    · cases ran
      exact assign_store_of_ne frame _ different
    · cases ran
  · cases ran
    rfl

theorem write_other
    {target : List UInt8}
    (ran : frame.write build.sizeBits target = .running final) :
    final.store other = frame.store other := by
  rw [Frame.write] at ran
  split at ran
  · split at ran
    · cases ran
      rfl
    · cases ran
  · cases ran
    rfl

/-- The variable that a statement is about. -/
def Statement.target : Statement → String
  | .resize name _ => name
  | .hostToNetwork name => name
  | .networkToHost name => name
  | .writeValue name => name
  | .writeText name _ => name
  | .writeChars name _ => name
  | .readValue name => name
  | .readText name _ => name
  | .readChars name _ => name

/-- A statement changes no other variable. -/
theorem Statement.exec_other
    {statement : Statement} (different : other ≠ statement.target)
    (ran : statement.exec build resizes frame = .running final) :
    final.store other = frame.store other := by
  cases statement with
  | resize name length =>
      simp only [Statement.exec] at ran
      split at ran
      · split at ran
        · exact assign_other different ran
        · cases ran
      · cases ran
  | hostToNetwork | networkToHost =>
      simp only [Statement.exec] at ran
      split at ran
      · exact assign_other different ran
      · cases ran
  | writeValue =>
      simp only [Statement.exec] at ran
      split at ran
      · exact write_other ran
      · cases ran
  | readValue =>
      simp only [Statement.exec] at ran
      split at ran
      · exact read_other different ran
      · cases ran
  | writeText | writeChars =>
      simp only [Statement.exec] at ran
      split at ran
      · split at ran
        · exact write_other ran
        · cases ran
      · cases ran
  | readText | readChars =>
      simp only [Statement.exec] at ran
      split at ran
      · split at ran
        · exact read_other different ran
        · cases ran
      · cases ran

theorem exec_other
    {statements : List Statement}
    (different : ∀ statement ∈ statements, other ≠ statement.target)
    (ran : exec build resizes statements frame = .running final) :
    final.store other = frame.store other := by
  induction statements generalizing frame with
  | nil =>
      cases ran
      rfl
  | cons statement statements inductionHypothesis =>
      rw [exec] at ran
      cases first : statement.exec build resizes frame with
      | threw =>
          rw [first] at ran
          cases ran
      | undefined =>
          rw [first] at ran
          cases ran
      | running next =>
          rw [first] at ran
          rw [inductionHypothesis
              (fun later member =>
                different later (List.mem_cons_of_mem _ member)) ran,
            Statement.exec_other (different _ List.mem_cons_self) first]

theorem target_of_mem_unserializeArg
    {arg : Arg} {statement : Statement}
    (member : statement ∈ unserializeArg arg) :
    statement.target = arg.name := by
  rw [unserializeArg] at member
  split at member
  · simp only [List.mem_cons, List.not_mem_nil, or_false] at member
    rcases member with rfl | rfl
    · rfl
    · rfl
  · rw [List.mem_singleton] at member
    subst statement
    rfl
  · split at member
    · rw [List.mem_singleton] at member
      subst statement
      rfl
    · simp only [List.mem_cons, List.not_mem_nil, or_false] at member
      rcases member with rfl | rfl
      · rfl
      · rfl

/-- `Deserialize` changes no variables but its fields. -/
theorem exec_unserialize_other
    {args : List Arg} (unnamed : ∀ arg ∈ args, other ≠ arg.name)
    (ran :
      exec build resizes (makeCppUnserialize args) frame = .running final) :
    final.store other = frame.store other := by
  refine exec_other ?_ ran
  intro statement member
  obtain ⟨arg, among, within⟩ := List.mem_flatMap.mp member
  rw [target_of_mem_unserializeArg within]
  exact unnamed arg among

/-! ## Reading with the right values in the variables -/

/-- Fields that the variables already hold. -/
theorem exec_unserialize_settled
    {args : List Arg}
    (noPointer : ∀ arg ∈ args, arg.type ≠ .charPointer)
    (typed : Typed args frame.store)
    (consistent : Consistent args frame.store)
    (bounded : frame.buffer.length < 2 ^ build.sizeBits)
    (inside : frame.bufferIdx ≤ frame.buffer.length)
    (there :
      wireFormat build args frame.store <+:
        frame.buffer.drop frame.bufferIdx) :
    exec build (fun _ => true) (makeCppUnserialize args) frame =
      .running
        { frame with
          bufferIdx :=
            frame.bufferIdx +
              (wireFormat build args frame.store).length } := by
  induction args generalizing frame with
  | nil => rfl
  | cons arg args inductionHypothesis =>
      rw [wireFormat_cons] at there
      have here :
          (frame.store arg.name).wire build <+:
            frame.buffer.drop frame.bufferIdx :=
        (List.prefix_append _ _).trans there
      have unchanged (count : Nat) :
          frame.advance arg.name (frame.store arg.name) count =
            { frame with bufferIdx := frame.bufferIdx + count } := by
        rw [Frame.advance, Frame.assign, Function.update_eq_self]
      rw [makeCppUnserialize_cons, exec_append]
      rcases @unserializeArg_wire build (fun _ => true) frame arg
          (frame.store arg.name) (noPointer arg List.mem_cons_self)
          (typed arg List.mem_cons_self) (typed arg List.mem_cons_self)
          (consistent arg List.mem_cons_self) bounded inside here with
        threw | runs
      · obtain ⟨count, impossible⟩ := exec_threw threw
        simp at impossible
      · have nextThere :
            wireFormat build args frame.store <+:
              frame.buffer.drop
                (frame.bufferIdx +
                  ((frame.store arg.name).wire build).length) := by
          obtain ⟨behind, split⟩ := there
          rw [← List.drop_drop, ← split, List.append_assoc, List.drop_left]
          exact List.prefix_append _ _
        rw [runs, unchanged, Run.andThen]
        rw [@inductionHypothesis
          { frame with
            bufferIdx :=
              frame.bufferIdx + ((frame.store arg.name).wire build).length }
          (fun later member => noPointer later (List.mem_cons_of_mem _ member))
          (fun later member => typed later (List.mem_cons_of_mem _ member))
          (fun later member =>
            consistent later (List.mem_cons_of_mem _ member))
          bounded (le_of_isPrefix inside here) nextThere]
        rw [wireFormat_cons, List.length_append, Nat.add_assoc]

/-- The field at the cursor becomes what stands there. -/
theorem unserializeArg_reads
    {arg : Arg} (noPointer : arg.type ≠ .charPointer)
    (typed : HasType arg.type (frame.store arg.name))
    (length :
      ∀ bytes, frame.store arg.name = .text bytes →
        ∃ type,
          frame.store (nameLength arg.name) = .integer type bytes.length)
    (bounded : frame.buffer.length < 2 ^ build.sizeBits)
    (fits :
      frame.bufferIdx + ((frame.store arg.name).wire build).length ≤
        frame.buffer.length) :
    ∃ final,
      exec build (fun _ => true) (unserializeArg arg) frame =
          .running final ∧
        (final.store arg.name).wire build =
          slice frame ((frame.store arg.name).wire build).length := by
  obtain ⟨kind, name⟩ := arg
  cases kind with
  | charPointer => simp at noPointer
  | integer type =>
      cases old : frame.store name with
      | text => simp [old, HasType] at typed
      | chars => simp [old, HasType] at typed
      | integer oldType number =>
          simp only [old, HasType] at typed
          obtain ⟨rfl, -⟩ := typed
          simp only [old, Value.wire, IntType.length_wire] at fits ⊢
          refine ⟨_, unserializeArg_integer_of_le old bounded fits, ?_⟩
          simp only [assign_store_self]
          exact (IntType.wire_ofWire build (length_slice fits)).2
  | string =>
      cases old : frame.store name with
      | integer => simp [old, HasType] at typed
      | chars => simp [old, HasType] at typed
      | text bytes =>
          obtain ⟨type, count⟩ := length bytes old
          simp only [old, Value.wire] at fits ⊢
          refine ⟨_, unserializeArg_string_of_le old count bounded fits rfl,
            ?_⟩
          simp only [assign_store_self]

/-- A string gets the length that the variable for it holds. -/
theorem unserializeArg_string_length
    {name : String} {old : List UInt8} {type : IntType} {count : Nat}
    (typed : frame.store name = .text old)
    (length : frame.store (nameLength name) = .integer type count)
    (bounded : frame.buffer.length + count < 2 ^ build.sizeBits)
    (inside : frame.bufferIdx ≤ frame.buffer.length)
    (ran :
      exec build (fun _ => true) (unserializeArg ⟨.string, name⟩) frame =
        .running final) :
    ∃ bytes, final.store name = .text bytes ∧ bytes.length = count := by
  by_cases fits : frame.bufferIdx + count ≤ frame.buffer.length
  · rw [unserializeArg_string_of_le typed length (by omega) fits rfl] at ran
    cases ran
    exact ⟨_, assign_store_self _ _ _, length_slice fits⟩
  · rw [unserializeArg_string_of_lt typed length (by omega) (by omega) rfl]
      at ran
    cases ran
    exact ⟨_, assign_store_self _ _ _, length_resized count old⟩

end

/-! ## The field behind them -/

theorem wireFormat_append
    {build : Build} (first second : List Arg) (store : Store) :
    wireFormat build (first ++ second) store =
      wireFormat build first store ++ wireFormat build second store := by
  rw [wireFormat, List.flatMap_append]
  rfl

theorem length_wire_le
    {build : Build} {args : List Arg} {arg : Arg} (member : arg ∈ args)
    (store : Store) :
    ((store arg.name).wire build).length ≤
      (wireFormat build args store).length := by
  obtain ⟨front, behind, rfl⟩ := List.append_of_mem member
  rw [wireFormat_append, wireFormat_cons]
  simp only [List.length_append]
  omega

/--
Where the variables hold the right values of the first fields, the next field
is read behind them, and later fields leave it as it is.
-/
theorem deserialize_split
    {build : Build} {front behind : List Arg} {arg : Arg} {locals : Store}
    {body : List UInt8} {read : Frame}
    (distinct : ((front ++ arg :: behind).map Arg.name).Nodup)
    (noPointer : ∀ earlier ∈ front, earlier.type ≠ .charPointer)
    (typed : Typed front locals) (consistent : Consistent front locals)
    (bounded : body.length < 2 ^ build.sizeBits)
    (there : wireFormat build front locals <+: body)
    (reads :
      readFields build (fun _ => true) (front ++ arg :: behind) locals body =
        .running read) :
    ∃ final,
      exec build (fun _ => true) (unserializeArg arg)
          ⟨locals, body, (wireFormat build front locals).length⟩ =
        .running final ∧ read.store arg.name = final.store arg.name := by
  have settled :=
    @exec_unserialize_settled build ⟨locals, body, 0⟩ front noPointer typed
      consistent bounded (Nat.zero_le _) there
  rw [readFields, makeCppUnserialize, List.flatMap_append, exec_append,
    List.flatMap_cons] at reads
  rw [makeCppUnserialize] at settled
  rw [settled, Run.andThen, exec_append] at reads
  simp only [Nat.zero_add] at reads
  cases ran :
      exec build (fun _ => true) (unserializeArg arg)
        ⟨locals, body, (wireFormat build front locals).length⟩ with
  | threw =>
      rw [ran] at reads
      cases reads
  | undefined =>
      rw [ran] at reads
      cases reads
  | running final =>
      rw [ran] at reads
      refine ⟨final, rfl, exec_unserialize_other ?_ reads⟩
      rw [List.map_append, List.nodup_append, List.map_cons,
        List.nodup_cons] at distinct
      intro later member same
      exact distinct.2.1.1 (same ▸ List.mem_map_of_mem member)

/--
A string whose length is read later gets the length that the variable happens
to hold.
-/
theorem deserialize_late_length
    {build : Build} {front behind : List Arg} {name : String}
    {values : Store} {type : IntType} {body : List UInt8} {read : Frame}
    (distinct : ((front ++ ⟨.string, name⟩ :: behind).map Arg.name).Nodup)
    (noPointer : ∀ earlier ∈ front, earlier.type ≠ .charPointer)
    (typed : Typed front values) (consistent : Consistent front values)
    (empty : values name = .text [])
    (late : ∀ earlier ∈ front, earlier.name ≠ nameLength name)
    (bounded : body.length + 1 < 2 ^ build.sizeBits)
    (there : wireFormat build front values <+: body)
    (reads :
      readFields build (fun _ => true) (front ++ ⟨.string, name⟩ :: behind)
          (Function.update values (nameLength name) (.integer type 1)) body =
        .running read) :
    read.store name ≠ .text [] := by
  have same :
      Agree front
        (Function.update values (nameLength name) (.integer type 1))
        values :=
    fun earlier member => Function.update_of_ne (late earlier member) _ _
  have otherLength :
      ∀ earlier ∈ front, nameLength earlier.name ≠ nameLength name := by
    intro earlier member equal
    rw [List.map_append, List.nodup_append] at distinct
    exact distinct.2.2 _ (List.mem_map_of_mem member) _
      (List.mem_map_of_mem List.mem_cons_self) (nameLength_injective equal)
  rw [← wireFormat_congr build same] at there
  obtain ⟨final, ran, kept⟩ :=
    deserialize_split distinct noPointer
      (fun earlier member => by
        rw [same earlier member]
        exact typed earlier member)
      (fun earlier member bytes content => by
        rw [same earlier member] at content
        obtain ⟨lengthType, holds⟩ := consistent earlier member bytes content
        refine ⟨lengthType, ?_⟩
        rw [Function.update_of_ne (otherLength earlier member)]
        exact holds)
      (Nat.lt_of_succ_lt bounded) there reads
  obtain ⟨bytes, holds, length⟩ :=
    @unserializeArg_string_length build
      ⟨Function.update values (nameLength name) (.integer type 1), body, _⟩
      final name [] type 1
      (by
        simp only
        rw [Function.update_of_ne (nameLength_ne name).symm, empty])
      (Function.update_self _ _ _) bounded there.length_le ran
  intro isEmpty
  rw [kept, holds, Value.text.injEq] at isEmpty
  rw [isEmpty] at length
  cases length

end LibSklt.PacketGenerator
