import LibSklt.PacketGenerator.Emitted

/-!
# The generated `Deserialize`

`Deserialize` reads on after a failed read, at the same cursor.  For a list of
fields in which each string stands behind its length it still holds that
either every read fitted, and the bytes from the first to the last cursor are
the wire format of the variables, or the sizes of the fields, by the variables
as they are in the end, reach behind the buffer.
-/

namespace LibSklt.PacketGenerator

open LibSklt.Foundation.MachineWord
open LibSklt.Util
open LibSklt.Util.ByteOrder
open LibSklt.Util.MemoryManager

/-! ## Variables -/

theorem nameLength_ne (name : String) : nameLength name ≠ name := by
  intro same
  have length := congrArg String.length same
  simp [nameLength] at length

section

variable {build : Build} {resizes : Nat → Bool}

@[simp]
theorem assign_store_self (frame : Frame) (name : String) (value : Value) :
    (frame.assign name value).store name = value := by
  simp [Frame.assign]

theorem assign_store_of_ne
    (frame : Frame) {name other : String} (value : Value)
    (different : other ≠ name) :
    (frame.assign name value).store other = frame.store other := by
  simp [Frame.assign, different]

@[simp]
theorem assign_buffer (frame : Frame) (name : String) (value : Value) :
    (frame.assign name value).buffer = frame.buffer :=
  rfl

@[simp]
theorem assign_bufferIdx (frame : Frame) (name : String) (value : Value) :
    (frame.assign name value).bufferIdx = frame.bufferIdx :=
  rfl

theorem assign_assign (frame : Frame) (name : String) (first second : Value) :
    (frame.assign name first).assign name second =
      frame.assign name second := by
  simp [Frame.assign]

theorem exec_append (first second : List Statement) (frame : Frame) :
    exec build resizes (first ++ second) frame =
      (exec build resizes first frame).andThen
        (exec build resizes second) := by
  induction first generalizing frame with
  | nil => rfl
  | cons statement statements inductionHypothesis =>
      rw [List.cons_append, exec, exec]
      cases statement.exec build resizes frame with
      | running next => exact inductionHypothesis next
      | threw => rfl
      | undefined => rfl

@[simp]
theorem andThen_running (run : Run) : run.andThen .running = run := by
  cases run <;> rfl

theorem write_ne_threw (frame : Frame) (target : List UInt8) :
    frame.write build.sizeBits target ≠ .threw := by
  rw [Frame.write]
  split
  · split <;> simp
  · simp

theorem read_ne_threw
    (frame : Frame) (name : String) (value : List UInt8 → Value)
    (count : Nat) :
    frame.read build.sizeBits name value count ≠ .threw := by
  rw [Frame.read]
  split
  · split <;> simp
  · simp

/-- Nothing but `resize` throws. -/
theorem Statement.exec_threw
    {statement : Statement} {frame : Frame}
    (threw : statement.exec build resizes frame = .threw) :
    ∃ count, resizes count = false := by
  cases statement with
  | resize name length =>
      simp only [Statement.exec] at threw
      split at threw
      · split at threw
        case isTrue => cases threw
        case isFalse throws =>
          exact ⟨_, Bool.eq_false_of_not_eq_true throws⟩
      · cases threw
  | hostToNetwork | networkToHost =>
      simp only [Statement.exec] at threw
      split at threw <;> cases threw
  | writeValue =>
      simp only [Statement.exec] at threw
      split at threw
      · exact absurd threw (write_ne_threw _ _)
      · cases threw
  | readValue =>
      simp only [Statement.exec] at threw
      split at threw
      · exact absurd threw (read_ne_threw _ _ _ _)
      · cases threw
  | writeText | writeChars =>
      simp only [Statement.exec] at threw
      split at threw
      · split at threw
        · exact absurd threw (write_ne_threw _ _)
        · cases threw
      · cases threw
  | readText | readChars =>
      simp only [Statement.exec] at threw
      split at threw
      · split at threw
        · exact absurd threw (read_ne_threw _ _ _ _)
        · cases threw
      · cases threw

theorem exec_threw
    {statements : List Statement} {frame : Frame}
    (threw : exec build resizes statements frame = .threw) :
    ∃ count, resizes count = false := by
  induction statements generalizing frame with
  | nil => cases threw
  | cons statement statements inductionHypothesis =>
      rw [exec] at threw
      cases ran : statement.exec build resizes frame with
      | running next =>
          rw [ran] at threw
          exact inductionHypothesis threw
      | threw => exact Statement.exec_threw ran
      | undefined =>
          rw [ran] at threw
          cases threw

/-! ## One field -/

/-- The bytes at the cursor. -/
def slice (frame : Frame) (count : Nat) : List UInt8 :=
  (frame.buffer.drop frame.bufferIdx).take count

theorem length_slice
    {frame : Frame} {count : Nat}
    (fits : frame.bufferIdx + count ≤ frame.buffer.length) :
    (slice frame count).length = count := by
  rw [slice, List.length_take, List.length_drop]
  omega

theorem read_of_le
    (build : Build) {frame : Frame} {count : Nat}
    (bounded : frame.buffer.length < 2 ^ build.sizeBits)
    (fits : frame.bufferIdx + count ≤ frame.buffer.length)
    (name : String) (value : List UInt8 → Value) :
    frame.read build.sizeBits name value count =
      .running
        { frame.assign name (value (slice frame count)) with
          bufferIdx := frame.bufferIdx + count } := by
  rw [Frame.read, readFromBuffer_of_le fits bounded]
  simp only [if_pos fits]
  rfl

theorem read_of_lt
    (build : Build) {frame : Frame} {count : Nat}
    (bounded : frame.bufferIdx + count < 2 ^ build.sizeBits)
    (short : frame.buffer.length < frame.bufferIdx + count)
    (name : String) (value : List UInt8 → Value) :
    frame.read build.sizeBits name value count = .running frame := by
  rw [Frame.read, readFromBuffer_of_lt short bounded]

/-- An integer field that lies in the buffer. -/
theorem unserializeArg_integer_of_le
    {frame : Frame} {type : IntType} {name : String} {old : Int}
    (typed : frame.store name = .integer type old)
    (bounded : frame.buffer.length < 2 ^ build.sizeBits)
    (fits : frame.bufferIdx + type.bytes ≤ frame.buffer.length) :
    exec build resizes (unserializeArg ⟨.integer type, name⟩) frame =
      .running
        { frame.assign name
            (.integer type (type.ofWire build (slice frame type.bytes)))
          with bufferIdx := frame.bufferIdx + type.bytes } := by
  have read :=
    read_of_le build bounded fits name
      fun bytes => .integer type (type.ofImage bytes)
  rw [unserializeArg, IntType.ofWire]
  by_cases single : type = .uint8 ∨ type = .int8
  · have oneByte : type.bytes = 1 := by
      rcases single with rfl | rfl
      · rfl
      · rfl
    rw [if_pos oneByte]
    simp only [if_pos single, exec, Statement.exec, typed, Run.andThen, read]
  · have wide : type.bytes ≠ 1 := by
      cases type <;> simp [IntType.bytes] at single ⊢
    rw [if_neg wide]
    simp only [if_neg single, exec, Statement.exec, typed, Run.andThen, read,
      assign_store_self]
    simp [Frame.assign]

/--
What an integer variable holds after a read that did not fit: the swap runs
on what it held before.
-/
def keptValue (build : Build) (type : IntType) (old : Int) : Int :=
  if type = .uint8 ∨ type = .int8 then old else type.networkToHost build old

/-- An integer field that reaches behind the buffer. -/
theorem unserializeArg_integer_kept
    {frame : Frame} {type : IntType} {name : String} {old : Int}
    (typed : frame.store name = .integer type old)
    (bounded : frame.bufferIdx + type.bytes < 2 ^ build.sizeBits)
    (short : frame.buffer.length < frame.bufferIdx + type.bytes) :
    exec build resizes (unserializeArg ⟨.integer type, name⟩) frame =
      .running
        (frame.assign name (.integer type (keptValue build type old))) := by
  have read :=
    read_of_lt build bounded short name
      fun bytes => .integer type (type.ofImage bytes)
  rw [unserializeArg, keptValue]
  by_cases single : type = .uint8 ∨ type = .int8
  · have unchanged : frame.assign name (.integer type old) = frame := by
      rw [Frame.assign, ← typed, Function.update_eq_self]
    rw [if_pos single, unchanged]
    simp only [if_pos single, exec, Statement.exec, typed, Run.andThen, read]
  · rw [if_neg single]
    simp only [if_neg single, exec, Statement.exec, typed, Run.andThen, read]

theorem inRange_keptValue
    {type : IntType} {old : Int} (inRange : type.InRange old) :
    type.InRange (keptValue build type old) := by
  rw [keptValue]
  split
  · exact inRange
  · exact IntType.inRange_networkToHost build type old

theorem length_resized (count : Nat) (bytes : List UInt8) :
    (resized count bytes).length = count := by
  rw [resized, List.length_append, List.length_take, List.length_replicate]
  omega

section

variable {frame : Frame} {name : String} {old : List UInt8}
  {type : IntType}

/-- A string whose length is too much for `resize`. -/
theorem unserializeArg_string_of_throws
    {value : Int} (typed : frame.store name = .text old)
    (length : frame.store (nameLength name) = .integer type value)
    (throws : resizes (unsignedCast build.sizeBits value) = false) :
    exec build resizes (unserializeArg ⟨.string, name⟩) frame = .threw := by
  simp [unserializeArg, exec, Statement.exec, typed, length, throws,
    Run.andThen]

/-- A string field, after `resize` succeeded. -/
theorem unserializeArg_string
    {value : Int} (typed : frame.store name = .text old)
    (length : frame.store (nameLength name) = .integer type value)
    (succeeds : resizes (unsignedCast build.sizeBits value) = true) :
    exec build resizes (unserializeArg ⟨.string, name⟩) frame =
      (frame.assign name
          (.text (resized (unsignedCast build.sizeBits value) old))).read
        build.sizeBits name (fun bytes => .text bytes)
        (unsignedCast build.sizeBits value) := by
  have other :=
    assign_store_of_ne frame
      (.text (resized (unsignedCast build.sizeBits value) old))
      (nameLength_ne name)
  have whole := length_resized (unsignedCast build.sizeBits value) old
  simp only [unserializeArg, exec, Statement.exec, typed, length, succeeds,
    Run.andThen, if_true, other, assign_store_self, whole, Nat.le_refl]
  rw [List.drop_of_length_le whole.le]
  simp only [List.append_nil]
  exact andThen_running _

variable {count : Nat}

theorem unserializeArg_string_of_le
    (typed : frame.store name = .text old)
    (length : frame.store (nameLength name) = .integer type count)
    (bounded : frame.buffer.length < 2 ^ build.sizeBits)
    (fits : frame.bufferIdx + count ≤ frame.buffer.length)
    (succeeds : resizes count = true) :
    exec build resizes (unserializeArg ⟨.string, name⟩) frame =
      .running
        { frame.assign name (.text (slice frame count)) with
          bufferIdx := frame.bufferIdx + count } := by
  have same : unsignedCast build.sizeBits count = count :=
    unsignedCast_of_lt (by omega)
  rw [unserializeArg_string typed length (by rw [same]; exact succeeds),
    same, read_of_le build (by exact bounded) (by exact fits), assign_assign]
  rfl

theorem unserializeArg_string_of_lt
    (typed : frame.store name = .text old)
    (length : frame.store (nameLength name) = .integer type count)
    (bounded : frame.bufferIdx + count < 2 ^ build.sizeBits)
    (short : frame.buffer.length < frame.bufferIdx + count)
    (succeeds : resizes count = true) :
    exec build resizes (unserializeArg ⟨.string, name⟩) frame =
      .running (frame.assign name (.text (resized count old))) := by
  have same : unsignedCast build.sizeBits count = count :=
    unsignedCast_of_lt (by omega)
  rw [unserializeArg_string typed length (by rw [same]; exact succeeds),
    same, read_of_lt build (by exact bounded) (by exact short)]

end

/-! ## Lists of fields -/

/--
Every string stands behind an integer field with its length, of one of the
given types; `before` are the fields in front of the list.
-/
def StringsBehindLengths (lengths : IntType → Prop) :
    List Arg → List Arg → Prop
  | _, [] => True
  | before, arg :: args =>
      (arg.type ≠ .charPointer ∧
        (arg.type = .string →
          ∃ type, lengths type ∧
            ⟨.integer type, nameLength arg.name⟩ ∈ before)) ∧
        StringsBehindLengths lengths (arg :: before) args

theorem Schema.stringsBehindLengths
    {lengths : IntType → Prop} {args : List Arg}
    (schema : Schema lengths args) (before : List Arg) :
    StringsBehindLengths lengths before args := by
  induction schema generalizing before with
  | nil => trivial
  | integer type name rest inductionHypothesis =>
      exact ⟨⟨by simp, by simp⟩, inductionHypothesis _⟩
  | string allowed name rest inductionHypothesis =>
      refine ⟨⟨by simp, by simp⟩, ⟨by simp, fun _ => ?_⟩,
        inductionHypothesis _⟩
      exact ⟨_, allowed, List.mem_cons_self⟩

/-- The length of a string is one of the fields. -/
theorem StringsBehindLengths.length_mem
    {lengths : IntType → Prop} {before args : List Arg}
    (schema : StringsBehindLengths lengths before args) :
    ∀ arg ∈ args, arg.type ≠ .charPointer ∧
      (arg.type = .string →
        ∃ type, lengths type ∧
          ⟨.integer type, nameLength arg.name⟩ ∈ args ++ before) := by
  induction args generalizing before with
  | nil =>
      intro arg member
      simp at member
  | cons first args inductionHypothesis =>
      obtain ⟨⟨noPointer, behind⟩, rest⟩ := schema
      intro arg member
      rcases List.mem_cons.mp member with rfl | among
      · refine ⟨noPointer, fun isString => ?_⟩
        obtain ⟨type, allowed, inFront⟩ := behind isString
        exact ⟨type, allowed, List.mem_append_right _ inFront⟩
      · obtain ⟨noPointer', behind'⟩ := inductionHypothesis rest arg among
        refine ⟨noPointer', fun isString => ?_⟩
        obtain ⟨type, allowed, inFront⟩ := behind' isString
        refine ⟨type, allowed, ?_⟩
        simp only [List.mem_append, List.mem_cons] at inFront ⊢
        tauto

theorem Schema.noPointer
    {lengths : IntType → Prop} {args : List Arg}
    (schema : Schema lengths args) :
    ∀ arg ∈ args, arg.type ≠ .charPointer :=
  fun arg member =>
    ((schema.stringsBehindLengths []).length_mem arg member).1

theorem Agree.typed
    {args : List Arg} {first second : Store}
    (agree : Agree args first second) (typed : Typed args second) :
    Typed args first := by
  intro arg member
  rw [agree arg member]
  exact typed arg member

/-- The names of the list are new, and no two of its fields share one. -/
structure Fresh (before args : List Arg) : Prop where
  distinct : (args.map Arg.name).Nodup
  new : ∀ arg ∈ args, ∀ earlier ∈ before, arg.name ≠ earlier.name

theorem Fresh.tail
    {before args : List Arg} {arg : Arg}
    (fresh : Fresh before (arg :: args)) : Fresh (arg :: before) args := by
  have distinct := List.nodup_cons.mp fresh.distinct
  refine ⟨distinct.2, fun later member earlier among => ?_⟩
  rcases List.mem_cons.mp among with rfl | among
  · intro same
    exact distinct.1 (List.mem_map.mpr ⟨later, member, same⟩)
  · exact fresh.new later (List.mem_cons_of_mem _ member) earlier among

/-- The name of the first field does not come back. -/
theorem Fresh.head_ne
    {before args : List Arg} {arg : Arg}
    (fresh : Fresh before (arg :: args)) :
    ∀ later ∈ args, later.name ≠ arg.name := by
  intro later member
  exact fresh.tail.new later member arg List.mem_cons_self

/-- The frame after a field was read that holds the given value. -/
def Frame.advance (frame : Frame) (name : String) (value : Value)
    (count : Nat) : Frame :=
  { frame.assign name value with bufferIdx := frame.bufferIdx + count }

theorem slice_of_prefix
    {frame : Frame} {bytes : List UInt8}
    (there : bytes <+: frame.buffer.drop frame.bufferIdx) :
    slice frame bytes.length = bytes := by
  obtain ⟨behind, split⟩ := there
  rw [slice, ← split, List.take_left]

theorem le_of_isPrefix
    {frame : Frame} {bytes : List UInt8}
    (inside : frame.bufferIdx ≤ frame.buffer.length)
    (there : bytes <+: frame.buffer.drop frame.bufferIdx) :
    frame.bufferIdx + bytes.length ≤ frame.buffer.length := by
  have bounded := there.length_le
  rw [List.length_drop] at bounded
  omega

/-- A field whose wire format stands at the cursor. -/
theorem unserializeArg_wire
    {frame : Frame} {arg : Arg} {value : Value}
    (noPointer : arg.type ≠ .charPointer)
    (typed : HasType arg.type value)
    (target : HasType arg.type (frame.store arg.name))
    (length :
      ∀ bytes, value = .text bytes →
        ∃ type,
          frame.store (nameLength arg.name) = .integer type bytes.length)
    (bounded : frame.buffer.length < 2 ^ build.sizeBits)
    (inside : frame.bufferIdx ≤ frame.buffer.length)
    (there : value.wire build <+: frame.buffer.drop frame.bufferIdx) :
    exec build resizes (unserializeArg arg) frame = .threw ∨
      exec build resizes (unserializeArg arg) frame =
        .running (frame.advance arg.name value
          (value.wire build).length) := by
  obtain ⟨type, name⟩ := arg
  have fits := le_of_isPrefix inside there
  have here := slice_of_prefix there
  cases type with
  | charPointer => simp at noPointer
  | integer type =>
      right
      cases value with
      | text => simp [HasType] at typed
      | chars => simp [HasType] at typed
      | integer valueType number =>
          obtain ⟨rfl, inRange⟩ := typed
          cases old : frame.store name with
          | text => simp [old, HasType] at target
          | chars => simp [old, HasType] at target
          | integer oldType oldNumber =>
              have oldType' : oldType = valueType := by
                simp only [old, HasType] at target
                exact target.1
              subst oldType
              simp only [Value.wire, IntType.length_wire] at here fits
              rw [unserializeArg_integer_of_le old bounded fits, here,
                IntType.ofWire_wire build inRange]
              simp only [Frame.advance, Value.wire, IntType.length_wire]
  | string =>
      cases value with
      | integer => simp [HasType] at typed
      | chars => simp [HasType] at typed
      | text bytes =>
          cases old : frame.store name with
          | integer => simp [old, HasType] at target
          | chars => simp [old, HasType] at target
          | text oldBytes =>
              obtain ⟨type, count⟩ := length bytes rfl
              simp only [Value.wire] at here fits
              cases succeeds : resizes bytes.length with
              | false =>
                  left
                  refine unserializeArg_string_of_throws old count ?_
                  rw [unsignedCast_of_lt (by omega)]
                  exact succeeds
              | true =>
                  right
                  rw [unserializeArg_string_of_le old count bounded fits
                    succeeds, here]
                  rfl

theorem makeCppUnserialize_cons (arg : Arg) (args : List Arg) :
    makeCppUnserialize (arg :: args) =
      unserializeArg arg ++ makeCppUnserialize args := by
  rw [makeCppUnserialize, List.flatMap_cons]
  rfl

theorem wireFormat_cons (arg : Arg) (args : List Arg) (store : Store) :
    wireFormat build (arg :: args) store =
      (store arg.name).wire build ++ wireFormat build args store := by
  rw [wireFormat, List.flatMap_cons]
  rfl

@[simp]
theorem advance_store_self
    (frame : Frame) (name : String) (value : Value) (count : Nat) :
    (frame.advance name value count).store name = value :=
  assign_store_self frame name value

theorem advance_store_of_ne
    (frame : Frame) {name other : String} (value : Value) (count : Nat)
    (different : other ≠ name) :
    (frame.advance name value count).store other = frame.store other :=
  assign_store_of_ne frame value different

section

variable {before args : List Arg} {arg : Arg}

/-- Reading the first field leaves the fields behind it alone. -/
theorem Fresh.advance_later
    (fresh : Fresh before (arg :: args)) (frame : Frame) (value : Value)
    (count : Nat) {later : Arg} (member : later ∈ args) :
    (frame.advance arg.name value count).store later.name =
      frame.store later.name :=
  advance_store_of_ne _ _ _ (fresh.head_ne later member)

/-- It leaves the fields in front of it alone, too. -/
theorem Fresh.advance_earlier
    (fresh : Fresh before (arg :: args)) (frame : Frame) (value : Value)
    (count : Nat) {earlier : Arg} (member : earlier ∈ before) :
    (frame.advance arg.name value count).store earlier.name =
      frame.store earlier.name :=
  advance_store_of_ne _ _ _
    (fresh.new arg List.mem_cons_self earlier member).symm

theorem Fresh.typed_later
    (fresh : Fresh before (arg :: args)) {frame : Frame}
    (targets : Typed (arg :: args) frame.store) (value : Value)
    (count : Nat) : Typed args (frame.advance arg.name value count).store := by
  intro later member
  rw [fresh.advance_later frame value count member]
  exact targets later (List.mem_cons_of_mem _ member)

theorem Fresh.typed_read
    (fresh : Fresh before (arg :: args)) {frame : Frame}
    (known : Typed before frame.store) {value : Value}
    (typed : HasType arg.type value) (count : Nat) :
    Typed (arg :: before) (frame.advance arg.name value count).store := by
  intro earlier member
  rcases List.mem_cons.mp member with rfl | among
  · rw [advance_store_self]
    exact typed
  · rw [fresh.advance_earlier frame value count among]
    exact known earlier among

theorem Fresh.agree_read
    (fresh : Fresh before (arg :: args)) {frame : Frame} {values : Store}
    (known : Agree before frame.store values) (count : Nat) :
    Agree (arg :: before)
      (frame.advance arg.name (values arg.name) count).store values := by
  intro earlier member
  rcases List.mem_cons.mp member with rfl | among
  · exact advance_store_self _ _ _ _
  · rw [fresh.advance_earlier _ _ _ among]
    exact known earlier among

end

theorem HasType.eq_string
    {type : CppType} {bytes : List UInt8}
    (typed : HasType type (.text bytes)) : type = .string := by
  cases type with
  | integer => simp [HasType] at typed
  | string => rfl
  | charPointer => simp [HasType] at typed

/-- What a function that runs over the fields does not change. -/
structure Untouched (args : List Arg) (frame final : Frame) : Prop where
  buffer : final.buffer = frame.buffer
  store :
    ∀ name, (∀ arg ∈ args, arg.name ≠ name) →
      final.store name = frame.store name

theorem Untouched.cons
    {arg : Arg} {args : List Arg} {frame final : Frame} {value : Value}
    {count : Nat}
    (untouched : Untouched args (frame.advance arg.name value count) final) :
    Untouched (arg :: args) frame final where
  buffer := untouched.buffer
  store name unnamed := by
    rw [untouched.store name fun later member =>
        unnamed later (List.mem_cons_of_mem _ member)]
    exact advance_store_of_ne _ _ _ (unnamed arg List.mem_cons_self).symm

/-- The first field keeps its value while the others are read. -/
theorem Fresh.store_head
    {before args : List Arg} {arg : Arg} {frame final : Frame}
    {value : Value} {count : Nat} (fresh : Fresh before (arg :: args))
    (untouched : Untouched args (frame.advance arg.name value count) final) :
    final.store arg.name = value := by
  rw [untouched.store _ fresh.head_ne]
  exact advance_store_self _ _ _ _

/-- Behind the first field stand the others. -/
theorem wireFormat_tail_isPrefix
    {arg : Arg} {args : List Arg} {values : Store} {buffer : List UInt8}
    {position : Nat}
    (there :
      (values arg.name).wire build ++ wireFormat build args values <+:
        buffer.drop position) :
    wireFormat build args values <+:
      buffer.drop (position + ((values arg.name).wire build).length) := by
  obtain ⟨behind, split⟩ := there
  rw [← List.drop_drop, ← split, List.append_assoc, List.drop_left]
  exact List.prefix_append _ _

/-- The length of a string has been read before the string. -/
theorem exists_length_read
    {lengths : IntType → Prop} {before args : List Arg} {arg : Arg}
    {values store : Store}
    (typed : Typed (arg :: args) values)
    (consistent : Consistent (arg :: args) values)
    (known : Agree before store values)
    (behind :
      arg.type = .string →
        ∃ type, lengths type ∧
          ⟨.integer type, nameLength arg.name⟩ ∈ before)
    {bytes : List UInt8} (text : values arg.name = .text bytes) :
    ∃ type, store (nameLength arg.name) = .integer type bytes.length := by
  have ofType := typed arg List.mem_cons_self
  rw [text] at ofType
  obtain ⟨type, holds⟩ := consistent arg List.mem_cons_self bytes text
  obtain ⟨lengthType, -, among⟩ := behind ofType.eq_string
  refine ⟨type, ?_⟩
  rw [← holds]
  exact known _ among

/-- `Deserialize` on the wire format of the fields. -/
theorem exec_unserialize_wireFormat
    {lengths : IntType → Prop} {before args : List Arg}
    {values : Store} {frame : Frame}
    (schema : StringsBehindLengths lengths before args)
    (fresh : Fresh before args)
    (typed : Typed args values) (consistent : Consistent args values)
    (targets : Typed args frame.store)
    (known : Agree before frame.store values)
    (bounded : frame.buffer.length < 2 ^ build.sizeBits)
    (inside : frame.bufferIdx ≤ frame.buffer.length)
    (there :
      wireFormat build args values <+:
        frame.buffer.drop frame.bufferIdx) :
    exec build resizes (makeCppUnserialize args) frame = .threw ∨
      ∃ final,
        exec build resizes (makeCppUnserialize args) frame =
            .running final ∧
          final.bufferIdx =
              frame.bufferIdx + (wireFormat build args values).length ∧
            Untouched args frame final ∧ Agree args final.store values := by
  induction args generalizing before frame with
  | nil =>
      right
      refine ⟨frame, rfl, by simp [wireFormat], ⟨rfl, fun _ _ => rfl⟩, ?_⟩
      intro arg member
      simp at member
  | cons arg args inductionHypothesis =>
      obtain ⟨⟨noPointer, behind⟩, rest⟩ := schema
      rw [makeCppUnserialize_cons, exec_append]
      rw [wireFormat_cons] at there ⊢
      have here :
          (values arg.name).wire build <+:
            frame.buffer.drop frame.bufferIdx :=
        (List.prefix_append _ _).trans there
      rcases unserializeArg_wire noPointer
          (typed arg List.mem_cons_self) (targets arg List.mem_cons_self)
          (fun _ => exists_length_read typed consistent known behind)
          bounded inside here with threw | runs
      · left
        rw [threw]
        rfl
      · rw [runs]
        rcases inductionHypothesis rest fresh.tail
            (fun later member => typed later (List.mem_cons_of_mem _ member))
            (fun later member =>
              consistent later (List.mem_cons_of_mem _ member))
            (fresh.typed_later targets _ _) (fresh.agree_read known _) bounded
            (le_of_isPrefix inside here) (wireFormat_tail_isPrefix there) with
          threw | ⟨final, finishes, moved, untouched, agree⟩
        · left
          exact threw
        · right
          refine ⟨final, finishes, ?_, untouched.cons, ?_⟩
          · rw [moved, List.length_append, ← Nat.add_assoc]
            rfl
          · intro field member
            rcases List.mem_cons.mp member with rfl | among
            · exact fresh.store_head untouched
            · exact agree field among

end

end LibSklt.PacketGenerator
