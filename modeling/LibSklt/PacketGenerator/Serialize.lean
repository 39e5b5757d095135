import LibSklt.PacketGenerator.Deserialize

/-!
# The generated `Serialize`

`Serialize` swaps every integer in its variable before it writes it.  Without
`_ENABLE` nothing is swapped and the wire format is written.  With it, integers
of at least sixteen bits are still written in the wire format; an integer of
eight bits loses its value, and the string behind a length is resized and
written with the swapped length.
-/

namespace LibSklt.PacketGenerator

open LibSklt.Foundation.MachineWord
open LibSklt.Util
open LibSklt.Util.ByteOrder
open LibSklt.Util.MemoryManager

section

variable {build : Build} {resizes : Nat → Bool}

/-- The fields that `Serialize` writes in the wire format. -/
def Writable (build : Build) (arg : Arg) : Prop :=
  build.enable = false ∨
    ∃ type, arg.type = .integer type ∧ type.bytes ≠ 1

/-- The image that is written for an integer. -/
theorem image_hostToNetwork
    {type : IntType} {value : Int}
    (writable : build.enable = false ∨ type.bytes ≠ 1)
    (inRange : type.InRange value) :
    type.image (type.hostToNetwork build value) =
      type.wire build value := by
  rw [IntType.hostToNetwork_eq_networkToHost]
  rcases writable with disabled | wide
  · rw [IntType.networkToHost_of_disabled disabled inRange, IntType.wire,
      disabled]
    rfl
  · exact IntType.image_networkToHost build wide value

/-- A frame whose cursor stands behind the bytes written so far. -/
def writingFrame (store : Store) (written room : List UInt8) : Frame :=
  ⟨store, written ++ room, written.length⟩

theorem write_writingFrame
    {store : Store} {written room target : List UInt8}
    (fits : target.length ≤ room.length)
    (bounded : written.length + room.length < 2 ^ build.sizeBits) :
    (writingFrame store written room).write build.sizeBits target =
      .running (writingFrame store (written ++ target)
        (room.drop target.length)) := by
  have wrote := writeToBuffer_append fits bounded
  have inside :
      written.length + target.length ≤ (written ++ room).length := by
    rw [List.length_append]
    omega
  rw [← List.length_append] at wrote
  rw [Frame.write, writingFrame, wrote]
  simp only [if_pos inside]
  rfl

theorem resized_length (bytes : List UInt8) :
    resized bytes.length bytes = bytes := by
  simp [resized]

/-- What is done for an integer. -/
theorem serializeArg_integer
    {frame : Frame} {name : String} {type : IntType} {value : Int}
    (holds : frame.store name = .integer type value)
    (declared : IntType) :
    exec build resizes (serializeArg ⟨.integer declared, name⟩) frame =
      (frame.assign name
          (.integer type (type.hostToNetwork build value))).write
        build.sizeBits
        (type.image (type.hostToNetwork build value)) := by
  simp only [serializeArg, exec, Statement.exec, holds, Run.andThen,
    assign_store_self]
  exact andThen_running _

/-- What is done for a string, by its length in `size_t`. -/
theorem serializeArg_string
    {frame : Frame} {name : String} {bytes : List UInt8}
    {type : IntType} {value : Int}
    (holds : frame.store name = .text bytes)
    (length : frame.store (nameLength name) = .integer type value)
    (succeeds : ∀ count, resizes count = true) :
    exec build resizes (serializeArg ⟨.string, name⟩) frame =
      (frame.assign name
          (.text (resized (unsignedCast build.sizeBits value)
            bytes))).write
        build.sizeBits
        (resized (unsignedCast build.sizeBits value) bytes) := by
  have whole :=
    length_resized (unsignedCast build.sizeBits value) bytes
  have other :=
    assign_store_of_ne frame
      (.text (resized (unsignedCast build.sizeBits value) bytes))
      (nameLength_ne name)
  simp only [serializeArg, exec, Statement.exec, holds, length, succeeds,
    if_true, Run.andThen, assign_store_self, other, whole, Nat.le_refl]
  rw [List.take_of_length_le whole.le]
  exact andThen_running _

/-- One field that is written in the wire format. -/
theorem serializeArg_wire
    (written room : List UInt8) {store : Store} {arg : Arg}
    (writable : Writable build arg)
    (noPointer : arg.type ≠ .charPointer)
    (typed : HasType arg.type (store arg.name))
    (length :
      ∀ bytes, store arg.name = .text bytes →
        ∃ type, store (nameLength arg.name) = .integer type bytes.length)
    (succeeds : ∀ count, resizes count = true)
    (fits : ((store arg.name).wire build).length ≤ room.length)
    (bounded : written.length + room.length < 2 ^ build.sizeBits) :
    ∃ next : Store,
      exec build resizes (serializeArg arg)
          (writingFrame store written room) =
        .running (writingFrame next
          (written ++ (store arg.name).wire build)
          (room.drop ((store arg.name).wire build).length)) ∧
        (∀ name, name ≠ arg.name → next name = store name) ∧
          (build.enable = false → next = store) := by
  obtain ⟨type, name⟩ := arg
  cases type with
  | charPointer => simp at noPointer
  | integer type =>
      cases holds : store name with
      | text => simp [holds, HasType] at typed
      | chars => simp [holds, HasType] at typed
      | integer valueType value =>
          simp only [holds, HasType] at typed
          obtain ⟨rfl, inRange⟩ := typed
          have writable' :
              build.enable = false ∨ valueType.bytes ≠ 1 := by
            rcases writable with disabled | ⟨type, same, wide⟩
            · exact Or.inl disabled
            · cases same
              exact Or.inr wide
          have start :
              (writingFrame store written room).store name =
                .integer valueType value :=
            holds
          simp only [holds, Value.wire] at fits ⊢
          refine ⟨Function.update store name
            (.integer valueType (valueType.hostToNetwork build value)),
            ?_, ?_, ?_⟩
          · rw [serializeArg_integer start,
              image_hostToNetwork writable' inRange]
            exact write_writingFrame fits bounded
          · intro other different
            exact Function.update_of_ne different _ _
          · intro disabled
            rw [IntType.hostToNetwork_eq_networkToHost,
              IntType.networkToHost_of_disabled disabled inRange, ← holds,
              Function.update_eq_self]
  | string =>
      cases holds : store name with
      | integer => simp [holds, HasType] at typed
      | chars => simp [holds, HasType] at typed
      | text bytes =>
          obtain ⟨type, count⟩ := length bytes holds
          simp only [holds, Value.wire] at fits ⊢
          have start :
              (writingFrame store written room).store name = .text bytes :=
            holds
          refine ⟨store, ?_, fun _ _ => rfl, fun _ => rfl⟩
          rw [serializeArg_string start count succeeds,
            unsignedCast_of_lt (by omega), resized_length, Frame.assign,
            ← start, Function.update_eq_self]
          exact write_writingFrame fits bounded

theorem makeCppSerialize_cons (arg : Arg) (args : List Arg) :
    makeCppSerialize (arg :: args) =
      serializeArg arg ++ makeCppSerialize args := by
  rw [makeCppSerialize, List.flatMap_cons]
  rfl

theorem wireFormat_congr
    (build : Build) {args : List Arg} {first second : Store}
    (agree : Agree args first second) :
    wireFormat build args first = wireFormat build args second := by
  apply List.flatMap_congr
  intro arg member
  rw [agree arg member]

/-- `Serialize` of fields that are written in the wire format. -/
theorem exec_serialize_wireFormat
    (written room : List UInt8) {args : List Arg} {store : Store}
    (writable : ∀ arg ∈ args, Writable build arg)
    (noPointer : ∀ arg ∈ args, arg.type ≠ .charPointer)
    (distinct : (args.map Arg.name).Nodup)
    (typed : Typed args store) (consistent : Consistent args store)
    (succeeds : ∀ count, resizes count = true)
    (fits : (wireFormat build args store).length ≤ room.length)
    (bounded : written.length + room.length < 2 ^ build.sizeBits) :
    ∃ next : Store,
      exec build resizes (makeCppSerialize args)
          (writingFrame store written room) =
        .running (writingFrame next
          (written ++ wireFormat build args store)
          (room.drop (wireFormat build args store).length)) := by
  induction args generalizing store written room with
  | nil =>
      refine ⟨store, ?_⟩
      simp [makeCppSerialize, wireFormat, exec]
  | cons arg args inductionHypothesis =>
      obtain ⟨new, distinctRest⟩ := List.nodup_cons.mp distinct
      rw [wireFormat_cons, List.length_append] at fits
      obtain ⟨next, runs, others, disabledSame⟩ :=
        serializeArg_wire written room (writable arg List.mem_cons_self)
          (noPointer arg List.mem_cons_self) (typed arg List.mem_cons_self)
          (consistent arg List.mem_cons_self) succeeds (by omega) bounded
      have agree : Agree args next store := by
        intro later member
        apply others
        intro same
        exact new (List.mem_map.mpr ⟨later, member, same⟩)
      have nextTyped : Typed args next := by
        intro later member
        rw [agree later member]
        exact typed later (List.mem_cons_of_mem _ member)
      have nextConsistent : Consistent args next := by
        intro later member bytes text
        rw [agree later member] at text
        obtain ⟨type, count⟩ :=
          consistent later (List.mem_cons_of_mem _ member) bytes text
        refine ⟨type, ?_⟩
        -- A field with a text is a string: then nothing was swapped.
        rcases writable later (List.mem_cons_of_mem _ member) with
          disabled | ⟨integerType, isInteger, -⟩
        · rw [disabledSame disabled, count]
        · have isString := typed later (List.mem_cons_of_mem _ member)
          rw [text] at isString
          rw [isString.eq_string] at isInteger
          cases isInteger
      have same := wireFormat_congr build agree
      obtain ⟨final, finishes⟩ :=
        inductionHypothesis (written ++ (store arg.name).wire build)
          (room.drop ((store arg.name).wire build).length)
          (fun later member => writable later (List.mem_cons_of_mem _ member))
          (fun later member =>
            noPointer later (List.mem_cons_of_mem _ member))
          distinctRest nextTyped nextConsistent
          (by rw [same, List.length_drop]; omega)
          (by rw [List.length_append, List.length_drop]; omega)
      refine ⟨final, ?_⟩
      rw [makeCppSerialize_cons, exec_append, runs]
      simp only [Run.andThen]
      rw [finishes, same, wireFormat_cons, List.append_assoc,
        List.drop_drop, List.length_append]

end

end LibSklt.PacketGenerator
