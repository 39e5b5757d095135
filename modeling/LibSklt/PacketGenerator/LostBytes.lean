import LibSklt.PacketGenerator.Serialize

/-!
# Bytes that do not travel

A value whose bytes `Serialize` never writes cannot come out of `Deserialize`:
the reading side copies bytes of the buffer and fills up with zeroes, and the
byte order of an integer does not change which bytes it has.  So one byte that
occurs in a field, and in nothing that is written, refutes a round trip.
-/

namespace LibSklt.PacketGenerator

open LibSklt.Foundation.MachineWord
open LibSklt.Util
open LibSklt.Util.ByteOrder
open LibSklt.Util.MemoryManager

/-- The bytes of a value in memory. -/
def Value.contents : Value → List UInt8
  | .integer type value => type.image value
  | .text bytes => bytes
  | .chars memory => memory

/-- The byte occurs in nothing that `Serialize` writes for the field. -/
def Unwritten (build : Build) (values : Store) (byte : UInt8) (arg : Arg) :
    Prop :=
  match values arg.name with
  | .integer type value =>
      byte ∉ type.image (type.hostToNetwork build value)
  | .text bytes =>
      ∀ type value, values (nameLength arg.name) = .integer type value →
        byte ∉
          resized
            (unsignedCast build.sizeBits (type.hostToNetwork build value))
            bytes
  | .chars _ => True

section

variable {build : Build} {resizes : Nat → Bool} {byte : UInt8}

/-- A write that does not bring the byte into the buffer. -/
theorem write_unwritten
    {frame next : Frame} {target : List UInt8}
    (buffer : byte ∉ frame.buffer) (written : byte ∉ target)
    (ran : frame.write build.sizeBits target = .running next) :
    byte ∉ next.buffer ∧ next.store = frame.store ∧
      next.buffer.length = frame.buffer.length := by
  rw [Frame.write, writeToBuffer] at ran
  by_cases short :
      frame.buffer.length <
        addWord build.sizeBits frame.bufferIdx target.length
  · simp only [if_pos short] at ran
    cases ran
    exact ⟨buffer, rfl, rfl⟩
  · simp only [if_neg short] at ran
    split at ran
    case isFalse => cases ran
    case isTrue inside =>
      cases ran
      refine ⟨?_, rfl, ?_⟩
      · simp only [List.mem_append, not_or]
        exact ⟨⟨fun member => buffer (List.mem_of_mem_take member), written⟩,
          fun member => buffer (List.mem_of_mem_drop member)⟩
      · simp only [List.length_append, List.length_take, List.length_drop]
        omega

/-- The integers in front are swapped already, the rest is as it was. -/
structure Swapping (build : Build) (before args : List Arg)
    (values store : Store) : Prop where
  rest : Agree args store values
  swapped :
    ∀ earlier ∈ before, ∀ type value,
      values earlier.name = .integer type value →
        store earlier.name =
          .integer type (type.hostToNetwork build value)

theorem Swapping.tail
    {before args : List Arg} {arg : Arg} {values store next : Store}
    (swapping : Swapping build before (arg :: args) values store)
    (fresh : Fresh before (arg :: args))
    (others : ∀ name, name ≠ arg.name → next name = store name)
    (here :
      ∀ type value, values arg.name = .integer type value →
        next arg.name = .integer type (type.hostToNetwork build value)) :
    Swapping build (arg :: before) args values next where
  rest later member := by
    rw [others _ (fresh.head_ne later member)]
    exact swapping.rest later (List.mem_cons_of_mem _ member)
  swapped earlier member type value holds := by
    rcases List.mem_cons.mp member with rfl | among
    · exact here type value holds
    · rw [others _
        (fresh.new arg List.mem_cons_self earlier among).symm]
      exact swapping.swapped earlier among type value holds

/-- The statements of a field write something in which the byte is not. -/
theorem serializeArg_unwritten
    {lengths : IntType → Prop} {before args : List Arg} {arg : Arg}
    {values : Store} {frame : Frame}
    (schema : StringsBehindLengths lengths before (arg :: args))
    (typed : HasType arg.type (values arg.name))
    (typedBefore : Typed before values)
    (swapping : Swapping build before (arg :: args) values frame.store)
    (unwritten : Unwritten build values byte arg)
    (succeeds : ∀ count, resizes count = true) :
    ∃ value target,
      exec build resizes (serializeArg arg) frame =
          (frame.assign arg.name value).write build.sizeBits target ∧
        byte ∉ target ∧
          ∀ type number, values arg.name = .integer type number →
            value = .integer type (type.hostToNetwork build number) := by
  obtain ⟨⟨noPointer, behind⟩, -⟩ := schema
  have holds := swapping.rest arg List.mem_cons_self
  obtain ⟨type, name⟩ := arg
  cases type with
  | charPointer => simp at noPointer
  | integer type =>
      cases value : values name with
      | text => simp [value, HasType] at typed
      | chars => simp [value, HasType] at typed
      | integer valueType number =>
          simp only [Unwritten, value] at unwritten
          refine ⟨_, _, serializeArg_integer (holds.trans value) type,
            unwritten, ?_⟩
          rintro other otherNumber ⟨⟩
          rfl
  | string =>
      cases value : values name with
      | integer => simp [value, HasType] at typed
      | chars => simp [value, HasType] at typed
      | text bytes =>
          obtain ⟨lengthType, -, among⟩ := behind rfl
          have lengthOfType := typedBefore _ among
          simp only [HasType] at lengthOfType
          cases length : values (nameLength name) with
          | text => simp [length] at lengthOfType
          | chars => simp [length] at lengthOfType
          | integer valueType number =>
              simp only [Unwritten, value] at unwritten
              refine ⟨_, _,
                serializeArg_string (holds.trans value)
                  (swapping.swapped _ among valueType number length)
                  succeeds,
                unwritten valueType number length, ?_⟩
              rintro other otherNumber ⟨⟩

/-- `Serialize` does not write the byte. -/
theorem exec_serialize_unwritten
    {lengths : IntType → Prop} {before args : List Arg} {values : Store}
    {frame final : Frame}
    (schema : StringsBehindLengths lengths before args)
    (fresh : Fresh before args)
    (typed : Typed args values) (typedBefore : Typed before values)
    (swapping : Swapping build before args values frame.store)
    (unwritten : ∀ arg ∈ args, Unwritten build values byte arg)
    (succeeds : ∀ count, resizes count = true)
    (clean : byte ∉ frame.buffer)
    (runs :
      exec build resizes (makeCppSerialize args) frame =
        .running final) :
    byte ∉ final.buffer ∧ final.buffer.length = frame.buffer.length := by
  induction args generalizing before frame with
  | nil =>
      cases runs
      exact ⟨clean, rfl⟩
  | cons arg args inductionHypothesis =>
      obtain ⟨value, target, ran, silent, swapped⟩ :=
        serializeArg_unwritten schema (typed arg List.mem_cons_self)
          typedBefore swapping (unwritten arg List.mem_cons_self) succeeds
      have nextTyped : Typed (arg :: before) values := by
        intro earlier member
        rcases List.mem_cons.mp member with rfl | among
        · exact typed _ List.mem_cons_self
        · exact typedBefore earlier among
      rw [makeCppSerialize_cons, exec_append, ran] at runs
      cases wrote :
        (frame.assign arg.name value).write build.sizeBits target with
      | threw =>
          rw [wrote] at runs
          cases runs
      | undefined =>
          rw [wrote] at runs
          cases runs
      | running next =>
          rw [wrote] at runs
          have start : byte ∉ (frame.assign arg.name value).buffer := clean
          obtain ⟨nextClean, sameStore, sameLength⟩ :=
            write_unwritten start silent wrote
          have later :=
            inductionHypothesis schema.2 fresh.tail
              (fun later member =>
                typed later (List.mem_cons_of_mem _ member))
              nextTyped (swapping.tail fresh ?_ ?_)
              (fun later member =>
                unwritten later (List.mem_cons_of_mem _ member))
              nextClean runs
          · exact ⟨later.1, later.2.trans sameLength⟩
          · intro name different
            rw [sameStore]
            exact assign_store_of_ne _ _ different
          · intro type number isInteger
            rw [sameStore, assign_store_self]
            exact swapped type number isInteger

/-! ## The reading side -/

/-- The byte occurs neither in the buffer nor in the variables. -/
structure Clean (byte : UInt8) (frame : Frame) : Prop where
  buffer : byte ∉ frame.buffer
  store : ∀ name, byte ∉ (frame.store name).contents
  inside : frame.bufferIdx ≤ frame.buffer.length

theorem Clean.assign
    {frame : Frame} (clean : Clean byte frame) (name : String)
    {value : Value} (contents : byte ∉ value.contents) :
    Clean byte (frame.assign name value) where
  buffer := clean.buffer
  store other := by
    by_cases same : other = name
    · rw [same, assign_store_self]
      exact contents
    · rw [assign_store_of_ne frame value same]
      exact clean.store other
  inside := clean.inside

/-- A read takes bytes of the buffer and keeps the cursor in it. -/
theorem Clean.read
    {frame next : Frame} (clean : Clean byte frame) {name : String}
    {value : List UInt8 → Value} {count : Nat}
    (ran : frame.read build.sizeBits name value count = .running next)
    (contents :
      frame.bufferIdx + count ≤ frame.buffer.length →
        byte ∉ slice frame count →
          byte ∉ (value (slice frame count)).contents) :
    Clean byte next ∧ next.buffer = frame.buffer ∧
      (next = frame ∨
        next.store name = value (slice frame count)) ∧
        ∀ other, other ≠ name → next.store other = frame.store other := by
  have unread : byte ∉ slice frame count := fun member =>
    clean.buffer (List.mem_of_mem_drop (List.mem_of_mem_take member))
  rw [Frame.read, readFromBuffer] at ran
  by_cases short :
      frame.buffer.length < addWord build.sizeBits frame.bufferIdx count
  · simp only [if_pos short] at ran
    cases ran
    exact ⟨clean, rfl, Or.inl rfl, fun _ _ => rfl⟩
  · simp only [if_neg short] at ran
    split at ran
    case isFalse => cases ran
    case isTrue inside =>
      cases ran
      have assigned := clean.assign name (contents inside unread)
      refine ⟨⟨assigned.buffer, assigned.store, not_lt.mp short⟩, rfl,
        Or.inr (assign_store_self _ _ _), ?_⟩
      intro other different
      exact assign_store_of_ne _ _ different

theorem mem_wire_iff (type : IntType) (value : Int) :
    byte ∈ type.wire build value ↔ byte ∈ type.image value := by
  rw [IntType.wire]
  split
  · exact List.mem_reverse
  · exact Iff.rfl

theorem not_mem_resized
    {bytes : List UInt8} (nonzero : byte ≠ 0) (absent : byte ∉ bytes)
    (count : Nat) : byte ∉ resized count bytes := by
  rw [resized, List.mem_append, not_or]
  refine ⟨fun member => absent (List.mem_of_mem_take member), ?_⟩
  intro member
  exact nonzero (List.eq_of_mem_replicate member)

/-- Reading an integer does not bring the byte into its variable. -/
theorem read_integer_clean
    {frame next : Frame} {name : String} {type : IntType} {value : Int}
    (holds : frame.store name = .integer type value)
    (clean : Clean byte frame)
    (ran :
      (Statement.readValue name).exec build resizes frame =
        .running next) :
    Clean byte next ∧ next.buffer = frame.buffer ∧
      (∃ number, next.store name = .integer type number) ∧
        ∀ other, other ≠ name → next.store other = frame.store other := by
  simp only [Statement.exec, holds] at ran
  obtain ⟨nextClean, sameBuffer, assigned, others⟩ :=
    clean.read ran fun fits unread => by
      rw [Value.contents, (IntType.image_ofImage (length_slice fits)).2]
      exact unread
  refine ⟨nextClean, sameBuffer, ?_, others⟩
  rcases assigned with rfl | assigned
  · exact ⟨value, holds⟩
  · exact ⟨_, assigned⟩

theorem unserializeArg_integer_clean
    {frame next : Frame} {type : IntType} {name : String}
    (typed : HasType (.integer type) (frame.store name))
    (clean : Clean byte frame)
    (runs :
      exec build resizes (unserializeArg ⟨.integer type, name⟩) frame =
        .running next) :
    Clean byte next ∧ next.buffer = frame.buffer ∧
      ∀ other, other ≠ name → next.store other = frame.store other := by
  cases holds : frame.store name with
  | text => simp [holds, HasType] at typed
  | chars => simp [holds, HasType] at typed
  | integer valueType value =>
      simp only [holds, HasType] at typed
      obtain ⟨rfl, -⟩ := typed
      cases ran : (Statement.readValue name).exec build resizes frame with
      | threw | undefined =>
          simp only [unserializeArg] at runs
          split at runs
          · simp [exec, ran, Run.andThen] at runs
          · simp [exec, ran, Run.andThen] at runs
      | running read =>
          obtain ⟨readClean, sameBuffer, ⟨number, readHolds⟩, others⟩ :=
            read_integer_clean holds clean ran
          rw [unserializeArg] at runs
          by_cases single : valueType = .uint8 ∨ valueType = .int8
          · simp only [if_pos single, exec, ran, Run.andThen,
              Run.running.injEq] at runs
            subst next
            exact ⟨readClean, sameBuffer, others⟩
          · have wide : valueType.bytes ≠ 1 := by
              cases valueType <;> simp [IntType.bytes] at single ⊢
            simp only [if_neg single, exec, ran, Run.andThen] at runs
            simp only [Statement.exec, readHolds, Run.running.injEq] at runs
            subst next
            refine ⟨readClean.assign name ?_, sameBuffer, ?_⟩
            · rw [Value.contents,
                IntType.image_networkToHost build wide, mem_wire_iff]
              have unread := readClean.store name
              rw [readHolds] at unread
              exact unread
            · intro other different
              rw [assign_store_of_ne _ _ different]
              exact others other different

theorem unserializeArg_string_clean
    {frame next : Frame} {name : String} (nonzero : byte ≠ 0)
    (typed : HasType .string (frame.store name))
    (clean : Clean byte frame)
    (runs :
      exec build resizes (unserializeArg ⟨.string, name⟩) frame =
        .running next) :
    Clean byte next ∧ next.buffer = frame.buffer ∧
      ∀ other, other ≠ name → next.store other = frame.store other := by
  cases holds : frame.store name with
  | integer => simp [holds, HasType] at typed
  | chars => simp [holds, HasType] at typed
  | text old =>
      have absent := clean.store name
      rw [holds] at absent
      cases length : frame.store (nameLength name) with
      | text | chars =>
          simp [unserializeArg, exec, Statement.exec, holds, length,
            Run.andThen] at runs
      | integer type value =>
          cases succeeds : resizes (unsignedCast build.sizeBits value) with
          | false =>
              rw [unserializeArg_string_of_throws holds length succeeds]
                at runs
              cases runs
          | true =>
              rw [unserializeArg_string holds length succeeds] at runs
              have grown :
                  Clean byte
                    (frame.assign name
                      (.text (resized
                        (unsignedCast build.sizeBits value) old))) :=
                clean.assign name (not_mem_resized nonzero absent _)
              obtain ⟨nextClean, sameBuffer, -, others⟩ :=
                grown.read runs (fun _ unread => unread)
              refine ⟨nextClean, sameBuffer, ?_⟩
              intro other different
              rw [others other different, assign_store_of_ne _ _ different]

/-- Reading a field does not bring the byte into a variable. -/
theorem unserializeArg_clean
    {frame next : Frame} {arg : Arg} (nonzero : byte ≠ 0)
    (noPointer : arg.type ≠ .charPointer)
    (typed : HasType arg.type (frame.store arg.name))
    (clean : Clean byte frame)
    (runs :
      exec build resizes (unserializeArg arg) frame = .running next) :
    Clean byte next ∧ next.buffer = frame.buffer ∧
      ∀ name, name ≠ arg.name → next.store name = frame.store name := by
  obtain ⟨type, name⟩ := arg
  cases type with
  | charPointer => simp at noPointer
  | integer type => exact unserializeArg_integer_clean typed clean runs
  | string => exact unserializeArg_string_clean nonzero typed clean runs

/-- `Deserialize` does not bring the byte into a variable. -/
theorem exec_unserialize_clean
    {args : List Arg} {frame final : Frame} (nonzero : byte ≠ 0)
    (noPointer : ∀ arg ∈ args, arg.type ≠ .charPointer)
    (distinct : (args.map Arg.name).Nodup)
    (typed : Typed args frame.store)
    (clean : Clean byte frame)
    (runs :
      exec build resizes (makeCppUnserialize args) frame =
        .running final) :
    Clean byte final := by
  induction args generalizing frame with
  | nil =>
      cases runs
      exact clean
  | cons arg args inductionHypothesis =>
      obtain ⟨new, distinctRest⟩ := List.nodup_cons.mp distinct
      rw [makeCppUnserialize_cons, exec_append] at runs
      cases ran : exec build resizes (unserializeArg arg) frame with
      | threw =>
          rw [ran] at runs
          cases runs
      | undefined =>
          rw [ran] at runs
          cases runs
      | running next =>
          rw [ran] at runs
          obtain ⟨nextClean, -, others⟩ :=
            unserializeArg_clean nonzero (noPointer arg List.mem_cons_self)
              (typed arg List.mem_cons_self) clean ran
          refine inductionHypothesis
            (fun later member =>
              noPointer later (List.mem_cons_of_mem _ member))
            distinctRest ?_ nextClean runs
          intro later member
          rw [others later.name]
          · exact typed later (List.mem_cons_of_mem _ member)
          · intro same
            exact new (List.mem_map.mpr ⟨later, member, same⟩)

end

end LibSklt.PacketGenerator
