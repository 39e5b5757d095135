import LibSklt.PacketGenerator.LogCalls

/-!
# The generated `ProtocolProcess`

`ProtocolProcess` calls `Deserialize` on the whole buffer and afterwards
compares the buffer's size with the sum of the field sizes, taken from the
variables as `Deserialize` left them.  The check passes only for the wire
formats of the fields: a read that did not fit makes the sum larger than the
buffer, whatever the variables hold.

The check comes after the call of the logger in `Deserialize`.  Of the wire
formats it passes those whose line fits; for the others the program ends
before the check is reached.
-/

namespace LibSklt.PacketGenerator

open LibSklt.Foundation.MachineWord
open LibSklt.Foundation.Tokens
open LibSklt.Util
open LibSklt.Util.ByteOrder
open LibSklt.Util.Logger

/-- The size of a field, by the variables. -/
def fieldSize (store : Store) (arg : Arg) : Nat :=
  match arg.type with
  | .integer type => type.bytes
  | _ =>
      match store (nameLength arg.name) with
      | .integer _ value => value.toNat
      | _ => 0

/-- The sum of the sizes of the fields, by the variables. -/
def totalSize (args : List Arg) (store : Store) : Nat :=
  (args.map (fieldSize store)).sum

/-- The variable with the length of a string, if the field is one. -/
def LengthKnown (store : Store) (arg : Arg) : Prop :=
  arg.type = .string →
    ∃ type count, count < 2 ^ 32 ∧
      store (nameLength arg.name) = .integer type (count : Nat)

section

variable {build : Build} {resizes : Nat → Bool}

/-- The outcome of reading a field: its value and the count of bytes by which
the position moves.  The bytes are those of the value, or the field reaches
behind the buffer. -/
structure FieldRead (build : Build) (resizes : Nat → Bool) (frame : Frame)
    (arg : Arg) (value : Value) (count : Nat) : Prop where
  typed : HasType arg.type value
  runs :
    exec build resizes (unserializeArg arg) frame =
      .running (frame.advance arg.name value count)
  inside : frame.bufferIdx + count ≤ frame.buffer.length
  fate :
    (value.wire build <+: frame.buffer.drop frame.bufferIdx ∧
        (value.wire build).length = count ∧
          fieldSize frame.store arg = count) ∨
      frame.buffer.length < frame.bufferIdx + fieldSize frame.store arg

theorem exists_fieldRead_integer
    {frame : Frame} {type : IntType} {name : String}
    (target : HasType (.integer type) (frame.store name))
    (bounded : frame.buffer.length + 2 ^ 32 ≤ 2 ^ build.sizeBits)
    (inside : frame.bufferIdx ≤ frame.buffer.length) :
    ∃ value count,
      FieldRead build resizes frame ⟨.integer type, name⟩ value count := by
  cases old : frame.store name with
  | text => simp [old, HasType] at target
  | chars => simp [old, HasType] at target
  | integer oldType number =>
      simp only [old, HasType] at target
      obtain ⟨rfl, inRange⟩ := target
      have small := oldType.bytes_le
      by_cases fits : frame.bufferIdx + oldType.bytes ≤ frame.buffer.length
      · obtain ⟨readRange, same⟩ :=
          IntType.wire_ofWire build (length_slice fits)
        refine ⟨.integer oldType
            (oldType.ofWire build (slice frame oldType.bytes)), oldType.bytes,
          { typed := ⟨rfl, readRange⟩
            runs := unserializeArg_integer_of_le old (by omega) fits
            inside := fits
            fate := Or.inl ⟨?_, ?_, rfl⟩ }⟩
        · rw [Value.wire, same]
          exact List.take_prefix _ _
        · rw [Value.wire, IntType.length_wire]
      · exact ⟨.integer oldType (keptValue build oldType number), 0,
          { typed := ⟨rfl, inRange_keptValue inRange⟩
            runs := unserializeArg_integer_kept old (by omega) (by omega)
            inside := inside
            fate := Or.inr (not_le.mp fits) }⟩

theorem exists_fieldRead_string
    {frame : Frame} {name : String}
    (target : HasType .string (frame.store name))
    (length : LengthKnown frame.store ⟨.string, name⟩)
    (bounded : frame.buffer.length + 2 ^ 32 ≤ 2 ^ build.sizeBits)
    (inside : frame.bufferIdx ≤ frame.buffer.length) :
    exec build resizes (unserializeArg ⟨.string, name⟩) frame = .threw ∨
      ∃ value count,
        FieldRead build resizes frame ⟨.string, name⟩ value count := by
  obtain ⟨type, count, small, holds⟩ := length rfl
  cases old : frame.store name with
  | integer => simp [old, HasType] at target
  | chars => simp [old, HasType] at target
  | text bytes =>
      have size : fieldSize frame.store ⟨.string, name⟩ = count := by
        simp [fieldSize, holds]
      cases succeeds : resizes count with
      | false =>
          left
          refine unserializeArg_string_of_throws old holds ?_
          rw [unsignedCast_of_lt (by omega)]
          exact succeeds
      | true =>
          right
          by_cases fits : frame.bufferIdx + count ≤ frame.buffer.length
          · exact ⟨.text (slice frame count), count,
              { typed := trivial
                runs :=
                  unserializeArg_string_of_le old holds (by omega) fits
                    succeeds
                inside := fits
                fate := Or.inl
                  ⟨List.take_prefix _ _, length_slice fits, size⟩ }⟩
          · refine ⟨.text (resized count bytes), 0,
              { typed := trivial
                runs :=
                  unserializeArg_string_of_lt old holds (by omega) (by omega)
                    succeeds
                inside := inside
                fate := Or.inr ?_ }⟩
            rw [size]
            exact not_le.mp fits

/-- A field on an arbitrary buffer: it is read, or it does not fit. -/
theorem unserializeArg_cases
    {frame : Frame} {arg : Arg}
    (noPointer : arg.type ≠ .charPointer)
    (target : HasType arg.type (frame.store arg.name))
    (length : LengthKnown frame.store arg)
    (bounded : frame.buffer.length + 2 ^ 32 ≤ 2 ^ build.sizeBits)
    (inside : frame.bufferIdx ≤ frame.buffer.length) :
    exec build resizes (unserializeArg arg) frame = .threw ∨
      ∃ value count, FieldRead build resizes frame arg value count := by
  obtain ⟨type, name⟩ := arg
  cases type with
  | charPointer => simp at noPointer
  | integer type =>
      exact .inr (exists_fieldRead_integer target bounded inside)
  | string => exact exists_fieldRead_string target length bounded inside

theorem totalSize_cons (arg : Arg) (args : List Arg) (store : Store) :
    totalSize (arg :: args) store =
      fieldSize store arg + totalSize args store := by
  rw [totalSize, List.map_cons, List.sum_cons]
  rfl

/-- Two stores in which the length of a string is the same. -/
theorem fieldSize_congr
    {first second : Store} {arg : Arg}
    (same :
      arg.type = .string →
        first (nameLength arg.name) = second (nameLength arg.name))
    (noPointer : arg.type ≠ .charPointer) :
    fieldSize first arg = fieldSize second arg := by
  rw [fieldSize, fieldSize]
  cases kind : arg.type with
  | integer => rfl
  | string => rw [same kind]
  | charPointer => exact absurd kind noPointer

/-- The types of the lengths that are looked at here. -/
def ShortLength (type : IntType) : Prop :=
  type = .uint16 ∨ type = .uint32

theorem lengthKnown_of_before
    {before : List Arg} {store : Store} {arg : Arg}
    (known : Typed before store)
    (behind :
      arg.type = .string →
        ∃ type, ShortLength type ∧
          ⟨.integer type, nameLength arg.name⟩ ∈ before) :
    LengthKnown store arg := by
  intro isString
  obtain ⟨type, short, among⟩ := behind isString
  have typed := known _ among
  cases holds : store (nameLength arg.name) with
  | text => simp [holds, HasType] at typed
  | chars => simp [holds, HasType] at typed
  | integer valueType value =>
      simp only [holds, HasType] at typed
      obtain ⟨rfl, inRange⟩ := typed
      have range : 0 ≤ value ∧ value < 2 ^ 32 := by
        rcases short with rfl | rfl
        · simp [IntType.InRange, IntType.signed, IntType.bytes] at inRange
          omega
        · simp [IntType.InRange, IntType.signed, IntType.bytes] at inRange
          omega
      obtain ⟨count, rfl⟩ := Int.eq_ofNat_of_zero_le range.1
      exact ⟨valueType, count, by exact_mod_cast range.2, rfl⟩

/-- The variables after `Deserialize` are the fields of the buffer. -/
structure Decoded (build : Build) (args : List Arg) (store : Store)
    (buffer : List UInt8) : Prop where
  there : wireFormat build args store <+: buffer
  size : (wireFormat build args store).length = totalSize args store
  consistent : Consistent args store

/-- A first field in front of decoded ones. -/
theorem Decoded.cons
    {arg : Arg} {args : List Arg} {store : Store} {value : Value}
    {buffer : List UInt8} {count : Nat}
    (rest : Decoded build args store (buffer.drop count))
    (first : store arg.name = value)
    (there : value.wire build <+: buffer)
    (length : (value.wire build).length = count)
    (size : fieldSize store arg = count)
    (lengthHolds :
      ∀ bytes, value = .text bytes →
        ∃ type, store (nameLength arg.name) = .integer type bytes.length) :
    Decoded build (arg :: args) store buffer where
  there := by
    obtain ⟨behind, split⟩ := there
    have later := rest.there
    rw [← split, ← length, List.drop_left] at later
    rw [wireFormat_cons, first, ← split]
    exact List.prefix_append_right_inj _ |>.mpr later
  size := by
    rw [wireFormat_cons, first, List.length_append, length, rest.size,
      totalSize_cons, size]
  consistent := by
    intro field member bytes text
    rcases List.mem_cons.mp member with rfl | among
    · exact lengthHolds bytes (first.symm.trans text)
    · exact rest.consistent field among bytes text

/-- A field that was read whole, in front of decoded ones. -/
theorem FieldRead.decoded_cons
    {arg : Arg} {args : List Arg} {frame : Frame} {store : Store}
    {value : Value} {count : Nat}
    (read : FieldRead build resizes frame arg value count)
    (noPointer : arg.type ≠ .charPointer)
    (length : LengthKnown frame.store arg)
    (sameLength :
      arg.type = .string →
        store (nameLength arg.name) = frame.store (nameLength arg.name))
    (first : store arg.name = value)
    (there : value.wire build <+: frame.buffer.drop frame.bufferIdx)
    (size : (value.wire build).length = count)
    (fieldCount : fieldSize frame.store arg = count)
    (rest :
      Decoded build args store
        (frame.buffer.drop (frame.bufferIdx + count))) :
    Decoded build (arg :: args) store
      (frame.buffer.drop frame.bufferIdx) := by
  have sameSize := fieldSize_congr sameLength noPointer
  rw [← List.drop_drop] at rest
  refine rest.cons first there size (sameSize.trans fieldCount) ?_
  rintro bytes rfl
  have isString := read.typed.eq_string
  obtain ⟨type, held, -, holds⟩ := length isString
  have sized : fieldSize frame.store arg = held := by
    simp [fieldSize, isString, holds]
  have whole : held = bytes.length := by
    rw [← sized, fieldCount, ← size, Value.wire]
  refine ⟨type, ?_⟩
  rw [sameLength isString, holds, whole]

/--
What `Deserialize` leaves behind on an arbitrary buffer: the fields that stand
there, or sizes that reach behind the buffer.
-/
theorem exec_unserialize_cases
    {before args : List Arg} {frame : Frame}
    (schema : StringsBehindLengths ShortLength before args)
    (fresh : Fresh before args) (known : Typed before frame.store)
    (targets : Typed args frame.store)
    (bounded : frame.buffer.length + 2 ^ 32 ≤ 2 ^ build.sizeBits)
    (inside : frame.bufferIdx ≤ frame.buffer.length) :
    exec build resizes (makeCppUnserialize args) frame = .threw ∨
      ∃ final,
        exec build resizes (makeCppUnserialize args) frame =
            .running final ∧
          Untouched args frame final ∧ Typed args final.store ∧
            (Decoded build args final.store
                (frame.buffer.drop frame.bufferIdx) ∨
              frame.buffer.length <
                frame.bufferIdx + totalSize args final.store) := by
  induction args generalizing before frame with
  | nil =>
      right
      refine ⟨frame, rfl, ⟨rfl, fun _ _ => rfl⟩, ?_, Or.inl ⟨?_, rfl, ?_⟩⟩
      · intro arg member
        simp at member
      · exact List.nil_prefix
      · intro arg member
        simp at member
  | cons arg args inductionHypothesis =>
      obtain ⟨⟨noPointer, behind⟩, rest⟩ := schema
      have length := lengthKnown_of_before known behind
      rw [makeCppUnserialize_cons, exec_append]
      rcases unserializeArg_cases noPointer
          (targets arg List.mem_cons_self) length bounded inside with
        threw | ⟨value, count, read⟩
      · left
        rw [threw]
        rfl
      · rw [read.runs]
        rcases inductionHypothesis rest fresh.tail
            (fresh.typed_read known read.typed count)
            (fresh.typed_later targets value count) bounded read.inside with
          threw | ⟨final, finishes, untouched, finalTyped, decoded⟩
        · left
          exact threw
        · right
          have first := fresh.store_head untouched
          have sameLength :
              arg.type = .string →
                final.store (nameLength arg.name) =
                  frame.store (nameLength arg.name) := by
            intro isString
            obtain ⟨type, -, among⟩ := behind isString
            apply untouched.cons.store
            intro field member
            exact fresh.new field member _ among
          refine ⟨final, finishes, untouched.cons, ?_, ?_⟩
          · intro field member
            rcases List.mem_cons.mp member with rfl | among
            · rw [first]
              exact read.typed
            · exact finalTyped field among
          · rw [totalSize_cons, fieldSize_congr sameLength noPointer]
            rcases read.fate with ⟨there, size, fieldCount⟩ | short
            · rcases decoded with decoded | short
              · exact .inl (read.decoded_cons noPointer length sameLength
                  first there size fieldCount decoded)
              · right
                have later :
                    frame.buffer.length <
                      frame.bufferIdx + count +
                        totalSize args final.store :=
                  short
                omega
            · right
              omega

/-! ## The check of the size -/

theorem foldl_addWord (width : Nat) (terms : List Nat) (start : Nat) :
    terms.foldl (addWord width) (start % 2 ^ width) =
      (start + terms.sum) % 2 ^ width := by
  induction terms generalizing start with
  | nil => simp
  | cons term terms inductionHypothesis =>
      rw [List.foldl_cons, addWord, Nat.mod_add_mod, inductionHypothesis,
        List.sum_cons, Nat.add_assoc]

/-- The size of a field, where its length is known, is less than `2 ^ 32`. -/
theorem fieldSize_lt
    {store : Store} {arg : Arg} (noPointer : arg.type ≠ .charPointer)
    (length : LengthKnown store arg) : fieldSize store arg < 2 ^ 32 := by
  rw [fieldSize]
  cases kind : arg.type with
  | integer type =>
      have small := type.bytes_le
      simp only
      omega
  | charPointer => exact absurd kind noPointer
  | string =>
      obtain ⟨type, count, small, holds⟩ := length kind
      simpa [holds] using small

theorem eval_argGetSize
    {store : Store} {arg : Arg} (noPointer : arg.type ≠ .charPointer)
    (typed : HasType arg.type (store arg.name))
    (length :
      arg.type = .string →
        ∃ type count,
          store (nameLength arg.name) = .integer type (count : Nat))
    (small : fieldSize store arg < 2 ^ build.sizeBits) :
    (argGetSize arg).eval build.sizeBits store = fieldSize store arg := by
  rw [fieldSize] at small ⊢
  rw [argGetSize]
  cases kind : arg.type with
  | charPointer => exact absurd kind noPointer
  | integer type =>
      rw [kind] at typed
      cases holds : store arg.name with
      | text => simp [holds, HasType] at typed
      | chars => simp [holds, HasType] at typed
      | integer valueType value =>
          simp only [holds, HasType] at typed
          simp [SizeTerm.eval, holds, typed.1]
  | string =>
      obtain ⟨type, count, holds⟩ := length kind
      simp only [kind, holds, Int.toNat_natCast] at small
      simp only [SizeTerm.eval, holds, Int.toNat_natCast]
      exact unsignedCast_of_lt small

theorem totalSize_lt
    {args : List Arg} {store : Store} (few : args.length < 2 ^ 32)
    (sizes : ∀ arg ∈ args, fieldSize store arg < 2 ^ 32) :
    totalSize args store < 2 ^ 64 := by
  have bound :
      (args.map (fieldSize store)).sum ≤
        (args.map (fieldSize store)).length * (2 ^ 32 - 1) := by
    apply List.sum_le_card_nsmul
    intro size member
    obtain ⟨arg, among, rfl⟩ := List.mem_map.mp member
    have small := sizes arg among
    omega
  rw [List.length_map] at bound
  have product :
      args.length * (2 ^ 32 - 1) ≤ (2 ^ 32 - 1) * (2 ^ 32 - 1) :=
    Nat.mul_le_mul_right _ (by omega)
  rw [totalSize]
  omega

theorem fieldSize_le_totalSize
    {args : List Arg} {arg : Arg} (member : arg ∈ args) (store : Store) :
    fieldSize store arg ≤ totalSize args store :=
  List.le_sum_of_mem (List.mem_map_of_mem member)

/-- The size that the check compares with is the sum of the field sizes. -/
theorem getSize_eq_totalSize
    {args : List Arg} {store : Store}
    (noPointer : ∀ arg ∈ args, arg.type ≠ .charPointer)
    (typed : Typed args store)
    (lengths :
      ∀ arg ∈ args, arg.type = .string →
        ∃ type count,
          store (nameLength arg.name) = .integer type (count : Nat))
    (small : totalSize args store < 2 ^ build.sizeBits) :
    getSize build.sizeBits store (makeArgGetSize args) =
      totalSize args store := by
  have terms :
      (makeArgGetSize args).map (SizeTerm.eval build.sizeBits store) =
        args.map (fieldSize store) := by
    rw [makeArgGetSize, List.map_map]
    apply List.map_congr_left
    intro arg member
    have part := fieldSize_le_totalSize member store
    exact eval_argGetSize (noPointer arg member) (typed arg member)
      (lengths arg member) (by omega)
  have sum :=
    foldl_addWord build.sizeBits (args.map (fieldSize store)) 0
  rw [getSize, ← List.foldl_map, terms, ← Nat.zero_mod (2 ^ build.sizeBits),
    sum, Nat.zero_add]
  exact Nat.mod_eq_of_lt small

/-- With short lengths the sum cannot wrap around. -/
theorem getSize_of_shortLengths
    {args : List Arg} {store : Store} (size64 : build.sizeBits = 64)
    (few : args.length < 2 ^ 32)
    (fields :
      ∀ arg ∈ args, arg.type ≠ .charPointer ∧
        (arg.type = .string →
          ∃ type, ShortLength type ∧
            ⟨.integer type, nameLength arg.name⟩ ∈ args))
    (typed : Typed args store) :
    getSize build.sizeBits store (makeArgGetSize args) =
      totalSize args store := by
  have known :
      ∀ arg ∈ args, LengthKnown store arg := fun arg member =>
    lengthKnown_of_before typed (fields arg member).2
  apply getSize_eq_totalSize (fun arg member => (fields arg member).1) typed
  · intro arg member isString
    obtain ⟨type, count, -, holds⟩ := known arg member isString
    exact ⟨type, count, holds⟩
  · rw [size64]
    exact totalSize_lt few fun arg member =>
      fieldSize_lt (fields arg member).1 (known arg member)

end

/-! ## Accepted buffers -/

/-- An assignment of values to the fields. -/
structure Assignment (args : List Arg) (values : Store) : Prop where
  typed : Typed args values
  consistent : Consistent args values

theorem length_wire_eq_fieldSize
    (build : Build) {values : Store} {arg : Arg}
    (noPointer : arg.type ≠ .charPointer)
    (typed : HasType arg.type (values arg.name))
    (length :
      ∀ bytes, values arg.name = .text bytes →
        ∃ type, values (nameLength arg.name) = .integer type bytes.length) :
    ((values arg.name).wire build).length = fieldSize values arg := by
  rw [fieldSize]
  cases kind : arg.type with
  | charPointer => exact absurd kind noPointer
  | integer type =>
      rw [kind] at typed
      cases holds : values arg.name with
      | text => simp [holds, HasType] at typed
      | chars => simp [holds, HasType] at typed
      | integer valueType value =>
          simp only [holds, HasType] at typed
          rw [Value.wire, IntType.length_wire, typed.1]
  | string =>
      rw [kind] at typed
      cases holds : values arg.name with
      | integer => simp [holds, HasType] at typed
      | chars => simp [holds, HasType] at typed
      | text bytes =>
          obtain ⟨type, count⟩ := length bytes holds
          simp [Value.wire, count]

/-- The size of the fields is the size of their wire format. -/
theorem length_wireFormat
    (build : Build) {args : List Arg} {values : Store}
    (noPointer : ∀ arg ∈ args, arg.type ≠ .charPointer)
    (assignment : Assignment args values) :
    (wireFormat build args values).length = totalSize args values := by
  rw [wireFormat, List.length_flatMap, totalSize]
  congr 1
  apply List.map_congr_left
  intro arg member
  exact length_wire_eq_fieldSize build (noPointer arg member)
    (assignment.typed arg member) (assignment.consistent arg member)

/-- What `Deserialize` reads from any buffer, and its size. -/
theorem readFields_cases
    {build : Build} (size64 : build.sizeBits = 64)
    {args : List Arg} (schema : Schema ShortLength args)
    (distinct : (args.map Arg.name).Nodup) (few : args.length < 2 ^ 32)
    (resizes : Nat → Bool) {buffer : List UInt8}
    (bounded : buffer.length + 2 ^ 32 ≤ 2 ^ 64)
    {locals : Store} (typed : Typed args locals) :
    readFields build resizes args locals buffer = .threw ∨
      ∃ final,
        readFields build resizes args locals buffer = .running final ∧
          Typed args final.store ∧
          getSize build.sizeBits final.store (makeArgGetSize args) =
            totalSize args final.store ∧
          (buffer.length = totalSize args final.store →
            Consistent args final.store ∧
              buffer = wireFormat build args final.store) := by
  have ordered := schema.stringsBehindLengths []
  have fresh : Fresh [] args := ⟨distinct, by simp⟩
  have known : Typed [] locals := by
    intro arg member
    simp at member
  have room : buffer.length + 2 ^ 32 ≤ 2 ^ build.sizeBits := by
    rw [size64]
    exact bounded
  rw [readFields]
  rcases @exec_unserialize_cases build resizes [] args ⟨locals, buffer, 0⟩
      ordered fresh known typed room (Nat.zero_le _) with
    threw | ⟨final, runs, -, finalTyped, decoded⟩
  · exact Or.inl threw
  · have fields := ordered.length_mem
    simp only [List.append_nil] at fields
    refine Or.inr ⟨final, runs, finalTyped,
      getSize_of_shortLengths size64 few fields finalTyped, ?_⟩
    intro same
    rcases decoded with decoded | short
    · have there := decoded.there
      simp only [List.drop_zero] at there
      refine ⟨decoded.consistent, (there.eq_of_length ?_).symm⟩
      rw [decoded.size, same]
    · simp only at short
      omega

/-- What `Deserialize` reads from the wire format of an assignment. -/
theorem readFields_wireFormat
    {build : Build} (size64 : build.sizeBits = 64)
    {args : List Arg} (schema : Schema ShortLength args)
    (distinct : (args.map Arg.name).Nodup)
    (resizes : Nat → Bool) {locals values : Store}
    (bounded : (wireFormat build args values).length < 2 ^ 64)
    (typed : Typed args locals) (assignment : Assignment args values) :
    readFields build resizes args locals (wireFormat build args values) =
        .threw ∨
      ∃ final,
        readFields build resizes args locals
            (wireFormat build args values) = .running final ∧
          Agree args final.store values ∧
          (wireFormat build args values).length =
            totalSize args final.store := by
  have ordered := schema.stringsBehindLengths []
  have fresh : Fresh [] args := ⟨distinct, by simp⟩
  have known : Agree [] locals values := by
    intro arg member
    simp at member
  have fields := ordered.length_mem
  simp only [List.append_nil] at fields
  have noPointer := schema.noPointer
  rw [readFields]
  rcases @exec_unserialize_wireFormat build resizes ShortLength [] args values
      ⟨locals, wireFormat build args values, 0⟩ ordered fresh
      assignment.typed assignment.consistent typed known
      (by rw [size64]; exact bounded) (Nat.zero_le _)
      (List.prefix_refl _) with
    threw | ⟨final, runs, -, -, agree⟩
  · exact Or.inl threw
  · have sizes : totalSize args final.store = totalSize args values := by
      rw [totalSize, totalSize]
      congr 1
      apply List.map_congr_left
      intro arg member
      refine fieldSize_congr (fun isString => ?_) (noPointer arg member)
      obtain ⟨type, -, among⟩ := (fields arg member).2 isString
      exact agree _ among
    refine Or.inr ⟨final, runs, agree, ?_⟩
    rw [sizes, length_wireFormat build noPointer assignment]

/-! ## The check -/

/-- How `ProtocolProcess` ends, up to its check of the size. -/
inductive Processed where
  | passed (locals : Store)
  | refused
  | threw
  /-- The logger ended the program. -/
  | ended
  | undefined

/-- `ProtocolProcess` up to its check of the size. -/
def protocolProcess (build : Build) (resizes : Nat → Bool)
    (className : String) (sendArgs : List Arg) (locals : Store)
    (buffer : List UInt8) : Processed :=
  match (deserializeCodec className sendArgs).deserialize build resizes
      locals buffer with
  | .returned frame =>
      if buffer.length ≠
          getSize build.sizeBits frame.store (makeArgGetSize sendArgs) then
        .refused
      else
        .passed frame.store
  | .threw => .threw
  | .ended => .ended
  | .undefined => .undefined

section

variable {build : Build} (size64 : build.sizeBits = 64)
  {className : String} {args : List Arg}
  (schema : Schema ShortLength args)
  (distinct : (args.map Arg.name).Nodup) (few : args.length < 2 ^ 32)
  (named : Identifier className)
  (fields : ∀ arg ∈ args, Identifier arg.name)
  (resizes : Nat → Bool) {buffer : List UInt8} {locals : Store}

include size64 schema distinct few named fields

/-- How the generated handler ends on a buffer. -/
theorem protocolProcess_cases
    (bounded : buffer.length + 2 ^ 32 ≤ 2 ^ 64)
    (typed : Typed args locals) :
    (readFields build resizes args locals buffer = .threw ∧
        protocolProcess build resizes className args locals buffer =
          .threw) ∨
      ∃ final,
        readFields build resizes args locals buffer = .running final ∧
          Typed args final.store ∧
          (buffer.length = totalSize args final.store →
            Consistent args final.store ∧
              buffer = wireFormat build args final.store) ∧
          protocolProcess build resizes className args locals buffer =
            if LineFits className "][InputData] " args final.store then
              if buffer.length = totalSize args final.store then
                .passed final.store
              else
                .refused
            else
              .ended := by
  have noPointer := schema.noPointer
  rcases readFields_cases size64 schema distinct few resizes bounded typed
    with threw | ⟨final, runs, finalTyped, size, whole⟩
  · refine Or.inl ⟨threw, ?_⟩
    rw [protocolProcess, deserialize_of_threw threw]
  · refine Or.inr ⟨final, runs, finalTyped, whole, ?_⟩
    rw [protocolProcess,
      deserialize_of_running named fields noPointer runs finalTyped]
    split_ifs with fits same
    · simp only [size, same, ne_eq, not_true_eq_false, if_false]
    · simp only [size, same, ne_eq, not_false_eq_true, if_true]
    · rfl

/-- The generated handler on the wire format of an assignment. -/
theorem protocolProcess_wireFormat
    {values : Store}
    (bounded : (wireFormat build args values).length + 2 ^ 32 ≤ 2 ^ 64)
    (typed : Typed args locals) (assignment : Assignment args values) :
    protocolProcess build resizes className args locals
          (wireFormat build args values) = .threw ∨
      ∃ final, Agree args final values ∧
        protocolProcess build resizes className args locals
            (wireFormat build args values) =
          if LineFits className "][InputData] " args values then
            .passed final
          else
            .ended := by
  rcases protocolProcess_cases size64 schema distinct few named fields
      resizes bounded typed with
    ⟨-, threw⟩ | ⟨final, runs, -, -, ends⟩
  · exact Or.inl threw
  · rcases readFields_wireFormat size64 schema distinct resizes (by omega)
      typed assignment with threw | ⟨other, runs', agree, size⟩
    · rw [runs] at threw
      cases threw
    · rw [runs, Run.running.injEq] at runs'
      subst other
      refine Or.inr ⟨final.store, agree, ?_⟩
      rw [ends, if_pos size]
      simp only [lineFits_congr agree]

/-- A buffer that passes the check is the wire format of what was read. -/
theorem assignment_of_passed
    (bounded : buffer.length + 2 ^ 32 ≤ 2 ^ 64)
    (typed : Typed args locals) {final : Store}
    (passed :
      protocolProcess build resizes className args locals buffer =
        .passed final) :
    Assignment args final ∧ buffer = wireFormat build args final := by
  rcases protocolProcess_cases size64 schema distinct few named fields
      resizes bounded typed with
    ⟨-, threw⟩ | ⟨read, -, readTyped, whole, ends⟩
  · rw [passed] at threw
    cases threw
  · rw [passed] at ends
    split_ifs at ends with fits same
    cases ends
    obtain ⟨consistent, wire⟩ := whole same
    exact ⟨⟨readTyped, consistent⟩, wire⟩

/-- The fields of a wire format are those that are read from it. -/
theorem agree_of_passed
    (bounded : buffer.length + 2 ^ 32 ≤ 2 ^ 64)
    (typed : Typed args locals) {final : Store}
    (passed :
      protocolProcess build resizes className args locals buffer =
        .passed final)
    {values : Store} (assignment : Assignment args values)
    (wire : buffer = wireFormat build args values) :
    Agree args final values := by
  subst buffer
  rcases protocolProcess_wireFormat size64 schema distinct few named fields
      resizes bounded typed assignment with threw | ⟨other, agree, ends⟩
  · rw [passed] at threw
    cases threw
  · rw [passed] at ends
    split_ifs at ends
    cases ends
    exact agree

/--
The generated handler passes its check exactly for the buffers that are the
wire format of an assignment, if and only if the line of the logger fits for
each assignment with this wire format.  What passes is a wire format in any
case, and then the variables hold the assignment.
-/
theorem protocolProcess_passes_iff
    (bounded : buffer.length + 2 ^ 32 ≤ 2 ^ 64)
    (typed : Typed args locals) :
    (protocolProcess build resizes className args locals buffer = .threw →
        ∃ count, resizes count = false) ∧
      (protocolProcess build resizes className args locals buffer ≠
          .threw →
        (((∃ final,
              protocolProcess build resizes className args locals buffer =
                .passed final) ↔
            ∃ values, Assignment args values ∧
              buffer = wireFormat build args values) ↔
          ∀ values, Assignment args values →
            buffer = wireFormat build args values →
              LineFits className "][InputData] " args values)) ∧
      (∀ final,
        protocolProcess build resizes className args locals buffer =
            .passed final →
          Assignment args final ∧ buffer = wireFormat build args final ∧
            ∀ values, Assignment args values →
              buffer = wireFormat build args values →
                Agree args final values) := by
  refine ⟨?_, ?_, ?_⟩
  · intro threw
    rcases protocolProcess_cases size64 schema distinct few named fields
        resizes bounded typed with ⟨reads, -⟩ | ⟨final, -, -, -, ends⟩
    · exact exec_threw reads
    · rw [threw] at ends
      split_ifs at ends
  · intro finishes
    constructor
    · rintro passes values assignment rfl
      obtain ⟨final, passed⟩ := passes.mpr ⟨values, assignment, rfl⟩
      rcases protocolProcess_wireFormat size64 schema distinct few named
          fields resizes bounded typed assignment with
        threw | ⟨other, -, ends⟩
      · exact absurd threw finishes
      · by_contra long
        rw [passed, if_neg long] at ends
        cases ends
    · intro fits
      constructor
      · rintro ⟨final, passed⟩
        exact ⟨final, assignment_of_passed size64 schema distinct few named
          fields resizes bounded typed passed⟩
      · rintro ⟨values, assignment, rfl⟩
        rcases protocolProcess_wireFormat size64 schema distinct few named
            fields resizes bounded typed assignment with
          threw | ⟨final, -, ends⟩
        · exact absurd threw finishes
        · rw [if_pos (fits values assignment rfl)] at ends
          exact ⟨final, ends⟩
  · intro final passed
    obtain ⟨assignment, same⟩ :=
      assignment_of_passed size64 schema distinct few named fields resizes
        bounded typed passed
    exact ⟨assignment, same, fun values other wire =>
      agree_of_passed size64 schema distinct few named fields resizes
        bounded typed passed other wire⟩

end

theorem identifier_openFile : Identifier "OpenFile" :=
  identifier_chars _ rfl (by simp) (by decide)

theorem wireFormat_pathArgs (build : Build) (store : Store) :
    wireFormat build pathArgs store =
      (store (nameLength "path")).wire build ++
        (store "path").wire build := by
  simp [wireFormat, pathArgs]

/-- The assignments of this packet, one for each short enough string. -/
theorem exists_pathStore {values : Store}
    (assignment : Assignment pathArgs values) :
    ∃ bytes, Agree pathArgs values (pathStore bytes.length bytes) := by
  have different := nameLength_ne "path"
  have length :=
    assignment.typed ⟨.integer .uint16, nameLength "path"⟩
      (by simp [pathArgs])
  have text := assignment.typed ⟨.string, "path"⟩ (by simp [pathArgs])
  cases holds : values "path" with
  | integer => simp [holds, HasType] at text
  | chars => simp [holds, HasType] at text
  | text bytes =>
      refine ⟨bytes, ?_⟩
      obtain ⟨type, counted⟩ :=
        assignment.consistent ⟨.string, "path"⟩ (by simp [pathArgs]) bytes
          holds
      rw [counted] at length
      obtain ⟨rfl, -⟩ := length
      intro arg member
      simp only [pathArgs, List.mem_cons, List.not_mem_nil, or_false]
        at member
      rcases member with rfl | rfl
      · simp [pathStore, different, counted]
      · simp [pathStore, holds]

/-- The handler of this packet accepts the string `x` in network order. -/
theorem protocolProcess_passes_path :
    ∃ final,
      protocolProcess ⟨true, 64⟩ (fun _ => true) "OpenFile" pathArgs
        (pathStore 7 []) [0, 1, 120] = .passed final := by
  have different := nameLength_ne "path"
  have passes :=
    @protocolProcess_passes_iff ⟨true, 64⟩ rfl "OpenFile" pathArgs
      (.string (Or.inl rfl) "path" .nil) pathArgs_distinct (by decide)
      identifier_openFile pathArgs_named (fun _ => true) [0, 1, 120]
      (pathStore 7 []) (by decide)
      (pathStore_typed (by simp [IntType.InRange, IntType.signed,
        IntType.bytes]) [])
  have wire :
      [0, 1, 120] = wireFormat ⟨true, 64⟩ pathArgs (pathStore 1 [120]) := by
    simp [wireFormat_pathArgs, pathStore, different, Value.wire]
    decide
  refine ((passes.2.1 fun threw => ?_).mpr ?_).mpr
    ⟨pathStore 1 [120], ⟨?_, pathStore_consistent [120]⟩, wire⟩
  · obtain ⟨count, impossible⟩ := passes.1 threw
    simp at impossible
  · intro values assignment same
    obtain ⟨bytes, agree⟩ := exists_pathStore assignment
    have length := agree ⟨.integer .uint16, nameLength "path"⟩ (by
      simp [pathArgs])
    have text := agree ⟨.string, "path"⟩ (by simp [pathArgs])
    rw [wireFormat_pathArgs, length, text] at same
    simp only [pathStore, if_neg different, if_true, Value.wire] at same
    have size :
        (IntType.wire ⟨true, 64⟩ .uint16 bytes.length).length = 2 :=
      IntType.length_wire _ _ _
    have behind := congrArg (List.drop 2) same
    rw [List.drop_left' size] at behind
    rw [lineFits_congr agree, ← behind]
    decide
  · exact pathStore_typed (by simp [IntType.InRange, IntType.signed,
      IntType.bytes]) [120]

/-- A line with a string as long as the array of the logger does not fit. -/
theorem not_lineFits_path {count : Nat} (long : kMaxBufferLength ≤ count)
    (className title : String) :
    ¬ LineFits className title pathArgs
      (pathStore count (List.replicate count 120)) := by
  have text :
      (pathStore count (List.replicate count 120) "path").shownLength =
        count := by
    simp [pathStore, Value.shownLength, Value.shown]
  have line :=
    @size_le_lineLength className title pathArgs
      (fun arg =>
        (pathStore count (List.replicate count 120) arg.name).shownLength)
      ⟨.string, "path"⟩ (by simp [pathArgs])
  simp only [text] at line
  rw [LineFits, not_lt]
  exact long.trans line

/-- The handler of this packet does not accept a string of 2000 letters. -/
theorem protocolProcess_ends_path :
    ¬ ((∃ final,
          protocolProcess ⟨true, 64⟩ (fun _ => true) "OpenFile" pathArgs
            (pathStore 7 []) (7 :: 208 :: List.replicate 2000 120) =
              .passed final) ↔
        ∃ values, Assignment pathArgs values ∧
          7 :: 208 :: List.replicate 2000 120 =
            wireFormat ⟨true, 64⟩ pathArgs values) := by
  have different := nameLength_ne "path"
  have wire :
      7 :: 208 :: List.replicate 2000 120 =
        wireFormat ⟨true, 64⟩ pathArgs
          (pathStore 2000 (List.replicate 2000 120)) := by
    have length : IntType.wire ⟨true, 64⟩ .uint16 2000 = [7, 208] := by
      decide
    simp only [wireFormat_pathArgs, pathStore, if_neg different, if_true,
      Value.wire, length]
    rfl
  have inRange : IntType.uint16.InRange 2000 := by decide
  have assignment :
      Assignment pathArgs (pathStore 2000 (List.replicate 2000 120)) := by
    have consistent := pathStore_consistent (List.replicate 2000 120)
    rw [List.length_replicate] at consistent
    exact ⟨pathStore_typed inRange _, consistent⟩
  have long :
      ¬ LineFits "OpenFile" "][InputData] " pathArgs
        (pathStore 2000 (List.replicate 2000 120)) :=
    not_lineFits_path (by decide) _ _
  have bounded :
      (wireFormat ⟨true, 64⟩ pathArgs
          (pathStore 2000 (List.replicate 2000 120))).length + 2 ^ 32 ≤
        2 ^ 64 := by
    rw [← wire, List.length_cons, List.length_cons, List.length_replicate]
    decide
  intro accepts
  obtain ⟨final, passed⟩ := accepts.mpr ⟨_, assignment, wire⟩
  rw [wire] at passed
  rcases @protocolProcess_wireFormat ⟨true, 64⟩ rfl "OpenFile" pathArgs
      (.string (Or.inl rfl) "path" .nil) pathArgs_distinct (by decide)
      identifier_openFile pathArgs_named (fun _ => true) (pathStore 7 [])
      _ bounded (pathStore_typed (by decide) []) assignment
    with threw | ⟨other, -, ends⟩
  · rw [passed] at threw
    cases threw
  · rw [passed, if_neg long] at ends
    cases ends

end LibSklt.PacketGenerator
