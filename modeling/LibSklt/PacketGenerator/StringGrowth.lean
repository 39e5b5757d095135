import LibSklt.PacketGenerator.Deserialize

/-!
# How far `Deserialize` lets its strings grow

`Deserialize` resizes a string to the length that the message announces, and
only then reads the characters with a check against the end of the buffer.  A
message can therefore announce any length that its field can hold, and
negative lengths become huge ones; the strings stay within the size of the
message exactly when every announced length does.
-/

namespace LibSklt.PacketGenerator

open LibSklt.Foundation.MachineWord
open LibSklt.Util
open LibSklt.Util.ByteOrder

/-! ## The calls of `resize` -/

/-- The argument of a call of `resize`. -/
def Statement.resizeArgument (sizeBits : Nat) (frame : Frame) :
    Statement → List Nat
  | .resize name length =>
      match frame.store name, frame.store length with
      | .text _, .integer _ value => [unsignedCast sizeBits value]
      | _, _ => []
  | _ => []

/-- The arguments of the calls of `resize`, also of one that throws. -/
def resizeArguments (build : Build) (resizes : Nat → Bool) :
    List Statement → Frame → List Nat
  | [], _ => []
  | statement :: statements, frame =>
      statement.resizeArgument build.sizeBits frame ++
        match statement.exec build resizes frame with
        | .running next => resizeArguments build resizes statements next
        | _ => []

/--
No resize beyond `limit` was attempted, and after the reads of `Deserialize`
no string is longer.
-/
structure GrowsWithin (build : Build) (resizes : Nat → Bool)
    (sendArgs : List Arg) (store : Store) (buffer : List UInt8)
    (limit : Nat) : Prop where
  attempted :
    ∀ count ∈ resizeArguments build resizes (makeCppUnserialize sendArgs)
        ⟨store, buffer, 0⟩,
      count ≤ limit
  held :
    ∀ final, readFields build resizes sendArgs store buffer =
        .running final →
      ∀ arg ∈ sendArgs, ∀ bytes, final.store arg.name = .text bytes →
        bytes.length ≤ limit

/-! ## The lengths that a message announces -/

/-- The number in an integer variable. -/
def Value.number : Value → Int
  | .integer _ value => value
  | _ => 0

/--
The lengths that a message announces for the strings among the fields, up to
the first one that `resize` refuses.  An integer field that lies behind the
end of the message keeps what its variable in `store` held, and the fields
behind a string that does not fit are looked for in its place.
-/
def announcedLengths (build : Build) (resizes : Nat → Bool)
    (message : List UInt8) : List Arg → Store → Nat → List Nat
  | [], _, _ => []
  | arg :: args, store, position =>
      match arg.type with
      | .integer type =>
          if position + type.bytes ≤ message.length then
            let received :=
              type.ofWire build ((message.drop position).take type.bytes)
            announcedLengths build resizes message args
              (Function.update store arg.name (.integer type received))
              (position + type.bytes)
          else
            let kept := keptValue build type (store arg.name).number
            announcedLengths build resizes message args
              (Function.update store arg.name (.integer type kept)) position
      | _ =>
          let count :=
            unsignedCast build.sizeBits (store (nameLength arg.name)).number
          count ::
            if resizes count then
              announcedLengths build resizes message args store
                (if position + count ≤ message.length then position + count
                  else position)
            else
              []

/-- The integer variables of the fields, in a function and in a message. -/
def SameIntegers (args : List Arg) (first second : Store) : Prop :=
  ∀ arg ∈ args, ∀ type, arg.type = .integer type →
    first arg.name = second arg.name

/--
`Deserialize` is about to read the fields `args`, and `store` holds the
integers that the message announced in the fields `before`.
-/
structure Reading (build : Build) (before args : List Arg) (frame : Frame)
    (store : Store) : Prop where
  schema : StringsBehindLengths (fun _ => True) before args
  fresh : Fresh before args
  known : Typed before frame.store
  targets : Typed args frame.store
  same : SameIntegers (args ++ before) frame.store store
  half : 2 * frame.buffer.length < 2 ^ build.sizeBits
  wide : 4 ≤ build.sizeBits
  inside : frame.bufferIdx ≤ frame.buffer.length

section

variable {build : Build} {resizes : Nat → Bool}

theorem resizeArguments_append
    (first second : List Statement) (frame : Frame) :
    resizeArguments build resizes (first ++ second) frame =
      resizeArguments build resizes first frame ++
        match exec build resizes first frame with
        | .running next => resizeArguments build resizes second next
        | _ => [] := by
  induction first generalizing frame with
  | nil => rfl
  | cons statement statements inductionHypothesis =>
      rw [List.cons_append, resizeArguments, resizeArguments, exec]
      cases statement.exec build resizes frame with
      | running next =>
          simp only [Run.andThen, inductionHypothesis, List.append_assoc]
      | threw => simp [Run.andThen]
      | undefined => simp [Run.andThen]

/-- Integer fields do not call `resize`. -/
theorem resizeArguments_integer
    (type : IntType) (name : String) (frame : Frame) :
    resizeArguments build resizes (unserializeArg ⟨.integer type, name⟩)
        frame =
      [] := by
  simp only [unserializeArg]
  split
  · simp only [resizeArguments, Statement.resizeArgument, List.nil_append]
    split <;> rfl
  · simp only [resizeArguments, Statement.resizeArgument, List.nil_append]
    split
    · split <;> rfl
    · rfl

/-- A string calls it once, whatever happens then. -/
theorem resizeArguments_string
    {frame : Frame} {name : String} {old : List UInt8} {type : IntType}
    {value : Int} (typed : frame.store name = .text old)
    (length : frame.store (nameLength name) = .integer type value) :
    resizeArguments build resizes (unserializeArg ⟨.string, name⟩) frame =
      [unsignedCast build.sizeBits value] := by
  rw [unserializeArg, resizeArguments]
  simp only [Statement.resizeArgument, typed, length]
  split
  · simp only [resizeArguments, Statement.resizeArgument, List.nil_append]
    split <;> rfl
  · rfl

/-! ## One field -/

variable {before args : List Arg} {frame : Frame} {store : Store}

/-- The invariant behind a field. -/
theorem Reading.advance
    {arg : Arg} (reading : Reading build before (arg :: args) frame store)
    {value : Value} {count : Nat} {next : Store}
    (typed : HasType arg.type value)
    (first : ∀ type, arg.type = .integer type → next arg.name = value)
    (others : ∀ name, name ≠ arg.name → next name = store name)
    (ends : frame.bufferIdx + count ≤ frame.buffer.length) :
    Reading build (arg :: before) args (frame.advance arg.name value count)
      next where
  schema := reading.schema.2
  fresh := reading.fresh.tail
  known := reading.fresh.typed_read reading.known typed count
  targets := reading.fresh.typed_later reading.targets value count
  same := by
    intro field member type isInteger
    by_cases here : field.name = arg.name
    · have itself : field = arg := by
        rcases List.mem_append.mp member with later | earlier
        · exact absurd here (reading.fresh.head_ne field later)
        · rcases List.mem_cons.mp earlier with rfl | among
          · rfl
          · exact absurd here
              (reading.fresh.new arg List.mem_cons_self field among).symm
      subst field
      rw [advance_store_self, first type isInteger]
    · rw [advance_store_of_ne _ _ _ here, others _ here]
      refine reading.same field ?_ type isInteger
      simp only [List.mem_append, List.mem_cons] at member ⊢
      tauto
  half := reading.half
  wide := reading.wide
  inside := ends

/-- An integer field is read, or keeps its value. -/
theorem Reading.integer
    {type : IntType} {name : String}
    (reading :
      Reading build before (⟨.integer type, name⟩ :: args) frame store) :
    ∃ value count next,
      exec build resizes (unserializeArg ⟨.integer type, name⟩) frame =
          .running (frame.advance name (.integer type value) count) ∧
        announcedLengths build resizes frame.buffer
            (⟨.integer type, name⟩ :: args) store frame.bufferIdx =
          announcedLengths build resizes frame.buffer args next
            (frame.bufferIdx + count) ∧
        Reading build (⟨.integer type, name⟩ :: before) args
          (frame.advance name (.integer type value) count) next := by
  have target := reading.targets _ List.mem_cons_self
  have same := reading.same ⟨.integer type, name⟩ (by simp) type rfl
  have half := reading.half
  have small := type.bytes_le
  have range : (2 : Nat) ^ 4 ≤ 2 ^ build.sizeBits :=
    Nat.pow_le_pow_right (by omega) reading.wide
  have inside := reading.inside
  cases old : frame.store name with
  | text => simp [old, HasType] at target
  | chars => simp [old, HasType] at target
  | integer oldType number =>
      simp only [old, HasType] at target same
      obtain ⟨rfl, inRange⟩ := target
      by_cases fits :
          frame.bufferIdx + oldType.bytes ≤ frame.buffer.length
      · refine ⟨_, oldType.bytes, _,
          unserializeArg_integer_of_le old (by omega) fits, ?_,
          reading.advance ⟨rfl, ?_⟩ (fun _ _ => Function.update_self ..)
            (fun _ other => Function.update_of_ne other ..) fits⟩
        · simp only [announcedLengths, if_pos fits]
          rfl
        · exact (IntType.wire_ofWire build (length_slice fits)).1
      · refine ⟨_, 0, _,
          unserializeArg_integer_kept old (by omega) (by omega), ?_,
          reading.advance ⟨rfl, inRange_keptValue inRange⟩
            (fun _ _ => Function.update_self ..)
            (fun _ other => Function.update_of_ne other ..) inside⟩
        simp only [announcedLengths, if_neg fits, ← same, Value.number]
        rfl

/-- The length that was announced for a string. -/
theorem Reading.announced
    {name : String}
    (reading : Reading build before (⟨.string, name⟩ :: args) frame store) :
    ∃ type value,
      frame.store (nameLength name) = .integer type value ∧
        (store (nameLength name)).number = value := by
  obtain ⟨type, -, among⟩ := reading.schema.1.2 rfl
  have typed := reading.known _ among
  have same :=
    reading.same _ (List.mem_append_right _ among) type rfl
  cases held : frame.store (nameLength name) with
  | text => simp [held, HasType] at typed
  | chars => simp [held, HasType] at typed
  | integer valueType value =>
      simp only at same
      exact ⟨valueType, value, rfl, by rw [← same, held]; rfl⟩

/-- A string whose announced length is not larger than the message. -/
theorem Reading.string
    {name : String}
    (reading : Reading build before (⟨.string, name⟩ :: args) frame store)
    {count : Nat}
    (announced :
      unsignedCast build.sizeBits (store (nameLength name)).number = count)
    (within : count ≤ frame.buffer.length)
    (succeeds : resizes count = true) :
    ∃ bytes moved,
      bytes.length = count ∧
        exec build resizes (unserializeArg ⟨.string, name⟩) frame =
          .running (frame.advance name (.text bytes) moved) ∧
        (if frame.bufferIdx + count ≤ frame.buffer.length then
            frame.bufferIdx + count
          else frame.bufferIdx) =
          frame.bufferIdx + moved ∧
        Reading build (⟨.string, name⟩ :: before) args
          (frame.advance name (.text bytes) moved) store := by
  obtain ⟨type, value, length, number⟩ := reading.announced
  rw [number] at announced
  have target := reading.targets _ List.mem_cons_self
  have half := reading.half
  have inside := reading.inside
  have noInteger (type) : CppType.string ≠ .integer type := by simp
  cases old : frame.store name with
  | integer => simp [old, HasType] at target
  | chars => simp [old, HasType] at target
  | text oldBytes =>
      have read :=
        @unserializeArg_string build resizes frame name oldBytes type value
          old length (by rw [announced]; exact succeeds)
      rw [announced] at read
      by_cases fits : frame.bufferIdx + count ≤ frame.buffer.length
      · refine ⟨slice frame count, count, length_slice fits, ?_,
          if_pos fits, reading.advance trivial
            (fun _ other => absurd other (noInteger _)) (fun _ _ => rfl) fits⟩
        have bounded : frame.buffer.length < 2 ^ build.sizeBits := by omega
        rw [read, read_of_le build (by exact bounded) (by exact fits),
          assign_assign]
        rfl
      · refine ⟨resized count oldBytes, 0, length_resized _ _, ?_,
          if_neg fits, reading.advance trivial
            (fun _ other => absurd other (noInteger _)) (fun _ _ => rfl) inside⟩
        have bounded :
            frame.bufferIdx + count < 2 ^ build.sizeBits := by
          omega
        have short := not_le.mp fits
        rw [read, read_of_lt build (by exact bounded) (by exact short)]
        rfl

/-! ## All fields -/

/-- What is attempted is announced, as long as nothing too large is. -/
theorem Reading.attempted_iff
    (reading : Reading build before args frame store) :
    (∀ count ∈ resizeArguments build resizes (makeCppUnserialize args) frame,
        count ≤ frame.buffer.length) ↔
      ∀ count ∈ announcedLengths build resizes frame.buffer args store
          frame.bufferIdx,
        count ≤ frame.buffer.length := by
  induction args generalizing before frame store with
  | nil =>
      rw [announcedLengths]
      exact Iff.rfl
  | cons arg args inductionHypothesis =>
      obtain ⟨kind, name⟩ := arg
      rw [makeCppUnserialize_cons, resizeArguments_append]
      cases kind with
      | charPointer => exact absurd rfl reading.schema.1.1
      | integer type =>
          obtain ⟨value, count, next, runs, announces, later⟩ :=
            reading.integer
          rw [resizeArguments_integer, runs, announces, List.nil_append]
          exact inductionHypothesis later
      | string =>
          obtain ⟨type, value, length, number⟩ := reading.announced
          have target := reading.targets _ List.mem_cons_self
          cases old : frame.store name with
          | integer => simp [old, HasType] at target
          | chars => simp [old, HasType] at target
          | text oldBytes =>
              rw [resizeArguments_string old length]
              simp only [announcedLengths, number, List.singleton_append,
                List.forall_mem_cons]
              refine and_congr_right fun within => ?_
              cases succeeds :
                  resizes (unsignedCast build.sizeBits value) with
              | false =>
                  rw [unserializeArg_string_of_throws old length succeeds]
                  simp
              | true =>
                  obtain ⟨bytes, moved, -, runs, position, later⟩ :=
                    reading.string (by rw [number]) within succeeds
                  rw [runs, if_pos rfl, position]
                  exact inductionHypothesis later

/-- The strings have the lengths that were announced for them. -/
theorem Reading.held
    (reading : Reading build before args frame store)
    (within :
      ∀ count ∈ announcedLengths build resizes frame.buffer args store
          frame.bufferIdx,
        count ≤ frame.buffer.length)
    {final : Frame}
    (finishes :
      exec build resizes (makeCppUnserialize args) frame = .running final) :
    Untouched args frame final ∧
      ∀ arg ∈ args, ∀ bytes, final.store arg.name = .text bytes →
        bytes.length ≤ frame.buffer.length := by
  induction args generalizing before frame store with
  | nil =>
      cases finishes
      exact ⟨⟨rfl, fun _ _ => rfl⟩, by simp⟩
  | cons arg args inductionHypothesis =>
      rw [makeCppUnserialize_cons, exec_append] at finishes
      -- It is enough to know what the first field left behind.
      suffices first :
          ∃ value count next,
            exec build resizes (unserializeArg arg) frame =
                .running (frame.advance arg.name value count) ∧
              (∀ bytes, value = .text bytes →
                bytes.length ≤ frame.buffer.length) ∧
              Reading build (arg :: before) args
                (frame.advance arg.name value count) next ∧
              ∀ count' ∈ announcedLengths build resizes frame.buffer args
                  next (frame.bufferIdx + count),
                count' ≤ frame.buffer.length by
        obtain ⟨value, count, next, runs, short, later, rest⟩ := first
        rw [runs] at finishes
        obtain ⟨untouched, strings⟩ :=
          inductionHypothesis later rest finishes
        refine ⟨untouched.cons, fun field member bytes text => ?_⟩
        rcases List.mem_cons.mp member with rfl | among
        · refine short bytes ?_
          rw [← text, untouched.store _ reading.fresh.head_ne,
            advance_store_self]
        · exact strings field among bytes text
      obtain ⟨kind, name⟩ := arg
      cases kind with
      | charPointer => exact absurd rfl reading.schema.1.1
      | integer type =>
          obtain ⟨value, count, next, runs, announces, later⟩ :=
            reading.integer
          rw [announces] at within
          exact ⟨_, count, next, runs, by simp, later, within⟩
      | string =>
          simp only [announcedLengths, List.forall_mem_cons] at within
          obtain ⟨small, rest⟩ := within
          cases succeeds :
              resizes (unsignedCast build.sizeBits
                (store (nameLength name)).number) with
          | false =>
              obtain ⟨type, value, length, number⟩ := reading.announced
              have target := reading.targets _ List.mem_cons_self
              cases old : frame.store name with
              | integer => simp [old, HasType] at target
              | chars => simp [old, HasType] at target
              | text oldBytes =>
                  rw [number] at succeeds
                  rw [unserializeArg_string_of_throws old length succeeds]
                    at finishes
                  cases finishes
          | true =>
              obtain ⟨bytes, moved, whole, runs, position, later⟩ :=
                reading.string rfl small succeeds
              rw [if_pos succeeds, position] at rest
              refine ⟨_, moved, store, runs, ?_, later, rest⟩
              rintro text ⟨⟩
              exact whole.trans_le small

/--
A message lets no string grow beyond its own size exactly if it announces no
length beyond its own size.
-/
theorem growsWithin_iff
    {sendArgs : List Arg} {store : Store} {message : List UInt8}
    (schema : StringsBehindLengths (fun _ => True) [] sendArgs)
    (distinct : (sendArgs.map Arg.name).Nodup)
    (typed : Typed sendArgs store)
    (wide : 4 ≤ build.sizeBits)
    (half : 2 * message.length < 2 ^ build.sizeBits) :
    GrowsWithin build resizes sendArgs store message message.length ↔
      ∀ count ∈ announcedLengths build resizes message sendArgs store 0,
        count ≤ message.length := by
  have reading :
      Reading build [] sendArgs ⟨store, message, 0⟩ store :=
    { schema := schema
      fresh := ⟨distinct, fun _ _ _ impossible => nomatch impossible⟩
      known := fun _ impossible => nomatch impossible
      targets := typed
      same := fun _ _ _ _ => rfl
      half := half
      wide := wide
      inside := Nat.zero_le _ }
  constructor
  · intro grows
    exact reading.attempted_iff.mp grows.attempted
  · intro within
    exact ⟨reading.attempted_iff.mpr within,
      fun final finishes => (reading.held within finishes).2⟩

end

/-- A packet with one string behind a `uint16_t`. -/
def userArgs : List Arg :=
  [⟨.integer .uint16, nameLength "user"⟩, ⟨.string, "user"⟩]

/-- Its variables before the call. -/
def userStore : Store :=
  fun name => if name = "user" then .text [] else .integer .uint16 0

theorem userStore_typed : Typed userArgs userStore := by
  have different := nameLength_ne "user"
  intro arg member
  simp only [userArgs, List.mem_cons, List.not_mem_nil, or_false] at member
  rcases member with rfl | rfl
  · rw [userStore, if_neg different]
    exact ⟨rfl, by decide⟩
  · rw [userStore, if_pos rfl]
    trivial

/-- A message that holds the two characters it announces. -/
theorem growsWithin_of_two_characters :
    GrowsWithin ⟨true, 64⟩ (fun _ => true) userArgs userStore
      [0, 2, 65, 66] 4 := by
  have schema : Schema (fun _ => True) userArgs :=
    .string trivial "user" .nil
  have distinct : (userArgs.map Arg.name).Nodup := by
    simp [userArgs, nameLength_ne]
  exact
    (growsWithin_iff (schema.stringsBehindLengths []) distinct
      userStore_typed (by decide) (by decide)).mpr (by decide)

/-- Two bytes make the decoder resize its string to 65535 characters. -/
theorem not_growsWithin_of_two_bytes :
    ¬ GrowsWithin ⟨true, 64⟩ (fun _ => true) userArgs userStore
      [255, 255] 2 := by
  intro grows
  exact absurd (grows.attempted 65535 (by decide)) (by decide)

end LibSklt.PacketGenerator
