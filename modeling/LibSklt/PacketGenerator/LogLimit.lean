import LibSklt.PacketGenerator.LogCalls
import LibSklt.PacketGenerator.RoundTrip

/-!
# Messages that end the program

`Deserialize` logs what it read before anything is checked, and a line that
does not fit the array of the logger ends the program.  A packet can stand
all messages exactly if it has no string and the longest texts of its
integers leave the line short enough; otherwise there is even a well-formed
message that ends the program.
-/

namespace LibSklt.PacketGenerator

open LibSklt.Foundation.Decimal
open LibSklt.Foundation.MachineWord
open LibSklt.Foundation.Printf
open LibSklt.Foundation.Separated
open LibSklt.Foundation.Tokens
open LibSklt.Util
open LibSklt.Util.ByteOrder
open LibSklt.Util.Logger

/-! ## The longest texts -/

/-- A value of the type with the longest text. -/
def IntType.longest : IntType → Int
  | .int8 => 0
  | .uint8 => 0
  | .int16 => -2 ^ 15
  | .uint16 => 2 ^ 16 - 1
  | .int32 => -2 ^ 31
  | .uint32 => 2 ^ 31
  | .int64 => -2 ^ 63
  | .uint64 => 2 ^ 63

/-- The length of its text; `%d` and `%lld` read unsigned values as signed
ones. -/
def IntType.longestText : IntType → Nat
  | .int8 => 1
  | .uint8 => 1
  | .int16 => 6
  | .uint16 => 5
  | .int32 => 11
  | .uint32 => 11
  | .int64 => 20
  | .uint64 => 20

theorem inRange_longest (type : IntType) :
    type.InRange (IntType.longest type) := by
  cases type <;> decide

theorem shownLength_longest (type : IntType) :
    (Value.integer type (IntType.longest type)).shownLength =
      IntType.longestText type := by
  cases type <;> decide

/-- The text of a signed word, with its sign. -/
theorem length_signedCast_le {width digits : Nat} (wide : 0 < width)
    (some : 0 < digits) (small : 2 ^ (width - 1) < 10 ^ digits)
    (value : Int) :
    (signedDecimal (signedCast width value)).length ≤ digits + 1 := by
  obtain ⟨lower, upper⟩ := signedCast_range wide value
  have bounded :
      (signedCast width value).natAbs < 10 ^ digits := by omega
  have long := length_signedDecimal_le some bounded
  split_ifs at long <;> omega

theorem shownLength_le {type : IntType} {value : Int}
    (inRange : type.InRange value) :
    (Value.integer type value).shownLength ≤ IntType.longestText type := by
  cases type with
  | int8 | uint8 => exact le_rfl
  | int16 =>
      have range : -2 ^ 15 ≤ value ∧ value < 2 ^ 15 := inRange
      have kept : signedCast 32 value = value :=
        signedCast_of_range (by decide) (by omega) (by omega)
      have long :
          (signedDecimal value).length ≤ 5 + if value < 0 then 1 else 0 :=
        length_signedDecimal_le (by decide) (by omega)
      show (signedDecimal (signedCast 32 value)).length ≤ 6
      rw [kept]
      split_ifs at long <;> omega
  | uint16 =>
      have range : 0 ≤ value ∧ value < 2 ^ 16 := inRange
      have kept : signedCast 32 value = value :=
        signedCast_of_range (by decide) (by omega) (by omega)
      have long :
          (signedDecimal value).length ≤ 5 + if value < 0 then 1 else 0 :=
        length_signedDecimal_le (by decide) (by omega)
      show (signedDecimal (signedCast 32 value)).length ≤ 5
      rw [kept]
      rwa [if_neg (by omega)] at long
  | int32 | uint32 =>
      exact @length_signedCast_le 32 10 (by decide) (by decide)
        (by decide) value
  | int64 | uint64 =>
      exact @length_signedCast_le 64 19 (by decide) (by decide)
        (by decide) value

/-! ## The length of the line -/

/-- The length of the longest line of a packet without strings. -/
def longestLine (className : String) (args : List Arg) : Nat :=
  lineLength className "][InputData] " args fun arg =>
    match arg.type with
    | .integer type => IntType.longestText type
    | _ => 0

/-- The fields that make a packet stand all messages. -/
def Sturdy (className : String) (args : List Arg) : Prop :=
  (∀ arg ∈ args, arg.type ≠ .string) ∧
    longestLine className args < kMaxBufferLength

/-! ## The message with the longest line -/

/-- The fields hold the values that are given for them. -/
def fieldStore (value : Arg → Value) : List Arg → Store
  | [] => fun _ => .text []
  | arg :: args =>
      Function.update (fieldStore value args) arg.name (value arg)

theorem fieldStore_of_mem (value : Arg → Value)
    {args : List Arg} (distinct : (args.map Arg.name).Nodup) {arg : Arg}
    (member : arg ∈ args) : fieldStore value args arg.name = value arg := by
  induction args with
  | nil => simp at member
  | cons first args inductionHypothesis =>
      obtain ⟨new, distinctRest⟩ := List.nodup_cons.mp distinct
      rw [fieldStore]
      rcases List.mem_cons.mp member with rfl | among
      · exact Function.update_self _ _ _
      · rw [Function.update_of_ne]
        · exact inductionHypothesis distinctRest among
        · intro same
          exact new (same ▸ List.mem_map_of_mem among)

/-- Whether a field is the length of one of the strings. -/
def IsLength (args : List Arg) (arg : Arg) : Prop :=
  ∃ text ∈ args, text.type = .string ∧ arg.name = nameLength text.name

instance (args : List Arg) (arg : Arg) : Decidable (IsLength args arg) :=
  inferInstanceAs (Decidable (∃ text ∈ args, _))

/-- Strings as long as the array of the logger, and the integers with the
longest texts. -/
def longestValue (args : List Arg) (arg : Arg) : Value :=
  match arg.type with
  | .integer type =>
      if IsLength args arg then
        .integer type kMaxBufferLength
      else
        .integer type (IntType.longest type)
  | .string => .text (List.replicate kMaxBufferLength 120)
  | .charPointer => .chars []

/-- The variables with the longest line. -/
def longestStore (args : List Arg) : Store :=
  fieldStore (longestValue args) args

section

variable {className : String} {args : List Arg}

theorem longestStore_assignment (schema : Schema ShortLength args)
    (distinct : (args.map Arg.name).Nodup) :
    Assignment args (longestStore args) := by
  have behind := (schema.stringsBehindLengths []).length_mem
  simp only [List.append_nil] at behind
  constructor
  · intro arg member
    rw [longestStore, fieldStore_of_mem _ distinct member, longestValue]
    cases kind : arg.type with
    | string => trivial
    | charPointer => trivial
    | integer type =>
        simp only
        split_ifs with isLength
        · -- The field stands for the length that the list has by its order.
          obtain ⟨text, textMember, isString, named⟩ := isLength
          obtain ⟨lengthType, short, among⟩ :=
            (behind text textMember).2 isString
          have same := eq_of_name_eq distinct member among named
          rw [same] at kind
          cases kind
          rcases short with rfl | rfl
          · exact ⟨rfl, by decide⟩
          · exact ⟨rfl, by decide⟩
        · exact ⟨rfl, inRange_longest type⟩
  · intro arg member bytes holds
    have value := fieldStore_of_mem (longestValue args) distinct member
    rw [longestStore, value, longestValue] at holds
    cases kind : arg.type with
    | integer type =>
        simp only [kind] at holds
        split_ifs at holds
    | charPointer => simp [kind] at holds
    | string =>
        simp only [kind, Value.text.injEq] at holds
        obtain ⟨type, -, among⟩ := (behind arg member).2 kind
        refine ⟨type, ?_⟩
        rw [longestStore, fieldStore_of_mem _ distinct among, longestValue]
        have isLength : IsLength args ⟨.integer type, nameLength arg.name⟩ :=
          ⟨arg, member, kind, rfl⟩
        simp only [if_pos isLength, ← holds, List.length_replicate]

theorem length_wireFormat_longestStore (build : Build)
    (distinct : (args.map Arg.name).Nodup) :
    (wireFormat build args (longestStore args)).length ≤
      args.length * kMaxBufferLength := by
  have each :
      ∀ length ∈ args.map fun arg =>
          ((longestStore args arg.name).wire build).length,
        length ≤ kMaxBufferLength := by
    intro length member
    obtain ⟨arg, among, rfl⟩ := List.mem_map.mp member
    have room : 8 ≤ kMaxBufferLength := by decide
    rw [longestStore, fieldStore_of_mem _ distinct among, longestValue]
    cases arg.type with
    | string => simp [Value.wire]
    | charPointer => simp [Value.wire]
    | integer type =>
        have small := type.bytes_le
        simp only
        split_ifs <;>
        · rw [Value.wire, IntType.length_wire]
          omega
  have total := List.sum_le_card_nsmul _ _ each
  rwa [List.length_map, smul_eq_mul, ← List.length_flatMap] at total

/-- The line of the message is too long, unless the packet can stand all
messages. -/
theorem kMaxBufferLength_le_longestStore
    (distinct : (args.map Arg.name).Nodup)
    (weak : ¬ Sturdy className args) :
    kMaxBufferLength ≤
      lineLength className "][InputData] " args
        fun arg => (longestStore args arg.name).shownLength := by
  have holds (arg : Arg) (member : arg ∈ args) :
      longestStore args arg.name = longestValue args arg :=
    fieldStore_of_mem _ distinct member
  by_cases strings : ∃ arg ∈ args, arg.type = .string
  · obtain ⟨arg, member, isString⟩ := strings
    have long :
        (longestStore args arg.name).shownLength = kMaxBufferLength := by
      rw [holds arg member, longestValue, isString]
      simp [Value.shownLength, Value.shown]
    rw [← long]
    exact @size_le_lineLength _ _ _
      (fun arg => (longestStore args arg.name).shownLength) _ member
  · have none : ∀ arg ∈ args, arg.type ≠ .string := by
      intro arg member isString
      exact strings ⟨arg, member, isString⟩
    have long : kMaxBufferLength ≤ longestLine className args := by
      by_contra short
      exact weak ⟨none, not_le.mp short⟩
    refine long.trans (lineLength_le ?_)
    intro arg member
    have other : ¬ IsLength args arg := by
      rintro ⟨text, textMember, isString, -⟩
      exact none text textMember isString
    rw [holds arg member, longestValue]
    cases arg.type with
    | integer type =>
        simp only [if_neg other]
        exact (shownLength_longest type).ge
    | string => exact Nat.zero_le _
    | charPointer => exact Nat.zero_le _

/-! ## All messages -/

variable {build : Build}

theorem longest_message_ends (size64 : build.sizeBits = 64)
    (schema : Schema ShortLength args)
    (distinct : (args.map Arg.name).Nodup) (few : args.length < 2 ^ 32)
    (named : Identifier className)
    (fields : ∀ arg ∈ args, Identifier arg.name)
    (weak : ¬ Sturdy className args) {locals : Store}
    (typed : Typed args locals) :
    (deserializeCodec className args).deserialize build (fun _ => true)
      locals (wireFormat build args (longestStore args)) = .ended := by
  have assignment := longestStore_assignment schema distinct
  have short := length_wireFormat_longestStore build distinct
  have room : args.length * kMaxBufferLength < 2 ^ 64 := by
    rw [kMaxBufferLength]
    omega
  rcases readFields_wireFormat size64 schema distinct (fun _ => true)
      (short.trans_lt room) typed assignment with
    threw | ⟨final, runs, agree, -⟩
  · obtain ⟨count, impossible⟩ := exec_threw threw
    simp at impossible
  · have finalTyped := agree.typed assignment.typed
    have long :
        ¬ LineFits className "][InputData] " args (longestStore args) :=
      not_lt.mpr (kMaxBufferLength_le_longestStore distinct weak)
    rw [deserialize_of_running named fields schema.noPointer runs finalTyped,
      if_neg ((lineFits_congr agree).not.mpr long)]

theorem Sturdy.survives (sturdy : Sturdy className args)
    (size64 : build.sizeBits = 64)
    (schema : Schema ShortLength args)
    (distinct : (args.map Arg.name).Nodup) (few : args.length < 2 ^ 32)
    (named : Identifier className)
    (fields : ∀ arg ∈ args, Identifier arg.name)
    {locals : Store} (typed : Typed args locals) {buffer : List UInt8}
    (bounded : buffer.length + 2 ^ 32 ≤ 2 ^ 64) (resizes : Nat → Bool) :
    (deserializeCodec className args).deserialize build resizes locals
      buffer ≠ .ended := by
  rcases readFields_cases size64 schema distinct few resizes bounded typed
    with threw | ⟨final, runs, finalTyped, -, -⟩
  · rw [deserialize_of_threw threw]
    simp
  · have fits : LineFits className "][InputData] " args final.store := by
      refine lt_of_le_of_lt (lineLength_le ?_) sturdy.2
      intro arg member
      have value := finalTyped arg member
      cases kind : arg.type with
      | string => exact absurd kind (sturdy.1 arg member)
      | charPointer => exact absurd kind (schema.noPointer arg member)
      | integer type =>
          cases holds : final.store arg.name with
          | integer valueType number =>
              rw [kind, holds] at value
              obtain ⟨rfl, inRange⟩ := value
              exact shownLength_le inRange
          | text => simp [kind, holds, HasType] at value
          | chars => simp [kind, holds, HasType] at value
    rw [deserialize_of_running named fields schema.noPointer runs finalTyped,
      if_pos fits]
    simp

/--
A packet can stand all messages exactly if it has no string and its longest
line fits the array of the logger.  Otherwise a well-formed message ends the
program, wherever the variables start.
-/
theorem survives_every_message_iff (size64 : build.sizeBits = 64)
    (schema : Schema ShortLength args)
    (distinct : (args.map Arg.name).Nodup) (few : args.length < 2 ^ 32)
    (named : Identifier className)
    (fields : ∀ arg ∈ args, Identifier arg.name) :
    ((∀ resizes locals buffer,
          Typed args locals → buffer.length + 2 ^ 32 ≤ 2 ^ 64 →
            (deserializeCodec className args).deserialize build resizes
              locals buffer ≠ .ended) ↔
        Sturdy className args) ∧
      (¬ Sturdy className args →
        ∃ values, Assignment args values ∧
          (wireFormat build args values).length ≤
              args.length * kMaxBufferLength ∧
            ∀ locals, Typed args locals →
              (deserializeCodec className args).deserialize build
                (fun _ => true) locals (wireFormat build args values) =
                  .ended) := by
  have assignment := longestStore_assignment schema distinct
  have short := length_wireFormat_longestStore build distinct
  refine ⟨⟨?_, ?_⟩, ?_⟩
  · intro survives
    by_contra weak
    have room : args.length * kMaxBufferLength + 2 ^ 32 ≤ 2 ^ 64 := by
      rw [kMaxBufferLength]
      omega
    exact survives _ _ _ assignment.typed (by omega)
      (longest_message_ends size64 schema distinct few named fields weak
        assignment.typed)
  · intro sturdy resizes locals buffer typed bounded
    exact sturdy.survives size64 schema distinct few named fields typed
      bounded resizes
  · intro weak
    exact ⟨longestStore args, assignment, short, fun locals typed =>
      longest_message_ends size64 schema distinct few named fields weak
        typed⟩

end

/-- A packet with a path does not stand all messages. -/
theorem survives_every_message_iff_path :
    ∃ values, Assignment pathArgs values ∧
      (wireFormat ⟨true, 64⟩ pathArgs values).length ≤ 2048 ∧
        ∀ locals, Typed pathArgs locals →
          (deserializeCodec "OpenFile" pathArgs).deserialize ⟨true, 64⟩
            (fun _ => true) locals
              (wireFormat ⟨true, 64⟩ pathArgs values) = .ended := by
  have named : Identifier "OpenFile" :=
    identifier_chars _ rfl (by simp) (by decide)
  have weak : ¬ Sturdy "OpenFile" pathArgs := by
    intro sturdy
    exact sturdy.1 ⟨.string, "path"⟩ (by simp [pathArgs]) rfl
  exact (@survives_every_message_iff "OpenFile" pathArgs ⟨true, 64⟩ rfl
    (.string (Or.inl rfl) "path" .nil) pathArgs_distinct (by decide) named
    pathArgs_named).2 weak

end LibSklt.PacketGenerator
