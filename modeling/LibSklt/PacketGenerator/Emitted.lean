import LibSklt.PacketGenerator.Generator
import LibSklt.Util.MemoryManager

/-!
# What the generated code does

The statements of the generator work on the variables of the packet, on a
buffer and on the cursor `buffer_idx`.  A read or a write that does not fit
returns `false`; the generated code ignores that and goes on at the same
cursor.  `resize` may throw, which ends the function.

The calls of the logger in `Serialize` and `Deserialize` come before and
after these statements; they are added where the format of the line is known.

`wireFormat` is the format the functions are meant for: the integers in
network order, or in host order without `_ENABLE`, and the strings as they
are.
-/

namespace LibSklt.PacketGenerator

open LibSklt.Foundation.MachineWord
open LibSklt.Util
open LibSklt.Util.ByteOrder
open LibSklt.Util.MemoryManager

/-- The value of a variable of the generated code. -/
inductive Value where
  | integer (type : IntType) (value : Int)
  | text (bytes : List UInt8)
  /-- A pointer, with the memory that it points to. -/
  | chars (memory : List UInt8)
deriving DecidableEq

/-- The variables of a packet, by name. -/
abbrev Store := String → Value

/-- The state of one of the generated functions. -/
structure Frame where
  store : Store
  buffer : List UInt8
  bufferIdx : Nat

/-- How far a function came. -/
inductive Run where
  | running (frame : Frame)
  | threw
  /-- The code read or wrote outside of a variable's memory. -/
  | undefined

/-- Go on with a function that neither threw nor left its memory. -/
def Run.andThen (run : Run) (next : Frame → Run) : Run :=
  match run with
  | .running frame => next frame
  | .threw => .threw
  | .undefined => .undefined

namespace Frame

/-- Assign a variable. -/
def assign (frame : Frame) (name : String) (value : Value) : Frame :=
  { frame with store := Function.update frame.store name value }

/--
`WriteToBuffer`, with its result ignored.  Where the sum in its check wraps
around, it copies over the end of the buffer.
-/
def write (sizeBits : Nat) (frame : Frame) (target : List UInt8) : Run :=
  match writeToBuffer sizeBits frame.buffer frame.buffer.length
      frame.bufferIdx target with
  | some (buffer, bufferIdx) =>
      if frame.bufferIdx + target.length ≤ frame.buffer.length then
        .running { frame with buffer := buffer, bufferIdx := bufferIdx }
      else
        .undefined
  | none => .running frame

/-- `ReadFromBuffer` into a variable, with its result ignored. -/
def read (sizeBits : Nat) (frame : Frame) (name : String)
    (value : List UInt8 → Value) (targetSize : Nat) : Run :=
  match readFromBuffer sizeBits frame.buffer frame.buffer.length
      frame.bufferIdx targetSize with
  | some (bytes, bufferIdx) =>
      if frame.bufferIdx + targetSize ≤ frame.buffer.length then
        .running
          { frame.assign name (value bytes) with bufferIdx := bufferIdx }
      else
        .undefined
  | none => .running frame

end Frame

/-- `std::string::resize`, where it does not throw. -/
def resized (count : Nat) (bytes : List UInt8) : List UInt8 :=
  bytes.take count ++ List.replicate (count - bytes.length) 0

/--
One statement.  `resizes` says for which lengths `resize` succeeds; lengths
are converted to `size_t`.
-/
def Statement.exec (build : Build) (resizes : Nat → Bool)
    (statement : Statement) (frame : Frame) : Run :=
  match statement with
  | .resize name length =>
      match frame.store name, frame.store length with
      | .text bytes, .integer _ value =>
          let count := unsignedCast build.sizeBits value
          if resizes count then
            .running (frame.assign name (.text (resized count bytes)))
          else
            .threw
      | _, _ => .undefined
  | .hostToNetwork name =>
      match frame.store name with
      | .integer type value =>
          .running (frame.assign name
            (.integer type (type.hostToNetwork build value)))
      | _ => .undefined
  | .networkToHost name =>
      match frame.store name with
      | .integer type value =>
          .running (frame.assign name
            (.integer type (type.networkToHost build value)))
      | _ => .undefined
  | .writeValue name =>
      match frame.store name with
      | .integer type value =>
          frame.write build.sizeBits (type.image value)
      | _ => .undefined
  | .writeText name length =>
      match frame.store name, frame.store length with
      | .text bytes, .integer _ value =>
          let count := unsignedCast build.sizeBits value
          if count ≤ bytes.length then
            frame.write build.sizeBits (bytes.take count)
          else
            .undefined
      | _, _ => .undefined
  | .writeChars name length =>
      match frame.store name, frame.store length with
      | .chars memory, .integer type value =>
          let count :=
            unsignedCast build.sizeBits (type.networkToHost build value)
          if count ≤ memory.length then
            frame.write build.sizeBits (memory.take count)
          else
            .undefined
      | _, _ => .undefined
  | .readValue name =>
      match frame.store name with
      | .integer type _ =>
          frame.read build.sizeBits name
            (fun bytes => .integer type (type.ofImage bytes)) type.bytes
      | _ => .undefined
  | .readText name length =>
      match frame.store name, frame.store length with
      | .text old, .integer _ value =>
          let count := unsignedCast build.sizeBits value
          if count ≤ old.length then
            frame.read build.sizeBits name
              (fun bytes => .text (bytes ++ old.drop count)) count
          else
            .undefined
      | _, _ => .undefined
  | .readChars name length =>
      match frame.store name, frame.store length with
      | .chars memory, .integer _ value =>
          let count := unsignedCast build.sizeBits value
          if count ≤ memory.length then
            frame.read build.sizeBits name
              (fun bytes => .chars (bytes ++ memory.drop count)) count
          else
            .undefined
      | _, _ => .undefined

/-- The statements of a function, one after the other. -/
def exec (build : Build) (resizes : Nat → Bool) :
    List Statement → Frame → Run
  | [], frame => .running frame
  | statement :: statements, frame =>
      (statement.exec build resizes frame).andThen
        (exec build resizes statements)

/-- The value of a summand of a size. -/
def SizeTerm.eval (sizeBits : Nat) (store : Store) : SizeTerm → Nat
  | .sizeOf name =>
      match store name with
      | .integer type _ => type.bytes
      | _ => 0
  | .variable name =>
      match store name with
      | .integer _ value => unsignedCast sizeBits value
      | _ => 0

/-- The value of a size, as a `size_t`. -/
def getSize (sizeBits : Nat) (store : Store) (terms : List SizeTerm) : Nat :=
  terms.foldl (fun size term => addWord sizeBits size
    (term.eval sizeBits store)) 0

/-- The statements of `Serialize` behind its call of the logger. -/
def writeFields (build : Build) (resizes : Nat → Bool)
    (recvArgs : List Arg) (store : Store) (buffer : List UInt8) : Run :=
  exec build resizes (makeCppSerialize recvArgs) ⟨store, buffer, 0⟩

/-- The statements of `Deserialize` in front of its call of the logger. -/
def readFields (build : Build) (resizes : Nat → Bool)
    (sendArgs : List Arg) (store : Store) (buffer : List UInt8) : Run :=
  exec build resizes (makeCppUnserialize sendArgs) ⟨store, buffer, 0⟩

/-! ## Fields and the wire format -/

/-- A value of the type. -/
def HasType : CppType → Value → Prop
  | .integer type, .integer valueType value =>
      valueType = type ∧ type.InRange value
  | .string, .text _ => True
  | .charPointer, .chars _ => True
  | _, _ => False

/-- The variables have the types of the arguments. -/
def Typed (args : List Arg) (store : Store) : Prop :=
  ∀ arg ∈ args, HasType arg.type (store arg.name)

/-- Each variable for a length holds the length of its string. -/
def Consistent (args : List Arg) (store : Store) : Prop :=
  ∀ arg ∈ args, ∀ bytes, store arg.name = .text bytes →
    ∃ type, store (nameLength arg.name) = .integer type bytes.length

/-- The bytes of a value on the wire. -/
def Value.wire (build : Build) : Value → List UInt8
  | .integer type value => type.wire build value
  | .text bytes => bytes
  | .chars memory => memory

/-- The bytes of the fields on the wire. -/
def wireFormat (build : Build) (args : List Arg) (store : Store) :
    List UInt8 :=
  args.flatMap fun arg => (store arg.name).wire build

/-- The same value in each of the fields. -/
def Agree (args : List Arg) (first second : Store) : Prop :=
  ∀ arg ∈ args, first arg.name = second arg.name

/--
The lists of fields in which each string stands behind its length, which is
an integer of one of the given types.
-/
inductive Schema (lengths : IntType → Prop) : List Arg → Prop where
  | nil : Schema lengths []
  | integer (type : IntType) (name : String) {args : List Arg}
      (rest : Schema lengths args) :
      Schema lengths (⟨.integer type, name⟩ :: args)
  | string {type : IntType} (allowed : lengths type) (name : String)
      {args : List Arg} (rest : Schema lengths args) :
      Schema lengths
        (⟨.integer type, nameLength name⟩ :: ⟨.string, name⟩ :: args)

end LibSklt.PacketGenerator
