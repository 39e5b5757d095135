import LibSklt.Util.IntegerTypes

/-!
# The packet generator (`packet_generator/packet_generator.py`)

The generator turns a list of fields, each a type and a name, into the
functions `Serialize`, `Deserialize` and `ProtocolProcess` of a packet.  What
it writes for a field depends on the type only: an integer is swapped and
copied, a string is resized to the variable `<name>_length` and copied with
that length.  The emitted statements are kept as data here; the next module
says what they do.
-/

namespace LibSklt.PacketGenerator

open LibSklt.Util

/-- The C++ types of `type_dictionary`. -/
inductive CppType where
  | integer (type : IntType)
  | string
  | charPointer
deriving DecidableEq

/-- `type_dictionary`. -/
def typeDictionary : List (String × CppType) :=
  [("char", .integer .int8),
    ("uchar", .integer .uint8),
    ("int8_t", .integer .int8),
    ("uint8_t", .integer .uint8),
    ("short", .integer .int16),
    ("int16", .integer .int16),
    ("ushort", .integer .uint16),
    ("uint16", .integer .uint16),
    ("int", .integer .int32),
    ("int32", .integer .int32),
    ("uint", .integer .uint32),
    ("uint32", .integer .uint32),
    ("int64", .integer .int64),
    ("uint64", .integer .uint64),
    ("string", .string),
    ("char[]", .charPointer)]

/-- `type_replacement`; a type that is not in the table is an error. -/
def typeReplacement (defType : String) : Option CppType :=
  typeDictionary.lookup defType

/-- An element of the lists of arguments: the type and the name. -/
structure Arg where
  type : CppType
  name : String
deriving DecidableEq

/-- The variable that holds the length of a string. -/
def nameLength (name : String) : String :=
  name ++ "_length"

/-- The statements that the generator writes into the two functions. -/
inductive Statement where
  /-- `name.resize(name_length);` -/
  | resize (name length : String)
  /-- `name = BYTE_ORDER::host_to_network(name);` -/
  | hostToNetwork (name : String)
  /-- `name = BYTE_ORDER::network_to_host(name);` -/
  | networkToHost (name : String)
  /-- `WriteToBuffer(buffer, buffer_size, buffer_idx, &name);` -/
  | writeValue (name : String)
  /-- `WriteToBuffer(.., &name[0], name_length);` -/
  | writeText (name length : String)
  /-- `WriteToBuffer(.., name, BYTE_ORDER::network_to_host(name_length));` -/
  | writeChars (name length : String)
  /-- `ReadFromBuffer(buffer, buffer_size, buffer_idx, &name);` -/
  | readValue (name : String)
  /-- `ReadFromBuffer(.., &name[0], name_length);` -/
  | readText (name length : String)
  /-- `ReadFromBuffer(.., name, name_length);` -/
  | readChars (name length : String)
deriving DecidableEq

/-- What `make_cpp_serialize` writes for one argument. -/
def serializeArg (arg : Arg) : List Statement :=
  match arg.type with
  | .string =>
      [.resize arg.name (nameLength arg.name),
        .writeText arg.name (nameLength arg.name)]
  | .charPointer => [.writeChars arg.name (nameLength arg.name)]
  | .integer _ => [.hostToNetwork arg.name, .writeValue arg.name]

/-- `make_cpp_serialize`: the body of `Serialize`. -/
def makeCppSerialize (recvArgs : List Arg) : List Statement :=
  recvArgs.flatMap serializeArg

/-- What `make_cpp_unserialize` writes for one argument. -/
def unserializeArg (arg : Arg) : List Statement :=
  match arg.type with
  | .string =>
      [.resize arg.name (nameLength arg.name),
        .readText arg.name (nameLength arg.name)]
  | .charPointer => [.readChars arg.name (nameLength arg.name)]
  | .integer type =>
      if type = .uint8 ∨ type = .int8 then
        [.readValue arg.name]
      else
        [.readValue arg.name, .networkToHost arg.name]

/-- `make_cpp_unserialize`: the body of `Deserialize`. -/
def makeCppUnserialize (sendArgs : List Arg) : List Statement :=
  sendArgs.flatMap unserializeArg

/-- A summand of a size. -/
inductive SizeTerm where
  /-- `sizeof(name)`. -/
  | sizeOf (name : String)
  /-- The value of a variable. -/
  | variable (name : String)
deriving DecidableEq

/-- The summand of `make_arg_get_size` for one argument. -/
def argGetSize (arg : Arg) : SizeTerm :=
  match arg.type with
  | .string => .variable (nameLength arg.name)
  | .charPointer => .variable (nameLength arg.name)
  | .integer _ => .sizeOf arg.name

/--
`make_arg_get_size`.  The prefix of the caller's variables is left out: the
references bind each of them to the parameter of the same name.
-/
def makeArgGetSize (args : List Arg) : List SizeTerm :=
  args.map argGetSize

end LibSklt.PacketGenerator
