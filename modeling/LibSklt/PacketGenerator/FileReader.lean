import LibSklt.PacketGenerator.StatementReader

/-!
# Reading the generated file

A reader of the file that `make_cpp_string` writes.  Of `Serialize` and
`Deserialize` it reads everything; of `ProtocolProcess` it reads the
variables, the arguments of the two calls and the sums of the sizes, and it
expects the rest to be what the generator has in its text.

For lists of fields whose names are identifiers the file is read back as the
functions of the model, exactly when neither list is empty: behind
`size_t buffer_size,` and `size,` the generated text needs a field.
-/

namespace LibSklt.PacketGenerator

open LibSklt.Foundation.Tokens
open LibSklt.Util

/-- `Serialize` or `Deserialize`. -/
structure Codec where
  className : String
  parameters : List Arg
  statements : List Statement
  format : String
  values : List LogValue
deriving DecidableEq

/-- What `ProtocolProcess` has for the fields of one direction. -/
structure Fields where
  declarations : List Arg
  names : List String
  size : List SizeTerm
deriving DecidableEq

/-- The parts of `ProtocolProcess` that depend on the fields. -/
structure Handler where
  className : String
  request : Fields
  response : Fields
deriving DecidableEq

structure CppFile where
  handler : Handler
  serialize : Codec
  deserialize : Codec
deriving DecidableEq

/-! ## Readers -/

/-- A list with commas between its items. -/
def readList {α : Type} (read : List Token → Option α)
    (found : List Token) : Option (List α) :=
  (found.splitOn (.mark ',')).mapM read

/-- A sum. -/
def readSum (found : List Token) : Option (List SizeTerm) :=
  (found.splitOn (.mark '+')).mapM readSizeTerm

/-- Items with a semicolon behind each. -/
def readLines (found : List Token) : Option (List (List Token)) :=
  match (found.splitOn (.mark ';')).reverse with
  | [] :: lines => some lines.reverse
  | _ => none

/-- What stands before the closing parenthesis at the end. -/
def readClosed (found : List Token) : Option (List Token) :=
  match found.reverse with
  | .mark ')' :: inside => some inside.reverse
  | _ => none

def readQuoted : List Token → Option (String × List Token)
  | .quoted text :: found => some (text, found)
  | _ => none

/-- A call of the logger. -/
def readLog (found : List Token) : Option (String × List LogValue) := do
  let found ← expect "ST_LOGGER.Info(" found
  let (format, found) ← readQuoted found
  let found ← expect "," found
  let values ← readClosed found
  let values ← readList readLogValue values
  some (format, values)

/-- The head of `Serialize` or `Deserialize`. -/
def readSignature (name : String) (found : List Token) :
    Option (String × List Arg × List Token) := do
  let found ← expect "size_t" found
  let (className, found) ← readWord found
  let found ← expect name found
  let (parameters, found) ← upTo (.mark ')') found
  let parameters ← readList readParameter parameters
  let found ← expect "\x7b" found
  some (className, parameters, found)

/-- `Serialize`. -/
def readSerialize (found : List Token) :
    Option (Codec × List Token) := do
  let (className, parameters, found) ←
    readSignature "::Serialize(char* buffer, size_t buffer_size," found
  let (body, found) ← upTo (.mark '\x7d') found
  match ← readLines body with
  | log :: index :: lines =>
      let (format, values) ← readLog log
      match lines.reverse with
      | last :: statements =>
          let statements ← statements.reverse.mapM readStatement
          if index = tokens "size_t buffer_idx = 0" ∧
              last = tokens "return buffer_idx" then
            some (⟨className, parameters, statements, format, values⟩, found)
          else
            none
      | _ => none
  | _ => none

/-- `Deserialize`. -/
def readDeserialize (found : List Token) :
    Option (Codec × List Token) := do
  let (className, parameters, found) ←
    readSignature "::Deserialize(char* buffer, size_t buffer_size," found
  let (body, found) ← upTo (.mark '\x7d') found
  match ← readLines body with
  | index :: lines =>
      match lines.reverse with
      | last :: log :: statements =>
          let (format, values) ← readLog log
          let statements ← statements.reverse.mapM readStatement
          if index = tokens "size_t buffer_idx = 0" ∧
              last = tokens "return buffer_idx" then
            some (⟨className, parameters, statements, format, values⟩, found)
          else
            none
      | _ => none
  | _ => none

/-- `ErrorResult`. -/
def readErrorResult (className : String) (found : List Token) :
    Option (List Token) := do
  let (first, found) ← readWord found
  let found ← expect "::result_object" found
  let (second, found) ← readWord found
  let found ← expect "::ErrorResult(int16_t& result_value) \x7b" found
  let found ← expect "size_t response_size = sizeof(result_value);" found
  let found ←
    expect "char * response_buffer = COMMON_POOL::_new(response_size);" found
  let found ← expect "ST_LOGGER.Error(" found
  let (_, found) ← readQuoted found
  let found ← expect ", result_value);" found
  let found ← expect "size_t buffer_idx = 0;" found
  let found ←
    expect "result_value = BYTE_ORDER::host_to_network(result_value);" found
  let found ←
    expect "MEMORY_MANAGER::WriteToBuffer(response_buffer, response_size,"
      found
  let found ← expect "buffer_idx, &result_value);" found
  let found ←
    expect "return result_object((const char*)response_buffer, buffer_idx);"
      found
  let found ← expect "\x7d" found
  if first = className ∧ second = className then some found else none

/-- The variables of the request, the call of `Deserialize` and the sum in the
check of the size. -/
def readRequest (found : List Token) : Option (Fields × List Token) := do
  let (declarations, found) ← upTo (.word "Deserialize") found
  let declarations ← readLines declarations
  let declarations ← declarations.mapM readDeclaration
  let found ← expect "((char*)buffer, size," found
  let (names, found) ← upTo (.mark ')') found
  let names ← readList readName names
  let found ← expect ";" found
  let found ← expect "int16_t result_value = 0;" found
  let found ← expect "if(size !=" found
  let (size, found) ← upTo (.mark '\x7b') found
  let size ← readClosed size
  let size ← readSum size
  some (⟨declarations, names, size⟩, found)

/-- The answer to a buffer of another size. -/
def readRefusal (found : List Token) : Option (List Token) := do
  let found ← expect "LOG_ERROR(" found
  let (_, found) ← readQuoted found
  let found ← expect ");" found
  expect "return ErrorResult(result_value); \x7d" found

/-- The variables of the response and the check of the result. -/
def readResponse (found : List Token) : Option (List Arg × List Token) := do
  let (declarations, found) ← upTo (.word "if") found
  let declarations ← readLines declarations
  let declarations ← declarations.mapM readDeclaration
  let found ← expect "(result_value != 1) \x7b" found
  let found ← expect "return ErrorResult(result_value); \x7d" found
  let found ←
    expect "response_result_value = static_cast<uint16_t>(result_value);"
      found
  some (declarations, found)

/-- The sum for the buffer of the response and the call of `Serialize`. -/
def readAnswer (found : List Token) :
    Option (List SizeTerm × List String × List Token) := do
  let found ← expect "size_t response_size =" found
  let (size, found) ← upTo (.mark ';') found
  let size ← readSum size
  let found ←
    expect "char * response_buffer = COMMON_POOL::_new(response_size);" found
  let found ← expect "size_t response_idx = 0; response_index =" found
  let found ← expect "Serialize(response_buffer, response_size," found
  let (names, found) ← upTo (.mark ')') found
  let names ← readList readName names
  let found ← expect ";" found
  let found ← expect "ST_LOGGER.Info(" found
  let (_, found) ← readQuoted found
  let found ← expect ", response_idx);" found
  let found ←
    expect "return result_object((const char*)response_buffer," found
  let found ← expect "response_idx); \x7d" found
  some (size, names, found)

/-- `ProtocolProcess`. -/
def readProtocolProcess (found : List Token) :
    Option (Handler × List Token) := do
  let (className, found) ← readWord found
  let found ← expect "::result_object" found
  let (again, found) ← readWord found
  let found ←
    expect "::ProtocolProcess(const char * buffer, const size_t size) \x7b"
      found
  let (request, found) ← readRequest found
  let found ← readRefusal found
  let (declarations, found) ← readResponse found
  let (size, names, found) ← readAnswer found
  if again = className then
    some (⟨className, request, ⟨declarations, names, size⟩⟩, found)
  else
    none

/-- The file. -/
def readCppString (text : String) : Option CppFile := do
  let found ←
    expect "#include <util/memory_manager.h> #include <util/logger.h>"
      (tokens text)
  let found ←
    expect "#include <util/common_pool.h> #include <util/byte_order.h>" found
  let found ← expect "#include" found
  let (header, found) ← readQuoted found
  let (handler, found) ← readProtocolProcess found
  let found ← readErrorResult handler.className found
  let (serialize, found) ← readSerialize found
  let (deserialize, found) ← readDeserialize found
  if header = handler.className ++ ".h" ∧
      serialize.className = handler.className ∧
      deserialize.className = handler.className ∧ found = [] then
    some ⟨handler, serialize, deserialize⟩
  else
    none

end LibSklt.PacketGenerator
