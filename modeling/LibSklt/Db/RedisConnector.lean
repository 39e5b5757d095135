import LibSklt.Foundation.CString
import LibSklt.Foundation.MachineWord

/-!
# The Redis connector (`db/redis_connector.h`, `lib/redis_connector.cpp`)

`RedisConnector::Paser` receives into the caller's buffer and hands the
buffer to the handler of the reply's first character, until a handler is
satisfied.  The handlers look for line ends with `strstr` and measure what is
there with `strlen`, on a buffer that `recv` does not terminate; a scan over
the end of the buffer has no defined result.

Three slips of the loop are embedded as they stand.  `recv`'s result is
stored in a `size_t`, so that a failure counts as a large positive number.
The next chunk is stored behind the last one only, not behind everything
received.  No handler sets `retry` back to `false`.
-/

namespace LibSklt.Db

open LibSklt.Foundation.CString
open LibSklt.Foundation.MachineWord

/-- `RedisConnector::RC_IDENTIFIER`. -/
def rcIdentifier : List UInt8 := [13, 10]

/-- `RedisConnector::RC_ERROR`. -/
def rcError : UInt8 := 45

/-- `RedisConnector::RC_INLINE`. -/
def rcInline : UInt8 := 43

/-- `RedisConnector::RC_BULK`. -/
def rcBulk : UInt8 := 36

/-- `RedisConnector::RC_MULTIBULK`. -/
def rcMultiBulk : UInt8 := 42

/-- `RedisConnector::RC_INT`. -/
def rcInt : UInt8 := 58

/-- The members that hold the last reply of each kind. -/
structure RedisConnector where
  error : List UInt8
  inline : List UInt8
  bulk : List UInt8
  multiBulk : List (List UInt8)
  int : Int
deriving DecidableEq

/-- How a handler ends. -/
inductive Status where
  | done
  /-- The handler set `retry`. -/
  | retry
  /-- An exception left the handler. -/
  | threw
  /-- The handler read behind the end of the buffer. -/
  | overrun
deriving DecidableEq

/-! ## The handlers -/

/-- `IdentifierParseToString`: the text before the line end, and the rest. -/
def identifierParseToString (buffer : List UInt8) :
    Option (Option (List UInt8 × List UInt8)) :=
  (strstr rcIdentifier buffer).map
    (Option.map fun position =>
      (buffer.take position, buffer.drop position))

/-- `IdentifierParseToInt`: the number before the line end, and the rest. -/
def identifierParseToInt (buffer : List UInt8) :
    Option (Option (Int × List UInt8)) :=
  (strstr rcIdentifier buffer).map
    (Option.map fun position =>
      (atoi (buffer.take position), buffer.drop position))

/-- What `Bulk` returns and leaves in its reference parameters. -/
inductive BulkResult where
  | position (value rest : List UInt8)
  | null (retry : Bool)
  | threw
  | overrun
deriving DecidableEq

/--
The second half of `RedisConnector::Bulk`, behind the line with the length.
The announced length is added to the length of the line end in `size_t`, also
when it is negative; `assign` throws for a negative length.
-/
def bulkContent (sizeBits : Nat) (bodyLength : Int)
    (content : List UInt8) : BulkResult :=
  match strlen content with
  | none => .overrun
  | some length =>
      if length <
          addWord sizeBits (unsignedCast sizeBits bodyLength)
            rcIdentifier.length then
        .null true
      else if bodyLength < 0 then
        .threw
      else
        .position (content.take bodyLength.toNat)
          (content.drop (bodyLength.toNat + rcIdentifier.length))

/-- `RedisConnector::Bulk`. -/
def bulk (sizeBits : Nat) (buffer : List UInt8) : BulkResult :=
  match identifierParseToInt buffer with
  | none => .overrun
  | some none => .null false
  | some (some (bodyLength, atLineEnd)) =>
      bulkContent sizeBits bodyLength
        (atLineEnd.drop rcIdentifier.length)

/-- A handler for a reply of one line, with what it does to the members. -/
def lineProcessing {Value : Type}
    (parse : List UInt8 → Option (Option (Value × List UInt8)))
    (assign : Value → RedisConnector → RedisConnector)
    (buffer : List UInt8) (self : RedisConnector) :
    RedisConnector × Status :=
  match parse buffer with
  | none => (self, .overrun)
  | some none => (self, .done)
  | some (some (value, _)) => (assign value self, .done)

/-- `RedisConnector::ErrorProcessing`. -/
def errorProcessing :
    List UInt8 → RedisConnector → RedisConnector × Status :=
  lineProcessing identifierParseToString
    fun value self => { self with error := value }

/-- `RedisConnector::InlineProcessing`. -/
def inlineProcessing :
    List UInt8 → RedisConnector → RedisConnector × Status :=
  lineProcessing identifierParseToString
    fun value self => { self with inline := value }

/-- `RedisConnector::IntProcessing`. -/
def intProcessing :
    List UInt8 → RedisConnector → RedisConnector × Status :=
  lineProcessing identifierParseToInt
    fun value self => { self with int := value }

/-- `RedisConnector::BulkProcessing`. -/
def bulkProcessing (sizeBits : Nat) (buffer : List UInt8)
    (self : RedisConnector) : RedisConnector × Status :=
  match bulk sizeBits buffer with
  | .position value _ => ({ self with bulk := value }, .done)
  | .null retry => (self, if retry then .retry else .done)
  | .threw => (self, .threw)
  | .overrun => (self, .overrun)

/--
The loop of `MultiBulkProcessing`, with the elements found so far.  A
character other than the marker of an element is not skipped.
-/
def bulks (sizeBits : Nat) :
    Nat → List UInt8 → List (List UInt8) → List (List UInt8) × Status
  | 0, _, values => (values, .done)
  | _ + 1, [], values => (values, .overrun)
  | count + 1, byte :: rest, values =>
      if byte = rcBulk then
        match bulk sizeBits rest with
        | .position value behind =>
            bulks sizeBits count behind (values ++ [value])
        | .null retry => (values, if retry then .retry else .done)
        | .threw => (values, .threw)
        | .overrun => (values, .overrun)
      else
        bulks sizeBits count (byte :: rest) values

/-- `RedisConnector::MultiBulkProcessing`. -/
def multiBulkProcessing (sizeBits : Nat) (buffer : List UInt8)
    (self : RedisConnector) : RedisConnector × Status :=
  match identifierParseToInt buffer with
  | none => (self, .overrun)
  | some none => (self, .done)
  | some (some (bulkCount, atLineEnd)) =>
      let found :=
        bulks sizeBits bulkCount.toNat
          (atLineEnd.drop rcIdentifier.length) []
      ({ self with multiBulk := found.1 }, found.2)

/-- The table that `ProcessFuncRegister` fills. -/
def processFunc (sizeBits : Nat) (marker : UInt8) :
    Option (List UInt8 → RedisConnector → RedisConnector × Status) :=
  if marker = rcError then some errorProcessing
  else if marker = rcInline then some inlineProcessing
  else if marker = rcBulk then some (bulkProcessing sizeBits)
  else if marker = rcMultiBulk then some (multiBulkProcessing sizeBits)
  else if marker = rcInt then some intProcessing
  else none

/-- The call of the handler in `Paser`; other markers are ignored. -/
def processing (sizeBits : Nat) (buffer : List UInt8)
    (self : RedisConnector) : RedisConnector × Status :=
  match buffer with
  | [] => (self, .overrun)
  | marker :: passbuffer =>
      match processFunc sizeBits marker with
      | some handler => handler passbuffer self
      | none => (self, .done)

/-! ## The loop of `Paser` -/

/-- A result of `recv`: `-1`, or the bytes that were received. -/
inductive RecvResult where
  | failed
  | received (bytes : List UInt8)
deriving DecidableEq

/-- The bytes that came with a result. -/
def RecvResult.bytes : RecvResult → List UInt8
  | .failed => []
  | .received bytes => bytes

/-- The result stored in a `size_t`. -/
def RecvResult.available (sizeBits : Nat) : RecvResult → Nat
  | .failed => unsignedCast sizeBits (-1)
  | .received bytes => bytes.length

/-- Bytes stored at an offset; `none` where they do not fit. -/
def store (buffer : List UInt8) (offset : Nat) (bytes : List UInt8) :
    Option (List UInt8) :=
  if bytes = [] then
    some buffer
  else if offset + bytes.length ≤ buffer.length then
    some (buffer.take offset ++ bytes ++
      buffer.drop (offset + bytes.length))
  else
    none

/-- The variables of `Paser` between two iterations. -/
structure PaserState where
  buffer : List UInt8
  availableBytesTransferred : Nat
  retry : Bool
  connector : RedisConnector
  recvCalls : Nat

/-- How a call of `Paser` ends, or that it still waits in `recv`. -/
inductive Outcome where
  | returned (result : Bool) (connector : RedisConnector)
  | threw (connector : RedisConnector)
  | overrun
  | waiting (connector : RedisConnector)
deriving DecidableEq

/-- The loop of `Paser`, and the number of calls of `recv` it made. -/
def paserLoop (sizeBits : Nat) :
    List RecvResult → PaserState → Outcome × Nat
  | [], state => (.waiting state.connector, state.recvCalls)
  | result :: results, state =>
      match store state.buffer state.availableBytesTransferred
          result.bytes with
      | none => (.overrun, state.recvCalls + 1)
      | some buffer =>
          if 0 < result.available sizeBits then
            match processing sizeBits buffer state.connector with
            | (connector, .threw) =>
                (.threw connector, state.recvCalls + 1)
            | (_, .overrun) => (.overrun, state.recvCalls + 1)
            | (connector, status) =>
                if state.retry || status == .retry then
                  paserLoop sizeBits results
                    { buffer := buffer
                      availableBytesTransferred := result.available sizeBits
                      retry := true
                      connector := connector
                      recvCalls := state.recvCalls + 1 }
                else
                  (.returned true connector, state.recvCalls + 1)
          else
            (.returned false state.connector, state.recvCalls + 1)

/-- `RedisConnector::Paser` on a sequence of results of `recv`. -/
def paser (sizeBits : Nat) (self : RedisConnector)
    (buffer : List UInt8) (results : List RecvResult) : Outcome × Nat :=
  paserLoop sizeBits results
    { buffer := buffer
      availableBytesTransferred := 0
      retry := false
      connector := self
      recvCalls := 0 }

end LibSklt.Db
