import LibSklt.Foundation.MachineWord
import LibSklt.Net.Header

/-!
# The synchronous session (`net/sync_session_impl.h`, `sync_session_impl.cpp`)

A synchronous session sends a request and reads the reply on the caller's
thread.  What the operating system and the peer do is part of the socket: the
bytes that arrive, and what the next calls of `send` and `recv` report.  No
call transfers more than it was asked for or than there is; a result that
would do so is cut, so that every list of results is a possible behaviour.

`Recv` peeks at the header, then reads as many bytes as the header announces.
-/

namespace LibSklt.Net

open LibSklt.Foundation.MachineWord

/-- The functions of `Header` that the synchronous session calls as well. -/
class SyncHeader (H : Type) extends Header H where
  getTotalSize : H → Nat

/-! ## Sockets -/

/-- A socket, with what will happen on its connection. -/
structure SyncSocket where
  isOpen : Bool
  /-- What the next calls of `send` report; errors when there are no more. -/
  sendResults : List Int
  /-- What the next calls of `recv` report, with `MSG_PEEK` or without. -/
  recvResults : List Int
  /-- The bytes that the peer sends and that were not read. -/
  incoming : List UInt8
  /-- The bytes that were handed to the connection. -/
  sent : List UInt8
deriving DecidableEq

/-- The count that a call reports, which transfers at most what it can. -/
def transferCount (result request : Int) (available : Nat) : Int :=
  if result < 0 then -1 else min result (min (max request 0) available)

namespace SyncSocket

/-- `send(socket, bytes, request, 0)`. -/
def send (socket : SyncSocket) (bytes : List UInt8) (request : Int) :
    Int × SyncSocket :=
  match socket.sendResults with
  | [] => (-1, socket)
  | result :: results =>
      let count := transferCount result request bytes.length
      (count,
        { socket with
          sendResults := results
          sent := socket.sent ++ bytes.take count.toNat })

/-- `recv(socket, .., request, MSG_PEEK)`, with the bytes that it copies. -/
def peek (socket : SyncSocket) (request : Int) :
    Int × List UInt8 × SyncSocket :=
  match socket.recvResults with
  | [] => (-1, [], socket)
  | result :: results =>
      let count := transferCount result request socket.incoming.length
      (count, socket.incoming.take count.toNat,
        { socket with recvResults := results })

/-- `recv(socket, .., request, 0)`, with the bytes that it copies. -/
def recv (socket : SyncSocket) (request : Int) :
    Int × List UInt8 × SyncSocket :=
  match socket.recvResults with
  | [] => (-1, [], socket)
  | result :: results =>
      let count := transferCount result request socket.incoming.length
      (count, socket.incoming.take count.toNat,
        { socket with
          recvResults := results
          incoming := socket.incoming.drop count.toNat })

end SyncSocket

/-! ## Sessions -/

/-- The members of `SyncSessionImpl`. -/
structure SyncSessionImpl (H : Type) where
  socket : SyncSocket
  header : H
  /-- How much of a frame that was begun has not been read. -/
  unread : Nat

/--
Copy bytes to an offset of the memory behind a pointer.  The memory may be
longer than the buffer that the caller meant.
-/
def storeBytes (memory : List UInt8) (offset : Nat) (bytes : List UInt8) :
    List UInt8 :=
  memory.take offset ++ bytes ++ memory.drop (offset + bytes.length)

variable {H : Type}

namespace SyncSessionImpl

/-- `IsConnection`. -/
def isConnection (self : SyncSessionImpl H) : Bool :=
  self.socket.isOpen

/-- `try_count` of `Send`. -/
def tryCount : Nat := 5

/--
The loop of `Send`, with the tries that are left and `total_transferred`.
`none` is the `return false` inside of the loop.
-/
def sendLoop (buffer : List UInt8) :
    Nat → Nat → SyncSocket → Option Nat × SyncSocket
  | 0, totalTransferred, socket => (some totalTransferred, socket)
  | tries + 1, totalTransferred, socket =>
      let (bytesTransferred, socket) :=
        socket.send (buffer.drop totalTransferred)
          (signedCast 32 (buffer.length - totalTransferred : Nat))
      if bytesTransferred < 0 then
        (none, socket)
      else
        let totalTransferred := totalTransferred + bytesTransferred.toNat
        if totalTransferred < buffer.length then
          sendLoop buffer tries totalTransferred socket
        else
          (some totalTransferred, socket)

/-- `Send`; the length of the list is `buffer_size`. -/
def send (self : SyncSessionImpl H) (buffer : List UInt8) :
    Bool × SyncSessionImpl H :=
  if ¬ self.isConnection then
    (false, self)
  else if buffer.length = 0 then
    (false, self)
  else
    match sendLoop buffer tryCount 0 self.socket with
    | (none, socket) => (false, { self with socket := socket })
    | (some totalTransferred, socket) =>
        (¬ totalTransferred < buffer.length, { self with socket := socket })

section

variable [SyncHeader H]

/--
`HeaderPaser`: the length that it returns, the session, and the memory behind
`buffer`.
-/
def headerPaser (self : SyncSessionImpl H) (memory : List UInt8) :
    Nat × SyncSessionImpl H × List UInt8 :=
  let headerSize := Header.getHeaderSize self.header
  let (available, bytes, socket) :=
    self.socket.peek (signedCast 32 headerSize)
  let memory := storeBytes memory 0 bytes
  if available ≠ headerSize then
    (0, { self with socket := socket }, memory)
  else
    let header := (Header.deserialize self.header bytes headerSize).1
    let self := { self with socket := socket, header := header }
    if ¬ Header.validate header then
      (0, self, memory)
    else
      (SyncHeader.getTotalSize header, self, memory)

/-- The state of the loop of `BodyPaser`. -/
structure Reading where
  bytesTransferred : Nat
  socket : SyncSocket
  memory : List UInt8

/--
The loop of `BodyPaser`, along the results of the calls of `recv`.  The
Boolean says whether it left the loop at its end.
-/
def bodyLoop (totalLength : Nat) :
    List Int → Reading → Bool × Reading
  | [], reading => (¬ reading.bytesTransferred < totalLength, reading)
  | _ :: results, reading =>
      if reading.bytesTransferred < totalLength then
        let (transferred, bytes, socket) :=
          reading.socket.recv
            (signedCast 32 totalLength - reading.bytesTransferred)
        if transferred ≤ 0 then
          (false, { reading with socket := socket })
        else
          bodyLoop totalLength results
            ⟨reading.bytesTransferred + transferred.toNat, socket,
              storeBytes reading.memory reading.bytesTransferred bytes⟩
      else
        (true, reading)

/-- `BodyPaser`. -/
def bodyPaser (self : SyncSessionImpl H) (memory : List UInt8)
    (totalLength : Nat) : Bool × SyncSessionImpl H × List UInt8 :=
  let (finished, reading) :=
    bodyLoop totalLength self.socket.recvResults ⟨0, self.socket, memory⟩
  let self := { self with socket := reading.socket }
  if finished then
    let self :=
      if reading.bytesTransferred = 0 then self
      else { self with unread := 0 }
    (Header.checkEndmarker self.header
        (reading.memory.take reading.bytesTransferred)
        reading.bytesTransferred,
      self, reading.memory)
  else
    let self :=
      if reading.bytesTransferred = 0 then self
      else { self with unread := totalLength - reading.bytesTransferred }
    (false, self, reading.memory)

/-- `Paser`; the test `total_length < 0` of an unsigned number never holds. -/
def paser (self : SyncSessionImpl H) (memory : List UInt8) :
    Bool × SyncSessionImpl H × List UInt8 :=
  let (totalLength, self, memory) := self.headerPaser memory
  self.bodyPaser memory totalLength

/-- `Recv`, which does not look at what `Paser` returns. -/
def recv (self : SyncSessionImpl H) (memory : List UInt8) :
    Bool × SyncSessionImpl H × List UInt8 :=
  if ¬ self.isConnection then
    (false, self, memory)
  else
    let (_, self, memory) := self.paser memory
    (true, self, memory)

end

/-- `Close`, as far as the socket is concerned. -/
def close (self : SyncSessionImpl H) : SyncSessionImpl H :=
  { self with socket := { self.socket with isOpen := false } }

end SyncSessionImpl

end LibSklt.Net
