import LibSklt.Net.SyncSessionImpl
import LibSklt.Util.Pool

/-!
# The pool of connections (`net/sync_session_pool.h`, `sync_session_pool.cpp`)

`PacketProcess` takes sessions from a queue until one of them has sent the
request and received the reply.  A session that fails is closed and dropped;
from time to time the maintenance opens connections for those that are gone.

What the environment decides in one round of the loop is an `Iteration`.  A
call is a function of the rounds; when they run out, it is still in its loop.
-/

namespace LibSklt.Net

open LibSklt.Foundation.MachineWord
open LibSklt.Util

/-- The members of `SyncSessionPool`. -/
structure SyncSessionPool (H : Type) where
  sessionContainer : Pool (SyncSessionImpl H)
  sizePoolCnt : Nat
  sizeConnectionCnt : Nat

/-- How `Connect` ends. -/
inductive ConnectResult where
  /-- The connection stands; the lists say what will happen on it. -/
  | connected (sendResults recvResults : List Int) (incoming : List UInt8)
  | failed
  /-- The resolver threw, outside of the `try` block. -/
  | threw

/-- What the environment decides in one round of `PacketProcess`. -/
structure Iteration where
  /-- The maintenance interval has passed. -/
  timerExpired : Bool
  connects : List ConnectResult
  /-- Closing the socket reports an error, which `Close` throws. -/
  closeFails : Bool

variable {H : Type}

namespace SyncSessionPool

variable (sizeBits : Nat)

/-- `GetConnectionCount`. -/
def getConnectionCount (self : SyncSessionPool H) : Nat :=
  self.sizeConnectionCnt

/-- `ConnectionCountSub`. -/
def connectionCountSub (self : SyncSessionPool H) : SyncSessionPool H :=
  { self with
    sizeConnectionCnt := subWord sizeBits self.sizeConnectionCnt 1 }

/-- `Restore`. -/
def restore (self : SyncSessionPool H) (session : SyncSessionImpl H) :
    Bool × SyncSessionPool H :=
  let (restored, container) :=
    self.sessionContainer.restore sizeBits (some session) false
  (restored, { self with sessionContainer := container })

/-- `Connetion`, after `Connect` returned `true`. -/
def connetion (self : SyncSessionPool H) (session : SyncSessionImpl H) :
    Bool × SyncSessionPool H :=
  let (restored, self) := self.restore sizeBits session
  if restored then
    (true,
      { self with
        sizeConnectionCnt := addWord sizeBits self.sizeConnectionCnt 1 })
  else
    (false, self)

/-- The session that `CreateObject` makes, once it is connected. -/
def connectedSession (header : H) (sendResults recvResults : List Int)
    (incoming : List UInt8) : SyncSessionImpl H where
  socket :=
    { isOpen := true
      sendResults := sendResults
      recvResults := recvResults
      incoming := incoming
      sent := [] }
  header := header
  unread := 0

/--
`CreateObject(count)`.  The Boolean says whether an exception left it; no
further results of `Connect` are failures.
-/
def createObject (makeHeader : H) :
    Nat → List ConnectResult → SyncSessionPool H →
      Bool × SyncSessionPool H
  | 0, _, self => (false, self)
  | _ + 1, [], self => (false, self)
  | count + 1, result :: results, self =>
      match result with
      | .threw => (true, self)
      | .failed => (false, self)
      | .connected sendResults recvResults incoming =>
          let session :=
            connectedSession makeHeader sendResults recvResults incoming
          let (created, self) := self.connetion sizeBits session
          if created then
            createObject makeHeader count results self
          else
            (false, self)

/-- `MaintenanceManager`; the Boolean says whether an exception left it. -/
def maintenanceManager (makeHeader : H) (iteration : Iteration)
    (self : SyncSessionPool H) : Bool × SyncSessionPool H :=
  if iteration.timerExpired then
    if self.sizeConnectionCnt < self.sizePoolCnt then
      self.createObject sizeBits makeHeader
        (self.sizePoolCnt - self.sizeConnectionCnt) iteration.connects
    else
      (false, self)
  else
    (false, self)

/-- `Acquire`; `none` is an exception. -/
def acquire (makeHeader : H) (iteration : Iteration)
    (self : SyncSessionPool H) :
    Option (Option (SyncSessionImpl H)) × SyncSessionPool H :=
  let (threw, self) :=
    self.maintenanceManager sizeBits makeHeader iteration
  if threw then
    (none, self)
  else
    let (session, container) := self.sessionContainer.acquire sizeBits
    (some session, { self with sessionContainer := container })

/-- A session that `PacketProcess` took from the queue. -/
structure Attempt (H : Type) where
  before : SyncSessionImpl H
  after : SyncSessionImpl H
  /-- The memory behind `recvbuffer` after the attempt. -/
  recvBuffer : List UInt8
  /-- The session is back in the queue. -/
  restored : Bool

/-- How a call of `PacketProcess` ends. -/
inductive Ending where
  | returned (result : Bool)
  | threw
  /-- The call is still in its loop. -/
  | looping
deriving DecidableEq

/-- A call of `PacketProcess`, with the sessions that it took. -/
structure Outcome (H : Type) where
  ending : Ending
  pool : SyncSessionPool H
  recvBuffer : List UInt8
  attempts : List (Attempt H)

/--
`PacketProcess`.  `request` is the send buffer, `memory` what stands behind
`recvbuffer`.
-/
def packetProcess [SyncHeader H] (makeHeader : H) (request : List UInt8) :
    List Iteration → SyncSessionPool H → List UInt8 → Outcome H
  | [], self, memory => ⟨.looping, self, memory, []⟩
  | iteration :: iterations, self, memory =>
      match self.acquire sizeBits makeHeader iteration with
      | (none, self) => ⟨.threw, self, memory, []⟩
      | (some optSession, self) =>
          if self.getConnectionCount = 0 then
            ⟨.returned false, self, memory, []⟩
          else
            match optSession with
            | none => packetProcess makeHeader request iterations self memory
            | some before =>
                let (sent, session) := before.send request
                let (succeeded, session, memory) :=
                  if sent then session.recv memory
                  else (false, session, memory)
                if succeeded then
                  let (restored, self) := self.restore sizeBits session
                  ⟨.returned true, self, memory,
                    [⟨before, session, memory, restored⟩]⟩
                else
                  let attempt := ⟨before, session.close, memory, false⟩
                  if iteration.closeFails then
                    ⟨.threw, self, memory, [attempt]⟩
                  else
                    let outcome :=
                      packetProcess makeHeader request iterations
                        (self.connectionCountSub sizeBits) memory
                    { outcome with attempts := attempt :: outcome.attempts }

end SyncSessionPool

end LibSklt.Net
