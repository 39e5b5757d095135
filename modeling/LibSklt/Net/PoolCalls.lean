import LibSklt.Foundation.MachineWord
import LibSklt.Foundation.Processes
import LibSklt.Foundation.Transition
import LibSklt.Util.Pool

/-!
# Calls of `PacketProcess` that run at the same time

Several clients may be inside of `SyncSessionPool::PacketProcess` at once.
Each read or write of the connection counter and each operation on the queue
is one step; between two steps of a call the other calls may take steps.  The
outcome of connects and exchanges and the timer are decisions of the
environment.  Two exceptions leave a call: that of the resolver, and that of
`Close` after a failed exchange, which comes before `ConnectionCountSub`.

The queue is the number of its sessions.  The counter for the sessions in use
is not read by these functions and is left out.
-/

namespace LibSklt.Net.PoolCalls

open LibSklt.Foundation.MachineWord
open LibSklt.Foundation.Processes
open LibSklt.Foundation.Transition
open LibSklt.Util

/-- The constructor arguments that matter, and the width of `size_t`. -/
structure Config where
  sizeBits : Nat
  sizePoolCnt : Nat
  poolCnt_lt : sizePoolCnt < 2 ^ sizeBits

/-- The capacity of the container that `CreateContainer` makes. -/
def containerSize : Nat := 5000

/-- Who runs `CreateObject`. -/
inductive Caller where
  | constructor
  | client
deriving DecidableEq

/-- The next step of a call; `remaining` sessions are still to be created. -/
inductive Point where
  /-- The test of the timer in `MaintenanceManager`. -/
  | timer
  /-- `load_connection_count = m_sizeConnectionCnt.load()`. -/
  | loadFirst
  /-- `m_sizePoolCnt - m_sizeConnectionCnt.load()`. -/
  | loadSecond
  /-- `Connect` of a new session. -/
  | connect (remaining : Nat)
  /-- The size test of `Restore` in `Connetion`. -/
  | createSize (remaining : Nat)
  /-- `m_queue.push` of the new session. -/
  | createPush (remaining : Nat)
  /-- `m_sizeConnectionCnt.fetch_add(1)`. -/
  | countAdd (remaining : Nat)
  /-- `m_queue.empty()`. -/
  | empty
  /-- `m_queue.try_pop(object)`. -/
  | tryPop
  /-- `GetConnectionCount()`, with a session in hand or without. -/
  | loadCount (held : Bool)
  /-- `Send` and `Recv`, and after a failure `Close`. -/
  | exchange
  /-- `ConnectionCountSub`. -/
  | countSub
  /-- The size test of the last `Restore`. -/
  | restoreSize
  /-- `m_queue.push` of the session. -/
  | restorePush
deriving DecidableEq

/-- A call in progress. -/
structure Call where
  caller : Caller
  point : Point
deriving DecidableEq

/-- The members of the pool that the calls share. -/
structure Shared where
  /-- The number of sessions in `m_queue`. -/
  queued : Nat
  sizeConnectionCnt : Nat
deriving DecidableEq

structure State where
  shared : Shared
  calls : List Call
deriving DecidableEq

/-- What the environment decides about a step. -/
inductive Decision where
  | yes
  | no
  /-- The resolver throws, or `Close` does. -/
  | throw
deriving DecidableEq

inductive Event where
  /-- A client calls `PacketProcess`. -/
  | call
  /-- A call in progress takes its next step. -/
  | advance (index : Nat) (decision : Decision)
deriving DecidableEq

/-- Where a call goes on after `CreateObject(count)`; the constructor ends. -/
def afterCreation : Caller → Option Call
  | .constructor => none
  | .client => some ⟨.client, .empty⟩

/-- The head of the loop of `CreateObject(count)`. -/
def creating (caller : Caller) (remaining : Nat) : Option Call :=
  if remaining = 0 then
    afterCreation caller
  else
    some ⟨caller, .connect remaining⟩

/-- One step of a call: the members afterwards, and where the call is then. -/
def advance (config : Config) (call : Call) (decision : Decision)
    (shared : Shared) : Shared × Option Call :=
  match call.point with
  | .timer =>
      match decision with
      | .yes => (shared, some { call with point := .loadFirst })
      | .no | .throw => (shared, some { call with point := .empty })
  | .loadFirst =>
      if shared.sizeConnectionCnt < config.sizePoolCnt then
        (shared, some { call with point := .loadSecond })
      else
        (shared, some { call with point := .empty })
  | .loadSecond =>
      (shared,
        creating call.caller
          (subWord config.sizeBits config.sizePoolCnt
            shared.sizeConnectionCnt))
  | .connect remaining =>
      match decision with
      | .yes => (shared, some { call with point := .createSize remaining })
      | .no => (shared, afterCreation call.caller)
      | .throw => (shared, none)
  | .createSize remaining =>
      if Pool.roomAt config.sizeBits containerSize shared.queued then
        (shared, some { call with point := .createPush remaining })
      else
        (shared, afterCreation call.caller)
  | .createPush remaining =>
      ({ shared with queued := shared.queued + 1 },
        some { call with point := .countAdd remaining })
  | .countAdd remaining =>
      ({ shared with
          sizeConnectionCnt :=
            addWord config.sizeBits shared.sizeConnectionCnt 1 },
        creating call.caller (remaining - 1))
  | .empty =>
      if shared.queued = 0 then
        (shared, some { call with point := .loadCount false })
      else
        (shared, some { call with point := .tryPop })
  | .tryPop =>
      if shared.queued = 0 then
        (shared, some { call with point := .loadCount false })
      else
        ({ shared with queued := shared.queued - 1 },
          some { call with point := .loadCount true })
  | .loadCount held =>
      if shared.sizeConnectionCnt = 0 then
        (shared, none)
      else if held then
        (shared, some { call with point := .exchange })
      else
        (shared, some { call with point := .timer })
  | .exchange =>
      match decision with
      | .yes => (shared, some { call with point := .restoreSize })
      | .no => (shared, some { call with point := .countSub })
      | .throw => (shared, none)
  | .countSub =>
      ({ shared with
          sizeConnectionCnt :=
            subWord config.sizeBits shared.sizeConnectionCnt 1 },
        some { call with point := .timer })
  | .restoreSize =>
      if Pool.roomAt config.sizeBits containerSize shared.queued then
        (shared, some { call with point := .restorePush })
      else
        (shared, none)
  | .restorePush => ({ shared with queued := shared.queued + 1 }, none)

/-- The constructor is running. -/
def State.Constructing (state : State) : Prop :=
  ∃ call ∈ state.calls, call.caller = .constructor

instance (state : State) : Decidable state.Constructing :=
  inferInstanceAs (Decidable (∃ call ∈ state.calls, _))

/-- The steps of the system. -/
def step (config : Config) (state : State) : Event → Option State
  | .call =>
      if state.Constructing then
        none
      else
        some { state with calls := state.calls ++ [⟨.client, .timer⟩] }
  | .advance index decision =>
      state.calls[index]?.map fun call =>
        let (shared, next) := advance config call decision state.shared
        ⟨shared, replaceAt state.calls index next⟩

/-- The constructor enters `CreateObject(m_sizePoolCnt)`. -/
def start (config : Config) : State :=
  ⟨⟨0, 0⟩, (creating .constructor config.sizePoolCnt).toList⟩

end LibSklt.Net.PoolCalls
