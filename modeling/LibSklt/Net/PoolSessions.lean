import LibSklt.Foundation.Simulation
import LibSklt.Net.PoolCalls
import Mathlib.Data.Multiset.Range

/-!
# Who has a session of the pool

The calls of `PacketProcess` that run at the same time, as in
`Net.PoolCalls`, with the sessions themselves: the queue is the list of its
sessions, and a call has the session that it works with.  A session that is
connected gets the next number.

No session is used by two calls, and none is in the queue twice or while a
call works with it: every session that was ever connected is in one place.
`gone` records the sessions that were closed or dropped.

Without their numbers the sessions are the system of `Net.PoolCalls`, so that
what holds of its runs holds here.
-/

namespace LibSklt.Net.PoolSessions

open LibSklt.Foundation.MachineWord
open LibSklt.Foundation.Processes
open LibSklt.Foundation.Transition
open LibSklt.Net.PoolCalls
open LibSklt.Util

/-! ## Calls with their sessions -/

/-- The next step of a call, with the session that the call has. -/
inductive Place where
  | timer
  | loadFirst
  | loadSecond
  | connect (remaining : Nat)
  | createSize (remaining session : Nat)
  | createPush (remaining session : Nat)
  | countAdd (remaining : Nat)
  | empty
  | tryPop
  | loadCount (held : Option Nat)
  | exchange (session : Nat)
  | countSub
  | restoreSize (session : Nat)
  | restorePush (session : Nat)
deriving DecidableEq

/-- A call in progress. -/
structure Client where
  caller : Caller
  place : Place
deriving DecidableEq

/-- The members of the pool, and the sessions that were ever connected. -/
structure Sessions where
  queue : List Nat
  sizeConnectionCnt : Nat
  connected : Nat
  /-- The sessions that were closed or dropped. -/
  gone : List Nat
deriving DecidableEq

structure State where
  sessions : Sessions
  clients : List Client
deriving DecidableEq

/-- Where a call goes on after `CreateObject(count)`; the constructor ends. -/
def afterCreation : Caller → Option Client
  | .constructor => none
  | .client => some ⟨.client, .empty⟩

/-- The head of the loop of `CreateObject(count)`. -/
def creating (caller : Caller) (remaining : Nat) : Option Client :=
  if remaining = 0 then
    afterCreation caller
  else
    some ⟨caller, .connect remaining⟩

/-- One step of a call. -/
def advance (config : PoolCalls.Config) (client : Client) (decision : Decision)
    (sessions : Sessions) : Sessions × Option Client :=
  match client.place with
  | .timer =>
      match decision with
      | .yes => (sessions, some { client with place := .loadFirst })
      | .no | .throw => (sessions, some { client with place := .empty })
  | .loadFirst =>
      if sessions.sizeConnectionCnt < config.sizePoolCnt then
        (sessions, some { client with place := .loadSecond })
      else
        (sessions, some { client with place := .empty })
  | .loadSecond =>
      (sessions,
        creating client.caller
          (subWord config.sizeBits config.sizePoolCnt
            sessions.sizeConnectionCnt))
  | .connect remaining =>
      match decision with
      | .yes =>
          ({ sessions with connected := sessions.connected + 1 },
            some
              { client with
                place := .createSize remaining sessions.connected })
      | .no => (sessions, afterCreation client.caller)
      | .throw => (sessions, none)
  | .createSize remaining session =>
      if Pool.roomAt config.sizeBits containerSize
          sessions.queue.length then
        (sessions,
          some { client with place := .createPush remaining session })
      else
        ({ sessions with gone := sessions.gone ++ [session] },
          afterCreation client.caller)
  | .createPush remaining session =>
      ({ sessions with queue := sessions.queue ++ [session] },
        some { client with place := .countAdd remaining })
  | .countAdd remaining =>
      ({ sessions with
          sizeConnectionCnt :=
            addWord config.sizeBits sessions.sizeConnectionCnt 1 },
        creating client.caller (remaining - 1))
  | .empty =>
      if sessions.queue = [] then
        (sessions, some { client with place := .loadCount none })
      else
        (sessions, some { client with place := .tryPop })
  | .tryPop =>
      match sessions.queue with
      | [] => (sessions, some { client with place := .loadCount none })
      | session :: rest =>
          ({ sessions with queue := rest },
            some { client with place := .loadCount (some session) })
  | .loadCount held =>
      if sessions.sizeConnectionCnt = 0 then
        -- `PacketProcess` returns; a session in hand is dropped.
        ({ sessions with gone := sessions.gone ++ held.toList }, none)
      else
        match held with
        | some session =>
            (sessions, some { client with place := .exchange session })
        | none => (sessions, some { client with place := .timer })
  | .exchange session =>
      match decision with
      | .yes =>
          (sessions, some { client with place := .restoreSize session })
      | .no =>
          ({ sessions with gone := sessions.gone ++ [session] },
            some { client with place := .countSub })
      | .throw =>
          ({ sessions with gone := sessions.gone ++ [session] }, none)
  | .countSub =>
      ({ sessions with
          sizeConnectionCnt :=
            subWord config.sizeBits sessions.sizeConnectionCnt 1 },
        some { client with place := .timer })
  | .restoreSize session =>
      if Pool.roomAt config.sizeBits containerSize
          sessions.queue.length then
        (sessions, some { client with place := .restorePush session })
      else
        ({ sessions with gone := sessions.gone ++ [session] }, none)
  | .restorePush session =>
      ({ sessions with queue := sessions.queue ++ [session] }, none)

/-- The constructor is running. -/
def State.Constructing (state : State) : Prop :=
  ∃ client ∈ state.clients, client.caller = .constructor

instance (state : State) : Decidable state.Constructing :=
  inferInstanceAs (Decidable (∃ client ∈ state.clients, _))

/-- The steps of the system. -/
def step (config : PoolCalls.Config) (state : State) :
    PoolCalls.Event → Option State
  | .call =>
      if state.Constructing then
        none
      else
        some { state with clients := state.clients ++ [⟨.client, .timer⟩] }
  | .advance index decision =>
      state.clients[index]?.map fun client =>
        let (sessions, next) :=
          advance config client decision state.sessions
        ⟨sessions, replaceAt state.clients index next⟩

/-- The constructor enters `CreateObject(m_sizePoolCnt)`. -/
def start (config : PoolCalls.Config) : State :=
  ⟨⟨[], 0, 0, []⟩, (creating .constructor config.sizePoolCnt).toList⟩

/-! ## The same system without the numbers -/

/-- The step without the session. -/
def Place.point : Place → Point
  | .timer => .timer
  | .loadFirst => .loadFirst
  | .loadSecond => .loadSecond
  | .connect remaining => .connect remaining
  | .createSize remaining _ => .createSize remaining
  | .createPush remaining _ => .createPush remaining
  | .countAdd remaining => .countAdd remaining
  | .empty => .empty
  | .tryPop => .tryPop
  | .loadCount held => .loadCount held.isSome
  | .exchange _ => .exchange
  | .countSub => .countSub
  | .restoreSize _ => .restoreSize
  | .restorePush _ => .restorePush

def Client.call (client : Client) : Call :=
  ⟨client.caller, client.place.point⟩

def Sessions.shared (sessions : Sessions) : Shared :=
  ⟨sessions.queue.length, sessions.sizeConnectionCnt⟩

def State.counted (state : State) : PoolCalls.State :=
  ⟨state.sessions.shared, state.clients.map Client.call⟩

theorem call_afterCreation (caller : Caller) :
    (afterCreation caller).map Client.call =
      PoolCalls.afterCreation caller := by
  cases caller <;> rfl

theorem call_creating (caller : Caller) (remaining : Nat) :
    (creating caller remaining).map Client.call =
      PoolCalls.creating caller remaining := by
  rw [creating, PoolCalls.creating]
  split
  · exact call_afterCreation caller
  · rfl

/-- A step of a call is the same step of the call without its session. -/
theorem advance_counted
    (config : PoolCalls.Config) (client : Client) (decision : Decision)
    (sessions : Sessions) :
    PoolCalls.advance config client.call decision sessions.shared =
      ((advance config client decision sessions).1.shared,
        (advance config client decision sessions).2.map Client.call) := by
  obtain ⟨caller, place⟩ := client
  cases place with
  | timer => cases decision <;> rfl
  | loadFirst =>
      by_cases fewer : sessions.sizeConnectionCnt < config.sizePoolCnt <;>
        simp [PoolCalls.advance, advance, Client.call, Place.point,
          Sessions.shared, fewer]
  | loadSecond =>
      simp only [PoolCalls.advance, advance, Client.call, Place.point,
        Sessions.shared, call_creating]
  | connect remaining =>
      cases decision with
      | yes => rfl
      | no =>
          simp only [PoolCalls.advance, advance, Client.call, Place.point,
            Sessions.shared, call_afterCreation]
      | throw => rfl
  | createSize remaining session =>
      cases room : Pool.roomAt config.sizeBits containerSize
          sessions.queue.length <;>
        simp [PoolCalls.advance, advance, Client.call, Place.point,
          Sessions.shared, room, ← call_afterCreation]
  | createPush remaining session =>
      simp [PoolCalls.advance, advance, Client.call, Place.point,
        Sessions.shared]
  | countAdd remaining =>
      simp only [PoolCalls.advance, advance, Client.call, Place.point,
        Sessions.shared, call_creating]
  | empty =>
      cases queue : sessions.queue <;>
        simp [PoolCalls.advance, advance, Client.call, Place.point,
          Sessions.shared, queue]
  | tryPop =>
      cases queue : sessions.queue <;>
        simp [PoolCalls.advance, advance, Client.call, Place.point,
          Sessions.shared, queue]
  | loadCount held =>
      by_cases none : sessions.sizeConnectionCnt = 0
      · simp [PoolCalls.advance, advance, Client.call, Place.point,
          Sessions.shared, none]
      · cases held <;>
          simp [PoolCalls.advance, advance, Client.call, Place.point,
            Sessions.shared, none]
  | exchange session => cases decision <;> rfl
  | countSub => rfl
  | restoreSize session =>
      cases room : Pool.roomAt config.sizeBits containerSize
          sessions.queue.length <;>
        simp [PoolCalls.advance, advance, Client.call, Place.point,
          Sessions.shared, room]
  | restorePush session =>
      simp [PoolCalls.advance, advance, Client.call, Place.point,
        Sessions.shared]

theorem map_replaceAt
    (clients : List Client) (index : Nat) (next : Option Client) :
    (replaceAt clients index next).map Client.call =
      replaceAt (clients.map Client.call) index
        (next.map Client.call) := by
  cases next <;> simp [replaceAt]

theorem constructing_counted (state : State) :
    state.counted.Constructing ↔ state.Constructing := by
  simp only [PoolCalls.State.Constructing, State.Constructing,
    State.counted, List.mem_map]
  constructor
  · rintro ⟨_, ⟨client, member, rfl⟩, constructs⟩
    exact ⟨client, member, constructs⟩
  · rintro ⟨client, member, constructs⟩
    exact ⟨client.call, ⟨client, member, rfl⟩, constructs⟩

theorem step_counted
    (config : PoolCalls.Config) (state : State) (event : PoolCalls.Event) :
    (step config state event).map State.counted =
      PoolCalls.step config state.counted event := by
  cases event with
  | call =>
      simp only [step, PoolCalls.step, constructing_counted]
      split
      · rfl
      · simp [State.counted, Client.call, Place.point]
  | advance index decision =>
      simp only [step, PoolCalls.step, State.counted, List.getElem?_map]
      cases state.clients[index]? with
      | none => rfl
      | some client =>
          simp only [Option.map_some, advance_counted, State.counted,
            map_replaceAt]

/-- The runs with sessions are the runs of the calls, seen more closely. -/
theorem exists_run_counted_iff
    {config : PoolCalls.Config} {events : List PoolCalls.Event}
    {counted : PoolCalls.State} :
    (∃ state,
        Run (step config) (start config) events state ∧
          state.counted = counted) ↔
      Run (PoolCalls.step config) (PoolCalls.start config) events
        counted := by
  have initial : (start config).counted = PoolCalls.start config := by
    rw [start, State.counted, PoolCalls.start, ← call_creating]
    cases creating .constructor config.sizePoolCnt <;> rfl
  rw [← initial]
  exact exists_run_view_iff State.counted (step_counted config)

/-! ## Every session is in one place -/

/-- The session that a call has. -/
def Place.session : Place → List Nat
  | .createSize _ session => [session]
  | .createPush _ session => [session]
  | .loadCount held => held.toList
  | .exchange session => [session]
  | .restoreSize session => [session]
  | .restorePush session => [session]
  | _ => []

/-- The sessions that a call has, counted. -/
def Client.holds (client : Client) : Multiset Nat :=
  client.place.session

theorem holds_creating (caller : Caller) (remaining : Nat) :
    (creating caller remaining).elim 0 Client.holds = 0 := by
  rw [creating]
  split
  · cases caller <;> rfl
  · rfl

theorem holds_afterCreation (caller : Caller) :
    (afterCreation caller).elim 0 Client.holds = 0 := by
  cases caller <;> rfl

/-- The sessions of the queue and those that are gone, counted. -/
def Sessions.placed (sessions : Sessions) : Multiset Nat :=
  (sessions.queue : Multiset Nat) + sessions.gone

/--
A step of a call moves its session, takes one out of the queue, or gives the
next number to a new one.
-/
theorem advance_placed
    (config : PoolCalls.Config) (client : Client) (decision : Decision)
    (sessions : Sessions) :
    let after := (advance config client decision sessions).1
    let next := (advance config client decision sessions).2
    after.placed + next.elim 0 Client.holds +
        Multiset.range sessions.connected =
      sessions.placed + client.holds +
        Multiset.range after.connected := by
  obtain ⟨caller, place⟩ := client
  cases place with
  | timer => cases decision <;> rfl
  | loadFirst =>
      simp only [advance]
      split <;> rfl
  | loadSecond =>
      simp only [advance, holds_creating]
      rfl
  | connect remaining =>
      cases decision with
      | yes =>
          simp only [advance, Option.elim_some, Client.holds,
            Place.session, Sessions.placed, Multiset.range_succ,
            Multiset.coe_singleton, Multiset.coe_nil,
            ← Multiset.singleton_add]
          abel
      | no =>
          simp only [advance, holds_afterCreation]
          rfl
      | throw => rfl
  | createSize remaining session =>
      simp only [advance]
      split
      · rfl
      · simp only [holds_afterCreation, Client.holds, Place.session,
          Sessions.placed, ← Multiset.coe_add]
        abel
  | createPush remaining session =>
      simp only [advance, Option.elim_some, Client.holds, Place.session,
        Sessions.placed, ← Multiset.coe_add, Multiset.coe_nil]
      abel
  | countAdd remaining =>
      simp only [advance, holds_creating]
      rfl
  | empty =>
      simp only [advance]
      split <;> rfl
  | tryPop =>
      simp only [advance]
      split
      · rfl
      · rename_i session rest queue
        simp only [Option.elim_some, Client.holds, Place.session,
          Sessions.placed, queue, Option.toList_some, Multiset.coe_nil,
          ← Multiset.cons_coe, ← Multiset.singleton_add]
        abel
  | loadCount held =>
      simp only [advance]
      split
      · simp only [Option.elim_none, Client.holds, Place.session,
          Sessions.placed, ← Multiset.coe_add]
        abel
      · cases held <;> rfl
  | exchange session =>
      cases decision with
      | yes => rfl
      | no =>
          simp only [advance, Option.elim_some, Client.holds,
            Place.session, Sessions.placed, ← Multiset.coe_add,
            Multiset.coe_nil]
          abel
      | throw =>
          simp only [advance, Option.elim_none, Client.holds,
            Place.session, Sessions.placed, ← Multiset.coe_add]
          abel
  | countSub => rfl
  | restoreSize session =>
      simp only [advance]
      split
      · rfl
      · simp only [Option.elim_none, Client.holds, Place.session,
          Sessions.placed, ← Multiset.coe_add]
        abel
  | restorePush session =>
      simp only [advance, Option.elim_none, Client.holds, Place.session,
        Sessions.placed, ← Multiset.coe_add]
      abel

/-- The queue, the calls and the record have each session once. -/
def State.InPlace (state : State) : Prop :=
  state.sessions.placed + (state.clients.map Client.holds).sum =
    Multiset.range state.sessions.connected

/-- What one step moves, and what the other calls have, make up the whole. -/
theorem balance
    {placed placed' others others' own next all all' : Multiset Nat}
    (held : placed + others = all)
    (moved : placed' + next + all = placed + own + all')
    (replaced : others' + own = others + next) :
    placed' + others' = all' := by
  refine add_right_cancel (b := own + all) ?_
  calc placed' + others' + (own + all)
      = placed' + all + (others' + own) := by abel
    _ = placed' + next + all + others := by rw [replaced]; abel
    _ = placed + others + own + all' := by rw [moved]; abel
    _ = all' + (own + all) := by rw [held]; abel

theorem State.InPlace.step
    {config : PoolCalls.Config} {before after : State} {event : PoolCalls.Event}
    (held : before.InPlace)
    (taken : step config before event = some after) :
    after.InPlace := by
  cases event with
  | call =>
      simp only [PoolSessions.step] at taken
      split at taken
      · simp at taken
      · simp only [Option.some.injEq] at taken
        subst after
        have idle : Client.holds ⟨.client, .timer⟩ = 0 := rfl
        rw [InPlace, List.map_append, List.sum_append,
          List.map_singleton, List.sum_singleton, idle, add_zero]
        exact held
  | advance index decision =>
      obtain ⟨client, found, rfl⟩ := Option.map_eq_some_iff.mp taken
      exact balance held
        (advance_placed config client decision before.sessions)
        (sum_replaceAt Client.holds found _)

theorem start_inPlace (config : PoolCalls.Config) : (start config).InPlace := by
  have none := holds_creating .constructor config.sizePoolCnt
  rw [start, State.InPlace]
  cases first : creating .constructor config.sizePoolCnt with
  | none => rfl
  | some client =>
      rw [first, Option.elim_some] at none
      rw [Option.toList_some, List.map_singleton, List.sum_singleton, none]
      rfl

/-- The sessions that the calls have. -/
def State.inUse (state : State) : List Nat :=
  state.clients.flatMap fun client => client.place.session

theorem coe_inUse (clients : List Client) :
    ((clients.flatMap fun client => client.place.session : List Nat) :
        Multiset Nat) =
      (clients.map Client.holds).sum := by
  induction clients with
  | nil => rfl
  | cons client rest inductionHypothesis =>
      rw [List.flatMap_cons, ← Multiset.coe_add, inductionHypothesis,
        List.map_cons, List.sum_cons]
      rfl

/--
However the calls run, every session that was ever connected is in exactly
one place: in the queue, with one call, or closed or dropped.
-/
theorem sessions_in_one_place
    {config : PoolCalls.Config} {events : List PoolCalls.Event} {state : State}
    (run : Run (step config) (start config) events state) :
    (state.sessions.queue ++ state.sessions.gone ++ state.inUse).Perm
      (List.range state.sessions.connected) := by
  have inPlace : state.InPlace :=
    Run.invariant State.InPlace (start_inPlace config)
      (fun _ _ _ held taken => held.step taken) run
  rw [State.InPlace, ← coe_inUse, Sessions.placed, Multiset.coe_add,
    Multiset.coe_add] at inPlace
  exact Multiset.coe_eq_coe.mp inPlace

/-- A pool of two sessions; both are in use by clients at the same time. -/
def twoClients : List PoolCalls.Event :=
  [.advance 0 .yes, .advance 0 .yes, .advance 0 .yes, .advance 0 .yes,
    .advance 0 .yes, .advance 0 .yes, .advance 0 .yes, .advance 0 .yes,
    .call, .call,
    .advance 0 .no, .advance 1 .no, .advance 0 .yes, .advance 1 .yes,
    .advance 0 .yes, .advance 1 .yes, .advance 0 .yes, .advance 1 .yes]

def poolOfTwo : PoolCalls.Config where
  sizeBits := 64
  sizePoolCnt := 2
  poolCnt_lt := by decide

theorem sessions_in_one_place_two_clients :
    ∃ state,
      Run (step poolOfTwo) (start poolOfTwo) twoClients state ∧
        state.inUse = [0, 1] ∧
        (state.sessions.queue ++ state.sessions.gone ++
            state.inUse).Perm
          (List.range state.sessions.connected) := by
  have executed :
      (execWhere (step poolOfTwo) (fun _ _ => True) (start poolOfTwo)
        twoClients).map State.inUse = some [0, 1] := by
    decide +kernel
  obtain ⟨state, run, inUse⟩ := exists_runWhere_of_map_exec executed
  exact ⟨state, run, inUse, sessions_in_one_place run⟩

end LibSklt.Net.PoolSessions
