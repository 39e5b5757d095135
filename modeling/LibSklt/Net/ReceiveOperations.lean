import LibSklt.Net.ConnectionIsolation
import Mathlib.Data.List.Perm.Basic

/-!
# The receive operations of a connection

Each connection has at most one outstanding receive operation.  While the
session still serves the connection, this operation decides what happens to
the receiver's state: header object, body block and body size change only
when it completes, or when a new connection is accepted.  The inversion
lemma `Stepped.continued` says so, and is how invariants of the receive loop
are carried through the interleavings of the server.
-/

namespace LibSklt.Net

open LibSklt.Foundation.Transition

variable {H : Type}

/-! ## Streams and operations -/

/-- The packets of a connection that were inserted into the queue. -/
def Server.delivered (server : Server H) (connection : Nat) :
    List Packet :=
  server.inserted.filter fun packet => packet.connection == connection

/-- An outstanding operation of the connection that its session serves. -/
def Server.Current (server : Server H) (receive : Receive) : Prop :=
  receive ∈ server.receives ∧
    (server.sessions receive.session).tcpSocket.connection =
      receive.connection

/-- Connections are numbered in the order in which they are accepted. -/
structure Numbered (server : Server H) : Prop where
  nodup : (server.receives.map Receive.connection).Nodup
  bounded :
    ∀ receive ∈ server.receives, receive.connection ≤ server.accepted
  received :
    ∀ connection, server.accepted < connection →
      server.received connection = []
  delivered :
    ∀ connection, server.accepted < connection →
      server.delivered connection = []

/-- The operation at `index` is the only one of its connection. -/
theorem Numbered.connection_ne
    {server : Server H} (numbered : Numbered server)
    {index : Nat} {receive other : Receive}
    (outstanding : server.receives[index]? = some receive)
    (member : other ∈ server.receives.eraseIdx index) :
    other.connection ≠ receive.connection := by
  intro same
  obtain ⟨place, different, there⟩ :=
    List.mem_eraseIdx_iff_getElem?.mp member
  have here :
      (server.receives.map Receive.connection)[place]? =
        (server.receives.map Receive.connection)[index]? := by
    simp [there, outstanding, same]
  refine different ((List.getElem?_inj ?_ numbered.nodup).mp here)
  rw [List.length_map]
  exact (List.getElem?_eq_some_iff.mp there).1

/-- Completing an operation and starting the next keeps the numbering. -/
theorem Numbered.nodup_next
    {server : Server H} (numbered : Numbered server)
    {index : Nat} {receive next : Receive}
    (outstanding : server.receives[index]? = some receive)
    (same : next.connection = receive.connection) :
    ((server.receives.eraseIdx index ++ [next]).map
      Receive.connection).Nodup := by
  obtain ⟨inside, here⟩ := List.getElem?_eq_some_iff.mp outstanding
  have rotated :
      ((receive :: server.receives.eraseIdx index).map
        Receive.connection).Perm
        (server.receives.map Receive.connection) := by
    rw [← here]
    exact (List.getElem_cons_eraseIdx_perm inside).map _
  have nodup := rotated.nodup_iff.mpr numbered.nodup
  rw [List.map_append, List.map_singleton, same]
  rw [List.map_cons, ← List.singleton_append] at nodup
  exact List.perm_append_comm.nodup_iff.mp nodup

/-! ## What becomes of the operations -/

/-- How the current operation of a connection came to be in a step. -/
inductive Continued [Header H] (cfg : Config) (before after : Server H)
    (receive : Receive) : Prop where
  | untouched
      (current : before.Current receive)
      (same :
        AsyncSessionImpl.SameReceiver
          (before.sessions receive.session)
          (after.sessions receive.session))
      (received :
        after.received receive.connection =
          before.received receive.connection)
      (delivered :
        after.delivered receive.connection =
          before.delivered receive.connection)
  | accepted
      (stage : receive.stage = .header)
      (fresh : receive.connection = before.accepted + 1)
      (received : after.received = before.received)
      (delivered : after.delivered = before.delivered)
  | headerRead (old : Receive) (bytes : List UInt8)
      (current : before.Current old)
      (stages : old.stage = .header ∧ receive.stage = .body)
      (same :
        receive.session = old.session ∧
          receive.connection = old.connection)
      (admitted :
        (before.sessions old.session).admits cfg (.received bytes) = true)
      (session :
        after.sessions receive.session =
          (((before.sessions old.session).measured cfg
            bytes).allocateBody before.ledger.length).session)
      (received :
        after.received receive.connection =
          before.received old.connection ++ bytes)
      (delivered :
        after.delivered receive.connection =
          before.delivered old.connection)
  | bodyRead (old : Receive) (bytes : List UInt8)
      (current : before.Current old)
      (stages : old.stage = .body ∧ receive.stage = .header)
      (same : receive.connection = old.connection)
      (complete :
        (before.sessions old.session).sizeOfBodyBuffer = bytes.length)
      (received :
        after.received receive.connection =
          before.received old.connection ++ bytes)
      (delivered :
        after.delivered receive.connection =
          before.delivered old.connection ++
            [(before.sessions old.session).packet cfg old.session bytes])

theorem AsyncSessionImpl.SameReceiver.refl (session : AsyncSessionImpl H) :
    SameReceiver session session :=
  ⟨rfl, rfl, rfl⟩

/-- `Close` leaves all receivers alone. -/
theorem sameReceiver_close
    (cfg : Config) (server : Server H) (this : Nat) (closeFails : Bool)
    (session : Nat) :
    AsyncSessionImpl.SameReceiver (server.sessions session)
      ((server.close cfg this closeFails).sessions session) := by
  by_cases own : session = this
  · subst session
    rw [Server.close, sessions_apply_self]
    exact AsyncSessionImpl.close_sameReceiver closeFails _
  · rw [Server.close, sessions_apply_of_ne cfg server _ own]
    exact .refl _

theorem delivered_apply
    (cfg : Config) (server : Server H) (this : Nat) (outcome : Outcome H)
    (connection : Nat) :
    (server.apply cfg this outcome).delivered connection =
      server.delivered connection ++
        outcome.inserted.filter fun packet =>
          packet.connection == connection := by
  simp [Server.delivered, Server.apply]

theorem delivered_apply_closing
    (cfg : Config) {server : Server H} {this : Nat} {closeFails : Bool}
    {outcome : Outcome H}
    (closing :
      AsyncSessionImpl.Closing closeFails (server.sessions this) outcome)
    (connection : Nat) :
    (server.apply cfg this outcome).delivered connection =
      server.delivered connection := by
  simp [delivered_apply, closing.inserted]

theorem delivered_apply_allocateBody [Header H]
    (cfg : Config) (server : Server H) (this serial : Nat)
    (session : AsyncSessionImpl H) (connection : Nat) :
    (server.apply cfg this (session.allocateBody serial)).delivered
        connection =
      server.delivered connection := by
  have accepting := AsyncSessionImpl.allocateBody_accepting serial session
  simp [delivered_apply, accepting.inserted]

theorem delivered_apply_handOver [Header H]
    (cfg : Config) (server : Server H) (this : Nat) (bytes : List UInt8)
    (session : AsyncSessionImpl H) (connection : Nat) :
    (server.apply cfg this (session.handOver cfg this bytes)).delivered
        connection =
      server.delivered connection ++
        if session.tcpSocket.connection = connection then
          [session.packet cfg this bytes]
        else
          [] := by
  rw [delivered_apply]
  by_cases own : session.tcpSocket.connection = connection
  · simp [AsyncSessionImpl.handOver, AsyncSessionImpl.packet, own]
  · simp [AsyncSessionImpl.handOver, AsyncSessionImpl.packet, own]

@[simp]
theorem noteReceived_self
    (server : Server H) (receive : Receive) (completion : Completion) :
    server.noteReceived receive completion receive.connection =
      server.received receive.connection ++
        Server.transferred completion := by
  simp [Server.noteReceived]

theorem noteReceived_of_ne
    (server : Server H) (completion : Completion)
    {receive : Receive} {connection : Nat}
    (other : connection ≠ receive.connection) :
    server.noteReceived receive completion connection =
      server.received connection := by
  simp [Server.noteReceived, other]

/-- The parts of the state that taking a session from the pool keeps. -/
theorem acquireSession_keeps (cfg : Config) (server : Server H) :
    (server.acquireSession cfg).receives = server.receives ∧
      (server.acquireSession cfg).received = server.received ∧
      (server.acquireSession cfg).inserted = server.inserted ∧
      (server.acquireSession cfg).accepted = server.accepted := by
  obtain ⟨pool, acceptor, equal⟩ := server.acquireSession_eq cfg
  rw [equal]
  exact ⟨rfl, rfl, rfl, rfl⟩

/-- An operation that stays outstanding while its receiver is left alone. -/
theorem continued_of_sameReceiver [Header H]
    {cfg : Config} {before after : Server H} {receive : Receive}
    (current : after.Current receive)
    (old : receive ∈ before.receives)
    (connection :
      (after.sessions receive.session).tcpSocket.connection =
        (before.sessions receive.session).tcpSocket.connection)
    (same :
      AsyncSessionImpl.SameReceiver
        (before.sessions receive.session)
        (after.sessions receive.session))
    (received :
      after.received receive.connection =
        before.received receive.connection)
    (delivered :
      after.delivered receive.connection =
        before.delivered receive.connection) :
    Continued cfg before after receive :=
  .untouched ⟨old, connection.symm.trans current.2⟩ same received delivered

theorem Numbered.continued_acceptClient [Header H]
    {cfg : Config} {before : Server H} (numbered : Numbered before)
    {offered : Nat} {receive : Receive}
    (current :
      ((before.acceptClient offered).acquireSession cfg).Current receive) :
    Continued cfg before ((before.acceptClient offered).acquireSession cfg)
      receive := by
  obtain ⟨receives, received, inserted, -⟩ :=
    acquireSession_keeps cfg (before.acceptClient offered)
  have delivered :
      ((before.acceptClient offered).acquireSession cfg).delivered =
        before.delivered := by
    funext connection
    simp only [Server.delivered, inserted]
    rfl
  obtain ⟨member, serves⟩ := current
  rw [receives] at member
  rw [sessions_acquireSession] at serves
  rcases List.mem_append.mp member with old | new
  · by_cases own : receive.session = offered
    · have late := numbered.bounded receive old
      rw [own, sessions_acceptClient_self] at serves
      have newest : before.accepted + 1 = receive.connection := serves
      omega
    · have unchanged := sessions_acceptClient_of_ne before own
      rw [unchanged] at serves
      refine .untouched ⟨old, serves⟩ ?_
        (congrFun received receive.connection)
        (congrFun delivered receive.connection)
      rw [sessions_acquireSession, unchanged]
      exact .refl _
  · obtain rfl := List.mem_singleton.mp new
    exact .accepted rfl rfl received delivered

/-- When a receiver gives up, other operations are not concerned. -/
theorem Numbered.continued_abandon [Header H]
    {cfg : Config} {before : Server H} (numbered : Numbered before)
    {index : Nat} {ended receive : Receive} {completion : Completion}
    {closeFails : Bool} {session : AsyncSessionImpl H}
    (outstanding : before.receives[index]? = some ended)
    (permitted :
      Server.permits (before.sessions ended.session).tcpSocket ended
        completion = true)
    (givesUp :
      AsyncSessionImpl.GivesUp cfg ended.stage completion
        (before.sessions ended.session) session)
    (current :
      Server.Current
        { before.apply cfg ended.session (session.abandon closeFails) with
          receives := before.receives.eraseIdx index
          received := before.noteReceived ended completion }
        receive) :
    Continued cfg before
      { before.apply cfg ended.session (session.abandon closeFails) with
        receives := before.receives.eraseIdx index
        received := before.noteReceived ended completion }
      receive := by
  have closing := AsyncSessionImpl.abandon_closing givesUp.same closeFails
  have connection :=
    connection_apply cfg closing.connection receive.session
  have other := numbered.connection_ne outstanding current.1
  refine continued_of_sameReceiver current
    (List.mem_of_mem_eraseIdx current.1) connection ?_
    (noteReceived_of_ne before completion other)
    (delivered_apply_closing cfg closing receive.connection)
  by_cases own : receive.session = ended.session
  · cases completion with
    | failed =>
        have closes :=
          sameReceiver_close cfg before ended.session closeFails
            receive.session
        rw [givesUp.unread rfl]
        exact closes
    | received bytes =>
        have serves := connection.symm.trans current.2
        rw [own, connection_of_permits permitted] at serves
        exact absurd serves.symm other
  · have unchanged :=
      sessions_apply_of_ne cfg before (session.abandon closeFails) own
    exact unchanged.symm ▸ AsyncSessionImpl.SameReceiver.refl _

/-- Bytes are received for one operation only of the session. -/
theorem Numbered.session_ne
    {before : Server H} (numbered : Numbered before)
    {index : Nat} {ended receive : Receive} {bytes : List UInt8}
    (outstanding : before.receives[index]? = some ended)
    (permitted :
      Server.permits (before.sessions ended.session).tcpSocket ended
        (.received bytes) = true)
    (member : receive ∈ before.receives.eraseIdx index)
    (serves :
      (before.sessions receive.session).tcpSocket.connection =
        receive.connection) :
    receive.session ≠ ended.session := by
  intro own
  rw [own, connection_of_permits permitted] at serves
  exact numbered.connection_ne outstanding member serves.symm

theorem current_of_permits
    {before : Server H} {index : Nat} {receive : Receive}
    {bytes : List UInt8}
    (outstanding : before.receives[index]? = some receive)
    (permitted :
      Server.permits (before.sessions receive.session).tcpSocket receive
        (.received bytes) = true) :
    before.Current receive :=
  ⟨List.mem_of_getElem? outstanding, connection_of_permits permitted⟩

/-- The operations of other connections when one reads bytes and goes on. -/
theorem Numbered.continued_other [Header H]
    {cfg : Config} {before : Server H} (numbered : Numbered before)
    {index : Nat} {ended next receive : Receive} {bytes : List UInt8}
    {outcome : Outcome H}
    (outstanding : before.receives[index]? = some ended)
    (permitted :
      Server.permits (before.sessions ended.session).tcpSocket ended
        (.received bytes) = true)
    (own :
      outcome.session.tcpSocket.connection =
        (before.sessions ended.session).tcpSocket.connection)
    (old : receive ∈ before.receives.eraseIdx index)
    (delivered :
      (before.apply cfg ended.session outcome).delivered
          receive.connection =
        before.delivered receive.connection)
    (current :
      Server.Current
        { before.apply cfg ended.session outcome with
          receives := before.receives.eraseIdx index ++ [next]
          received := before.noteReceived ended (.received bytes) }
        receive) :
    Continued cfg before
      { before.apply cfg ended.session outcome with
        receives := before.receives.eraseIdx index ++ [next]
        received := before.noteReceived ended (.received bytes) }
      receive := by
  have connection := connection_apply cfg own receive.session
  have elsewhere :=
    numbered.session_ne outstanding permitted old
      (connection.symm.trans current.2)
  have unchanged := sessions_apply_of_ne cfg before outcome elsewhere
  exact continued_of_sameReceiver current
    (List.mem_of_mem_eraseIdx old) connection
    (unchanged.symm ▸ AsyncSessionImpl.SameReceiver.refl _)
    (noteReceived_of_ne before _
      (numbered.connection_ne outstanding old))
    delivered

theorem Numbered.continued_headerRead [Header H]
    {cfg : Config} {before : Server H} (numbered : Numbered before)
    {index : Nat} {ended receive : Receive} {bytes : List UInt8}
    {outcome : Outcome H}
    (outstanding : before.receives[index]? = some ended)
    (permitted :
      Server.permits (before.sessions ended.session).tcpSocket ended
        (.received bytes) = true)
    (stage : ended.stage = .header)
    (admitted :
      (before.sessions ended.session).admits cfg (.received bytes) = true)
    (allocated :
      outcome =
        ((before.sessions ended.session).measured cfg
          bytes).allocateBody before.ledger.length)
    (current :
      Server.Current
        { before.apply cfg ended.session outcome with
          receives :=
            before.receives.eraseIdx index ++
              [Server.startReceive ended.session .body outcome.session]
          received := before.noteReceived ended (.received bytes) }
        receive) :
    Continued cfg before
      { before.apply cfg ended.session outcome with
        receives :=
          before.receives.eraseIdx index ++
            [Server.startReceive ended.session .body outcome.session]
        received := before.noteReceived ended (.received bytes) }
      receive := by
  have own :
      outcome.session.tcpSocket.connection =
        (before.sessions ended.session).tcpSocket.connection := by
    rw [allocated,
      (AsyncSessionImpl.allocateBody_accepting _ _).tcpSocket]
    rfl
  have delivered : ∀ connection,
      (before.apply cfg ended.session outcome).delivered connection =
        before.delivered connection := by
    intro connection
    rw [allocated]
    exact delivered_apply_allocateBody cfg before _ _ _ connection
  rcases List.mem_append.mp current.1 with old | new
  · exact numbered.continued_other outstanding permitted own old
      (delivered receive.connection) current
  · obtain rfl := List.mem_singleton.mp new
    have number :
        (Server.startReceive ended.session .body
          outcome.session).connection = ended.connection :=
      own.trans (connection_of_permits permitted)
    refine .headerRead ended bytes
      (current_of_permits outstanding permitted) ⟨stage, rfl⟩
      ⟨rfl, number⟩ admitted ?_ ?_ ?_
    · rw [← allocated]
      exact sessions_apply_self cfg before outcome ended.session
    · rw [number]
      exact noteReceived_self before ended (.received bytes)
    · rw [number]
      exact delivered ended.connection

theorem Numbered.continued_bodyRead [Header H]
    {cfg : Config} {before : Server H} (numbered : Numbered before)
    {index : Nat} {ended receive : Receive} {bytes : List UInt8}
    {outcome : Outcome H}
    (outstanding : before.receives[index]? = some ended)
    (permitted :
      Server.permits (before.sessions ended.session).tcpSocket ended
        (.received bytes) = true)
    (stage : ended.stage = .body)
    (complete :
      (before.sessions ended.session).sizeOfBodyBuffer = bytes.length)
    (handed :
      outcome =
        (before.sessions ended.session).handOver cfg ended.session bytes)
    (current :
      Server.Current
        { before.apply cfg ended.session outcome with
          receives :=
            before.receives.eraseIdx index ++
              [Server.startReceive ended.session .header outcome.session]
          received := before.noteReceived ended (.received bytes) }
        receive) :
    Continued cfg before
      { before.apply cfg ended.session outcome with
        receives :=
          before.receives.eraseIdx index ++
            [Server.startReceive ended.session .header outcome.session]
        received := before.noteReceived ended (.received bytes) }
      receive := by
  have serves := connection_of_permits permitted
  have own :
      outcome.session.tcpSocket.connection =
        (before.sessions ended.session).tcpSocket.connection := by
    rw [handed]
    rfl
  have delivered : ∀ connection,
      (before.apply cfg ended.session outcome).delivered connection =
        before.delivered connection ++
          if ended.connection = connection then
            [(before.sessions ended.session).packet cfg ended.session
              bytes]
          else
            [] := by
    intro connection
    rw [handed, delivered_apply_handOver, serves]
  rcases List.mem_append.mp current.1 with old | new
  · have other := numbered.connection_ne outstanding old
    have nothing := delivered receive.connection
    rw [if_neg (Ne.symm other), List.append_nil] at nothing
    exact numbered.continued_other outstanding permitted own old nothing
      current
  · obtain rfl := List.mem_singleton.mp new
    have number :
        (Server.startReceive ended.session .header
          outcome.session).connection = ended.connection :=
      own.trans serves
    refine .bodyRead ended bytes
      (current_of_permits outstanding permitted) ⟨stage, rfl⟩
      number complete ?_ ?_
    · rw [number]
      exact noteReceived_self before ended (.received bytes)
    · have last := delivered ended.connection
      rw [if_pos rfl] at last
      rw [number]
      exact last

/-- What a step does to the current operation of a connection. -/
theorem Stepped.continued [Header H]
    {cfg : Config} {before after : Server H} {event : Event}
    {receive : Receive}
    (stepped : Stepped cfg before event after)
    (numbered : Numbered before)
    (current : after.Current receive) :
    Continued cfg before after receive := by
  cases stepped with
  | rejected =>
      obtain ⟨receives, received, inserted, -⟩ :=
        acquireSession_keeps cfg before
      obtain ⟨member, serves⟩ := current
      rw [receives] at member
      rw [sessions_acquireSession] at serves
      refine .untouched ⟨member, serves⟩ ?_ (by rw [received])
        (by simp only [Server.delivered, inserted])
      rw [sessions_acquireSession]
      exact .refl _
  | admitted => exact numbered.continued_acceptClient current
  | abandoned index ended completion closeFails session outstanding
      permitted givesUp =>
      exact numbered.continued_abandon outstanding permitted givesUp
        current
  | headerRead index ended bytes closeFails outstanding permitted stage
      admitted outcome allocated =>
      exact numbered.continued_headerRead outstanding permitted stage
        admitted allocated current
  | bodyRead index ended bytes closeFails outstanding permitted stage
      complete _ outcome handed =>
      exact numbered.continued_bodyRead outstanding permitted stage
        (AsyncSessionImpl.whole_of_completes complete) handed current
  | writeFailed index write closeFails =>
      have closing :=
        (before.sessions write.session).close_closing closeFails
      exact continued_of_sameReceiver current current.1
        (connection_apply cfg closing.connection receive.session)
        (sameReceiver_close cfg before write.session closeFails
          receive.session)
        rfl (delivered_apply_closing cfg closing receive.connection)
  | closed session closeFails =>
      have closing := (before.sessions session).close_closing closeFails
      exact continued_of_sameReceiver current current.1
        (connection_apply cfg closing.connection receive.session)
        (sameReceiver_close cfg before session closeFails
          receive.session)
        rfl (delivered_apply_closing cfg closing receive.connection)
  | wrote => exact .untouched current (.refl _) rfl rfl
  | writeDelivered => exact .untouched current (.refl _) rfl rfl
  | taken => exact .untouched current (.refl _) rfl rfl
  | processed => exact .untouched current (.refl _) rfl rfl
  | sent => exact .untouched current (.refl _) rfl rfl

/-! ## What becomes of the streams -/

/-- What a step does to the bytes and the packets of a connection. -/
inductive Streamed [Header H] (cfg : Config) (before after : Server H)
    (connection : Nat) : Prop where
  | unchanged
      (received :
        after.received connection = before.received connection)
      (delivered :
        after.delivered connection = before.delivered connection)
  | extended (old : Receive) (bytes : List UInt8)
      (outstanding : old ∈ before.receives)
      (number : old.connection = connection)
      (received :
        after.received connection =
          before.received connection ++ bytes)
      (delivered :
        after.delivered connection = before.delivered connection)
  | delivered (old : Receive) (bytes : List UInt8)
      (current : before.Current old)
      (number : old.connection = connection)
      (stage : old.stage = .body)
      (complete :
        (before.sessions old.session).sizeOfBodyBuffer = bytes.length)
      (received :
        after.received connection =
          before.received connection ++ bytes)
      (delivered :
        after.delivered connection =
          before.delivered connection ++
            [(before.sessions old.session).packet cfg old.session bytes])

theorem streamed_of_noteReceived [Header H]
    {cfg : Config} {before after : Server H} {receive : Receive}
    {completion : Completion}
    (outstanding : receive ∈ before.receives)
    (received : after.received = before.noteReceived receive completion)
    (connection : Nat)
    (delivered :
      after.delivered connection = before.delivered connection) :
    Streamed cfg before after connection := by
  by_cases own : connection = receive.connection
  · subst connection
    refine .extended receive (Server.transferred completion) outstanding
      rfl ?_ delivered
    rw [received, noteReceived_self]
  · refine .unchanged ?_ delivered
    rw [received, noteReceived_of_ne before completion own]

theorem Stepped.streamed [Header H]
    {cfg : Config} {before after : Server H} {event : Event}
    (stepped : Stepped cfg before event after) (connection : Nat) :
    Streamed cfg before after connection := by
  cases stepped with
  | rejected =>
      obtain ⟨-, received, inserted, -⟩ := acquireSession_keeps cfg before
      exact .unchanged (by rw [received])
        (by simp only [Server.delivered, inserted])
  | admitted session =>
      obtain ⟨-, received, inserted, -⟩ :=
        acquireSession_keeps cfg (before.acceptClient session)
      refine .unchanged (by rw [received]; rfl) ?_
      simp only [Server.delivered, inserted]
      rfl
  | abandoned index ended completion closeFails session outstanding _ givesUp =>
      exact streamed_of_noteReceived (List.mem_of_getElem? outstanding) rfl
        connection
        (delivered_apply_closing cfg
          (AsyncSessionImpl.abandon_closing givesUp.same closeFails) connection)
  | headerRead index ended bytes closeFails outstanding _ _ _ outcome
      allocated =>
      refine streamed_of_noteReceived (List.mem_of_getElem? outstanding) rfl
        connection ?_
      subst outcome
      exact delivered_apply_allocateBody cfg before ended.session _ _
        connection
  | bodyRead index ended bytes closeFails outstanding permitted stage
      complete _ outcome handed =>
      have serves := connection_of_permits permitted
      subst outcome
      have delivered :=
        delivered_apply_handOver cfg before ended.session bytes
          (before.sessions ended.session) connection
      rw [serves] at delivered
      by_cases own : ended.connection = connection
      · subst connection
        rw [if_pos rfl] at delivered
        exact .delivered ended bytes
          (current_of_permits outstanding permitted) rfl stage
          (AsyncSessionImpl.whole_of_completes complete)
          (noteReceived_self before ended (.received bytes)) delivered
      · rw [if_neg own, List.append_nil] at delivered
        exact .unchanged
          (noteReceived_of_ne before _ (Ne.symm own)) delivered
  | writeFailed index write closeFails =>
      exact .unchanged rfl
        (delivered_apply_closing cfg
          ((before.sessions write.session).close_closing closeFails)
          connection)
  | closed session closeFails =>
      exact .unchanged rfl
        (delivered_apply_closing cfg
          ((before.sessions session).close_closing closeFails) connection)
  | wrote => exact .unchanged rfl rfl
  | writeDelivered => exact .unchanged rfl rfl
  | taken => exact .unchanged rfl rfl
  | processed => exact .unchanged rfl rfl
  | sent => exact .unchanged rfl rfl

/-! ## The numbering is an invariant -/

/-- The number of a connection is taken from the counter once. -/
theorem Stepped.accepted_le [Header H]
    {cfg : Config} {before after : Server H} {event : Event}
    (stepped : Stepped cfg before event after) :
    before.accepted ≤ after.accepted := by
  cases stepped with
  | rejected =>
      rw [(acquireSession_keeps cfg before).2.2.2]
  | admitted session =>
      rw [(acquireSession_keeps cfg (before.acceptClient session)).2.2.2]
      exact Nat.le_succ _
  | _ => exact Nat.le_refl _

/-- Outstanding operations after a step: at most one for each connection. -/
theorem Numbered.receives_stepped [Header H]
    {cfg : Config} {before after : Server H} {event : Event}
    (numbered : Numbered before)
    (stepped : Stepped cfg before event after) :
    (after.receives.map Receive.connection).Nodup ∧
      ∀ receive ∈ after.receives,
        receive.connection ≤ after.accepted := by
  have kept := And.intro numbered.nodup numbered.bounded
  have next :
      ∀ {index : Nat} {ended started : Receive},
        before.receives[index]? = some ended →
          started.connection = ended.connection →
            ((before.receives.eraseIdx index ++ [started]).map
                Receive.connection).Nodup ∧
              ∀ receive ∈ before.receives.eraseIdx index ++ [started],
                receive.connection ≤ before.accepted := by
    intro index ended started outstanding same
    refine ⟨numbered.nodup_next outstanding same, ?_⟩
    intro receive member
    rcases List.mem_append.mp member with old | new
    · exact numbered.bounded receive (List.mem_of_mem_eraseIdx old)
    · obtain rfl := List.mem_singleton.mp new
      rw [same]
      exact numbered.bounded ended (List.mem_of_getElem? outstanding)
  cases stepped with
  | rejected =>
      obtain ⟨receives, -, -, accepted⟩ := acquireSession_keeps cfg before
      rw [receives, accepted]
      exact kept
  | admitted session =>
      obtain ⟨receives, -, -, accepted⟩ :=
        acquireSession_keeps cfg (before.acceptClient session)
      rw [receives, accepted]
      constructor
      · rw [Server.acceptClient, List.map_append, List.map_singleton,
          ← List.concat_eq_append, List.nodup_concat]
        refine ⟨?_, numbered.nodup⟩
        intro member
        obtain ⟨receive, old, number⟩ := List.mem_map.mp member
        have late := numbered.bounded receive old
        rw [number] at late
        exact Nat.not_succ_le_self _ late
      · intro receive member
        rcases List.mem_append.mp member with old | new
        · exact Nat.le_succ_of_le (numbered.bounded receive old)
        · obtain rfl := List.mem_singleton.mp new
          exact Nat.le_refl _
  | abandoned index ended completion closeFails session outstanding =>
      constructor
      · exact numbered.nodup.sublist
          ((List.eraseIdx_sublist _ index).map Receive.connection)
      · intro receive member
        exact numbered.bounded receive (List.mem_of_mem_eraseIdx member)
  | headerRead index ended bytes closeFails outstanding permitted _ _
      outcome allocated =>
      refine next outstanding ?_
      rw [← connection_of_permits permitted, allocated,
        Server.startReceive,
        (AsyncSessionImpl.allocateBody_accepting _ _).tcpSocket]
      rfl
  | bodyRead index ended bytes closeFails outstanding permitted _ _ _
      outcome handed =>
      refine next outstanding ?_
      rw [← connection_of_permits permitted, handed]
      rfl
  | wrote => exact kept
  | writeDelivered => exact kept
  | writeFailed => exact kept
  | closed => exact kept
  | taken => exact kept
  | processed => exact kept
  | sent => exact kept

theorem Numbered.stepped [Header H]
    {cfg : Config} {before after : Server H} {event : Event}
    (numbered : Numbered before)
    (stepped : Stepped cfg before event after) :
    Numbered after := by
  obtain ⟨nodup, bounded⟩ := numbered.receives_stepped stepped
  have silent : ∀ connection, after.accepted < connection →
      after.received connection = [] ∧
        after.delivered connection = [] := by
    intro connection above
    have unused : before.accepted < connection :=
      Nat.lt_of_le_of_lt stepped.accepted_le above
    cases stepped.streamed connection with
    | unchanged received delivered =>
        rw [received, delivered]
        exact ⟨numbered.received connection unused,
          numbered.delivered connection unused⟩
    | extended old bytes outstanding number =>
        have below := numbered.bounded old outstanding
        omega
    | delivered old bytes current number =>
        have below := numbered.bounded old current.1
        omega
  exact ⟨nodup, bounded, fun connection above => (silent connection above).1,
    fun connection above => (silent connection above).2⟩

theorem numbered [Header H]
    {cfg : Config} {header : H} {events : List Event} {server : Server H}
    (run : Run (step cfg) (Server.start cfg header) events server) :
    Numbered server := by
  refine Run.invariant Numbered ?_ ?_ run
  · have fresh := Server.start_fresh cfg header
    constructor
    · simp [fresh.receives]
    · simp [fresh.receives]
    · simp [fresh.received]
    · simp [Server.delivered, fresh.inserted]
  · intro before event after held taken
    exact held.stepped (stepped_of_step taken)

/-! ## Header objects -/

/-- A call that keeps the header object good keeps them all good. -/
theorem good_apply
    (cfg : Config) {good : H → Prop} {server : Server H}
    {this : Nat} {outcome : Outcome H}
    (headers : ∀ session, good (server.sessions session).header)
    (own : good outcome.session.header) (session : Nat) :
    good ((server.apply cfg this outcome).sessions session).header := by
  by_cases same : session = this
  · subst session
    rw [sessions_apply_self]
    exact own
  · rw [sessions_apply_of_ne cfg server outcome same]
    exact headers session

/-- A property that `Deserialize` keeps holds of all header objects. -/
theorem Stepped.headers [Header H]
    {cfg : Config} {good : H → Prop}
    {before after : Server H} {event : Event}
    (kept :
      ∀ header buffer size, good header →
        good (Header.deserialize header buffer size).1)
    (stepped : Stepped cfg before event after)
    (headers : ∀ session, good (before.sessions session).header)
    (session : Nat) :
    good (after.sessions session).header := by
  have closed : ∀ this closeFails,
      good ((before.close cfg this closeFails).sessions session).header := by
    intro this closeFails
    rw [(sameReceiver_close cfg before this closeFails session).header]
    exact headers session
  cases stepped with
  | rejected =>
      rw [sessions_acquireSession]
      exact headers session
  | admitted offered =>
      rw [sessions_acquireSession]
      by_cases own : session = offered
      · subst session
        rw [sessions_acceptClient_self]
        exact headers offered
      · rw [sessions_acceptClient_of_ne before own]
        exact headers session
  | abandoned index receive completion closeFails last _ _ givesUp =>
      refine good_apply cfg headers ?_ session
      rw [AsyncSessionImpl.abandon,
        (last.close_sameReceiver closeFails).header]
      rcases givesUp.header with same | ⟨buffer, size, read⟩
      · rw [same]
        exact headers receive.session
      · rw [read]
        exact kept _ _ _ (headers receive.session)
  | headerRead index receive bytes closeFails _ _ _ _ outcome allocated =>
      refine good_apply cfg headers ?_ session
      rw [allocated, (AsyncSessionImpl.allocateBody_accepting _ _).header]
      exact kept _ _ _ (headers receive.session)
  | bodyRead index receive bytes closeFails _ _ _ _ _ outcome handed =>
      refine good_apply cfg headers ?_ session
      rw [handed]
      exact headers receive.session
  | writeFailed index write closeFails =>
      exact closed write.session closeFails
  | closed this closeFails => exact closed this closeFails
  | wrote => exact headers session
  | writeDelivered => exact headers session
  | taken => exact headers session
  | processed => exact headers session
  | sent => exact headers session

theorem headers_good [Header H]
    {cfg : Config} {good : H → Prop}
    (kept :
      ∀ header buffer size, good header →
        good (Header.deserialize header buffer size).1)
    {header : H} (isGood : good header)
    {events : List Event} {server : Server H}
    (run : Run (step cfg) (Server.start cfg header) events server)
    (session : Nat) :
    good (server.sessions session).header := by
  refine Run.invariant
    (fun server => ∀ session, good (server.sessions session).header)
    ?_ ?_ run session
  · intro session
    rw [start_sessions]
    exact isGood
  · intro before event after held taken
    exact (stepped_of_step taken).headers kept held

end LibSklt.Net
