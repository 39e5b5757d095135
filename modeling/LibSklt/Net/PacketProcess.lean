import LibSklt.DummyServer.HeaderCct
import LibSklt.Net.SyncExchange

/-!
# What the result of `PacketProcess` means

A call that returns `true` should have exchanged the request for a complete
reply on one session, and the sessions that it leaves in the queue should be
fit for the next call.  Both hold exactly if the first session that took the
whole request answered with a complete frame: `Recv` reports success in any
case.
-/

namespace LibSklt.Net.SyncSessionPool

open LibSklt.Foundation.MachineWord
open LibSklt.Util
open LibSklt.Net.SyncSessionImpl

variable {H : Type}

/-- The session is open, and no frame was left in the middle. -/
structure Usable (session : SyncSessionImpl H) : Prop where
  isOpen : session.socket.isOpen = true
  unread : session.unread = 0

/-- All sessions of the queue are usable. -/
def Sound (pool : SyncSessionPool H) : Prop :=
  ∀ session ∈ pool.sessionContainer.queue, Usable session

section

variable [SyncHeader H]

/-- The session sent the whole request and then read a complete frame. -/
def Attempt.Exchanged (request : List UInt8) (bufferSize : Nat)
    (attempt : Attempt H) : Prop :=
  attempt.after.socket.sent = attempt.before.socket.sent ++ request ∧
    Received bufferSize attempt.before attempt.after attempt.recvBuffer

/-- What the claim of success and the queue of a call are worth. -/
structure Outcome.Faithful (request : List UInt8) (bufferSize : Nat)
    (outcome : Outcome H) : Prop where
  exchanged :
    outcome.ending = .returned true →
      ∃ attempt ∈ outcome.attempts,
        attempt.Exchanged request bufferSize ∧
          attempt.recvBuffer = outcome.recvBuffer
  queued : outcome.pool.Sound
  discarded :
    ∀ attempt ∈ outcome.attempts,
      ¬ attempt.Exchanged request bufferSize →
        attempt.after.socket.isOpen = false ∧ attempt.restored = false

/--
The first session that takes the whole request, in the order in which the
rounds of a call take them from the queue.
-/
def acceptingSession (sizeBits : Nat) (makeHeader : H)
    (request : List UInt8) :
    List Iteration → SyncSessionPool H → Option (SyncSessionImpl H)
  | [], _ => none
  | iteration :: iterations, pool =>
      match pool.acquire sizeBits makeHeader iteration with
      | (none, _) => none
      | (some optSession, pool) =>
          if pool.getConnectionCount = 0 then
            none
          else
            match optSession with
            | none =>
                acceptingSession sizeBits makeHeader request iterations pool
            | some session =>
                if (session.send request).1 then
                  some session
                else if iteration.closeFails then
                  none
                else
                  acceptingSession sizeBits makeHeader request iterations
                    (pool.connectionCountSub sizeBits)

end

/-! ## Sessions in the queue -/

section

variable {sizeBits : Nat} {makeHeader : H}

theorem sound_restore
    {pool : SyncSessionPool H} (sound : pool.Sound)
    {session : SyncSessionImpl H} (usable : Usable session) :
    (pool.restore sizeBits session).2.Sound := by
  rw [Sound, restore]
  cases room : pool.sessionContainer.hasRoom sizeBits with
  | true =>
      rw [(Pool.restore_of_hasRoom room session false).2]
      intro queued member
      rcases List.mem_append.mp member with old | new
      · exact sound queued old
      · rw [List.mem_singleton] at new
        subst queued
        exact usable
  | false =>
      rw [Pool.restore_of_not_hasRoom room]
      exact sound

theorem sound_connetion
    {pool : SyncSessionPool H} (sound : pool.Sound)
    {session : SyncSessionImpl H} (usable : Usable session) :
    (pool.connetion sizeBits session).2.Sound := by
  have restored := @sound_restore _ sizeBits _ sound _ usable
  rw [connetion]
  simp only
  split
  · exact restored
  · exact restored

theorem sound_createObject
    (count : Nat) (results : List ConnectResult) {pool : SyncSessionPool H}
    (sound : pool.Sound) :
    (pool.createObject sizeBits makeHeader count results).2.Sound := by
  induction count generalizing results pool with
  | zero => exact sound
  | succ count inductionHypothesis =>
      cases results with
      | nil => exact sound
      | cons result results =>
          cases result with
          | threw => exact sound
          | failed => exact sound
          | connected sendResults recvResults incoming =>
              have usable :
                  Usable (connectedSession makeHeader sendResults
                    recvResults incoming) :=
                ⟨rfl, rfl⟩
              have created := @sound_connetion _ sizeBits _ sound _ usable
              simp only [createObject]
              split
              · exact inductionHypothesis _ created
              · exact created

theorem sound_maintenanceManager
    (iteration : Iteration) {pool : SyncSessionPool H}
    (sound : pool.Sound) :
    (pool.maintenanceManager sizeBits makeHeader iteration).2.Sound := by
  rw [maintenanceManager]
  split_ifs
  · exact sound_createObject _ _ sound
  · exact sound
  · exact sound

/-- `Acquire` takes usable sessions and leaves usable sessions. -/
theorem sound_acquire
    (iteration : Iteration) {pool : SyncSessionPool H}
    (sound : pool.Sound) :
    (pool.acquire sizeBits makeHeader iteration).2.Sound ∧
      ∀ session,
        (pool.acquire sizeBits makeHeader iteration).1 =
            some (some session) →
          Usable session := by
  have maintained :=
    @sound_maintenanceManager _ sizeBits makeHeader iteration _ sound
  rw [acquire]
  generalize pool.maintenanceManager sizeBits makeHeader iteration = result
    at maintained ⊢
  obtain ⟨threw, next⟩ := result
  simp only at maintained ⊢
  split
  · exact ⟨maintained, fun _ impossible => nomatch impossible⟩
  · cases queue : next.sessionContainer.queue with
    | nil =>
        rw [Pool.acquire_nil queue]
        exact ⟨maintained, fun _ impossible => nomatch impossible⟩
    | cons first rest =>
        rw [Pool.acquire_cons queue]
        constructor
        · intro session member
          apply maintained session
          rw [queue]
          exact List.mem_cons_of_mem _ member
        · intro session taken
          cases taken
          apply maintained
          rw [queue]
          exact List.mem_cons_self

end

/-! ## One session -/

section

variable [SyncHeader H] {sizeBits : Nat} {makeHeader : H}
  {request : List UInt8} {bufferSize : Nat}

/-- A session that did not receive anything did not exchange anything. -/
theorem not_exchanged_of_incoming_eq
    {attempt : Attempt H}
    (nothing :
      attempt.after.socket.incoming = attempt.before.socket.incoming) :
    ¬ attempt.Exchanged request bufferSize := by
  rintro ⟨-, frame, split, valid, -, -⟩
  rw [nothing] at split
  exact valid.nonempty (List.self_eq_append_left.mp split)

/-- A session that failed and was closed does not change what a call means. -/
theorem faithful_cons_iff
    {outcome : Outcome H} {attempt : Attempt H}
    (failed : ¬ attempt.Exchanged request bufferSize)
    (closed : attempt.after.socket.isOpen = false)
    (dropped : attempt.restored = false) :
    Outcome.Faithful request bufferSize
        { outcome with attempts := attempt :: outcome.attempts } ↔
      outcome.Faithful request bufferSize := by
  constructor
  · intro faithful
    refine ⟨fun ended => ?_, faithful.queued, fun other member =>
      faithful.discarded other (List.mem_cons_of_mem _ member)⟩
    obtain ⟨other, member, exchanged, buffer⟩ := faithful.exchanged ended
    rcases List.mem_cons.mp member with rfl | among
    · exact absurd exchanged failed
    · exact ⟨other, among, exchanged, buffer⟩
  · intro faithful
    refine ⟨?_, faithful.queued, ?_⟩
    · intro ended
      obtain ⟨other, member, exchanged, buffer⟩ := faithful.exchanged ended
      exact ⟨other, List.mem_cons_of_mem _ member, exchanged, buffer⟩
    · intro other member notExchanged
      rcases List.mem_cons.mp member with rfl | among
      · exact ⟨closed, dropped⟩
      · exact faithful.discarded other among notExchanged

/-- The call that ends with a session means something if the peer answered. -/
theorem faithful_last_iff
    {pool : SyncSessionPool H} (sound : pool.Sound)
    {before : SyncSessionImpl H} (sent : (before.send request).1 = true)
    (memory : List UInt8) :
    Outcome.Faithful request bufferSize
        ⟨.returned true,
          (pool.restore sizeBits ((before.send request).2.recv memory).2.1).2,
          ((before.send request).2.recv memory).2.2,
          [⟨before, ((before.send request).2.recv memory).2.1,
            ((before.send request).2.recv memory).2.2,
            (pool.restore sizeBits
              ((before.send request).2.recv memory).2.1).1⟩]⟩ ↔
      before.Answers bufferSize := by
  obtain ⟨isOpen, -, handed⟩ := send_eq_true sent
  obtain ⟨sending, -, -⟩ := before.send_sessionUnchanged request
  have stillOpen : (before.send request).2.isConnection = true := by
    rw [isConnection, sending.isOpen]
    exact isOpen
  have received :=
    received_iff_answers stillOpen memory bufferSize
  rw [answers_send_iff, received_send_iff] at received
  obtain ⟨openAfter, sentAfter⟩ :=
    recv_unchanged (before.send request).2 memory
  constructor
  · intro faithful
    obtain ⟨attempt, member, exchanged, -⟩ := faithful.exchanged rfl
    rw [List.mem_singleton] at member
    subst attempt
    exact received.mp exchanged.2
  · intro answers
    have exchanged :
        Attempt.Exchanged request bufferSize
          ⟨before, ((before.send request).2.recv memory).2.1,
            ((before.send request).2.recv memory).2.2,
            (pool.restore sizeBits
              ((before.send request).2.recv memory).2.1).1⟩ :=
      ⟨sentAfter.trans handed, received.mpr answers⟩
    have usable : Usable ((before.send request).2.recv memory).2.1 := by
      refine ⟨openAfter.trans stillOpen, ?_⟩
      exact recv_unread_of_answers stillOpen memory
        ((answers_send_iff before request bufferSize).mpr answers)
    refine ⟨fun _ => ⟨_, List.mem_singleton_self _, exchanged, rfl⟩,
      sound_restore sound usable, ?_⟩
    intro attempt member failed
    rw [List.mem_singleton] at member
    subst attempt
    exact absurd exchanged failed

end

/-! ## Whole calls -/

section

variable [SyncHeader H] {sizeBits : Nat} {makeHeader : H}
  {request : List UInt8} {bufferSize : Nat}

/-- A call that does not claim a success means nothing wrong. -/
theorem faithful_iff_of_nothing
    {pool : SyncSessionPool H} (sound : pool.Sound) {ending : Ending}
    (notTrue : ending ≠ .returned true) (memory : List UInt8) :
    Outcome.Faithful request bufferSize ⟨ending, pool, memory, []⟩ ↔
      ∀ session : SyncSessionImpl H,
        none = some session → session.Answers bufferSize := by
  constructor
  · intro _ session impossible
    cases impossible
  · intro _
    exact ⟨fun ended => absurd ended notTrue, sound, by simp⟩

/--
A call of `PacketProcess` on a pool of usable sessions means what it says
exactly if the first session that takes the whole request answers with a
complete frame.
-/
theorem packetProcess_faithful_iff
    (iterations : List Iteration) {pool : SyncSessionPool H}
    (sound : pool.Sound) (memory : List UInt8) :
    (packetProcess sizeBits makeHeader request iterations pool
        memory).Faithful request bufferSize ↔
      ∀ session,
        acceptingSession sizeBits makeHeader request iterations pool =
            some session →
          session.Answers bufferSize := by
  induction iterations generalizing pool memory with
  | nil =>
      exact faithful_iff_of_nothing sound (by simp) memory
  | cons iteration iterations inductionHypothesis =>
      obtain ⟨soundNext, usable⟩ :=
        @sound_acquire _ sizeBits makeHeader iteration _ sound
      rw [packetProcess, acceptingSession]
      generalize pool.acquire sizeBits makeHeader iteration = acquired
        at soundNext usable ⊢
      obtain ⟨optional, next⟩ := acquired
      cases optional with
      | none =>
          exact faithful_iff_of_nothing soundNext (by simp) memory
      | some optSession =>
          simp only at soundNext ⊢
          by_cases empty : next.getConnectionCount = 0
          · rw [if_pos empty, if_pos empty]
            exact faithful_iff_of_nothing soundNext (by simp) memory
          · rw [if_neg empty, if_neg empty]
            cases optSession with
            | none => exact inductionHypothesis soundNext memory
            | some before =>
                simp only
                by_cases sent : (before.send request).1 = true
                · obtain ⟨isOpen, -, -⟩ := send_eq_true sent
                  obtain ⟨sending, -, -⟩ :=
                    before.send_sessionUnchanged request
                  have stillOpen :
                      (before.send request).2.isConnection = true := by
                    rw [isConnection, sending.isOpen]
                    exact isOpen
                  have succeeded :
                      ((before.send request).2.recv memory).1 = true := by
                    rw [recv_of_open stillOpen]
                  simp only [sent, if_true, succeeded, Option.some.injEq,
                    forall_eq']
                  exact faithful_last_iff soundNext sent memory
                · rw [Bool.not_eq_true] at sent
                  simp only [sent, Bool.false_eq_true, if_false]
                  obtain ⟨sending, -, -⟩ :=
                    before.send_sessionUnchanged request
                  have failed (restored : Bool) :
                      ¬ Attempt.Exchanged request bufferSize
                        ⟨before, (before.send request).2.close, memory,
                          restored⟩ :=
                    not_exchanged_of_incoming_eq sending.incoming
                  by_cases closeFails : iteration.closeFails = true
                  · rw [if_pos closeFails, if_pos closeFails]
                    refine (@faithful_cons_iff H _ request bufferSize
                      ⟨.threw, next, memory, []⟩ _ (failed false) rfl
                      rfl).trans ?_
                    exact faithful_iff_of_nothing soundNext (by simp) memory
                  · rw [if_neg closeFails, if_neg closeFails]
                    refine (faithful_cons_iff (failed false) rfl rfl).trans ?_
                    exact @inductionHypothesis
                      (next.connectionCountSub sizeBits) soundNext memory

end

/-! ## The header of the test client -/

open LibSklt.DummyServer
open LibSklt.Util.ByteOrder

instance {build : Build} : SyncHeader (HeaderCct build) where
  getTotalSize := HeaderCct.getTotalSize

/-- A pool with one connection, on which the given things will happen. -/
def singlePool (recvResults : List Int) (incoming : List UInt8) :
    SyncSessionPool (HeaderCct ⟨true, 64⟩) where
  sessionContainer :=
    { queue := [connectedSession HeaderCct.make [3] recvResults incoming]
      sizeUseCnt := 0
      sizeFlexibleMaxCnt := 5000 }
  sizePoolCnt := 1
  sizeConnectionCnt := 1

theorem sound_singlePool (recvResults : List Int) (incoming : List UInt8) :
    (singlePool recvResults incoming).Sound := by
  intro session member
  rw [singlePool, List.mem_singleton] at member
  subst session
  exact ⟨rfl, rfl⟩

/-- A frame without body, which arrives in one piece. -/
theorem packetProcess_faithful_answered :
    (packetProcess 64 (HeaderCct.make : HeaderCct ⟨true, 64⟩) [1, 2, 3]
        [⟨false, [], false⟩] (singlePool [33, 49] (List.replicate 49 0))
        (List.replicate 64 0)).Faithful [1, 2, 3] 64 := by
  refine (packetProcess_faithful_iff _ (sound_singlePool _ _) _).mpr ?_
  intro session accepted
  cases accepted
  refine ⟨List.replicate 49 0, [], 33, [49], rfl, ?_, by decide, by decide,
    rfl, by decide, ?_⟩
  · exact ⟨by decide, by decide, rfl, by decide, rfl⟩
  · exact .more (by decide) (by decide) (.done _)

/-- The peer closes the connection, and the call returns `true`. -/
theorem packetProcess_true_without_reply :
    (packetProcess 64 (HeaderCct.make : HeaderCct ⟨true, 64⟩) [1, 2, 3]
        [⟨false, [], false⟩] (singlePool [0] [])
        (List.replicate 64 0)).ending =
      .returned true ∧
      ¬ (packetProcess 64 (HeaderCct.make : HeaderCct ⟨true, 64⟩) [1, 2, 3]
          [⟨false, [], false⟩] (singlePool [0] [])
          (List.replicate 64 0)).Faithful [1, 2, 3] 64 := by
  refine ⟨rfl, fun faithful => ?_⟩
  obtain ⟨attempt, member, ⟨-, frame, split, valid, -, -⟩, -⟩ :=
    faithful.exchanged rfl
  cases member with
  | head =>
      cases frame with
      | nil => exact valid.nonempty rfl
      | cons => cases split
  | tail _ among => cases among

end LibSklt.Net.SyncSessionPool
