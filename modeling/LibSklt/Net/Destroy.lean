import LibSklt.Net.LoneClient

/-!
# The loop of `Destroy`

`Destroy` takes sessions from the queue and closes them until the connection
counter is zero.  But it does not count the sessions down: `PacketProcess`
calls `ConnectionCountSub` after `Close`, and `Destroy` does not.  When the
queue is empty, the loop goes on with the counter that it started with.
-/

namespace LibSklt.Net.SyncSessionPool

open LibSklt.Util

variable {H : Type}

/-- How a call of `Destroy` ends. -/
inductive DestroyEnding where
  | returned
  | threw
  /-- The call is still in its loop. -/
  | looping
deriving DecidableEq

/-- A call of `Destroy`, with the sessions that it closed. -/
structure Destruction (H : Type) where
  ending : DestroyEnding
  pool : SyncSessionPool H
  closed : List (SyncSessionImpl H)

/-- `Destroy`. -/
def destroy (sizeBits : Nat) (makeHeader : H) :
    List Iteration → SyncSessionPool H → Destruction H
  | [], self =>
      if self.getConnectionCount = 0 then
        ⟨.returned, self, []⟩
      else
        ⟨.looping, self, []⟩
  | iteration :: iterations, self =>
      if self.getConnectionCount = 0 then
        ⟨.returned, self, []⟩
      else
        match self.acquire sizeBits makeHeader iteration with
        | (none, self) => ⟨.threw, self, []⟩
        | (some none, self) => destroy sizeBits makeHeader iterations self
        | (some (some session), self) =>
            if iteration.closeFails then
              ⟨.threw, self, [session.close]⟩
            else
              let later := destroy sizeBits makeHeader iterations self
              { later with closed := session.close :: later.closed }

/-- The call has returned, all sessions are closed and none is counted. -/
structure Drains (pool : SyncSessionPool H) (call : Destruction H) :
    Prop where
  returned : call.ending = .returned
  closed : call.closed = pool.sessionContainer.queue.map (·.close)
  emptied : call.pool.sessionContainer.queue = []
  uncounted : call.pool.getConnectionCount = 0

section

variable {sizeBits : Nat} {makeHeader : H} {pool : SyncSessionPool H}

/-- Without a connection that counts, `Destroy` does nothing. -/
theorem destroy_of_count_eq_zero
    (uncounted : pool.getConnectionCount = 0) (rounds : List Iteration) :
    destroy sizeBits makeHeader rounds pool = ⟨.returned, pool, []⟩ := by
  cases rounds with
  | nil => rw [destroy, if_pos uncounted]
  | cons round rounds => rw [destroy, if_pos uncounted]

/-- As nothing counts down, only an error of `Close` ends the loop. -/
theorem destroy_of_counted
    (counted : pool.getConnectionCount ≠ 0) {rounds : List Iteration}
    (quiet : ∀ round ∈ rounds, round.timerExpired = false) :
    (destroy sizeBits makeHeader rounds pool).ending = .looping ∨
      (destroy sizeBits makeHeader rounds pool).ending = .threw ∧
        ∃ round ∈ rounds, round.closeFails = true := by
  induction rounds generalizing pool with
  | nil => exact .inl (by rw [destroy, if_neg counted])
  | cons round rounds inductionHypothesis =>
      -- The counter is the same in the pool that `Acquire` leaves behind.
      have later :=
        @inductionHypothesis
          { pool with
            sessionContainer :=
              (pool.sessionContainer.acquire sizeBits).2 }
          counted
          (fun round member => quiet round (List.mem_cons_of_mem _ member))
      simp only [List.exists_mem_cons_iff]
      rw [destroy, if_neg counted,
        acquire_of_quiet (quiet round List.mem_cons_self)]
      cases (pool.sessionContainer.acquire sizeBits).1 with
      | none => exact later.imp_right (And.imp_right .inr)
      | some session =>
          simp only
          split
          case isTrue closeFails => exact .inr ⟨rfl, .inl closeFails⟩
          case isFalse => exact later.imp_right (And.imp_right .inr)

/--
Once the timer expires no more, `Destroy` drains exactly the pools that have
nothing to drain.
-/
theorem destroy_drains_iff
    (sizeBits : Nat) (makeHeader : H) (pool : SyncSessionPool H)
    {rounds : Nat → Iteration}
    (quiet : ∀ index, (rounds index).timerExpired = false) :
    (∃ count,
        Drains pool
          (destroy sizeBits makeHeader (firstRounds rounds count) pool)) ↔
      pool.getConnectionCount = 0 ∧ pool.sessionContainer.queue = [] := by
  constructor
  · rintro ⟨count, drains⟩
    have uncounted : pool.getConnectionCount = 0 := by
      by_contra counted
      have quietly :
          ∀ round ∈ firstRounds rounds count, round.timerExpired = false := by
        simp [firstRounds, quiet]
      rcases @destroy_of_counted _ sizeBits makeHeader _ counted _ quietly
        with looping | ⟨threw, -⟩
      · cases drains.returned.symm.trans looping
      · cases drains.returned.symm.trans threw
    refine ⟨uncounted, ?_⟩
    have emptied := drains.emptied
    rwa [destroy_of_count_eq_zero uncounted] at emptied
  · rintro ⟨uncounted, empty⟩
    refine ⟨0, ?_⟩
    rw [destroy_of_count_eq_zero uncounted]
    exact ⟨rfl, by rw [empty, List.map_nil], empty, uncounted⟩

end

open LibSklt.DummyServer
open LibSklt.Util.ByteOrder

/-- No connection could be made for the pool. -/
theorem destroy_drains_unconnected :
    ∃ count,
      Drains (construct 64 (HeaderCct.make : HeaderCct ⟨true, 64⟩) 1 [.failed])
        (destroy 64 HeaderCct.make
          (firstRounds (fun _ => quietRound) count)
          (construct 64 HeaderCct.make 1 [.failed])) :=
  (destroy_drains_iff 64 HeaderCct.make _ fun _ => rfl).mpr ⟨rfl, rfl⟩

/-- A new pool has one session in its queue, and `Destroy` never ends. -/
theorem destroy_spins :
    mutePool.sessionContainer.queue.length = 1 ∧
      ¬ ∃ count,
        (destroy 64 HeaderCct.make (firstRounds (fun _ => quietRound) count)
          mutePool).ending ≠ .looping := by
  refine ⟨rfl, ?_⟩
  rintro ⟨count, ends⟩
  have counted : mutePool.getConnectionCount ≠ 0 := by decide
  rcases @destroy_of_counted _ 64 HeaderCct.make _ counted
      (firstRounds (fun _ => quietRound) count)
      (by simp [firstRounds, quietRound]) with
    looping | ⟨-, round, among, closeFails⟩
  · exact ends looping
  · obtain ⟨index, -, rfl⟩ := List.mem_map.mp among
    cases closeFails

end LibSklt.Net.SyncSessionPool
