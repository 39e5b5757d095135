import LibSklt.Foundation.MachineWord
import LibSklt.Foundation.Transition
import Mathlib.Data.List.Chain

/-!
# The numbers of the packets (`SyncSessionImpl::GetSendPacketNo`)

`GetSendPacketNo` counts with `fetch_add` and then reads the counter with
`load`.  These are two atomic steps; the value that `fetch_add` returns is
thrown away.  Any number of callers may be inside of the function, and their
steps come in any order.

What a call returns is the number of calls that have counted until then.  Two
calls get the same number if nobody counts between their loads.
-/

namespace LibSklt.Net.PacketNumbers

open LibSklt.Foundation.MachineWord
open LibSklt.Foundation.Transition

variable {Caller : Type}

/-- The counter of a session, and the calls on it. -/
structure State (Caller : Type) where
  /-- `m_sendPacketNo`, an `int32_t`. -/
  sendPacketNo : Int
  /-- The callers that have counted and not yet read. -/
  between : List Caller
  /-- What the calls have returned. -/
  returned : List Int

/-- The atomic steps of a call. -/
inductive Step (Caller : Type) where
  /-- `m_sendPacketNo.fetch_add(1)`. -/
  | fetchAdd (caller : Caller)
  /-- `return m_sendPacketNo.load()`. -/
  | load (caller : Caller)
deriving DecidableEq

/-- The constructor of the session. -/
def start : State Caller where
  sendPacketNo := 1
  between := []
  returned := []

/-- One step of a call of `GetSendPacketNo`. -/
def getSendPacketNo [DecidableEq Caller] (state : State Caller) :
    Step Caller → Option (State Caller)
  | .fetchAdd caller =>
      if caller ∈ state.between then
        none
      else
        some
          { state with
            sendPacketNo := signedCast 32 (state.sendPacketNo + 1)
            between := caller :: state.between }
  | .load caller =>
      if caller ∈ state.between then
        some
          { state with
            between := state.between.erase caller
            returned := state.returned ++ [state.sendPacketNo] }
      else
        none

def Step.isFetchAdd : Step Caller → Bool
  | .fetchAdd _ => true
  | .load _ => false

/-- The number of calls that are made. -/
def callCount (steps : List (Step Caller)) : Nat :=
  steps.countP Step.isFetchAdd

/-- Of two steps that follow each other, one counts. -/
def Counts (first second : Step Caller) : Prop :=
  first.isFetchAdd = true ∨ second.isFetchAdd = true

instance : DecidableRel (Counts : Step Caller → Step Caller → Prop) :=
  fun first second =>
    inferInstanceAs
      (Decidable (first.isFetchAdd = true ∨ second.isFetchAdd = true))

/-- Between any two loads, some call counts. -/
def Separated (steps : List (Step Caller)) : Prop :=
  steps.IsChain Counts

/-! ## The numbers -/

/-- What a call reads after `count` calls have counted. -/
def packetNo (count : Nat) : Int :=
  signedCast 32 (count + 1 : Nat)

theorem packetNo_succ (count : Nat) :
    signedCast 32 (packetNo count + 1) = packetNo (count + 1) := by
  rw [packetNo, packetNo]
  refine signedCast_congr ?_
  rw [Nat.cast_succ (count + 1)]
  exact (signedCast_modEq 32 _).add_right 1

/-- Below `2 ^ 32` calls the numbers do not repeat. -/
theorem packetNo_ne
    {earlier later : Nat} (ordered : earlier < later)
    (few : later < 2 ^ 32) : packetNo earlier ≠ packetNo later := by
  intro same
  have residues :
      ((earlier + 1 : Nat) : Int) ≡ (later + 1 : Nat)
        [ZMOD (2 ^ 32 : Nat)] :=
    calc
      _ ≡ packetNo earlier [ZMOD (2 ^ 32 : Nat)] :=
        (signedCast_modEq 32 _).symm
      _ = packetNo later := same
      _ ≡ _ [ZMOD (2 ^ 32 : Nat)] := signedCast_modEq 32 _
  rw [Int.natCast_modEq_iff] at residues
  have equal := (Nat.ModEq.add_right_cancel' 1 residues).eq_of_lt_of_lt
    (ordered.trans few) few
  omega

/-! ## The steps of the callers -/

/-- The last step counted, or there is none. -/
def EndsCounting (steps : List (Step Caller)) : Prop :=
  ∀ last ∈ steps.getLast?, last.isFetchAdd = true

theorem separated_snoc_iff
    {steps : List (Step Caller)} {step : Step Caller} :
    Separated (steps ++ [step]) ↔
      Separated steps ∧ (EndsCounting steps ∨ step.isFetchAdd = true) := by
  rw [Separated, List.isChain_append, ← Separated]
  refine and_congr_right fun _ => ?_
  by_cases counts : step.isFetchAdd = true
  · simp [Counts, counts]
  · simp [Counts, counts, EndsCounting]

theorem callCount_snoc (steps : List (Step Caller)) (step : Step Caller) :
    callCount (steps ++ [step]) =
      callCount steps + if step.isFetchAdd then 1 else 0 := by
  rw [callCount, List.countP_append, List.countP_singleton, callCount]

/--
The counter stands at the number of calls.  A load that comes next repeats a
number exactly if the last step was a load.
-/
structure Numbered (steps : List (Step Caller)) (state : State Caller) :
    Prop where
  counter : state.sendPacketNo = packetNo (callCount steps)
  numbers :
    ∀ number ∈ state.returned,
      ∃ count ≤ callCount steps, number = packetNo count
  fresh :
    EndsCounting steps →
      ∀ number ∈ state.returned,
        ∃ count < callCount steps, number = packetNo count
  repeated :
    ¬ EndsCounting steps → state.sendPacketNo ∈ state.returned

section

variable {steps : List (Step Caller)} {state : State Caller}

theorem Numbered.fetchAdd
    {next : State Caller} (numbered : Numbered steps state)
    (counted : next.sendPacketNo = signedCast 32 (state.sendPacketNo + 1))
    (same : next.returned = state.returned) (caller : Caller) :
    Numbered (steps ++ [.fetchAdd caller]) next := by
  have more :
      callCount (steps ++ [.fetchAdd caller]) = callCount steps + 1 := by
    simp [callCount_snoc, Step.isFetchAdd]
  have earlier :
      ∀ number ∈ next.returned,
        ∃ count < callCount (steps ++ [.fetchAdd caller]),
          number = packetNo count := by
    intro number member
    rw [same] at member
    obtain ⟨count, bound, rfl⟩ := numbered.numbers number member
    exact ⟨count, by omega, rfl⟩
  refine ⟨?_, ?_, fun _ => earlier, ?_⟩
  · rw [counted, numbered.counter, packetNo_succ, more]
  · intro number member
    obtain ⟨count, bound, equal⟩ := earlier number member
    exact ⟨count, bound.le, equal⟩
  · simp [EndsCounting, Step.isFetchAdd]

theorem Numbered.load
    {next : State Caller} (numbered : Numbered steps state)
    (unchanged : next.sendPacketNo = state.sendPacketNo)
    (longer : next.returned = state.returned ++ [state.sendPacketNo])
    (caller : Caller) :
    Numbered (steps ++ [.load caller]) next := by
  have same : callCount (steps ++ [.load caller]) = callCount steps := by
    simp [callCount_snoc, Step.isFetchAdd]
  refine ⟨?_, ?_, ?_, ?_⟩
  · rw [unchanged, numbered.counter, same]
  · intro number member
    rw [longer] at member
    rw [same]
    rcases List.mem_append.mp member with old | new
    · exact numbered.numbers number old
    · rw [List.mem_singleton] at new
      exact ⟨_, le_rfl, new.trans numbered.counter⟩
  · simp [EndsCounting, Step.isFetchAdd]
  · simp [unchanged, longer]

/-- The next load returns a new number exactly if the last step counted. -/
theorem Numbered.not_mem_returned_iff
    (numbered : Numbered steps state) (few : callCount steps < 2 ^ 32) :
    state.sendPacketNo ∉ state.returned ↔ EndsCounting steps := by
  constructor
  · intro new
    by_contra loaded
    exact new (numbered.repeated loaded)
  · intro counting member
    obtain ⟨count, smaller, same⟩ := numbered.fresh counting _ member
    rw [numbered.counter] at same
    exact packetNo_ne smaller few same.symm

variable [DecidableEq Caller]

/-- A step counts, or it adds the counter to what the calls have returned. -/
theorem getSendPacketNo_cases
    {next : State Caller} {step : Step Caller}
    (taken : getSendPacketNo state step = some next) :
    (∃ caller, step = .fetchAdd caller ∧
        next.sendPacketNo = signedCast 32 (state.sendPacketNo + 1) ∧
        next.returned = state.returned) ∨
      ∃ caller, step = .load caller ∧
        next.sendPacketNo = state.sendPacketNo ∧
        next.returned = state.returned ++ [state.sendPacketNo] := by
  cases step with
  | fetchAdd caller =>
      rw [getSendPacketNo] at taken
      split at taken
      · cases taken
      · cases taken
        exact .inl ⟨caller, rfl, rfl, rfl⟩
  | load caller =>
      rw [getSendPacketNo] at taken
      split at taken
      · cases taken
        exact .inr ⟨caller, rfl, rfl, rfl⟩
      · cases taken

theorem numbered_of_run (run : Run getSendPacketNo start steps state) :
    Numbered steps state := by
  induction run with
  | start =>
      refine ⟨rfl, by simp [start], by simp [start], ?_⟩
      simp [EndsCounting]
  | snoc _ _ taken numbered =>
      obtain ⟨caller, rfl, counted, same⟩ |
        ⟨caller, rfl, unchanged, longer⟩ := getSendPacketNo_cases taken
      · exact numbered.fetchAdd counted same caller
      · exact numbered.load unchanged longer caller

/--
No two calls return the same number, exactly if between any two loads some
call counts.
-/
theorem returned_nodup_iff
    (run : Run getSendPacketNo start steps state)
    (few : callCount steps < 2 ^ 32) :
    state.returned.Nodup ↔ Separated steps := by
  induction run with
  | start => simp [start, Separated]
  | snoc earlier _ taken inductionHypothesis =>
      rw [callCount_snoc] at few
      have fewBefore := lt_of_le_of_lt (Nat.le_add_right _ _) few
      rw [separated_snoc_iff, ← inductionHypothesis fewBefore,
        ← (numbered_of_run earlier).not_mem_returned_iff fewBefore]
      obtain ⟨caller, rfl, -, same⟩ | ⟨caller, rfl, -, longer⟩ :=
        getSendPacketNo_cases taken
      · simp [same, Step.isFetchAdd]
      · rw [longer, List.nodup_append_comm, List.singleton_append,
          List.nodup_cons, and_comm]
        simp [Step.isFetchAdd]

end

/-- Two calls, one after the other. -/
theorem returned_nodup_in_turn :
    ∃ state : State Nat,
      Run getSendPacketNo start
          [.fetchAdd 0, .load 0, .fetchAdd 1, .load 1] state ∧
        state.returned.Nodup := by
  obtain ⟨state, run⟩ :=
    @exists_runWhere_of_exec _ _ getSendPacketNo (fun _ _ => True)
      (start : State Nat) [.fetchAdd 0, .load 0, .fetchAdd 1, .load 1] _
      (by decide)
  exact ⟨state, run,
    (returned_nodup_iff run (by decide)).mpr (by unfold Separated; decide)⟩

/-- Both calls count before one of them reads. -/
theorem returned_not_nodup :
    ∃ state : State Nat,
      Run getSendPacketNo start
          [.fetchAdd 0, .fetchAdd 1, .load 0, .load 1] state ∧
        ¬ state.returned.Nodup := by
  obtain ⟨state, run, returned⟩ :
      ∃ state : State Nat,
        Run getSendPacketNo start
            [.fetchAdd 0, .fetchAdd 1, .load 0, .load 1] state ∧
          state.returned = [3, 3] :=
    exists_runWhere_of_map_exec (by decide)
  exact ⟨state, run, by rw [returned]; decide⟩

end LibSklt.Net.PacketNumbers
