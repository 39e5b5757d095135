import Mathlib.Data.List.Basic

/-!
# Runs of a partial step function

A system is a step function `State → Event → Option State`; `none` means
that the event cannot happen in that state.  A run is a finite sequence of
events that can all happen, one after the other.

Many properties hold only in the runs all of whose steps meet a side
condition.  `RunWhere` therefore carries a predicate on the state before a
step and the event, and `Run` is the case without a side condition.  The
invariant rules below are the only inductions over runs that a development
needs for a state predicate.
-/

namespace LibSklt.Foundation.Transition

universe u v

variable {State : Type u} {Event : Type v}

/-- The runs from `start` all of whose steps meet `allowed`. -/
inductive RunWhere
    (step : State → Event → Option State)
    (allowed : State → Event → Prop)
    (start : State) : List Event → State → Prop where
  | start : RunWhere step allowed start [] start
  | snoc
      {events : List Event} {before after : State} {event : Event}
      (run : RunWhere step allowed start events before)
      (meets : allowed before event)
      (taken : step before event = some after) :
      RunWhere step allowed start (events ++ [event]) after

/-- All runs from `start`. -/
abbrev Run (step : State → Event → Option State) (start : State) :
    List Event → State → Prop :=
  RunWhere step (fun _ _ => True) start

variable
    {step : State → Event → Option State}
    {allowed : State → Event → Prop}
    {start finish : State}
    {events : List Event}

/-- A side condition may always be weakened. -/
theorem RunWhere.weaken
    {weaker : State → Event → Prop}
    (implies : ∀ state event, allowed state event → weaker state event)
    (run : RunWhere step allowed start events finish) :
    RunWhere step weaker start events finish := by
  induction run with
  | start => exact .start
  | snoc _ meets taken inductionHypothesis =>
      exact .snoc inductionHypothesis (implies _ _ meets) taken

/-- Forgetting the side condition of a run. -/
theorem RunWhere.toRun
    (run : RunWhere step allowed start events finish) :
    Run step start events finish :=
  run.weaken fun _ _ _ => trivial

/--
The invariant rule.  `known` is an invariant established before; a step may
use it in the state it starts from.
-/
theorem RunWhere.invariant
    (known holds : State → Prop)
    (established :
      ∀ {events state}, Run step start events state → known state)
    (initially : holds start)
    (preserved :
      ∀ before event after,
        known before → holds before → allowed before event →
          step before event = some after → holds after)
    (run : RunWhere step allowed start events finish) :
    holds finish := by
  induction run with
  | start => exact initially
  | snoc earlier meets taken inductionHypothesis =>
      exact preserved _ _ _
        (established earlier.toRun) inductionHypothesis meets taken

/-- The invariant rule for runs without a side condition. -/
theorem Run.invariant
    (holds : State → Prop)
    (initially : holds start)
    (preserved :
      ∀ before event after,
        holds before → step before event = some after → holds after)
    (run : Run step start events finish) :
    holds finish :=
  RunWhere.invariant (fun _ => True) holds
    (fun _ => trivial) initially
    (fun before event after _ held _ taken =>
      preserved before event after held taken)
    run

/-! ## Statements about the steps of a run -/

/-- A sequence of events leads to one state only. -/
theorem Run.unique
    {other : State}
    (run : Run step start events finish)
    (run' : Run step start events other) :
    finish = other := by
  induction run generalizing other with
  | start =>
      generalize none : ([] : List Event) = events at run'
      cases run' with
      | start => rfl
      | snoc => simp at none
  | @snoc events before after event _ _ taken inductionHypothesis =>
      generalize all : events ++ [event] = events' at run'
      cases run' with
      | start => simp at all
      | snoc earlier _ taken' =>
          obtain ⟨rfl, same⟩ := List.append_inj' all rfl
          cases same
          have agree := inductionHypothesis earlier
          subst agree
          exact Option.some.inj (taken.symm.trans taken')

/-- Every step of the run satisfies `holds`, given the events before it. -/
def EachStep
    (step : State → Event → Option State) (start : State)
    (events : List Event)
    (holds : List Event → State → Event → Prop) : Prop :=
  ∀ earlier event later before,
    events = earlier ++ event :: later →
      Run step start earlier before →
        holds earlier before event

theorem eachStep_nil (holds : List Event → State → Event → Prop) :
    EachStep step start [] holds := by
  intro earlier event later before split
  simp at split

/-- A statement about all steps, one step at a time. -/
theorem eachStep_snoc_iff
    {holds : List Event → State → Event → Prop} {event : Event}
    (run : Run step start events finish) :
    EachStep step start (events ++ [event]) holds ↔
      EachStep step start events holds ∧ holds events finish event := by
  constructor
  · intro each
    refine ⟨?_, each events event [] finish rfl run⟩
    intro earlier earlierEvent later before split
    refine each earlier earlierEvent (later ++ [event]) before ?_
    simp [split]
  · rintro ⟨each, last⟩ earlier laterEvent later before split reached
    rcases List.eq_nil_or_concat later with rfl | ⟨later, final, rfl⟩
    · obtain ⟨rfl, same⟩ := List.append_inj' split rfl
      cases same
      rwa [Run.unique reached run]
    · rw [List.concat_eq_append, ← List.cons_append,
        ← List.append_assoc] at split
      obtain ⟨front, -⟩ := List.append_inj' split rfl
      exact each earlier laterEvent later before front reached

/-- Two statements that agree on every step that is taken. -/
theorem eachStep_congr
    {first second : List Event → State → Event → Prop}
    (run : Run step start events finish)
    (agree :
      ∀ {earlier before event after},
        Run step start earlier before →
          step before event = some after →
            (first earlier before event ↔ second earlier before event)) :
    EachStep step start events first ↔
      EachStep step start events second := by
  induction run with
  | start => exact iff_of_true (eachStep_nil _) (eachStep_nil _)
  | snoc earlier _ taken inductionHypothesis =>
      rw [eachStep_snoc_iff earlier, eachStep_snoc_iff earlier,
        inductionHypothesis, agree earlier taken]

/-- Every state of the run satisfies `holds`. -/
def EachState
    (step : State → Event → Option State) (start : State)
    (events : List Event) (holds : State → Prop) : Prop :=
  ∀ earlier later state,
    events = earlier ++ later → Run step start earlier state → holds state

theorem eachState_nil_iff {holds : State → Prop} :
    EachState step start [] holds ↔ holds start := by
  constructor
  · intro each
    exact each [] [] start rfl .start
  · intro initially earlier later state split reached
    obtain ⟨rfl, rfl⟩ := List.append_eq_nil_iff.mp split.symm
    rwa [Run.unique reached .start]

/-- A statement about all states, one step at a time. -/
theorem eachState_snoc_iff
    {holds : State → Prop} {event : Event} {next : State}
    (run : Run step start events finish)
    (taken : step finish event = some next) :
    EachState step start (events ++ [event]) holds ↔
      EachState step start events holds ∧ holds next := by
  have extended := run.snoc trivial taken
  constructor
  · intro each
    refine ⟨?_, each _ [] next (by simp) extended⟩
    intro earlier later state split
    exact each earlier (later ++ [event]) state (by simp [split])
  · rintro ⟨each, last⟩ earlier later state split reached
    rcases List.eq_nil_or_concat later with rfl | ⟨later, final, rfl⟩
    · rw [List.append_nil] at split
      subst split
      rwa [Run.unique reached extended]
    · rw [List.concat_eq_append, ← List.append_assoc] at split
      obtain ⟨front, -⟩ := List.append_inj' split rfl
      exact each earlier later state front reached

/-! ## Keeping a record of a run -/

/-- The step function, with a record of what the events show. -/
def recorded
    {Value : Type*}
    (step : State → Event → Option State)
    (shows : State → Event → List Value) :
    State × List Value → Event → Option (State × List Value) :=
  fun state event =>
    (step state.1 event).map fun next =>
      (next, state.2 ++ shows state.1 event)

theorem recorded_eq_some_iff
    {Value : Type*} {shows : State → Event → List Value}
    {before after : State × List Value} {event : Event} :
    recorded step shows before event = some after ↔
      step before.1 event = some after.1 ∧
        after.2 = before.2 ++ shows before.1 event := by
  constructor
  · intro taken
    obtain ⟨next, moved, rfl⟩ := Option.map_eq_some_iff.mp taken
    exact ⟨moved, rfl⟩
  · rintro ⟨taken, record⟩
    exact Option.map_eq_some_iff.mpr ⟨after.1, taken, by rw [← record]⟩

/-- The record neither adds runs nor takes any away. -/
theorem exists_recorded_iff
    {Value : Type*} {shows : State → Event → List Value} :
    (∃ record,
        Run (recorded step shows) (start, []) events (finish, record)) ↔
      Run step start events finish := by
  constructor
  · rintro ⟨record, run⟩
    generalize reached : (finish, record) = state at run
    induction run generalizing finish record with
    | start =>
        cases reached
        exact .start
    | snoc _ meets taken inductionHypothesis =>
        cases reached
        exact (inductionHypothesis _ rfl).snoc meets
          (recorded_eq_some_iff.mp taken).1
  · intro run
    induction run with
    | start => exact ⟨[], .start⟩
    | snoc _ meets taken inductionHypothesis =>
        obtain ⟨record, earlier⟩ := inductionHypothesis
        exact ⟨_, earlier.snoc meets
          (recorded_eq_some_iff.mpr ⟨taken, rfl⟩)⟩

/-! ## Executing a list of events -/

/-- Execute the events in order, checking the side condition before each. -/
def execWhere
    (step : State → Event → Option State)
    (allowed : State → Event → Prop)
    [∀ state event, Decidable (allowed state event)] :
    State → List Event → Option State
  | state, [] => some state
  | state, event :: rest =>
      if allowed state event then
        (step state event).bind fun next =>
          execWhere step allowed next rest
      else
        none

theorem RunWhere.append_exec
    [∀ state event, Decidable (allowed state event)]
    {earlier : List Event} {middle : State}
    (run : RunWhere step allowed start earlier middle)
    (executed : execWhere step allowed middle events = some finish) :
    RunWhere step allowed start (earlier ++ events) finish := by
  induction events generalizing earlier middle with
  | nil =>
      simp only [execWhere, Option.some.injEq] at executed
      subst finish
      simpa using run
  | cons event rest inductionHypothesis =>
      simp only [execWhere] at executed
      split at executed
      case isTrue meets =>
        obtain ⟨next, taken, remaining⟩ :=
          Option.bind_eq_some_iff.mp executed
        have extended := inductionHypothesis (run.snoc meets taken) remaining
        simpa using extended
      case isFalse => simp at executed

/-- A successful execution is a run. -/
theorem runWhere_of_exec
    [∀ state event, Decidable (allowed state event)]
    (executed : execWhere step allowed start events = some finish) :
    RunWhere step allowed start events finish := by
  simpa using RunWhere.append_exec .start executed

/-- An execution that does not get stuck reaches some state. -/
theorem exists_runWhere_of_exec
    [∀ state event, Decidable (allowed state event)]
    (executed : (execWhere step allowed start events).isSome = true) :
    ∃ finish, RunWhere step allowed start events finish := by
  obtain ⟨finish, equal⟩ := Option.isSome_iff_exists.mp executed
  exact ⟨finish, runWhere_of_exec equal⟩

/--
An execution seen through `view`.  Only the value that is seen has to be
compared, so the equation can be decided when states cannot.
-/
theorem exists_runWhere_of_map_exec
    [∀ state event, Decidable (allowed state event)]
    {Value : Type*} {view : State → Value} {value : Value}
    (executed :
      (execWhere step allowed start events).map view = some value) :
    ∃ finish,
      RunWhere step allowed start events finish ∧ view finish = value := by
  obtain ⟨finish, reached, equal⟩ := Option.map_eq_some_iff.mp executed
  exact ⟨finish, runWhere_of_exec reached, equal⟩

end LibSklt.Foundation.Transition
