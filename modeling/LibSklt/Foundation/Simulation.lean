import LibSklt.Foundation.Transition

/-!
# Simulation between two systems

A concrete system simulates an abstract one through `view` if each of its
steps is, seen through `view`, a run of the abstract system: no step, one, or
several.  Then every run of the concrete system is a run of the abstract one,
and what holds of all abstract runs holds of what is seen of the concrete
ones.  Side conditions are carried along.
-/

namespace LibSklt.Foundation.Transition

universe u v

variable
    {State : Type u} {Event : Type v}
    {step : State → Event → Option State}
    {allowed : State → Event → Prop}
    {start middle finish : State}

/-- Runs can be put one after the other. -/
theorem RunWhere.append
    {earlier later : List Event}
    (first : RunWhere step allowed start earlier middle)
    (second : RunWhere step allowed middle later finish) :
    RunWhere step allowed start (earlier ++ later) finish := by
  induction second with
  | start =>
      rw [List.append_nil]
      exact first
  | snoc _ meets taken inductionHypothesis =>
      rw [← List.append_assoc]
      exact inductionHypothesis.snoc meets taken

/-- A run of one step. -/
theorem RunWhere.single
    {event : Event}
    (meets : allowed start event)
    (taken : step start event = some finish) :
    RunWhere step allowed start [event] finish :=
  (RunWhere.start : RunWhere step allowed start [] start).snoc meets taken

/-- The invariant rule, with what is known of runs with the condition. -/
theorem RunWhere.invariantWhere
    (known holds : State → Prop)
    (established :
      ∀ {events state},
        RunWhere step allowed start events state → known state)
    (initially : holds start)
    (preserved :
      ∀ before event after,
        known before → holds before → allowed before event →
          step before event = some after → holds after)
    {events : List Event}
    (run : RunWhere step allowed start events finish) :
    holds finish := by
  induction run with
  | start => exact initially
  | snoc earlier meets taken inductionHypothesis =>
      exact preserved _ _ _
        (established earlier) inductionHypothesis meets taken

/--
The simulation rule.  `known` is an invariant of the concrete system; the
step that is matched may use it.
-/
theorem RunWhere.simulate
    {Abstract : Type*} {Action : Type*}
    {abstractStep : Abstract → Action → Option Abstract}
    {abstractAllowed : Abstract → Action → Prop}
    (view : State → Abstract)
    (known : State → Prop)
    (established :
      ∀ {events state},
        RunWhere step allowed start events state → known state)
    (matched :
      ∀ before event after,
        known before → allowed before event →
          step before event = some after →
            ∃ actions,
              RunWhere abstractStep abstractAllowed
                (view before) actions (view after))
    {events : List Event}
    (run : RunWhere step allowed start events finish) :
    ∃ actions,
      RunWhere abstractStep abstractAllowed
        (view start) actions (view finish) := by
  induction run with
  | start => exact ⟨[], .start⟩
  | snoc earlier meets taken inductionHypothesis =>
      obtain ⟨actions, matching⟩ := inductionHypothesis
      obtain ⟨further, next⟩ :=
        matched _ _ _ (established earlier) meets taken
      exact ⟨actions ++ further, matching.append next⟩

/--
A view under which the two step functions agree: the runs of the one system,
seen through the view, are exactly the runs of the other.
-/
theorem exists_run_view_iff
    {Abstract : Type*}
    {abstractStep : Abstract → Event → Option Abstract}
    (view : State → Abstract)
    (agree :
      ∀ state event,
        (step state event).map view = abstractStep (view state) event)
    {events : List Event} {seen : Abstract} :
    (∃ state, Run step start events state ∧ view state = seen) ↔
      Run abstractStep (view start) events seen := by
  constructor
  · rintro ⟨state, run, rfl⟩
    induction run with
    | start => exact .start
    | snoc _ _ taken inductionHypothesis =>
        refine inductionHypothesis.snoc trivial ?_
        rw [← agree, taken]
        rfl
  · intro run
    induction run with
    | start => exact ⟨start, .start, rfl⟩
    | snoc _ _ taken inductionHypothesis =>
        obtain ⟨state, earlier, rfl⟩ := inductionHypothesis
        rw [← agree] at taken
        obtain ⟨next, moved, rfl⟩ := Option.map_eq_some_iff.mp taken
        exact ⟨next, earlier.snoc trivial moved, rfl⟩

end LibSklt.Foundation.Transition
