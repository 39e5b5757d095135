import LibSklt.Db.DbConnector

/-!
# The handles of the ODBC connector are balanced

As long as every call is careful, the handles that are still to be freed are
the ones in the members, and a connector that is connected holds three of
them.  The first call that is not careful loses a handle, which no later call
can free, or frees a handle that is not allocated.  So the ledger is balanced
after the destructor exactly if all calls were careful and the destructor
finds nothing that it does not free.
-/

namespace LibSklt.Db.DbConnector

open LibSklt.Foundation.Ledger
open LibSklt.Foundation.Transition

/-! ## Keeping the handles in the members -/

/-- The handles that are still to be freed are those in the members. -/
structure Kept (state : State) : Prop where
  guarded : Guarded state.ledger
  /-- No handle is in use twice. -/
  single :
    ∀ handle,
      acquireCount state.ledger handle ≤ releaseCount state.ledger handle + 1
  member :
    ∀ {kind value}, Outstanding state.ledger (kind, value) →
      value = state.connector.handle kind ∧ value ≠ 0

/-- A connected connector holds three handles that are still to be freed. -/
structure Orderly (state : State) : Prop extends Kept state where
  connected :
    state.connector.bConnect = true →
      ∀ kind, Outstanding state.ledger (kind, state.connector.handle kind)

/-- Some handle was freed at the wrong time, or is no longer in its
member. -/
def Doomed (state : State) : Prop :=
  ¬ Guarded state.ledger ∨
    ∃ kind value, value ≠ 0 ∧ Outstanding state.ledger (kind, value) ∧
      value ≠ state.connector.handle kind

theorem orderly_construct (hEnv hDbc hSTMT : Nat) :
    Orderly (construct hEnv hDbc hSTMT) where
  guarded := guarded_nil
  single := fun _ => Nat.zero_le _
  member := fun outstanding => absurd outstanding (not_outstanding_nil _)
  connected := fun connected => by cases connected

/-- A tidy call of `SQLAllocHandle` keeps the handles in the members. -/
theorem Orderly.afterAlloc
    {state : State} (orderly : Orderly state)
    {kind : HandleKind} {result : AllocResult}
    (permitted : Permitted state.ledger kind result)
    (tidy : Tidy state (kind, result)) :
    Orderly (sqlAllocHandle state kind result) := by
  -- A member that is written held no handle that is still to be freed.
  have unheld :
      result.output ≠ none →
        ∀ value, ¬ Outstanding state.ledger (kind, value) := by
    intro written value outstanding
    obtain ⟨rfl, -⟩ := orderly.member outstanding
    exact tidy written outstanding
  have unconnected :
      result.output ≠ none → state.connector.bConnect ≠ true := by
    intro written connected
    exact tidy written (orderly.connected connected kind)
  rcases sqlAllocHandle_cases permitted with
    ⟨-, -, same⟩ | ⟨written, -, cleared⟩ | ⟨value, written, -, nonnull, unused,
      acquired⟩
  · rw [same]
    exact orderly
  · rw [cleared]
    have wrote : result.output ≠ none := by simp [written]
    refine
      { guarded := orderly.guarded, single := orderly.single, member := ?_
        connected := fun connected => absurd (by simpa using connected)
          (unconnected wrote) }
    intro other held outstanding
    rcases eq_or_ne other kind with rfl | different
    · exact absurd outstanding (unheld wrote held)
    · simpa [different] using orderly.member outstanding
  · rw [acquired]
    have wrote : result.output ≠ none := by simp [written]
    refine
      { guarded := (guarded_snoc_acquired _).mpr orderly.guarded
        single := fun handle =>
          acquireCount_snoc_acquired_le (orderly.single handle) unused
        member := ?_
        connected := fun connected => absurd (by simpa using connected)
          (unconnected wrote) }
    intro other held outstanding
    rcases eq_or_ne (kind, value) (other, held) with same | different
    · cases same
      simpa using nonnull
    · have before :=
        (outstanding_snoc_acquired_of_ne different).mp outstanding
      rcases eq_or_ne other kind with rfl | another
      · exact absurd before (unheld wrote held)
      · simpa [another] using orderly.member before

/-- After a success the member holds a handle that is still to be freed. -/
theorem Orderly.outstanding_afterAlloc
    {state : State} (orderly : Orderly state)
    {kind : HandleKind} {result : AllocResult}
    (permitted : Permitted state.ledger kind result)
    (succeeded : sqlRetCheck result.ret = true) :
    Outstanding (sqlAllocHandle state kind result).ledger
      (kind, (sqlAllocHandle state kind result).connector.handle kind) := by
  rcases sqlAllocHandle_cases permitted with
    ⟨-, failed, -⟩ | ⟨-, failed, -⟩ | ⟨value, -, -, -, -, acquired⟩
  · rw [succeeded] at failed
    cases failed
  · rw [succeeded] at failed
    cases failed
  · rw [acquired]
    simpa using orderly.guarded.outstanding_snoc_acquired (kind, value)

/-- A handle that was lost, or freed at the wrong time, stays so. -/
theorem Doomed.afterAlloc
    {state : State} (doomed : Doomed state)
    {kind : HandleKind} {result : AllocResult}
    (permitted : Permitted state.ledger kind result) :
    Doomed (sqlAllocHandle state kind result) := by
  rcases sqlAllocHandle_cases permitted with
    ⟨-, -, same⟩ | ⟨-, -, cleared⟩ | ⟨value, -, -, -, unused, acquired⟩
  · rwa [same]
  · rw [cleared]
    rcases doomed with unguarded | ⟨lost, held, nonnull, outstanding, apart⟩
    · exact .inl unguarded
    · refine .inr ⟨lost, held, nonnull, outstanding, ?_⟩
      rw [DBConnector.handle_setHandle]
      split
      · exact nonnull
      · exact apart
  · rw [acquired]
    rcases doomed with unguarded | ⟨lost, held, nonnull, outstanding, apart⟩
    · exact .inl fun guarded => unguarded guarded.of_append
    · have different : (kind, value) ≠ (lost, held) := by
        intro same
        rw [same] at unused
        exact unused outstanding
      refine .inr ⟨lost, held, nonnull,
        (outstanding_snoc_acquired_of_ne different).mpr outstanding, ?_⟩
      rw [DBConnector.handle_setHandle]
      split
      case isTrue same =>
        subst lost
        intro equal
        exact different (by rw [equal])
      case isFalse => exact apart

/-- Writing a member whose handle is still to be freed loses the handle. -/
theorem Kept.doomed_afterAlloc
    {state : State} (kept : Kept state)
    {kind : HandleKind} {result : AllocResult}
    (permitted : Permitted state.ledger kind result)
    (untidy : ¬ Tidy state (kind, result)) :
    Doomed (sqlAllocHandle state kind result) := by
  obtain ⟨written, outstanding⟩ := Classical.not_imp.mp untidy
  have outstanding := not_not.mp outstanding
  have nonnull := (kept.member outstanding).2
  rcases sqlAllocHandle_cases permitted with
    ⟨unwritten, -, -⟩ | ⟨-, -, cleared⟩ | ⟨value, -, -, -, unused, acquired⟩
  · exact absurd unwritten written
  · rw [cleared]
    exact .inr ⟨kind, _, nonnull, outstanding, by simpa using nonnull⟩
  · have different : value ≠ state.connector.handle kind := by
      rintro rfl
      exact unused outstanding
    rw [acquired]
    refine .inr ⟨kind, _, nonnull,
      (outstanding_snoc_acquired_of_ne ?_).mpr outstanding, ?_⟩
    · intro same
      exact different (Prod.mk.inj same).2
    · simpa using different.symm

/-! ## `Connet` -/

/-- Calls of `SQLAllocHandle`, one after the other. -/
def allocateAll
    (state : State) (allocations : List (HandleKind × AllocResult)) : State :=
  allocations.foldl
    (fun state allocation => sqlAllocHandle state allocation.1 allocation.2)
    state

/-- All five calls succeed. -/
def ConnetResults.completes (results : ConnetResults) : Bool :=
  sqlRetCheck results.allocEnv.ret && sqlRetCheck results.setEnvAttr &&
    sqlRetCheck results.allocDbc.ret && sqlRetCheck results.connect &&
    sqlRetCheck results.allocStmt.ret

/-- `Connet` makes its allocations, and is connected if it completes. -/
theorem connet_eq (state : State) (results : ConnetResults) :
    (connet state results).2 =
      let allocated := allocateAll state results.allocations
      if results.completes then
        { allocated with
          connector := { allocated.connector with bConnect := true } }
      else
        allocated := by
  cases env : sqlRetCheck results.allocEnv.ret with
  | false =>
      simp [connet, ConnetResults.allocations, ConnetResults.completes,
        allocateAll, env]
  | true =>
      cases versioned : sqlRetCheck results.setEnvAttr with
      | false =>
          simp [connet, ConnetResults.allocations, ConnetResults.completes,
            allocateAll, env, versioned]
      | true =>
          cases dbc : sqlRetCheck results.allocDbc.ret with
          | false =>
              simp [connet, ConnetResults.allocations,
                ConnetResults.completes, allocateAll, env, versioned, dbc]
          | true =>
              cases connected : sqlRetCheck results.connect <;>
                cases stmt : sqlRetCheck results.allocStmt.ret <;>
                simp [connet, ConnetResults.allocations,
                  ConnetResults.completes, allocateAll, env, versioned, dbc,
                  connected, stmt]

theorem nodup_allocations (results : ConnetResults) :
    (results.allocations.map Prod.fst).Nodup := by
  rw [ConnetResults.allocations]
  split
  · split <;> simp
  · simp

/-- The later calls meet the state that the first one met. -/
theorem forall_tail_iff
    {holds : State → HandleKind × AllocResult → Prop} {state : State}
    {allocation : HandleKind × AllocResult}
    {allocations : List (HandleKind × AllocResult)}
    (distinct : ((allocation :: allocations).map Prod.fst).Nodup)
    (frame :
      ∀ {other : HandleKind × AllocResult}, other.1 ≠ allocation.1 →
        (holds (sqlAllocHandle state allocation.1 allocation.2) other ↔
          holds state other)) :
    (∀ other ∈ allocations,
        holds (sqlAllocHandle state allocation.1 allocation.2) other) ↔
      ∀ other ∈ allocations, holds state other := by
  rw [List.map_cons, List.nodup_cons] at distinct
  refine forall₂_congr fun other member => frame ?_
  intro same
  exact distinct.1 (same ▸ List.mem_map_of_mem member)

/-- Allocations of handles of different kinds that a driver may make. -/
structure Feasible
    (state : State) (allocations : List (HandleKind × AllocResult)) :
    Prop where
  distinct : (allocations.map Prod.fst).Nodup
  permitted :
    ∀ allocation ∈ allocations,
      Permitted state.ledger allocation.1 allocation.2

theorem Feasible.head
    {state : State} {allocation : HandleKind × AllocResult}
    {allocations : List (HandleKind × AllocResult)}
    (feasible : Feasible state (allocation :: allocations)) :
    Permitted state.ledger allocation.1 allocation.2 :=
  feasible.permitted allocation List.mem_cons_self

theorem Feasible.tail
    {state : State} {allocation : HandleKind × AllocResult}
    {allocations : List (HandleKind × AllocResult)}
    (feasible : Feasible state (allocation :: allocations)) :
    Feasible (sqlAllocHandle state allocation.1 allocation.2)
      allocations where
  distinct := (List.nodup_cons.mp feasible.distinct).2
  permitted := by
    refine
      (@forall_tail_iff
        (fun state other => Permitted state.ledger other.1 other.2)
        state allocation allocations feasible.distinct
        (permitted_sqlAllocHandle_of_ne state _ _)).mpr ?_
    intro other member
    exact feasible.permitted other (List.mem_cons_of_mem _ member)

theorem Feasible.tidy_tail_iff
    {state : State} {allocation : HandleKind × AllocResult}
    {allocations : List (HandleKind × AllocResult)}
    (feasible : Feasible state (allocation :: allocations)) :
    (∀ other ∈ allocations,
        Tidy (sqlAllocHandle state allocation.1 allocation.2) other) ↔
      ∀ other ∈ allocations, Tidy state other :=
  forall_tail_iff feasible.distinct (tidy_sqlAllocHandle_of_ne state _ _)

theorem Doomed.afterAllocs
    {state : State} {allocations : List (HandleKind × AllocResult)}
    (doomed : Doomed state) (feasible : Feasible state allocations) :
    Doomed (allocateAll state allocations) := by
  induction allocations generalizing state with
  | nil => exact doomed
  | cons allocation allocations inductionHypothesis =>
      exact inductionHypothesis (doomed.afterAlloc feasible.head)
        feasible.tail

/-- The allocations of a `Connet` that loses no handle. -/
theorem Orderly.afterAllocs
    {state : State} {allocations : List (HandleKind × AllocResult)}
    (orderly : Orderly state) (feasible : Feasible state allocations)
    (tidy : ∀ allocation ∈ allocations, Tidy state allocation) :
    Orderly (allocateAll state allocations) := by
  induction allocations generalizing state with
  | nil => exact orderly
  | cons allocation allocations inductionHypothesis =>
      rw [List.forall_mem_cons] at tidy
      exact inductionHypothesis (orderly.afterAlloc feasible.head tidy.1)
        feasible.tail (feasible.tidy_tail_iff.mpr tidy.2)

/-- The allocations of a `Connet` that loses a handle. -/
theorem Orderly.doomed_afterAllocs
    {state : State} {allocations : List (HandleKind × AllocResult)}
    (orderly : Orderly state) (feasible : Feasible state allocations)
    (untidy : ¬ ∀ allocation ∈ allocations, Tidy state allocation) :
    Doomed (allocateAll state allocations) := by
  induction allocations generalizing state with
  | nil => exact absurd (by simp) untidy
  | cons allocation allocations inductionHypothesis =>
      by_cases tidy : Tidy state allocation
      · refine inductionHypothesis (orderly.afterAlloc feasible.head tidy)
          feasible.tail ?_
        rw [feasible.tidy_tail_iff]
        intro others
        exact untidy (List.forall_mem_cons.mpr ⟨tidy, others⟩)
      · exact (orderly.toKept.doomed_afterAlloc feasible.head tidy).afterAllocs
          feasible.tail

/-- What is allocated, or was allocated and is not touched, is still to be
freed afterwards. -/
theorem Orderly.outstanding_afterAllocs
    {state : State} {allocations : List (HandleKind × AllocResult)}
    (orderly : Orderly state) (feasible : Feasible state allocations)
    (tidy : ∀ allocation ∈ allocations, Tidy state allocation)
    {kind : HandleKind}
    (held :
      (kind ∉ allocations.map Prod.fst ∧
        Outstanding state.ledger (kind, state.connector.handle kind)) ∨
      ∃ result, (kind, result) ∈ allocations ∧
        sqlRetCheck result.ret = true) :
    Outstanding (allocateAll state allocations).ledger
      (kind, (allocateAll state allocations).connector.handle kind) := by
  induction allocations generalizing state with
  | nil =>
      rcases held with ⟨-, outstanding⟩ | ⟨result, member, -⟩
      · exact outstanding
      · cases member
  | cons allocation allocations inductionHypothesis =>
      rw [List.forall_mem_cons] at tidy
      refine inductionHypothesis (orderly.afterAlloc feasible.head tidy.1)
        feasible.tail (feasible.tidy_tail_iff.mpr tidy.2) ?_
      rcases held with ⟨absent, outstanding⟩ | ⟨result, member, succeeded⟩
      · rw [List.map_cons, List.mem_cons, not_or] at absent
        refine .inl ⟨absent.2, ?_⟩
        rwa [handle_sqlAllocHandle_of_ne state _ absent.1,
          outstanding_sqlAllocHandle_of_ne state _ absent.1]
      · rcases List.mem_cons.mp member with rfl | later
        · exact .inl ⟨(List.nodup_cons.mp feasible.distinct).1,
            orderly.outstanding_afterAlloc feasible.head succeeded⟩
        · exact .inr ⟨result, later, succeeded⟩

theorem feasible_of_allowed
    {state : State} {results : ConnetResults}
    (allowed : Allowed state (.connet results)) :
    Feasible state results.allocations where
  distinct := nodup_allocations results
  permitted := allowed

/-- A `Connet` that completes allocates a handle of each kind. -/
theorem exists_mem_allocations
    {results : ConnetResults} (completes : results.completes = true)
    (kind : HandleKind) :
    ∃ result, (kind, result) ∈ results.allocations ∧
      sqlRetCheck result.ret = true := by
  simp only [ConnetResults.completes, Bool.and_eq_true] at completes
  obtain ⟨⟨⟨⟨env, versioned⟩, dbc⟩, connected⟩, stmt⟩ := completes
  have whole :
      results.allocations =
        [(.env, results.allocEnv), (.dbc, results.allocDbc),
          (.stmt, results.allocStmt)] := by
    simp [ConnetResults.allocations, env, versioned, dbc, connected]
  rw [whole]
  cases kind with
  | env => exact ⟨results.allocEnv, by simp, env⟩
  | dbc => exact ⟨results.allocDbc, by simp, dbc⟩
  | stmt => exact ⟨results.allocStmt, by simp, stmt⟩

theorem Orderly.afterConnet
    {state : State} {results : ConnetResults} (orderly : Orderly state)
    (allowed : Allowed state (.connet results))
    (careful : Careful state (.connet results)) :
    Orderly (connet state results).2 := by
  have feasible := feasible_of_allowed allowed
  have allocated := orderly.afterAllocs feasible careful
  rw [connet_eq]
  simp only
  split
  case isTrue completes =>
    refine
      { guarded := allocated.guarded, single := allocated.single
        member := ?_, connected := ?_ }
    · intro kind value outstanding
      simpa using allocated.member outstanding
    · intro _ kind
      simpa using orderly.outstanding_afterAllocs feasible careful
        (.inr (exists_mem_allocations completes kind))
  case isFalse => exact allocated

theorem doomed_setConnect {state : State} (connected : Bool) :
    Doomed
        { state with
          connector := { state.connector with bConnect := connected } } ↔
      Doomed state := by
  simp [Doomed]

/-- `Connet` does nothing else to the handles than its allocations. -/
theorem doomed_connet_iff (state : State) (results : ConnetResults) :
    Doomed (connet state results).2 ↔
      Doomed (allocateAll state results.allocations) := by
  rw [connet_eq]
  simp only
  split
  · exact doomed_setConnect true
  · rfl

/-! ## `DisConnect` -/

@[simp]
theorem connector_freeUnlessNull
    (state : State) (kind : HandleKind) (ret : Int) :
    (freeUnlessNull state kind ret).connector = state.connector := by
  rw [freeUnlessNull]
  split <;> rfl

theorem outstanding_freeUnlessNull_of_ne
    (state : State) {kind other : HandleKind} (ret : Int)
    (different : other ≠ kind) (value : Nat) :
    Outstanding (freeUnlessNull state kind ret).ledger (other, value) ↔
      Outstanding state.ledger (other, value) := by
  rw [freeUnlessNull]
  split
  · refine outstanding_snoc_released_of_ne ?_
    intro same
    exact different (Prod.mk.inj same).1.symm
  · rfl

theorem freeable_freeUnlessNull_of_ne
    (state : State) {kind other : HandleKind} (ret : Int)
    (different : other ≠ kind) :
    Freeable (freeUnlessNull state kind ret) other ↔ Freeable state other := by
  rw [Freeable, connector_freeUnlessNull,
    outstanding_freeUnlessNull_of_ne state ret different, ← Freeable]

/-- Freeing never leaves more handles to be freed. -/
theorem outstanding_of_freeUnlessNull
    {state : State} {kind : HandleKind} {ret : Int} {handle : Handle}
    (outstanding : Outstanding (freeUnlessNull state kind ret).ledger handle) :
    Outstanding state.ledger handle := by
  rw [freeUnlessNull] at outstanding
  split at outstanding
  · exact Outstanding.of_snoc_released outstanding
  · exact outstanding

theorem Kept.afterFree
    {state : State} {kind : HandleKind}
    (kept : Kept state) (freeable : Freeable state kind) (ret : Int) :
    Kept (freeUnlessNull state kind ret) where
  guarded := by
    rw [freeUnlessNull]
    split
    case isTrue nonnull =>
      exact (guarded_snoc_released _ ret).mpr
        ⟨kept.guarded, freeable nonnull⟩
    case isFalse => exact kept.guarded
  single := by
    intro handle
    have before := kept.single handle
    rw [freeUnlessNull]
    split
    · simp only [sqlFreeHandle, acquireCount_append, acquireCount_released,
        releaseCount_append]
      omega
    · exact before
  member := by
    intro other value outstanding
    rw [connector_freeUnlessNull]
    exact kept.member (outstanding_of_freeUnlessNull outstanding)

/-- Nothing of the kind is left to be freed. -/
theorem Kept.not_outstanding_afterFree
    {state : State} (kept : Kept state) (kind : HandleKind) (ret : Int)
    (value : Nat) :
    ¬ Outstanding (freeUnlessNull state kind ret).ledger (kind, value) := by
  intro outstanding
  obtain ⟨rfl, nonnull⟩ :=
    kept.member (outstanding_of_freeUnlessNull outstanding)
  rw [freeUnlessNull, if_pos nonnull] at outstanding
  exact not_outstanding_snoc_released (kept.single _) ret outstanding

theorem Doomed.afterFree
    {state : State} (doomed : Doomed state) (kind : HandleKind) (ret : Int) :
    Doomed (freeUnlessNull state kind ret) := by
  rw [freeUnlessNull]
  split
  · rcases doomed with unguarded | ⟨lost, value, nonnull, outstanding, apart⟩
    · exact .inl fun guarded => unguarded guarded.of_append
    · refine .inr ⟨lost, value, nonnull,
        (outstanding_snoc_released_of_ne ?_).mpr outstanding, apart⟩
      intro same
      cases same
      exact apart rfl
  · exact doomed

/-- Freeing a stale or uninitialized member is an error at once. -/
theorem doomed_afterFree
    {state : State} {kind : HandleKind} (stale : ¬ Freeable state kind)
    (ret : Int) :
    Doomed (freeUnlessNull state kind ret) := by
  obtain ⟨nonnull, freed⟩ := Classical.not_imp.mp stale
  rw [freeUnlessNull, if_pos nonnull]
  exact .inl fun guarded =>
    freed ((guarded_snoc_released _ ret).mp guarded).2

/-- Calls of `SQLFreeHandle`, one after the other. -/
def freeAll
    (state : State) (results : HandleKind → Int) (kinds : List HandleKind) :
    State :=
  kinds.foldl (fun state kind => freeUnlessNull state kind (results kind)) state

theorem disConnect_eq (state : State) (results : HandleKind → Int) :
    disConnect state results =
      let freed := freeAll state results [.stmt, .dbc, .env]
      { freed with
        connector := { freed.connector with bConnect := false } } := by
  simp only [disConnect, freeAll, List.foldl_cons, List.foldl_nil]

theorem Doomed.afterFrees
    {state : State} (doomed : Doomed state) (results : HandleKind → Int)
    (kinds : List HandleKind) :
    Doomed (freeAll state results kinds) := by
  induction kinds generalizing state with
  | nil => exact doomed
  | cons kind kinds inductionHypothesis =>
      exact inductionHypothesis (doomed.afterFree kind (results kind))

theorem doomed_afterFrees
    {state : State} {kinds : List HandleKind} (distinct : kinds.Nodup)
    (stale : ∃ kind ∈ kinds, ¬ Freeable state kind)
    (results : HandleKind → Int) :
    Doomed (freeAll state results kinds) := by
  induction kinds generalizing state with
  | nil =>
      obtain ⟨kind, member, -⟩ := stale
      cases member
  | cons first kinds inductionHypothesis =>
      rw [List.nodup_cons] at distinct
      obtain ⟨kind, member, stale⟩ := stale
      rcases List.mem_cons.mp member with rfl | later
      · exact (doomed_afterFree stale (results kind)).afterFrees results kinds
      · have different : kind ≠ first := by
          rintro rfl
          exact distinct.1 later
        refine inductionHypothesis distinct.2 ⟨kind, later, ?_⟩
        rwa [freeable_freeUnlessNull_of_ne state _ different]

/-- Freeing the handles in the members frees all of them. -/
theorem Kept.afterFrees
    {state : State} {kinds : List HandleKind} (kept : Kept state)
    (distinct : kinds.Nodup) (freeable : ∀ kind ∈ kinds, Freeable state kind)
    (results : HandleKind → Int) :
    Kept (freeAll state results kinds) ∧
      ∀ kind value,
        Outstanding (freeAll state results kinds).ledger (kind, value) →
          kind ∉ kinds ∧ Outstanding state.ledger (kind, value) := by
  induction kinds generalizing state with
  | nil => exact ⟨kept, fun _ _ outstanding => ⟨by simp, outstanding⟩⟩
  | cons first kinds inductionHypothesis =>
      rw [List.nodup_cons] at distinct
      have others :
          ∀ kind ∈ kinds,
            Freeable (freeUnlessNull state first (results first)) kind := by
        intro kind member
        have different : kind ≠ first := by
          rintro rfl
          exact distinct.1 member
        rw [freeable_freeUnlessNull_of_ne state _ different]
        exact freeable kind (List.mem_cons_of_mem _ member)
      obtain ⟨after, remaining⟩ :=
        inductionHypothesis
          (kept.afterFree (freeable first List.mem_cons_self) (results first))
          distinct.2 others
      refine ⟨after, ?_⟩
      intro kind value outstanding
      obtain ⟨absent, before⟩ := remaining kind value outstanding
      refine ⟨?_, outstanding_of_freeUnlessNull before⟩
      rw [List.mem_cons, not_or]
      refine ⟨?_, absent⟩
      rintro rfl
      exact kept.not_outstanding_afterFree kind _ value before

/-- A `DisConnect` of handles that are all to be freed leaves none. -/
theorem Kept.afterDisConnect
    {state : State} (kept : Kept state)
    (freeable : ∀ kind, Freeable state kind) (results : HandleKind → Int) :
    Orderly (disConnect state results) ∧
      Balanced (disConnect state results).ledger := by
  obtain ⟨after, remaining⟩ :=
    kept.afterFrees (show [HandleKind.stmt, .dbc, .env].Nodup by simp)
      (fun kind _ => freeable kind) results
  have none_outstanding :
      ∀ handle,
        ¬ Outstanding (freeAll state results [.stmt, .dbc, .env]).ledger
          handle := by
    rintro ⟨kind, value⟩ outstanding
    have absent := (remaining kind value outstanding).1
    cases kind <;> simp at absent
  rw [disConnect_eq]
  refine ⟨?_, ⟨after.guarded, none_outstanding⟩⟩
  exact
    { guarded := after.guarded, single := after.single
      member := fun outstanding => absurd outstanding (none_outstanding _)
      connected := fun connected => by cases connected }

theorem doomed_afterDisConnect
    {state : State} {results : HandleKind → Int}
    (careless : ¬ Careful state (.disConnect results)) :
    Doomed (disConnect state results) := by
  obtain ⟨kind, stale⟩ := not_forall.mp careless
  rw [disConnect_eq]
  refine (doomed_setConnect false).mpr (doomed_afterFrees (by simp) ?_ results)
  refine ⟨kind, ?_, stale⟩
  cases kind <;> simp

theorem Doomed.afterDisConnect
    {state : State} (doomed : Doomed state) (results : HandleKind → Int) :
    Doomed (disConnect state results) := by
  rw [disConnect_eq]
  exact (doomed_setConnect false).mpr (doomed.afterFrees results _)

/-! ## Whole runs -/

theorem Orderly.afterCall
    {state : State} {event : Event} (orderly : Orderly state)
    (allowed : Allowed state event) (careful : Careful state event) :
    Orderly (apply state event) := by
  cases event with
  | connet results => exact orderly.afterConnet allowed careful
  | disConnect results =>
      exact (orderly.toKept.afterDisConnect careful results).1

theorem Orderly.doomed_afterCall
    {state : State} {event : Event} (orderly : Orderly state)
    (allowed : Allowed state event) (careless : ¬ Careful state event) :
    Doomed (apply state event) := by
  cases event with
  | connet results =>
      exact (doomed_connet_iff state results).mpr
        (orderly.doomed_afterAllocs (feasible_of_allowed allowed) careless)
  | disConnect results => exact doomed_afterDisConnect careless

theorem Doomed.afterCall
    {state : State} {event : Event} (doomed : Doomed state)
    (allowed : Allowed state event) :
    Doomed (apply state event) := by
  cases event with
  | connet results =>
      exact (doomed_connet_iff state results).mpr
        (doomed.afterAllocs (feasible_of_allowed allowed))
  | disConnect results => exact doomed.afterDisConnect results

/-- As long as the calls are careful everything is in order, and after the
first one that is not it never is again. -/
theorem orderly_or_doomed
    {start state : State} {events : List Event} (orderly : Orderly start)
    (run : RunWhere step Allowed start events state) :
    (EachStep step start events (fun _ => Careful) ∧ Orderly state) ∨
      (¬ EachStep step start events (fun _ => Careful) ∧ Doomed state) := by
  induction run with
  | start => exact .inl ⟨eachStep_nil _, orderly⟩
  | @snoc events before after event earlier allowed taken
      inductionHypothesis =>
      obtain rfl := Option.some.inj taken
      rw [eachStep_snoc_iff earlier.toRun]
      rcases inductionHypothesis with ⟨each, orderly⟩ | ⟨some, doomed⟩
      · by_cases careful : Careful before event
        · exact .inl ⟨⟨each, careful⟩, orderly.afterCall allowed careful⟩
        · exact .inr ⟨fun all => careful all.2,
            orderly.doomed_afterCall allowed careful⟩
      · exact .inr ⟨fun all => some all.1, doomed.afterCall allowed⟩

theorem Doomed.not_balanced
    {state : State} (doomed : Doomed state) : ¬ Balanced state.ledger := by
  intro balanced
  rcases doomed with unguarded | ⟨kind, value, -, outstanding, -⟩
  · exact unguarded balanced.guarded
  · exact balanced.none_outstanding _ outstanding

theorem Doomed.afterDestruct
    {state : State} (doomed : Doomed state) (results : HandleKind → Int) :
    Doomed (destruct state results) := by
  rw [destruct]
  split
  · exact doomed.afterDisConnect results
  · exact doomed

theorem Orderly.balanced_destruct_iff
    {state : State} (orderly : Orderly state) (results : HandleKind → Int) :
    Balanced (destruct state results).ledger ↔ Destructible state := by
  rw [destruct]
  split
  case isTrue connected =>
    have freeable : ∀ kind, Freeable state kind :=
      fun kind _ => orderly.connected connected kind
    refine iff_of_true
      (orderly.toKept.afterDisConnect freeable results).2 ?_
    intro disconnected
    rw [connected] at disconnected
    cases disconnected
  case isFalse disconnected =>
    constructor
    · intro balanced _ kind
      exact balanced.none_outstanding _
    · intro destructible
      refine ⟨orderly.guarded, ?_⟩
      rintro ⟨kind, value⟩ outstanding
      obtain ⟨rfl, -⟩ := orderly.member outstanding
      exact destructible (Bool.eq_false_iff.mpr disconnected) kind outstanding

/-- Every handle is freed once, and only while it is allocated, exactly if
every call is careful and the connector may be destroyed. -/
theorem balanced_iff_careful
    {hEnv hDbc hSTMT : Nat} {events : List Event} {state : State}
    (run :
      RunWhere step Allowed (construct hEnv hDbc hSTMT) events state)
    (results : HandleKind → Int) :
    Balanced (destruct state results).ledger ↔
      EachStep step (construct hEnv hDbc hSTMT) events (fun _ => Careful) ∧
        Destructible state := by
  rcases orderly_or_doomed (orderly_construct hEnv hDbc hSTMT) run with
    ⟨each, orderly⟩ | ⟨careless, doomed⟩
  · rw [orderly.balanced_destruct_iff, and_iff_right each]
  · have unbalanced := (doomed.afterDestruct results).not_balanced
    exact iff_of_false unbalanced fun all => careless all.1

/-- A connector that is connected once and destroyed frees its handles. -/
theorem balanced_of_one_connet :
    let results : ConnetResults :=
      { allocEnv := { ret := 0, output := some 1 }, setEnvAttr := 0
        allocDbc := { ret := 0, output := some 2 }, connect := 0
        allocStmt := { ret := 0, output := some 3 } }
    ∃ state,
      RunWhere step Allowed (construct 0 0 0) [.connet results] state ∧
        Balanced (destruct state fun _ => 0).ledger := by
  intro results
  have allowed : Allowed (construct 0 0 0) (.connet results) := by
    simp [Allowed, results, ConnetResults.allocations, sqlRetCheck,
      Permitted, construct, not_outstanding_nil]
  have run :
      RunWhere step Allowed (construct 0 0 0) ([] ++ [.connet results])
        (apply (construct 0 0 0) (.connet results)) :=
    .snoc .start allowed rfl
  refine ⟨_, run, (balanced_iff_careful run _).mpr ⟨?_, ?_⟩⟩
  · refine (eachStep_snoc_iff .start).mpr ⟨eachStep_nil _, ?_⟩
    intro allocation _ _
    exact not_outstanding_nil _
  · intro disconnected
    cases disconnected

/-- If `SQLConnect` fails and the connector is destroyed, two handles are
never freed. -/
theorem unbalanced_of_failed_connect :
    let results : ConnetResults :=
      { allocEnv := { ret := 0, output := some 1 }, setEnvAttr := 0
        allocDbc := { ret := 0, output := some 2 }, connect := -1
        allocStmt := { ret := 0, output := some 3 } }
    ∃ state,
      RunWhere step Allowed (construct 0 0 0) [.connet results] state ∧
        (destruct state fun _ => 0).ledger =
          [.acquired (.env, 1), .acquired (.dbc, 2)] ∧
        ¬ Balanced (destruct state fun _ => 0).ledger := by
  intro results
  have allowed : Allowed (construct 0 0 0) (.connet results) := by
    simp [Allowed, results, ConnetResults.allocations, sqlRetCheck,
      Permitted, construct, not_outstanding_nil]
  have run :
      RunWhere step Allowed (construct 0 0 0) ([] ++ [.connet results])
        (apply (construct 0 0 0) (.connet results)) :=
    .snoc .start allowed rfl
  have ledger :
      (destruct (apply (construct 0 0 0) (.connet results))
          fun _ => 0).ledger =
        [.acquired (.env, 1), .acquired (.dbc, 2)] :=
    rfl
  refine ⟨_, run, ledger, ?_⟩
  rw [ledger]
  intro balanced
  exact balanced.none_outstanding (.env, 1) Nat.one_pos

end LibSklt.Db.DbConnector
