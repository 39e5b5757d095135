import Mathlib.Data.List.Induction

/-!
# Ledgers of acquired and released resources

A ledger records, in order, which resources were acquired and which were
released, and in what manner.  Two questions are asked about a ledger: is a
resource released more than once, and is every acquired resource released?
Both are answered by counting releases, so the lemmas here say how the count
changes when entries are appended.

A resource that can be acquired again after its release is counted on both
sides.  It is outstanding while it was acquired more often than released, and
a ledger is balanced if only outstanding resources are released and none is
outstanding in the end.
-/

namespace LibSklt.Foundation.Ledger

variable {Resource Manner : Type}

/-- One entry of a ledger. -/
inductive Entry (Resource Manner : Type) where
  | acquired (resource : Resource)
  | released (resource : Resource) (manner : Manner)
deriving DecidableEq

/-- Whether the entry is a release of the given resource. -/
def Entry.releases [DecidableEq Resource]
    (resource : Resource) : Entry Resource Manner → Bool
  | .acquired _ => false
  | .released other _ => other == resource

/-- How often a resource is released in the ledger. -/
def releaseCount [DecidableEq Resource]
    (ledger : List (Entry Resource Manner)) (resource : Resource) : Nat :=
  ledger.countP (Entry.releases resource)

/-- No resource is released more than once. -/
def ReleasedAtMostOnce [DecidableEq Resource]
    (ledger : List (Entry Resource Manner)) : Prop :=
  ∀ resource, releaseCount ledger resource ≤ 1

/-- Every acquired resource has been released. -/
def Settled [DecidableEq Resource]
    (ledger : List (Entry Resource Manner)) : Prop :=
  ∀ resource, Entry.acquired resource ∈ ledger →
    0 < releaseCount ledger resource

/-- Whether the entry is an acquisition of the given resource. -/
def Entry.acquires [DecidableEq Resource]
    (resource : Resource) : Entry Resource Manner → Bool
  | .acquired other => other == resource
  | .released _ _ => false

/-- How often a resource is acquired in the ledger. -/
def acquireCount [DecidableEq Resource]
    (ledger : List (Entry Resource Manner)) (resource : Resource) : Nat :=
  ledger.countP (Entry.acquires resource)

/-- The resource has been acquired, and not been released since. -/
def Outstanding [DecidableEq Resource]
    (ledger : List (Entry Resource Manner)) (resource : Resource) : Prop :=
  releaseCount ledger resource < acquireCount ledger resource

/-- Only outstanding resources are released. -/
def Guarded [DecidableEq Resource]
    (ledger : List (Entry Resource Manner)) : Prop :=
  ∀ earlier resource manner later,
    ledger = earlier ++ Entry.released resource manner :: later →
      Outstanding earlier resource

/-- Each acquisition has been followed by one release, and there is no other
release. -/
structure Balanced [DecidableEq Resource]
    (ledger : List (Entry Resource Manner)) : Prop where
  guarded : Guarded ledger
  none_outstanding : ∀ resource, ¬ Outstanding ledger resource

section

variable [DecidableEq Resource]

@[simp]
theorem releaseCount_nil (resource : Resource) :
    releaseCount ([] : List (Entry Resource Manner)) resource = 0 :=
  rfl

@[simp]
theorem releaseCount_append
    (first second : List (Entry Resource Manner))
    (resource : Resource) :
    releaseCount (first ++ second) resource =
      releaseCount first resource + releaseCount second resource :=
  List.countP_append

@[simp]
theorem releaseCount_acquired (acquired resource : Resource) :
    releaseCount [(Entry.acquired acquired : Entry Resource Manner)]
      resource = 0 :=
  rfl

@[simp]
theorem releaseCount_released
    (released resource : Resource) (manner : Manner) :
    releaseCount [Entry.released released manner] resource =
      if released = resource then 1 else 0 := by
  simp [releaseCount, Entry.releases, List.countP_singleton]

theorem releaseCount_pos_iff
    {ledger : List (Entry Resource Manner)} {resource : Resource} :
    0 < releaseCount ledger resource ↔
      ∃ manner, Entry.released resource manner ∈ ledger := by
  rw [releaseCount, List.countP_pos_iff]
  constructor
  · rintro ⟨entry, member, matching⟩
    cases entry with
    | acquired other => simp [Entry.releases] at matching
    | released other manner =>
        simp only [Entry.releases, beq_iff_eq] at matching
        subst other
        exact ⟨manner, member⟩
  · rintro ⟨manner, member⟩
    exact ⟨_, member, by simp [Entry.releases]⟩

/-! ## Outstanding resources -/

theorem not_outstanding_nil (resource : Resource) :
    ¬ Outstanding ([] : List (Entry Resource Manner)) resource :=
  Nat.lt_irrefl 0

@[simp]
theorem acquireCount_append
    (first second : List (Entry Resource Manner))
    (resource : Resource) :
    acquireCount (first ++ second) resource =
      acquireCount first resource + acquireCount second resource :=
  List.countP_append

@[simp]
theorem acquireCount_acquired (acquired resource : Resource) :
    acquireCount [(Entry.acquired acquired : Entry Resource Manner)]
      resource = if acquired = resource then 1 else 0 := by
  simp [acquireCount, Entry.acquires, List.countP_singleton]

@[simp]
theorem acquireCount_released
    (released resource : Resource) (manner : Manner) :
    acquireCount [Entry.released released manner] resource = 0 :=
  rfl

/-- The entries about other resources do not matter. -/
theorem outstanding_snoc_acquired_of_ne
    {ledger : List (Entry Resource Manner)} {acquired resource : Resource}
    (other : acquired ≠ resource) :
    Outstanding (ledger ++ [.acquired acquired]) resource ↔
      Outstanding ledger resource := by
  simp [Outstanding, other]

/-- A resource that is not outstanding may be acquired, and no resource is
then outstanding twice. -/
theorem acquireCount_snoc_acquired_le
    {ledger : List (Entry Resource Manner)} {acquired resource : Resource}
    (single : acquireCount ledger resource ≤ releaseCount ledger resource + 1)
    (unused : ¬ Outstanding ledger acquired) :
    acquireCount (ledger ++ [.acquired acquired]) resource ≤
      releaseCount (ledger ++ [.acquired acquired]) resource + 1 := by
  simp only [acquireCount_append, acquireCount_acquired,
    releaseCount_append, releaseCount_acquired]
  split
  case isTrue same =>
    subst resource
    rw [Outstanding] at unused
    omega
  case isFalse => omega

/-- A resource that was acquired once more than released is no longer
outstanding after one more release. -/
theorem not_outstanding_snoc_released
    {ledger : List (Entry Resource Manner)} {resource : Resource}
    (single : acquireCount ledger resource ≤ releaseCount ledger resource + 1)
    (manner : Manner) :
    ¬ Outstanding (ledger ++ [.released resource manner]) resource := by
  simp only [Outstanding, releaseCount_append, releaseCount_released,
    acquireCount_append, acquireCount_released, if_true]
  omega

/-- A release leaves no further resource outstanding. -/
theorem Outstanding.of_snoc_released
    {ledger : List (Entry Resource Manner)} {released resource : Resource}
    {manner : Manner}
    (outstanding :
      Outstanding (ledger ++ [.released released manner]) resource) :
    Outstanding ledger resource := by
  simp only [Outstanding, releaseCount_append, acquireCount_append,
    acquireCount_released] at outstanding ⊢
  omega

theorem outstanding_snoc_released_of_ne
    {ledger : List (Entry Resource Manner)} {released resource : Resource}
    {manner : Manner} (other : released ≠ resource) :
    Outstanding (ledger ++ [.released released manner]) resource ↔
      Outstanding ledger resource := by
  simp [Outstanding, other]

/-! ## Guarded releases -/

theorem guarded_nil : Guarded ([] : List (Entry Resource Manner)) := by
  intro earlier resource manner later split
  simp at split

theorem Guarded.of_append
    {first second : List (Entry Resource Manner)}
    (guarded : Guarded (first ++ second)) : Guarded first := by
  intro earlier resource manner later split
  refine guarded earlier resource manner (later ++ second) ?_
  rw [split, List.append_assoc, List.cons_append]

/-- One more entry is harmless unless it releases what is not outstanding. -/
theorem guarded_snoc
    {ledger : List (Entry Resource Manner)}
    (entry : Entry Resource Manner) :
    Guarded (ledger ++ [entry]) ↔
      Guarded ledger ∧
        ∀ resource manner, entry = .released resource manner →
          Outstanding ledger resource := by
  constructor
  · intro guarded
    refine ⟨guarded.of_append, ?_⟩
    rintro resource manner rfl
    exact guarded ledger resource manner [] rfl
  · rintro ⟨guarded, last⟩ earlier resource manner later split
    rcases List.eq_nil_or_concat later with rfl | ⟨later, final, rfl⟩
    · obtain ⟨rfl, same⟩ := List.append_inj' split rfl
      exact last resource manner (List.singleton_inj.mp same)
    · rw [List.concat_eq_append, ← List.cons_append,
        ← List.append_assoc] at split
      obtain ⟨front, -⟩ := List.append_inj' split rfl
      exact guarded earlier resource manner later front

theorem guarded_snoc_acquired
    {ledger : List (Entry Resource Manner)} (acquired : Resource) :
    Guarded (ledger ++ [.acquired acquired]) ↔ Guarded ledger := by
  simp [guarded_snoc]

theorem guarded_snoc_released
    {ledger : List (Entry Resource Manner)} (released : Resource)
    (manner : Manner) :
    Guarded (ledger ++ [.released released manner]) ↔
      Guarded ledger ∧ Outstanding ledger released := by
  simp [guarded_snoc]

/-- A resource is not released more often than it is acquired. -/
theorem Guarded.releaseCount_le
    {ledger : List (Entry Resource Manner)} (guarded : Guarded ledger)
    (resource : Resource) :
    releaseCount ledger resource ≤ acquireCount ledger resource := by
  induction ledger using List.reverseRecOn with
  | nil => exact Nat.le_refl 0
  | append_singleton ledger entry inductionHypothesis =>
      have before := inductionHypothesis guarded.of_append
      cases entry with
      | acquired other =>
          simp only [releaseCount_append, releaseCount_acquired,
            acquireCount_append]
          omega
      | released other manner =>
          obtain ⟨-, outstanding⟩ :=
            (guarded_snoc_released other manner).mp guarded
          simp only [releaseCount_append, releaseCount_released,
            acquireCount_append, acquireCount_released]
          split
          case isTrue same =>
            subst other
            exact outstanding
          case isFalse => omega

theorem Guarded.outstanding_snoc_acquired
    {ledger : List (Entry Resource Manner)} (guarded : Guarded ledger)
    (resource : Resource) :
    Outstanding (ledger ++ [.acquired resource]) resource := by
  have before := guarded.releaseCount_le resource
  simp only [Outstanding, releaseCount_append, releaseCount_acquired,
    acquireCount_append, acquireCount_acquired, if_true]
  omega

end

end LibSklt.Foundation.Ledger
