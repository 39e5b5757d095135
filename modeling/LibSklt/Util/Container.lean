import Mathlib.Data.List.AList

/-!
# The map behind the dispatch tables (`util/container.h`)

`MapContainer` wraps an unordered map.  `Insert` looks the key up first and
leaves an existing entry alone, so of several values for one key the first
one stays.  The entries are an association list with distinct keys; nothing
below depends on their order, which the map does not specify.
-/

namespace LibSklt.Util

variable {Key Value : Type} [DecidableEq Key]

/-- The member of `MapContainer`. -/
structure MapContainer (Key Value : Type) where
  cacheContainer : AList fun _ : Key => Value

namespace MapContainer

/-- The constructor. -/
def make : MapContainer Key Value :=
  ⟨∅⟩

/-- `MapContainer::Find`; `none` is the null pointer. -/
def find (self : MapContainer Key Value) (key : Key) : Option Value :=
  self.cacheContainer.lookup key

/-- `MapContainer::Insert`. -/
def insert (self : MapContainer Key Value) (key : Key) (value : Value) :
    MapContainer Key Value × Bool :=
  match self.find key with
  | none => (⟨self.cacheContainer.insert key value⟩, true)
  | some _ => (self, false)

/-- `MapContainer::Getvalue`. -/
def getvalue (self : MapContainer Key Value) (key : Key) : Option Value :=
  match self.find key with
  | some value => some value
  | none => none

/-- `MapContainer::GetContainer`. -/
def getContainer (self : MapContainer Key Value) :
    AList fun _ : Key => Value :=
  self.cacheContainer

theorem getvalue_eq_lookup (self : MapContainer Key Value) (key : Key) :
    self.getvalue key = self.cacheContainer.lookup key := by
  rw [getvalue, find]
  cases self.cacheContainer.lookup key <;> rfl

@[simp]
theorem getvalue_make (key : Key) :
    (make : MapContainer Key Value).getvalue key = none := by
  rw [getvalue_eq_lookup, make, AList.lookup_empty]

/-- An entry that exists stays, and no other key is touched. -/
theorem getvalue_insert
    (self : MapContainer Key Value) (inserted key : Key) (value : Value) :
    (self.insert inserted value).1.getvalue key =
      (self.getvalue key).or
        (if key = inserted then some value else none) := by
  rw [insert, find]
  cases present : self.cacheContainer.lookup inserted with
  | some old =>
      by_cases same : key = inserted
      · subst key
        simp [getvalue_eq_lookup, present]
      · simp [same]
  | none =>
      rw [getvalue_eq_lookup, getvalue_eq_lookup]
      by_cases same : key = inserted
      · subst key
        simp [present]
      · simp [AList.lookup_insert_ne same, same]

/-- Calls of `Insert`, one after the other. -/
def insertAll (self : MapContainer Key Value)
    (entries : List (Key × Value)) : MapContainer Key Value :=
  entries.foldl (fun self entry => (self.insert entry.1 entry.2).1) self

/-- Of several values for one key the first one stays. -/
theorem getvalue_insertAll
    (self : MapContainer Key Value) (entries : List (Key × Value))
    (key : Key) :
    (self.insertAll entries).getvalue key =
      (self.getvalue key).or (entries.lookup key) := by
  induction entries generalizing self with
  | nil => simp [insertAll]
  | cons entry rest inductionHypothesis =>
      obtain ⟨inserted, value⟩ := entry
      have first := inductionHypothesis (self.insert inserted value).1
      rw [insertAll, List.foldl_cons, ← insertAll, first, getvalue_insert,
        Option.or_assoc, List.lookup_cons]
      by_cases same : key = inserted
      · simp [same]
      · rw [if_neg same, Option.none_or, beq_eq_false_iff_ne.mpr same]

theorem mem_getContainer_iff
    (self : MapContainer Key Value) (key : Key) :
    key ∈ self.getContainer.keys ↔ (self.getvalue key).isSome := by
  rw [getvalue_eq_lookup, AList.lookup_isSome, AList.mem_keys]
  rfl

end MapContainer

end LibSklt.Util
