import Mathlib.Data.List.Basic
import Mathlib.Tactic

/-!
# Lists with separators

What `List.intercalate` puts together, and what a partial function makes of
the items of a list.
-/

namespace LibSklt.Foundation.Separated

variable {α β γ : Type}

/-- An item that is not in the pieces and is not the separator. -/
theorem not_mem_intercalate {stop separator : α} (ne : stop ≠ separator)
    {pieces : List (List α)} (absent : ∀ piece ∈ pieces, stop ∉ piece) :
    stop ∉ [separator].intercalate pieces := by
  induction pieces with
  | nil => exact List.not_mem_nil
  | cons piece pieces inductionHypothesis =>
      rw [List.forall_mem_cons] at absent
      by_cases last : pieces = []
      · rw [last, List.intercalate_singleton]
        exact absent.1
      · rw [List.intercalate_cons_of_ne_nil last]
        simp only [List.mem_append, List.mem_singleton, not_or]
        exact ⟨⟨absent.1, ne⟩, inductionHypothesis absent.2⟩

/-- The pieces, and a separator between any two of them. -/
theorem length_intercalate (separator : List α)
    (pieces : List (List α)) :
    (separator.intercalate pieces).length =
      (pieces.map List.length).sum +
        separator.length * (pieces.length - 1) := by
  induction pieces with
  | nil => rfl
  | cons piece pieces inductionHypothesis =>
      cases pieces with
      | nil => simp
      | cons next pieces =>
          rw [List.intercalate_cons_cons, List.length_append,
            List.length_append, inductionHypothesis]
          simp only [List.map_cons, List.sum_cons, List.length_cons,
            Nat.add_sub_cancel]
          ring

theorem mapM_spelled {read : γ → Option β} {spelled : α → γ}
    (value : α → β) {items : List α}
    (each : ∀ item ∈ items, read (spelled item) = some (value item)) :
    (items.map spelled).mapM read = some (items.map value) := by
  induction items with
  | nil => rfl
  | cons item items inductionHypothesis =>
      rw [List.forall_mem_cons] at each
      rw [List.map_cons, List.mapM_cons, each.1,
        inductionHypothesis each.2]
      rfl

theorem mapM_eq_none_iff {read : α → Option β}
    {items : List α} :
    items.mapM read = none ↔ ∃ item ∈ items, read item = none := by
  induction items with
  | nil => simp
  | cons item items inductionHypothesis =>
      rw [List.mapM_cons, List.exists_mem_cons_iff, ← inductionHypothesis]
      cases read item with
      | none => simp
      | some text => cases items.mapM read <;> simp

end LibSklt.Foundation.Separated
