import Mathlib.Data.List.Basic

/-!
# Messages on one stream

Several messages are written to one stream, each in pieces.  The stream is
whole if no message begins before the one before it has ended.  This is so
when the messages take turns: a message is begun only after everything
before it was written, so at most one message is unfinished at any time.
-/

namespace LibSklt.Foundation.Streams

universe u

variable {Symbol : Type u}

/--
The stream consists of whole messages, in some order, and perhaps a first
part of one more.
-/
def Whole (messages : List (List Symbol)) (stream : List Symbol) : Prop :=
  ∃ (finished others : List (List Symbol)) (last : List Symbol),
    (finished ++ others).Perm messages ∧
      stream = finished.flatten ++ last ∧
      (last = [] ∨ ∃ message ∈ others, last <+: message)

theorem whole_of_isPrefix
    {messages : List (List Symbol)} {stream : List Symbol}
    (written : stream <+: messages.flatten) :
    Whole messages stream := by
  induction messages generalizing stream with
  | nil =>
      obtain rfl := List.prefix_nil.mp written
      exact ⟨[], [], [], .refl _, rfl, Or.inl rfl⟩
  | cons message rest inductionHypothesis =>
      rw [List.flatten_cons] at written
      rcases List.prefix_or_prefix_of_prefix written
          (List.prefix_append message rest.flatten) with
        within | ⟨more, rfl⟩
      · exact ⟨[], message :: rest, stream, .refl _, rfl,
          Or.inr ⟨message, List.mem_cons_self, within⟩⟩
      · have further := (List.prefix_append_right_inj message).mp written
        obtain ⟨finished, others, last, all, split, part⟩ :=
          inductionHypothesis further
        refine ⟨message :: finished, others, last, all.cons message, ?_, part⟩
        rw [split, List.flatten_cons, List.append_assoc]

/--
What is missing from the stream is what is left of one message, and no other
message is unfinished.
-/
def InTurn (messages : List (List Symbol)) (stream : List Symbol)
    (unfinished : List (List Symbol)) : Prop :=
  ∃ rest,
    messages.flatten = stream ++ rest ∧ unfinished.Sublist [rest]

variable
    {messages unfinished : List (List Symbol)}
    {stream : List Symbol}

theorem inTurn_nil :
    InTurn ([] : List (List Symbol)) [] [] :=
  ⟨[], rfl, List.nil_sublist _⟩

theorem InTurn.isPrefix (turn : InTurn messages stream unfinished) :
    stream <+: messages.flatten := by
  obtain ⟨rest, all, -⟩ := turn
  exact ⟨rest, all.symm⟩

/-- Empty messages do not count. -/
theorem InTurn.congr
    {others : List (List Symbol)}
    (turn : InTurn messages stream unfinished)
    (same : others.flatten = messages.flatten) :
    InTurn others stream unfinished := by
  obtain ⟨rest, all, single⟩ := turn
  exact ⟨rest, same.trans all, single⟩

/-- Nothing is unfinished when everything was written. -/
theorem InTurn.eq_nil
    (turn : InTurn messages stream unfinished)
    (nonempty : ∀ part ∈ unfinished, part ≠ [])
    (settled : stream.length = messages.flatten.length) :
    unfinished = [] := by
  obtain ⟨rest, all, single⟩ := turn
  have done : rest = [] := by
    rw [all, List.length_append] at settled
    exact List.eq_nil_of_length_eq_zero (by omega)
  apply List.eq_nil_iff_forall_not_mem.mpr
  intro part member
  rw [done] at single
  exact nonempty part member
    (List.mem_singleton.mp (single.subset member))

/-- Messages that are finished or given up do not disturb the others. -/
theorem InTurn.sublist
    {fewer : List (List Symbol)}
    (turn : InTurn messages stream unfinished)
    (remaining : fewer.Sublist unfinished) :
    InTurn messages stream fewer := by
  obtain ⟨rest, all, single⟩ := turn
  exact ⟨rest, all, remaining.trans single⟩

/-- A message may begin when everything before it was written. -/
theorem InTurn.begin
    (turn : InTurn messages stream unfinished)
    (nonempty : ∀ part ∈ unfinished, part ≠ [])
    (settled : stream.length = messages.flatten.length)
    (message : List Symbol) :
    InTurn (messages ++ [message]) stream (unfinished ++ [message]) := by
  obtain ⟨rest, all, single⟩ := turn
  have done : rest = [] := by
    rw [all, List.length_append] at settled
    exact List.eq_nil_of_length_eq_zero (by omega)
  subst rest
  have idle : unfinished = [] := by
    apply List.eq_nil_iff_forall_not_mem.mpr
    intro part member
    exact nonempty part member
      (List.mem_singleton.mp (single.subset member))
  refine ⟨message, ?_, by simp [idle]⟩
  simp [all]

/-- A piece of an unfinished message is written. -/
theorem InTurn.transfer
    {front back after : List (List Symbol)} {piece more : List Symbol}
    (turn : InTurn messages stream (front ++ (piece ++ more) :: back))
    (remaining : after.Sublist (front ++ more :: back)) :
    InTurn messages (stream ++ piece) after := by
  obtain ⟨rest, all, single⟩ := turn
  have only : front = [] ∧ back = [] ∧ piece ++ more = rest := by
    have short := single.length_le
    simp only [List.length_append, List.length_cons, List.length_nil]
      at short
    have frontEmpty := List.eq_nil_of_length_eq_zero
      (show front.length = 0 by omega)
    have backEmpty := List.eq_nil_of_length_eq_zero
      (show back.length = 0 by omega)
    subst frontEmpty backEmpty
    exact ⟨rfl, rfl, List.mem_singleton.mp (single.subset (by simp))⟩
  obtain ⟨rfl, rfl, rfl⟩ := only
  exact ⟨more, by rw [all, List.append_assoc], remaining⟩

end LibSklt.Foundation.Streams
