import Mathlib.Tactic

/-!
# Lists of processes

The processes of a concurrent system are a list; a step replaces one of them
by its successor, or removes it.  Accounting arguments give each process a
weight and follow the sum of the weights: only the weight of the process that
takes the step changes.
-/

namespace LibSklt.Foundation.Processes

variable {Process : Type*}

/-- Replace the process at an index, or remove it. -/
def replaceAt (processes : List Process) (index : Nat)
    (next : Option Process) : List Process :=
  processes.take index ++ next.toList ++ processes.drop (index + 1)

/-- The sum of the weights of the processes. -/
def total (weight : Process → Nat) (processes : List Process) : Nat :=
  (processes.map weight).sum

variable {processes : List Process} {index : Nat} {process : Process}

@[simp]
theorem total_nil (weight : Process → Nat) : total weight [] = 0 :=
  rfl

theorem total_append
    (weight : Process → Nat) (first second : List Process) :
    total weight (first ++ second) =
      total weight first + total weight second := by
  rw [total, List.map_append, List.sum_append]
  rfl

theorem total_toList (weight : Process → Nat) (next : Option Process) :
    total weight next.toList = next.elim 0 weight := by
  cases next with
  | none => rfl
  | some process => exact Nat.add_zero _

/-- The list around the process at an index. -/
theorem eq_of_getElem?
    (found : processes[index]? = some process) :
    processes =
      processes.take index ++ [process] ++ processes.drop (index + 1) := by
  obtain ⟨inside, rfl⟩ := List.getElem?_eq_some_iff.mp found
  rw [List.append_assoc, List.singleton_append, List.getElem_cons_drop,
    List.take_append_drop]

/-- Only the weight of the replaced process changes. -/
theorem total_replaceAt
    (weight : Process → Nat) (found : processes[index]? = some process)
    (next : Option Process) :
    total weight (replaceAt processes index next) + weight process =
      total weight processes + next.elim 0 weight := by
  have parts := congrArg (total weight) (eq_of_getElem? found)
  rw [total_append, total_append] at parts
  have single : total weight [process] = weight process := Nat.add_zero _
  rw [replaceAt, total_append, total_append, total_toList]
  omega

/-- What the processes have together, when one of them is replaced. -/
theorem sum_replaceAt
    {Holding : Type*} [AddCommMonoid Holding] (holds : Process → Holding)
    (found : processes[index]? = some process) (next : Option Process) :
    ((replaceAt processes index next).map holds).sum + holds process =
      (processes.map holds).sum + next.elim 0 holds := by
  have parts :=
    congrArg (fun processes => (processes.map holds).sum)
      (eq_of_getElem? found)
  have single : (next.toList.map holds).sum = next.elim 0 holds := by
    cases next <;> simp
  simp only [List.map_append, List.sum_append, List.map_singleton,
    List.sum_singleton] at parts
  rw [replaceAt, List.map_append, List.map_append, List.sum_append,
    List.sum_append, single, parts]
  abel

/-- A weight that is zero where the other is, is zero where the sum is. -/
theorem total_eq_zero
    {lighter heavier : Process → Nat}
    (supported : ∀ process, heavier process = 0 → lighter process = 0)
    {processes : List Process} (nothing : total heavier processes = 0) :
    total lighter processes = 0 := by
  rw [total, List.sum_eq_zero_iff] at nothing ⊢
  intro value member
  obtain ⟨process, among, rfl⟩ := List.mem_map.mp member
  exact supported process
    (nothing _ (List.mem_map_of_mem among))

end LibSklt.Foundation.Processes
