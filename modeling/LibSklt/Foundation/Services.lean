import LibSklt.Foundation.Simulation
import Mathlib.Data.List.Perm.Basic

/-!
# A service that answers requests

Requests arrive one after the other and are answered in any order; a request
may be answered while earlier ones are still pending.  In every run each
request is pending or was answered, once.

Requests belong to channels.  If no request overtakes an earlier one of its
channel, the channel's requests are answered in the order of their arrival.
This is so when a channel has at most one pending request at a time.
-/

namespace LibSklt.Foundation.Services

open LibSklt.Foundation.Transition

universe u v w

variable {Request : Type u} {Reply : Type v} {Channel : Type w}

/-- The requests that arrived, the pending ones, and the answers so far. -/
@[ext]
structure Service (Request : Type u) (Reply : Type v) where
  arrived : List Request
  /-- In the order of their arrival. -/
  pending : List Request
  answered : List (Request × Reply)

/-- What may happen to a service. -/
inductive Action (Request : Type u) (Reply : Type v) where
  | arrive (request : Request)
  | answer (index : Nat) (reply : Reply)

/-- The service before the first request. -/
def Service.idle : Service Request Reply :=
  ⟨[], [], []⟩

/-- A request arrives, or the pending one at an index is answered. -/
def Service.step (service : Service Request Reply) :
    Action Request Reply → Option (Service Request Reply)
  | .arrive request =>
      some
        { service with
          arrived := service.arrived ++ [request]
          pending := service.pending ++ [request] }
  | .answer index reply =>
      match service.pending[index]? with
      | none => none
      | some request =>
          some
            { service with
              pending := service.pending.eraseIdx index
              answered := service.answered ++ [(request, reply)] }

/-- The requests that have an answer, in the order of the answers. -/
def Service.finished (service : Service Request Reply) : List Request :=
  service.answered.map Prod.fst

/-- The two ways in which a service moves. -/
theorem Service.step_cases
    {before after : Service Request Reply} {action : Action Request Reply}
    (taken : before.step action = some after) :
    (∃ request,
        action = .arrive request ∧
          after =
            ⟨before.arrived ++ [request], before.pending ++ [request],
              before.answered⟩) ∨
      ∃ front request back reply,
        action = .answer front.length reply ∧
          before.pending = front ++ request :: back ∧
          after =
            ⟨before.arrived, front ++ back,
              before.answered ++ [(request, reply)]⟩ := by
  cases action with
  | arrive request =>
      simp only [step, Option.some.injEq] at taken
      exact Or.inl ⟨request, rfl, taken.symm⟩
  | answer index reply =>
      simp only [step] at taken
      split at taken
      · simp at taken
      rename_i request found
      simp only [Option.some.injEq] at taken
      subst after
      obtain ⟨inside, here⟩ := List.getElem?_eq_some_iff.mp found
      have split :
          before.pending =
            before.pending.take index ++
              request :: before.pending.drop (index + 1) := by
        rw [← here, List.getElem_cons_drop, List.take_append_drop]
      refine Or.inr ⟨before.pending.take index, request,
        before.pending.drop (index + 1), reply, ?_, split, ?_⟩
      · rw [List.length_take_of_le (Nat.le_of_lt inside)]
      · rw [List.eraseIdx_eq_take_drop_succ]

/-! ## Every request is answered at most once -/

/--
The requests that arrived are the answered ones and the pending ones, and
those are still in the order of their arrival.
-/
structure Accounted (service : Service Request Reply) : Prop where
  settled : (service.finished ++ service.pending).Perm service.arrived
  ordered : service.pending.Sublist service.arrived

theorem Accounted.step
    {before after : Service Request Reply} {action : Action Request Reply}
    (accounted : Accounted before)
    (taken : before.step action = some after) :
    Accounted after := by
  obtain ⟨settled, ordered⟩ := accounted
  rcases Service.step_cases taken with
    ⟨request, -, rfl⟩ | ⟨front, request, back, reply, -, split, rfl⟩
  · constructor
    · change (before.finished ++ (before.pending ++ [request])).Perm _
      rw [← List.append_assoc]
      exact settled.append_right [request]
    · exact ordered.append (.refl _)
  · rw [split] at settled ordered
    constructor
    · simp only [Service.finished, List.map_append, List.map_singleton,
        List.append_assoc, List.singleton_append] at settled ⊢
      exact (List.perm_middle.symm.append_left _).trans settled
    · exact ((List.sublist_cons_self request back).append_left
        front).trans ordered

theorem accounted
    {actions : List (Action Request Reply)}
    {service : Service Request Reply}
    (run : Run Service.step .idle actions service) :
    Accounted service :=
  Run.invariant Accounted ⟨.refl _, .refl _⟩
    (fun _ _ _ held taken => held.step taken) run

/-! ## The order of one channel -/

section

variable [DecidableEq Channel] (channel : Request → Channel) (key : Channel)

/-- The requests of a channel. -/
def onChannel (requests : List Request) : List Request :=
  requests.filter fun request => channel request == key

@[simp]
theorem onChannel_nil : onChannel channel key [] = [] :=
  rfl

@[simp]
theorem onChannel_append (first second : List Request) :
    onChannel channel key (first ++ second) =
      onChannel channel key first ++ onChannel channel key second := by
  simp [onChannel]

theorem onChannel_singleton (request : Request) :
    onChannel channel key [request] =
      if channel request = key then [request] else [] := by
  by_cases same : channel request = key <;> simp [onChannel, same]

theorem onChannel_cons (request : Request) (rest : List Request) :
    onChannel channel key (request :: rest) =
      onChannel channel key [request] ++ onChannel channel key rest := by
  rw [← onChannel_append]
  rfl

theorem onChannel_eq_nil_iff {requests : List Request} :
    onChannel channel key requests = [] ↔
      ∀ request ∈ requests, channel request ≠ key := by
  simp [onChannel]

/-- A request of the channel is answered before no earlier one of it. -/
def InOrder (service : Service Request Reply) :
    Action Request Reply → Prop
  | .arrive _ => True
  | .answer index _ =>
      ∀ request, service.pending[index]? = some request →
        channel request = key →
          onChannel channel key (service.pending.take index) = []

/-- A request of the channel arrives when none of it is pending. -/
def OneAtATime (service : Service Request Reply) :
    Action Request Reply → Prop
  | .arrive request =>
      channel request = key →
        onChannel channel key service.pending = []
  | .answer _ _ => True

/-- The requests of the channel were answered in the order of arrival. -/
def Ordered (service : Service Request Reply) : Prop :=
  onChannel channel key service.arrived =
    onChannel channel key service.finished ++
      onChannel channel key service.pending

variable {channel key}

theorem Ordered.step
    {before after : Service Request Reply} {action : Action Request Reply}
    (ordered : Ordered channel key before)
    (meets : InOrder channel key before action)
    (taken : before.step action = some after) :
    Ordered channel key after := by
  rcases Service.step_cases taken with
    ⟨request, -, rfl⟩ | ⟨front, request, back, reply, rfl, split, rfl⟩
  · change
      onChannel channel key (before.arrived ++ [request]) =
        onChannel channel key before.finished ++
          onChannel channel key (before.pending ++ [request])
    rw [onChannel_append, onChannel_append, ordered, List.append_assoc]
  · change
      onChannel channel key before.arrived =
        onChannel channel key
            ((before.answered ++ [(request, reply)]).map Prod.fst) ++
          onChannel channel key (front ++ back)
    rw [ordered, split, onChannel_append, onChannel_cons,
      List.map_append, onChannel_append, onChannel_append]
    by_cases own : channel request = key
    · -- The requests in front are of other channels.
      have first : onChannel channel key front = [] := by
        have none := meets request (by simp [split]) own
        rwa [split, List.take_left] at none
      rw [first, List.nil_append, List.nil_append, ← List.append_assoc]
      rfl
    · have other : onChannel channel key [request] = [] := by
        rw [onChannel_singleton, if_neg own]
      simp only [List.map_singleton, other, List.append_nil,
        List.nil_append]
      rfl

theorem ordered
    {actions : List (Action Request Reply)}
    {service : Service Request Reply}
    (run :
      RunWhere Service.step (InOrder channel key) .idle actions service) :
    Ordered channel key service :=
  RunWhere.invariant (fun _ => True) (Ordered channel key)
    (fun _ => trivial) (by simp [Ordered, Service.idle, Service.finished])
    (fun _ _ _ _ held meets taken => held.step meets taken) run

/-- One request at a time leaves none to overtake. -/
theorem length_onChannel_pending_le
    {actions : List (Action Request Reply)}
    {service : Service Request Reply}
    (run :
      RunWhere Service.step (OneAtATime channel key) .idle actions service) :
    (onChannel channel key service.pending).length ≤ 1 := by
  refine RunWhere.invariant (fun _ => True)
    (fun service => (onChannel channel key service.pending).length ≤ 1)
    (fun _ => trivial) (Nat.zero_le _) ?_ run
  intro before action after _ held meets taken
  rcases Service.step_cases taken with
    ⟨request, rfl, rfl⟩ | ⟨front, request, back, reply, -, split, rfl⟩
  · change (onChannel channel key (before.pending ++ [request])).length ≤ 1
    rw [onChannel_append, onChannel_singleton]
    by_cases own : channel request = key
    · rw [meets own, if_pos own]
      simp
    · rw [if_neg own, List.append_nil]
      exact held
  · change (onChannel channel key (front ++ back)).length ≤ 1
    rw [split, onChannel_append, onChannel_cons] at held
    rw [onChannel_append]
    simp only [List.length_append] at held ⊢
    omega

end

end LibSklt.Foundation.Services
