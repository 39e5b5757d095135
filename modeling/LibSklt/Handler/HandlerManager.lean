import LibSklt.Util.Container

/-!
# The handlers of the protocols (`handler/handler_manager.h`)

`HandlerManager` keeps a function for each protocol number.  The workers call
`Processing` with the number and the body of a packet; without a function for
the number it returns an empty `ResultObject`.

A function may read more than its arguments: counters that are shared with
other calls, the state of `rand`, memory that was never written.  All of this
is `World`, and a function is given by what it returns for each world.
-/

namespace LibSklt.Handler

open LibSklt.Util

variable {World : Type}

/-- `HandlerManager::ResultObject`; a null pointer is `none`. -/
abbrev ResultObject : Type :=
  Option (List UInt8)

/-- `HandlerManager::FunctionObject`, of the bytes of a buffer. -/
abbrev FunctionObject (World : Type) : Type :=
  World → List UInt8 → ResultObject

/-- The member of `HandlerManager`. -/
structure HandlerManager (World : Type) where
  handler : MapContainer Int32 (FunctionObject World)

namespace HandlerManager

/-- The constructor. -/
def make : HandlerManager World :=
  ⟨MapContainer.make⟩

/-- `HandlerManager::Processing`. -/
def processing (self : HandlerManager World) (protocolNo : Int32)
    (world : World) (buffer : List UInt8) : ResultObject :=
  match self.handler.getvalue protocolNo with
  | some objFunc => objFunc world buffer
  | none => none

/-- `HandlerManager::ProtocolRegister`; a refused insertion is only logged. -/
def protocolRegister (self : HandlerManager World) (protocolNo : Int32)
    (funcObject : FunctionObject World) : HandlerManager World :=
  ⟨(self.handler.insert protocolNo funcObject).1⟩

/-- `HandlerManager::ProtocolListGet`, which appends to the given list. -/
def protocolListGet (self : HandlerManager World)
    (protocolList : List Int32) : List Int32 :=
  protocolList ++ self.handler.getContainer.keys

/-- Calls of `ProtocolRegister`, one after the other. -/
def registerAll (self : HandlerManager World)
    (registrations : List (Int32 × FunctionObject World)) :
    HandlerManager World :=
  registrations.foldl
    (fun self entry => self.protocolRegister entry.1 entry.2) self

theorem handler_registerAll
    (self : HandlerManager World)
    (registrations : List (Int32 × FunctionObject World)) :
    (self.registerAll registrations).handler =
      self.handler.insertAll registrations := by
  induction registrations generalizing self with
  | nil => rfl
  | cons entry rest inductionHypothesis =>
      exact inductionHypothesis (self.protocolRegister entry.1 entry.2)

/-- The function that `Processing` calls after a number of registrations. -/
theorem getvalue_registerAll_make
    (registrations : List (Int32 × FunctionObject World))
    (protocolNo : Int32) :
    ((make : HandlerManager World).registerAll
        registrations).handler.getvalue protocolNo =
      registrations.lookup protocolNo := by
  rw [handler_registerAll, MapContainer.getvalue_insertAll, make,
    MapContainer.getvalue_make, Option.none_or]

/--
After any registrations, with numbers repeated in any way, `Processing` calls
the function that was registered first for the number, and the list of the
loaded protocols has each registered number once.
-/
theorem first_registration_answers
    (registrations : List (Int32 × FunctionObject World)) :
    (∀ protocolNo world buffer,
        (make.registerAll registrations).processing protocolNo world
            buffer =
          (registrations.lookup protocolNo).bind fun objFunc =>
            objFunc world buffer) ∧
      ((make.registerAll registrations).protocolListGet []).Nodup ∧
      ∀ protocolNo,
        protocolNo ∈ (make.registerAll registrations).protocolListGet [] ↔
          protocolNo ∈ registrations.map Prod.fst := by
  refine ⟨?_, ?_, ?_⟩
  · intro protocolNo world buffer
    rw [processing, getvalue_registerAll_make]
    cases registrations.lookup protocolNo <;> rfl
  · rw [protocolListGet, List.nil_append]
    exact AList.keys_nodup _
  · intro protocolNo
    rw [protocolListGet, List.nil_append,
      MapContainer.mem_getContainer_iff, getvalue_registerAll_make,
      List.lookup_isSome_iff, List.mem_map]
    simp

end HandlerManager

end LibSklt.Handler
