import LibSklt.Foundation.Ledger
import LibSklt.Foundation.Transition

/-!
# The ODBC connector (`db/db_connector.h`, `lib/db_connector.cpp`)

`DBConnector::Connet` allocates an environment, a connection and a statement
handle, and returns at once if a call on the way fails.  `DisConnect` frees
the handles that are not null, and the destructor calls it only if a `Connet`
since the last `DisConnect` came to its end.

The members are not set by the constructors, and not set to null when their
handles are freed.  A handle is therefore freed in time only if the calls
keep to an order that the class does not check; `Careful` states it, call by
call.  A handle counts as freed once it is passed to `SQLFreeHandle`, whose
result is not looked at.
-/

namespace LibSklt.Db.DbConnector

open LibSklt.Foundation.Ledger
open LibSklt.Foundation.Transition

/-- The kinds of ODBC handles. -/
inductive HandleKind where
  | env
  | dbc
  | stmt
  deriving DecidableEq, Repr

/-- A handle of ODBC, with `0` for `SQL_NULL_HANDLE`. -/
abbrev Handle := HandleKind × Nat

/-- The members of `DBConnector` that the handles depend on. -/
structure DBConnector where
  /-- `m_hEnv`. -/
  hEnv : Nat
  /-- `m_hDbc`. -/
  hDbc : Nat
  /-- `m_hSTMT`. -/
  hSTMT : Nat
  /-- `m_bConnect`. -/
  bConnect : Bool
  deriving DecidableEq, Repr

/-- The member for a kind of handles. -/
def DBConnector.handle (connector : DBConnector) : HandleKind → Nat
  | .env => connector.hEnv
  | .dbc => connector.hDbc
  | .stmt => connector.hSTMT

/-- Assignment to the member for a kind of handles. -/
def DBConnector.setHandle (connector : DBConnector) :
    HandleKind → Nat → DBConnector
  | .env, value => { connector with hEnv := value }
  | .dbc, value => { connector with hDbc := value }
  | .stmt, value => { connector with hSTMT := value }

/-- A connector, and the handles allocated and passed to `SQLFreeHandle` so
far; with the latter stands the result of the call. -/
structure State where
  connector : DBConnector
  ledger : List (Entry Handle Int)

/-- `SQL_RetCheck`: `SQL_SUCCESS` or `SQL_SUCCESS_WITH_INFO`. -/
def sqlRetCheck (ret : Int) : Bool :=
  ret == 0 || ret == 1

/-- What `SQLAllocHandle` returns, and writes to the member if it writes. -/
structure AllocResult where
  ret : Int
  output : Option Nat
  deriving DecidableEq, Repr

/-- `SQLAllocHandle` into the member for `kind`. -/
def sqlAllocHandle
    (state : State) (kind : HandleKind) (result : AllocResult) : State :=
  let connector :=
    match result.output with
    | none => state.connector
    | some value => state.connector.setHandle kind value
  if sqlRetCheck result.ret then
    { connector
      ledger := state.ledger ++ [.acquired (kind, connector.handle kind)] }
  else
    { state with connector }

/-- `SQLFreeHandle` of the member for `kind`. -/
def sqlFreeHandle (state : State) (kind : HandleKind) (ret : Int) : State :=
  { state with
    ledger :=
      state.ledger ++ [.released (kind, state.connector.handle kind) ret] }

/-! ## The calls -/

/-- The results of the five calls in `Connet`. -/
structure ConnetResults where
  allocEnv : AllocResult
  setEnvAttr : Int
  allocDbc : AllocResult
  connect : Int
  allocStmt : AllocResult
  deriving DecidableEq, Repr

/-- `DBConnector::Connet`. -/
def connet (state : State) (results : ConnetResults) : Bool × State :=
  let withEnv := sqlAllocHandle state .env results.allocEnv
  if !sqlRetCheck results.allocEnv.ret then
    (false, withEnv)
  else if !sqlRetCheck results.setEnvAttr then
    (false, withEnv)
  else
    let withDbc := sqlAllocHandle withEnv .dbc results.allocDbc
    if !sqlRetCheck results.allocDbc.ret then
      (false, withDbc)
    else if !sqlRetCheck results.connect then
      (false, withDbc)
    else
      let withStmt := sqlAllocHandle withDbc .stmt results.allocStmt
      if !sqlRetCheck results.allocStmt.ret then
        (false, withStmt)
      else
        (true,
          { withStmt with
            connector := { withStmt.connector with bConnect := true } })

/-- `if(handle) SQLFreeHandle(kind, handle)`. -/
def freeUnlessNull (state : State) (kind : HandleKind) (ret : Int) : State :=
  if state.connector.handle kind ≠ 0 then
    sqlFreeHandle state kind ret
  else
    state

/-- `DBConnector::DisConnect`, with a result of `SQLFreeHandle` for each
kind. -/
def disConnect (state : State) (results : HandleKind → Int) : State :=
  let withoutStmt := freeUnlessNull state .stmt (results .stmt)
  let withoutDbc := freeUnlessNull withoutStmt .dbc (results .dbc)
  let withoutEnv := freeUnlessNull withoutDbc .env (results .env)
  { withoutEnv with
    connector := { withoutEnv.connector with bConnect := false } }

/-- The constructors, which leave the handles as they are. -/
def construct (hEnv hDbc hSTMT : Nat) : State :=
  { connector := { hEnv, hDbc, hSTMT, bConnect := false }, ledger := [] }

/-- The destructor. -/
def destruct (state : State) (results : HandleKind → Int) : State :=
  if state.connector.bConnect then disConnect state results else state

/-! ## Runs -/

/-- The calls of `SQLAllocHandle` that a `Connet` gets to. -/
def ConnetResults.allocations (results : ConnetResults) :
    List (HandleKind × AllocResult) :=
  if sqlRetCheck results.allocEnv.ret && sqlRetCheck results.setEnvAttr then
    if sqlRetCheck results.allocDbc.ret && sqlRetCheck results.connect then
      [(.env, results.allocEnv), (.dbc, results.allocDbc),
        (.stmt, results.allocStmt)]
    else
      [(.env, results.allocEnv), (.dbc, results.allocDbc)]
  else
    [(.env, results.allocEnv)]

/-- What `SQLAllocHandle` may do.  If it succeeds it writes a handle that is
not null and not in use; if it fails it writes null or nothing. -/
def Permitted
    (ledger : List (Entry Handle Int)) (kind : HandleKind)
    (result : AllocResult) : Prop :=
  if sqlRetCheck result.ret then
    ∃ value, result.output = some value ∧ value ≠ 0 ∧
      ¬ Outstanding ledger (kind, value)
  else
    result.output = none ∨ result.output = some 0

/-- A call of a member function, with the results of the calls it makes. -/
inductive Event where
  | connet (results : ConnetResults)
  | disConnect (results : HandleKind → Int)

/-- The effect of a call. -/
def apply (state : State) : Event → State
  | .connet results => (connet state results).2
  | .disConnect results => disConnect state results

/-- Every call can be made at any time. -/
def step (state : State) (event : Event) : Option State :=
  some (apply state event)

/-- The results of a call are those of an ODBC driver.  A handle of one kind
does not depend on those of the others, so the ledger before the call
decides. -/
def Allowed (state : State) : Event → Prop
  | .connet results =>
      ∀ allocation ∈ results.allocations,
        Permitted state.ledger allocation.1 allocation.2
  | .disConnect _ => True

/-- The member is not written while its handle is still to be freed. -/
def Tidy (state : State) (allocation : HandleKind × AllocResult) : Prop :=
  allocation.2.output ≠ none →
    ¬ Outstanding state.ledger
      (allocation.1, state.connector.handle allocation.1)

/-- The member is null, or its handle is still to be freed. -/
def Freeable (state : State) (kind : HandleKind) : Prop :=
  state.connector.handle kind ≠ 0 →
    Outstanding state.ledger (kind, state.connector.handle kind)

/-- A call that neither loses a handle nor frees one at the wrong time. -/
def Careful (state : State) : Event → Prop
  | .connet results =>
      ∀ allocation ∈ results.allocations, Tidy state allocation
  | .disConnect _ => ∀ kind, Freeable state kind

/-- A connector that may be destroyed: it is connected, or none of its
handles is still to be freed. -/
def Destructible (state : State) : Prop :=
  state.connector.bConnect = false →
    ∀ kind, ¬ Outstanding state.ledger (kind, state.connector.handle kind)

/-! ## One handle -/

@[simp]
theorem DBConnector.handle_setHandle
    (connector : DBConnector) (kind other : HandleKind) (value : Nat) :
    (connector.setHandle kind value).handle other =
      if other = kind then value else connector.handle other := by
  cases kind <;> cases other <;> rfl

@[simp]
theorem DBConnector.bConnect_setHandle
    (connector : DBConnector) (kind : HandleKind) (value : Nat) :
    (connector.setHandle kind value).bConnect = connector.bConnect := by
  cases kind <;> rfl

@[simp]
theorem DBConnector.handle_setConnect
    (connector : DBConnector) (kind : HandleKind) (connected : Bool) :
    { connector with bConnect := connected }.handle kind =
      connector.handle kind := by
  cases kind <;> rfl

/-- What a call of `SQLAllocHandle` can do. -/
theorem sqlAllocHandle_cases
    {state : State} {kind : HandleKind} {result : AllocResult}
    (permitted : Permitted state.ledger kind result) :
    (result.output = none ∧ sqlRetCheck result.ret = false ∧
        sqlAllocHandle state kind result = state) ∨
      (result.output = some 0 ∧ sqlRetCheck result.ret = false ∧
        sqlAllocHandle state kind result =
          { state with connector := state.connector.setHandle kind 0 }) ∨
      (∃ value, result.output = some value ∧ sqlRetCheck result.ret = true ∧
        value ≠ 0 ∧ ¬ Outstanding state.ledger (kind, value) ∧
        sqlAllocHandle state kind result =
          { connector := state.connector.setHandle kind value
            ledger := state.ledger ++ [.acquired (kind, value)] }) := by
  rw [Permitted] at permitted
  split at permitted
  case isTrue succeeded =>
    obtain ⟨value, written, nonnull, unused⟩ := permitted
    refine .inr (.inr ⟨value, written, succeeded, nonnull, unused, ?_⟩)
    simp [sqlAllocHandle, succeeded, written]
  case isFalse failed =>
    have failed := Bool.eq_false_iff.mpr failed
    rcases permitted with kept | cleared
    · exact .inl ⟨kept, failed, by simp [sqlAllocHandle, failed, kept]⟩
    · exact .inr (.inl
        ⟨cleared, failed, by simp [sqlAllocHandle, failed, cleared]⟩)

/-- The members for the other kinds are not written. -/
theorem handle_sqlAllocHandle_of_ne
    (state : State) {kind other : HandleKind} (result : AllocResult)
    (different : other ≠ kind) :
    (sqlAllocHandle state kind result).connector.handle other =
      state.connector.handle other := by
  rw [sqlAllocHandle]
  cases result.output with
  | none => split <;> rfl
  | some value => split <;> simp [different]

theorem outstanding_sqlAllocHandle_of_ne
    (state : State) {kind other : HandleKind} (result : AllocResult)
    (different : other ≠ kind) (value : Nat) :
    Outstanding (sqlAllocHandle state kind result).ledger (other, value) ↔
      Outstanding state.ledger (other, value) := by
  rw [sqlAllocHandle]
  split
  · refine outstanding_snoc_acquired_of_ne ?_
    intro same
    exact different (Prod.mk.inj same).1.symm
  · rfl

theorem permitted_sqlAllocHandle_of_ne
    (state : State) {kind other : HandleKind} (result otherResult : AllocResult)
    (different : other ≠ kind) :
    Permitted (sqlAllocHandle state kind result).ledger other otherResult ↔
      Permitted state.ledger other otherResult := by
  simp only [Permitted,
    outstanding_sqlAllocHandle_of_ne state result different]

theorem tidy_sqlAllocHandle_of_ne
    (state : State) {kind other : HandleKind} (result otherResult : AllocResult)
    (different : other ≠ kind) :
    Tidy (sqlAllocHandle state kind result) (other, otherResult) ↔
      Tidy state (other, otherResult) := by
  simp only [Tidy, handle_sqlAllocHandle_of_ne state result different,
    outstanding_sqlAllocHandle_of_ne state result different]

end LibSklt.Db.DbConnector
