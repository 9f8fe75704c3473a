import TableQuery.Fault

/-!
# Operations on a state

An operation may fail; the state keeps what was done before the failure.

* `Action.lift`: an operation that cannot fail.
* `Action.zoom`: an operation on a part of the state.
* `Action.attempt`: an operation whose failure is a result.
-/

namespace TableQuery

/-- An operation on states of type `s`. -/
abbrev Action (s α : Type) := ExceptT QueryError (StateM s) α

namespace Action

variable {s t α : Type}

/-- The result of the operation, and the state that it leaves. -/
def exec (a : Action s α) (state : s) : Except QueryError α × s := (ExceptT.run a).run state

/-- The operation that a function on states is. -/
def make (f : s → Except QueryError α × s) : Action s α := ExceptT.mk f

/-- An operation that cannot fail. -/
def lift (f : s → α × s) : Action s α := make fun state => ((Except.ok (f state).1), (f state).2)

/-- An operation that may be refused and changes nothing. -/
def check (result : Except QueryError α) : Action s α := make fun state => (result, state)

/-- A request that may be refused. -/
def request (result : Except RequestFault α) : Action s α :=
  check (match result with
    | .ok a => .ok a
    | .error fault => .error (.request fault))

/-- An operation on a part of the state. -/
def zoom (part : s → t) (put : t → s → s) (a : Action t α) : Action s α :=
  make fun state =>
    let (result, inner) := exec a (part state)
    (result, put inner state)

/-- The operation with its failure as a result. -/
def attempt (a : Action s α) : Action s (Except QueryError α) := lift (exec a)

@[simp] theorem exec_make (f : s → Except QueryError α × s) (state : s) :
    exec (make f) state = f state := rfl

@[simp] theorem exec_lift (f : s → α × s) (state : s) :
    exec (lift f) state = (.ok (f state).1, (f state).2) := rfl

@[simp] theorem exec_check (result : Except QueryError α) (state : s) :
    exec (check result) state = (result, state) := rfl

@[simp] theorem exec_request (result : Except RequestFault α) (state : s) :
    exec (request result) state = (result.mapError .request, state) := by
  cases result <;> rfl

@[simp] theorem exec_pure (a : α) (state : s) : exec (pure a : Action s α) state = (.ok a, state) :=
  rfl

@[simp] theorem exec_get (state : s) : exec (get : Action s s) state = (.ok state, state) := rfl

@[simp] theorem exec_set (next state : s) :
    exec (set next : Action s PUnit) state = (.ok ⟨⟩, next) := rfl

@[simp] theorem exec_modify (f : s → s) (state : s) :
    exec (modify f : Action s PUnit) state = (.ok ⟨⟩, f state) := rfl

@[simp] theorem exec_zoom (part : s → t) (put : t → s → s) (a : Action t α) (state : s) :
    exec (zoom part put a) state =
      ((exec a (part state)).1, put (exec a (part state)).2 state) := rfl

@[simp] theorem exec_attempt (a : Action s α) (state : s) :
    exec (attempt a) state = (.ok (exec a state).1, (exec a state).2) := rfl

@[simp] theorem exec_map {β : Type} (f : α → β) (a : Action s α) (state : s) :
    exec (f <$> a) state = ((exec a state).1.map f, (exec a state).2) := by
  simp only [exec, ExceptT.run_map, StateT.run_map]
  rcases StateT.run (ExceptT.run a) state with ⟨_ | _, _⟩ <;> rfl

/-- What comes after a failure is not run. -/
theorem exec_bind {β : Type} (a : Action s α) (f : α → Action s β) (state : s) :
    exec (a >>= f) state =
      match exec a state with
      | (.ok x, next) => exec (f x) next
      | (.error e, next) => (.error e, next) := by
  simp only [exec, ExceptT.run_bind, StateT.run_bind]
  rcases StateT.run (ExceptT.run a) state with ⟨_ | _, _⟩ <;> rfl

end Action

end TableQuery
