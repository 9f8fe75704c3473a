import TableQuery.Action

/-!
# What operations do in a row

An operation that is put together from others does what all of them do, up to the first failure.

* `Action.Moves`: how an operation changes the state, whether it fails or not.
* `Action.NeverRefuses`, `Action.RefusesFirst`: what an operation does when the caller is at fault.
-/

namespace TableQuery

namespace Action

variable {s t α β : Type}

/-! ## Changes of the state -/

section

variable {R : s → s → Prop}

/-- Whether the operation fails or not, the state has changed as `R` says. -/
def Moves (R : s → s → Prop) (a : Action s α) : Prop := ∀ state, R state (a.exec state).2

theorem moves_of_unchanged {a : Action s α} (hrefl : ∀ state, R state state)
    (h : ∀ state, (a.exec state).2 = state) : a.Moves R := by
  intro state
  rw [h]
  exact hrefl state

theorem Moves.bind {a : Action s α} {f : α → Action s β}
    (htrans : ∀ {x y z}, R x y → R y z → R x z) (ha : a.Moves R) (hf : ∀ x, (f x).Moves R) :
    (a >>= f).Moves R := by
  intro state
  have hfirst := ha state
  rw [exec_bind]
  cases hexec : a.exec state with
  | mk result next =>
    rw [hexec] at hfirst
    cases result with
    | error fault => exact hfirst
    | ok x => exact htrans hfirst (hf x next)

/-- A request that is not refused goes on with what it asked for. -/
theorem Moves.request_bind {result : Except RequestFault α} {f : α → Action s β}
    (hrefl : ∀ state, R state state) (hf : ∀ x, result = .ok x → (f x).Moves R) :
    (request result >>= f).Moves R := by
  intro state
  rw [exec_bind, exec_request]
  cases result with
  | error fault => exact hrefl state
  | ok x => exact hf x rfl state

end

/-! ## Faults of the caller -/

/-- The operation never fails by a fault of the caller. -/
def NeverRefuses (a : Action s α) : Prop :=
  ∀ state fault, (a.exec state).1 = .error fault → fault.isClientError = false

/-- Where the operation fails by a fault of the caller, it has done nothing. -/
def RefusesFirst (a : Action s α) : Prop :=
  ∀ state fault, (a.exec state).1 = .error fault → fault.isClientError = true →
    (a.exec state).2 = state

theorem NeverRefuses.refusesFirst {a : Action s α} (h : a.NeverRefuses) : a.RefusesFirst := by
  intro state fault hfault hclient
  rw [h state fault hfault] at hclient
  cases hclient

/-- An operation that always has a result. -/
theorem neverRefuses_of_ok {a : Action s α} (h : ∀ state, ∃ x, (a.exec state).1 = .ok x) :
    a.NeverRefuses := by
  intro state fault hfault
  obtain ⟨x, hx⟩ := h state
  cases hx.symm.trans hfault

theorem neverRefuses_pure (x : α) : (pure x : Action s α).NeverRefuses :=
  neverRefuses_of_ok fun _ => ⟨x, rfl⟩

theorem NeverRefuses.bind {a : Action s α} {f : α → Action s β} (ha : a.NeverRefuses)
    (hf : ∀ x, (f x).NeverRefuses) : (a >>= f).NeverRefuses := by
  intro state fault hfault
  rw [exec_bind] at hfault
  have hfirst := ha state
  cases hexec : a.exec state with
  | mk result next =>
    rw [hexec] at hfault hfirst
    cases result with
    | error e =>
      cases hfault
      exact hfirst _ rfl
    | ok x => exact hf x next fault hfault

/-- What comes after the start must not refuse any more. -/
theorem RefusesFirst.bind {a : Action s α} {f : α → Action s β} (ha : a.RefusesFirst)
    (hf : ∀ x, (f x).NeverRefuses) : (a >>= f).RefusesFirst := by
  intro state fault hfault hclient
  have hfirst := ha state
  rw [exec_bind] at hfault ⊢
  cases hexec : a.exec state with
  | mk result next =>
    rw [hexec] at hfault hfirst
    cases result with
    | error e =>
      cases hfault
      exact hfirst _ rfl hclient
    | ok x =>
      rw [hf x next fault hfault] at hclient
      cases hclient

/-- An operation may still refuse after a start that does nothing. -/
theorem RefusesFirst.after {a : Action s α} {f : α → Action s β}
    (ha : ∀ state, (a.exec state).2 = state) (hf : ∀ x, (f x).RefusesFirst) :
    (a >>= f).RefusesFirst := by
  intro state fault hfault hclient
  have hkept := ha state
  rw [exec_bind] at hfault ⊢
  cases hexec : a.exec state with
  | mk result next =>
    rw [hexec] at hfault hkept
    subst hkept
    cases result with
    | error e => rfl
    | ok x => exact hf x _ fault hfault hclient

theorem request_unchanged (result : Except RequestFault α) (state : s) :
    ((request result : Action s α).exec state).2 = state := by
  rw [exec_request]

theorem NeverRefuses.zoom {part : s → t} {put : t → s → s} {a : Action t α} (h : a.NeverRefuses) :
    (a.zoom part put).NeverRefuses := by
  intro state fault hfault
  rw [exec_zoom] at hfault
  exact h (part state) fault hfault

theorem RefusesFirst.zoom {part : s → t} {put : t → s → s} {a : Action t α} (h : a.RefusesFirst)
    (hput : ∀ state, put (part state) state = state) : (a.zoom part put).RefusesFirst := by
  intro state fault hfault hclient
  rw [exec_zoom] at hfault ⊢
  rw [h (part state) fault hfault hclient]
  exact hput state

end Action

end TableQuery
