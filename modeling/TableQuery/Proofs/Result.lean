/-!
# Results of steps that may fail

How a row of steps came to its result: each of them did not fail.
-/

namespace TableQuery

variable {ε α β : Type}

/-- Two steps succeed if both do. -/
theorem bind_eq_ok {e : Except ε α} {f : α → Except ε β} {b : β} :
    e >>= f = .ok b ↔ ∃ a, e = .ok a ∧ f a = .ok b := by
  cases e with
  | ok a =>
    constructor
    · intro h; exact ⟨a, rfl, h⟩
    · rintro ⟨_, ⟨⟩, h⟩; exact h
  | error x =>
    constructor
    · intro h; cases h
    · rintro ⟨_, ⟨⟩, _⟩

theorem pure_eq_ok {a b : α} : (pure a : Except ε α) = .ok b ↔ a = b := by
  constructor
  · intro h; cases h; rfl
  · intro h; rw [h]; rfl

theorem map_eq_ok {e : Except ε α} {f : α → β} {b : β} :
    e.map f = .ok b ↔ ∃ a, e = .ok a ∧ f a = b := by
  cases e with
  | ok a =>
    constructor
    · intro h; cases h; exact ⟨a, rfl, rfl⟩
    · rintro ⟨_, ⟨⟩, rfl⟩; rfl
  | error x =>
    constructor
    · intro h; cases h
    · rintro ⟨_, ⟨⟩, _⟩

/-- A step that is seen to succeed has a result. -/
theorem exists_eq_ok {e : Except ε α} (h : e.toBool = true) : ∃ a, e = .ok a := by
  cases e with
  | ok a => exact ⟨a, rfl⟩
  | error x => cases h

theorem map_eq_error {e : Except ε α} {f : α → β} {x : ε} :
    e.map f = .error x ↔ e = .error x := by
  cases e with
  | ok a => exact ⟨fun h => (nomatch h), fun h => (nomatch h)⟩
  | error y =>
    constructor
    · intro h; cases h; rfl
    · intro h; cases h; rfl

end TableQuery
