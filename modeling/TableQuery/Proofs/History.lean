import Mathlib.Data.List.Basic

/-!
# The last step of a kind

What is true after a row of steps often depends on the last of them that matters.

* `IsLast`: the last step of a kind, and what comes after it.
* `Since`: a step of one kind with none of another kind after it.
* `isLast_append`, `since_append`: how one step more changes them.
* `eq_or_before_or_after`: two steps of one row are one, or one of them comes before the other.
-/

namespace TableQuery

variable {α : Type}

/-- Among steps there is a last one of a kind, and these come after it. -/
structure IsLast (kind : α → Prop) (steps : List α) (s : α) (after : List α) : Prop where
  found : ∃ before, steps = before ++ s :: after
  holds : kind s
  later : ∀ t ∈ after, ¬kind t

/-- One step more is the last of the kind, or the last one is where it was. -/
theorem isLast_append {kind : α → Prop} {steps after : List α} {s t : α} :
    IsLast kind (steps ++ [t]) s after ↔
      kind t ∧ s = t ∧ after = [] ∨
        ¬kind t ∧ ∃ rest, after = rest ++ [t] ∧ IsLast kind steps s rest := by
  constructor
  · rintro ⟨⟨before, hsplit⟩, hkind, hlater⟩
    rcases List.eq_nil_or_concat' after with rfl | ⟨rest, last, rfl⟩
    · obtain ⟨-, heq⟩ := List.append_inj' hsplit rfl
      cases heq
      exact .inl ⟨hkind, rfl, rfl⟩
    · rw [← List.cons_append, ← List.append_assoc] at hsplit
      obtain ⟨rfl, heq⟩ := List.append_inj' hsplit rfl
      cases heq
      rw [List.forall_mem_append, List.forall_mem_singleton] at hlater
      exact .inr ⟨hlater.2, rest, rfl, ⟨before, rfl⟩, hkind, hlater.1⟩
  · rintro (⟨hkind, rfl, rfl⟩ | ⟨hnot, rest, rfl, ⟨before, rfl⟩, hkind, hlater⟩)
    · exact ⟨⟨steps, rfl⟩, hkind, nofun⟩
    · refine ⟨⟨before, by simp⟩, hkind, ?_⟩
      rw [List.forall_mem_append, List.forall_mem_singleton]
      exact ⟨hlater, hnot⟩

/-- Two steps of one row. -/
theorem eq_or_before_or_after {before before' after after' : List α} {s t : α}
    (h : before ++ s :: after = before' ++ t :: after') :
    (before = before' ∧ s = t ∧ after = after') ∨
      (∃ between, before' = before ++ s :: between ∧ after = between ++ t :: after') ∨
        ∃ between, before = before' ++ t :: between ∧ after' = between ++ s :: after := by
  rcases List.append_eq_append_iff.mp h with ⟨middle, rfl, hmiddle⟩ | ⟨middle, rfl, hmiddle⟩
  · cases middle with
    | nil =>
      cases hmiddle
      exact .inl ⟨(List.append_nil _).symm, rfl, rfl⟩
    | cons u between =>
      cases hmiddle
      exact .inr (.inl ⟨between, rfl, rfl⟩)
  · cases middle with
    | nil =>
      cases hmiddle
      exact .inl ⟨List.append_nil _, rfl, rfl⟩
    | cons u between =>
      cases hmiddle
      exact .inr (.inr ⟨between, rfl, rfl⟩)

/-- A step of one kind is there, and none of the other kind has come since. -/
def Since (kind other : α → Prop) (steps : List α) : Prop :=
  ∃ before s after, steps = before ++ s :: after ∧ kind s ∧ ∀ t ∈ after, ¬other t

theorem not_since_nil {kind other : α → Prop} : ¬Since kind other [] := by
  rintro ⟨before, s, after, hsplit, -⟩
  exact List.append_ne_nil_of_right_ne_nil before (List.cons_ne_nil s after) hsplit.symm

theorem since_append {kind other : α → Prop} {steps : List α} {t : α} :
    Since kind other (steps ++ [t]) ↔ kind t ∨ ¬other t ∧ Since kind other steps := by
  constructor
  · rintro ⟨before, s, after, hsplit, hkind, hlater⟩
    rcases List.eq_nil_or_concat' after with rfl | ⟨rest, last, rfl⟩
    · obtain ⟨-, heq⟩ := List.append_inj' hsplit rfl
      cases heq
      exact .inl hkind
    · rw [← List.cons_append, ← List.append_assoc] at hsplit
      obtain ⟨rfl, heq⟩ := List.append_inj' hsplit rfl
      cases heq
      rw [List.forall_mem_append, List.forall_mem_singleton] at hlater
      exact .inr ⟨hlater.2, before, s, rest, rfl, hkind, hlater.1⟩
  · rintro (hkind | ⟨hnot, before, s, after, rfl, hkind, hlater⟩)
    · exact ⟨steps, t, [], rfl, hkind, nofun⟩
    · refine ⟨before, s, after ++ [t], by simp, hkind, ?_⟩
      rw [List.forall_mem_append, List.forall_mem_singleton]
      exact ⟨hlater, hnot⟩

/-- Of two kinds of which each puts an end to the other, one has come last. -/
theorem Since.absurd {kind other kind' other' : α → Prop} {steps : List α}
    (h : Since kind other steps) (h' : Since kind' other' steps) (hends : ∀ s, kind s → other' s)
    (hends' : ∀ s, kind' s → other s) (hapart : ∀ s, kind s → ¬kind' s) : False := by
  obtain ⟨before, s, after, rfl, hkind, hlater⟩ := h
  obtain ⟨before', t, after', hsplit, hkind', hlater'⟩ := h'
  rcases eq_or_before_or_after hsplit with
    ⟨-, rfl, -⟩ | ⟨between, -, rfl⟩ | ⟨between, -, rfl⟩
  · exact hapart s hkind hkind'
  · exact hlater t (by simp) (hends' t hkind')
  · exact hlater' s (by simp) (hends s hkind)

end TableQuery
