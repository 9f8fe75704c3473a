import TableQuery.Proofs.Store.Laws

/-!
# Operations that refuse before they begin

The caller is told of a fault of his own before anything has happened: an operation that reads or
writes a store refuses a request at its start or not at all.

* `readPage_refusesFirst`, `updateMatching_refusesFirst`, `deleteMatching_refusesFirst`.
* `insertRows_neverRefuses`: rows whose values fit are not refused when their turn comes.
-/

namespace TableQuery

open TableQuery.Action

variable {σ : Type}

/-- A store has faults of its own only. -/
theorem Store.neverRefuses_call {α : Type} (f : σ → Except StoreFault α × σ) :
    (Store.call f).NeverRefuses := by
  intro store fault hfault
  rw [Store.exec_call] at hfault
  cases hanswer : (f store).1 with
  | ok a =>
    rw [hanswer] at hfault
    cases hfault
  | error e =>
    rw [hanswer] at hfault
    cases hfault
    rfl

variable [Store σ]

/-! ## Reads, updates and deletions -/

theorem readPage_refusesFirst (threshold : Binary64) (q : Query) :
    (readPage threshold q : Action σ _).RefusesFirst :=
  .after (request_unchanged _) fun _ => ((Store.neverRefuses_call _).bind fun _ =>
    (Store.neverRefuses_call _).bind fun _ => neverRefuses_pure _).refusesFirst

theorem updateMatching_refusesFirst (q : Query) (values : WriteValues) :
    (updateMatching q values : Action σ Nat).RefusesFirst :=
  .after (request_unchanged _) fun _ => (Store.neverRefuses_call _).refusesFirst

theorem deleteMatching_refusesFirst (q : Query) : (deleteMatching q : Action σ Nat).RefusesFirst :=
  .after (request_unchanged _) fun _ => (Store.neverRefuses_call _).refusesFirst

/-! ## Insertions -/

/-- Rows whose values fit their columns are not refused when their turn comes. -/
theorem insertRows_neverRefuses {table : Table} {rows : List (List (String × Json))}
    (h : ∀ fields ∈ rows, ∃ values, writeValues table fields = .ok values) :
    (insertRows table rows : Action σ Nat).NeverRefuses := by
  induction rows with
  | nil => exact neverRefuses_pure 0
  | cons row rest ih =>
    obtain ⟨⟨values, hvalues⟩, hrest⟩ := List.forall_mem_cons.mp h
    unfold insertRows
    simp only [hvalues, insertRow_eq]
    refine (neverRefuses_of_ok fun _ => ⟨_, rfl⟩).bind fun _ => ?_
    refine (neverRefuses_of_ok fun _ => ⟨_, rfl⟩).bind fun _ => ?_
    exact (Store.neverRefuses_call _).bind fun _ => (ih hrest).bind fun _ => neverRefuses_pure _

end TableQuery
