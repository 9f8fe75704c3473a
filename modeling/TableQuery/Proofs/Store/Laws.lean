import TableQuery.Proofs.Action
import TableQuery.Proofs.Query.Target
import TableQuery.Query.Execution

/-!
# What is expected of a store

A store answers a read by its state and by what the statement means, and a write changes the
table that it names and no other.

* `Statement.SameMeaning`: statements that differ in the form of their conditions at most.
* `LawfulStore`: the laws.
* `readPage_exec`: a page is read by two answers, and the store stays as it is.
-/

namespace TableQuery

/-- Two statements have the same tokens around their conditions, and their conditions are true,
false or unknown alike, for every database and every row. -/
def Statement.SameMeaning (s t : Statement) : Prop :=
  ∃ r q, s.reading? = some r ∧ t.reading? = some q ∧ r.head = q.head ∧ r.tail = q.tail ∧
    ∀ D row, r.truth D row = q.truth D row

/-- A store that only `execute` changes, whose answers depend on its state and on what the
statement means. -/
class LawfulStore (σ : Type) [Store σ] : Prop where
  fetchRows_state : ∀ s n (store : σ), (Store.fetchRows s n store).2 = store
  fetchCount_state : ∀ s (store : σ), (Store.fetchCount s store).2 = store
  fetchRows_meaning : ∀ {s t} n (store : σ), s.SameMeaning t →
    (Store.fetchRows s n store).1 = (Store.fetchRows t n store).1
  fetchCount_meaning : ∀ {s t} (store : σ), s.SameMeaning t →
    (Store.fetchCount s store).1 = (Store.fetchCount t store).1
  /-- A write does not change what is read from another table. -/
  fetchRows_apart : ∀ {s w} {a b : String} n (store : σ), s.source? = some a →
    w.target? = some b → a ≠ b →
      (Store.fetchRows s n (Store.execute w store).2).1 = (Store.fetchRows s n store).1
  fetchCount_apart : ∀ {s w} {a b : String} (store : σ), s.source? = some a →
    w.target? = some b → a ≠ b →
      (Store.fetchCount s (Store.execute w store).2).1 = (Store.fetchCount s store).1

variable {σ : Type}

theorem Store.exec_call {α : Type} (f : σ → Except StoreFault α × σ) (store : σ) :
    (Store.call f).exec store = ((f store).1.mapError .store, (f store).2) := by
  unfold Store.call
  rw [Action.exec_make]
  cases h : f store with
  | mk answer next => cases answer <;> rfl

/-- The rows and their number, from the answers to the two reads. -/
def pageOfAnswers (threshold : Binary64) (q : Query) (total : Except StoreFault Nat)
    (cells : Except StoreFault (List (List Cell))) :
    Except QueryError (List (List (String × Json)) × Nat) := do
  let total ← total.mapError .store
  let cells ← cells.mapError .store
  pure (cells.map (rowFields threshold q.columns), total)

/-- A page is read by two answers, and the store stays as it is. -/
theorem readPage_exec [Store σ] [LawfulStore σ] (threshold : Binary64) (q : Query) (store : σ) :
    (readPage threshold q).exec store =
      (match selectBoth q with
        | .error fault => .error (.request fault)
        | .ok (rows, count) => pageOfAnswers threshold q (Store.fetchCount count store).1
            (Store.fetchRows rows q.columns.length store).1, store) := by
  unfold readPage
  rw [Action.exec_bind, Action.exec_request]
  cases selectBoth q with
  | error fault => rfl
  | ok both =>
    obtain ⟨rows, count⟩ := both
    simp only [Except.mapError, Action.exec_bind, Store.exec_call, LawfulStore.fetchCount_state,
      pageOfAnswers]
    cases (Store.fetchCount count store).1 with
    | error fault => rfl
    | ok total =>
      simp only [LawfulStore.fetchRows_state]
      cases (Store.fetchRows rows q.columns.length store).1 <;> rfl

end TableQuery
