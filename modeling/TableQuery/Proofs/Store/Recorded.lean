import TableQuery.Advice.Report
import TableQuery.Proofs.Store.Laws
import TableQuery.Registry
import TableQuery.Store.Prepared

/-!
# A store with a record of its calls

* `Recorded`: a store together with the calls that it got.
* `Action.CallsOnly`: every call that an operation makes is of a kind.
* `readPage_calls`, `insertRows_calls`, `updateMatching_calls`, `deleteMatching_calls`,
  `readSpecs_calls`, `adviseTable_calls`: the calls of the operations on a store.
-/

namespace TableQuery

/-- A store with the calls that it got, the oldest first. -/
structure Recorded (σ : Type) where
  store : σ
  calls : List StoreCall

namespace Recorded

variable {σ α : Type}

/-- Writes a call down and passes it on to the store. -/
def pass (call : StoreCall) (f : σ → Except StoreFault α × σ) (r : Recorded σ) :
    Except StoreFault α × Recorded σ :=
  let (answer, store) := f r.store
  (answer, ⟨store, r.calls ++ [call]⟩)

instance [Store σ] : Store (Recorded σ) where
  fetchRows statement width := pass (.fetchRows statement width) (Store.fetchRows statement width)
  fetchCount statement := pass (.fetchCount statement) (Store.fetchCount statement)
  execute statement := pass (.execute statement) (Store.execute statement)
  listIndexes table := pass (.listIndexes table) (Store.listIndexes table)
  describeTable table := pass (.describeTable table) (Store.describeTable table)
  listTables start := pass (.listTables start) (Store.listTables start)

end Recorded

namespace Action

variable {s α β : Type} {calls : s → List StoreCall} {P : StoreCall → Prop}

/-- Calls have been added to a record, all of them with a property. -/
def AddsCalls (calls : s → List StoreCall) (P : StoreCall → Prop) (state next : s) : Prop :=
  ∃ new, calls next = calls state ++ new ∧ ∀ call ∈ new, P call

theorem AddsCalls.of_eq {state next : s} (h : calls next = calls state) :
    AddsCalls calls P state next := by
  refine ⟨[], ?_, ?_⟩
  · rw [h, List.append_nil]
  · intro call hcall
    cases hcall

theorem AddsCalls.trans {x y z : s} (h : AddsCalls calls P x y) (h' : AddsCalls calls P y z) :
    AddsCalls calls P x z := by
  obtain ⟨first, hfirst, hP⟩ := h
  obtain ⟨later, hlater, hQ⟩ := h'
  refine ⟨first ++ later, ?_, ?_⟩
  · rw [hlater, hfirst, List.append_assoc]
  · intro call hcall
    rcases List.mem_append.mp hcall with hcall | hcall
    · exact hP call hcall
    · exact hQ call hcall

/-- The calls that the operation adds to a record have a property, whether it fails or not. -/
def CallsOnly (calls : s → List StoreCall) (P : StoreCall → Prop) (a : Action s α) : Prop :=
  ∀ state, ∃ new, calls (a.exec state).2 = calls state ++ new ∧ ∀ call ∈ new, P call

theorem callsOnly_iff_moves {a : Action s α} : a.CallsOnly calls P ↔ a.Moves (AddsCalls calls P) :=
  Iff.rfl

/-- An operation that leaves the record as it is. -/
theorem callsOnly_of_unchanged {a : Action s α} (h : ∀ state, calls (a.exec state).2 = calls state) :
    a.CallsOnly calls P :=
  fun state => AddsCalls.of_eq (h state)

theorem callsOnly_pure (x : α) : (pure x : Action s α).CallsOnly calls P :=
  callsOnly_of_unchanged fun _ => rfl

theorem CallsOnly.bind {a : Action s α} {f : α → Action s β} (ha : a.CallsOnly calls P)
    (hf : ∀ x, (f x).CallsOnly calls P) : (a >>= f).CallsOnly calls P :=
  callsOnly_iff_moves.mpr (Moves.bind AddsCalls.trans (callsOnly_iff_moves.mp ha) hf)

/-- What comes after a check has what was checked. -/
theorem CallsOnly.request_bind {result : Except RequestFault α} {f : α → Action s β}
    (hf : ∀ x, result = .ok x → (f x).CallsOnly calls P) :
    (request result >>= f).CallsOnly calls P :=
  callsOnly_iff_moves.mpr (Moves.request_bind (fun _ => AddsCalls.of_eq rfl) hf)

theorem CallsOnly.attempt {a : Action s α} (h : a.CallsOnly calls P) :
    a.attempt.CallsOnly calls P := by
  intro state
  rw [exec_attempt]
  exact h state

theorem CallsOnly.mono {Q : StoreCall → Prop} {a : Action s α} (h : a.CallsOnly calls P)
    (hPQ : ∀ call, P call → Q call) : a.CallsOnly calls Q := by
  intro state
  obtain ⟨new, hnew, hP⟩ := h state
  exact ⟨new, hnew, fun call hcall => hPQ call (hP call hcall)⟩

/-- A call of a store with a record adds itself to the record. -/
theorem callsOnly_call {σ : Type} {call : StoreCall} {f : σ → Except StoreFault α × σ}
    (h : P call) : (Store.call (Recorded.pass call f)).CallsOnly Recorded.calls P := by
  intro r
  rw [Store.exec_call]
  refine ⟨[call], rfl, ?_⟩
  intro other hother
  rw [List.mem_singleton.mp hother]
  exact h

end Action

open TableQuery.Action

variable {σ : Type} [Store σ]

/-! ## Reads and writes -/

/-- A page is read by a count and a read of rows. -/
theorem readPage_calls (threshold : Binary64) (q : Query) :
    (readPage threshold q : Action (Recorded σ) _).CallsOnly Recorded.calls
      fun call => ∃ rows count, selectBoth q = .ok (rows, count) ∧
        (call = .fetchCount count ∨ call = .fetchRows rows q.columns.length) := by
  apply CallsOnly.request_bind
  rintro ⟨rows, count⟩ hboth
  apply (callsOnly_call ⟨rows, count, hboth, .inl rfl⟩).bind
  intro total
  apply (callsOnly_call ⟨rows, count, hboth, .inr rfl⟩).bind
  intro cells
  exact callsOnly_pure _

/-- Rows are inserted by insertions. -/
theorem insertRows_calls (table : Table) (rows : List (List (String × Json))) :
    (insertRows table rows : Action (Recorded σ) Nat).CallsOnly Recorded.calls
      fun call => ∃ assignments s, insertRow table assignments = .ok s ∧ call = .execute s := by
  induction rows with
  | nil => exact callsOnly_pure 0
  | cons row rest ih =>
    apply CallsOnly.request_bind
    intro values _
    apply CallsOnly.request_bind
    intro statement hstatement
    apply (callsOnly_call ⟨values.assignments, statement, hstatement, rfl⟩).bind
    intro n
    apply ih.bind
    intro more
    exact callsOnly_pure _

/-- An update is one statement. -/
theorem updateMatching_calls (q : Query) (values : WriteValues) :
    (updateMatching q values : Action (Recorded σ) Nat).CallsOnly Recorded.calls
      fun call => ∃ s, updateRows q values.assignments = .ok s ∧ call = .execute s := by
  apply CallsOnly.request_bind
  intro statement hstatement
  exact callsOnly_call ⟨statement, hstatement, rfl⟩

/-- A deletion is one statement. -/
theorem deleteMatching_calls (q : Query) :
    (deleteMatching q : Action (Recorded σ) Nat).CallsOnly Recorded.calls
      fun call => ∃ s, deleteRows q = .ok s ∧ call = .execute s := by
  apply CallsOnly.request_bind
  intro statement hstatement
  exact callsOnly_call ⟨statement, hstatement, rfl⟩

/-! ## Columns and indexes -/

theorem readSpecs_calls (id : String) :
    (Registry.readSpecs id : Action (Recorded σ) _).CallsOnly Recorded.calls
      fun call => call = .describeTable (tableName id) := by
  apply CallsOnly.bind
  · exact callsOnly_of_unchanged fun _ => rfl
  · intro _
    apply CallsOnly.bind
    · exact callsOnly_call rfl
    · intro columns
      split
      · exact callsOnly_of_unchanged fun _ => rfl
      · exact callsOnly_pure _

theorem createMissing_calls (now : Instant) (existing : List StoredIndex) (plans : List IndexPlan)
    (report : AdviceReport) :
    (createMissing now existing report plans : Action (Recorded σ) _).CallsOnly Recorded.calls
      fun call => ∃ p ∈ plans, call = .execute p.statement := by
  induction plans generalizing report with
  | nil => exact callsOnly_pure report
  | cons p rest ih =>
    have hrest (report : AdviceReport) : (createMissing now existing report rest :
        Action (Recorded σ) _).CallsOnly Recorded.calls
          fun call => ∃ p' ∈ p :: rest, call = .execute p'.statement := by
      apply (ih report).mono
      rintro call ⟨p', hp', rfl⟩
      exact ⟨p', List.mem_cons_of_mem p hp', rfl⟩
    unfold createMissing
    split
    · exact hrest _
    · apply CallsOnly.bind
      · exact (callsOnly_call ⟨p, List.mem_cons_self, rfl⟩).attempt
      · intro outcome
        exact hrest _

/-- A table is inspected by its columns and its indexes, and indexes are created. -/
theorem adviseTable_calls (now : Instant) (table : Table) :
    (adviseTable now table : Action (Recorded σ) _).CallsOnly Recorded.calls
      fun call => call = .describeTable table.name ∨ call = .listIndexes table.name ∨
        ∃ p ∈ table.indexPlans, call = .execute p.statement := by
  apply (callsOnly_call (.inl rfl)).bind
  intro columns
  split
  · exact callsOnly_of_unchanged fun _ => rfl
  · apply (callsOnly_call (.inr (.inl rfl))).bind
    intro existing
    apply (createMissing_calls now existing table.indexPlans _).mono
    intro call hcall
    exact .inr (.inr hcall)

end TableQuery
