import TableQuery.Proofs.Cache.Distributed
import TableQuery.Proofs.Engine.Operation
import TableQuery.Proofs.Query.Unfiltered
import TableQuery.Proofs.Store.Recorded
import TableQuery.Proofs.Store.Rows

/-!
# Rows are changed by a condition

Whatever an engine does, a statement that changes or removes rows comes from a request with a
filter, and a condition of this filter on a column of the table stands in the statement.

* `EngineStep`, `Engine.afterSteps`: everything that an engine can be told, and runs of it.
* `Statement.changesRows`: updates and deletions.
* `Engine.SentFor`: a statement comes from the filter of a request.
* `unfiltered_writes_not_sent`: queries that mean every row, and the statements of runs.
-/

namespace TableQuery

/-! ## Statements that change rows -/

/-- The statement is an update or a deletion. -/
def Statement.changesRows (s : Statement) : Bool :=
  beginsWith "UPDATE " s.sql || beginsWith "DELETE " s.sql

/-- The call has the store run an update or a deletion. -/
def StoreCall.changesRows : StoreCall → Bool
  | .execute s => s.changesRows
  | _ => false

/-- A text does not begin with another one whose first character is different. -/
theorem beginsWith_eq_false {start text : String} {c d : Char} {cs ds : List Char}
    (hstart : start.toList = c :: cs) (htext : text.toList = d :: ds) (hne : c ≠ d) :
    beginsWith start text = false := by
  unfold beginsWith
  rw [hstart, htext]
  simp [List.isPrefixOf, hne]

theorem changesRows_eq_false {s : Statement} {c : Char} {cs : List Char}
    (h : s.sql.toList = c :: cs) (hupdate : 'U' ≠ c) (hdelete : 'D' ≠ c) :
    s.changesRows = false := by
  have hU : "UPDATE ".toList = 'U' :: "PDATE ".toList := by decide +kernel
  have hD : "DELETE ".toList = 'D' :: "ELETE ".toList := by decide +kernel
  unfold Statement.changesRows
  rw [beginsWith_eq_false hU h hupdate, beginsWith_eq_false hD h hdelete]
  rfl

theorem insertRow_changesRows {table : Table} {assignments : List (String × Param)} {s : Statement}
    (h : insertRow table assignments = .ok s) : s.changesRows = false := by
  cases (insertRow_eq table assignments).symm.trans h
  have hI : "INSERT INTO ".toList = 'I' :: "NSERT INTO ".toList := by decide +kernel
  have hsql : ∃ cs, (insertText table assignments).toList = 'I' :: cs := by
    unfold insertText
    simp only [String.toList_append, List.append_assoc]
    rw [hI, List.cons_append]
    exact ⟨_, rfl⟩
  obtain ⟨cs, hcs⟩ := hsql
  exact changesRows_eq_false hcs (by decide) (by decide)

theorem indexStatement_changesRows (p : IndexPlan) : p.statement.changesRows = false := by
  have hC : "CREATE INDEX IF NOT EXISTS ".toList = 'C' :: "REATE INDEX IF NOT EXISTS ".toList := by
    decide +kernel
  have hsql : ∃ cs, p.statement.sql.toList = 'C' :: cs := by
    unfold IndexPlan.statement
    simp only [String.toList_append, List.append_assoc]
    rw [hC, List.cons_append]
    exact ⟨_, rfl⟩
  obtain ⟨cs, hcs⟩ := hsql
  exact changesRows_eq_false hcs (by decide) (by decide)

/-! ## Runs -/

/-- What an engine can be told: an operation, or something about columns in the store, indexes or
its end. -/
inductive EngineStep where
  | operation (op : EngineOperation)
  | registerFromStore (id : String)
  | advise (id : String)
  | finishInspections
  | close

section

variable {σ ρ : Type}

/-- Does what the engine is told. -/
def EngineStep.perform [Store σ] [DistributedTier ρ] (now : Instant) :
    EngineStep → Action (Engine σ ρ) Unit
  | operation op => do let _ ← op.perform now
  | registerFromStore id => do let _ ← Engine.registerFromStore now id
  | advise id => do let _ ← Engine.advise now id
  | finishInspections => Engine.finishInspections now
  | close => Engine.onCache (.lift fun c => ((), c.close))

/-- The engine after steps. -/
def Engine.afterSteps [Store σ] [DistributedTier ρ] :
    List (Instant × EngineStep) → Engine σ ρ → Engine σ ρ
  | [], e => e
  | (now, step) :: rest, e => afterSteps rest ((step.perform now).exec e).2

/-- The filter of an update or a deletion. -/
def WriteRequest.filter? : WriteRequest → Option Json
  | .insert _ => none
  | .update filter _ => some filter
  | .delete filter => some filter

/-- The statement comes from the filter of an update or a deletion: it carries a condition, and a
condition of the filter on a column of the table stands in it, after a `WHERE`. -/
def Engine.SentFor (e : Engine σ ρ) (step : EngineStep) (s : Statement) : Prop :=
  s.hasCondition? = some true ∧
    ∃ id request filter table q filters c column cmp head text,
      step = .operation (.write id request) ∧ request.filter? = some filter ∧
        e.registry.get id = .ok table ∧
          Query.compile e.config.query.maxInList table filter .first = .ok q ∧
            Filter.ofJson? filter = .ok filters ∧ c ∈ Filter.conditionsOfAll filters ∧
              table.column? c.field = some column ∧
                compareColumn (max e.config.query.maxInList 1) column c.operator c.value = .ok cmp ∧
                  s.sql = head ++ " WHERE " ++ text ∧ IsWithin (q.plan.textOf cmp) text

end

/-! ## The calls of each step -/

namespace Engine

variable {σ ρ α : Type}

/-- The calls that the store of an engine got. -/
def storeCalls (e : Engine (Recorded σ) ρ) : List StoreCall := e.store.calls

/-- The operation makes no call that changes rows. -/
def LeavesRows (a : Action (Engine (Recorded σ) ρ) α) : Prop :=
  a.CallsOnly storeCalls fun call => call.changesRows = false

theorem leavesRows_of_unchanged {a : Action (Engine (Recorded σ) ρ) α}
    (h : ∀ e, (a.exec e).2.store = e.store) : LeavesRows a := by
  apply Action.callsOnly_of_unchanged
  intro e
  unfold storeCalls
  rw [h e]

theorem leavesRows_onStore {a : Action (Recorded σ) α}
    (h : a.CallsOnly Recorded.calls fun call => call.changesRows = false) :
    LeavesRows (onStore a : Action (Engine (Recorded σ) ρ) α) := fun e => h e.store

variable [Store σ]

/-! ### Reads -/

/-- A read changes no rows. -/
theorem reading_leavesRows :
    Reading (σ := Recorded σ) (ρ := ρ)
      (Action.AddsCalls storeCalls fun call => call.changesRows = false) where
  trans := Action.AddsCalls.trans
  readPage threshold q := by
    apply leavesRows_onStore
    apply (readPage_calls threshold q).mono
    rintro call ⟨rows, count, -, rfl | rfl⟩
    · rfl
    · rfl
  cache _ _ := .of_eq rfl
  rowCount _ _ _ := .of_eq rfl
  inspections _ _ _ := .of_eq rfl

variable [DistributedTier ρ]

/-- A query counts and reads. -/
theorem query_leavesRows (now : Instant) (id : String) (filter : Json) (page limit : Nat) :
    LeavesRows (query now id filter page limit : Action (Engine (Recorded σ) ρ) _) :=
  reading_leavesRows.query now id filter page limit

/-! ### Datasets and indexes -/

omit [Store σ] in
theorem register_leavesRows (now : Instant) (id : String) (specs : List ColumnSpec) :
    LeavesRows (register now id specs : Action (Engine (Recorded σ) ρ) _) := by
  apply leavesRows_of_unchanged
  intro e
  rw [register_exec]
  cases e.registry.register id specs with
  | error fault => rfl
  | ok out =>
    obtain ⟨table, registration, registry⟩ := out
    simp only
    split <;> rfl

omit [Store σ] in
theorem drop_leavesRows (now : Instant) (id : String) :
    LeavesRows (drop now id : Action (Engine (Recorded σ) ρ) Bool) := by
  apply leavesRows_of_unchanged
  intro e
  rw [drop_exec]
  cases e.registry.drop id with
  | error fault => rfl
  | ok out =>
    obtain ⟨found, registry⟩ := out
    simp only
    split <;> rfl

theorem registerFromStore_leavesRows (now : Instant) (id : String) :
    LeavesRows (registerFromStore now id : Action (Engine (Recorded σ) ρ) _) := by
  apply Action.CallsOnly.bind
  · apply leavesRows_onStore
    apply (readSpecs_calls id).mono
    rintro call rfl
    rfl
  · intro specs
    exact register_leavesRows now id specs

omit [DistributedTier ρ] in
theorem onStore_adviseTable_leavesRows (now : Instant) (table : Table) :
    LeavesRows (onStore (adviseTable now table) : Action (Engine (Recorded σ) ρ) _) := by
  apply leavesRows_onStore
  apply (adviseTable_calls now table).mono
  rintro call (rfl | rfl | ⟨p, -, rfl⟩)
  · rfl
  · rfl
  · exact indexStatement_changesRows p

omit [DistributedTier ρ] in
theorem advise_leavesRows (now : Instant) (id : String) :
    LeavesRows (advise now id : Action (Engine (Recorded σ) ρ) _) := by
  apply Action.CallsOnly.bind
  · exact leavesRows_of_unchanged fun _ => rfl
  intro table
  apply (onStore_adviseTable_leavesRows now table).attempt.bind
  intro outcome
  apply Action.CallsOnly.bind
  · exact leavesRows_of_unchanged fun _ => rfl
  intro _
  exact leavesRows_of_unchanged fun _ => rfl

omit [DistributedTier ρ] in
theorem inspect_leavesRows (now : Instant) (table : Table) :
    LeavesRows (inspect now table : Action (Engine (Recorded σ) ρ) Unit) := by
  apply (onStore_adviseTable_leavesRows now table).attempt.bind
  intro outcome
  exact leavesRows_of_unchanged fun _ => rfl

omit [DistributedTier ρ] in
theorem finishInspections_leavesRows (now : Instant) :
    LeavesRows (finishInspections now : Action (Engine (Recorded σ) ρ) Unit) := by
  have hall (tables : List Table) :
      LeavesRows (tables.forM (inspect now) : Action (Engine (Recorded σ) ρ) Unit) := by
    induction tables with
    | nil => exact Action.callsOnly_pure _
    | cons table rest ih =>
      apply (inspect_leavesRows now table).bind
      intro _
      exact ih
  intro e
  exact hall e.inspections { e with inspections := [] }

/-! ### Writes -/

omit [Store σ] [DistributedTier ρ] in
theorem compileFiltered_eq_ok {n : Nat} {table : Table} {filter : Json} {unfiltered : RequestFault}
    {q : Query} (h : Query.compileFiltered n table filter unfiltered = .ok q) :
    Query.compile n table filter .first = .ok q ∧ q.isUnfiltered = false := by
  obtain ⟨q', hcompile, h⟩ := bind_eq_ok.mp h
  split at h
  · cases h
  · rename_i hfiltered
    cases h
    exact ⟨hcompile, by simpa using hfiltered⟩

omit [DistributedTier ρ] in
/-- A planned write changes rows by updates and deletions of a filter that does not mean every
row. -/
theorem plan_calls {n : Nat} {table : Table} {request : WriteRequest}
    {write : Action (Recorded σ) Nat} {dropped : List String}
    (h : request.plan n table = .ok (write, dropped)) :
    write.CallsOnly Recorded.calls fun call => call.changesRows = true →
      ∃ s filter q, call = .execute s ∧ request.filter? = some filter ∧
        Query.compile n table filter .first = .ok q ∧ q.isUnfiltered = false ∧
          (deleteRows q = .ok s ∨ ∃ assignments, updateRows q assignments = .ok s) := by
  cases request with
  | insert rows =>
    obtain ⟨checked, -, h⟩ := bind_eq_ok.mp h
    cases h
    apply (insertRows_calls table checked.1).mono
    rintro call ⟨assignments, s, hs, rfl⟩ hchanges
    have hleaves : s.changesRows = true := hchanges
    rw [insertRow_changesRows hs] at hleaves
    cases hleaves
  | update filter values =>
    obtain ⟨q, hq, h⟩ := bind_eq_ok.mp h
    obtain ⟨fields, -, h⟩ := bind_eq_ok.mp h
    obtain ⟨values, -, h⟩ := bind_eq_ok.mp h
    cases h
    obtain ⟨hcompile, hfiltered⟩ := compileFiltered_eq_ok hq
    apply (updateMatching_calls q values).mono
    rintro call ⟨s, hs, rfl⟩ -
    exact ⟨s, filter, q, rfl, rfl, hcompile, hfiltered, .inr ⟨_, hs⟩⟩
  | delete filter =>
    obtain ⟨q, hq, h⟩ := bind_eq_ok.mp h
    cases h
    obtain ⟨hcompile, hfiltered⟩ := compileFiltered_eq_ok hq
    apply (deleteMatching_calls q).mono
    rintro call ⟨s, hs, rfl⟩ -
    exact ⟨s, filter, q, rfl, rfl, hcompile, hfiltered, .inl hs⟩

/-- The store gets the updates and deletions of a write for its filter. -/
theorem write_calls (now : Instant) (id : String) (request : WriteRequest)
    (e : Engine (Recorded σ) ρ) :
    ∃ new, ((request.perform now id).exec e).2.storeCalls = e.storeCalls ++ new ∧
      ∀ s, .execute s ∈ new → s.changesRows = true →
        e.SentFor (.operation (.write id request)) s := by
  have hnone : ∃ new, e.storeCalls = e.storeCalls ++ new ∧ ∀ s, .execute s ∈ new →
      s.changesRows = true → e.SentFor (.operation (.write id request)) s := by
    refine ⟨[], (List.append_nil _).symm, ?_⟩
    intro s hs
    cases hs
  rw [WriteRequest.perform_exec]
  cases htable : e.registry.get id with
  | error fault => exact hnone
  | ok table =>
    simp only
    cases hplan : (request.plan e.config.query.maxInList table :
        Except RequestFault (Action (Recorded σ) Nat × List String)) with
    | error fault => exact hnone
    | ok planned =>
      obtain ⟨write, dropped⟩ := planned
      obtain ⟨new, hnew, hcalls⟩ := plan_calls hplan e.store
      refine ⟨new, hnew, ?_⟩
      intro s hs hchanges
      obtain ⟨s', filter, q, heq, hfilter, hcompile, hfiltered, hstates⟩ :=
        hcalls (.execute s) hs hchanges
      cases heq
      obtain ⟨filters, c, column, cmp, head, text, hfilters, hc, hcolumn, hcmp, hsql, hwithin⟩ :=
        compile_write_shows hcompile hfiltered hstates
      have hcondition : s.hasCondition? = some true := by
        have hbuilt : q.States s := by
          rcases hstates with hs | ⟨assignments, hs⟩
          · exact .delete hs
          · exact .update assignments hs
        rw [compile_hasCondition? hcompile hbuilt, hfiltered]
        rfl
      exact ⟨hcondition, id, request, filter, table, q, filters, c, column, cmp, head, text, rfl,
        hfilter, htable, hcompile, hfilters, hc, hcolumn, hcmp, hsql, hwithin⟩

/-! ## The calls of runs -/

omit [Store σ] [DistributedTier ρ] in
/-- Calls that change no rows need no filter. -/
theorem sentFor_of_leavesRows {a : Action (Engine (Recorded σ) ρ) α} (h : LeavesRows a)
    (e : Engine (Recorded σ) ρ) (step : EngineStep) :
    ∃ new, (a.exec e).2.storeCalls = e.storeCalls ++ new ∧
      ∀ s, .execute s ∈ new → s.changesRows = true → e.SentFor step s := by
  obtain ⟨new, hnew, hleaves⟩ := h e
  refine ⟨new, hnew, ?_⟩
  intro s hs hchanges
  have hnot : s.changesRows = false := hleaves _ hs
  rw [hnot] at hchanges
  cases hchanges

/-- A step has the store change rows for a filter only. -/
theorem step_calls (now : Instant) (step : EngineStep) (e : Engine (Recorded σ) ρ) :
    ∃ new, ((step.perform now).exec e).2.storeCalls = e.storeCalls ++ new ∧
      ∀ s, .execute s ∈ new → s.changesRows = true → e.SentFor step s := by
  cases step with
  | operation op =>
    have hdiscard : ((EngineStep.perform now (.operation op)).exec e).2 =
        ((op.perform now).exec e).2 := by
      show (Action.exec (op.perform now >>= fun _ => pure ()) e).2 = _
      rw [Action.exec_bind]
      cases (op.perform now).exec e with
      | mk result d => cases result <;> rfl
    rw [hdiscard]
    cases op with
    | register id specs =>
      rw [EngineOperation.perform, Action.exec_map]
      exact sentFor_of_leavesRows (register_leavesRows now id specs) e _
    | drop id =>
      rw [EngineOperation.perform, Action.exec_map]
      exact sentFor_of_leavesRows (drop_leavesRows now id) e _
    | query id filter page limit =>
      rw [EngineOperation.perform, Action.exec_map]
      exact sentFor_of_leavesRows (query_leavesRows now id filter page limit) e _
    | write id request =>
      rw [EngineOperation.perform, Action.exec_map]
      exact write_calls now id request e
  | registerFromStore id =>
    apply sentFor_of_leavesRows
    apply (registerFromStore_leavesRows now id).bind
    intro _
    exact Action.callsOnly_pure _
  | advise id =>
    apply sentFor_of_leavesRows
    apply (advise_leavesRows now id).bind
    intro _
    exact Action.callsOnly_pure _
  | finishInspections => exact sentFor_of_leavesRows (finishInspections_leavesRows now) e _
  | close =>
    apply sentFor_of_leavesRows
    exact leavesRows_of_unchanged fun _ => rfl

/-- In a run, the store changes rows for the filter of one of its steps. -/
theorem run_calls (run : List (Instant × EngineStep)) (e : Engine (Recorded σ) ρ) :
    ∃ new, (e.afterSteps run).storeCalls = e.storeCalls ++ new ∧
      ∀ s, .execute s ∈ new → s.changesRows = true →
        ∃ before now step after, run = before ++ (now, step) :: after ∧
          (e.afterSteps before).SentFor step s := by
  induction run generalizing e with
  | nil =>
    refine ⟨[], (List.append_nil _).symm, ?_⟩
    intro s hs
    cases hs
  | cons entry rest ih =>
    obtain ⟨now, step⟩ := entry
    obtain ⟨first, hfirst, hhere⟩ := step_calls now step e
    obtain ⟨later, hlater, hthere⟩ := ih ((step.perform now).exec e).2
    refine ⟨first ++ later, ?_, ?_⟩
    · show (afterSteps rest ((step.perform now).exec e).2).storeCalls = _
      rw [hlater, hfirst, List.append_assoc]
    · intro s hs hchanges
      rcases List.mem_append.mp hs with hs | hs
      · exact ⟨[], now, step, rest, rfl, hhere s hs hchanges⟩
      · obtain ⟨before, now', step', after, rfl, hsent⟩ := hthere s hs hchanges
        exact ⟨(now, step) :: before, now', step', after, rfl, hsent⟩

/-- A query means every row if its filter names no column of the table, at any depth, and then its
statements carry no condition; otherwise all of them carry one. Whatever an engine is told, an
update or a deletion that its store gets comes from a request with a filter, and a condition of
this filter on a column of the table stands in it, after a `WHERE`. -/
theorem unfiltered_writes_not_sent :
    (∀ (n : Nat) (table : Table) (filter : Json) (page : PageRequest) (q : Query),
      Query.compile n table filter page = .ok q →
        (q.isUnfiltered = true ↔ ∀ name ∈ filter.namedFields, table.column? name = none) ∧
          ∀ s, q.States s → s.hasCondition? = some (!q.isUnfiltered)) ∧
      ∀ (run : List (Instant × EngineStep)) (e : Engine (Recorded σ) ρ),
        ∃ new, (e.afterSteps run).storeCalls = e.storeCalls ++ new ∧
          ∀ s, .execute s ∈ new → s.changesRows = true →
            ∃ before now step after, run = before ++ (now, step) :: after ∧
              (e.afterSteps before).SentFor step s := by
  constructor
  · intro n table filter page q hq
    refine ⟨compile_isUnfiltered_iff hq, ?_⟩
    intro s hs
    exact compile_hasCondition? hq hs
  · intro run e
    exact run_calls run e

/-- Nothing, a field that the table does not have, or the region of the north. -/
def northOrGhost : Json := .object [("$or", .array [
  .object [], .object [("ghost", .int 1)], .object [("region", .string "north")]])]

/-- A filter without a condition on a column. -/
def ghostOnly : Json := .object [("$and", .array [.object [("ghost", .int 1)], .object []])]

/-- Sales are registered and removed, first by no condition and then by one. -/
def removals : List (Instant × EngineStep) := [
  (⟨0⟩, .operation (.register saleTable.datasetId [⟨"region", "string", none⟩])),
  (⟨1⟩, .operation (.write saleTable.datasetId (.delete ghostOnly))),
  (⟨2⟩, .operation (.write saleTable.datasetId (.delete northOrGhost)))]

theorem unfiltered_writes_not_sent_removals :
    let e : Engine (Recorded RowStore) SwitchableTier :=
      start .default (.make .default ⟨0⟩ .empty true) ⟨.empty, []⟩
    (∃ q, Query.compile 1000 saleTable ghostOnly .first = .ok q ∧ q.isUnfiltered = true) ∧
      ∃ s, (e.afterSteps removals).storeCalls = [.execute s] ∧ s.changesRows = true ∧
        s.hasCondition? = some true := by
  intro e
  obtain ⟨hqueries, hruns⟩ := @unfiltered_writes_not_sent RowStore SwitchableTier _ _
  constructor
  · obtain ⟨q, hq⟩ : ∃ q, Query.compile 1000 saleTable ghostOnly .first = .ok q :=
      exists_eq_ok (by decide +kernel)
    refine ⟨q, hq, (hqueries 1000 saleTable ghostOnly .first q hq).1.mpr ?_⟩
    decide +kernel
  · have hcalls : (e.afterSteps removals).storeCalls = [.execute
        ⟨"DELETE FROM \"data_00000000000000000000000000000000\" WHERE \"region\" = ?",
          [.text "north"]⟩] := by
      decide +kernel
    refine ⟨_, hcalls, by decide +kernel, ?_⟩
    obtain ⟨new, hnew, hsent⟩ := hruns removals e
    rw [hcalls] at hnew
    have hmem := hnew ▸ List.mem_singleton_self _
    obtain ⟨before, now, step, after, -, hcondition, -⟩ := hsent _ hmem (by decide +kernel)
    exact hcondition

end Engine

end TableQuery
