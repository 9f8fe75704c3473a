import TableQuery.Proofs.Advice.Plan
import TableQuery.Proofs.Store.Recorded

/-!
# What a report accounts for

The advice on a table tries to create the planned indexes that are not there, each of them once
and all of them, whatever the store answers. Its report has every planned index exactly once.

* `tryAll`: indexes tried one after the other, each with the store's answer.
* `adviseTable_exec`: the advice on a table in terms of the store's answers.
* `AdviceReport.Accounts`: what a report says of the planned indexes.
* `adviseTable_accounts`: every report accounts for the planned indexes, and an advice that comes
  later leaves those alone that were created or were there.
-/

namespace TableQuery

/-! ## Indexes that are there -/

namespace IndexPlan

variable {p : IndexPlan} {existing listed : List StoredIndex}

theorem isCovered_mono (h : existing ⊆ listed) (hp : p.isCovered existing = true) :
    p.isCovered listed = true := by
  obtain ⟨index, hindex, hcovers⟩ := List.any_eq_true.mp hp
  exact List.any_eq_true.mpr ⟨index, h hindex, hcovers⟩

theorem isCovered_of_name (h : ∃ index ∈ existing, index.name = p.name) :
    p.isCovered existing = true := by
  obtain ⟨index, hindex, hname⟩ := h
  exact List.any_eq_true.mpr ⟨index, hindex, by simp [hname]⟩

end IndexPlan

namespace Table

/-- The planned indexes that are there. -/
def coveredPlans (t : Table) (existing : List StoredIndex) : List IndexPlan :=
  t.indexPlans.filter (·.isCovered existing)

/-- The planned indexes that are not there. -/
def missingPlans (t : Table) (existing : List StoredIndex) : List IndexPlan :=
  t.indexPlans.filter (!·.isCovered existing)

end Table

/-! ## Tries -/

/-- An index that was tried, and the store's answer. -/
abbrev IndexTry := IndexPlan × Except StoreFault Nat

/-- The indexes that were created. -/
def createdOf (tried : List IndexTry) : List IndexPlan :=
  tried.filterMap fun
    | (p, .ok _) => some p
    | (_, .error _) => none

/-- The indexes that could not be created, each with what the store said. -/
def failedOf (tried : List IndexTry) : List (IndexPlan × StoreFault) :=
  tried.filterMap fun
    | (_, .ok _) => none
    | (p, .error fault) => some (p, fault)

/-- Each index that was tried was created or failed. -/
theorem createdOf_append_failedOf_perm (tried : List IndexTry) :
    (createdOf tried ++ (failedOf tried).map (·.1)).Perm (tried.map (·.1)) := by
  induction tried with
  | nil => rfl
  | cons attempt rest ih =>
    obtain ⟨p, answer⟩ := attempt
    cases answer with
    | ok n => exact ih.cons p
    | error fault => exact List.perm_middle.trans (ih.cons p)

theorem createdOf_sublist (tried : List IndexTry) :
    (createdOf tried).Sublist (tried.map (·.1)) := by
  induction tried with
  | nil => rfl
  | cons attempt rest ih =>
    obtain ⟨p, answer⟩ := attempt
    cases answer with
    | ok n => exact ih.cons_cons p
    | error fault => exact ih.cons p

theorem failedOf_sublist (tried : List IndexTry) :
    ((failedOf tried).map (·.1)).Sublist (tried.map (·.1)) := by
  induction tried with
  | nil => rfl
  | cons attempt rest ih =>
    obtain ⟨p, answer⟩ := attempt
    cases answer with
    | ok n => exact ih.cons p
    | error fault => exact ih.cons_cons p

section

variable {σ : Type} [Store σ]

/-- Tries to create indexes one after the other. -/
def tryAll : List IndexPlan → σ → List IndexTry × σ
  | [], store => ([], store)
  | p :: rest, store =>
    let (answer, next) := Store.execute p.statement store
    let (tried, last) := tryAll rest next
    ((p, answer) :: tried, last)

/-- A failure does not keep the later indexes from being tried. -/
theorem tryAll_plans (plans : List IndexPlan) (store : σ) :
    (tryAll plans store).1.map (·.1) = plans := by
  induction plans generalizing store with
  | nil => rfl
  | cons p rest ih => exact congrArg (p :: ·) (ih _)

theorem tryAll_calls (plans : List IndexPlan) (store : Recorded σ) :
    (tryAll plans store).2.calls =
      store.calls ++ plans.map fun p => .execute p.statement := by
  induction plans generalizing store with
  | nil => exact (List.append_nil _).symm
  | cons p rest ih =>
    refine (ih _).trans ?_
    rw [List.map_cons, ← List.append_cons]

/-! ## The report -/

namespace AdviceReport

/-- Notes the indexes that are there and those that were tried. -/
def add (r : AdviceReport) (now : Instant) (covered : List IndexPlan) (tried : List IndexTry) :
    AdviceReport := { r with
  created := r.created ++ (createdOf tried).map fun p => ⟨p, now⟩
  skipped := r.skipped ++ covered.map (·.name)
  errors := r.errors ++ (failedOf tried).map fun f => (f.1.name, .store f.2) }

theorem skip_add (r : AdviceReport) (now : Instant) (p : IndexPlan) (covered : List IndexPlan)
    (tried : List IndexTry) :
    (r.skip p).add now covered tried = r.add now (p :: covered) tried := by
  simp [add, skip]

theorem note_add (r : AdviceReport) (now : Instant) (attempt : IndexTry)
    (covered : List IndexPlan) (tried : List IndexTry) :
    (r.note now attempt.1 (attempt.2.mapError .store)).add now covered tried =
      r.add now covered (attempt :: tried) := by
  obtain ⟨p, answer⟩ := attempt
  cases answer <;> simp [add, note, Except.mapError, createdOf, failedOf]

end AdviceReport

theorem createMissing_exec (now : Instant) (existing : List StoredIndex) (report : AdviceReport)
    (plans : List IndexPlan) (store : σ) :
    (createMissing now existing report plans).exec store =
      let tried := tryAll (plans.filter (!·.isCovered existing)) store
      (.ok (report.add now (plans.filter (·.isCovered existing)) tried.1), tried.2) := by
  induction plans generalizing report store with
  | nil =>
    simp [createMissing, AdviceReport.add, tryAll, createdOf, failedOf]
  | cons p rest ih =>
    unfold createMissing
    cases hcovered : p.isCovered existing with
    | true =>
      rw [if_pos rfl, ih]
      simp only [List.filter_cons, hcovered, Bool.not_true, Bool.false_eq_true, if_false, if_true,
        AdviceReport.skip_add]
    | false =>
      rw [if_neg Bool.false_ne_true, Action.exec_bind, Action.exec_attempt, Store.exec_call]
      simp only [ih, List.filter_cons, hcovered, Bool.not_false, if_true, Bool.false_eq_true,
        if_false]
      refine Prod.ext ?_ rfl
      exact congrArg Except.ok (AdviceReport.note_add report now (p, _) _ _)

/-- The advice on a table: it must be there, its indexes are listed, and those that are not there
are tried. -/
theorem adviseTable_exec (now : Instant) (table : Table) (store : σ) :
    (adviseTable now table).exec store =
      match Store.describeTable table.name store with
      | (.error fault, next) => (.error (.store fault), next)
      | (.ok columns, next) =>
        if columns.isEmpty then (.error (.notFound ("table " ++ table.name)), next)
        else match Store.listIndexes table.name next with
          | (.error fault, opened) => (.error (.store fault), opened)
          | (.ok existing, opened) =>
            let tried := tryAll (table.missingPlans existing) opened
            (.ok ((AdviceReport.start table.name).add now (table.coveredPlans existing) tried.1),
              tried.2) := by
  unfold adviseTable
  rw [Action.exec_bind, Store.exec_call]
  obtain ⟨columns, next⟩ := Store.describeTable table.name store
  cases columns with
  | error fault => rfl
  | ok columns =>
    simp only [Except.mapError]
    split
    · rfl
    · rw [Action.exec_bind, Store.exec_call]
      obtain ⟨existing, opened⟩ := Store.listIndexes table.name next
      cases existing with
      | error fault => rfl
      | ok existing => exact createMissing_exec now existing _ table.indexPlans opened

/-! ## What was done -/

/-- What the store answers when it is asked for the indexes of a table that is there. -/
def indexListing (table : String) (store : σ) : Except StoreFault (List StoredIndex) × σ :=
  Store.listIndexes table (Store.describeTable table store).2

theorem indexListing_calls (table : String) (store : Recorded σ) :
    (indexListing table store).2.calls =
      store.calls ++ [.describeTable table, .listIndexes table] := by
  rw [List.append_cons]
  rfl

/-- An advice that ends with a report has listed the indexes and tried those that are not there. -/
theorem adviseTable_eq_ok {now : Instant} {table : Table} {store after : σ} {report : AdviceReport}
    (h : (adviseTable now table).exec store = (.ok report, after)) :
    ∃ existing opened tried, indexListing table.name store = (.ok existing, opened) ∧
      tryAll (table.missingPlans existing) opened = (tried, after) ∧
      report = (AdviceReport.start table.name).add now (table.coveredPlans existing) tried := by
  rw [adviseTable_exec] at h
  unfold indexListing
  generalize Store.describeTable table.name store = described at h ⊢
  obtain ⟨columns, next⟩ := described
  cases columns with
  | error fault => cases h
  | ok columns =>
    simp only at h ⊢
    split at h
    · cases h
    · generalize Store.listIndexes table.name next = answered at h ⊢
      obtain ⟨existing, opened⟩ := answered
      cases existing with
      | error fault => cases h
      | ok existing =>
        cases h
        exact ⟨existing, opened, _, rfl, rfl, rfl⟩

/-- Whatever becomes of an advice, it only tries indexes that the store does not list. -/
theorem adviseTable_executes (now : Instant) (table : Table) (store : Recorded σ) :
    ∃ new, ((adviseTable now table).exec store).2.calls = store.calls ++ new ∧
      ∀ s, .execute s ∈ new → ∃ listed, (indexListing table.name store).1 = .ok listed ∧
        ∃ p ∈ table.missingPlans listed, s = p.statement := by
  rw [adviseTable_exec]
  have hdescribe : (Store.describeTable table.name store).2.calls =
      store.calls ++ [.describeTable table.name] := rfl
  have hlist := indexListing_calls table.name store
  unfold indexListing at hlist ⊢
  generalize Store.describeTable table.name store = described at hdescribe hlist ⊢
  obtain ⟨columns, next⟩ := described
  cases columns with
  | error fault => exact ⟨_, hdescribe, by simp⟩
  | ok columns =>
    simp only at hlist ⊢
    split
    · exact ⟨_, hdescribe, by simp⟩
    · generalize Store.listIndexes table.name next = answered at hlist ⊢
      obtain ⟨existing, opened⟩ := answered
      cases existing with
      | error fault => exact ⟨_, hlist, by simp⟩
      | ok existing =>
        refine ⟨_, (tryAll_calls _ _).trans (by rw [hlist, List.append_assoc]), fun s hs => ?_⟩
        obtain ⟨p, hp, rfl⟩ : ∃ p ∈ table.missingPlans existing, p.statement = s := by
          simpa using hs
        exact ⟨existing, rfl, p, hp, rfl⟩

/-! ## The accounts -/

/-- A report accounts for the planned indexes of a table, given the indexes that were there and
those that were tried. -/
structure AdviceReport.Accounts (r : AdviceReport) (t : Table) (existing : List StoredIndex)
    (tried : List IndexTry) : Prop where
  /-- Exactly the indexes that are not there were tried, in the order of the plan. -/
  missing : tried.map (·.1) = t.missingPlans existing
  created : r.created.map (·.plan) = createdOf tried
  skipped : r.skipped = (t.coveredPlans existing).map (·.name)
  errors : r.errors = (failedOf tried).map fun f => (f.1.name, .store f.2)
  /-- No index is planned twice. -/
  apart : t.indexPlans.Nodup
  /-- Each planned index was created, was there or failed, and only one of these. -/
  parted : (createdOf tried ++ t.coveredPlans existing ++ (failedOf tried).map (·.1)).Perm
    t.indexPlans
  createdInOrder : (createdOf tried).Sublist t.indexPlans
  skippedInOrder : (t.coveredPlans existing).Sublist t.indexPlans
  failedInOrder : ((failedOf tried).map (·.1)).Sublist t.indexPlans
  /-- The names of the report are the names of the plan. -/
  names : (r.created.map (·.plan.name) ++ r.skipped ++ r.errors.map (·.1)).Perm
    (t.indexPlans.map (·.name))

open scoped List in
/-- The planned indexes are those that were tried and those that are there. -/
theorem perm_of_tried {t : Table} {existing : List StoredIndex} {tried : List IndexTry}
    (h : tried.map (·.1) = t.missingPlans existing) :
    (createdOf tried ++ t.coveredPlans existing ++ (failedOf tried).map (·.1)).Perm
      t.indexPlans := by
  have htried := createdOf_append_failedOf_perm tried
  rw [h] at htried
  calc createdOf tried ++ t.coveredPlans existing ++ (failedOf tried).map (·.1)
    _ = createdOf tried ++ (t.coveredPlans existing ++ (failedOf tried).map (·.1)) :=
      List.append_assoc _ _ _
    _ ~ createdOf tried ++ ((failedOf tried).map (·.1) ++ t.coveredPlans existing) :=
      List.perm_append_comm.append_left _
    _ = createdOf tried ++ (failedOf tried).map (·.1) ++ t.coveredPlans existing :=
      (List.append_assoc _ _ _).symm
    _ ~ t.missingPlans existing ++ t.coveredPlans existing := htried.append_right _
    _ ~ t.coveredPlans existing ++ t.missingPlans existing := List.perm_append_comm
    _ ~ t.indexPlans := List.filter_append_perm _ _

theorem accounts_add {t : Table} {existing : List StoredIndex} {tried : List IndexTry}
    (hproper : t.IsProper) (now : Instant) (h : tried.map (·.1) = t.missingPlans existing) :
    ((AdviceReport.start t.name).add now (t.coveredPlans existing) tried).Accounts t existing
      tried where
  missing := h
  created := by
    simp [AdviceReport.add, AdviceReport.start, List.map_map, Function.comp_def]
  skipped := rfl
  errors := rfl
  apart := indexPlans_nodup hproper
  parted := perm_of_tried h
  createdInOrder := (createdOf_sublist tried).trans (h.symm ▸ List.filter_sublist)
  skippedInOrder := List.filter_sublist
  failedInOrder := (failedOf_sublist tried).trans (h.symm ▸ List.filter_sublist)
  names := by
    have hparted := (perm_of_tried h).map (·.name)
    simpa [AdviceReport.add, AdviceReport.start, Function.comp_def] using hparted

/-- **Every report accounts for the plan.** The planned indexes that the store does not list are
tried, once each, whatever the answers are. A later advice, with what was created in the list, does
not try again what was created or was there. -/
theorem adviseTable_accounts {id : String} {specs : List ColumnSpec} {table : Table}
    (hdeclared : Table.declare id specs = .ok table) {now : Instant} {store after : Recorded σ}
    {report : AdviceReport} (h : (adviseTable now table).exec store = (.ok report, after)) :
    ∃ existing opened tried, indexListing table.name store = (.ok existing, opened) ∧
      tryAll (table.missingPlans existing) opened = (tried, after) ∧
      report.Accounts table existing tried ∧
      after.calls = store.calls ++ .describeTable table.name :: .listIndexes table.name ::
        (table.missingPlans existing).map (.execute ·.statement) ∧
      ∀ (later : Instant) (again : Recorded σ),
        (∀ listed, (indexListing table.name again).1 = .ok listed →
          existing ⊆ listed ∧ ∀ c ∈ report.created, ∃ index ∈ listed, index.name = c.plan.name) →
        ∃ new, ((adviseTable later table).exec again).2.calls = again.calls ++ new ∧
          ∀ p ∈ createdOf tried ++ table.coveredPlans existing, .execute p.statement ∉ new := by
  obtain ⟨existing, opened, tried, hlisting, htried, rfl⟩ := adviseTable_eq_ok h
  have hmissing : tried.map (·.1) = table.missingPlans existing := by
    rw [← tryAll_plans (table.missingPlans existing) opened, htried]
  have haccounts := accounts_add (declare_isProper hdeclared) now hmissing
  refine ⟨existing, opened, tried, hlisting, htried, haccounts, ?_, fun later again hgained => ?_⟩
  · have hopened := indexListing_calls table.name store
    have hafter := tryAll_calls (table.missingPlans existing) opened
    rw [hlisting] at hopened
    rw [htried, hopened, List.append_assoc] at hafter
    exact hafter
  · obtain ⟨new, hnew, hexecutes⟩ := adviseTable_executes later table again
    refine ⟨new, hnew, fun p hp hmem => ?_⟩
    obtain ⟨listed, hlisted, q, hq, hstatement⟩ := hexecutes _ hmem
    cases IndexPlan.statement_injective hstatement
    obtain ⟨hkept, hcreated⟩ := hgained listed hlisted
    have hcovered : p.isCovered listed = true := by
      rcases List.mem_append.mp hp with hp | hp
      · rw [← haccounts.created] at hp
        obtain ⟨c, hc, rfl⟩ := List.mem_map.mp hp
        exact IndexPlan.isCovered_of_name (hcreated c hc)
      · exact IndexPlan.isCovered_mono hkept (List.mem_filter.mp hp).2
    have hopen := (List.mem_filter.mp hq).2
    rw [hcovered] at hopen
    cases hopen

end

/-! ### A store that is busy once -/

/-- Orders, with a column that has no index. -/
def orderSpecs : List ColumnSpec := [
  ⟨"customer_name", "string", none⟩, ⟨"amount", "number", none⟩, ⟨"shipped", "date", none⟩,
  ⟨"flag", "boolean", none⟩]

def ordersId : String := "0123456789abcdef0123456789abcdef"

def orders : Table where
  datasetId := ordersId
  name := "data_0123456789abcdef0123456789abcdef"
  columns := [⟨"customer_name", .string, true⟩, ⟨"amount", .number, true⟩,
    ⟨"shipped", .date, true⟩, ⟨"flag", .boolean, true⟩]
  rowCount := 0

/-- The amounts have an index of another name, and the second try fails. -/
def busyOnce : Recorded PreparedStore where
  store := ⟨[
    { PreparedAnswer.nothing with columns := [⟨"id", "BIGINT", false⟩] },
    { PreparedAnswer.nothing with indexes := [⟨"by_amount", ["amount"]⟩] },
    .nothing, { PreparedAnswer.nothing with unavailable := some "busy" }, .nothing], []⟩
  calls := []

def ordersReport : AdviceReport where
  table := orders.name
  created := [⟨orders.indexOn "id", ⟨0⟩⟩, ⟨orders.indexOn "shipped", ⟨0⟩⟩]
  skipped := [indexName ordersId "amount"]
  errors := [(indexName ordersId "customer_name", .store (.unavailable "busy"))]

/-- The store when the advice is asked for again. -/
def afterBusy : Recorded PreparedStore where
  store := ⟨[
    { PreparedAnswer.nothing with columns := [⟨"id", "BIGINT", false⟩] },
    { PreparedAnswer.nothing with
      indexes := ⟨"by_amount", ["amount"]⟩ :: ordersReport.created.map fun c =>
        ⟨c.plan.name, [c.plan.column]⟩ }], []⟩
  calls := []

theorem adviseTable_accounts_orders :
    Table.declare ordersId orderSpecs = .ok orders ∧
      ((adviseTable ⟨0⟩ orders).exec busyOnce).1 = .ok ordersReport ∧
      (∃ existing tried, ordersReport.Accounts orders existing tried ∧
        ((adviseTable ⟨0⟩ orders).exec busyOnce).2.calls =
          [.describeTable orders.name, .listIndexes orders.name] ++
            (orders.missingPlans existing).map (.execute ·.statement)) ∧
      .execute (orders.indexOn "shipped").statement ∉
        ((adviseTable ⟨1⟩ orders).exec afterBusy).2.calls := by
  have hdeclared : Table.declare ordersId orderSpecs = .ok orders := rfl
  have hreport : ((adviseTable ⟨0⟩ orders).exec busyOnce).1 = .ok ordersReport := rfl
  obtain ⟨existing, _, tried, hlisting, -, haccounts, hcalls, hagain⟩ :=
    adviseTable_accounts hdeclared (Prod.ext hreport rfl)
  refine ⟨hdeclared, hreport, ⟨existing, tried, haccounts, hcalls⟩, ?_⟩
  have hexisting : existing = [⟨"by_amount", ["amount"]⟩] := by
    cases hlisting
    rfl
  obtain ⟨new, hnew, hleft⟩ := hagain ⟨1⟩ afterBusy fun listed hlisted => by
    have hgained : listed = ⟨"by_amount", ["amount"]⟩ ::
        ordersReport.created.map fun c => ⟨c.plan.name, [c.plan.column]⟩ := by
      cases hlisted
      rfl
    rw [hexisting, hgained]
    refine ⟨by simp, fun c hc => ⟨⟨c.plan.name, [c.plan.column]⟩, ?_, rfl⟩⟩
    exact List.mem_cons_of_mem _ (List.mem_map_of_mem hc)
  rw [hnew]
  apply hleft
  rw [← haccounts.created]
  simp [ordersReport]

end TableQuery
