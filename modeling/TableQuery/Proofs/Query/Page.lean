import TableQuery.Cache.Key
import TableQuery.Config.Settings
import TableQuery.Proofs.Filter.Order
import TableQuery.Proofs.Store.Laws

/-!
# Pages that a store has

What a page is depends on the settings, the store, the table and what the filter means. Filters
that differ in the order of their fields have one page, and writes to other tables leave it.

* `storePage`: the page.
* `storePage_canonical`: filters with one canonical form.
* `storePage_execute`: a write to another table.
-/

namespace TableQuery

variable {σ : Type} [Store σ]

/-- The page of a table that a filter asks for, read from the store. -/
def storePage (config : Config) (store : σ) (table : Table) (filter : Json) (page : PageRequest) :
    Except QueryError ResultPage :=
  match Query.compile config.query.maxInList table filter page with
  | .error fault => .error (.request fault)
  | .ok q => ((readPage config.query.numericStringThreshold q).exec store).1.map fun answer => {
      rows := answer.1
      totalCount := answer.2
      page := page.page
      limit := page.limit
      totalPages := page.totalPages answer.2 }

/-! ## Queries with a meaning -/

/-- The condition of a query is well formed and true, false or unknown as given. -/
structure Query.Means (q : Query) (truth : (D : SqlDialect) → D.Row → Truth) : Prop where
  isProper : q.plan.IsProper
  saysWhere : SaysWhere q.plan.clause q.plan.params truth

/-- The parts of a compiled query that do not come from its filter, and its meaning. -/
theorem compile_means {n : Nat} {table : Table} {filter : Json} {page : PageRequest} {q : Query}
    (h : Query.compile n table filter page = .ok q) :
    ∃ filters ps, Filter.ofJson? filter = .ok filters ∧
      lowerAll (max n 1) table filters = .ok ps ∧ q.table = table.name ∧
      q.columns = table.outputColumns ∧ q.page = page ∧
      q.Means fun D row => .all (ps.map (Predicate.truth D row)) := by
  obtain ⟨filters, hfilters, h⟩ := bind_eq_ok.mp h
  obtain ⟨ps, hps, rfl⟩ := ofFilters_eq_ok.mp h
  exact ⟨filters, ps, hfilters, hps, rfl, rfl, rfl, planFor_isProper hps, planFor_saysWhere hps⟩

theorem selectBoth_eq_ok {q : Query} {rows count : Statement} :
    selectBoth q = .ok (rows, count) ↔ selectRows q = .ok rows ∧ selectCount q = .ok count := by
  unfold selectBoth
  constructor
  · intro h
    obtain ⟨rows', hrows, h⟩ := bind_eq_ok.mp h
    obtain ⟨count', hcount, h⟩ := bind_eq_ok.mp h
    cases h
    exact ⟨hrows, hcount⟩
  · rintro ⟨hrows, hcount⟩
    exact bind_eq_ok.mpr ⟨rows, hrows, bind_eq_ok.mpr ⟨count, hcount, rfl⟩⟩

section

variable {p q : Query} {truth : (D : SqlDialect) → D.Row → Truth}

/-- A read of rows can be stated or not by the page alone. -/
theorem selectRows_isOk (hp : p.plan.IsProper) (hq : q.plan.IsProper) (hpage : p.page = q.page)
    {s : Statement} (hs : selectRows p = .ok s) : ∃ t, selectRows q = .ok t := by
  rw [selectRows_eq hp] at hs
  obtain ⟨limit, hlimit, hs⟩ := bind_eq_ok.mp hs
  obtain ⟨offset, hoffset, hs⟩ := bind_eq_ok.mp hs
  rw [Plan.pageParam_eq_ok] at hlimit hoffset
  rw [hpage] at hlimit hoffset
  rw [selectRows_eq hq]
  exact ⟨_, bind_eq_ok.mpr ⟨limit, Plan.pageParam_eq_ok.mpr hlimit,
    bind_eq_ok.mpr ⟨offset, Plan.pageParam_eq_ok.mpr hoffset, rfl⟩⟩⟩

/-- The reads of queries that mean the same of one table. -/
theorem selectBoth_sameMeaning (hp : p.Means truth) (hq : q.Means truth)
    (htable : p.table = q.table) (hcolumns : p.columns = q.columns) (hpage : p.page = q.page)
    {rows count : Statement} (h : selectBoth p = .ok (rows, count)) :
    ∃ rows' count', selectBoth q = .ok (rows', count') ∧ rows.SameMeaning rows' ∧
      count.SameMeaning count' := by
  obtain ⟨hrows, hcount⟩ := selectBoth_eq_ok.mp h
  obtain ⟨rows', hrows'⟩ := selectRows_isOk hp.isProper hq.isProper hpage hrows
  obtain ⟨r, hread, hhead, htail, htruth⟩ := selectRows_reading? hp.isProper hp.saysWhere hrows
  obtain ⟨r', hread', hhead', htail', htruth'⟩ :=
    selectRows_reading? hq.isProper hq.saysWhere hrows'
  have hselect : selectHead p = selectHead q := by
    unfold selectHead
    rw [hcolumns, htable]
  rw [← hselect] at hhead'
  have hrows_same : rows.SameMeaning rows' :=
    ⟨r, r', hread, hread', hhead.unique hhead', by rw [htail, htail', hpage],
      fun D row => (htruth D row).trans (htruth' D row).symm⟩
  obtain ⟨count₁, c, hcount₁, hcread, hchead, hctail, hctruth⟩ :=
    selectCount_reading? hp.isProper hp.saysWhere
  cases hcount.symm.trans hcount₁
  obtain ⟨count', c', hcount', hcread', hchead', hctail', hctruth'⟩ :=
    selectCount_reading? hq.isProper hq.saysWhere
  have hcounts : countHead p = countHead q := by
    unfold countHead
    rw [htable]
  rw [← hcounts] at hchead'
  exact ⟨rows', count', selectBoth_eq_ok.mpr ⟨hrows', hcount'⟩, hrows_same, c, c', hcread, hcread',
    hchead.unique hchead', hctail.trans hctail'.symm,
    fun D row => (hctruth D row).trans (hctruth' D row).symm⟩

end

/-! ## Filters with one page -/

theorem all_eq_getD_remaining (D : SqlDialect) (row : D.Row) (ps : List Predicate) :
    Truth.all (ps.map (Predicate.truth D row)) = (remaining D row ps).getD .yes := by
  cases ps <;> rfl

/-- Filters with one canonical form are refused or not alike, and they mean the same. -/
theorem lowerAll_of_canonical_eq {n : Nat} {table : Table} {f g : Json}
    (h : f.canonical = g.canonical) {filters : List Filter} {ps : List Predicate}
    (hf : Filter.ofJson? f = .ok filters) (hps : lowerAll n table filters = .ok ps) :
    ∃ filters' qs, Filter.ofJson? g = .ok filters' ∧ lowerAll n table filters' = .ok qs ∧
      ∀ (D : SqlDialect) (row : D.Row),
        Truth.all (ps.map (Predicate.truth D row)) = .all (qs.map (Predicate.truth D row)) := by
  have hsame (D : SqlDialect) (row : D.Row) :
      some (remaining D row ps) = outcome n table D row (Filter.ofJson? g) := by
    rw [← outcome_canonical, ← h, outcome_canonical, hf]
    show _ = (lowerAll n table filters).toOption.map (remaining D row)
    rw [hps]
    rfl
  have hsome := hsame SqlDialect.ofParams fun _ => none
  unfold outcome at hsame hsome
  cases hg : Filter.ofJson? g with
  | error fault => rw [hg] at hsome; cases hsome
  | ok filters' =>
    rw [hg] at hsome hsame
    change _ = (lowerAll n table filters').toOption.map _ at hsome
    change ∀ D row, _ = (lowerAll n table filters').toOption.map (remaining D row) at hsame
    cases hqs : lowerAll n table filters' with
    | error fault => rw [hqs] at hsome; cases hsome
    | ok qs =>
      refine ⟨filters', qs, rfl, hqs, fun D row => ?_⟩
      have hremaining := hsame D row
      rw [hqs] at hremaining
      rw [all_eq_getD_remaining, all_eq_getD_remaining, Option.some.inj hremaining]

/-- Filters that mean the same have one page. -/
theorem storePage_of_means [LawfulStore σ] {config : Config} {store : σ} {table : Table}
    {f g : Json} {page : PageRequest} {p q : Query} {truth : (D : SqlDialect) → D.Row → Truth}
    (hp : Query.compile config.query.maxInList table f page = .ok p)
    (hq : Query.compile config.query.maxInList table g page = .ok q) (hpmeans : p.Means truth)
    (hqmeans : q.Means truth) {result : ResultPage}
    (h : storePage config store table f page = .ok result) :
    storePage config store table g page = .ok result := by
  obtain ⟨-, -, -, -, htable, hcolumns, hpage, -⟩ := compile_means hp
  obtain ⟨-, -, -, -, htable', hcolumns', hpage', -⟩ := compile_means hq
  unfold storePage at h ⊢
  rw [hp] at h
  rw [hq]
  simp only [readPage_exec] at h ⊢
  cases hboth : selectBoth p with
  | error fault => rw [hboth] at h; cases h
  | ok both =>
    obtain ⟨rows, count⟩ := both
    obtain ⟨rows', count', hboth', hrows, hcount⟩ := selectBoth_sameMeaning hpmeans hqmeans
      (htable.trans htable'.symm) (hcolumns.trans hcolumns'.symm) (hpage.trans hpage'.symm) hboth
    rw [hboth] at h
    rw [hboth']
    simp only [pageOfAnswers, hcolumns, hcolumns', LawfulStore.fetchRows_meaning _ store hrows,
      LawfulStore.fetchCount_meaning store hcount] at h ⊢
    exact h

/-- Filters with one canonical form have one page. -/
theorem storePage_canonical [LawfulStore σ] {config : Config} {store : σ} {table : Table}
    {f g : Json} {page : PageRequest} {result : ResultPage} (hfg : f.canonical = g.canonical)
    (h : storePage config store table f page = .ok result) :
    storePage config store table g page = .ok result := by
  cases hp : Query.compile config.query.maxInList table f page with
  | error fault =>
    unfold storePage at h
    rw [hp] at h
    cases h
  | ok p =>
    obtain ⟨filters, ps, hfilters, hps, -, -, -, hmeans⟩ := compile_means hp
    obtain ⟨filters', qs, hfilters', hqs, htruth⟩ := lowerAll_of_canonical_eq hfg hfilters hps
    have hq : Query.compile config.query.maxInList table g page = .ok _ :=
      bind_eq_ok.mpr ⟨filters', hfilters', ofFilters_eq_ok.mpr ⟨qs, hqs, rfl⟩⟩
    simp only [htruth] at hmeans
    exact storePage_of_means hp hq hmeans ⟨planFor_isProper hqs, planFor_saysWhere hqs⟩ h

/-- A filter without entries puts no condition. -/
theorem ofJson?_of_isNoFilter {filter : Json} (h : isNoFilter filter = true) :
    Filter.ofJson? filter = .ok [] := by
  cases filter with
  | null => rfl
  | object fields =>
    cases List.isEmpty_iff.mp h
    rw [Filter.ofJson?, Filter.ofEntries?]
  | _ => cases h

/-- Filters without entries have one page. -/
theorem storePage_of_isNoFilter {config : Config} {store : σ} {table : Table} {f g : Json}
    {page : PageRequest} (hf : isNoFilter f) (hg : isNoFilter g) :
    storePage config store table f page = storePage config store table g page := by
  unfold storePage Query.compile
  rw [ofJson?_of_isNoFilter hf, ofJson?_of_isNoFilter hg]

/-! ## Writes to other tables -/

theorem storePage_execute [LawfulStore σ] {config : Config} {store : σ} {table : Table}
    {filter : Json} {page : PageRequest} {write : Statement} {other : String}
    (hwrite : write.target? = some other) (hother : table.name ≠ other) :
    storePage config (Store.execute write store).2 table filter page =
      storePage config store table filter page := by
  unfold storePage
  cases hq : Query.compile config.query.maxInList table filter page with
  | error fault => rfl
  | ok q =>
    obtain ⟨_, _, -, -, htable, -, -, hmeans⟩ := compile_means hq
    simp only [readPage_exec]
    cases hboth : selectBoth q with
    | error fault => rfl
    | ok both =>
      obtain ⟨rows, count⟩ := both
      obtain ⟨hrows, hcount⟩ := selectBoth_eq_ok.mp hboth
      have hrows := selectRows_source? hmeans.isProper hmeans.saysWhere hrows
      have hcount := selectCount_source? hmeans.isProper hmeans.saysWhere hcount
      rw [← htable] at hother
      simp only [LawfulStore.fetchRows_apart _ store hrows hwrite hother,
        LawfulStore.fetchCount_apart store hcount hwrite hother]

end TableQuery
