import Mathlib.Tactic
import TableQuery.Proofs.Query.Clause
import TableQuery.Proofs.Query.Custom

/-!
# What queries mean

The statements of a query ask for the rows that its filter means: read as SQL, their conditions
are true, false or unknown for a row as the filter is.

* `compile_preserves_meaning`: for every filter whose lists are not cut, and every builder that
  keeps the text of patterns.
-/

namespace TableQuery

/-- A query of filters has the predicates that these are lowered to. -/
theorem ofFilters_eq_ok {n : Nat} {table : Table} {filters : List Filter} {page : PageRequest}
    {q : Query} : Query.ofFilters n table filters page = .ok q ↔
      ∃ ps, lowerAll n table filters = .ok ps ∧
        q = ⟨table.datasetId, table.name, table.outputColumns, page, planFor filters ps,
          unknownFields table filters⟩ := by
  unfold Query.ofFilters
  constructor
  · intro h
    obtain ⟨ps, hps, h⟩ := bind_eq_ok.mp h
    exact ⟨ps, hps, (pure_eq_ok.mp h).symm⟩
  · rintro ⟨ps, hps, rfl⟩
    exact bind_eq_ok.mpr ⟨ps, hps, rfl⟩

/-- A count is read as its condition, which means what the clause says. -/
theorem selectCount_reading? {q : Query} (h : q.plan.IsProper)
    {truth : (D : SqlDialect) → D.Row → Truth}
    (hwhere : SaysWhere q.plan.clause q.plan.params truth) :
    ∃ count r, selectCount q = .ok count ∧ count.reading? = some r ∧
      IsHead (countHead q).toList [] r.head ∧ r.tail = [] ∧
      ∀ D row, r.truth D row = truth D row := by
  have hhead := isHead_countHead q
  obtain ⟨condition, hread, -, htruth⟩ := reading?_of_saysWhere_end hhead hwhere
  exact ⟨_, _, selectCount_eq h, hread, hhead, rfl, htruth⟩

/-- A read of rows is read as its condition, which means what the clause says, and its order. -/
theorem selectRows_reading? {q : Query} (h : q.plan.IsProper)
    {truth : (D : SqlDialect) → D.Row → Truth}
    (hwhere : SaysWhere q.plan.clause q.plan.params truth) {rows : Statement}
    (hrows : selectRows q = .ok rows) :
    ∃ r, rows.reading? = some r ∧ IsHead (selectHead q).toList [] r.head ∧
      r.tail = q.page.tokens ∧ ∀ D row, r.truth D row = truth D row := by
  have hrows := selectRows_eq_ok h hrows
  subst hrows
  obtain ⟨ts, hhead, -⟩ := isHead_selectHead q
  have htail := sqlTokens?_selectTail q.page
  obtain ⟨condition, hread, -, htruth⟩ := reading?_of_saysWhere hhead hwhere htail rfl rfl
  exact ⟨_, by simpa using hread, hhead, rfl, htruth⟩

/-- The statements of a query mean what its filter means, for every database and every row. The
builder may be any that keeps the text of patterns, as long as no pattern that is put to it has a
backslash in its name. -/
theorem compile_preserves_meaning {custom : CustomText} (hcustom : custom.KeepsPatterns)
    {maxInList : Nat} {table : Table} {filter : Json} {page : PageRequest} {q : Query}
    {filters : List Filter} (hq : Query.compile maxInList table filter page = .ok q)
    (hfilters : Filter.ofJson? filter = .ok filters)
    (hlists : Filter.ListsWithin maxInList (Filter.conditionsOfAll filters))
    (hnames : q.plan.HasPlainPatterns) (D : SqlDialect) (row : D.Row) :
    ∃ truth, Filter.meaning? D table row filters = .ok truth ∧
      (∃ count, selectCount q custom = .ok count ∧ count.truth? D row = some truth) ∧
      ∀ rows, selectRows q custom = .ok rows → rows.truth? D row = some truth := by
  rw [selectCount_custom hcustom hnames, selectRows_custom hcustom hnames]
  obtain ⟨fs, hfs, hq⟩ := bind_eq_ok.mp hq
  cases hfilters.symm.trans hfs
  obtain ⟨ps, hps, hq⟩ := ofFilters_eq_ok.mp hq
  have hplan : q.plan = planFor filters ps := by rw [hq]
  have hwithin : Filter.ListsWithin (max maxInList 1) (Filter.conditionsOfAll filters) :=
    fun c hc hlist => Nat.le_trans (hlists c hc hlist) (Nat.le_max_left ..)
  have hproper : q.plan.IsProper := hplan ▸ planFor_isProper hps
  have hwhere : SaysWhere q.plan.clause q.plan.params
      fun D row => .all (ps.map (Predicate.truth D row)) := hplan ▸ planFor_saysWhere hps
  refine ⟨.all (ps.map (Predicate.truth D row)), ?_, ?_, fun rows hrows => ?_⟩
  · exact bind_eq_ok.mpr ⟨_, lowerAll_truths? D row filters hps hwithin, rfl⟩
  · obtain ⟨count, r, hcount, hread, -, -, htruth⟩ := selectCount_reading? hproper hwhere
    refine ⟨count, hcount, ?_⟩
    rw [Statement.truth?, hread, Option.map_some, htruth]
  · obtain ⟨r, hread, -, -, htruth⟩ := selectRows_reading? hproper hwhere hrows
    rw [Statement.truth?, hread, Option.map_some, htruth]

/-! ### A grouped filter -/

/-- A database whose values are parameters. Only integers are in order, and a pattern is found
between two wildcards alone. -/
def SqlDialect.ofParams : SqlDialect where
  Value := Param
  ofParam p := p
  equal x y := decide (x = y)
  less x y := match x, y with
    | .int i, .int j => decide (i < j)
    | _, _ => false
  like x y := y.plainText == "%" ++ x.plainText ++ "%"
  call f x := match f with
    | .toVarchar => some (.text x.plainText)
    | _ => some x
  equal_int i j := by simp only [Param.int.injEq]

/-- A table with a region and a price. -/
def saleTable : Table :=
  ⟨"00000000000000000000000000000000", "data_00000000000000000000000000000000",
    [⟨"region", .string, true⟩, ⟨"price", .number, true⟩], 0⟩

/-- Sales of a region or of a range of prices, with a field that the table does not have. -/
def saleFilter : Json := .object [
  ("$or", .array [
    .object [("region", .object [("$like", .string "nor")]), ("ghost", .int 1)],
    .object [("price", .object [("$gt", .int 5), ("$lte", .int 9)])],
    .object [("$and", .array [.object [("ghost", .null)]])]]),
  ("id", .object [("$in", .array [.int 1, .int 2])])]

/-- The conditions of the filter. -/
def saleConditions : List Filter := [
  .group .or [
    .group .and [.condition ⟨"region", .like, .string "nor"⟩, .condition ⟨"ghost", .eq, .int 1⟩],
    .group .and [.condition ⟨"price", .gt, .int 5⟩, .condition ⟨"price", .lte, .int 9⟩],
    .group .and [.condition ⟨"ghost", .eq, .null⟩]],
  .condition ⟨"id", .inList, .array [.int 1, .int 2]⟩]

/-- A sale whose price alone is in the filter. -/
def saleRow : SqlDialect.ofParams.Row := fun column =>
  if column = "id" then some (.int 2) else if column = "price" then some (.int 7) else none

/-- Sales of a region that is known in part. -/
def patternFilter : Json := .object [("region", .object [("$like", .string "nor")])]

/-- The condition of the pattern. -/
def patternConditions : List Filter := [.condition ⟨"region", .like, .string "nor"⟩]

/-- A sale of a region. -/
def regionRow : SqlDialect.ofParams.Row := fun column =>
  if column = "region" then some (.text "nor") else none

/-- The grouped filter, which is written out, and a pattern, which is put to a builder to which a
backslash is an escape. -/
theorem compile_preserves_meaning_sale :
    (∃ q count, Query.compile 2 saleTable saleFilter .first = .ok q ∧ q.plan.HasPlainPatterns ∧
      selectCount q .escaping = .ok count ∧ count.truth? SqlDialect.ofParams saleRow = some .yes) ∧
    ∃ q count, Query.compile 2 saleTable patternFilter .first = .ok q ∧ q.plan.HasPlainPatterns ∧
      selectCount q .escaping = .ok count ∧ count.params = [.text "%nor%"] ∧
        count.truth? SqlDialect.ofParams regionRow = some .yes := by
  constructor
  · have hfilters : Filter.ofJson? saleFilter = .ok saleConditions := by cbv
    have hlists : Filter.ListsWithin 2 (Filter.conditionsOfAll saleConditions) := by
      unfold Filter.ListsWithin
      decide +kernel
    have hyes : Filter.meaning? SqlDialect.ofParams saleTable saleRow saleConditions =
        .ok .yes := by cbv
    have hplan : (Query.compile 2 saleTable saleFilter .first).map
        (fun q => decide q.plan.HasPlainPatterns) = .ok true := by decide +kernel
    obtain ⟨q, hq, hnames⟩ := map_eq_ok.mp hplan
    have hnames := of_decide_eq_true hnames
    obtain ⟨truth, htruth, ⟨count, hcount, hmeans⟩, -⟩ := compile_preserves_meaning
      CustomText.escaping_keepsPatterns hq hfilters hlists hnames SqlDialect.ofParams saleRow
    cases hyes.symm.trans htruth
    exact ⟨q, count, hq, hnames, hcount, hmeans⟩
  · have hfilters : Filter.ofJson? patternFilter = .ok patternConditions := by cbv
    have hlists : Filter.ListsWithin 2 (Filter.conditionsOfAll patternConditions) := by
      unfold Filter.ListsWithin
      decide +kernel
    have hyes : Filter.meaning? SqlDialect.ofParams saleTable regionRow patternConditions =
        .ok .yes := by cbv
    have hplan : (Query.compile 2 saleTable patternFilter .first).map (fun q =>
        (decide q.plan.HasPlainPatterns, (selectCount q .escaping).map (·.params))) =
          .ok (true, .ok [.text "%nor%"]) := by decide +kernel
    obtain ⟨q, hq, hplan⟩ := map_eq_ok.mp hplan
    obtain ⟨hnames, hparams⟩ := Prod.mk.inj hplan
    have hnames := of_decide_eq_true hnames
    obtain ⟨truth, htruth, ⟨count, hcount, hmeans⟩, -⟩ := compile_preserves_meaning
      CustomText.escaping_keepsPatterns hq hfilters hlists hnames SqlDialect.ofParams regionRow
    cases hyes.symm.trans htruth
    rw [hcount] at hparams
    exact ⟨q, count, hq, hnames, hcount, Except.ok.inj hparams, hmeans⟩

end TableQuery
