import TableQuery.Proofs.Cache.Key
import TableQuery.Proofs.Filter.Field
import TableQuery.Proofs.Query.Page

/-!
# Queries that answer for each other

A page is kept under a key that tells the order of fields in its filter no more. Whoever asks with
another filter of that key is served the page, so both filters must be refused or come to queries
with the same rows.

* `Query.truth?`: whether the condition of a query holds for a row.
* `Query.Equivalent`: queries that agree in everything but the order of their conditions.
* `compile_of_cacheKey`: filters with one key.
-/

namespace TableQuery

namespace Query

/-- Whether the condition of a query holds for a row, as its count is read. -/
def truth? (q : Query) (D : SqlDialect) (row : D.Row) : Option Truth :=
  (selectCount q).toOption.bind (Statement.truth? D row)

theorem Means.truth?_eq {q : Query} {truth : (D : SqlDialect) → D.Row → Truth} (h : q.Means truth)
    (D : SqlDialect) (row : D.Row) : q.truth? D row = some (truth D row) := by
  obtain ⟨count, r, hcount, hread, -, -, htruth⟩ := selectCount_reading? h.isProper h.saysWhere
  rw [Query.truth?, hcount, ← htruth, Except.toOption, Option.bind_some, Statement.truth?, hread]
  rfl

/-- The queries read the same columns and page of one table, they have dropped the same fields,
and their conditions are true, false or unknown for the same rows. -/
structure Equivalent (p q : Query) : Prop where
  datasetId : p.datasetId = q.datasetId
  table : p.table = q.table
  columns : p.columns = q.columns
  page : p.page = q.page
  dropped : ∀ name, name ∈ p.dropped ↔ name ∈ q.dropped
  isUnfiltered : p.isUnfiltered = q.isUnfiltered
  truth : ∀ (D : SqlDialect) (row : D.Row),
    ∃ t, p.truth? D row = some t ∧ q.truth? D row = some t

/-- Two filters are refused both, or they come to queries that are equivalent. -/
def SameAnswer : Except RequestFault Query → Except RequestFault Query → Prop
  | .ok p, .ok q => p.Equivalent q
  | .error _, .error _ => True
  | _, _ => False

end Query

/-! ## Filters that come to the same -/

/-- A filter is refused, and then it comes to nothing, or it comes to what is left of the
predicates of its query. -/
theorem compile_outcome (n : Nat) (table : Table) (filter : Json) (page : PageRequest) :
    (∃ fault, Query.compile n table filter page = .error fault ∧
      ∀ D row, outcome (max n 1) table D row (Filter.ofJson? filter) = none) ∨
    ∃ filters ps, Filter.ofJson? filter = .ok filters ∧
      lowerAll (max n 1) table filters = .ok ps ∧
      Query.compile n table filter page = .ok ⟨table.datasetId, table.name, table.outputColumns, page,
        planFor filters ps, unknownFields table filters⟩ ∧
      ∀ D row, outcome (max n 1) table D row (Filter.ofJson? filter) = some (remaining D row ps) := by
  unfold Query.compile
  cases hfilters : Filter.ofJson? filter with
  | error fault => exact .inl ⟨fault, rfl, fun D row => rfl⟩
  | ok filters =>
    cases hps : lowerAll (max n 1) table filters with
    | error fault =>
      refine .inl ⟨fault, ?_, fun D row => ?_⟩
      · show lowerAll (max n 1) table filters >>= _ = _
        rw [hps]
        rfl
      · show (lowerAll (max n 1) table filters).toOption.map (remaining D row) = none
        rw [hps]
        rfl
    | ok ps =>
      refine .inr ⟨filters, ps, rfl, hps, ofFilters_eq_ok.mpr ⟨ps, hps, rfl⟩, fun D row => ?_⟩
      show (lowerAll (max n 1) table filters).toOption.map (remaining D row) = _
      rw [hps]
      rfl

theorem mem_unknownFields {table : Table} {filter : Json} {filters : List Filter}
    (h : Filter.ofJson? filter = .ok filters) (name : String) :
    name ∈ unknownFields table filters ↔
      name ∈ filter.namedFields ∧ (table.column? name).isNone := by
  rw [unknownFields_eq h, List.mem_eraseDups, List.mem_filter]

/-- Filters that come to the same for every row, and name the same fields, have the same answer. -/
theorem compile_sameAnswer {n : Nat} {table : Table} {f g : Json} (page : PageRequest)
    (houtcome : ∀ D row, outcome (max n 1) table D row (Filter.ofJson? f) =
      outcome (max n 1) table D row (Filter.ofJson? g))
    (hfields : ∀ name, name ∈ f.namedFields ↔ name ∈ g.namedFields) :
    Query.SameAnswer (Query.compile n table f page) (Query.compile n table g page) := by
  -- Whether a filter is refused does not depend on the row, so any row tells.
  have hany := houtcome SqlDialect.ofParams fun _ => none
  rcases compile_outcome n table f page with
    ⟨fault, hf, hnone⟩ | ⟨fs, ps, hfs, hps, hf, hsome⟩
  · rcases compile_outcome n table g page with ⟨fault', hg, -⟩ | ⟨_, _, -, -, -, hsome⟩
    · rw [hf, hg]
      trivial
    · rw [hnone, hsome] at hany
      cases hany
  · rcases compile_outcome n table g page with
      ⟨fault', hg, hnone⟩ | ⟨gs, qs, hgs, hqs, hg, hsome'⟩
    · rw [hnone, hsome] at hany
      cases hany
    · have hremaining (D : SqlDialect) (row : D.Row) : remaining D row ps = remaining D row qs := by
        have h := houtcome D row
        rwa [hsome, hsome', Option.some.injEq] at h
      rw [hf, hg]
      refine ⟨rfl, rfl, rfl, rfl, fun name => ?_, ?_, fun D row => ?_⟩
      · rw [mem_unknownFields hfs, mem_unknownFields hgs, hfields]
      · have hempty := hremaining SqlDialect.ofParams fun _ => none
        rw [Query.isUnfiltered, Query.isUnfiltered, planFor_isUnfiltered hps,
          planFor_isUnfiltered hqs]
        cases ps <;> cases qs <;> first | rfl | cases hempty
      · have hmeans : Query.Means ⟨table.datasetId, table.name, table.outputColumns, page,
            planFor fs ps, unknownFields table fs⟩
            fun D row => .all (ps.map (Predicate.truth D row)) :=
          ⟨planFor_isProper hps, planFor_saysWhere hps⟩
        have hmeans' : Query.Means ⟨table.datasetId, table.name, table.outputColumns, page,
            planFor gs qs, unknownFields table gs⟩
            fun D row => .all (qs.map (Predicate.truth D row)) :=
          ⟨planFor_isProper hqs, planFor_saysWhere hqs⟩
        refine ⟨_, hmeans.truth?_eq D row, ?_⟩
        rw [hmeans'.truth?_eq D row, all_eq_getD_remaining, all_eq_getD_remaining, hremaining]

/-! ## Filters with one key -/

/-- Filters with one canonical form come to the same, and they name the same fields. -/
theorem outcome_of_canonical_eq {n : Nat} {table : Table} {f g : Json}
    (h : f.canonical = g.canonical) (D : SqlDialect) (row : D.Row) :
    outcome n table D row (Filter.ofJson? f) = outcome n table D row (Filter.ofJson? g) := by
  rw [← outcome_canonical, h, outcome_canonical]

theorem namedFields_of_canonical_eq {f g : Json} (h : f.canonical = g.canonical) (name : String) :
    name ∈ f.namedFields ↔ name ∈ g.namedFields := by
  rw [← (namedFields_canonical f).mem_iff, h, (namedFields_canonical g).mem_iff]

/-- A filter without entries names no field. -/
theorem namedFields_of_isNoFilter {f : Json} (h : isNoFilter f = true) : f.namedFields = [] := by
  cases f with
  | object fields =>
    cases List.isEmpty_iff.mp h
    rw [Json.namedFields, Filter.namedFields]
  | _ => rfl

/-- One key means one dataset, page and limit, and filters with the same answer, as long as the
digests of their texts are apart. -/
theorem compile_of_cacheKey {start id id' : String} {page page' limit limit' : Nat} {f g : Json}
    (hid : isDatasetId id = true) (hid' : isDatasetId id' = true)
    (hkey : cacheKey start id page limit f = cacheKey start id' page' limit' g)
    (hapart : DigestsApart f g) :
    id = id' ∧ page = page' ∧ limit = limit' ∧ ∀ maxInList (table : Table),
      Query.SameAnswer (Query.compile maxInList table f ⟨page, limit⟩)
        (Query.compile maxInList table g ⟨page', limit'⟩) := by
  obtain ⟨rfl, rfl, rfl, hdigest⟩ := cacheKey_inj hid hid' hkey
  refine ⟨rfl, rfl, rfl, fun maxInList table => ?_⟩
  rcases filterDigest_cases hdigest hapart with ⟨hf, hg⟩ | hcanonical
  · refine compile_sameAnswer _ (fun D row => ?_) fun name => ?_
    · rw [ofJson?_of_isNoFilter hf, ofJson?_of_isNoFilter hg]
    · rw [namedFields_of_isNoFilter hf, namedFields_of_isNoFilter hg]
  · exact compile_sameAnswer _ (outcome_of_canonical_eq hcanonical)
      (namedFields_of_canonical_eq hcanonical)

/-- The sales of `saleFilter`, its entries and those of its members in another order. -/
def saleFilterReordered : Json := .object [
  ("id", .object [("$in", .array [.int 1, .int 2])]),
  ("$or", .array [
    .object [("ghost", .int 1), ("region", .object [("$like", .string "nor")])],
    .object [("price", .object [("$lte", .int 9), ("$gt", .int 5)])],
    .object [("$and", .array [.object [("ghost", .null)]])]])]

theorem compile_of_cacheKey_sale :
    isDatasetId saleTable.datasetId = true ∧
      cacheKey "cache:" saleTable.datasetId 1 10 saleFilter =
        cacheKey "cache:" saleTable.datasetId 1 10 saleFilterReordered ∧
      DigestsApart saleFilter saleFilterReordered ∧
      (Query.compile 2 saleTable saleFilter ⟨1, 10⟩).toOption ≠
        (Query.compile 2 saleTable saleFilterReordered ⟨1, 10⟩).toOption ∧
      Query.SameAnswer (Query.compile 2 saleTable saleFilter ⟨1, 10⟩)
        (Query.compile 2 saleTable saleFilterReordered ⟨1, 10⟩) := by
  have hid : isDatasetId saleTable.datasetId = true := by decide +kernel
  have hcanonical : saleFilter.canonical = saleFilterReordered.canonical := by cbv
  have hapart : DigestsApart saleFilter saleFilterReordered := fun _ => by rw [hcanonical]
  have hdigest : filterDigest saleFilter = filterDigest saleFilterReordered := by
    unfold filterDigest
    rw [hcanonical]
    rfl
  have hkey : cacheKey "cache:" saleTable.datasetId 1 10 saleFilter =
      cacheKey "cache:" saleTable.datasetId 1 10 saleFilterReordered := by
    unfold cacheKey
    rw [hdigest]
  obtain ⟨-, -, -, hsame⟩ := compile_of_cacheKey hid hid hkey hapart
  exact ⟨hid, hkey, hapart, by decide +kernel, hsame 2 saleTable⟩

end TableQuery
