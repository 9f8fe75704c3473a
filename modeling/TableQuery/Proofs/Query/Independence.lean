import TableQuery.Proofs.Filter.Shape
import TableQuery.Proofs.Query.Meaning

/-!
# Texts that no value enters

The text of a statement depends on the shape of its filter and on the columns that it writes, and
on none of their values. Values reach the store as parameters only, and their number depends on
no more either.

* `Statement.form`: the text of a statement and the number of its parameters.
* `planFor_alike`: filters of one shape have one clause.
* `form_independent_of_values`: the statements of filters and rows of one shape.
-/

namespace TableQuery

/-- The text of a statement and the number of its parameters. -/
def Statement.form (s : Statement) : String × Nat := (s.sql, s.params.length)

/-! ## Clauses -/

section

variable {cs ds : List Comparison}

theorem map_amongOthers_alike (h : Predicate.AllAlike (cs.map .compare) (ds.map .compare))
    (hc : ∀ c ∈ cs, c.IsProper ∧ c.castToText = false)
    (hd : ∀ d ∈ ds, d.IsProper ∧ d.castToText = false) :
    cs.map Comparison.amongOthers = ds.map Comparison.amongOthers ∧
      (cs.flatMap Comparison.draftParams).length = (ds.flatMap Comparison.draftParams).length := by
  induction cs generalizing ds with
  | nil =>
    cases ds with
    | nil => exact ⟨rfl, rfl⟩
    | cons d ds => exact h.elim
  | cons c cs ih =>
    cases ds with
    | nil => exact h.elim
    | cons d ds =>
      obtain ⟨hcd, hrest⟩ := h
      have halike : c.Alike d := hcd
      obtain ⟨hcproper, hcast⟩ := hc c (by simp)
      obtain ⟨hdproper, -⟩ := hd d (by simp)
      obtain ⟨htexts, hparams⟩ := ih hrest (fun c hc' => hc c (by simp [hc']))
        fun d hd' => hd d (by simp [hd'])
      have hhere := (halike.draft_eq hcproper hdproper hcast).2
      refine ⟨?_, ?_⟩
      · rw [List.map_cons, List.map_cons, halike.amongOthers_eq hcproper hdproper hcast, htexts]
      · rw [List.flatMap_cons, List.flatMap_cons, List.length_append, List.length_append, hhere,
          hparams]

theorem builderClause_alike (h : Predicate.AllAlike (cs.map .compare) (ds.map .compare))
    (hc : ∀ c ∈ cs, c.IsProper ∧ c.castToText = false)
    (hd : ∀ d ∈ ds, d.IsProper ∧ d.castToText = false) :
    (builderClause cs).sql = (builderClause ds).sql := by
  have hall := (map_amongOthers_alike h hc hd).1
  cases cs with
  | nil =>
    cases ds with
    | nil => rfl
    | cons d ds => exact h.elim
  | cons c cs =>
    cases ds with
    | nil => exact h.elim
    | cons d ds =>
      cases cs with
      | nil =>
        cases ds with
        | nil =>
          have halike : c.Alike d := h.1
          have hdraft := halike.draft_eq (hc c (by simp)).1 (hd d (by simp)).1 (hc c (by simp)).2
          rw [builderClause, builderClause, hdraft.1]
        | cons d' ds => exact h.2.elim
      | cons c' cs =>
        cases ds with
        | nil => exact h.2.elim
        | cons d' ds => rw [builderClause, builderClause, hall] <;> simp

end

/-- Plans with one clause and as many parameters, put to the store in one way. -/
structure Plan.Alike (p q : Plan) : Prop where
  clause : p.clause = q.clause
  params : p.params.length = q.params.length
  isRaw : p.isRaw = q.isRaw

theorem Plan.pageParam_eq_of_isRaw {p q : Plan} (h : p.isRaw = q.isRaw) :
    p.pageParam = q.pageParam := by
  cases p <;> cases q <;> first | rfl | contradiction

/-- The plans of filters that are alike. -/
theorem planFor_alike {n : Nat} {table : Table} {fs gs : List Filter} {ps qs : List Predicate}
    (h : Filter.AllAlike fs gs) (hps : lowerAll n table fs = .ok ps)
    (hqs : lowerAll n table gs = .ok qs) : (planFor fs ps).Alike (planFor gs qs) := by
  have halike := lowerAll_alike fs h hps hqs
  have hisRaw : (fs.any Filter.isGroup || Predicate.anyCasts ps) =
      (gs.any Filter.isGroup || Predicate.anyCasts qs) := by
    rw [Filter.any_isGroup_eq h, Predicate.AllAlike.anyCasts_eq halike]
  have hproper := planFor_isProper hps
  have hproper' := planFor_isProper hqs
  unfold planFor at hproper hproper' ⊢
  rw [← hisRaw] at hproper' ⊢
  split
  · obtain ⟨htexts, hparams⟩ := Predicate.AllAlike.texts_eq halike
    refine ⟨?_, hparams, rfl⟩
    rw [Plan.clause, Plan.clause, Predicate.conjunction, Predicate.conjunction, htexts]
  · rename_i hraw
    rw [if_neg hraw] at hproper hproper'
    have hraw' := hraw
    rw [hisRaw] at hraw'
    rw [Bool.not_eq_true, Bool.or_eq_false_iff] at hraw hraw'
    rw [lowerAll_comparisons hps hraw.1, lowerAll_comparisons hqs hraw'.1] at halike
    exact ⟨builderClause_alike halike hproper hproper',
      (map_amongOthers_alike halike hproper hproper').2, rfl⟩

/-! ## Statements -/

section

variable {p q : Query}

/-- Queries that differ in the values of their filters only. -/
structure Query.Alike (p q : Query) : Prop where
  table : p.table = q.table
  columns : p.columns = q.columns
  page : p.page = q.page
  plan : p.plan.Alike q.plan
  left : p.plan.IsProper
  right : q.plan.IsProper

theorem selectRows_form (h : p.Alike q) :
    (selectRows p).map Statement.form = (selectRows q).map Statement.form := by
  have hhead : selectHead p = selectHead q := by
    unfold selectHead
    rw [h.columns, h.table]
  rw [selectRows_eq h.left, selectRows_eq h.right, h.page,
    Plan.pageParam_eq_of_isRaw h.plan.isRaw, hhead, h.plan.clause]
  cases q.plan.pageParam q.page.limit with
  | error fault => rfl
  | ok limit =>
    cases q.plan.pageParam q.page.offset with
    | error fault => rfl
    | ok offset =>
      have hlength : (p.plan.params ++ [limit, offset]).length =
          (q.plan.params ++ [limit, offset]).length := by
        rw [List.length_append, List.length_append, h.plan.params]
      exact congrArg Except.ok (Prod.ext rfl hlength)

theorem selectCount_form (h : p.Alike q) :
    (selectCount p).map Statement.form = (selectCount q).map Statement.form := by
  have hhead : countHead p = countHead q := by
    unfold countHead
    rw [h.table]
  rw [selectCount_eq h.left, selectCount_eq h.right, hhead, h.plan.clause]
  exact congrArg Except.ok (Prod.ext rfl h.plan.params)

theorem deleteRows_form (h : p.Alike q) :
    (deleteRows p).map Statement.form = (deleteRows q).map Statement.form := by
  have hhead : deleteHead p = deleteHead q := by
    unfold deleteHead
    rw [h.table]
  rw [deleteRows_eq h.left, deleteRows_eq h.right, hhead, h.plan.clause]
  exact congrArg Except.ok (Prod.ext rfl h.plan.params)

/-- Assignments to the same columns. -/
theorem updateRows_form (h : p.Alike q) {as bs : List (String × Param)}
    (hcolumns : as.map (·.1) = bs.map (·.1)) :
    (updateRows p as).map Statement.form = (updateRows q bs).map Statement.form := by
  have hlength : as.length = bs.length := by
    simpa using congrArg List.length hcolumns
  have hempty : as.isEmpty = bs.isEmpty := by
    rw [Bool.eq_iff_iff, List.isEmpty_iff_length_eq_zero, List.isEmpty_iff_length_eq_zero, hlength]
  have hset : as.map (fun a => quoteIdentifier a.1 ++ " = ?") =
      bs.map fun a => quoteIdentifier a.1 ++ " = ?" := by
    have hmap := congrArg (List.map fun n => quoteIdentifier n ++ " = ?") hcolumns
    simpa [List.map_map, Function.comp_def] using hmap
  rw [updateRows_eq h.left, updateRows_eq h.right, hempty]
  split
  · rfl
  · simp only [Except.map, Statement.form, updateHead, h.table, hset, h.plan.clause,
      List.length_append, List.length_map, hlength, h.plan.params]

end

/-- The columns that a row sets depend on its fields alone. -/
theorem writeValues_columns {table : Table} {row : List (String × Json)} {values : WriteValues}
    (h : writeValues table row = .ok values) :
    values.assignments.map (·.1) =
      (row.map (·.1)).filterMap fun name => (table.writable? name).map (·.name) := by
  induction row generalizing values with
  | nil => cases h; rfl
  | cons entry rest ih =>
    obtain ⟨name, value⟩ := entry
    unfold writeValues at h
    split at h <;> rename_i hcolumn
    · obtain ⟨p, -, h⟩ := bind_eq_ok.mp h
      obtain ⟨more, hmore, h⟩ := bind_eq_ok.mp h
      cases h
      simp [hcolumn, ih hmore]
    · obtain ⟨more, hmore, h⟩ := bind_eq_ok.mp h
      cases h
      simp [hcolumn, ih hmore]

/-- Insertions into the same columns. -/
theorem insertRow_form (table : Table) {as bs : List (String × Param)}
    (hcolumns : as.map (·.1) = bs.map (·.1)) :
    (insertRow table as).map Statement.form = (insertRow table bs).map Statement.form := by
  have hlength : as.length = bs.length := by
    simpa using congrArg List.length hcolumns
  have hnames : as.map (fun a => quoteIdentifier a.1) = bs.map fun a => quoteIdentifier a.1 := by
    have hmap := congrArg (List.map quoteIdentifier) hcolumns
    simpa [List.map_map, Function.comp_def] using hmap
  have hmarks : as.map (fun _ => "?") = bs.map fun _ => "?" := by
    rw [List.map_const', List.map_const', hlength]
  have hfinish (sql : String) (cs : List (String × Param)) :
      Draft.finish ⟨sql, cs.map (·.2.toBound)⟩ = .ok ⟨sql, cs.map (·.2)⟩ :=
    Draft.finish_eq_ok.mpr ⟨_, mapM_ofBound_assignments cs, rfl⟩
  unfold insertRow
  simp only [hfinish, Except.map, Statement.form, List.length_map, hnames, hmarks, hlength]

theorem compile_alike {maxInList : Nat} {table : Table} {page : PageRequest} {a b : Json}
    {p q : Query} (h : SameShape a b) (hp : Query.compile maxInList table a page = .ok p)
    (hq : Query.compile maxInList table b page = .ok q) : p.Alike q := by
  obtain ⟨fs, hfs, hp⟩ := bind_eq_ok.mp hp
  obtain ⟨gs, hgs, hq⟩ := bind_eq_ok.mp hq
  obtain ⟨ps, hps, hp⟩ := bind_eq_ok.mp hp
  obtain ⟨qs, hqs, hq⟩ := bind_eq_ok.mp hq
  cases hp
  cases hq
  exact ⟨rfl, rfl, rfl, planFor_alike (Filter.ofJson?_alike h hfs hgs) hps hqs,
    planFor_isProper hps, planFor_isProper hqs⟩

/-- The statements of filters of one shape have one text and as many parameters, and so have the
insertions of rows with the same fields. -/
theorem form_independent_of_values (maxInList : Nat) (table : Table) (page : PageRequest) :
    (∀ (a b : Json) (p q : Query), SameShape a b →
      Query.compile maxInList table a page = .ok p →
      Query.compile maxInList table b page = .ok q →
        (selectRows p).map Statement.form = (selectRows q).map Statement.form ∧
        (selectCount p).map Statement.form = (selectCount q).map Statement.form ∧
        (deleteRows p).map Statement.form = (deleteRows q).map Statement.form ∧
        ∀ as bs : List (String × Param), as.map (·.1) = bs.map (·.1) →
          (updateRows p as).map Statement.form = (updateRows q bs).map Statement.form) ∧
    ∀ (row row' : List (String × Json)) (values values' : WriteValues),
      row.map (·.1) = row'.map (·.1) → writeValues table row = .ok values →
      writeValues table row' = .ok values' →
        (insertRow table values.assignments).map Statement.form =
          (insertRow table values'.assignments).map Statement.form := by
  refine ⟨fun a b p q hshape hp hq => ?_, fun row row' values values' hfields hv hv' => ?_⟩
  · have halike := compile_alike hshape hp hq
    exact ⟨selectRows_form halike, selectCount_form halike, deleteRows_form halike,
      fun as bs hcolumns => updateRows_form halike hcolumns⟩
  · refine insertRow_form table ?_
    rw [writeValues_columns hv, writeValues_columns hv', hfields]

/-- A filter of the shape of `saleFilter`, with other values. -/
def otherSaleFilter : Json := .object [
  ("$or", .array [
    .object [("region", .object [("$like", .string "' OR 1 = 1 --")]), ("ghost", .bool true)],
    .object [("price", .object [("$gt", .int 0), ("$lte", .string "70")])],
    .object [("$and", .array [.object [("ghost", .null)]])]]),
  ("id", .object [("$in", .array [.int 3, .null])])]

theorem form_independent_of_values_sale :
    SameShape saleFilter otherSaleFilter ∧
      ∃ p q, Query.compile 2 saleTable saleFilter .first = .ok p ∧
        Query.compile 2 saleTable otherSaleFilter .first = .ok q ∧
        (selectRows p).map Statement.form = (selectRows q).map Statement.form := by
  have hshape : SameShape saleFilter otherSaleFilter := by
    simp [saleFilter, otherSaleFilter, SameShape, SameEntries, SameValue, SameMembers,
      SameOperators, SameOperand, Json.isNull, Json.listLength?, Json.int]
  obtain ⟨p, hp⟩ : ∃ p, Query.compile 2 saleTable saleFilter .first = .ok p :=
    exists_eq_ok (by decide +kernel)
  obtain ⟨q, hq⟩ : ∃ q, Query.compile 2 saleTable otherSaleFilter .first = .ok q :=
    exists_eq_ok (by decide +kernel)
  have h := (form_independent_of_values 2 saleTable .first).1 _ _ p q hshape hp hq
  exact ⟨hshape, p, q, hp, hq, h.1⟩

end TableQuery
