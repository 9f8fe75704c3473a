import TableQuery.Proofs.Filter.Field
import TableQuery.Proofs.Query.Target

/-!
# Queries without a condition

A query means every row if its filter names no column of the table, at any depth, and only then do
its statements carry no condition. Otherwise each condition of the filter on a column is written
into the condition of the statements.

* `lowerAll_eq_nil_iff`: nothing is left of filters that name no column of the table.
* `Plan.Shows`: the condition of a plan has the text of a comparison in it.
* `compile_isUnfiltered_iff`: when a query means every row.
* `compile_hasCondition?`: whether the statements of a query carry a condition.
* `compile_shows`, `compile_write_shows`: the conditions of a filter in its statements.
-/

namespace TableQuery

/-! ## What is left of filters -/

namespace Filter

mutual

theorem fieldsOf_eq_map : (f : Filter) → fieldsOf f = (conditions f).map (·.field)
  | .condition c => rfl
  | .group _ members => by
    rw [fieldsOf, conditions]
    exact fieldsOfAll_eq_map members

/-- The fields of filters are those of their conditions. -/
theorem fieldsOfAll_eq_map : (fs : List Filter) →
    fieldsOfAll fs = (conditionsOfAll fs).map (·.field)
  | [] => rfl
  | f :: rest => by
    rw [fieldsOfAll, conditionsOfAll, List.map_append, fieldsOf_eq_map f, fieldsOfAll_eq_map rest]

end

end Filter

theorem collapse_eq_none_iff {kind : Connective} {ps : List Predicate} :
    collapse kind ps = none ↔ ps = [] := by
  match ps with
  | [] => exact ⟨fun _ => rfl, fun _ => rfl⟩
  | [p] => simp [collapse]
  | p :: q :: rest => simp [collapse]

mutual

theorem lower_eq_none_iff {n : Nat} {table : Table} : (f : Filter) → {p : Option Predicate} →
    lower n table f = .ok p → (p = none ↔ ∀ name ∈ fieldsOf f, table.column? name = none)
  | .condition c, p, h => by
    unfold lower at h
    rw [fieldsOf, List.forall_mem_singleton]
    cases hcolumn : table.column? c.field with
    | none =>
      rw [hcolumn] at h
      cases h
      simp
    | some column =>
      rw [hcolumn] at h
      obtain ⟨cmp, -, h⟩ := bind_eq_ok.mp h
      cases h
      simp
  | .group kind members, p, h => by
    unfold lower at h
    obtain ⟨ps, hps, h⟩ := bind_eq_ok.mp h
    cases h
    rw [collapse_eq_none_iff, fieldsOf]
    exact lowerAll_eq_nil_iff members hps

/-- Nothing is left of filters that name no column of the table, and of these alone. -/
theorem lowerAll_eq_nil_iff {n : Nat} {table : Table} : (fs : List Filter) →
    {ps : List Predicate} → lowerAll n table fs = .ok ps →
      (ps = [] ↔ ∀ name ∈ fieldsOfAll fs, table.column? name = none)
  | [], ps, h => by
    cases h
    simp [fieldsOfAll]
  | f :: rest, ps, h => by
    obtain ⟨p, hp, h⟩ := bind_eq_ok.mp h
    obtain ⟨more, hmore, h⟩ := bind_eq_ok.mp h
    cases h
    have hf := lower_eq_none_iff f hp
    have hrest := lowerAll_eq_nil_iff rest hmore
    rw [fieldsOfAll, List.forall_mem_append, ← hf, ← hrest, List.append_eq_nil_iff,
      Option.toList_eq_nil_iff]

end

/-! ## Comparisons in predicates -/

namespace Predicate

mutual

/-- The comparisons of a predicate, in its order. -/
def comparisons : Predicate → List Comparison
  | .compare c => [c]
  | .group _ members => comparisonsOfAll members

/-- The comparisons of predicates, in their order. -/
def comparisonsOfAll : List Predicate → List Comparison
  | [] => []
  | p :: rest => comparisons p ++ comparisonsOfAll rest

end

theorem comparisonsOfAll_append (ps qs : List Predicate) :
    comparisonsOfAll (ps ++ qs) = comparisonsOfAll ps ++ comparisonsOfAll qs := by
  induction ps with
  | nil => rfl
  | cons p rest ih =>
    rw [List.cons_append, comparisonsOfAll, comparisonsOfAll, ih, List.append_assoc]

theorem comparisonsOfAll_map (cs : List Comparison) : comparisonsOfAll (cs.map .compare) = cs := by
  induction cs with
  | nil => rfl
  | cons c rest ih => simp [comparisonsOfAll, comparisons, ih]

/-- A group of one member, or of none, has the comparisons of its members too. -/
theorem comparisonsOfAll_collapse (kind : Connective) (ps : List Predicate) :
    comparisonsOfAll (collapse kind ps).toList = comparisonsOfAll ps := by
  match ps with
  | [] => rfl
  | [p] => rfl
  | p :: q :: rest => simp [collapse, comparisonsOfAll, comparisons]

end Predicate

mutual

theorem mem_comparisons_lower {n : Nat} {table : Table} {c : Condition} {column : Column}
    (hcolumn : table.column? c.field = some column) : (f : Filter) → {p : Option Predicate} →
      lower n table f = .ok p → c ∈ f.conditions →
        ∃ cmp ∈ Predicate.comparisonsOfAll p.toList,
          compareColumn n column c.operator c.value = .ok cmp
  | .condition d, p, h, hc => by
    rw [Filter.conditions, List.mem_singleton] at hc
    subst hc
    unfold lower at h
    rw [hcolumn] at h
    obtain ⟨cmp, hcmp, h⟩ := bind_eq_ok.mp h
    cases h
    exact ⟨cmp, by simp [Predicate.comparisonsOfAll, Predicate.comparisons], hcmp⟩
  | .group kind members, p, h, hc => by
    unfold lower at h
    obtain ⟨ps, hps, h⟩ := bind_eq_ok.mp h
    cases h
    rw [Predicate.comparisonsOfAll_collapse]
    exact mem_comparisons_lowerAll hcolumn members hps hc

/-- Every condition on a column of the table is a comparison among the predicates. -/
theorem mem_comparisons_lowerAll {n : Nat} {table : Table} {c : Condition} {column : Column}
    (hcolumn : table.column? c.field = some column) : (fs : List Filter) →
      {ps : List Predicate} → lowerAll n table fs = .ok ps → c ∈ Filter.conditionsOfAll fs →
        ∃ cmp ∈ Predicate.comparisonsOfAll ps,
          compareColumn n column c.operator c.value = .ok cmp
  | [], ps, h, hc => by cases hc
  | f :: rest, ps, h, hc => by
    obtain ⟨p, hp, h⟩ := bind_eq_ok.mp h
    obtain ⟨more, hmore, h⟩ := bind_eq_ok.mp h
    cases h
    rw [Predicate.comparisonsOfAll_append]
    rcases List.mem_append.mp hc with hc | hc
    · obtain ⟨cmp, hcmp, heq⟩ := mem_comparisons_lower hcolumn f hp hc
      exact ⟨cmp, List.mem_append_left _ hcmp, heq⟩
    · obtain ⟨cmp, hcmp, heq⟩ := mem_comparisons_lowerAll hcolumn rest hmore hc
      exact ⟨cmp, List.mem_append_right _ hcmp, heq⟩

end

/-! ## Comparisons in text -/

/-- One text stands in another. -/
def IsWithin (part whole : String) : Prop := part.toList <:+: whole.toList

theorem IsWithin.refl (text : String) : IsWithin text text := List.infix_refl _

theorem IsWithin.trans {a b c : String} (hab : IsWithin a b) (hbc : IsWithin b c) : IsWithin a c :=
  List.IsInfix.trans hab hbc

theorem isWithin_between (before text after : String) : IsWithin text (before ++ text ++ after) := by
  refine ⟨before.toList, after.toList, ?_⟩
  rw [String.toList_append, String.toList_append]

/-- Each of several texts stands in what they are put together to. -/
theorem isWithin_intercalate {separator text : String} {texts : List String} (h : text ∈ texts) :
    IsWithin text (separator.intercalate texts) := by
  unfold IsWithin
  rw [String.toList_intercalate]
  induction texts with
  | nil => cases h
  | cons first rest ih =>
    cases rest with
    | nil =>
      rw [List.mem_singleton.mp h]
      simp
    | cons second rest =>
      rw [List.map_cons, List.map_cons, List.intercalate_cons_cons]
      rcases List.mem_cons.mp h with rfl | h
      · rw [List.append_assoc]
        exact (List.prefix_append _ _).isInfix
      · exact (ih h).trans (List.suffix_append _ _).isInfix

namespace Predicate

mutual

theorem isWithin_text {c : Comparison} : (p : Predicate) → c ∈ comparisons p →
    IsWithin c.text p.text
  | .compare d, hc => by
    rw [List.mem_singleton.mp hc]
    exact .refl _
  | .group kind members, hc => by
    obtain ⟨text, htext, hwithin⟩ := exists_mem_texts members hc
    exact (hwithin.trans (isWithin_intercalate htext)).trans (isWithin_between "(" _ ")")

/-- The text of a comparison stands in one of the texts of the predicates. -/
theorem exists_mem_texts {c : Comparison} : (ps : List Predicate) → c ∈ comparisonsOfAll ps →
    ∃ text ∈ texts ps, IsWithin c.text text
  | [], hc => by cases hc
  | p :: rest, hc => by
    rcases List.mem_append.mp hc with hc | hc
    · exact ⟨p.text, List.mem_cons_self, isWithin_text p hc⟩
    · obtain ⟨text, htext, hwithin⟩ := exists_mem_texts rest hc
      exact ⟨text, List.mem_cons_of_mem _ htext, hwithin⟩

end

theorem isWithin_conjunction {c : Comparison} {ps : List Predicate}
    (hc : c ∈ comparisonsOfAll ps) : IsWithin c.text (conjunction ps) := by
  obtain ⟨text, htext, hwithin⟩ := exists_mem_texts ps hc
  exact hwithin.trans (isWithin_intercalate htext)

end Predicate

theorem isWithin_builderClause {c : Comparison} {cs : List Comparison} (hc : c ∈ cs) :
    ∃ text, (builderClause cs).sql = " WHERE " ++ text ∧ IsWithin c.draft.sql text := by
  match cs with
  | [d] =>
    rw [List.mem_singleton.mp hc]
    exact ⟨_, rfl, .refl _⟩
  | d :: e :: rest =>
    have hother : IsWithin c.draft.sql c.amongOthers := by
      unfold Comparison.amongOthers
      split
      · exact isWithin_between "(" _ ")"
      · exact .refl _
    exact ⟨_, rfl, hother.trans (isWithin_intercalate (List.mem_map_of_mem hc))⟩

namespace Plan

/-- The text of a comparison in the way that the plan's condition is written. -/
def textOf (plan : Plan) (c : Comparison) : String := if plan.isRaw then c.text else c.draft.sql

/-- The plan has a condition, with the text of the comparison in it. -/
def Shows (plan : Plan) (c : Comparison) : Prop :=
  ∃ text, plan.clause = " WHERE " ++ text ∧ IsWithin (plan.textOf c) text

end Plan

/-- The plan of filters shows the comparisons that these are lowered to. -/
theorem planFor_shows {n : Nat} {table : Table} {fs : List Filter} {ps : List Predicate}
    (h : lowerAll n table fs = .ok ps) {c : Comparison}
    (hc : c ∈ Predicate.comparisonsOfAll ps) : (planFor fs ps).Shows c := by
  unfold planFor
  split
  · have hne : ps ≠ [] := by
      rintro rfl
      cases hc
    have htext := conjunction_ne_empty hne (lowerAll_isProper fs h)
    refine ⟨Predicate.conjunction ps, ?_, Predicate.isWithin_conjunction hc⟩
    simp [Plan.clause, rawClause, htext]
  · rename_i hplan
    rw [Bool.not_eq_true, Bool.or_eq_false_iff] at hplan
    have hps := lowerAll_comparisons h hplan.1
    rw [hps, Predicate.comparisonsOfAll_map] at hc
    exact isWithin_builderClause hc

/-! ## Statements -/

/-- Whether a statement carries a condition. -/
def Statement.hasCondition? (s : Statement) : Option Bool := s.reading?.map (·.condition.isSome)

/-- The statements that are built from a query. -/
inductive Query.States (q : Query) (s : Statement) (custom : CustomText := Draft.mk) : Prop where
  | rows (h : selectRows q custom = .ok s)
  | count (h : selectCount q custom = .ok s)
  | update (assignments : List (String × Param)) (h : updateRows q assignments custom = .ok s)
  | delete (h : deleteRows q custom = .ok s)

/-- A plan has no condition where its clause is empty. -/
theorem Plan.clause_bne_empty (plan : Plan) : (plan.clause != "") = !plan.isUnfiltered := by
  cases plan with
  | builder comparisons =>
    match comparisons with
    | [] => rfl
    | [c] => simp [clause, builderClause, isUnfiltered]
    | c :: d :: rest => simp [clause, builderClause, isUnfiltered]
  | raw text params =>
    show (rawClause text != "") = !(text == "")
    unfold rawClause
    by_cases htext : text = ""
    · simp [htext]
    · have hempty : (text == "") = false := by simpa using htext
      rw [hempty]
      simp

/-- The statements of a query carry a condition unless it means every row. -/
theorem hasCondition?_of_states {q : Query} {s : Statement} (h : q.States s)
    (hproper : q.plan.IsProper) {truth : (D : SqlDialect) → D.Row → Truth}
    (hwhere : SaysWhere q.plan.clause q.plan.params truth) :
    s.hasCondition? = some (!q.isUnfiltered) := by
  have hclause : (q.plan.clause != "") = !q.isUnfiltered := q.plan.clause_bne_empty
  unfold Statement.hasCondition?
  rw [← hclause]
  cases h with
  | rows hs =>
    rw [selectRows_eq_ok hproper hs]
    obtain ⟨ts, hhead, -⟩ := isHead_selectHead q
    obtain ⟨condition, hread, hsome, -⟩ :=
      reading?_of_saysWhere hhead hwhere (sqlTokens?_selectTail q.page) rfl rfl
    rw [List.nil_append] at hread
    rw [hread, Option.map_some, hsome]
  | count hs =>
    cases (selectCount_eq hproper).symm.trans hs
    obtain ⟨condition, hread, hsome, -⟩ := reading?_of_saysWhere_end (isHead_countHead q) hwhere
    rw [List.nil_append] at hread
    rw [hread, Option.map_some, hsome]
  | update assignments hs =>
    have hhead := isHead_updateHead q assignments
    rw [updateRows_eq hproper] at hs
    split at hs
    · cases hs
    · cases hs
      obtain ⟨condition, hread, hsome, -⟩ := reading?_of_saysWhere_end hhead hwhere
      rw [hread, Option.map_some, hsome]
  | delete hs =>
    cases (deleteRows_eq hproper).symm.trans hs
    obtain ⟨condition, hread, hsome, -⟩ := reading?_of_saysWhere_end (isHead_deleteHead q) hwhere
    rw [List.nil_append] at hread
    rw [hread, Option.map_some, hsome]

/-! ## Compiled queries -/

section

variable {n : Nat} {table : Table} {filter : Json} {page : PageRequest} {q : Query}

/-- A compiled query has the plan of its filters. -/
theorem compile_plan (h : Query.compile n table filter page = .ok q) :
    ∃ filters ps, Filter.ofJson? filter = .ok filters ∧ lowerAll (max n 1) table filters = .ok ps ∧
      q.plan = planFor filters ps := by
  obtain ⟨filters, hfilters, h⟩ := bind_eq_ok.mp h
  obtain ⟨ps, hps, h⟩ := ofFilters_eq_ok.mp h
  exact ⟨filters, ps, hfilters, hps, by rw [h]⟩

/-- A query means every row if its filter names no column of the table, at any depth. -/
theorem compile_isUnfiltered_iff (h : Query.compile n table filter page = .ok q) :
    q.isUnfiltered = true ↔ ∀ name ∈ filter.namedFields, table.column? name = none := by
  obtain ⟨filters, ps, hfilters, hps, hplan⟩ := compile_plan h
  have hnames := Filter.fieldsOfAll_ofJson? hfilters
  unfold Query.isUnfiltered
  rw [hplan, planFor_isUnfiltered hps, List.isEmpty_iff, lowerAll_eq_nil_iff filters hps]
  simp only [hnames.mem_iff]

/-- The statements of a compiled query carry a condition unless it means every row. -/
theorem compile_hasCondition? (h : Query.compile n table filter page = .ok q) {s : Statement}
    (hs : q.States s) : s.hasCondition? = some (!q.isUnfiltered) := by
  obtain ⟨filters, ps, -, hps, hplan⟩ := compile_plan h
  have hproper : q.plan.IsProper := hplan ▸ planFor_isProper hps
  exact hasCondition?_of_states hs hproper (hplan ▸ planFor_saysWhere hps)

/-- A condition on a column of the table stands in the condition of the statements. -/
theorem compile_shows (h : Query.compile n table filter page = .ok q) {filters : List Filter}
    (hfilters : Filter.ofJson? filter = .ok filters) {c : Condition}
    (hc : c ∈ Filter.conditionsOfAll filters) {column : Column}
    (hcolumn : table.column? c.field = some column) :
    ∃ cmp, compareColumn (max n 1) column c.operator c.value = .ok cmp ∧ q.plan.Shows cmp := by
  obtain ⟨filters', ps, hfilters', hps, hplan⟩ := compile_plan h
  cases hfilters.symm.trans hfilters'
  obtain ⟨cmp, hmem, hcmp⟩ := mem_comparisons_lowerAll hcolumn filters hps hc
  exact ⟨cmp, hcmp, hplan ▸ planFor_shows hps hmem⟩

/-- A filter whose query does not mean every row has a condition on a column of the table. -/
theorem compile_exists_condition (h : Query.compile n table filter page = .ok q)
    (hfiltered : q.isUnfiltered = false) :
    ∃ filters c column, Filter.ofJson? filter = .ok filters ∧
      c ∈ Filter.conditionsOfAll filters ∧ table.column? c.field = some column := by
  obtain ⟨filters, ps, hfilters, hps, hplan⟩ := compile_plan h
  unfold Query.isUnfiltered at hfiltered
  rw [hplan, planFor_isUnfiltered hps, List.isEmpty_eq_false_iff] at hfiltered
  have hsome := mt (lowerAll_eq_nil_iff filters hps).mpr hfiltered
  rw [Filter.fieldsOfAll_eq_map] at hsome
  simp only [not_forall] at hsome
  obtain ⟨name, hname, hcolumn⟩ := hsome
  obtain ⟨c, hc, rfl⟩ := List.mem_map.mp hname
  obtain ⟨column, hcolumn⟩ := Option.ne_none_iff_exists'.mp hcolumn
  exact ⟨filters, c, column, hfilters, hc, hcolumn⟩

/-- An update or deletion that does not mean every row has a condition of the filter on a column of
the table in it, after a `WHERE`. -/
theorem compile_write_shows (h : Query.compile n table filter page = .ok q)
    (hfiltered : q.isUnfiltered = false) {s : Statement}
    (hs : deleteRows q = .ok s ∨ ∃ assignments, updateRows q assignments = .ok s) :
    ∃ filters c column cmp head text, Filter.ofJson? filter = .ok filters ∧
      c ∈ Filter.conditionsOfAll filters ∧ table.column? c.field = some column ∧
        compareColumn (max n 1) column c.operator c.value = .ok cmp ∧
          s.sql = head ++ " WHERE " ++ text ∧ IsWithin (q.plan.textOf cmp) text := by
  obtain ⟨filters, c, column, hfilters, hc, hcolumn⟩ := compile_exists_condition h hfiltered
  obtain ⟨cmp, hcmp, text, hclause, hwithin⟩ := compile_shows h hfilters hc hcolumn
  obtain ⟨_, ps, -, hps, hplan⟩ := compile_plan h
  have hproper : q.plan.IsProper := hplan ▸ planFor_isProper hps
  have hsql : ∃ head, s.sql = head ++ q.plan.clause := by
    rcases hs with hs | ⟨assignments, hs⟩
    · cases (deleteRows_eq hproper).symm.trans hs
      exact ⟨_, rfl⟩
    · rw [updateRows_eq hproper] at hs
      split at hs
      · cases hs
      · cases hs
        exact ⟨_, rfl⟩
  obtain ⟨head, hsql⟩ := hsql
  rw [hclause, ← String.append_assoc] at hsql
  exact ⟨filters, c, column, cmp, head, text, hfilters, hc, hcolumn, hcmp, hsql, hwithin⟩

end

end TableQuery
