import TableQuery.Proofs.Query.Alignment

/-!
# The two ways to write a condition

Comparisons that must all hold are put to the statement builder, or they are written out as SQL.
The two ways agree in every statement, with any table, columns, page and values to set: neither
makes a statement, or both make the same, but for two differences in the clause. The names of
patterns that are put to the builder are without backslashes, which it may take for escapes.

* `Comparison.written`, `Comparison.built`: a comparison in the two ways.
* `Agree`: statements around one clause in the two ways.
* `compile_builder_agrees`: the comparisons of a compiled query.
-/

namespace TableQuery

namespace Comparison

/-- The comparison and its parameters as they are written out. -/
def written (c : Comparison) : Statement := ⟨c.text, c.params⟩

/-- The comparison and its parameters as the builder writes them. They are written out, but a
pattern among several comparisons is in parentheses, and the empty list is a comparison of two
integers: nothing is in it, as 1 is not 2, and everything is outside of it. -/
def built (several : Bool) (c : Comparison) : Statement :=
  match c.operator, c.operand with
  | .inList, .list [] => ⟨"? = ?", [.int 1, .int 2]⟩
  | .notIn, .list [] => ⟨"? = ?", [.int 1, .int 1]⟩
  | .like, _ => if several then ⟨"(" ++ c.text ++ ")", c.params⟩ else c.written
  | _, _ => c.written

end Comparison

/-- The clause of conditions that must all hold; none without conditions. -/
def clauseOfAll (conditions : List Statement) : Statement :=
  if conditions.isEmpty then ⟨"", []⟩
  else ⟨" WHERE " ++ " AND ".intercalate (conditions.map (·.sql)), conditions.flatMap (·.params)⟩

/-- What stands before and after the clause of a statement, with the parameters there. -/
structure ClauseFrame where
  head : String
  before : List Param := []
  tail : String := ""
  after : List Param := []

/-- The statement with a clause. -/
def ClauseFrame.around (f : ClauseFrame) (clause : Statement) : Statement :=
  ⟨f.head ++ clause.sql ++ f.tail, f.before ++ clause.params ++ f.after⟩

/-- Comparisons that must all hold in the builder's way and written out: neither way makes a
statement, or both do, with the same around the clause. -/
inductive Agree (cs : List Comparison) (f : ClauseFrame) :
    Except RequestFault Statement → Except RequestFault Statement → Prop where
  | refused (fault fault' : RequestFault) : Agree cs f (.error fault) (.error fault')
  | stated : Agree cs f
      (.ok (f.around (clauseOfAll (cs.map (Comparison.built (decide (1 < cs.length)))))))
      (.ok (f.around (clauseOfAll (cs.map Comparison.written))))

/-- The comparisons written out. -/
def Plan.writtenOut (cs : List Comparison) : Plan :=
  .raw (Predicate.conjunction (cs.map .compare)) (Predicate.paramsOfAll (cs.map .compare))

/-! ## Clauses -/

namespace Comparison

variable {c : Comparison}

/-- The builder writes out every comparison but patterns among several and empty lists. -/
theorem built_of_ne_nil (several : Bool) (hne : c.operand ≠ .list []) :
    c.built several =
      if c.operator = .like ∧ several then ⟨"(" ++ c.text ++ ")", c.params⟩ else c.written := by
  unfold built
  split <;> simp_all

/-- The builder's parameters are those of its values. -/
theorem built_params (several : Bool) (h : c.IsProper) :
    (c.built several).params = c.draftParams := by
  obtain ⟨column, type, op, operand, castToText⟩ := c
  cases operand with
  | scalar p => cases op <;> cases several <;> rfl
  | list ps => cases ps <;> cases op <;> first | rfl | exact h.elim

theorem built_alone (h : c.IsProper) (hcast : c.castToText = false) :
    (c.built false).sql = c.draft.sql := by
  by_cases hne : c.operand = .list []
  · cases hop : c.operator <;> simp [IsProper, hop, hne] at h <;> simp [built, draft, hop, hne]
  · rw [built_of_ne_nil false hne, (draft_eq h hcast hne).1]
    simp [written]

theorem built_amongOthers (h : c.IsProper) (hcast : c.castToText = false) :
    (c.built true).sql = c.amongOthers := by
  have hcustom : c.isCustom = decide (c.operator = .like) := by
    obtain ⟨column, type, op, operand, castToText⟩ := c
    cases operand <;> cases op <;> first | rfl | exact h.elim
  by_cases hne : c.operand = .list []
  · have halone := built_alone h hcast
    cases hop : c.operator <;> simp [IsProper, hop, hne] at h <;>
      simpa [built, amongOthers, hcustom, hop, hne] using halone
  · rw [built_of_ne_nil true hne, amongOthers, hcustom, (draft_eq h hcast hne).1]
    split <;> simp_all [written]

end Comparison

theorem flatMap_built_params (several : Bool) {cs : List Comparison} (h : ∀ c ∈ cs, c.IsProper) :
    (cs.map (Comparison.built several)).flatMap (·.params) = cs.flatMap Comparison.draftParams := by
  rw [List.flatMap_map]
  exact List.flatMap_congr fun c hc => Comparison.built_params several (h c hc)

/-- The builder's clause is the one of what it makes of the comparisons. -/
theorem builderClause_eq_clauseOfAll {cs : List Comparison}
    (h : ∀ c ∈ cs, c.IsProper ∧ c.castToText = false) :
    (⟨(builderClause cs).sql, cs.flatMap Comparison.draftParams⟩ : Statement) =
      clauseOfAll (cs.map (Comparison.built (decide (1 < cs.length)))) := by
  have hparams (several : Bool) := flatMap_built_params several fun c hc => (h c hc).1
  match cs with
  | [] => rfl
  | [c] =>
    obtain ⟨hproper, hcast⟩ := h c (by simp)
    have hsql := Comparison.built_alone hproper hcast
    rw [← hparams false]
    simp [builderClause, clauseOfAll, hsql]
  | c :: d :: rest =>
    have hsql : (c :: d :: rest).map Comparison.amongOthers =
        ((c :: d :: rest).map (Comparison.built true)).map (·.sql) := by
      rw [List.map_map]
      exact List.map_congr_left fun e he =>
        (Comparison.built_amongOthers (h e he).1 (h e he).2).symm
    have hseveral : decide (1 < (c :: d :: rest).length) = true := by simp
    rw [← hparams true, hseveral]
    simp only [builderClause, hsql]
    rfl

/-- The clause written out is the one of the comparisons written out. -/
theorem rawClause_eq_clauseOfAll {cs : List Comparison} (h : ∀ c ∈ cs, c.IsProper) :
    (⟨rawClause (Predicate.conjunction (cs.map .compare)),
        Predicate.paramsOfAll (cs.map .compare)⟩ : Statement) =
      clauseOfAll (cs.map Comparison.written) := by
  by_cases hne : cs = []
  · subst hne
    rfl
  · have htext : Predicate.conjunction (cs.map .compare) ≠ "" :=
      conjunction_ne_empty (by simpa using hne) fun p hp => by
        obtain ⟨c, hc, rfl⟩ := List.mem_map.mp hp
        exact .compare (h c hc)
    have hsql : Predicate.conjunction (cs.map .compare) =
        " AND ".intercalate ((cs.map Comparison.written).map (·.sql)) := by
      rw [Predicate.conjunction, Predicate.texts_eq_map, List.map_map, List.map_map]
      rfl
    have hparams : Predicate.paramsOfAll (cs.map .compare) =
        (cs.map Comparison.written).flatMap (·.params) := by
      rw [Predicate.paramsOfAll_eq_flatMap, List.flatMap_map, List.flatMap_map]
      rfl
    simp only [rawClause, beq_iff_eq, if_neg htext, clauseOfAll, List.isEmpty_map,
      List.isEmpty_iff, if_neg hne, hparams, ← hsql]

/-! ## Statements -/

/-- The statements of a query. -/
inductive QueryStatement where
  | rows
  | count
  | update (assignments : List (String × Param))
  | delete

namespace QueryStatement

/-- The statement for a query. -/
def make (kind : QueryStatement) (q : Query) (custom : CustomText := Draft.mk) :
    Except RequestFault Statement :=
  match kind with
  | rows => selectRows q custom
  | count => selectCount q custom
  | update assignments => updateRows q assignments custom
  | delete => deleteRows q custom

theorem make_custom {custom : CustomText} (hcustom : custom.KeepsPatterns) {q : Query}
    (hnames : q.plan.HasPlainPatterns) (kind : QueryStatement) :
    kind.make q custom = kind.make q := by
  cases kind with
  | rows => exact selectRows_custom hcustom hnames
  | count => exact selectCount_custom hcustom hnames
  | update assignments => exact updateRows_custom hcustom hnames assignments
  | delete => exact deleteRows_custom hcustom hnames

/-- What is around the clause of the statement. -/
def frame : QueryStatement → Query → ClauseFrame
  | rows, q => ⟨selectHead q, [], selectTail, q.page.params⟩
  | count, q => ⟨countHead q, [], "", []⟩
  | update assignments, q => ⟨updateHead q assignments, assignments.map (·.2), "", []⟩
  | delete, q => ⟨deleteHead q, [], "", []⟩

/-- The page is in range, and something is set. -/
def IsPossible : QueryStatement → Query → Prop
  | rows, q => (q.page.limit : Int) ≤ maxInt64 ∧ (q.page.offset : Int) ≤ maxInt64
  | update assignments, _ => assignments ≠ []
  | count, _ | delete, _ => True

theorem make_eq_ok {q : Query} (h : q.plan.IsProper) (kind : QueryStatement)
    (hpossible : kind.IsPossible q) :
    kind.make q = .ok ((kind.frame q).around ⟨q.plan.clause, q.plan.params⟩) := by
  cases kind with
  | rows =>
    obtain ⟨hlimit, hoffset⟩ := hpossible
    rw [make, selectRows_eq h, Plan.pageParam_eq_ok.mpr ⟨hlimit, rfl⟩,
      Plan.pageParam_eq_ok.mpr ⟨hoffset, rfl⟩]
    rfl
  | count =>
    rw [make, selectCount_eq h]
    simp [frame, ClauseFrame.around]
  | update assignments =>
    rw [make, updateRows_eq h, if_neg (mt List.isEmpty_iff.mp hpossible)]
    simp [frame, ClauseFrame.around]
  | delete =>
    rw [make, deleteRows_eq h]
    simp [frame, ClauseFrame.around]

theorem make_eq_error {q : Query} (h : q.plan.IsProper) (kind : QueryStatement)
    (hpossible : ¬kind.IsPossible q) : ∃ fault, kind.make q = .error fault := by
  cases kind with
  | rows =>
    cases hs : selectRows q with
    | error fault => exact ⟨fault, hs⟩
    | ok s =>
      rw [selectRows_eq h] at hs
      obtain ⟨limit, hlimit, hs⟩ := bind_eq_ok.mp hs
      obtain ⟨offset, hoffset, -⟩ := bind_eq_ok.mp hs
      exact absurd ⟨(Plan.pageParam_eq_ok.mp hlimit).1, (Plan.pageParam_eq_ok.mp hoffset).1⟩
        hpossible
  | update assignments =>
    have hnil : assignments = [] := by simpa [IsPossible] using hpossible
    exact ⟨.nothingToSet, by rw [hnil]; rfl⟩
  | count | delete => exact absurd trivial hpossible

/-- The comparisons make the same statements in the two ways. -/
theorem agree {cs : List Comparison}
    (h : ∀ c ∈ cs, c.IsProper ∧ c.castToText = false) (p : Query) (kind : QueryStatement) :
    Agree cs (kind.frame p) (kind.make { p with plan := .builder cs })
      (kind.make { p with plan := .writtenOut cs }) := by
  have hproper : (Plan.builder cs).IsProper := h
  have hframe (plan : Plan) : kind.frame { p with plan } = kind.frame p := by cases kind <;> rfl
  have hpossible (plan : Plan) : kind.IsPossible { p with plan } = kind.IsPossible p := by
    cases kind <;> rfl
  by_cases hp : kind.IsPossible p
  · have hbuilt := builderClause_eq_clauseOfAll h
    have hwritten := rawClause_eq_clauseOfAll fun c hc => (h c hc).1
    have hstated : Agree cs (kind.frame p) _ _ := .stated
    rw [← hbuilt, ← hwritten] at hstated
    rw [make_eq_ok (q := { p with plan := .builder cs }) hproper kind (by rwa [hpossible]),
      make_eq_ok (q := { p with plan := .writtenOut cs }) trivial kind (by rwa [hpossible]),
      hframe (.builder cs), hframe (.writtenOut cs)]
    exact hstated
  · obtain ⟨fault, hbuilt⟩ := make_eq_error (q := { p with plan := .builder cs })
      hproper kind (by rwa [hpossible])
    obtain ⟨fault', hwritten⟩ := make_eq_error (q := { p with plan := .writtenOut cs })
      trivial kind (by rwa [hpossible])
    rw [hbuilt, hwritten]
    exact .refused fault fault'

end QueryStatement

/-- The comparisons that a compiled query puts to the builder make the same statements of every
query as they do written out. The builder may be any that keeps the text of patterns, as long as
no pattern has a backslash in its name. -/
theorem compile_builder_agrees {custom : CustomText} (hcustom : custom.KeepsPatterns)
    {maxInList : Nat} {table : Table} {filter : Json} {page : PageRequest} {q : Query}
    {cs : List Comparison} (hq : Query.compile maxInList table filter page = .ok q)
    (hplan : q.plan = .builder cs) (hnames : (Plan.builder cs).HasPlainPatterns) (p : Query)
    (kind : QueryStatement) :
    Agree cs (kind.frame p) (kind.make { p with plan := .builder cs } custom)
      (kind.make { p with plan := .writtenOut cs } custom) := by
  obtain ⟨filters, ps, -, -, -, -, -, hmeans⟩ := compile_means hq
  have hproper := hmeans.isProper
  rw [hplan] at hproper
  rw [QueryStatement.make_custom hcustom (q := { p with plan := .builder cs }) hnames,
    QueryStatement.make_custom hcustom (q := { p with plan := .writtenOut cs }) trivial]
  exact QueryStatement.agree hproper p kind

/-- Answers with none of the numbers, with some number, and with a pattern. -/
def surveyConditions : Json := .object [
  ("how many?", .object [("$in", .array []), ("$ne", .null)]),
  ("said \"?\"", .object [("$like", .string "yes")])]

/-- The comparisons of the answers. -/
def surveyComparisons : List Comparison := [
  ⟨"how many?", .number, .inList, .list [], false⟩,
  ⟨"how many?", .number, .ne, .scalar .null, false⟩,
  ⟨"said \"?\"", .string, .like, .scalar (.text "%yes%"), false⟩]

/-- The deletion of the answers in the builder's way. -/
def surveyBuilt : Statement where
  sql := "DELETE FROM \"data_00000000000000000000000000000000\" WHERE ? = ? AND " ++
    "\"how many?\" IS NOT NULL AND (\"said \"\"?\"\"\" ILIKE ?)"
  params := [.int 1, .int 2, .text "%yes%"]

/-- The deletion of the answers written out. -/
def surveyWritten : Statement where
  sql := "DELETE FROM \"data_00000000000000000000000000000000\" WHERE 1 = 0 AND " ++
    "\"how many?\" IS NOT NULL AND \"said \"\"?\"\"\" ILIKE ?"
  params := [.text "%yes%"]

theorem compile_builder_agrees_survey :
    (Query.compile 2 surveyTable surveyConditions .first).map (·.plan) =
        .ok (.builder surveyComparisons) ∧
      (Plan.builder surveyComparisons).HasPlainPatterns ∧
      Agree surveyComparisons (QueryStatement.delete.frame surveyQuery) (.ok surveyBuilt)
        (.ok surveyWritten) := by
  have hplan : (Query.compile 2 surveyTable surveyConditions .first).map (·.plan) =
      .ok (.builder surveyComparisons) := by decide +kernel
  obtain ⟨q, hq, hbuilder⟩ := map_eq_ok.mp hplan
  have hnames : (Plan.builder surveyComparisons).HasPlainPatterns := by decide +kernel
  have hbuilt : deleteRows { surveyQuery with plan := .builder surveyComparisons } .escaping =
      .ok surveyBuilt := by decide +kernel
  have hwritten : deleteRows { surveyQuery with plan := .writtenOut surveyComparisons } .escaping =
      .ok surveyWritten := by decide +kernel
  have hagree := compile_builder_agrees CustomText.escaping_keepsPatterns hq hbuilder hnames
    surveyQuery .delete
  rw [QueryStatement.make, QueryStatement.make, hbuilt, hwritten] at hagree
  exact ⟨hplan, hnames, hagree⟩

end TableQuery
