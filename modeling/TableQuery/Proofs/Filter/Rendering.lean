import TableQuery.Proofs.Filter.Meaning
import TableQuery.Proofs.Sql.Rendering

/-!
# What the texts of filters say

The text of a comparison or a predicate, with its parameters in the placeholders, is read as a
condition that holds for the same rows.

* `Comparison.says_text`, `Comparison.says_draft`: a comparison in the two ways to write it.
* `Predicate.says_text`: a predicate, by induction on its groups.
* `Predicate.says_conjunction`: several predicates.
-/

namespace TableQuery

/-! ## Comparisons -/

theorem SqlDialect.passes_of_comparison? (D : SqlDialect) {op : Operator}
    {comparison : SqlComparison} (h : op.comparison? = some comparison) (value : Option D.Value)
    {p : Param} (hp : p.isNull = false) :
    D.passes op value p = D.compare (comparison.test D) value (D.constant p) := by
  cases op <;> cases h <;> simp [passes, isEqual, isUnequal, hp] <;> rfl

theorem reads_sign {op : Operator} {comparison : SqlComparison}
    (h : op.comparison? = some comparison) {a : List Char} {v : SqlValue}
    (hv : Reads IsValue a [] v) (p : Param) :
    Reads IsFactor (a ++ ((" ".toList ++ (op.sql.toList ++ " ".toList)) ++ ['?'])) [p]
      (.compare comparison v (.constant p)) := by
  have hread {sign : SqlSign} {between : List Char}
      (hb : sqlTokens? [] between = some [.sign sign]) (hfirst : between.head?.any isApart)
      (hlast : between.getLast?.all opensApart) (hs : sign.comparison? = some comparison) :
      Reads IsFactor (a ++ (between ++ ['?'])) [p] (.compare comparison v (.constant p)) :=
    hv.compare (reads_placeholder p) hb hfirst hlast hs
  have heq : sqlTokens? [] " = ".toList = some [.sign .eq] := rfl
  have hne : sqlTokens? [] " <> ".toList = some [.sign .ne] := rfl
  have hgt : sqlTokens? [] " > ".toList = some [.sign .gt] := rfl
  have hlt : sqlTokens? [] " < ".toList = some [.sign .lt] := rfl
  have hgte : sqlTokens? [] " >= ".toList = some [.sign .gte] := rfl
  have hlte : sqlTokens? [] " <= ".toList = some [.sign .lte] := rfl
  cases op <;> cases h
  · exact hread heq rfl rfl rfl
  · exact hread hne rfl rfl rfl
  · exact hread hgt rfl rfl rfl
  · exact hread hlt rfl rfl rfl
  · exact hread hgte rfl rfl rfl
  · exact hread hlte rfl rfl rfl

theorem eval_textValue (D : SqlDialect) (row : D.Row) (column : String) (type : ColumnType) :
    (textValue column type).eval D row = D.textForm type (row column) := by
  cases type <;> rfl

namespace Comparison

/-- What is compared as an expression. -/
def subjectExpression (c : Comparison) : SqlValue :=
  if c.castToText then textValue c.column c.type else .column c.column

theorem reads_subject (c : Comparison) :
    Reads IsValue c.subject.toList [] c.subjectExpression := by
  unfold subject subjectExpression
  split
  · exact reads_textExpression c.column c.type
  · exact reads_quoteIdentifier c.column

theorem eval_subjectExpression (D : SqlDialect) (row : D.Row) (c : Comparison) :
    c.subjectExpression.eval D row = c.subjectValue D (row c.column) := by
  unfold subjectExpression subjectValue
  split
  · exact eval_textValue D row c.column c.type
  · rfl

variable {c : Comparison}

theorem truth_scalar (D : SqlDialect) (row : D.Row) {p : Param} (hp : c.operand = .scalar p) :
    c.truth D row = D.passes c.operator (c.subjectValue D (row c.column)) p := by
  unfold truth
  rw [hp]

theorem truth_list (D : SqlDialect) (row : D.Row) {ps : List Param} (hp : c.operand = .list ps) :
    c.truth D row = if c.operator = .notIn then (D.isAmong (c.subjectValue D (row c.column)) ps).not
      else D.isAmong (c.subjectValue D (row c.column)) ps := by
  unfold truth
  rw [hp]

/-- A comparison with a value is written with its operator. -/
theorem text_of_scalar {p : Param} (hp : c.operand = .scalar p) (hnull : p.isNull = false) :
    c.text = c.subject ++ " " ++ c.operator.sql ++ " ?" ∧ c.params = [p] := by
  unfold text params
  rw [hp]
  cases p <;> first | contradiction | (cases c.operator <;> exact ⟨rfl, rfl⟩)

theorem says_sign {comparison : SqlComparison} {p : Param} (hp : c.operand = .scalar p)
    (hop : c.operator.comparison? = some comparison) (hnull : p.isNull = false) :
    Says IsFactor c.text.toList c.params fun D row => c.truth D row := by
  have hread := reads_sign hop c.reads_subject p
  obtain ⟨htext, hparams⟩ := text_of_scalar hp hnull
  have hmark : " ?".toList = " ".toList ++ ['?'] := rfl
  simp only [List.append_assoc] at hread
  simp only [htext, hparams, String.toList_append, hmark, List.append_assoc]
  refine ⟨_, hread, fun D row => .trans ?_ (truth_scalar D row hp).symm⟩
  rw [SqlCondition.truth, eval_subjectExpression]
  exact (D.passes_of_comparison? hop _ hnull).symm

theorem says_isNull (hp : c.operand = .scalar .null) (hop : c.operator = .eq) :
    Says IsFactor c.text.toList c.params fun D row => c.truth D row := by
  have htext : c.text = c.subject ++ " IS NULL" := by rw [text, hp, hop]
  have hparams : c.params = [] := by rw [params, hp, hop]
  rw [htext, hparams, String.toList_append]
  refine ⟨_, c.reads_subject.isNull, fun D row => .trans ?_ (truth_scalar D row hp).symm⟩
  rw [SqlCondition.truth, eval_subjectExpression, hop]
  rfl

theorem says_isNotNull (hp : c.operand = .scalar .null) (hop : c.operator = .ne) :
    Says IsFactor c.text.toList c.params fun D row => c.truth D row := by
  have htext : c.text = c.subject ++ " IS NOT NULL" := by rw [text, hp, hop]
  have hparams : c.params = [] := by rw [params, hp, hop]
  rw [htext, hparams, String.toList_append]
  refine ⟨_, c.reads_subject.isNotNull, fun D row => .trans ?_ (truth_scalar D row hp).symm⟩
  rw [SqlCondition.truth, eval_subjectExpression, hop]
  rfl

theorem says_like {pattern : String} (hp : c.operand = .scalar (.text pattern))
    (hop : c.operator = .like) :
    Says IsFactor c.text.toList c.params fun D row => c.truth D row := by
  have hilike : " ".toList ++ ("ILIKE".toList ++ " ?".toList) = " ILIKE ".toList ++ ['?'] := rfl
  have htext : c.text = c.subject ++ " " ++ "ILIKE" ++ " ?" := by rw [text, hp, hop]; rfl
  have hparams : c.params = [.text pattern] := by rw [params, hp, hop]
  simp only [htext, hparams, String.toList_append, List.append_assoc, hilike]
  refine ⟨_, c.reads_subject.like (reads_placeholder _), fun D row => .trans ?_ (truth_scalar D row hp).symm⟩
  rw [SqlCondition.truth, eval_subjectExpression, hop]
  rfl

theorem says_isIn {ps : List Param} (hp : c.operand = .list ps) (hne : ps ≠ [])
    (hop : c.operator = .inList) :
    Says IsFactor c.text.toList c.params fun D row => c.truth D row := by
  have hin : " IN (".toList ++ ((placeholders ps).toList ++ ")".toList) =
      " IN (".toList ++ ((placeholders ps).toList ++ [')']) := rfl
  have htext : c.text = c.subject ++ " IN (" ++ placeholders ps ++ ")" := by
    rw [text, hp, hop]
    cases ps <;> first | contradiction | rfl
  have hparams : c.params = ps := by rw [params, hp, hop]
  simp only [htext, hparams, String.toList_append, List.append_assoc, hin]
  refine ⟨_, c.reads_subject.isIn hne, fun D row => .trans ?_ (truth_list D row hp).symm⟩
  rw [SqlCondition.truth, eval_subjectExpression, hop]
  rfl

theorem says_isNotIn {ps : List Param} (hp : c.operand = .list ps) (hne : ps ≠ [])
    (hop : c.operator = .notIn) :
    Says IsFactor c.text.toList c.params fun D row => c.truth D row := by
  have hin : " NOT IN (".toList ++ ((placeholders ps).toList ++ ")".toList) =
      " NOT IN (".toList ++ ((placeholders ps).toList ++ [')']) := rfl
  have htext : c.text = c.subject ++ " NOT IN (" ++ placeholders ps ++ ")" := by
    rw [text, hp, hop]
    cases ps <;> first | contradiction | rfl
  have hparams : c.params = ps := by rw [params, hp, hop]
  simp only [htext, hparams, String.toList_append, List.append_assoc, hin]
  refine ⟨_, c.reads_subject.isNotIn hne, fun D row => .trans ?_ (truth_list D row hp).symm⟩
  rw [SqlCondition.truth, eval_subjectExpression, hop]
  rfl

theorem says_none (hp : c.operand = .list []) (hop : c.operator = .inList) :
    Says IsFactor c.text.toList c.params fun D row => c.truth D row := by
  have htext : c.text = "1 = 0" := by rw [text, hp, hop]
  have hparams : c.params = [] := by rw [params, hp, hop]
  have htokens : sqlTokens? [] "1 = 0".toList = some [.other "1", .sign .eq, .other "0"] := by
    decide +kernel
  have hone := isValue_other (show Param.ofNumeral? "1" = some (.int 1) by decide +kernel)
  have hzero := isValue_other (show Param.ofNumeral? "0" = some (.int 0) by decide +kernel)
  rw [htext, hparams]
  refine ⟨_, ⟨_, htokens, hone.compare hzero rfl⟩, fun D row => .trans ?_ (truth_list D row hp).symm⟩
  rw [hop]
  exact congrArg Truth.ofBool (D.equal_int 1 0)

theorem says_everything (hp : c.operand = .list []) (hop : c.operator = .notIn) :
    Says IsFactor c.text.toList c.params fun D row => c.truth D row := by
  have htext : c.text = "1 = 1" := by rw [text, hp, hop]
  have hparams : c.params = [] := by rw [params, hp, hop]
  have htokens : sqlTokens? [] "1 = 1".toList = some [.other "1", .sign .eq, .other "1"] := by
    decide +kernel
  have hone := isValue_other (show Param.ofNumeral? "1" = some (.int 1) by decide +kernel)
  rw [htext, hparams]
  refine ⟨_, ⟨_, htokens, hone.compare hone rfl⟩, fun D row => .trans ?_ (truth_list D row hp).symm⟩
  rw [hop]
  exact congrArg Truth.ofBool (D.equal_int 1 1)

/-- The text of a proper comparison says what the comparison means. -/
theorem says_text (h : c.IsProper) :
    Says IsFactor c.text.toList c.params fun D row => c.truth D row := by
  cases hp : c.operand with
  | scalar p =>
    cases hnull : p.isNull with
    | false =>
      cases hop : c.operator with
      | like =>
        cases p <;> first | (simp [IsProper, hp, hop] at h; done) | exact says_like hp hop
      | inList | notIn => simp [IsProper, hp, hop] at h
      | _ => exact says_sign hp (by rw [hop]; rfl) hnull
    | true =>
      have hp' : c.operand = .scalar .null := by cases p <;> first | contradiction | exact hp
      cases hop : c.operator with
      | eq => exact says_isNull hp' hop
      | ne => exact says_isNotNull hp' hop
      | _ => simp [IsProper, hp', hop, Param.isNull] at h
  | list ps =>
    cases hop : c.operator with
    | inList =>
      by_cases hne : ps = []
      · exact says_none (hne ▸ hp) hop
      · exact says_isIn hp hne hop
    | notIn =>
      by_cases hne : ps = []
      · exact says_everything (hne ▸ hp) hop
      · exact says_isNotIn hp hne hop
    | _ => simp [IsProper, hp, hop] at h

/-! ### In the builder's way -/

/-- The parameters of the comparison as the builder writes it. -/
def draftParams (c : Comparison) : List Param :=
  match c.operand, c.operator with
  | .list [], .notIn => [.int 1, .int 1]
  | .list [], _ => [.int 1, .int 2]
  | _, _ => c.params

/-- The builder writes a comparison of values as it is written elsewhere, unless it is with the
empty list. -/
theorem draft_eq (h : c.IsProper) (hcast : c.castToText = false) (hne : c.operand ≠ .list []) :
    c.draft = ⟨c.text, c.params.map Param.toBound⟩ ∧ c.draftParams = c.params := by
  have hsubject : c.subject = quoteIdentifier c.column := by rw [subject, hcast]; rfl
  obtain ⟨column, type, op, operand, castToText⟩ := c
  cases operand with
  | scalar p =>
    refine ⟨?_, by cases op <;> rfl⟩
    cases op with
    | like =>
      cases p <;> first | exact h.elim | skip
      simp only [draft, text, params, hsubject, String.append_assoc]
      rfl
    | inList | notIn => exact h.elim
    | _ => cases p <;> simp [draft, text, params, hsubject]
  | list ps =>
    cases ps with
    | nil => exact absurd rfl hne
    | cons p ps =>
      cases op <;> first
        | exact h.elim
        | simp [draft, draftParams, text, params, hsubject]

/-- A comparison with the empty list is one of two numbers. -/
theorem says_draft_nil (h : c.IsProper) (hp : c.operand = .list []) :
    Says IsFactor c.draft.sql.toList c.draftParams fun D row => c.truth D row := by
  have htokens (p q : Param) :
      sqlTokens? [p, q] "? = ?".toList = some [.param p, .sign .eq, .param q] := rfl
  cases hop : c.operator with
  | inList =>
    have htext : c.draft.sql = "? = ?" := by simp [draft, hp, hop]
    have hparams : c.draftParams = [.int 1, .int 2] := by rw [draftParams, hp, hop]
    rw [htext, hparams]
    refine ⟨_, ⟨_, htokens _ _, (isValue_param _).compare (isValue_param _) rfl⟩,
      fun D row => .trans ?_ (truth_list D row hp).symm⟩
    rw [hop]
    exact congrArg Truth.ofBool (D.equal_int 1 2)
  | notIn =>
    have htext : c.draft.sql = "? = ?" := by simp [draft, hp, hop]
    have hparams : c.draftParams = [.int 1, .int 1] := by rw [draftParams, hp, hop]
    rw [htext, hparams]
    refine ⟨_, ⟨_, htokens _ _, (isValue_param _).compare (isValue_param _) rfl⟩,
      fun D row => .trans ?_ (truth_list D row hp).symm⟩
    rw [hop]
    exact congrArg Truth.ofBool (D.equal_int 1 1)
  | _ => simp [IsProper, hp, hop] at h

/-- The text of a proper comparison of values says the same in the builder's way. -/
theorem says_draft (h : c.IsProper) (hcast : c.castToText = false) :
    Says IsFactor c.draft.sql.toList c.draftParams fun D row => c.truth D row := by
  by_cases hne : c.operand = .list []
  · exact says_draft_nil h hne
  · obtain ⟨hdraft, hparams⟩ := draft_eq h hcast hne
    rw [hdraft, hparams]
    exact says_text h

theorem says_amongOthers (h : c.IsProper) (hcast : c.castToText = false) :
    Says IsFactor c.amongOthers.toList c.draftParams fun D row => c.truth D row := by
  have hdraft := says_draft h hcast
  unfold amongOthers
  split
  · rw [String.toList_append, String.toList_append, List.append_assoc]
    exact hdraft.isConjunction.isDisjunction.parentheses
  · exact hdraft

/-- The builder's values are the parameters. -/
theorem mapM_ofBound_draft (h : c.IsProper) (hcast : c.castToText = false) :
    c.draft.values.mapM Param.ofBound = .ok c.draftParams := by
  by_cases hne : c.operand = .list []
  · cases hop : c.operator <;> simp [draft, draftParams, hne, hop] <;> rfl
  · obtain ⟨hdraft, hparams⟩ := draft_eq h hcast hne
    rw [hdraft, hparams]
    exact Param.mapM_ofBound_toBound c.params

end Comparison

/-! ## Predicates -/

namespace Predicate

theorem texts_eq_map (ps : List Predicate) : texts ps = ps.map text := by
  induction ps with
  | nil => rfl
  | cons p rest ih => rw [texts, ih, List.map_cons]

theorem paramsOfAll_eq_flatMap (ps : List Predicate) : paramsOfAll ps = ps.flatMap params := by
  induction ps with
  | nil => rfl
  | cons p rest ih => rw [paramsOfAll, ih, List.flatMap_cons]

/-- The text of a proper predicate says what the predicate means. -/
theorem says_text {p : Predicate} (h : p.IsProper) :
    Says IsFactor p.text.toList p.params fun D row => p.truth D row := by
  induction h with
  | compare h => exact Comparison.says_text h
  | @group kind members several h ih =>
    have hne : members ≠ [] := by rintro rfl; simp at several
    have hand : " ".toList ++ (Connective.and.sql.toList ++ " ".toList) = " AND ".toList := rfl
    have hor : " ".toList ++ (Connective.or.sql.toList ++ " ".toList) = " OR ".toList := rfl
    simp only [text, params, truth, texts_eq_map, truths_eq_map, paramsOfAll_eq_flatMap,
      String.toList_append, String.toList_intercalate, List.map_map, List.append_assoc]
    refine Says.parentheses ?_
    cases kind with
    | and =>
      rw [hand]
      exact (says_all hne ih).isDisjunction
    | or =>
      rw [hor]
      exact says_any hne fun p hp => (ih p hp).isConjunction

/-- The text of several proper predicates says that all of them hold. -/
theorem says_conjunction {ps : List Predicate} (hne : ps ≠ []) (h : ∀ p ∈ ps, p.IsProper) :
    Says IsConjunction (conjunction ps).toList (paramsOfAll ps)
      fun D row => .all (ps.map (truth D row)) := by
  have hand : " ".toList ++ (Connective.and.sql.toList ++ " ".toList) = " AND ".toList := rfl
  simp only [conjunction, texts_eq_map, paramsOfAll_eq_flatMap, String.toList_append,
    String.toList_intercalate, List.map_map, List.append_assoc, hand]
  exact says_all hne fun p hp => says_text (h p hp)

end Predicate

end TableQuery
