import TableQuery.Proofs.Query.Page
import TableQuery.Proofs.Query.Unfiltered
import TableQuery.Proofs.Sql.Placeholder

/-!
# One condition in every statement

The rows of a page, their number and the rows that are written all come from one clause with one
list of parameters, which stands in the same place of every statement. No parameter is missing and
none is left over, or the database would bind values to the wrong columns without an error.

* `Query.HasClause`: the statements of a query around a clause and its parameters.
* `Statement.IsAligned`: a statement has a parameter for each placeholder.
* `compile_hasClause`: a query has one clause, and its statements and all insertions are aligned.

Names are any text, with question marks and double quotes, but for the names of patterns that are
put to the builder: there a backslash may be an escape, so that these are without any.
-/

namespace TableQuery

/-- A statement has a parameter for each of its placeholders. -/
def Statement.IsAligned (s : Statement) : Prop := placeholderCount s.sql = s.params.length

instance (s : Statement) : Decidable s.IsAligned := by
  unfold Statement.IsAligned; infer_instance

/-- The names in SQL with commas between them. -/
def quotedNames (names : List String) : String := ", ".intercalate (names.map quoteIdentifier)

/-- The statements of a query have one clause and one list of parameters for it. -/
structure Query.HasClause (q : Query) (clause : String) (params : List Param)
    (custom : CustomText := Draft.mk) : Prop where
  /-- The clause is empty or a condition. -/
  shape : clause = "" ∨ ∃ condition, clause = " WHERE " ++ condition
  rows : ∀ s, selectRows q custom = .ok s →
    s = ⟨"SELECT " ++ quotedNames q.columns ++ " FROM " ++ quoteIdentifier q.table ++ clause ++
        " ORDER BY \"id\" ASC LIMIT ? OFFSET ?",
      params ++ [.int q.page.limit, .int q.page.offset]⟩
  count : selectCount q custom =
    .ok ⟨"SELECT COUNT(*) FROM " ++ quoteIdentifier q.table ++ clause, params⟩
  update : ∀ assignments s, updateRows q assignments custom = .ok s →
    s = ⟨"UPDATE " ++ quoteIdentifier q.table ++ " SET " ++
        ", ".intercalate (assignments.map fun a => quoteIdentifier a.1 ++ " = ?") ++ clause,
      assignments.map (·.2) ++ params⟩
  delete : deleteRows q custom = .ok ⟨"DELETE FROM " ++ quoteIdentifier q.table ++ clause, params⟩

section

variable {custom : CustomText} (hcustom : custom.KeepsPatterns) {q : Query}
  (hnames : q.plan.HasPlainPatterns)

include hcustom hnames

/-- A clause is the same whichever the builder is. -/
theorem Query.HasClause.withCustom {clause : String} {params : List Param}
    (h : q.HasClause clause params) : q.HasClause clause params custom where
  shape := h.shape
  rows s hs := h.rows s (by rwa [selectRows_custom hcustom hnames] at hs)
  count := by rw [selectCount_custom hcustom hnames, h.count]
  update assignments s hs :=
    h.update assignments s (by rwa [updateRows_custom hcustom hnames] at hs)
  delete := by rw [deleteRows_custom hcustom hnames, h.delete]

/-- No statement is due to the builder. -/
theorem Query.States.withoutCustom {s : Statement} (h : q.States s custom) : q.States s := by
  cases h with
  | rows h => exact .rows (by rwa [selectRows_custom hcustom hnames] at h)
  | count h => exact .count (by rwa [selectCount_custom hcustom hnames] at h)
  | update assignments h =>
    exact .update assignments (by rwa [updateRows_custom hcustom hnames] at h)
  | delete h => exact .delete (by rwa [deleteRows_custom hcustom hnames] at h)

end

section

variable {q : Query} {truth : (D : SqlDialect) → D.Row → Truth}

theorem Query.Means.hasClause (h : q.Means truth) : q.HasClause q.plan.clause q.plan.params where
  shape := by
    rcases h.saysWhere with ⟨hempty, -, -⟩ | ⟨text, htext, -⟩
    · exact .inl hempty
    · exact .inr ⟨text, htext⟩
  rows s hs := selectRows_eq_ok h.isProper hs
  count := selectCount_eq h.isProper
  update assignments s hs := by
    rw [updateRows_eq h.isProper] at hs
    split at hs
    · cases hs
    · cases hs
      rfl
  delete := deleteRows_eq h.isProper

/-- A statement that ends with the clause of a query is aligned. -/
theorem Query.Means.isAligned_end (h : q.Means truth) {head : String} {params : List Param}
    {tokens : List SqlToken} (hhead : IsHead head.toList params tokens) :
    Statement.IsAligned ⟨head ++ q.plan.clause, params ++ q.plan.params⟩ := by
  obtain ⟨condition, hread, -⟩ := reading?_of_saysWhere_end hhead h.saysWhere
  exact Statement.placeholderCount_of_reading? hread

theorem insertRow_isAligned {table : Table} {assignments : List (String × Param)} {s : Statement}
    (hs : insertRow table assignments = .ok s) : s.IsAligned := by
  have hhead := isHead_insertText table assignments
  cases (insertRow_eq table assignments).symm.trans hs
  exact placeholderCount_of_sqlTokens? hhead.1

/-- Every statement of a query whose clause can be read is aligned. -/
theorem Query.Means.isAligned (h : q.Means truth) {s : Statement} (hs : q.States s) :
    s.IsAligned := by
  cases hs with
  | rows hs =>
    obtain ⟨r, hread, -⟩ := selectRows_reading? h.isProper h.saysWhere hs
    exact Statement.placeholderCount_of_reading? hread
  | count hs =>
    cases (selectCount_eq h.isProper).symm.trans hs
    exact h.isAligned_end (isHead_countHead q)
  | update assignments hs =>
    have hhead := isHead_updateHead q assignments
    obtain rfl := h.hasClause.update assignments s hs
    exact h.isAligned_end hhead
  | delete hs =>
    cases (deleteRows_eq h.isProper).symm.trans hs
    exact h.isAligned_end (isHead_deleteHead q)

end

/-- The statements of a query have one clause with one list of parameters, and they are aligned,
as every insertion is. The builder may be any that keeps the text of patterns, as long as no
pattern that is put to it has a backslash in its name. -/
theorem compile_hasClause {custom : CustomText} (hcustom : custom.KeepsPatterns) {maxInList : Nat}
    {table : Table} {filter : Json} {page : PageRequest} {q : Query}
    (hq : Query.compile maxInList table filter page = .ok q) (hnames : q.plan.HasPlainPatterns) :
    q.table = table.name ∧ q.columns = table.outputColumns ∧ q.page = page ∧
      (∃ clause params, q.HasClause clause params custom) ∧
      (∀ s, q.States s custom → s.IsAligned) ∧
      ∀ target assignments s, insertRow target assignments = .ok s → s.IsAligned := by
  obtain ⟨filters, ps, -, -, htable, hcolumns, hpage, hmeans⟩ := compile_means hq
  refine ⟨htable, hcolumns, hpage, ⟨q.plan.clause, q.plan.params, ?_⟩, fun s hs => ?_,
    fun target assignments s hs => insertRow_isAligned hs⟩
  · exact hmeans.hasClause.withCustom hcustom hnames
  · exact hmeans.isAligned (hs.withoutCustom hcustom hnames)

/-- A table whose columns have question marks and quotes in their names. -/
def surveyTable : Table :=
  ⟨"00000000000000000000000000000000", "data_00000000000000000000000000000000",
    [⟨"how many?", .number, true⟩, ⟨"said \"?\"", .string, true⟩], 0⟩

/-- Answers with some numbers and a pattern. -/
def surveyFilter : Json := .object [
  ("how many?", .object [("$in", .array [.int 3, .null])]),
  ("said \"?\"", .object [("$like", .string "yes")])]

/-- The query of the answers. -/
def surveyQuery : Query where
  datasetId := surveyTable.datasetId
  table := surveyTable.name
  columns := ["id", "how many?", "said \"?\""]
  page := .first
  plan := .builder [⟨"how many?", .number, .inList, .list [.int 3, .null], false⟩,
    ⟨"said \"?\"", .string, .like, .scalar (.text "%yes%"), false⟩]
  dropped := []

/-- The count of the answers has five question marks, of which three are placeholders. -/
def surveyCount : Statement where
  sql := "SELECT COUNT(*) FROM \"data_00000000000000000000000000000000\" WHERE " ++
    "\"how many?\" IN (?, ?) AND (\"said \"\"?\"\"\" ILIKE ?)"
  params := [.int 3, .null, .text "%yes%"]

theorem compile_hasClause_survey :
    Query.compile 2 surveyTable surveyFilter .first = .ok surveyQuery ∧
      surveyQuery.plan.HasPlainPatterns ∧ selectCount surveyQuery .escaping = .ok surveyCount ∧
      surveyCount.IsAligned ∧ ∃ clause params, surveyQuery.HasClause clause params .escaping := by
  have hcompile : Query.compile 2 surveyTable surveyFilter .first = .ok surveyQuery := by
    decide +kernel
  have hnames : surveyQuery.plan.HasPlainPatterns := by decide +kernel
  have hcount : selectCount surveyQuery .escaping = .ok surveyCount := by decide +kernel
  obtain ⟨-, -, -, hclause, haligned, -⟩ :=
    compile_hasClause CustomText.escaping_keepsPatterns hcompile hnames
  exact ⟨hcompile, hnames, hcount, haligned _ (.count hcount), hclause⟩

end TableQuery
