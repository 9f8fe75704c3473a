import TableQuery.Advice.Plan
import TableQuery.Proofs.Dataset.Declared
import TableQuery.Proofs.Sql.Token

/-!
# Planned indexes apart

The indexes that a table should have are on different columns, and the statement that creates an
index tells its name, its table and its column, whatever characters these have. A record of
statements therefore shows which of the planned indexes were tried.

* `indexPlans_nodup`: no index is planned twice.
* `IndexPlan.sqlTokens?_statement`: how the statement of an index is read.
* `IndexPlan.statement_injective`: different indexes have different statements.
-/

namespace TableQuery

theorem indexPlans_columns (t : Table) :
    t.indexPlans.map (·.column) =
      keyColumnName :: (t.columns.filter Column.wantsIndex).map (·.name) := by
  unfold Table.indexPlans
  rw [List.map_cons, List.map_map]
  rfl

/-- The planned indexes are on different columns. -/
theorem indexPlans_columns_nodup {t : Table} (h : t.IsProper) :
    (t.indexPlans.map (·.column)).Nodup := by
  rw [indexPlans_columns, List.nodup_cons]
  constructor
  · intro hmem
    obtain ⟨column, hcolumn, hname⟩ := List.mem_map.mp hmem
    exact (h.columnNames column (List.mem_of_mem_filter hcolumn)).2 hname
  · exact (List.filter_sublist.map _).nodup h.apart

theorem indexPlans_nodup {t : Table} (h : t.IsProper) : t.indexPlans.Nodup :=
  (indexPlans_columns_nodup h).of_map

namespace IndexPlan

/-- The tokens of the statement that creates an index. -/
def tokens (p : IndexPlan) : List SqlToken := [
  .other "CREATE", .other "INDEX", .other "IF", .key .NOT, .other "EXISTS", .name p.name,
  .other "ON", .name p.table, .sign .leftParen, .name p.column, .sign .rightParen]

theorem sqlTokens?_statement (p : IndexPlan) :
    sqlTokens? p.statement.params p.statement.sql.toList = some p.tokens := by
  have hcreate : sqlTokens? [] "CREATE INDEX IF NOT EXISTS ".toList =
      some [.other "CREATE", .other "INDEX", .other "IF", .key .NOT, .other "EXISTS"] := rfl
  have hon : sqlTokens? [] " ON ".toList = some [.other "ON"] := rfl
  have hopen : sqlTokens? [] " (".toList = some [.sign .leftParen] := rfl
  have hclose : sqlTokens? [] ")".toList = some [.sign .rightParen] := rfl
  have hname := sqlTokens?_append hcreate (sqlTokens?_quoteIdentifier p.name) (.inr rfl)
  have htable := sqlTokens?_append hon (sqlTokens?_quoteIdentifier p.table) (.inr rfl)
  have hcolumn := sqlTokens?_append
    (sqlTokens?_append hopen (sqlTokens?_quoteIdentifier p.column) (.inr rfl)) hclose (.inl rfl)
  have hall := sqlTokens?_append (sqlTokens?_append hname htable (.inl rfl)) hcolumn (.inl rfl)
  unfold statement
  rw [String.toList_append, String.toList_append, String.toList_append, String.toList_append,
    String.toList_append, String.toList_append]
  simp only [List.append_assoc, List.nil_append, List.cons_append] at hall ⊢
  exact hall

/-- Different indexes have different statements. -/
theorem statement_injective : Function.Injective statement := by
  intro p q h
  have htokens : p.tokens = q.tokens := by
    apply Option.some.inj
    rw [← sqlTokens?_statement, ← sqlTokens?_statement, h]
  simp only [tokens, List.cons.injEq, SqlToken.name.injEq, true_and] at htokens
  obtain ⟨hname, htable, hcolumn, -⟩ := htokens
  cases p
  cases q
  simp_all

end IndexPlan

end TableQuery
