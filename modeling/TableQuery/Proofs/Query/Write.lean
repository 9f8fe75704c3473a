import TableQuery.Proofs.Query.Independence
import TableQuery.Proofs.Query.Page
import TableQuery.Proofs.Query.Target
import TableQuery.Proofs.Sql.Write

/-!
# The writes of statements

An insertion computes its key, an update sets the columns that it is given for the rows of its
condition, and a deletion removes the rows of its condition.

* `insertRow_write?`, `updateRows_write?`, `deleteRows_write?`: what the statements are read as.
* `writeValues_ne_key`: no row that is written names the key of a declared table.
-/

namespace TableQuery

/-! ## Statements -/

/-- The next key of a table, and then values. -/
def insertedValues (table : String) (ps : List Param) : List SqlInserted :=
  .aboveLargest keyColumnName 0 1 table :: ps.map .constant

theorem readInserted?_nextKeyTokens (table : String) (rest : List SqlToken) :
    readInserted? (nextKeyTokens table ++ rest) =
      some (.aboveLargest keyColumnName 0 1 table, rest) := by
  have hzero : integerOf? "0" = some 0 := by decide +kernel
  have hone : integerOf? "1" = some 1 := by decide +kernel
  simp [nextKeyTokens, readInserted?, hzero, hone]

/-- The tokens of an inserted value. -/
def SqlInserted.tokens : SqlInserted → List SqlToken
  | .constant p => [.param p]
  | .aboveLargest _ _ _ table => nextKeyTokens table

theorem valueTokens_eq (table : String) (ps : List Param) :
    valueTokens table ps = withCommas ((insertedValues table ps).map SqlInserted.tokens) := by
  unfold valueTokens insertedValues
  rw [List.map_cons, List.map_map]
  rfl

theorem insertRow_write? {table : Table} {assignments : List (String × Param)} {s : Statement}
    (hs : insertRow table assignments = .ok s) :
    s.write? = some (.insert table.name (keyColumnName :: assignments.map (·.1))
      (insertedValues table.name (assignments.map (·.2)))) := by
  obtain ⟨htokens, hends⟩ := isHead_insertText table assignments
  cases (insertRow_eq table assignments).symm.trans hs
  have hread : Statement.reading? ⟨insertText table assignments, assignments.map (·.2)⟩ =
      some ⟨insertTokens table.name assignments, none, []⟩ :=
    reading?_of_unfiltered (by simpa using htokens) hends rfl
  have hcolumns (rest : List SqlToken) :
      readList? readName? (nameTokens (keyColumnName :: assignments.map (·.1)) ++
        .sign .rightParen :: rest) =
        some (keyColumnName :: assignments.map (·.1), .sign .rightParen :: rest) :=
    readList?_withCommas (by simp) (by simp) (fun n _ rest => rfl) (by simp)
  have hvalues : readList? readInserted? (valueTokens table.name (assignments.map (·.2)) ++
      [.sign .rightParen]) =
      some (insertedValues table.name (assignments.map (·.2)), [.sign .rightParen]) := by
    rw [valueTokens_eq]
    refine readList?_withCommas (by simp [insertedValues]) (fun x _ => ?_) (fun x hx rest => ?_)
      (by simp)
    · cases x <;> simp [SqlInserted.tokens, nextKeyTokens]
    · rcases List.mem_cons.mp hx with rfl | hx
      · exact readInserted?_nextKeyTokens table.name rest
      · obtain ⟨p, -, rfl⟩ := List.mem_map.mp hx
        rfl
  rw [Statement.write?, hread, Option.bind_some]
  simp [SqlReading.write?, insertTokens, hcolumns, hvalues]

section

variable {q : Query} {truth : (D : SqlDialect) → D.Row → Truth}

theorem Query.Means.updateRows_write? (h : q.Means truth) {assignments : List (String × Param)}
    {s : Statement} (hs : updateRows q assignments = .ok s) :
    ∃ condition, s.write? = some (.update q.table assignments condition) := by
  rw [updateRows_eq h.isProper] at hs
  split at hs
  · cases hs
  · rename_i hne
    cases hs
    obtain ⟨condition, hread, -⟩ :=
      reading?_of_saysWhere_end (isHead_updateHead q assignments) h.saysWhere
    have hset : readList? readAssignment?
        (withCommas (assignments.map fun a => [.name a.1, .sign .eq, .param a.2]) ++ []) =
        some (assignments, []) :=
      readList?_withCommas (by simpa using hne) (by simp) (fun a _ rest => rfl) (by simp)
    rw [List.append_nil] at hset
    refine ⟨condition, ?_⟩
    rw [Statement.write?, hread, Option.bind_some]
    simp [SqlReading.write?, updateTokens, hset]

theorem Query.Means.deleteRows_write? (h : q.Means truth) {s : Statement}
    (hs : deleteRows q = .ok s) : ∃ condition, s.write? = some (.delete q.table condition) := by
  obtain ⟨condition, hread, -⟩ := reading?_of_saysWhere_end (isHead_deleteHead q) h.saysWhere
  cases (deleteRows_eq h.isProper).symm.trans hs
  rw [List.nil_append] at hread
  exact ⟨condition, by rw [Statement.write?, hread]; rfl⟩

end

/-! ## Values of declared tables -/

/-- The key is no column that a row can set. -/
def Table.KeepsKey (t : Table) : Prop := ∀ column ∈ t.columns, column.name ≠ keyColumnName

theorem addColumns_ne_key {specs : List ColumnSpec} {done columns : List Column}
    (h : Table.addColumns done specs = .ok columns)
    (hdone : ∀ column ∈ done, column.name ≠ keyColumnName) :
    ∀ column ∈ columns, column.name ≠ keyColumnName := by
  induction specs generalizing done with
  | nil => cases h; exact hdone
  | cons spec rest ih =>
    unfold Table.addColumns at h
    split at h
    · cases h
    · split at h
      · exact ih h hdone
      · rename_i hkey
        split at h
        · cases h
        · refine ih h fun column hcolumn => ?_
          rcases List.mem_append.mp hcolumn with hcolumn | hcolumn
          · exact hdone column hcolumn
          · cases List.mem_singleton.mp hcolumn
            exact hkey

/-- A declared table keeps its key, whatever the declarations are. -/
theorem declare_keepsKey {id : String} {specs : List ColumnSpec} {table : Table}
    (h : Table.declare id specs = .ok table) : table.KeepsKey := by
  unfold Table.declare at h
  obtain ⟨_, -, h⟩ := bind_eq_ok.mp h
  split at h
  · rename_i columns hcolumns
    cases h
    exact addColumns_ne_key hcolumns (by simp)
  · cases h

/-- No row sets the key, also one that names it. -/
theorem writeValues_ne_key {table : Table} (htable : table.KeepsKey)
    {fields : List (String × Json)} {values : WriteValues}
    (h : writeValues table fields = .ok values) :
    keyColumnName ∉ values.assignments.map (·.1) := by
  rw [writeValues_columns h]
  intro hmem
  obtain ⟨name, -, hname⟩ := List.mem_filterMap.mp hmem
  obtain ⟨column, hcolumn, heq⟩ := Option.map_eq_some_iff.mp hname
  exact htable column (List.mem_of_find?_eq_some hcolumn) heq

end TableQuery
