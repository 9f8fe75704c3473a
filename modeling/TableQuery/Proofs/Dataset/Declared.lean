import Mathlib.Data.List.Nodup
import TableQuery.Proofs.Query.Write
import TableQuery.Proofs.Registry

/-!
# Declared tables

Whatever columns are declared, the table that comes of it belongs to a dataset, has its name, and
its columns can be told apart, from one another and from the key.

* `Table.IsProper`: such tables.
* `declare_isProper`: every declaration that is not refused gives one.
-/

namespace TableQuery

/-- The table of a dataset, with columns that can be told apart. -/
structure Table.IsProper (t : Table) : Prop where
  valid : isDatasetId t.datasetId = true
  named : t.name = tableName t.datasetId
  columnNames : ∀ column ∈ t.columns, column.name ≠ "" ∧ column.name ≠ keyColumnName
  apart : (t.columns.map (·.name)).Nodup

/-- Columns are added with names, and under names that are not there. -/
theorem addColumns_apart {specs : List ColumnSpec} {done columns : List Column}
    (h : Table.addColumns done specs = .ok columns) (hdone : (done.map (·.name)).Nodup)
    (hnamed : ∀ column ∈ done, column.name ≠ "") :
    (columns.map (·.name)).Nodup ∧ ∀ column ∈ columns, column.name ≠ "" := by
  induction specs generalizing done with
  | nil =>
    cases h
    exact ⟨hdone, hnamed⟩
  | cons spec rest ih =>
    unfold Table.addColumns at h
    split at h
    · cases h
    · rename_i hname
      split at h
      · exact ih h hdone hnamed
      · split at h
        · cases h
        · rename_i hfresh
          have hnew : spec.name ∉ done.map (·.name) := by simpa using hfresh
          refine ih h ?_ fun column hcolumn => ?_
          · rw [List.map_append, List.map_singleton, List.nodup_append_comm]
            exact List.nodup_cons.mpr ⟨hnew, hdone⟩
          · rcases List.mem_append.mp hcolumn with hcolumn | hcolumn
            · exact hnamed column hcolumn
            · cases List.mem_singleton.mp hcolumn
              exact hname

theorem declare_isProper {id : String} {specs : List ColumnSpec} {table : Table}
    (h : Table.declare id specs = .ok table) : table.IsProper := by
  obtain ⟨-, hid, hname, hvalid⟩ := Registry.declare_forget h
  have hkey := declare_keepsKey h
  obtain ⟨_, -, h⟩ := bind_eq_ok.mp h
  split at h
  · rename_i columns hcolumns
    cases h
    obtain ⟨hapart, hnamed⟩ := addColumns_apart hcolumns List.nodup_nil nofun
    exact ⟨hvalid, rfl, fun column hcolumn => ⟨hnamed column hcolumn, hkey column hcolumn⟩, hapart⟩
  · cases h

/-- A table with no rows counted. -/
theorem declare_rowCount {id : String} {specs : List ColumnSpec} {table : Table}
    (h : Table.declare id specs = .ok table) : table.rowCount = 0 := by
  rw [← (Registry.declare_forget h).1]
  rfl

end TableQuery
