import TableQuery.Engine
import TableQuery.Proofs.Query.Page

/-!
# What the registry says of datasets

Apart from the row counts, which queries note, the registry changes by registering and dropping
datasets only, and what a table is for requests does not depend on its row count.

* `Table.forget`, `Registry.forget`: tables without their row counts.
* `Registry.find?_insertIn`, `Registry.find?_filter`: the tables after a change.
* `Registry.IsNamed`: every table has the name of its dataset.
* `Registry.Differs`: what registering and dropping change, `register_differs`, `drop_differs`.
* `storePage_forget`, `insertRows_forget`: requests do not see row counts.
-/

namespace TableQuery

/-! ## Tables without their row counts -/

/-- The table with no rows counted. -/
def Table.forget (t : Table) : Table := { t with rowCount := 0 }

@[simp] theorem Table.forget_datasetId (t : Table) : t.forget.datasetId = t.datasetId := rfl

@[simp] theorem Table.forget_name (t : Table) : t.forget.name = t.name := rfl

section

variable (n : Nat) (table : Table)

mutual

theorem lower_forget : (f : Filter) → lower n table.forget f = lower n table f
  | .condition c => rfl
  | .group kind members => by rw [lower, lower, lowerAll_forget members]

theorem lowerAll_forget : (fs : List Filter) → lowerAll n table.forget fs = lowerAll n table fs
  | [] => rfl
  | f :: rest => by rw [lowerAll, lowerAll, lower_forget f, lowerAll_forget rest]

end

theorem compile_forget (filter : Json) (page : PageRequest) :
    Query.compile n table.forget filter page = Query.compile n table filter page := by
  unfold Query.compile Query.ofFilters
  simp only [lowerAll_forget]
  rfl

theorem writeValues_forget (fields : List (String × Json)) :
    writeValues table.forget fields = writeValues table fields := by
  induction fields with
  | nil => rfl
  | cons field rest ih =>
    unfold writeValues
    rw [ih]
    rfl

theorem checkRows_forget (dropped : List String) (rows : List Json) :
    Engine.checkRows table.forget dropped rows = Engine.checkRows table dropped rows := by
  induction rows generalizing dropped with
  | nil => rfl
  | cons row rest ih =>
    cases row with
    | object fields =>
      unfold Engine.checkRows
      rw [writeValues_forget]
      simp only [ih]
    | _ => rfl

theorem insertRows_forget {σ : Type} [Store σ] (rows : List (List (String × Json))) :
    (insertRows table.forget rows : Action σ Nat) = insertRows table rows := by
  induction rows with
  | nil => rfl
  | cons row rest ih =>
    unfold insertRows
    rw [writeValues_forget, ih]
    rfl

theorem storePage_forget {σ : Type} [Store σ] (config : Config) (store : σ) (filter : Json)
    (page : PageRequest) :
    storePage config store table.forget filter page = storePage config store table filter page := by
  unfold storePage
  rw [compile_forget]

end

/-! ## The tables after a change -/

namespace Registry

theorem find?_insertIn (table : Table) (tables : List Table) (id : String) :
    (insertIn table tables).find? (·.datasetId == id) =
      if table.datasetId = id then some table else tables.find? (·.datasetId == id) := by
  induction tables with
  | nil => by_cases h : table.datasetId = id <;> simp [insertIn, h]
  | cons t rest ih =>
    unfold insertIn
    split
    · rename_i heq
      by_cases h : table.datasetId = id
      · simp [h]
      · have ht : t.datasetId ≠ id := fun ht => h (heq.symm.trans ht)
        simp [h, ht]
    · rename_i hne
      split
      · by_cases h : table.datasetId = id
        · have ht : t.datasetId ≠ id := fun ht => hne (ht.trans h.symm)
          rw [List.find?_cons_of_neg (by simpa using ht), ih, if_pos h, if_pos h]
        · rw [if_neg h] at ih ⊢
          rw [List.find?_cons, List.find?_cons, ih]
      · by_cases h : table.datasetId = id
        · simp [h]
        · simp [h]

theorem find?_filter (tables : List Table) (id id' : String) :
    (tables.filter (·.datasetId != id)).find? (·.datasetId == id') =
      if id = id' then none else tables.find? (·.datasetId == id') := by
  induction tables with
  | nil => simp
  | cons t rest ih =>
    by_cases ht : t.datasetId = id
    · rw [List.filter_cons_of_neg (by simpa using ht), ih]
      by_cases h : id = id'
      · simp [h]
      · have ht' : t.datasetId ≠ id' := fun ht' => h (ht.symm.trans ht')
        simp [h, ht']
    · rw [List.filter_cons_of_pos (by simpa using ht), List.find?_cons, ih]
      by_cases h : id = id'
      · have ht' : (t.datasetId == id') = false :=
          beq_eq_false_iff_ne.mpr fun ht' => ht (ht'.trans h.symm)
        simp only [ht', if_pos h]
      · simp only [if_neg h, List.find?_cons]

theorem mem_of_find? {r : Registry} {id : String} {t : Table} (h : r.find? id = some t) :
    t ∈ r.tables ∧ t.datasetId = id :=
  ⟨List.mem_of_find?_eq_some h, by simpa using List.find?_some h⟩

theorem get_eq_ok {r : Registry} {id : String} {t : Table} :
    r.get id = .ok t ↔ isDatasetId id = true ∧ r.find? id = some t := by
  unfold get checkDatasetId
  constructor
  · intro h
    obtain ⟨_, hid, h⟩ := bind_eq_ok.mp h
    split at hid
    · rename_i hvalid
      cases hfind : r.find? id with
      | none => rw [hfind] at h; cases h
      | some u => rw [hfind] at h; cases h; exact ⟨hvalid, rfl⟩
    · cases hid
  · rintro ⟨hvalid, hfind⟩
    rw [if_pos hvalid, hfind]
    rfl

/-! ## Registries without row counts -/

/-- The registry with no rows counted. -/
def forget (r : Registry) : Registry := ⟨r.tables.map Table.forget⟩

theorem find?_forget (r : Registry) (id : String) :
    r.forget.find? id = (r.find? id).map Table.forget := by
  unfold find? forget
  rw [List.find?_map]
  rfl

theorem get_forget (r : Registry) (id : String) :
    r.forget.get id = (r.get id).map Table.forget := by
  unfold get
  rw [find?_forget]
  unfold checkDatasetId
  split <;> cases r.find? id <;> rfl

theorem insertIn_forget (table : Table) (tables : List Table) :
    (insertIn table tables).map Table.forget = insertIn table.forget (tables.map Table.forget) := by
  induction tables with
  | nil => rfl
  | cons t rest ih =>
    simp only [List.map_cons, insertIn, Table.forget_datasetId, ← ih]
    split
    · rfl
    · split <;> rfl

theorem declare_forget {id : String} {specs : List ColumnSpec} {table : Table}
    (h : Table.declare id specs = .ok table) :
    table.forget = table ∧ table.datasetId = id ∧ table.name = tableName id ∧
      isDatasetId id = true := by
  unfold Table.declare checkDatasetId at h
  obtain ⟨_, hid, h⟩ := bind_eq_ok.mp h
  split at hid
  · rename_i hvalid
    cases hcolumns : Table.addColumns [] specs with
    | error fault => rw [hcolumns] at h; cases h
    | ok columns =>
      rw [hcolumns] at h
      cases h
      exact ⟨rfl, rfl, rfl, hvalid⟩
  · cases hid

/-- What a registration comes to does not depend on row counts, except for the count itself. -/
theorem register_forget (r : Registry) (id : String) (specs : List ColumnSpec) :
    r.forget.register id specs =
      (r.register id specs).map fun out => (out.1.forget, out.2.1, out.2.2.forget) := by
  unfold register
  cases htable : Table.declare id specs with
  | error fault => rfl
  | ok table =>
    obtain ⟨hforget, -, -, -⟩ := declare_forget htable
    have hforgotten := find?_forget r id
    cases hfind : r.find? id with
    | none =>
      rw [hfind] at hforgotten
      simp only [bind, Except.bind, hforgotten, Option.map_none]
      simp [Except.map, forget, insertIn_forget, hforget]
    | some existing =>
      rw [hfind] at hforgotten
      have hsame : existing.forget.sameShape table = existing.sameShape table := rfl
      simp only [bind, Except.bind, hforgotten, Option.map_some, hsame]
      split
      · rfl
      · simp [Except.map, forget, insertIn_forget, hforget]

theorem drop_forget (r : Registry) (id : String) :
    r.forget.drop id = (r.drop id).map fun out => (out.1, out.2.forget) := by
  unfold drop
  rw [find?_forget]
  unfold checkDatasetId forget
  split
  · simp only [Option.isSome_map, List.filter_map]
    rfl
  · rfl

@[simp] theorem updateRowCount_forget (r : Registry) (id : String) (rows : Nat) :
    (r.updateRowCount id rows).forget = r.forget := by
  unfold updateRowCount forget
  simp only [List.map_map, mk.injEq]
  refine List.map_congr_left fun t _ => ?_
  show Table.forget (if t.datasetId = id then { t with rowCount := rows } else t) = t.forget
  split <;> rfl

/-! ## Names -/

/-- Every table has the name of its dataset. -/
def IsNamed (r : Registry) : Prop := ∀ t ∈ r.tables, t.name = tableName t.datasetId

theorem isNamed_forget {r : Registry} : r.forget.IsNamed ↔ r.IsNamed := by
  simp [IsNamed, forget]

theorem isNamed_empty : empty.IsNamed := fun _ h => nomatch h

theorem mem_insertIn {table t : Table} {tables : List Table} (h : t ∈ insertIn table tables) :
    t = table ∨ t ∈ tables := by
  induction tables with
  | nil => exact .inl (List.mem_singleton.mp h)
  | cons u rest ih =>
    unfold insertIn at h
    split at h
    · rcases List.mem_cons.mp h with rfl | h
      · exact .inl rfl
      · exact .inr (List.mem_cons_of_mem _ h)
    · split at h
      · rcases List.mem_cons.mp h with rfl | h
        · exact .inr List.mem_cons_self
        · rcases ih h with h | h
          · exact .inl h
          · exact .inr (List.mem_cons_of_mem _ h)
      · exact List.mem_cons.mp h

/-! ## One dataset changes -/

/-- The registries have the same tables for all datasets but one, and the names are kept. -/
structure Differs (id : String) (r s : Registry) : Prop where
  valid : isDatasetId id = true
  others : ∀ id', id' ≠ id → s.find? id' = r.find? id'
  named : r.IsNamed → s.IsNamed

theorem differs_insertIn {id : String} {specs : List ColumnSpec} {table : Table}
    (h : Table.declare id specs = .ok table) (r : Registry) :
    r.Differs id ⟨insertIn table r.tables⟩ := by
  obtain ⟨-, rfl, hname, hvalid⟩ := declare_forget h
  refine ⟨hvalid, fun id' hne => ?_, fun hnamed t ht => ?_⟩
  · unfold find?
    rw [find?_insertIn, if_neg (Ne.symm hne)]
  · rcases mem_insertIn ht with rfl | ht
    · exact hname
    · exact hnamed t ht

/-- A registration changes one dataset, and a new one was not there before. -/
theorem register_differs {r registry : Registry} {id : String} {specs : List ColumnSpec}
    {table : Table} {registration : Registration}
    (h : r.register id specs = .ok (table, registration, registry)) :
    r.Differs id registry ∧ (registration = .reused → registry = r) ∧
      (registration = .added → r.find? id = none) := by
  obtain ⟨declared, hdeclare, h⟩ := bind_eq_ok.mp h
  have hinsert := differs_insertIn hdeclare r
  cases hfind : r.find? id with
  | none =>
    rw [hfind] at h
    cases h
    exact ⟨hinsert, fun h => (nomatch h), fun _ => rfl⟩
  | some existing =>
    rw [hfind] at h
    simp only at h
    split at h
    · cases h
      exact ⟨⟨hinsert.valid, fun _ _ => rfl, fun hnamed => hnamed⟩, fun _ => rfl, fun h => (nomatch h)⟩
    · cases h
      exact ⟨hinsert, fun h => (nomatch h), fun h => (nomatch h)⟩

theorem drop_differs {r registry : Registry} {id : String} {found : Bool}
    (h : r.drop id = .ok (found, registry)) :
    r.Differs id registry ∧ (found = false → r.find? id = none) := by
  unfold drop checkDatasetId at h
  obtain ⟨_, hid, h⟩ := bind_eq_ok.mp h
  cases h
  split at hid
  · rename_i hvalid
    refine ⟨⟨hvalid, fun id' hne => ?_, fun hnamed t ht => ?_⟩, fun h => ?_⟩
    · unfold find?
      rw [find?_filter, if_neg (Ne.symm hne)]
    · exact hnamed t (List.mem_filter.mp ht).1
    · simpa using h
  · cases hid

end Registry

end TableQuery
