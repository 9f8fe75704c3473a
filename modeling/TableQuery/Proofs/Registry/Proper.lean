import TableQuery.Proofs.Dataset.Declared

/-!
# Proper registries

The tables of a registry are those of different datasets, in the order of their datasets. Whatever
puts tables there, takes them away or counts their rows keeps this.

* `Registry.IsProper`: such registries.
* `IsProper.insertIn`, `IsProper.filter`, `IsProper.updateRowCount`: what keeps them proper.
* `IsProper.get_eq_ok`: a dataset is looked up among the tables.
* `register_cases`: a registration leaves the registry as it is or puts a table into it.
-/

namespace TableQuery.Registry

/-- The tables are proper and in the order of their datasets, no two of one dataset. -/
structure IsProper (r : Registry) : Prop where
  tables : ∀ t ∈ r.tables, t.IsProper
  ordered : (r.tables.map (·.datasetId)).Pairwise (· < ·)

theorem isProper_empty : empty.IsProper := ⟨nofun, .nil⟩

theorem insertIn_ordered (table : Table) {tables : List Table}
    (h : (tables.map (·.datasetId)).Pairwise (· < ·)) :
    ((insertIn table tables).map (·.datasetId)).Pairwise (· < ·) := by
  induction tables with
  | nil => exact List.pairwise_singleton _ _
  | cons t rest ih =>
    obtain ⟨hfirst, hrest⟩ := List.pairwise_cons.mp h
    unfold insertIn
    split
    · rename_i heq
      refine List.pairwise_cons.mpr ⟨fun id hid => ?_, hrest⟩
      show table.datasetId < id
      exact heq ▸ hfirst id hid
    · rename_i hne
      split
      · rename_i hlt
        refine List.pairwise_cons.mpr ⟨fun id hid => ?_, ih hrest⟩
        obtain ⟨u, hu, rfl⟩ := List.mem_map.mp hid
        rcases mem_insertIn hu with rfl | hu
        · exact hlt
        · exact hfirst u.datasetId (List.mem_map_of_mem hu)
      · rename_i hnlt
        have hlt : table.datasetId < t.datasetId := Std.lt_of_le_of_ne hnlt (Ne.symm hne)
        refine List.pairwise_cons.mpr ⟨fun id hid => ?_, h⟩
        rcases List.mem_cons.mp hid with rfl | hid
        · exact hlt
        · exact String.lt_trans hlt (hfirst id hid)

namespace IsProper

variable {r : Registry}

theorem insertIn (h : r.IsProper) {table : Table} (htable : table.IsProper) :
    IsProper ⟨Registry.insertIn table r.tables⟩ where
  tables t ht := (mem_insertIn ht).elim (fun heq => heq ▸ htable) (h.tables t)
  ordered := insertIn_ordered table h.ordered

theorem filter (h : r.IsProper) (keep : Table → Bool) : IsProper ⟨r.tables.filter keep⟩ where
  tables t ht := h.tables t (List.mem_filter.mp ht).1
  ordered := h.ordered.sublist (List.filter_sublist.map _)

theorem updateRowCount (h : r.IsProper) (id : String) (rows : Nat) :
    (r.updateRowCount id rows).IsProper where
  tables t ht := by
    obtain ⟨u, hu, rfl⟩ := List.mem_map.mp ht
    obtain ⟨hvalid, hnamed, hcolumns, hapart⟩ := h.tables u hu
    split <;> exact ⟨hvalid, hnamed, hcolumns, hapart⟩
  ordered := by
    have hids : (r.updateRowCount id rows).tables.map (·.datasetId) =
        r.tables.map (·.datasetId) := by
      rw [Registry.updateRowCount, List.map_map]
      refine List.map_congr_left fun t _ => ?_
      dsimp only [Function.comp]
      split <;> rfl
    rw [hids]
    exact h.ordered

/-- No two tables are of one dataset. -/
theorem find?_eq_some (h : r.IsProper) {id : String} {t : Table} :
    r.find? id = some t ↔ t ∈ r.tables ∧ t.datasetId = id := by
  refine ⟨mem_of_find?, ?_⟩
  rintro ⟨ht, rfl⟩
  have hapart : (r.tables.map (·.datasetId)).Nodup :=
    h.ordered.imp Std.ne_of_lt
  cases hfind : r.find? t.datasetId with
  | none =>
    have hne := List.find?_eq_none.mp hfind t ht
    simp at hne
  | some u =>
    obtain ⟨hu, hid⟩ := mem_of_find? hfind
    rw [List.inj_on_of_nodup_map hapart hu ht hid]

/-- Whatever is registered can be asked for. -/
theorem get_eq_ok (h : r.IsProper) {id : String} {t : Table} :
    r.get id = .ok t ↔ r.find? id = some t := by
  rw [Registry.get_eq_ok]
  refine ⟨And.right, fun hfind => ⟨?_, hfind⟩⟩
  obtain ⟨ht, rfl⟩ := mem_of_find? hfind
  exact (h.tables t ht).valid

end IsProper

/-! ## What is found after a change -/

/-- The columns of a dataset, if it is registered. -/
def columns? (r : Registry) (id : String) : Option (List Column) := (r.find? id).map (·.columns)

theorem find?_updateRowCount (r : Registry) (id id' : String) (rows : Nat) :
    (r.updateRowCount id rows).find? id' =
      if id = id' then (r.find? id').map fun t => { t with rowCount := rows } else r.find? id' := by
  unfold updateRowCount find?
  rw [List.find?_map]
  have hids : ((fun t : Table => t.datasetId == id') ∘
      fun t => if t.datasetId = id then { t with rowCount := rows } else t) =
        fun t => t.datasetId == id' := by
    funext t
    dsimp only [Function.comp]
    split <;> rfl
  rw [hids]
  cases hfind : r.tables.find? (·.datasetId == id') with
  | none => split <;> rfl
  | some t =>
    have hid : t.datasetId = id' := by simpa using List.find?_some hfind
    simp only [Option.map_some, hid, eq_comm (a := id)]
    split <;> rfl

theorem columns?_updateRowCount (r : Registry) (id id' : String) (rows : Nat) :
    (r.updateRowCount id rows).columns? id' = r.columns? id' := by
  unfold columns?
  rw [find?_updateRowCount]
  split
  · rw [Option.map_map]
    rfl
  · rfl

/-- A registration that succeeds leaves the registry as it is, if the dataset has the columns, or it
puts the table that is declared into it. -/
theorem register_cases {r registry : Registry} {id : String} {specs : List ColumnSpec}
    {table : Table} {registration : Registration}
    (h : r.register id specs = .ok (table, registration, registry)) :
    ∃ declared, Table.declare id specs = .ok declared ∧
      (r.find? id = some table ∧ table.columns = declared.columns ∧ registration = .reused ∧
          registry = r ∨
        r.columns? id ≠ some declared.columns ∧ table = declared ∧
          registry = ⟨insertIn declared r.tables⟩) := by
  obtain ⟨declared, hdeclare, h⟩ := bind_eq_ok.mp h
  refine ⟨declared, hdeclare, ?_⟩
  unfold columns?
  cases hfind : r.find? id with
  | none =>
    rw [hfind] at h
    cases h
    exact .inr ⟨nofun, rfl, rfl⟩
  | some existing =>
    have hid : existing.datasetId = declared.datasetId :=
      (mem_of_find? hfind).2.trans (declare_forget hdeclare).2.1.symm
    rw [hfind] at h
    simp only [Table.sameShape, hid, beq_self_eq_true, Bool.true_and, beq_iff_eq] at h
    split at h
    · rename_i hcolumns
      cases h
      exact .inl ⟨rfl, hcolumns, rfl, rfl⟩
    · rename_i hcolumns
      cases h
      exact .inr ⟨fun heq => hcolumns (Option.some.inj heq), rfl, rfl⟩

end TableQuery.Registry
