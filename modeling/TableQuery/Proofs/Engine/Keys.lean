import TableQuery.Proofs.Engine.Fresh
import TableQuery.Proofs.Store.Keys

/-!
# The keys of datasets

Whatever an engine is asked to do, the keys of a table stay apart from one another and positive:
an inserted row gets a key above all that are there, an update changes no key, and nothing else
adds rows. The pages of a dataset are in the order of its keys, so they rest on this.

* `Registry.IsDeclared`: the tables come from declarations. None of their columns is the key.
* `EngineOperation.KeepsKeys`: what an operation may do to the rows of a table.
* `Engine.perform_keeps`: one operation. `Engine.keys_stay_apart`: every run of operations.
-/

namespace TableQuery

/-! ## Declared tables -/

namespace Registry

/-- Every table is one that declarations describe, but for the number of its rows. -/
def IsDeclared (r : Registry) : Prop :=
  ∀ t ∈ r.tables, ∃ id specs, Table.declare id specs = .ok t.forget

theorem isDeclared_empty : empty.IsDeclared := fun _ h => nomatch h

theorem IsDeclared.register {r registry : Registry} (h : r.IsDeclared) {id : String}
    {specs : List ColumnSpec} {table : Table} {registration : Registration}
    (hregister : r.register id specs = .ok (table, registration, registry)) :
    registry.IsDeclared := by
  obtain ⟨declared, hdeclare, hregister⟩ := bind_eq_ok.mp hregister
  have hinsert : IsDeclared ⟨insertIn declared r.tables⟩ := fun t ht => by
    rcases mem_insertIn ht with rfl | ht
    · exact ⟨id, specs, by rw [(declare_forget hdeclare).1, hdeclare]⟩
    · exact h t ht
  cases hfind : r.find? id with
  | none =>
    rw [hfind] at hregister
    cases hregister
    exact hinsert
  | some existing =>
    rw [hfind] at hregister
    simp only at hregister
    split at hregister
    · cases hregister
      exact h
    · cases hregister
      exact hinsert

theorem IsDeclared.drop {r registry : Registry} (h : r.IsDeclared) {id : String} {found : Bool}
    (hdrop : r.drop id = .ok (found, registry)) : registry.IsDeclared := by
  obtain ⟨_, -, hdrop⟩ := bind_eq_ok.mp hdrop
  cases hdrop
  exact fun t ht => h t (List.mem_filter.mp ht).1

theorem IsDeclared.updateRowCount {r : Registry} (h : r.IsDeclared) (id : String) (rows : Nat) :
    (r.updateRowCount id rows).IsDeclared := by
  intro t ht
  obtain ⟨u, hu, rfl⟩ := List.mem_map.mp ht
  have hforget : Table.forget (if u.datasetId = id then { u with rowCount := rows } else u) =
      u.forget := by
    split <;> rfl
  rw [hforget]
  exact h u hu

/-- The key is no column of a declared table. -/
theorem IsDeclared.keepsKey {r : Registry} (h : r.IsDeclared) {id : String} {table : Table}
    (hget : r.get id = .ok table) : table.KeepsKey := by
  obtain ⟨-, hfind⟩ := get_eq_ok.mp hget
  obtain ⟨_, _, hdeclare⟩ := h table (mem_of_find? hfind).1
  have hforget : table.forget.KeepsKey := declare_keepsKey hdeclare
  exact hforget

end Registry

/-! ## Writes -/

/-- What a write may do to the rows of a table. -/
def WriteRequest.KeepsKeys {D : SqlDialect} :
    WriteRequest → List (KeyedRow D) → List (KeyedRow D) → Prop
  | .insert _, rows, after => AddsAbove rows after
  | .update .., rows, after => SameKeys rows after
  | .delete _, rows, after => after.Sublist rows

/-- What an operation may do to the rows of a table. -/
def EngineOperation.KeepsKeys {D : SqlDialect} :
    EngineOperation → List (KeyedRow D) → List (KeyedRow D) → Prop
  | .write _ request, rows, after => request.KeepsKeys rows after
  | _, rows, after => after = rows

section

variable {D : SqlDialect} {rows after : List (KeyedRow D)}

theorem WriteRequest.keepsKeys_refl (request : WriteRequest) (rows : List (KeyedRow D)) :
    request.KeepsKeys rows rows := by
  cases request with
  | insert => exact .refl
  | update => exact rfl
  | delete => exact .refl rows

theorem WellKeyed.of_keepsKeys (h : WellKeyed rows) {op : EngineOperation}
    (hop : op.KeepsKeys rows after) : WellKeyed after := by
  cases op with
  | write id request =>
    cases request with
    | insert => exact h.of_addsAbove hop
    | update => exact h.of_keys hop
    | delete => exact h.of_sublist hop
  | register | drop | query =>
    have hsame : after = rows := hop
    exact hsame ▸ h

end

variable {σ ρ : Type} [Store σ] [KeyedStore σ]

/-- A planned write keeps the keys, also if it ends early. -/
theorem WriteRequest.plan_moves {n : Nat} {table : Table} (htable : table.KeepsKey)
    {request : WriteRequest} {write : Action σ Nat} {dropped : List String}
    (h : request.plan n table = .ok (write, dropped)) :
    write.Moves (KeyedChange request.KeepsKeys) := by
  cases request with
  | insert rows =>
    obtain ⟨⟨rows, dropped⟩, -, h⟩ := bind_eq_ok.mp h
    cases h
    exact insertRows_moves table rows
  | update filter values =>
    obtain ⟨q, hq, h⟩ := bind_eq_ok.mp h
    obtain ⟨fields, -, h⟩ := bind_eq_ok.mp h
    obtain ⟨values, hvalues, h⟩ := bind_eq_ok.mp h
    cases h
    obtain ⟨truth, -, hmeans⟩ := compileFiltered_means hq
    exact updateMatching_moves hmeans (writeValues_ne_key htable hvalues)
  | delete filter =>
    obtain ⟨q, hq, h⟩ := bind_eq_ok.mp h
    cases h
    obtain ⟨truth, -, hmeans⟩ := compileFiltered_means hq
    exact deleteMatching_moves hmeans

/-! ## Operations -/

namespace Engine

/-- The rows of all tables are as before, and declared tables stay declared. -/
def Leaves (e d : Engine σ ρ) : Prop :=
  KeyedStore.tables d.store = KeyedStore.tables e.store ∧
    (e.registry.IsDeclared → d.registry.IsDeclared)

theorem Leaves.trans {x y z : Engine σ ρ} (h : x.Leaves y) (h' : y.Leaves z) : x.Leaves z :=
  ⟨h'.1.trans h.1, fun hx => h'.2 (h.2 hx)⟩

/-- A read changes no rows. -/
theorem reading_leaves : Reading (Leaves (σ := σ) (ρ := ρ)) where
  trans := Leaves.trans
  readPage threshold q e := ⟨readPage_moves threshold q e.store, id⟩
  cache _ _ := ⟨rfl, id⟩
  rowCount _ id rows := ⟨rfl, fun h => h.updateRowCount id rows⟩
  inspections _ _ _ := ⟨rfl, id⟩

variable [DistributedTier ρ]

/-- An operation changes the rows of well keyed tables as it may, and declared tables stay
declared. -/
theorem perform_keeps (now : Instant) (op : EngineOperation) (e : Engine σ ρ)
    (hdeclared : e.registry.IsDeclared) :
    KeyedChange op.KeepsKeys e.store ((op.perform now).exec e).2.store ∧
      ((op.perform now).exec e).2.registry.IsDeclared := by
  cases op with
  | register id specs =>
    rw [EngineOperation.perform, Action.exec_map, register_exec]
    cases hregister : e.registry.register id specs with
    | error fault => exact ⟨fun _ _ => rfl, hdeclared⟩
    | ok out =>
      have hnext := hdeclared.register hregister
      simp only
      split <;> exact ⟨fun _ _ => rfl, hnext⟩
  | drop id =>
    rw [EngineOperation.perform, Action.exec_map, drop_exec]
    cases hdrop : e.registry.drop id with
    | error fault => exact ⟨fun _ _ => rfl, hdeclared⟩
    | ok out =>
      have hnext := hdeclared.drop hdrop
      simp only
      split <;> exact ⟨fun _ _ => rfl, hnext⟩
  | query id filter page limit =>
    rw [EngineOperation.perform, Action.exec_map]
    obtain ⟨htables, hnext⟩ := reading_leaves.query now id filter page limit e
    exact ⟨fun name _ => congrFun htables name, hnext hdeclared⟩
  | write id request =>
    have hrefl : KeyedChange (σ := σ) request.KeepsKeys e.store e.store :=
      fun _ _ => request.keepsKeys_refl _
    rw [EngineOperation.perform, Action.exec_map, WriteRequest.perform_exec]
    cases hget : e.registry.get id with
    | error fault => exact ⟨hrefl, hdeclared⟩
    | ok table =>
      simp only
      cases hplan : (request.plan e.config.query.maxInList table :
          Except RequestFault (Action σ Nat × List String)) with
      | error fault => exact ⟨hrefl, hdeclared⟩
      | ok planned =>
        obtain ⟨write, dropped⟩ := planned
        exact ⟨WriteRequest.plan_moves (hdeclared.keepsKey hget) hplan e.store, hdeclared⟩

/-- The keys of a table stay apart and positive in every run of operations, whatever fails in it,
and every operation keeps them: an inserted row gets a key above all that are there by then, and
an update changes no key. -/
theorem keys_stay_apart (run : List (Instant × EngineOperation)) (e : Engine σ ρ)
    (hdeclared : e.registry.IsDeclared) (name : String)
    (hkeys : WellKeyed (KeyedStore.tables e.store name)) :
    WellKeyed (KeyedStore.tables (e.afterRun run).store name) ∧
      ∀ now (op : EngineOperation), op.KeepsKeys (KeyedStore.tables (e.afterRun run).store name)
        (KeyedStore.tables ((op.perform now).exec (e.afterRun run)).2.store name) := by
  induction run generalizing e with
  | nil => exact ⟨hkeys, fun now op => (perform_keeps now op e hdeclared).1 name hkeys⟩
  | cons entry rest ih =>
    obtain ⟨now, op⟩ := entry
    obtain ⟨hchange, hnext⟩ := perform_keeps now op e hdeclared
    exact ih _ hnext (hkeys.of_keepsKeys (hchange name hkeys))

/-! ### Rows that name their key -/

/-- Two sales with the keys 3 and 1, in a store that refuses the second write. -/
def twoSales : KeyedTableStore := ⟨fun _ => [⟨3, fun _ => none⟩, ⟨1, fun _ => none⟩], [false, true]⟩

/-- Two sales are added, of which the first names a key. The second is refused, and then the key of
the others is to be set. -/
def keyRun : List (Instant × EngineOperation) := [
  (⟨0⟩, .register saleTable.datasetId [⟨"id", "string", none⟩, ⟨"region", "string", none⟩]),
  (⟨1⟩, .write saleTable.datasetId (.insert [
    .object [("id", .int 1), ("region", .string "north")], .object [("region", .string "south")]])),
  (⟨2⟩, .write saleTable.datasetId (.update (.object [("id", .object [("$lt", .int 4)])])
    (.object [("id", .int 7), ("region", .string "west")])))]

theorem keys_stay_apart_sale :
    let e := start .default (TieredCache.make .default ⟨0⟩ SwitchableTier.empty true) twoSales
    let rows := KeyedStore.tables (e.afterRun keyRun).store saleTable.name
    let regions : List (Int × Option Param) := rows.map fun row => (row.key, row.cells "region")
    regions = [(3, some (.text "west")), (1, some (.text "west")), (4, some (.text "north"))] ∧
      WellKeyed rows := by
  intro e rows regions
  have hkeys : WellKeyed (KeyedStore.tables e.store saleTable.name) := by
    refine ⟨by decide, fun row hrow => ?_⟩
    have hrow : row ∈ [(⟨3, fun _ => none⟩ : KeyedRow SqlDialect.ofParams), ⟨1, fun _ => none⟩] :=
      hrow
    rcases List.mem_pair.mp hrow with rfl | rfl <;> decide
  refine ⟨by decide +kernel, ?_⟩
  exact (keys_stay_apart keyRun e Registry.isDeclared_empty saleTable.name hkeys).1

end Engine

end TableQuery
