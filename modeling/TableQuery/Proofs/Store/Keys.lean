import TableQuery.Proofs.Query.Write
import TableQuery.Proofs.Store.Rows

/-!
# Keys in a store

What the writes of tables do to the keys of the rows, in a store that runs each statement as a
whole or not at all. A row of statements may end early, and the store may refuse any of them, for
instance when there is no integer above its keys.

* `KeyedStore`: what is expected of the store.
* `readPage_moves`, `insertRows_moves`, `updateMatching_moves`, `deleteMatching_moves`: what reads
  and writes change.
* `KeyedTableStore`: a store of this kind.
-/

namespace TableQuery

/-- A store whose tables have rows with integer keys. A write that fails leaves the rows as they
are, and one that succeeds has its effect on them. Reads change nothing. -/
class KeyedStore (σ : Type) [Store σ] where
  dialect : SqlDialect
  tables : σ → KeyedTables dialect
  execute_error : ∀ {s : Statement} {store : σ} {fault : StoreFault},
    (Store.execute s store).1 = .error fault → tables (Store.execute s store).2 = tables store
  execute_ok : ∀ {s : Statement} {store : σ} {n : Nat} {w : SqlWrite},
    (Store.execute s store).1 = .ok n → s.write? = some w →
      w.effect? (tables store) = some (tables (Store.execute s store).2)
  fetchRows_tables : ∀ (s : Statement) (n : Nat) (store : σ),
    tables (Store.fetchRows s n store).2 = tables store
  fetchCount_tables : ∀ (s : Statement) (store : σ),
    tables (Store.fetchCount s store).2 = tables store

/-! ## Reads and writes -/

section

variable {σ : Type} [Store σ] [KeyedStore σ]

/-- A page is read without a change of the rows. -/
theorem readPage_moves (threshold : Binary64) (q : Query) :
    (readPage threshold q : Action σ _).Moves fun store after =>
      KeyedStore.tables after = KeyedStore.tables store := by
  refine Action.Moves.request_bind (fun _ => rfl) fun both _ => ?_
  refine Action.Moves.bind (fun h h' => h'.trans h) (fun store => ?_) fun total => ?_
  · rw [Store.exec_call]
    exact KeyedStore.fetchCount_tables _ _
  · refine Action.Moves.bind (fun h h' => h'.trans h) (fun store => ?_) fun cells => ?_
    · rw [Store.exec_call]
      exact KeyedStore.fetchRows_tables _ _ _
    · exact Action.moves_of_unchanged (fun _ => rfl) fun _ => rfl

/-- How the rows of a table change in a store. -/
abbrev RowsChange (σ : Type) [Store σ] [KeyedStore σ] : Type :=
  List (KeyedRow (KeyedStore.dialect σ)) → List (KeyedRow (KeyedStore.dialect σ)) → Prop

/-- The rows of every table whose keys are apart and positive have changed as `P` says. -/
def KeyedChange (P : RowsChange σ) (store after : σ) : Prop :=
  ∀ name, WellKeyed (KeyedStore.tables store name) →
    P (KeyedStore.tables store name) (KeyedStore.tables after name)

/-- A statement changes its own table by its effect, or nothing at all. -/
theorem execute_change {P : RowsChange σ} (hrefl : ∀ rows, P rows rows) {s : Statement}
    {w : SqlWrite} (hw : s.write? = some w)
    (heffect : ∀ (tables : KeyedTables (KeyedStore.dialect σ)) rows, WellKeyed (tables w.table) →
      w.rows? tables = some rows → P (tables w.table) rows) (store : σ) :
    KeyedChange P store (Store.execute s store).2 := by
  intro name hkeys
  cases houtcome : (Store.execute s store).1 with
  | error fault =>
    rw [KeyedStore.execute_error houtcome]
    exact hrefl _
  | ok n =>
    obtain ⟨hrows, hothers⟩ := SqlWrite.effect?_eq_some (KeyedStore.execute_ok houtcome hw)
    by_cases hname : name = w.table
    · subst hname
      exact heffect _ _ hkeys hrows
    · rw [hothers name hname]
      exact hrefl _

theorem execute_moves {P : RowsChange σ} (hrefl : ∀ rows, P rows rows) {s : Statement}
    {w : SqlWrite} (hw : s.write? = some w)
    (heffect : ∀ (tables : KeyedTables (KeyedStore.dialect σ)) rows, WellKeyed (tables w.table) →
      w.rows? tables = some rows → P (tables w.table) rows) :
    (Store.call (Store.execute s) : Action σ Nat).Moves (KeyedChange P) := by
  intro store
  rw [Store.exec_call]
  exact execute_change hrefl hw heffect store

theorem keyedChange_addsAbove_trans {x y z : σ} (h : KeyedChange (σ := σ) AddsAbove x y)
    (h' : KeyedChange (σ := σ) AddsAbove y z) : KeyedChange (σ := σ) AddsAbove x z := by
  intro name hkeys
  have hfirst := h name hkeys
  exact hfirst.trans (h' name (hkeys.of_addsAbove hfirst))

/-- Each row that is inserted gets a key above those that are there by then. -/
theorem insertRows_moves (table : Table) (rows : List (List (String × Json))) :
    (insertRows table rows : Action σ Nat).Moves (KeyedChange AddsAbove) := by
  have hrefl : ∀ store : σ, KeyedChange AddsAbove store store := fun _ _ _ => .refl
  induction rows with
  | nil => exact Action.moves_of_unchanged hrefl fun _ => rfl
  | cons row rest ih =>
    unfold insertRows
    refine Action.Moves.request_bind hrefl fun values _ => ?_
    refine Action.Moves.request_bind hrefl fun s hs => ?_
    refine Action.Moves.bind keyedChange_addsAbove_trans ?_ fun n => ?_
    · exact execute_moves (fun _ => .refl) (insertRow_write? hs) fun _ _ => rows?_insert
    · exact Action.Moves.bind keyedChange_addsAbove_trans ih fun more =>
        Action.moves_of_unchanged hrefl fun _ => rfl

/-- The keys of the rows are the same as before, one by one. -/
def SameKeys {D : SqlDialect} (rows after : List (KeyedRow D)) : Prop :=
  after.map (·.key) = rows.map (·.key)

variable {q : Query} {truth : (D : SqlDialect) → D.Row → Truth}

theorem updateMatching_moves (h : q.Means truth) {values : WriteValues}
    (hkey : keyColumnName ∉ values.assignments.map (·.1)) :
    (updateMatching q values : Action σ Nat).Moves (KeyedChange SameKeys) := by
  refine Action.Moves.request_bind (fun _ _ _ => rfl) fun s hs => ?_
  obtain ⟨condition, hw⟩ := h.updateRows_write? hs
  exact execute_moves (P := SameKeys) (fun _ => rfl) hw fun _ _ _ hrows => rows?_update hkey hrows

theorem deleteMatching_moves (h : q.Means truth) :
    (deleteMatching q : Action σ Nat).Moves
      (KeyedChange fun rows after => after.Sublist rows) := by
  refine Action.Moves.request_bind (fun _ _ _ => .refl _) fun s hs => ?_
  obtain ⟨condition, hw⟩ := h.deleteRows_write? hs
  exact execute_moves .refl hw fun _ _ _ hrows => rows?_delete hrows

end

/-! ## A store with keys -/

/-- How many rows a write changes. -/
def SqlWrite.affected {D : SqlDialect} (tables : KeyedTables D) : SqlWrite → Nat
  | .insert .. => 1
  | .update table _ condition | .delete table condition =>
    ((tables table).filter (KeyedRow.isMeant condition)).length

/-- Tables of rows with integer keys, and for the next writes whether they are refused. Nothing
is read from it. -/
structure KeyedTableStore where
  tables : KeyedTables SqlDialect.ofParams
  refusals : List Bool

namespace KeyedTableStore

/-- Runs a write, unless it is one that is refused. -/
def write (store : KeyedTableStore) (s : Statement) : Except StoreFault Nat × KeyedTableStore :=
  let next := { store with refusals := store.refusals.tail }
  if store.refusals.head? = some true then (.error (.unavailable "refused"), next)
  else
    match s.write?.bind fun w => (w.effect? store.tables).map (w.affected store.tables, ·) with
    | some (n, tables) => (.ok n, { next with tables })
    | none => (.error (.database "refused"), next)

/-- A write fails and leaves the tables, or it has its effect on them. -/
theorem write_cases (store : KeyedTableStore) (s : Statement) :
    (∃ fault, store.write s = (.error fault, { store with refusals := store.refusals.tail })) ∨
      ∃ w n tables, s.write? = some w ∧ w.effect? store.tables = some tables ∧
        store.write s = (.ok n, ⟨tables, store.refusals.tail⟩) := by
  unfold write
  split
  · exact .inl ⟨_, rfl⟩
  · cases hw : s.write? with
    | none => exact .inl ⟨_, rfl⟩
    | some w =>
      cases heffect : w.effect? store.tables with
      | none => exact .inl ⟨.database "refused", by simp [heffect]⟩
      | some tables =>
        exact .inr ⟨w, w.affected store.tables, tables, rfl, heffect, by simp [heffect]⟩

instance : Store KeyedTableStore where
  fetchRows _ _ store := (.ok [], store)
  fetchCount _ store := (.ok 0, store)
  execute s store := store.write s
  listIndexes _ store := (.ok [], store)
  describeTable _ store := (.ok [], store)
  listTables _ store := (.ok [], store)

instance : KeyedStore KeyedTableStore where
  dialect := SqlDialect.ofParams
  tables store := store.tables
  execute_error {s store fault} h := by
    change (store.write s).1 = .error fault at h
    change (store.write s).2.tables = store.tables
    rcases store.write_cases s with ⟨_, hwrite⟩ | ⟨_, _, _, -, -, hwrite⟩
    · rw [hwrite]
    · rw [hwrite] at h
      cases h
  execute_ok {s store n w} h hw := by
    change (store.write s).1 = .ok n at h
    change w.effect? store.tables = some (store.write s).2.tables
    rcases store.write_cases s with ⟨_, hwrite⟩ | ⟨w', _, tables, hw', heffect, hwrite⟩
    · rw [hwrite] at h
      cases h
    · cases hw.symm.trans hw'
      rw [heffect, hwrite]
  fetchRows_tables _ _ _ := rfl
  fetchCount_tables _ _ := rfl

end KeyedTableStore

end TableQuery
