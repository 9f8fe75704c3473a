import TableQuery.Proofs.Store.Laws

/-!
# A store of rows

A store that holds the rows of tables and runs the statements of queries by what they mean, with
`SqlDialect.ofParams` for the values.

* `RowStore`, and its instance of `Store`.
* The instance of `LawfulStore`.
-/

namespace TableQuery

/-- The name of a quoted identifier. -/
def SqlToken.name? : SqlToken → Option String
  | .name n => some n
  | _ => none

/-- The parameter of a placeholder. -/
def SqlToken.param? : SqlToken → Option Param
  | .param p => some p
  | _ => none

/-- A written value when it is read. -/
def Param.toCell : Param → Cell
  | .null => .null
  | .bool b => .bool b
  | .int i => .int i
  | .float x => .float x
  | .text s => .text s

/-- A row with the values of its columns. -/
abbrev StoredRow := List (String × Param)

namespace StoredRow

/-- The value of a column for conditions. -/
def value (row : StoredRow) : SqlDialect.ofParams.Row := fun column =>
  (row.lookup column).bind fun p => if p.isNull then none else some p

/-- The cell of a column. -/
def cell (row : StoredRow) (column : String) : Cell := (row.lookup column).elim .null Param.toCell

/-- The key of the row. -/
def key (row : StoredRow) : Int :=
  match row.lookup keyColumnName with
  | some (.int i) => i
  | _ => 0

end StoredRow

namespace SqlReading

/-- The names before the condition. -/
def names (r : SqlReading) : List String := r.head.filterMap SqlToken.name?

/-- The parameters before the condition. -/
def values (r : SqlReading) : List Param := r.head.filterMap SqlToken.param?

/-- The row is meant by the statement. -/
def admits (r : SqlReading) (row : StoredRow) : Bool :=
  r.truth SqlDialect.ofParams row.value == .yes

/-- How many rows are meant. -/
def count (r : SqlReading) (rows : List StoredRow) : Nat := (rows.filter r.admits).length

/-- The rows of the page that a read asks for, the number of rows and how many to leave out
coming last in it. -/
def page (r : SqlReading) (rows : List StoredRow) : List (List Cell) :=
  let rows := (rows.filter r.admits).map fun row => r.names.dropLast.map row.cell
  match r.tail.filterMap SqlToken.param? with
  | [.int limit, .int offset] => (rows.drop offset.toNat).take limit.toNat
  | _ => rows

/-- The rows of a table after a write, and how many it has written. -/
def writeRows (r : SqlReading) (rows : List StoredRow) : Nat × List StoredRow :=
  match r.head with
  | .key .INSERT :: _ =>
    let next := rows.foldl (fun last row => max last row.key) 0 + 1
    (1, rows ++ [(keyColumnName, .int next) :: (r.names.drop 2).zip r.values])
  | .key .UPDATE :: _ =>
    let assigned := (r.names.drop 1).zip r.values
    (r.count rows, rows.map fun row => if r.admits row then assigned ++ row else row)
  | .key .DELETE :: _ => (r.count rows, rows.filter (!r.admits ·))
  | _ => (0, rows)

end SqlReading

/-- The rows of tables by the names of the tables. -/
structure RowStore where
  rows : String → List StoredRow

namespace RowStore

/-- No rows. -/
def empty : RowStore := ⟨fun _ => []⟩

/-- The fault of a statement that names no table. -/
def noTable : StoreFault := .database "no table"

/-- What a read gives. -/
def read {α : Type} (store : RowStore) (s : Statement)
    (answer : SqlReading → List StoredRow → α) : Except StoreFault α :=
  match s.reading? with
  | some r =>
    match r.source? with
    | some table => .ok (answer r (store.rows table))
    | none => .error noTable
  | none => .error noTable

/-- Runs a write to the table that it names. -/
def write (store : RowStore) (s : Statement) : Except StoreFault Nat × RowStore :=
  match s.reading? with
  | some r =>
    match r.target? with
    | some table =>
      let (n, rows) := r.writeRows (store.rows table)
      (.ok n, ⟨fun name => if name = table then rows else store.rows name⟩)
    | none => (.error noTable, store)
  | none => (.error noTable, store)

instance : Store RowStore where
  fetchRows s _ store := (store.read s SqlReading.page, store)
  fetchCount s store := (store.read s SqlReading.count, store)
  execute s store := store.write s
  listIndexes _ store := (.ok [], store)
  describeTable _ store := (.ok [], store)
  listTables _ store := (.ok [], store)

theorem read_sameMeaning {α : Type} {s t : Statement} (h : s.SameMeaning t)
    (answer : SqlReading → List StoredRow → α)
    (hanswer : ∀ r q rows, r.head = q.head → r.tail = q.tail → r.admits = q.admits →
      answer r rows = answer q rows) (store : RowStore) :
    store.read s answer = store.read t answer := by
  obtain ⟨r, q, hr, hq, hhead, htail, htruth⟩ := h
  have hadmits : r.admits = q.admits := by
    funext row
    rw [SqlReading.admits, SqlReading.admits, htruth]
  have hsource : r.source? = q.source? := by
    unfold SqlReading.source?
    rw [hhead, htail]
  unfold read
  simp only [hr, hq, hsource]
  cases q.source? with
  | none => rfl
  | some table => exact congrArg Except.ok (hanswer r q _ hhead htail hadmits)

/-- A read sees its own table alone, and a write changes its own table alone. -/
theorem read_write {α : Type} {s w : Statement} {a b : String} (hs : s.source? = some a)
    (hw : w.target? = some b) (hne : a ≠ b) (answer : SqlReading → List StoredRow → α)
    (store : RowStore) : (store.write w).2.read s answer = store.read s answer := by
  obtain ⟨r, hr, hsource⟩ := Option.bind_eq_some_iff.mp hs
  obtain ⟨q, hq, htarget⟩ := Option.bind_eq_some_iff.mp hw
  unfold read write
  simp only [hr, hsource, hq, htarget, if_neg hne]

instance : LawfulStore RowStore where
  fetchRows_state _ _ _ := rfl
  fetchCount_state _ _ := rfl
  fetchRows_meaning _ store h :=
    read_sameMeaning h SqlReading.page (fun r q rows hhead htail hadmits => by
      unfold SqlReading.page SqlReading.names
      rw [hhead, htail, hadmits]) store
  fetchCount_meaning store h :=
    read_sameMeaning h SqlReading.count (fun r q rows _ _ hadmits => by
      unfold SqlReading.count
      rw [hadmits]) store
  fetchRows_apart _ store hs hw hne := read_write hs hw hne SqlReading.page store
  fetchCount_apart store hs hw hne := read_write hs hw hne SqlReading.count store

end RowStore

end TableQuery
