import Mathlib.Data.List.Basic
import Mathlib.Logic.Function.Basic
import TableQuery.Proofs.Sql.Grammar

/-!
# Writes in SQL

What insertions, updates and deletions do to the rows of a table with an integer key. They are
read from the tokens of a statement, as its condition is, and they happen as a whole or not at
all.

* `Statement.write?`: the write that a statement is.
* `SqlWrite.rows?`: the rows of its table afterwards, unless the write is refused.
* `WellKeyed`, `AddsAbove`: what is expected of keys.
-/

namespace TableQuery

/-! ## Grammar -/

/-- A value that an insertion gives to a column. -/
inductive SqlInserted where
  | constant (value : Param)
  /-- So much more than the largest value of a column, or than `least` if the table has no rows. -/
  | aboveLargest (column : String) (least step : Int) (table : String)
deriving DecidableEq, Repr

/-- A statement that writes. -/
inductive SqlWrite where
  | insert (table : String) (columns : List String) (values : List SqlInserted)
  | update (table : String) (assignments : List (String × Param)) (condition : Option SqlCondition)
  | delete (table : String) (condition : Option SqlCondition)

/-- Items with commas between them, up to so many, and the tokens that are left. -/
def readCommas? {α : Type} (read : List SqlToken → Option (α × List SqlToken)) :
    Nat → List SqlToken → Option (List α × List SqlToken)
  | 0, _ => none
  | bound + 1, tokens => do
    let (item, rest) ← read tokens
    match rest with
    | .sign .comma :: rest =>
      (readCommas? read bound rest).map fun (items, rest) => (item :: items, rest)
    | _ => some ([item], rest)

/-- Items with commas between them, each of a token at least. -/
def readList? {α : Type} (read : List SqlToken → Option (α × List SqlToken))
    (tokens : List SqlToken) : Option (List α × List SqlToken) :=
  readCommas? read tokens.length tokens

/-- The name of a column. -/
def readName? : List SqlToken → Option (String × List SqlToken)
  | .name n :: rest => some (n, rest)
  | _ => none

/-- A column with the value that it is set to. -/
def readAssignment? : List SqlToken → Option ((String × Param) × List SqlToken)
  | .name n :: .sign .eq :: .param p :: rest => some ((n, p), rest)
  | _ => none

/-- The integer that a word writes. -/
def integerOf? (word : String) : Option Int :=
  match Param.ofNumeral? word with
  | some (.int i) => some i
  | _ => none

/-- A value to insert. -/
def readInserted? : List SqlToken → Option (SqlInserted × List SqlToken)
  | .param p :: rest => some (.constant p, rest)
  | .sign .leftParen :: .key .SELECT :: .key .COALESCE :: .sign .leftParen :: .key .MAX ::
      .sign .leftParen :: .name column :: .sign .rightParen :: .sign .comma :: .other least ::
      .sign .rightParen :: .sign .plus :: .other step :: .key .FROM :: .name table ::
      .sign .rightParen :: rest => do
    let least ← integerOf? least
    let step ← integerOf? step
    some (.aboveLargest column least step table, rest)
  | _ => none

/-- The write of a statement that is read. -/
def SqlReading.write? (r : SqlReading) : Option SqlWrite :=
  match r.head, r.tail with
  | .key .INSERT :: .key .INTO :: .name table :: .sign .leftParen :: rest, [] => do
    let (columns, rest) ← readList? readName? rest
    match rest, r.condition with
    | .sign .rightParen :: .key .VALUES :: .sign .leftParen :: rest, none => do
      let (values, rest) ← readList? readInserted? rest
      if rest = [.sign .rightParen] then some (.insert table columns values) else none
    | _, _ => none
  | .key .UPDATE :: .name table :: .key .SET :: rest, [] => do
    let (assignments, rest) ← readList? readAssignment? rest
    if rest = [] then some (.update table assignments r.condition) else none
  | [.key .DELETE, .key .FROM, .name table], [] => some (.delete table r.condition)
  | _, _ => none

/-- The write that a statement is. -/
def Statement.write? (s : Statement) : Option SqlWrite := s.reading?.bind SqlReading.write?

theorem length_le_withCommas {items : List (List SqlToken)} (h : ∀ item ∈ items, item ≠ []) :
    items.length ≤ (withCommas items).length := by
  induction items with
  | nil => exact Nat.zero_le _
  | cons item rest ih =>
    have hitem : 0 < item.length := List.length_pos_iff.mpr (h item (by simp))
    cases rest with
    | nil => simpa [withCommas, Nat.one_le_iff_ne_zero] using h
    | cons next rest =>
      have hrest := ih fun other hother => h other (by simp [hother])
      simp only [withCommas_cons_cons, List.length_append, List.length_cons] at hrest ⊢
      omega

section

variable {α : Type} {read : List SqlToken → Option (α × List SqlToken)}
  {tokens : α → List SqlToken} {xs : List α} {rest : List SqlToken}

theorem readCommas?_withCommas (bound : Nat) (hxs : xs ≠ []) (hbound : xs.length ≤ bound)
    (hread : ∀ x ∈ xs, ∀ rest, read (tokens x ++ rest) = some (x, rest))
    (hrest : rest.head? ≠ some (.sign .comma)) :
    readCommas? read bound (withCommas (xs.map tokens) ++ rest) = some (xs, rest) := by
  induction xs generalizing bound with
  | nil => exact absurd rfl hxs
  | cons x xs ih =>
    obtain ⟨m, rfl⟩ : ∃ m, bound = m + 1 := ⟨bound - 1, by simp at hbound; omega⟩
    cases xs with
    | nil =>
      have hone : withCommas ([x].map tokens) = tokens x := by simp [withCommas]
      rw [hone, readCommas?, hread x (by simp)]
      simp only [Option.bind_eq_bind, Option.bind_some]
      split
      · exact absurd rfl hrest
      · rfl
    | cons y ys =>
      have hmore := ih m (by simp) (by simpa using hbound)
        fun z hz => hread z (by simp [hz])
      rw [List.map_cons] at hmore
      rw [List.map_cons, List.map_cons, withCommas_cons_cons, List.append_assoc, readCommas?,
        hread x (by simp)]
      simp [hmore]

/-- Items that can be read one by one can be read with commas between them. -/
theorem readList?_withCommas (hxs : xs ≠ []) (htokens : ∀ x ∈ xs, tokens x ≠ [])
    (hread : ∀ x ∈ xs, ∀ rest, read (tokens x ++ rest) = some (x, rest))
    (hrest : rest.head? ≠ some (.sign .comma)) :
    readList? read (withCommas (xs.map tokens) ++ rest) = some (xs, rest) := by
  refine readCommas?_withCommas _ hxs ?_ hread hrest
  have hitems : ∀ item ∈ xs.map tokens, item ≠ [] := fun item hitem => by
    obtain ⟨x, hx, rfl⟩ := List.mem_map.mp hitem
    exact htokens x hx
  have hlength := length_le_withCommas hitems
  rw [List.length_map] at hlength
  rw [List.length_append]
  omega

end

/-! ## What writes do -/

/-- A row of a table with an integer key. -/
structure KeyedRow (D : SqlDialect) where
  key : Int
  /-- The values of the other columns. -/
  cells : D.Row

/-- The rows of the tables of a database. -/
abbrev KeyedTables (D : SqlDialect) : Type := String → List (KeyedRow D)

variable {D : SqlDialect}

/-- The largest key of rows, or another number if there are no rows. -/
def largestKey (least : Int) (rows : List (KeyedRow D)) : Int :=
  (rows.map (·.key)).max?.getD least

namespace KeyedRow

/-- The values of all columns, for conditions. -/
def value (row : KeyedRow D) : D.Row := fun column =>
  if column = keyColumnName then some (D.ofParam (.int row.key)) else row.cells column

/-- The condition of a write is true for the row; all rows are meant without a condition. -/
def isMeant (condition : Option SqlCondition) (row : KeyedRow D) : Bool :=
  condition.all fun c => c.truth D row.value == .yes

/-- The row of values for its columns. Its key must be an integer. -/
def ofValues? (values : List (String × Param)) : Option (KeyedRow D) :=
  match values.lookup keyColumnName with
  | some (.int key) => some ⟨key, fun column => (values.lookup column).bind D.constant⟩
  | _ => none

/-- The row with values set, and with another key if there is one. -/
def assign (assignments : List (String × Param)) (key : Option Int) (row : KeyedRow D) :
    KeyedRow D :=
  ⟨key.getD row.key, fun column => (assignments.lookup column).elim (row.cells column) D.constant⟩

end KeyedRow

/-- The key that assignments set, if any. It must be an integer. -/
def assignedKey? (assignments : List (String × Param)) : Option (Option Int) :=
  match assignments.lookup keyColumnName with
  | none => some none
  | some (.int key) => some (some key)
  | some _ => none

/-- The value that is inserted. Only keys are asked for the largest of them. -/
def SqlInserted.value? (tables : KeyedTables D) : SqlInserted → Option Param
  | .constant p => some p
  | .aboveLargest column least step table =>
    if column = keyColumnName then some (.int (largestKey least (tables table) + step)) else none

namespace SqlWrite

/-- The table that is written to. -/
def table : SqlWrite → String
  | insert table .. | update table .. | delete table _ => table

/-- The rows of the table after a write. A write is refused that names a column twice, or that
does not give an integer to a key. -/
def rows? (tables : KeyedTables D) : SqlWrite → Option (List (KeyedRow D))
  | insert table columns values =>
    if columns.Nodup ∧ columns.length = values.length then do
      let values ← values.mapM (SqlInserted.value? tables)
      let row ← KeyedRow.ofValues? (columns.zip values)
      some (tables table ++ [row])
    else none
  | update table assignments condition =>
    if (assignments.map (·.1)).Nodup then do
      let key ← assignedKey? assignments
      some ((tables table).map fun row =>
        if row.isMeant condition then row.assign assignments key else row)
    else none
  | delete table condition => some ((tables table).filter fun row => !row.isMeant condition)

/-- The tables after a write. -/
def effect? (tables : KeyedTables D) (w : SqlWrite) : Option (KeyedTables D) :=
  (w.rows? tables).map (Function.update tables w.table)

end SqlWrite

/-! ## Keys -/

/-- The keys of rows are apart from one another, and positive. -/
structure WellKeyed (rows : List (KeyedRow D)) : Prop where
  distinct : (rows.map (·.key)).Nodup
  positive : ∀ row ∈ rows, 0 < row.key

/-- Rows are added one at a time, each with a key above all those that are there. -/
inductive AddsAbove (rows : List (KeyedRow D)) : List (KeyedRow D) → Prop where
  | refl : AddsAbove rows rows
  | add {grown : List (KeyedRow D)} {row : KeyedRow D} (h : AddsAbove rows grown)
      (above : ∀ other ∈ grown, other.key < row.key) (positive : 0 < row.key) :
      AddsAbove rows (grown ++ [row])

section

variable {rows grown : List (KeyedRow D)}

theorem AddsAbove.trans {more : List (KeyedRow D)} (h : AddsAbove rows grown)
    (hmore : AddsAbove grown more) : AddsAbove rows more := by
  induction hmore with
  | refl => exact h
  | add _ above positive ih => exact ih.add above positive

theorem WellKeyed.of_addsAbove (h : WellKeyed rows) (hgrown : AddsAbove rows grown) :
    WellKeyed grown := by
  induction hgrown with
  | refl => exact h
  | @add grown row _ above positive ih =>
    refine ⟨?_, fun other hother => ?_⟩
    · rw [List.map_append, List.map_singleton, List.nodup_append]
      refine ⟨ih.distinct, by simp, fun key hkey last hlast => ?_⟩
      obtain ⟨other, hother, rfl⟩ := List.mem_map.mp hkey
      cases List.mem_singleton.mp hlast
      exact Int.ne_of_lt (above other hother)
    · rcases List.mem_append.mp hother with hother | hother
      · exact ih.positive other hother
      · cases List.mem_singleton.mp hother
        exact positive

theorem WellKeyed.of_keys (h : WellKeyed rows) (hkeys : grown.map (·.key) = rows.map (·.key)) :
    WellKeyed grown := by
  refine ⟨hkeys ▸ h.distinct, fun row hrow => ?_⟩
  have hmem : row.key ∈ rows.map (·.key) := hkeys ▸ List.mem_map_of_mem hrow
  obtain ⟨other, hother, heq⟩ := List.mem_map.mp hmem
  exact heq ▸ h.positive other hother

theorem WellKeyed.of_sublist (h : WellKeyed rows) (hless : grown.Sublist rows) : WellKeyed grown :=
  ⟨h.distinct.sublist (hless.map _), fun row hrow => h.positive row (hless.subset hrow)⟩

/-- No key is above the largest. -/
theorem key_le_largestKey (least : Int) {row : KeyedRow D} (h : row ∈ rows) :
    row.key ≤ largestKey least rows := by
  have hmem : row.key ∈ rows.map (·.key) := List.mem_map_of_mem h
  obtain ⟨largest, hlargest⟩ := Option.isSome_iff_exists.mp (List.isSome_max?_of_mem hmem)
  rw [largestKey, hlargest]
  exact (List.max?_eq_some_iff.mp hlargest).2 row.key hmem

/-- The largest of positive keys is not negative. -/
theorem WellKeyed.largestKey_nonneg (h : WellKeyed rows) : 0 ≤ largestKey 0 rows := by
  cases rows with
  | nil => exact Int.le_refl 0
  | cons row rest =>
    have hpositive := h.positive row List.mem_cons_self
    have hle := key_le_largestKey 0 (List.mem_cons_self (a := row) (l := rest))
    omega

/-- A write that is not refused changes its own table alone. -/
theorem SqlWrite.effect?_eq_some {tables after : KeyedTables D} {w : SqlWrite}
    (h : w.effect? tables = some after) :
    w.rows? tables = some (after w.table) ∧ ∀ name, name ≠ w.table → after name = tables name := by
  obtain ⟨rows, hrows, rfl⟩ := Option.map_eq_some_iff.mp h
  refine ⟨by rw [hrows, Function.update_self], fun name hne => Function.update_of_ne hne _ _⟩

end

/-! ## Keys after writes -/

section

variable {tables : KeyedTables D} {rows : List (KeyedRow D)} {table : String}

/-- An insertion whose key is one above the largest adds one row. -/
theorem rows?_insert {columns : List String} {ps : List Param} (h : WellKeyed (tables table))
    (hrows : SqlWrite.rows? tables (.insert table (keyColumnName :: columns)
      (.aboveLargest keyColumnName 0 1 table :: ps.map .constant)) = some rows) :
    AddsAbove (tables table) rows := by
  simp only [SqlWrite.rows?] at hrows
  split at hrows
  · obtain ⟨values, hvalues, hrows⟩ := Option.bind_eq_some_iff.mp hrows
    obtain ⟨row, hrow, hrows⟩ := Option.bind_eq_some_iff.mp hrows
    cases hrows
    rw [List.mapM_cons] at hvalues
    obtain ⟨p, hp, hvalues⟩ := Option.bind_eq_some_iff.mp hvalues
    obtain ⟨more, -, hvalues⟩ := Option.bind_eq_some_iff.mp hvalues
    cases hvalues
    rw [SqlInserted.value?, if_pos rfl] at hp
    cases hp
    have hkey : row.key = largestKey 0 (tables table) + 1 := by
      simp [KeyedRow.ofValues?] at hrow
      rw [← hrow]
    refine .add .refl (fun other hother => ?_) ?_
    · have hle := key_le_largestKey 0 hother
      omega
    · have hnonneg := h.largestKey_nonneg
      omega
  · cases hrows

/-- An update that does not set the key keeps all keys. -/
theorem rows?_update {assignments : List (String × Param)} {condition : Option SqlCondition}
    (hkey : keyColumnName ∉ assignments.map (·.1))
    (hrows : SqlWrite.rows? tables (.update table assignments condition) = some rows) :
    rows.map (·.key) = (tables table).map (·.key) := by
  have hnone : assignedKey? assignments = some none := by
    have hlookup : assignments.lookup keyColumnName = none := by
      rw [List.lookup_eq_none_iff]
      intro a ha
      have hne : keyColumnName ≠ a.1 := fun heq => hkey (heq ▸ List.mem_map_of_mem ha)
      simpa using hne
    rw [assignedKey?, hlookup]
  simp only [SqlWrite.rows?] at hrows
  split at hrows
  · rw [hnone] at hrows
    cases hrows
    rw [List.map_map]
    refine List.map_congr_left fun row _ => ?_
    show KeyedRow.key (if row.isMeant condition then row.assign assignments none else row) = row.key
    split <;> rfl
  · cases hrows

theorem rows?_delete {condition : Option SqlCondition}
    (hrows : SqlWrite.rows? tables (.delete table condition) = some rows) :
    rows.Sublist (tables table) := by
  cases hrows
  exact List.filter_sublist

end

end TableQuery
