import TableQuery.Database.Value

/-!
# Connections to the database

A connection runs one statement after the other. What it says is read column by column; a
column that is not there or holds something else is a fault of the database.

* `Connection`: what is asked of a connection.
* `StatementOutcome.readAll`, `readFirst`, `written`: what came back.
* `ScriptedConnection`: a connection with the outcomes given beforehand.
-/

namespace TableQuery

/-- What a statement came to. -/
inductive StatementOutcome where
  /-- Rows, perhaps with a failure after the last. -/
  | rows (rows : List (List DatabaseValue)) (failure : Option String)
  | affected (count : Nat)
  | failed (detail : String)
deriving Inhabited

/-- A connection to a database. -/
class Connection (κ : Type) where
  /-- Runs a statement with its parameters. -/
  run : String → List DatabaseValue → κ → StatementOutcome × κ

/-! ## Columns -/

namespace DatabaseRow

/-- The value of a column. -/
def value (row : List DatabaseValue) (i : Nat) : Except String DatabaseValue :=
  match row[i]? with
  | some v => .ok v
  | none => .error ("Invalid column index: " ++ toString i)

/-- The column holds something else. -/
def wrongType {α : Type} (i : Nat) : Except String α :=
  .error ("Invalid column type at index: " ++ toString i)

/-- The text in a column. -/
def text (row : List DatabaseValue) (i : Nat) : Except String String := do
  match ← value row i with
  | .text s => .ok s
  | _ => wrongType i

/-- The text in a column, if there is one. -/
def optionalText (row : List DatabaseValue) (i : Nat) : Except String (Option String) := do
  match ← value row i with
  | .text s => .ok (some s)
  | .null => .ok none
  | _ => wrongType i

/-- The number in a column; below zero there is nothing to count. -/
def count (row : List DatabaseValue) (i : Nat) : Except String Nat := do
  match ← value row i with
  | .integer _ n => if minInt64 ≤ n ∧ n ≤ maxInt64 then .ok n.toNat else wrongType i
  | _ => wrongType i

/-- The cells of the first columns. -/
def cells (width : Nat) (row : List DatabaseValue) : Except String (List Cell) :=
  (List.range width).mapM fun i => (value row i).map DatabaseValue.toCell

end DatabaseRow

/-! ## Outcomes -/

namespace StatementOutcome

/-- Reads all rows. The first fault, of a row or of the statement, is the outcome. -/
def readAll {α : Type} (read : List DatabaseValue → Except String α) :
    StatementOutcome → Except String (List α)
  | .rows found failure => do
    let results ← found.mapM read
    match failure with
    | none => .ok results
    | some detail => .error detail
  | .affected _ => .ok []
  | .failed detail => .error detail

/-- Reads the first row, which must be there. -/
def readFirst {α : Type} (read : List DatabaseValue → Except String α) :
    StatementOutcome → Except String α
  | .rows (row :: _) _ => read row
  | .rows [] (some detail) | .failed detail => .error detail
  | .rows [] none | .affected _ => .error "Query returned no rows"

/-- The number of rows written. -/
def written : StatementOutcome → Except String Nat
  | .rows .. => .ok 0
  | .affected n => .ok n
  | .failed detail => .error detail

end StatementOutcome

/-! ## Prepared outcomes -/

/-- A connection whose outcomes are given beforehand. Past their end nothing happens. -/
structure ScriptedConnection where
  script : List StatementOutcome
  /-- The statements so far, the oldest first. -/
  log : List (String × List DatabaseValue)

instance : Connection ScriptedConnection where
  run sql params c :=
    (c.script.head?.getD (.affected 0), ⟨c.script.tail, c.log ++ [(sql, params)]⟩)

end TableQuery
