import TableQuery.Query.ResultPage
import TableQuery.Store.Interface

/-!
# Running queries

Statements are made before the first of them is run, so a request that cannot be put into
statements does not reach the store.

* `readPage`: one page of rows, and how many rows there are.
* `insertRows`, `updateMatching`, `deleteMatching`: the writes, and how many rows they wrote.
-/

namespace TableQuery

variable {σ : Type} [Store σ]

/-- A row for the caller: the names of the columns with the cells. -/
def rowFields (threshold : Binary64) (columns : List String) (cells : List Cell) :
    List (String × Json) :=
  Json.distinctFields (columns.zip (cells.map (Cell.toJson threshold)))

/-- The rows of the page and the number of rows on all pages. The rows are counted first. -/
def readPage (threshold : Binary64) (q : Query) :
    Action σ (List (List (String × Json)) × Nat) := do
  let (rows, count) ← Action.request (selectBoth q)
  let total ← Store.call (Store.fetchCount count)
  let cells ← Store.call (Store.fetchRows rows q.columns.length)
  pure (cells.map (rowFields threshold q.columns), total)

/-- Inserts rows one at a time. -/
def insertRows (table : Table) : List (List (String × Json)) → Action σ Nat
  | [] => pure 0
  | row :: rest => do
    let values ← Action.request (writeValues table row)
    let statement ← Action.request (insertRow table values.assignments)
    let n ← Store.call (Store.execute statement)
    let more ← insertRows table rest
    pure (n + more)

/-- Sets columns of the rows that the query means. -/
def updateMatching (q : Query) (values : WriteValues) : Action σ Nat := do
  let statement ← Action.request (updateRows q values.assignments)
  Store.call (Store.execute statement)

/-- Removes the rows that the query means. -/
def deleteMatching (q : Query) : Action σ Nat := do
  let statement ← Action.request (deleteRows q)
  Store.call (Store.execute statement)

end TableQuery
