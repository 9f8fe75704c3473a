import TableQuery.Store.Interface

/-!
# A store with prepared answers

Each call takes the next answer and is written down. Where no answer is left, nothing is there
and nothing happens.
-/

namespace TableQuery

/-- What the store was asked. -/
inductive StoreCall where
  | fetchRows (statement : Statement) (width : Nat)
  | fetchCount (statement : Statement)
  | execute (statement : Statement)
  | listIndexes (table : String)
  | describeTable (table : String)
  | listTables (start : String)
deriving DecidableEq, Repr

/-- An answer for whatever is asked. -/
structure PreparedAnswer where
  /-- The call fails with these words. -/
  unavailable : Option String
  rows : List (List Cell)
  count : Nat
  affected : Nat
  indexes : List StoredIndex
  columns : List StoredColumn
  tables : List String
deriving DecidableEq, Repr

/-- Nothing is there. -/
def PreparedAnswer.nothing : PreparedAnswer := ⟨none, [], 0, 0, [], [], []⟩

/-- A store with prepared answers. -/
structure PreparedStore where
  answers : List PreparedAnswer
  /-- The calls so far, the oldest first. -/
  calls : List StoreCall
deriving DecidableEq, Repr

namespace PreparedStore

/-- No answers and no calls. -/
def empty : PreparedStore := ⟨[], []⟩

/-- Takes the next answer for a call. -/
def answer {α : Type} (call : StoreCall) (read : PreparedAnswer → α) (s : PreparedStore) :
    Except StoreFault α × PreparedStore :=
  let next := s.answers.head?.getD .nothing
  (match next.unavailable with
    | some detail => .error (.unavailable detail)
    | none => .ok (read next), ⟨s.answers.tail, s.calls ++ [call]⟩)

instance : Store PreparedStore where
  fetchRows statement width := answer (.fetchRows statement width) (·.rows)
  fetchCount statement := answer (.fetchCount statement) (·.count)
  execute statement := answer (.execute statement) (·.affected)
  listIndexes table := answer (.listIndexes table) (·.indexes)
  describeTable table := answer (.describeTable table) (·.columns)
  listTables start := answer (.listTables start) (·.tables)

end PreparedStore

end TableQuery
