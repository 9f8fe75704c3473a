import TableQuery.Query.Compile

/-!
# Statements

A statement is SQL text with its parameters in the order of the placeholders. The condition of a
query is written in one of two ways: the builder's way of a list of comparisons, whose values
are converted one by one, and the raw way, where text and parameters are ready.

* `CustomText`: what the builder makes of text that it does not write itself.
* `selectRows` / `selectCount`: one page of the rows, and the number of all of them.
* `insertRow` / `updateRows` / `deleteRows`: the writes.
-/

namespace TableQuery

/-- SQL text and its parameters. -/
structure Statement where
  sql : String
  params : List Param
deriving DecidableEq, Repr

/-- SQL text being built with values that are still to be converted. -/
structure Draft where
  sql : String
  values : List BoundValue
deriving DecidableEq, Repr

/-- The statement of a draft. The first value that is out of range is the fault. -/
def Draft.finish (d : Draft) : Except RequestFault Statement := do
  let params ← d.values.mapM Param.ofBound
  pure ⟨d.sql, params⟩

/-! ## Conditions in the builder's way -/

/-- What the builder makes of text with placeholders and of the values for them. It has to find the
placeholders in the text, and how it reads quotes and escapes there is its own affair, so that this
is a parameter of what is built. Where none is given, text and values are taken as they are, which
is what comes of names without a backslash. -/
abbrev CustomText : Type := String → List BoundValue → Draft

namespace Comparison

/-- The comparison as the builder writes it. A constant comparison stands for the empty list, and a
pattern is put to the builder as text. -/
def draft (c : Comparison) (custom : CustomText := Draft.mk) : Draft :=
  let column := quoteIdentifier c.column
  match c.operand, c.operator with
  | .scalar .null, .eq => ⟨column ++ " IS NULL", []⟩
  | .scalar .null, .ne => ⟨column ++ " IS NOT NULL", []⟩
  | .scalar value, .like => custom (column ++ " ILIKE ?") [.text (some value.plainText)]
  | .scalar value, .inList => ⟨column ++ " IN (?)", [value.toBound]⟩
  | .scalar value, .notIn => ⟨column ++ " NOT IN (?)", [value.toBound]⟩
  | .scalar value, op => ⟨column ++ " " ++ op.sql ++ " ?", [value.toBound]⟩
  | .list [], .notIn => ⟨"? = ?", [.signed (some 1), .signed (some 1)]⟩
  | .list [], _ => ⟨"? = ?", [.signed (some 1), .signed (some 2)]⟩
  | .list values, .notIn =>
    ⟨column ++ " NOT IN (" ++ placeholders values ++ ")", values.map Param.toBound⟩
  | .list values, _ =>
    ⟨column ++ " IN (" ++ placeholders values ++ ")", values.map Param.toBound⟩

/-- The builder takes the comparison as text of its own, which it brackets among others. -/
def isCustom (c : Comparison) : Bool :=
  match c.operand, c.operator with
  | .scalar _, .like => true
  | _, _ => false

/-- The comparison among others. -/
def amongOthers (c : Comparison) (custom : CustomText := Draft.mk) : String :=
  if c.isCustom then "(" ++ (c.draft custom).sql ++ ")" else (c.draft custom).sql

end Comparison

/-- The condition that all the comparisons hold; none without comparisons. -/
def builderClause (comparisons : List Comparison) (custom : CustomText := Draft.mk) : Draft :=
  match comparisons with
  | [] => ⟨"", []⟩
  | [c] => ⟨" WHERE " ++ (c.draft custom).sql, (c.draft custom).values⟩
  | cs =>
    ⟨" WHERE " ++ " AND ".intercalate (cs.map fun c => c.amongOthers custom),
      cs.flatMap fun c => (c.draft custom).values⟩

/-- The condition with ready text; none for empty text. -/
def rawClause (text : String) : String := if text == "" then "" else " WHERE " ++ text

/-! ## Reads -/

/-- A limit or offset as a parameter. -/
def pageParam (n : Nat) : Except RequestFault Param :=
  if (n : Int) ≤ maxInt64 then .ok (.int n) else .error (.pageRange n)

/-- The text before the condition of a read of rows. -/
def selectHead (q : Query) : String :=
  "SELECT " ++ ", ".intercalate (q.columns.map quoteIdentifier) ++ " FROM " ++
    quoteIdentifier q.table

/-- The text after the condition of a read of rows. -/
def selectTail : String := " ORDER BY " ++ quoteIdentifier keyColumnName ++ " ASC LIMIT ? OFFSET ?"

/-- The text before the condition of a count. -/
def countHead (q : Query) : String := "SELECT COUNT(*) FROM " ++ quoteIdentifier q.table

/-- Reads the rows of the page in the order of their keys. -/
def selectRows (q : Query) (custom : CustomText := Draft.mk) : Except RequestFault Statement :=
  match q.plan with
  | .builder comparisons =>
    let clause := builderClause comparisons custom
    Draft.finish ⟨selectHead q ++ clause.sql ++ selectTail,
      clause.values ++ [.unsigned (some q.page.limit), .unsigned (some q.page.offset)]⟩
  | .raw text params => do
    let limit ← pageParam q.page.limit
    let offset ← pageParam q.page.offset
    pure ⟨selectHead q ++ rawClause text ++ selectTail, params ++ [limit, offset]⟩

/-- Counts all rows that the condition admits. -/
def selectCount (q : Query) (custom : CustomText := Draft.mk) : Except RequestFault Statement :=
  match q.plan with
  | .builder comparisons =>
    let clause := builderClause comparisons custom
    Draft.finish ⟨countHead q ++ clause.sql, clause.values⟩
  | .raw text params => .ok ⟨countHead q ++ rawClause text, params⟩

/-- Both reads of a query, the rows first. -/
def selectBoth (q : Query) (custom : CustomText := Draft.mk) :
    Except RequestFault (Statement × Statement) := do
  let rows ← selectRows q custom
  let count ← selectCount q custom
  pure (rows, count)

/-! ## Writes -/

/-- What a written row sets. -/
structure WriteValues where
  assignments : List (String × Param)
  /-- Written fields that the table does not have. -/
  dropped : List String
deriving DecidableEq, Repr

/-- The columns that a row sets and the fields that it has in vain. -/
def writeValues (table : Table) : List (String × Json) → Except RequestFault WriteValues
  | [] => .ok ⟨[], []⟩
  | (name, value) :: rest =>
    match table.writable? name with
    | some column => do
      let p ← Param.coerce value column.type column.name
      let more ← writeValues table rest
      pure { more with assignments := (column.name, p) :: more.assignments }
    | none => do
      let more ← writeValues table rest
      pure { more with dropped := name :: more.dropped }

/-- Adds a row whose key is one above the largest there is. -/
def insertRow (table : Table) (assignments : List (String × Param)) :
    Except RequestFault Statement :=
  let name := quoteIdentifier table.name
  let key := quoteIdentifier keyColumnName
  let nextKey := "(SELECT COALESCE(MAX(" ++ key ++ "), 0) + 1 FROM " ++ name ++ ")"
  let columns := key :: assignments.map (quoteIdentifier ·.1)
  let values := nextKey :: assignments.map fun _ => "?"
  Draft.finish ⟨"INSERT INTO " ++ name ++ " (" ++ ", ".intercalate columns ++ ") VALUES (" ++
    ", ".intercalate values ++ ")", assignments.map (·.2.toBound)⟩

/-- The text before the condition of an update. -/
def updateHead (q : Query) (assignments : List (String × Param)) : String :=
  "UPDATE " ++ quoteIdentifier q.table ++ " SET " ++
    ", ".intercalate (assignments.map fun a => quoteIdentifier a.1 ++ " = ?")

/-- Sets columns of the rows that the condition admits. -/
def updateRows (q : Query) (assignments : List (String × Param))
    (custom : CustomText := Draft.mk) : Except RequestFault Statement :=
  if assignments.isEmpty then .error .nothingToSet
  else match q.plan with
    | .builder comparisons =>
      let clause := builderClause comparisons custom
      Draft.finish ⟨updateHead q assignments ++ clause.sql,
        assignments.map (·.2.toBound) ++ clause.values⟩
    | .raw text params =>
      .ok ⟨updateHead q assignments ++ rawClause text, assignments.map (·.2) ++ params⟩

/-- The text before the condition of a deletion. -/
def deleteHead (q : Query) : String := "DELETE FROM " ++ quoteIdentifier q.table

/-- Removes the rows that the condition admits. -/
def deleteRows (q : Query) (custom : CustomText := Draft.mk) : Except RequestFault Statement :=
  match q.plan with
  | .builder comparisons =>
    let clause := builderClause comparisons custom
    Draft.finish ⟨deleteHead q ++ clause.sql, clause.values⟩
  | .raw text params => .ok ⟨deleteHead q ++ rawClause text, params⟩

end TableQuery
