import TableQuery.Sql.Identifier
import TableQuery.Sql.Param

/-!
# Predicates

A predicate is a filter that has been held against a table: every comparison names a column and
carries parameters of the column's type. A list of predicates stands for all of them together.

* `Predicate.text` / `Predicate.params`: the SQL text and its parameters, in the order of the
  placeholders. The text depends on no value of a parameter, only on which of them are null.
-/

namespace TableQuery

/-- What a column is compared with. -/
inductive Operand where
  | scalar (value : Param)
  | list (values : List Param)
deriving DecidableEq, Repr

/-- A comparison of a column. -/
structure Comparison where
  column : String
  type : ColumnType
  operator : Operator
  operand : Operand
  /-- The column's text is compared, not its value. -/
  castToText : Bool
deriving DecidableEq, Repr

/-- A comparison, or predicates joined by a connective. -/
inductive Predicate where
  | compare (c : Comparison)
  | group (kind : Connective) (members : List Predicate)

/-- The text of a column's value. Whole numbers are written as the rows return them, without a
fraction. -/
def textExpression (column : String) : ColumnType → String
  | .number =>
    "CASE WHEN " ++ column ++ " = TRUNC(" ++ column ++ ") AND ABS(" ++ column ++
      ") < 1e18 THEN CAST(CAST(" ++ column ++ " AS BIGINT) AS VARCHAR) ELSE CAST(" ++ column ++
      " AS VARCHAR) END"
  | _ => "CAST(" ++ column ++ " AS VARCHAR)"

/-- As many placeholders as there are values. -/
def placeholders {α : Type} (values : List α) : String := ", ".intercalate (values.map fun _ => "?")

namespace Comparison

/-- The left side of the comparison. -/
def subject (c : Comparison) : String :=
  if c.castToText then textExpression (quoteIdentifier c.column) c.type
  else quoteIdentifier c.column

/-- The comparison in SQL. Nothing is in the empty list and everything is outside it. -/
def text (c : Comparison) : String :=
  match c.operand, c.operator with
  | .scalar .null, .eq => c.subject ++ " IS NULL"
  | .scalar .null, .ne => c.subject ++ " IS NOT NULL"
  | .scalar _, op => c.subject ++ " " ++ op.sql ++ " ?"
  | .list [], .notIn => "1 = 1"
  | .list [], _ => "1 = 0"
  | .list values, .notIn => c.subject ++ " NOT IN (" ++ placeholders values ++ ")"
  | .list values, _ => c.subject ++ " IN (" ++ placeholders values ++ ")"

/-- The parameters of the comparison. -/
def params (c : Comparison) : List Param :=
  match c.operand, c.operator with
  | .scalar .null, .eq => []
  | .scalar .null, .ne => []
  | .scalar value, _ => [value]
  | .list values, _ => values

end Comparison

namespace Predicate

mutual

/-- The predicate in SQL, a group in parentheses. -/
def text : Predicate → String
  | .compare c => c.text
  | .group kind members => "(" ++ (" " ++ kind.sql ++ " ").intercalate (texts members) ++ ")"

/-- The predicates in SQL. -/
def texts : List Predicate → List String
  | [] => []
  | p :: rest => text p :: texts rest

end

mutual

/-- The parameters of the predicate. -/
def params : Predicate → List Param
  | .compare c => c.params
  | .group _ members => paramsOfAll members

/-- The parameters of the predicates. -/
def paramsOfAll : List Predicate → List Param
  | [] => []
  | p :: rest => params p ++ paramsOfAll rest

end

/-- All the predicates together in SQL; no text for none. -/
def conjunction (predicates : List Predicate) : String :=
  (" " ++ Connective.and.sql ++ " ").intercalate (texts predicates)

mutual

/-- Some comparison in the predicate is with the column's text. -/
def casts : Predicate → Bool
  | .compare c => c.castToText
  | .group _ members => anyCasts members

/-- Some comparison in the predicates is with the column's text. -/
def anyCasts : List Predicate → Bool
  | [] => false
  | p :: rest => casts p || anyCasts rest

end

/-- The comparison, if the predicate is not a group. -/
def comparison? : Predicate → Option Comparison
  | .compare c => some c
  | .group .. => none

end Predicate

end TableQuery
