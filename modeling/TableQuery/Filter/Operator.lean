/-!
# Operators of filters

The nine comparisons and the two connectives that a filter may use, with the keys that write
them.
-/

namespace TableQuery

/-- A comparison of a field with a value or a list of values. -/
inductive Operator where
  | eq
  | ne
  | like
  | gt
  | lt
  | gte
  | lte
  | inList
  | notIn
deriving DecidableEq, Repr

namespace Operator

/-- All operators. -/
def all : List Operator := [.eq, .ne, .like, .gt, .lt, .gte, .lte, .inList, .notIn]

/-- The key that writes the operator. -/
def key : Operator → String
  | .eq => "$eq"
  | .ne => "$ne"
  | .like => "$like"
  | .gt => "$gt"
  | .lt => "$lt"
  | .gte => "$gte"
  | .lte => "$lte"
  | .inList => "$in"
  | .notIn => "$notIn"

/-- The operator that a key writes. -/
def ofKey? (key : String) : Option Operator := all.find? (·.key == key)

/-- The operand is a list. -/
def takesList : Operator → Bool
  | .inList | .notIn => true
  | _ => false

/-- The operator in SQL. -/
def sql : Operator → String
  | .eq => "="
  | .ne => "<>"
  | .like => "ILIKE"
  | .gt => ">"
  | .lt => "<"
  | .gte => ">="
  | .lte => "<="
  | .inList => "IN"
  | .notIn => "NOT IN"

end Operator

/-- How the members of a group are joined. -/
inductive Connective where
  | and
  | or
deriving DecidableEq, Repr

namespace Connective

/-- The key that writes the connective. -/
def key : Connective → String
  | .and => "$and"
  | .or => "$or"

/-- The connective that a key writes. -/
def ofKey? (key : String) : Option Connective :=
  [Connective.and, .or].find? (·.key == key)

/-- The connective in SQL. -/
def sql : Connective → String
  | .and => "AND"
  | .or => "OR"

end Connective

end TableQuery
