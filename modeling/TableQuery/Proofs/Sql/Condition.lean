import TableQuery.Proofs.Sql.Token

/-!
# Conditions of SQL and their truth

A condition is true, false or unknown for a row, since a value may be missing. What the
operations of the database do to values that are there is left open.

* `SqlDialect`: the operations of a database on values.
* `SqlCondition.truth`: the truth of a condition for a row.
-/

namespace TableQuery

/-! ## Truth -/

/-- A truth value of SQL. -/
inductive Truth where
  | no
  | unknown
  | yes
deriving DecidableEq, Repr

namespace Truth

/-- A known truth value. -/
def ofBool : Bool → Truth
  | false => no
  | true => yes

/-- Both hold. -/
def and : Truth → Truth → Truth
  | no, _ => no
  | _, no => no
  | yes, t => t
  | unknown, _ => unknown

/-- One of them holds. -/
def or : Truth → Truth → Truth
  | yes, _ => yes
  | _, yes => yes
  | no, t => t
  | unknown, _ => unknown

/-- It does not hold. -/
def not : Truth → Truth
  | no => yes
  | unknown => unknown
  | yes => no

/-- All of them hold. -/
def all (ts : List Truth) : Truth := ts.foldr and yes

/-- One of them holds. -/
def any (ts : List Truth) : Truth := ts.foldr or no

@[simp] theorem all_nil : all [] = yes := rfl

@[simp] theorem all_cons (t : Truth) (ts : List Truth) : all (t :: ts) = t.and (all ts) := rfl

@[simp] theorem any_nil : any [] = no := rfl

@[simp] theorem any_cons (t : Truth) (ts : List Truth) : any (t :: ts) = t.or (any ts) := rfl

@[simp] theorem and_yes (t : Truth) : t.and yes = t := by cases t <;> rfl

@[simp] theorem yes_and (t : Truth) : yes.and t = t := by cases t <;> rfl

@[simp] theorem or_no (t : Truth) : t.or no = t := by cases t <;> rfl

theorem and_comm (s t : Truth) : s.and t = t.and s := by cases s <;> cases t <;> rfl

theorem and_assoc (s t u : Truth) : (s.and t).and u = s.and (t.and u) := by
  cases s <;> cases t <;> cases u <;> rfl

end Truth

/-! ## Databases -/

/-- The functions of a database that conditions use. -/
inductive SqlFunction where
  | trunc
  | abs
  | toBigint
  | toVarchar
deriving DecidableEq, Repr

/-- The operations of a database on values that are there. A function may give nothing. -/
structure SqlDialect where
  Value : Type
  /-- The value that a parameter or a number stands for. -/
  ofParam : Param → Value
  equal : Value → Value → Bool
  less : Value → Value → Bool
  like : Value → Value → Bool
  call : SqlFunction → Value → Option Value
  /-- Integers are equal as values if they are equal. -/
  equal_int : ∀ i j : Int, equal (ofParam (.int i)) (ofParam (.int j)) = decide (i = j)

namespace SqlDialect

variable (D : SqlDialect)

/-- A row: the values of its columns, as far as they are there. -/
abbrev Row : Type := String → Option D.Value

/-- The value of a parameter, null being none. -/
def constant (p : Param) : Option D.Value := if p.isNull then none else some (D.ofParam p)

/-- Compares two values if both are there. -/
def compare (test : D.Value → D.Value → Bool) : Option D.Value → Option D.Value → Truth
  | some x, some y => .ofBool (test x y)
  | _, _ => .unknown

end SqlDialect

/-! ## Conditions -/

/-- Comparisons that are written with a sign. -/
inductive SqlComparison where
  | eq | ne | lt | gt | lte | gte
deriving DecidableEq, Repr

/-- The comparison as a test of values. -/
def SqlComparison.test (D : SqlDialect) : SqlComparison → D.Value → D.Value → Bool
  | .eq, x, y => D.equal x y
  | .ne, x, y => !D.equal x y
  | .lt, x, y => D.less x y
  | .gt, x, y => D.less y x
  | .lte, x, y => !D.less y x
  | .gte, x, y => !D.less x y

mutual

/-- An expression for a value. -/
inductive SqlValue where
  | column (name : String)
  | constant (value : Param)
  | call (function : SqlFunction) (argument : SqlValue)
  | choice (condition : SqlCondition) (yes no : SqlValue)

/-- A condition on a row. -/
inductive SqlCondition where
  | compare (sign : SqlComparison) (left right : SqlValue)
  | like (left right : SqlValue)
  | isNull (value : SqlValue)
  | isNotNull (value : SqlValue)
  | isIn (value : SqlValue) (items : List Param)
  | isNotIn (value : SqlValue) (items : List Param)
  | and (left right : SqlCondition)
  | or (left right : SqlCondition)

end

/-- The value is equal to one of the items; missing values make it unknown. -/
def SqlDialect.isAmong (D : SqlDialect) (value : Option D.Value) (items : List Param) : Truth :=
  .any (items.map fun p => D.compare D.equal value (D.constant p))

mutual

/-- The value of an expression for a row. What is not known to hold is taken not to. -/
def SqlValue.eval (D : SqlDialect) (row : D.Row) : SqlValue → Option D.Value
  | .column name => row name
  | .constant p => D.constant p
  | .call f argument => (argument.eval D row).bind (D.call f)
  | .choice condition yes no =>
    if condition.truth D row = .yes then yes.eval D row else no.eval D row

/-- The truth of a condition for a row. -/
def SqlCondition.truth (D : SqlDialect) (row : D.Row) : SqlCondition → Truth
  | .compare sign left right => D.compare (sign.test D) (left.eval D row) (right.eval D row)
  | .like left right => D.compare D.like (left.eval D row) (right.eval D row)
  | .isNull value => .ofBool (value.eval D row).isNone
  | .isNotNull value => .ofBool (value.eval D row).isSome
  | .isIn value items => D.isAmong (value.eval D row) items
  | .isNotIn value items => (D.isAmong (value.eval D row) items).not
  | .and left right => (left.truth D row).and (right.truth D row)
  | .or left right => (left.truth D row).or (right.truth D row)

end

end TableQuery
