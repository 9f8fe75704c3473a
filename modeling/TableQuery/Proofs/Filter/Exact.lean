import Mathlib.Data.Rat.Floor
import TableQuery.Database.Value
import TableQuery.Proofs.Filter.Meaning
import TableQuery.Proofs.Numeric.Numeral

/-!
# Numbers in a database that calculates exactly

A database whose numbers are compared by their exact amounts. A whole number is cast to text as its
digits, and a decimal number with all its places.

* `SqlDialect.exact`: the database.
* `SqlDialect.textForm_integer`, `SqlDialect.textForm_decimal`: the text that the values of a column
  of numbers are searched by.
-/

namespace TableQuery

/-! ## Values -/

/-- A value of a database that calculates exactly. -/
inductive ExactValue where
  | bool (value : Bool)
  | integer (value : ℤ)
  /-- `value` units of the last of `scale` places. -/
  | decimal (scale : ℕ) (value : ℤ)
  | double (value : Binary64)
  | text (value : String)
deriving DecidableEq

namespace ExactValue

/-- The amount of a number. -/
def amount? : ExactValue → Option ℚ
  | .integer i => some i
  | .decimal scale n => some (n / 10 ^ scale)
  | .double (.finite x) => some x.value
  | _ => none

/-- Numbers are equal if their amounts are. -/
def equal (x y : ExactValue) : Bool :=
  match x.amount?, y.amount? with
  | some a, some b => decide (a = b)
  | _, _ => decide (x = y)

/-- Numbers are in the order of their amounts, and nothing else is in order. -/
def less (x y : ExactValue) : Bool :=
  match x.amount?, y.amount? with
  | some a, some b => decide (a < b)
  | _, _ => false

/-- The number without its fraction. -/
def truncate : ExactValue → ExactValue
  | .decimal scale n => .decimal 0 (n.tdiv (10 ^ scale))
  | .double (.finite x) => .double (.ofInt x.truncate)
  | v => v

/-- The number without its sign. -/
def magnitude : ExactValue → ExactValue
  | .integer i => .integer |i|
  | .decimal scale n => .decimal scale |n|
  | .double x => .double x.abs
  | v => v

/-- The nearest integer, a half going away from zero. -/
def nearest (a : ℚ) : ℤ := if 0 ≤ a then ⌊a + 1 / 2⌋ else -⌊-a + 1 / 2⌋

/-- The number as an integer of 64 bits. -/
def toBigint? (v : ExactValue) : Option ExactValue :=
  v.amount?.bind fun a =>
    if minInt64 ≤ nearest a ∧ nearest a ≤ maxInt64 then some (.integer (nearest a)) else none

/-- The value as text, doubles as they are shown. -/
def toVarchar (shown : Binary64 → String) : ExactValue → String
  | .bool b => if b then "true" else "false"
  | .integer i => toString i
  | .decimal scale n => DatabaseValue.decimalText scale n
  | .double x => shown x
  | .text s => s

end ExactValue

namespace SqlDialect

/-- The database. Which texts have a pattern and how doubles are shown is left open. -/
def exact (like : String → String → Bool) (shown : Binary64 → String) : SqlDialect where
  Value := ExactValue
  ofParam
    | .null => .text ""
    | .bool b => .bool b
    | .int i => .integer i
    | .float x => .double x
    | .text s => .text s
  equal := ExactValue.equal
  less := ExactValue.less
  like
    | .text s, .text pattern => like s pattern
    | _, _ => false
  call
    | .trunc, v => some v.truncate
    | .abs, v => some v.magnitude
    | .toBigint, v => v.toBigint?
    | .toVarchar, v => some (.text (v.toVarchar shown))
  equal_int i j := by simp [ExactValue.equal, ExactValue.amount?]

end SqlDialect

/-! ## Amounts -/

namespace ExactValue

variable {x y : ExactValue} {a b : ℚ}

theorem equal_eq (hx : x.amount? = some a) (hy : y.amount? = some b) :
    x.equal y = decide (a = b) := by
  simp only [equal, hx, hy]

theorem less_eq (hx : x.amount? = some a) (hy : y.amount? = some b) :
    x.less y = decide (a < b) := by
  simp only [less, hx, hy]

theorem nearest_intCast (i : ℤ) : nearest i = i := by
  have hhalf (j : ℤ) : ⌊(j : ℚ) + 1 / 2⌋ = j := by
    rw [Int.floor_intCast_add, show ⌊(1 / 2 : ℚ)⌋ = 0 by norm_num, add_zero]
  unfold nearest
  split
  · exact hhalf i
  · rw [← Int.cast_neg, hhalf, neg_neg]

/-- A whole amount within 64 bits is cast as it is. -/
theorem toBigint?_eq {i : ℤ} (hx : x.amount? = some (i : ℚ)) (hi : minInt64 ≤ i ∧ i ≤ maxInt64) :
    x.toBigint? = some (.integer i) := by
  rw [toBigint?, hx, Option.bind_some, nearest_intCast, if_pos hi]

/-- The bound of whole numbers is exact. -/
theorem amount?_wholeLimit : (ExactValue.double wholeLimit).amount? = some (10 ^ 18) := by
  have hlimit : wholeLimit = .finite ⟨false, 7812500000000000, 1081, by decide⟩ := by
    decide +kernel
  have hquanta : (⟨false, 7812500000000000, 1081, by decide⟩ : Finite64).quanta =
      ((10 ^ 18 * quantaPerUnit : ℕ) : ℤ) := by
    decide +kernel
  rw [hlimit, amount?, Finite64.value_eq_natCast_iff.mpr hquanta, Nat.cast_pow, Nat.cast_ofNat]

theorem equal_truncate_decimal (scale : ℕ) (n : ℤ) :
    (ExactValue.decimal scale n).equal (ExactValue.decimal scale n).truncate =
      decide ((10 ^ scale : ℤ) ∣ n) := by
  have hpower : (10 : ℚ) ^ scale ≠ 0 := by positivity
  have hamount : (ExactValue.decimal scale n).truncate.amount? =
      some ((n.tdiv (10 ^ scale) : ℤ) : ℚ) := by
    rw [truncate, amount?, pow_zero, div_one]
  rw [equal_eq rfl hamount, decide_eq_decide, div_eq_iff hpower]
  constructor
  · intro h
    exact ⟨n.tdiv (10 ^ scale), by rw [mul_comm]; exact_mod_cast h⟩
  · intro h
    exact_mod_cast (Int.tdiv_mul_cancel h).symm

end ExactValue

/-! ## Texts of numbers -/

/-- The text that a decimal number is searched by: its digits alone if it is whole and below the
bound of whole numbers. -/
def searchedText (scale : ℕ) (n : ℤ) : String :=
  if (10 ^ scale : ℤ) ∣ n ∧ |(n / 10 ^ scale : ℚ)| < 10 ^ 18 then toString (n / 10 ^ scale)
  else DatabaseValue.decimalText scale n

namespace SqlDialect

variable (like : String → String → Bool) (shown : Binary64 → String)

/-- The text of a column of numbers in the database. -/
theorem textForm_exact (v : ExactValue) : (exact like shown).textForm .number (some v) =
    if v.equal v.truncate && v.magnitude.less (.double wholeLimit) then
      v.toBigint?.map fun w => .text (w.toVarchar shown)
    else some (.text (v.toVarchar shown)) := by
  show (if (Truth.ofBool (v.equal v.truncate)).and
      (Truth.ofBool (v.magnitude.less (.double wholeLimit))) = .yes then
        v.toBigint?.bind fun w => some (ExactValue.text (w.toVarchar shown))
      else some (ExactValue.text (v.toVarchar shown))) = _
  cases v.equal v.truncate <;> cases v.magnitude.less (.double wholeLimit) <;>
    cases v.toBigint? <;> rfl

theorem textForm_integer {i : ℤ} (hi : minInt64 ≤ i ∧ i ≤ maxInt64) :
    (exact like shown).textForm .number (some (.integer i)) = some (.text (toString i)) := by
  rw [textForm_exact, ExactValue.toBigint?_eq rfl hi]
  split <;> rfl

theorem textForm_decimal (scale : ℕ) (n : ℤ) :
    (exact like shown).textForm .number (some (.decimal scale n)) =
      some (.text (searchedText scale n)) := by
  have hpower : (0 : ℚ) < 10 ^ scale := by positivity
  have hmagnitude : (ExactValue.decimal scale n).magnitude.amount? =
      some |(n / 10 ^ scale : ℚ)| := by
    rw [ExactValue.magnitude, ExactValue.amount?, abs_div, abs_of_pos hpower, Int.cast_abs]
  rw [textForm_exact, ExactValue.equal_truncate_decimal,
    ExactValue.less_eq hmagnitude ExactValue.amount?_wholeLimit, searchedText]
  have hiff : (decide ((10 ^ scale : ℤ) ∣ n) && decide (|(n / 10 ^ scale : ℚ)| < 10 ^ 18)) = true ↔
      (10 ^ scale : ℤ) ∣ n ∧ |(n / 10 ^ scale : ℚ)| < 10 ^ 18 := by
    rw [Bool.and_eq_true, decide_eq_true_iff, decide_eq_true_iff]
  by_cases hshort : (10 ^ scale : ℤ) ∣ n ∧ |(n / 10 ^ scale : ℚ)| < 10 ^ 18
  · rw [if_pos (hiff.mpr hshort), if_pos hshort]
    obtain ⟨⟨m, hm⟩, hless⟩ := hshort
    have hamount : (n / 10 ^ scale : ℚ) = m := by
      rw [hm, whole_div_ten_pow]
    have hquotient : n / 10 ^ scale = m := by
      rw [hm, Int.mul_ediv_cancel_left _ (by positivity)]
    have hword : minInt64 ≤ m ∧ m ≤ maxInt64 := by
      rw [hamount] at hless
      exact int64_of_abs_lt (by exact_mod_cast hless)
    have hexact : (ExactValue.decimal scale n).amount? = some (m : ℚ) := congrArg some hamount
    rw [ExactValue.toBigint?_eq hexact hword, hquotient]
    rfl
  · rw [if_neg (mt hiff.mp hshort), if_neg hshort]
    rfl

end SqlDialect

end TableQuery
