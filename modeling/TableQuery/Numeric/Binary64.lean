/-!
# Double precision numbers as exact values

A finite double is a sign and a whole number of *quanta*, a quantum being `2^-1074`. Every
operation here is one exact computation on integers followed by one rounding, so nothing
depends on the machine's arithmetic.

* `Binary64.ofRatio`: the double nearest to a ratio of quanta, a half going to the even
  significand.
* `Binary64.mul` / `Binary64.div`: the exact product or quotient, rounded once.
* `Binary64.lt` / `Binary64.le`: the order of the exact values; a comparison with `nan` fails.
-/

namespace TableQuery

-- Powers are those of whole numbers, whatever other structure numbers are given.
attribute [instance (high)] instPowNat
attribute [default_instance 20000] instPowNat

/-- Quanta in one unit. -/
def quantaPerUnit : Nat := 2 ^ 1074

/-- The fields of a finite double: at most 53 significant bits, and all 53 of them unless the
exponent is the smallest one, so that each value has one form per sign. -/
def CanonicalDouble (significand exponent : Nat) : Prop :=
  significand < 2 ^ 53 ∧ exponent ≤ 2045 ∧ (exponent = 0 ∨ 2 ^ 52 ≤ significand)

instance (m e : Nat) : Decidable (CanonicalDouble m e) := by
  unfold CanonicalDouble; infer_instance

/-- A finite double of magnitude `significand * 2 ^ exponent` quanta. -/
structure Finite64 where
  negative : Bool
  significand : Nat
  exponent : Nat
  canonical : CanonicalDouble significand exponent
deriving DecidableEq, Repr

namespace Finite64

/-- The absolute value in quanta. -/
def magnitude (x : Finite64) : Nat := x.significand * 2 ^ x.exponent

/-- The signed value in quanta. Both zeros have the value 0. -/
def quanta (x : Finite64) : Int := if x.negative then -(x.magnitude : Int) else x.magnitude

/-- The value has no fractional part. -/
def isWhole (x : Finite64) : Bool := x.magnitude % quantaPerUnit == 0

/-- The integer part, the fraction being dropped. -/
def truncate (x : Finite64) : Int := x.quanta.tdiv quantaPerUnit

/-- Positive zero. -/
def zero : Finite64 := ⟨false, 0, 0, by decide⟩

/-- The absolute value. -/
def abs (x : Finite64) : Finite64 := { x with negative := false }

end Finite64

/-- A double: not a number, an infinity, or a finite value. -/
inductive Binary64 where
  | nan
  | infinite (negative : Bool)
  | finite (value : Finite64)
deriving DecidableEq, Repr

/-- `n / d` rounded to the nearest integer, a half going to the even neighbour. -/
def roundQuotient (n d : Nat) : Nat :=
  let q := n / d
  let r := n % d
  if 2 * r < d then q
  else if d < 2 * r then q + 1
  else if q % 2 = 0 then q else q + 1

namespace Binary64

/-- The double with these fields; magnitudes past the largest finite one become infinite. -/
def pack (negative : Bool) (significand exponent : Nat) : Binary64 :=
  if h : CanonicalDouble significand exponent then
    .finite ⟨negative, significand, exponent, h⟩
  else .infinite negative

/-- The double nearest to `n / d` quanta, a half going to the even significand. -/
def ofRatio (negative : Bool) (n d : Nat) : Binary64 :=
  let e := (n / d).log2 - 52
  let m := roundQuotient n (d * 2 ^ e)
  if m = 2 ^ 53 then pack negative (2 ^ 52) (e + 1) else pack negative m e

/-- The double nearest to a natural number. -/
def ofNat (n : Nat) : Binary64 := ofRatio false (n * quantaPerUnit) 1

/-- The double nearest to an integer. -/
def ofInt (i : Int) : Binary64 := ofRatio (decide (i < 0)) (i.natAbs * quantaPerUnit) 1

/-- Positive zero. -/
def zero : Binary64 := .finite .zero

/-- The value is neither infinite nor `nan`. -/
def isFinite : Binary64 → Bool
  | .finite _ => true
  | _ => false

/-- The absolute value. -/
def abs : Binary64 → Binary64
  | .nan => .nan
  | .infinite _ => .infinite false
  | .finite x => .finite x.abs

/-- The order of the values. Nothing is below or above `nan`. -/
def lt : Binary64 → Binary64 → Bool
  | .nan, _ => false
  | _, .nan => false
  | .infinite s, .infinite t => s && !t
  | .infinite s, .finite _ => s
  | .finite _, .infinite t => !t
  | .finite x, .finite y => decide (x.quanta < y.quanta)

/-- Below or equal in value; both zeros are equal. -/
def le : Binary64 → Binary64 → Bool
  | .nan, _ => false
  | _, .nan => false
  | .infinite s, .infinite t => s || !t
  | .infinite s, .finite _ => s
  | .finite _, .infinite t => !t
  | .finite x, .finite y => decide (x.quanta ≤ y.quanta)

/-- The product, rounded once. Zero times an infinity is `nan`. -/
def mul : Binary64 → Binary64 → Binary64
  | .nan, _ => .nan
  | _, .nan => .nan
  | .infinite s, .infinite t => .infinite (s ^^ t)
  | .infinite s, .finite y => if y.significand = 0 then .nan else .infinite (s ^^ y.negative)
  | .finite x, .infinite t => if x.significand = 0 then .nan else .infinite (x.negative ^^ t)
  | .finite x, .finite y =>
    ofRatio (x.negative ^^ y.negative) (x.magnitude * y.magnitude) quantaPerUnit

/-- The quotient, rounded once. A number over zero is infinite, zero over zero is `nan`. -/
def div : Binary64 → Binary64 → Binary64
  | .nan, _ => .nan
  | _, .nan => .nan
  | .infinite _, .infinite _ => .nan
  | .infinite s, .finite y => .infinite (s ^^ y.negative)
  | .finite x, .infinite t => .finite ⟨x.negative ^^ t, 0, 0, by decide⟩
  | .finite x, .finite y =>
    if y.significand = 0 then
      if x.significand = 0 then .nan else .infinite (x.negative ^^ y.negative)
    else ofRatio (x.negative ^^ y.negative) (x.magnitude * quantaPerUnit) y.magnitude

/-- The integer part as a word of 64 bits: clamped to the range, and 0 for `nan`. -/
def toWord : Binary64 → Nat
  | .nan => 0
  | .infinite s => if s then 0 else 2 ^ 64 - 1
  | .finite x => min x.truncate.toNat (2 ^ 64 - 1)

/-- The nearest number of single precision: 24 significant bits, quanta of `2^-149`. -/
def toSingle : Binary64 → Binary64
  | .finite x =>
    let unit := 2 ^ 925
    let e := (x.magnitude / unit).log2 - 23
    let m := roundQuotient x.magnitude (unit * 2 ^ e)
    if 2 ^ 277 ≤ m * 2 ^ e then .infinite x.negative
    else ofRatio x.negative (m * 2 ^ e * unit) 1
  | x => x

end Binary64

end TableQuery
