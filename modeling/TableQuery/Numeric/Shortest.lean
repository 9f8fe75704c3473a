import TableQuery.Numeric.Decimal

/-!
# The shortest decimal text of a double

A double is written with the fewest significant digits that read back as the same double;
of several such numerals the one nearest to the exact value is taken. `Digits` holds the
outcome, and a `NumberLayout` says how the digits are set: where an exponent begins to be
written and whether a whole number keeps a fraction.

* `RoundingInterval.contains`: a decimal lies among the reals that round to the number.
* `RoundingInterval.shortest`: the digits.
* `NumberLayout.write`: the text.
-/

namespace TableQuery

/-- Which of two equally near numerals is written. -/
inductive Tie where
  | even
  | up
deriving DecidableEq, Repr

/-- The positive number `coefficient * 10 ^ exponent`. -/
structure Digits where
  coefficient : Nat
  exponent : Int
deriving DecidableEq, Repr

/-- How many decimal digits a number has; zero has none. -/
def decimalLength (n : Nat) : Nat := if n = 0 then 0 else (Nat.toDigits 10 n).length

/-- Moves the zeros at the end of the coefficient into the exponent. -/
def Digits.trim (fuel : Nat) (x : Digits) : Digits :=
  match fuel with
  | 0 => x
  | fuel + 1 =>
    if x.coefficient ≠ 0 ∧ x.coefficient % 10 = 0 then
      Digits.trim fuel ⟨x.coefficient / 10, x.exponent + 1⟩
    else x

/-- A magnitude above zero in quanta, and the reals around it that round to it: those no
farther down than `below` and no farther up than `above`, both in quarters of a quantum. The
ends belong to them if `closed`. -/
structure RoundingInterval where
  magnitude : Nat
  below : Nat
  above : Nat
  closed : Bool
deriving DecidableEq, Repr

namespace RoundingInterval

/-- `c * 10 ^ k` lies in the interval. -/
def contains (x : RoundingInterval) (c : Nat) (k : Int) : Bool :=
  let point := c * 10 ^ k.toNat * (4 * quantaPerUnit)
  let low := (4 * x.magnitude - x.below) * 10 ^ (-k).toNat
  let high := (4 * x.magnitude + x.above) * 10 ^ (-k).toNat
  if x.closed then decide (low ≤ point) && decide (point ≤ high)
  else decide (low < point) && decide (point < high)

/-- The least `p` with a magnitude below `10 ^ p`. -/
def decimalPoint (x : RoundingInterval) : Int :=
  if quantaPerUnit ≤ x.magnitude then decimalLength (x.magnitude / quantaPerUnit)
  else 1 - (decimalLength ((quantaPerUnit + x.magnitude - 1) / x.magnitude - 1) : Int)

/-- On the grid of the multiples of `10 ^ k`, the neighbour of the magnitude that lies in the
interval, the nearer one if both do. -/
def onGrid? (tie : Tie) (x : RoundingInterval) (k : Int) : Option Digits :=
  let n := x.magnitude * 10 ^ (-k).toNat
  let d := quantaPerUnit * 10 ^ k.toNat
  let c := n / d
  let r := n % d
  let upward := match tie with
    | .up => decide (d ≤ 2 * r)
    | .even => decide (d < 2 * r) || (decide (d = 2 * r) && c % 2 == 1)
  match decide (0 < c) && x.contains c k, x.contains (c + 1) k with
  | false, false => none
  | true, false => some ⟨c, k⟩
  | false, true => some ⟨c + 1, k⟩
  | true, true => some (if upward then ⟨c + 1, k⟩ else ⟨c, k⟩)

/-- The digits of the coarsest grid with a neighbour in the interval. -/
def shortest (tie : Tie) (x : RoundingInterval) : Digits :=
  let p := x.decimalPoint
  let found := (List.range 17).findSome? fun n => x.onGrid? tie (p - (n + 1 : Nat))
  (found.getD ⟨0, 0⟩).trim 20

end RoundingInterval

namespace Finite64

/-- The reals that round to a double. Below a power of two the next double is nearer, and an
even significand takes the halves on both sides. -/
def interval (x : Finite64) : RoundingInterval where
  magnitude := x.magnitude
  below := if x.significand = 2 ^ 52 ∧ 0 < x.exponent then 2 ^ x.exponent else 2 * 2 ^ x.exponent
  above := 2 * 2 ^ x.exponent
  closed := x.significand % 2 == 0

/-- The reals that round to a number of single precision, which a double may hold. -/
def singleInterval (x : Finite64) : RoundingInterval :=
  let unit := 2 ^ 925
  let e := (x.magnitude / unit).log2 - 23
  let significand := x.magnitude / (unit * 2 ^ e)
  { magnitude := x.magnitude
    below := if significand = 2 ^ 23 ∧ 0 < e then unit * 2 ^ e else 2 * (unit * 2 ^ e)
    above := 2 * (unit * 2 ^ e)
    closed := significand % 2 == 0 }

end Finite64

/-- How the digits of a number are set. -/
structure NumberLayout where
  /-- Which of two equally near numerals is written. -/
  tie : Tie
  /-- The number is written without an exponent, given the position of its point: a number
  from `10 ^ (p - 1)` up to `10 ^ p` has the point at `p`. -/
  positional : Int → Bool
  /-- What follows the digits of a whole number written without an exponent. -/
  wholeSuffix : String
  /-- What stands before an exponent that is not negative. -/
  exponentMark : String

namespace NumberLayout

/-- `n` zeros. -/
def zeros (n : Nat) : String := String.ofList (List.replicate n '0')

/-- The digits with the point where it falls. -/
def positionalText (layout : NumberLayout) (digits : String) (point : Int) : String :=
  let length : Int := digits.length
  if point ≤ 0 then "0." ++ zeros (-point).toNat ++ digits
  else if length ≤ point then digits ++ zeros (point - length).toNat ++ layout.wholeSuffix
  else
    let cs := digits.toList
    String.ofList (cs.take point.toNat) ++ "." ++ String.ofList (cs.drop point.toNat)

/-- One digit, the others after a point, and a signed exponent. -/
def scientificText (layout : NumberLayout) (digits : String) (point : Int) : String :=
  let e := point - 1
  let exponent := (if e < 0 then "e-" else layout.exponentMark) ++ toString e.natAbs
  match digits.toList with
  | [] => exponent
  | [c] => String.singleton c ++ exponent
  | c :: cs => String.singleton c ++ "." ++ String.ofList cs ++ exponent

/-- The text of a number with a sign and the digits of its magnitude. -/
def writeDigits (layout : NumberLayout) (negative : Bool) (d : Digits) : String :=
  let digits := toString d.coefficient
  let point : Int := digits.length + d.exponent
  (if negative then "-" else "") ++
    (if layout.positional point then layout.positionalText digits point
      else layout.scientificText digits point)

/-- The text of a finite number, given the interval of its magnitude. -/
def writeWithin (layout : NumberLayout) (x : Finite64) (interval : RoundingInterval) : String :=
  if x.significand = 0 then (if x.negative then "-" else "") ++ "0" ++ layout.wholeSuffix
  else layout.writeDigits x.negative (interval.shortest layout.tie)

/-- The text of a finite double. -/
def writeFinite (layout : NumberLayout) (x : Finite64) : String :=
  layout.writeWithin x x.interval

/-- The text of a number that need not be finite. -/
def writeWith (finite : Finite64 → String) : Binary64 → String
  | .nan => "NaN"
  | .infinite s => if s then "-inf" else "inf"
  | .finite x => finite x

/-- The text of a double. -/
def write (layout : NumberLayout) (x : Binary64) : String :=
  writeWith layout.writeFinite x

/-- The text of a number of single precision. -/
def writeSingle (layout : NumberLayout) (x : Binary64) : String :=
  writeWith (fun y => layout.writeWithin y y.singleInterval) x

end NumberLayout

/-- Plain text never has an exponent, and whole numbers have no fraction. -/
def plainNumber : NumberLayout := ⟨.up, fun _ => true, "", "e+"⟩

end TableQuery
