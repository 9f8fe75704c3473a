import TableQuery.Numeric.Binary64

/-!
# Numerals

Reading decimal numerals, exactly and as the nearest double.

* `Decimal.toBinary64`: the double nearest to `coefficient * 10 ^ exponent`.
* `readInteger?`: a whole numeral within bounds.
* `readBinary64?`: a decimal numeral, or the name of an infinity or of `nan`.
-/

namespace TableQuery

/-- The exact decimal number `± coefficient * 10 ^ exponent`. -/
structure Decimal where
  negative : Bool
  coefficient : Nat
  exponent : Int
deriving DecidableEq, Repr

namespace Decimal

/-- The nearest double. The first two tests keep the powers small: past them the number lies
beyond the largest double, or below half a quantum. -/
def toBinary64 (x : Decimal) : Binary64 :=
  if x.coefficient = 0 then .finite ⟨x.negative, 0, 0, Finite64.zero.canonical⟩
  else if 400 < x.exponent then .infinite x.negative
  else if x.exponent + x.coefficient.log2 < -400 then .finite ⟨x.negative, 0, 0, Finite64.zero.canonical⟩
  else if 0 ≤ x.exponent then
    .ofRatio x.negative (x.coefficient * 10 ^ x.exponent.toNat * quantaPerUnit) 1
  else .ofRatio x.negative (x.coefficient * quantaPerUnit) (10 ^ (-x.exponent).toNat)

end Decimal

/-- The value of a digit. -/
def digitValue (c : Char) : Nat := c.toNat - '0'.toNat

/-- The value of a hexadecimal digit. -/
def hexValue? (c : Char) : Option Nat :=
  if c.isDigit then some (digitValue c)
  else if 'a' ≤ c ∧ c ≤ 'f' then some (c.toNat - 'a'.toNat + 10)
  else if 'A' ≤ c ∧ c ≤ 'F' then some (c.toNat - 'A'.toNat + 10)
  else none

/-- The number that a run of digits writes. -/
def digitsValue (cs : List Char) : Nat := cs.foldl (fun n c => n * 10 + digitValue c) 0

/-- The value of a digit in a base up to 16. -/
def baseDigit? (base : Nat) (c : Char) : Option Nat := do
  let n ← hexValue? c
  if n < base then some n else none

/-- The number that digits of a base write. -/
def baseNumber? (base : Nat) (cs : List Char) : Option Nat :=
  if cs.isEmpty then none
  else cs.foldlM (fun n c => do some (n * base + (← baseDigit? base c))) 0

/-- A natural number written with digits alone. -/
def readDigits? (cs : List Char) : Option Nat :=
  if !cs.isEmpty && cs.all Char.isDigit then some (digitsValue cs) else none

/-- Splits a leading sign off; `true` is minus. -/
def splitSign : List Char → Bool × List Char
  | '-' :: cs => (true, cs)
  | '+' :: cs => (false, cs)
  | cs => (false, cs)

/-- An optional sign and digits, of a value from `least` to `most`. -/
def readInteger? (least most : Int) (cs : List Char) : Option Int := do
  let (negative, digits) := splitSign cs
  let n ← readDigits? digits
  let i : Int := if negative then -n else n
  if least ≤ i ∧ i ≤ most then some i else none

/-- An optional plus sign and digits, of a value up to `most`. -/
def readNatural? (most : Nat) (cs : List Char) : Option Nat := do
  let digits := match cs with
    | '+' :: rest => rest
    | _ => cs
  let n ← readDigits? digits
  if n ≤ most then some n else none

/-- The largest signed integer of 64 bits. -/
def maxInt64 : Int := 2 ^ 63 - 1

/-- The smallest signed integer of 64 bits. -/
def minInt64 : Int := -2 ^ 63

/-- The largest unsigned integer of 64 bits. -/
def maxWord64 : Nat := 2 ^ 64 - 1

/-- The exponent that follows a mantissa: nothing, or `e` with a signed integer. -/
def readExponent? : List Char → Option Int
  | [] => some 0
  | c :: cs =>
    if c = 'e' ∨ c = 'E' then do
      let (negative, digits) := splitSign cs
      let n ← readDigits? digits
      some (if negative then -n else n)
    else none

/-- A decimal numeral without its sign: digits with a point anywhere among or around them,
then perhaps an exponent. -/
def readMagnitude? (negative : Bool) (cs : List Char) : Option Decimal := do
  let whole := cs.takeWhile Char.isDigit
  let rest := cs.dropWhile Char.isDigit
  let (fraction, tail) := match rest with
    | '.' :: more => (more.takeWhile Char.isDigit, more.dropWhile Char.isDigit)
    | _ => ([], rest)
  if whole.isEmpty && fraction.isEmpty then none
  else
    let e ← readExponent? tail
    some ⟨negative, digitsValue (whole ++ fraction), e - fraction.length⟩

/-- A signed decimal numeral, or `inf`, `infinity` or `nan` in any case, as the nearest
double. -/
def readBinary64? (cs : List Char) : Option Binary64 :=
  let (negative, rest) := splitSign cs
  let name := rest.map Char.toLower
  if name = ['i', 'n', 'f'] ∨ name = ['i', 'n', 'f', 'i', 'n', 'i', 't', 'y'] then
    some (.infinite negative)
  else if name = ['n', 'a', 'n'] then some .nan
  else (readMagnitude? negative rest).map Decimal.toBinary64

end TableQuery
