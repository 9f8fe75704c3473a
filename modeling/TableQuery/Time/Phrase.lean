import TableQuery.Text.Blank
import TableQuery.Text.Word
import TableQuery.Time.Duration

/-!
# Spans of time in words

A span may be written as a bare number of seconds, or as amounts with units such as `1h 30m`,
in any order and with anything but characters of words between them. An amount may have a
fraction and an exponent; a unit may be cut short as long as it stays clear.

* `Amount.scan?`: the first amount of a text and what follows it.
* `Duration.parse?`: the span. It fails without an amount, on an amount without a known unit,
  and on a sum that is negative or beyond the seconds of a word of 64 bits.
-/

namespace TableQuery

/-- A character of the name of a unit. -/
def isUnitChar (c : Char) : Bool := isWordChar c && !c.isDigit

/-- A unit of time. -/
inductive TimeUnit where
  | nanosecond | microsecond | millisecond | second | minute | hour | day | week | month | year
deriving DecidableEq, Repr

namespace TimeUnit

/-- The nanoseconds of one unit. A year has 365.2425 days and a month is a twelfth of it. -/
def nanos : TimeUnit → Nat
  | .nanosecond => 1
  | .microsecond => 1000
  | .millisecond => 1000000
  | .second => 1000000000
  | .minute => 60 * 1000000000
  | .hour => 3600 * 1000000000
  | .day => 86400 * 1000000000
  | .week => 604800 * 1000000000
  | .month => 2629746 * 1000000000
  | .year => 31556952 * 1000000000

/-- The unit is shorter than a second. -/
def isFine : TimeUnit → Bool
  | .nanosecond | .microsecond | .millisecond => true
  | _ => false

/-- A letter in small. Of the letters beyond ASCII, the two count that become letters of units. -/
def smallLetter (c : Char) : Char :=
  if c.toNat = 0x212A then 'k' else if c.toNat = 0x39C then Char.ofNat 0x3BC else c.toLower

/-- The unit that a name means: a beginning of one of its full names, in any case, and long
enough to be clear. A single `m` is a minute and a single `M` a month. -/
def ofName? (name : String) : Option TimeUnit :=
  let small := String.ofList (name.toList.map smallLetter)
  let begins (full : String) : Bool := beginsWith small full
  let atLeast (start : String) : Bool := beginsWith start small
  if begins "nanoseconds" || begins "nsecs" then some .nanosecond
  else if (atLeast "mic" && begins "microseconds") || begins "usecs" || begins "μsecs" then
    some .microsecond
  else if (atLeast "mil" && begins "milliseconds") || (atLeast "ms" && begins "msecs") then
    some .millisecond
  else if begins "seconds" || begins "secs" then some .second
  else if (beginsWith "m" name || atLeast "min") && (begins "minutes" || begins "mins") then
    some .minute
  else if begins "hours" || begins "hrs" then some .hour
  else if begins "days" then some .day
  else if begins "weeks" then some .week
  else if (beginsWith "M" name || atLeast "mo") && begins "months" then some .month
  else if begins "years" || begins "yrs" then some .year
  else none

end TimeUnit

/-- A number as written before a unit. -/
structure Amount where
  negative : Bool
  whole : List Char
  fraction : List Char
  exponent : Option Int
  /-- The name after the number, if there is one. -/
  unit : Option String
deriving DecidableEq, Repr

namespace Amount

/-- The exponent that a text begins with, and what follows it. -/
def readExponent (cs : List Char) : Option Int × List Char :=
  match cs with
  | [] => (none, cs)
  | c :: rest =>
    let (negative, more) := splitSign rest
    let digits := more.takeWhile Char.isDigit
    if c.toLower != 'e' || digits.isEmpty then (none, cs)
    else
      let n : Int := digitsValue digits
      (some (if negative then -n else n), more.dropWhile Char.isDigit)

/-- The unit that follows a number, past whatever separates them, and what follows it. -/
def readUnit (cs : List Char) : Option String × List Char :=
  let rest := cs.dropWhile (!isWordChar ·)
  let name := rest.takeWhile isUnitChar
  if name.isEmpty then (none, cs) else (some (String.ofList name), rest.dropWhile isUnitChar)

/-- The amount that a text begins with, its sign already read, and what follows it. -/
def read (negative : Bool) (cs : List Char) : Amount × List Char :=
  let whole := cs.takeWhile Char.isDigit
  let rest := match cs.dropWhile Char.isDigit with
    | '.' :: more => more
    | more => more
  let fraction := rest.takeWhile Char.isDigit
  let (exponent, rest) := readExponent (rest.dropWhile Char.isDigit)
  let (unit, rest) := readUnit rest
  (⟨negative, whole, fraction, exponent, unit⟩, rest)

/-- The first amount of a text and what follows it. -/
def scan? : List Char → Option (Amount × List Char)
  | [] => none
  | '-' :: c :: cs => if c.isDigit then some (read true (c :: cs)) else scan? (c :: cs)
  | c :: cs => if c.isDigit then some (read false (c :: cs)) else scan? cs

/-- All amounts of a text. The bound is the number of its characters. -/
def scanAll (bound : Nat) (cs : List Char) : List Amount :=
  match bound with
  | 0 => []
  | bound + 1 =>
    match scan? cs with
    | none => []
    | some (a, rest) => a :: scanAll bound rest

end Amount

/-- A sum of spans: whole seconds and nanoseconds, either of which may be negative. -/
structure SignedSpan where
  seconds : Int
  nanos : Int
deriving DecidableEq, Repr

namespace SignedSpan

/-- So many units of `nanos` nanoseconds, times a power of ten, without a fraction of a
nanosecond. -/
def scaled (n : Int) (nanos : Nat) (exponent : Int) : Int :=
  let product := n * nanos
  if 0 ≤ exponent then product * 10 ^ exponent.toNat
  else if (product.natAbs.log2 : Int) < -exponent then 0
  else product.tdiv (10 ^ (-exponent).toNat)

/-- The greatest power of ten that is worked out. -/
def maxPower : Int := 10000000

/-- Adds an amount. A number without fraction and exponent counts whole units; any other is
turned into nanoseconds, of which a fraction is dropped. A sign counts for the whole part only.
An exponent must fit a word of 64 bits, and a power of ten beyond `maxPower` is refused. -/
def add? (total : SignedSpan) (a : Amount) : Option SignedSpan := do
  let unit ← TimeUnit.ofName? (← a.unit)
  let n : Int := digitsValue a.whole
  let whole := if a.negative then -n else n
  if a.fraction.isEmpty && a.exponent.isNone then
    if unit.isFine then some { total with nanos := total.nanos + whole * unit.nanos }
    else some { total with seconds := total.seconds + whole * (unit.nanos / 1000000000 : Nat) }
  else
    let exponent := a.exponent.getD 0
    if exponent < minInt64 ∨ maxInt64 < exponent then none
    else
      let places := a.fraction.length
      let n := whole * 10 ^ places + digitsValue a.fraction
      if n = 0 then some total
      else if maxPower < exponent - places then none
      else some { total with nanos := total.nanos + scaled n unit.nanos (exponent - places) }

/-- The span, if it is not negative and its seconds fit a word of 64 bits. -/
def toDuration? (s : SignedSpan) : Option Duration :=
  let seconds := s.seconds + s.nanos.tdiv 1000000000
  let nanos := s.nanos.tmod 1000000000
  if 0 ≤ seconds ∧ seconds ≤ maxWord64 ∧ 0 ≤ nanos then
    some ⟨seconds.toNat * 1000000000 + nanos.toNat⟩
  else none

end SignedSpan

namespace Duration

/-- The number of seconds that a text with nothing else in it writes. -/
def bareSeconds? (cs : List Char) : Option Int :=
  let isFiller (c : Char) : Bool := !isWordChar c && c != '-'
  let (negative, rest) := match cs.dropWhile isFiller with
    | '-' :: more => (true, more)
    | more => (false, more)
  let digits := rest.takeWhile Char.isDigit
  if digits.isEmpty || !(rest.dropWhile Char.isDigit).all isFiller then none
  else
    let n : Int := digitsValue digits
    some (if negative then -n else n)

/-- The span that a text writes. Digits other than `0` to `9` are not read. -/
def parse? (text : String) : Option Duration :=
  let cs := text.toList
  if cs.any isForeignDigit then none
  else match bareSeconds? cs with
    | some n => (SignedSpan.mk n 0).toDuration?
    | none =>
      match Amount.scanAll cs.length cs with
      | [] => none
      | amounts => do
        let total ← amounts.foldlM SignedSpan.add? ⟨0, 0⟩
        total.toDuration?

end Duration

end TableQuery
