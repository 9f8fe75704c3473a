import TableQuery.Numeric.Decimal

/-!
# Spans of time and moments

A span is a number of nanoseconds. A moment is a reading of a clock that counts from its start;
the clock tells seconds below `2 ^ 63` only, so a span may lead beyond its range.

* `Duration.text`: the form in which settings write a span, in seconds or milliseconds.
* `Duration.exactText`: the form with all digits, in the largest unit that is not below one.
* `Instant.after?`: the moment a span later, if the clock can tell it.
-/

namespace TableQuery

/-- A span of time. -/
structure Duration where
  nanos : Nat
deriving DecidableEq, Repr

namespace Duration

/-- So many seconds. -/
def ofSeconds (n : Nat) : Duration := ⟨n * 1000000000⟩

/-- So many milliseconds. -/
def ofMillis (n : Nat) : Duration := ⟨n * 1000000⟩

/-- The whole seconds of the span. -/
def seconds (d : Duration) : Nat := d.nanos / 1000000000

/-- The whole milliseconds of the span. -/
def millis (d : Duration) : Nat := d.nanos / 1000000

/-- The span in whole seconds, or in milliseconds if they make no whole second. Anything below
a millisecond is not written. -/
def text (d : Duration) : String :=
  if d.millis % 1000 = 0 then toString (d.millis / 1000) ++ "s" else toString d.millis ++ "ms"

/-- A number of units with the fraction that `rest` of `scale` makes, zeros at its end left
out. -/
def withFraction (whole rest scale : Nat) : String :=
  let width := decimalPlaces scale
  let digits := Nat.toDigits 10 rest
  let padded := List.replicate (width - digits.length) '0' ++ digits
  let fraction := (padded.reverse.dropWhile (· == '0')).reverse
  if rest = 0 then toString whole else toString whole ++ "." ++ String.ofList fraction
where
  /-- The digits after the point that parts of a power of ten need. -/
  decimalPlaces (scale : Nat) : Nat := (Nat.toDigits 10 scale).length - 1

/-- The span with all its digits. -/
def exactText (d : Duration) : String :=
  let n := d.nanos
  if 1000000000 ≤ n then withFraction (n / 1000000000) (n % 1000000000) 1000000000 ++ "s"
  else if 1000000 ≤ n then withFraction (n / 1000000) (n % 1000000) 1000000 ++ "ms"
  else if 1000 ≤ n then withFraction (n / 1000) (n % 1000) 1000 ++ "µs"
  else toString n ++ "ns"

end Duration

/-- A reading of the clock, in nanoseconds. -/
structure Instant where
  nanos : Nat
deriving DecidableEq, Repr

namespace Instant

/-- The first moment that the clock cannot tell. -/
def limit : Nat := 2 ^ 63 * 1000000000

/-- The moment a span later, if the clock can tell it. -/
def after? (t : Instant) (d : Duration) : Option Instant :=
  if t.nanos + d.nanos < limit then some ⟨t.nanos + d.nanos⟩ else none

end Instant

end TableQuery
