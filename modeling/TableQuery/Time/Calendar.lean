import TableQuery.Numeric.Decimal

/-!
# Days and times of day

Counted from the first day of 1970 in the Gregorian calendar, which is carried on to both sides
as far as days can be told: from the first day of the year -262143 to the last of 262142.

* `Calendar.dateText?`: a day.
* `Calendar.momentText?`: a moment given in microseconds.
-/

namespace TableQuery

namespace Calendar

/-- A day of a year. -/
structure Date where
  year : Int
  month : Int
  day : Int
deriving DecidableEq, Repr

/-- The date of a day. Years are counted from March, so that the day that a leap year adds is
their last; 400 years have 146097 days. -/
def ofDays (days : Int) : Date :=
  let z := days + 719468
  let era := z.fdiv 146097
  let dayOfEra := z - era * 146097
  let yearOfEra := (dayOfEra - dayOfEra / 1460 + dayOfEra / 36524 - dayOfEra / 146096) / 365
  let dayOfYear := dayOfEra - (365 * yearOfEra + yearOfEra / 4 - yearOfEra / 100)
  let shifted := (5 * dayOfYear + 2) / 153
  let day := dayOfYear - (153 * shifted + 2) / 5 + 1
  let month := if shifted < 10 then shifted + 3 else shifted - 9
  let year := yearOfEra + era * 400 + (if month ≤ 2 then 1 else 0)
  ⟨year, month, day⟩

/-- The first day that can be told. -/
def firstDay : Int := -96465292

/-- The last day that can be told. -/
def lastDay : Int := 95026236

/-- A number with zeros in front up to a width. -/
def padded (width n : Nat) : String :=
  let digits := Nat.toDigits 10 n
  String.ofList (List.replicate (width - digits.length) '0' ++ digits)

/-- Years have at least four digits; one beyond them or below zero has its sign. -/
def yearText (year : Int) : String :=
  if year < 0 then "-" ++ padded 4 year.natAbs
  else if 9999 < year then "+" ++ padded 4 year.natAbs
  else padded 4 year.natAbs

/-- The date as year, month and day. -/
def Date.text (d : Date) : String :=
  yearText d.year ++ "-" ++ padded 2 d.month.natAbs ++ "-" ++ padded 2 d.day.natAbs

/-- The text of a day. -/
def dateText? (days : Int) : Option String :=
  if firstDay ≤ days ∧ days ≤ lastDay then some (ofDays days).text else none

/-- The fraction of a second: none, thousandths, or millionths. -/
def fractionText (micros : Nat) : String :=
  if micros = 0 then ""
  else if micros % 1000 = 0 then "." ++ padded 3 (micros / 1000)
  else "." ++ padded 6 micros

/-- The text of a moment in microseconds. -/
def momentText? (micros : Int) : Option String := do
  let seconds := micros.fdiv 1000000
  let rest := (micros - seconds * 1000000).toNat
  let days := seconds.fdiv 86400
  let inDay := (seconds - days * 86400).toNat
  let date ← dateText? days
  some (date ++ " " ++ padded 2 (inDay / 3600) ++ ":" ++ padded 2 (inDay / 60 % 60) ++ ":" ++
    padded 2 (inDay % 60) ++ fractionText rest)

end Calendar

end TableQuery
