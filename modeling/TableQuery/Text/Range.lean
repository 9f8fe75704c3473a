/-!
# Ranges of characters

A class of characters is listed as ranges of code points, first and last, in ascending order.
-/

namespace TableQuery

/-- A class of characters. -/
abbrev CharRanges := List (Nat × Nat)

/-- The character lies in one of the ranges. -/
def CharRanges.has (ranges : CharRanges) (c : Char) : Bool :=
  ranges.any fun r => r.1 ≤ c.toNat && c.toNat ≤ r.2

end TableQuery
