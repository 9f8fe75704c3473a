import TableQuery.Text.Shown

/-!
# Escaped text

Text between double quotes in which every character shows: quotes, backslashes and the usual
controls have short escapes, other characters that do not show are written by their number.
-/

namespace TableQuery

/-- A character between double quotes. -/
def escapeShown (c : Char) : List Char :=
  if c = '"' then ['\\', '"']
  else if c = '\\' then ['\\', '\\']
  else if c = '\n' then ['\\', 'n']
  else if c = '\r' then ['\\', 'r']
  else if c = '\t' then ['\\', 't']
  else if c.toNat = 0 then ['\\', '0']
  else if isShown c then [c]
  else ['\\', 'u', '\x7b'] ++ Nat.toDigits 16 c.toNat ++ ['\x7d']

/-- The text between double quotes. -/
def quoteShown (s : String) : String :=
  "\"" ++ String.ofList (s.toList.flatMap escapeShown) ++ "\""

end TableQuery
