/-!
# Quoted identifiers

An identifier stands in SQL between double quotes, a double quote inside it being written
twice.
-/

namespace TableQuery

/-- The characters of an identifier, each double quote written twice. -/
def doubleQuotes : List Char → List Char
  | [] => []
  | c :: cs => if c = '"' then '"' :: '"' :: doubleQuotes cs else c :: doubleQuotes cs

/-- The identifier between double quotes. -/
def quoteIdentifier (name : String) : String :=
  "\"" ++ String.ofList (doubleQuotes name.toList) ++ "\""

end TableQuery
