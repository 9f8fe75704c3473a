import TableQuery.Config.Settings

/-!
# Settings as a YAML document

Every setting on a line of its own, a group set in by two blanks. Strings stand in double
quotes, and what might not show in them is written by its number.
-/

namespace TableQuery

/-- A character in double quotes. -/
def yamlEscape (c : Char) : List Char :=
  let hex (width n : Nat) : List Char :=
    let digits := Nat.toDigits 16 n
    List.replicate (width - digits.length) '0' ++ digits
  if c = '"' then ['\\', '"']
  else if c = '\\' then ['\\', '\\']
  else if 0x20 ≤ c.toNat ∧ c.toNat < 0x7F then [c]
  else '\\' :: 'U' :: hex 8 c.toNat

/-- A string in double quotes. -/
def yamlQuote (s : String) : String :=
  "\"" ++ String.ofList (s.toList.flatMap yamlEscape) ++ "\""

/-- The blanks before a line. -/
def yamlIndent (level : Nat) : String := String.ofList (List.replicate (2 * level) ' ')

mutual

/-- The lines that set a named value, so many levels deep. -/
def yamlLines (level : Nat) (name : String) : Json → List String
  | .object fields => (yamlIndent level ++ name ++ ":") :: yamlGroup (level + 1) fields
  | .string s => [yamlIndent level ++ name ++ ": " ++ yamlQuote s]
  | .null => [yamlIndent level ++ name ++ ": null"]
  | .bool b => [yamlIndent level ++ name ++ ": " ++ (if b then "true" else "false")]
  | .number n => [yamlIndent level ++ name ++ ": " ++ n.text]
  | .array _ => [yamlIndent level ++ name ++ ": []"]

/-- The lines of a group. -/
def yamlGroup (level : Nat) : List (String × Json) → List String
  | [] => []
  | (name, value) :: rest => yamlLines level name value ++ yamlGroup level rest

end

/-- The document with all settings. -/
def Config.toYaml (c : Config) : String :=
  match c.toJson with
  | .object fields => String.join ((yamlGroup 0 fields).map (· ++ "\n"))
  | _ => ""

end TableQuery
