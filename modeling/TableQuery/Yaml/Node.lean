import TableQuery.Numeric.Decimal

/-!
# YAML nodes

The content of a YAML document, and how its scalars are read: as text, a truth value, a number,
or no value at all. A scalar without quotes may be any of these, whatever its tag; a literal
block is a truth value or a number only if its tag says so.

* `YamlNode`: a node may also refer to another one.
* `YamlNode.bool?`, `natural?`, `real?`, `text?`, `presence?`: what a scalar stands for.
-/

namespace TableQuery

/-- How a scalar is written. -/
inductive ScalarStyle where
  | plain
  | quoted
  | literal
  | folded
deriving DecidableEq, Repr

/-- A node of a YAML document. -/
inductive YamlNode where
  | scalar (text : String) (style : ScalarStyle) (tag : Option String)
  | sequence (items : List YamlNode)
  | mapping (entries : List (YamlNode × YamlNode))
  /-- Refers to the node with a number. -/
  | reference (number : Nat)
deriving Inhabited

/-- The tag of a kind of value in the core of the notation. -/
def coreTag (kind : String) : String := "tag:yaml.org,2002:" ++ kind

namespace YamlNode

/-- The node where nothing is written. -/
def empty : YamlNode := .scalar "" .plain none

/-- The text of a scalar. -/
def text? : YamlNode → Option String
  | .scalar text _ _ => some text
  | _ => none

/-- The text of a scalar that may be a value of a kind. -/
def valueText? (kind : String) : YamlNode → Option String
  | .scalar text .plain _ => some text
  | .scalar text .literal (some tag) => if tag = coreTag kind then some text else none
  | _ => none

/-- The words for no value. -/
def nullWords : List String := ["null", "Null", "NULL", "~"]

/-- Whether a value is given. One that is said to be none must be written as none. -/
def presence? : YamlNode → Option Bool
  | .scalar text .plain none => some (!(text.isEmpty || nullWords.contains text))
  | .scalar text .plain (some tag) =>
    if tag != coreTag "null" then some true
    else if nullWords.contains text then some false
    else none
  | _ => some true

/-- The truth value of a scalar. -/
def bool? (v : YamlNode) : Option Bool := do
  let text ← v.valueText? "bool"
  if ["true", "True", "TRUE"].contains text then some true
  else if ["false", "False", "FALSE"].contains text then some false
  else none

/-- A natural number up to `most`: in base 16, 8 or 2 after `0x`, `0o` or `0b`, in base 10
otherwise. Digits with a needless zero in front are no number. -/
def natural? (most : Nat) (v : YamlNode) : Option Nat := do
  let cs := (← v.valueText? "int").toList
  let unsigned := match cs with
    | '+' :: rest => rest
    | _ => cs
  let n ← match unsigned with
    | '0' :: 'x' :: digits => baseNumber? 16 digits
    | '0' :: 'o' :: digits => baseNumber? 8 digits
    | '0' :: 'b' :: digits => baseNumber? 2 digits
    | _ =>
      if 1 < unsigned.length && unsigned.head? == some '0' && unsigned.all Char.isDigit then none
      else baseNumber? 10 unsigned
  if n ≤ most then some n else none

/-- A number with or without a fraction, an infinity or `nan`. -/
def real? (v : YamlNode) : Option Binary64 := do
  let text ← v.valueText? "float"
  let cs := text.toList
  if ["-.inf", "-.Inf", "-.INF"].contains text then some (.infinite true)
  else
    let unsigned := match cs with
      | '+' :: rest => rest
      | _ => cs
    if cs.head? == some '+' && (unsigned.head? == some '+' || unsigned.head? == some '-') then none
    else if [".inf", ".Inf", ".INF"].contains (String.ofList unsigned) then some (.infinite false)
    else if [".nan", ".NaN", ".NAN"].contains text then some .nan
    else
      let x ← readBinary64? unsigned
      if x.isFinite then some x else none

end YamlNode

end TableQuery
