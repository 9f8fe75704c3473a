import TableQuery.Text.Utf8
import TableQuery.Yaml.Source

/-!
# Names, tags and directives

A node may carry a name, by which others refer to it, and a tag, which says what it is. A tag is
written in full between angle brackets, or as a handle with the rest behind it; directives before
a document say what handles stand for.

* `YamlSource.readName?`, `readTag?`, `readDirective?`: their readers, each behind the mark.
* `TagHandles.expand?`: the full text of a tag.
-/

namespace TableQuery

namespace YamlSource

/-- Reads a name and what marks its end. -/
def readName? (s : YamlSource) : Option (String × YamlSource) :=
  let (name, s) := s.span isNameChar
  let ended := atGap s.rest || s.rest.head?.any fun c =>
    c == '?' || c == ':' || c == ',' || c == ']' || c == '\x7d' || c == '%' || c == '@' ||
      c.toNat == 0x60
  if !name.isEmpty && ended then some (String.ofList name, s) else none

end YamlSource

/-! ## The text of tags -/

/-- A character of a tag. Commas and brackets belong to it only where it is `bracketed`. -/
def isTagChar (bracketed : Bool) (c : Char) : Bool :=
  isNameChar c || ";/?:@&=+$.!~*'()".toList.contains c ||
    (bracketed && (c == ',' || c == '[' || c == ']'))

/-- The byte that a percent sign and two digits write. -/
def percentByte? : List Char → Option Nat
  | '%' :: a :: b :: _ => do some (16 * (← hexValue? a) + (← hexValue? b))
  | _ => none

/-- How many bytes follow the first byte of a character. -/
def followingBytes? (first : Nat) : Option Nat :=
  if first < 0x80 then some 0
  else if 0xC0 ≤ first ∧ first < 0xE0 then some 1
  else if 0xE0 ≤ first ∧ first < 0xF0 then some 2
  else if 0xF0 ≤ first ∧ first < 0xF8 then some 3
  else none

/-- So many bytes, each written with a percent sign, that may follow the first of a character. -/
def laterBytes? (count : Nat) (cs : List Char) : Option (List UInt8) :=
  match count with
  | 0 => some []
  | count + 1 => do
    let byte ← percentByte? cs
    if 0x80 ≤ byte ∧ byte < 0xC0 then
      some (UInt8.ofNat byte :: (← laterBytes? count (cs.drop 3)))
    else none

/-- The bytes of a character written with percent signs. -/
def percentBytes? (cs : List Char) : Option (List UInt8) := do
  let first ← percentByte? cs
  let count ← followingBytes? first
  some (UInt8.ofNat first :: (← laterBytes? count (cs.drop 3)))

/-- The bytes of the text of a tag that stands here, and the number of characters that write
them. -/
def tagBytes? (bracketed : Bool) (bound : Nat) (cs : List Char) : Option (List UInt8 × Nat) :=
  match bound, cs with
  | bound + 1, c :: rest =>
    if c == '%' then do
      let bytes ← percentBytes? cs
      let n := 3 * bytes.length
      let (more, m) ← tagBytes? bracketed bound (cs.drop n)
      some (bytes ++ more, n + m)
    else if isTagChar bracketed c then do
      let (more, m) ← tagBytes? bracketed bound rest
      some (String.utf8EncodeChar c ++ more, m + 1)
    else some ([], 0)
  | _, _ => some ([], 0)

namespace YamlSource

/-- Reads the text of a tag behind a beginning, up to a byte of value zero in it. -/
def readTagText? (bracketed : Bool) (start : List Char) (s : YamlSource) :
    Option (String × YamlSource) := do
  let (bytes, n) ← tagBytes? bracketed s.rest.length s.rest
  some (String.ofList start ++ textOfBytes (bytes.takeWhile (· != 0)), s.skip n)

/-- Reads a handle: an exclamation mark, perhaps a name, and perhaps another mark. -/
def readHandle? (s : YamlSource) : Option (List Char × YamlSource) :=
  if s.rest.head? == some '!' then
    let (name, s) := (s.skip 1).span isNameChar
    if s.rest.head? == some '!' then some ('!' :: name ++ ['!'], s.skip 1)
    else some ('!' :: name, s)
  else none

/-- Reads a tag: its handle, which may be missing, and the text behind it. An exclamation mark
alone is a text. -/
def readTag? (s : YamlSource) : Option (String × String × YamlSource) := do
  let (handle, text, s) ←
    if (s.rest.drop 1).head? == some '<' then do
      let (text, after) ← (s.skip 2).readTagText? true []
      if after.index = s.index + 2 || after.rest.head? != some '>' then none
      else some ("", text, after.skip 1)
    else do
      let (handle, after) ← s.readHandle?
      if 1 < handle.length && handle.getLast? == some '!' then do
        let (text, rest) ← after.readTagText? false []
        if rest.index = after.index then none else some (String.ofList handle, text, rest)
      else do
        let (text, rest) ← after.readTagText? false (handle.drop 1)
        some (if text.isEmpty then ("", "!", rest) else ("!", text, rest))
  some (handle, text, s)

end YamlSource

/-! ## Directives -/

/-- What stands before a document. -/
inductive YamlDirective where
  /-- The version of the notation. -/
  | version (major minor : Nat)
  /-- What a handle stands for. -/
  | handle (handle text : String)
deriving DecidableEq, Repr

namespace YamlSource

/-- Reads a part of a version. -/
def readVersionPart? (s : YamlSource) : Option (Nat × YamlSource) :=
  let (digits, s) := s.span Char.isDigit
  if digits.isEmpty || 9 < digits.length then none else some (digitsValue digits, s)

/-- Reads the version of the notation. -/
def readVersion? (s : YamlSource) : Option (YamlDirective × YamlSource) := do
  let (major, s) ← s.skipBlanks.readVersionPart?
  if s.rest.head? != some '.' then none
  else
    let (minor, s) ← (s.skip 1).readVersionPart?
    some (.version major minor, s)

/-- Reads what a handle stands for. -/
def readHandleMeaning? (s : YamlSource) : Option (YamlDirective × YamlSource) := do
  let (handle, s) ← s.skipBlanks.readHandle?
  if handle.getLast? != some '!' then none
  else if !s.rest.head?.any isInlineBlank then none
  else
    let s := s.skipBlanks
    let (text, after) ← s.readTagText? true []
    if after.index = s.index || !atGap after.rest then none
    else some (.handle (String.ofList handle) text, after)

/-- Reads a directive and the end of its line. -/
def readDirective? (s : YamlSource) : Option (YamlDirective × YamlSource) := do
  let (name, s) := s.span isNameChar
  if !atGap s.rest then none
  else
    let (directive, s) ← match String.ofList name with
      | "YAML" => s.readVersion?
      | "TAG" => s.readHandleMeaning?
      | _ => none
    some (directive, ← s.finishLine?)

end YamlSource

/-- What handles stand for. -/
abbrev TagHandles := List (String × String)

namespace TagHandles

/-- What the two shortest handles stand for if nothing else is said. -/
def standard : TagHandles := [("!", "!"), ("!!", "tag:yaml.org,2002:")]

/-- The handles of a document with directives, each named once at most. The version may be named
once too. -/
def ofDirectives? (directives : List YamlDirective) : Option TagHandles :=
  let versions := directives.filterMap fun
    | .version major minor => some (major, minor)
    | .handle .. => none
  let handles := directives.filterMap fun
    | .version .. => none
    | .handle handle text => some (handle, text)
  let distinct := handles.all fun h => handles.countP (·.1 == h.1) == 1
  if versions.length ≤ 1 && versions.all (fun v => v == (1, 1) || v == (1, 2)) && distinct then
    some (handles ++ standard)
  else none

/-- The full text of a tag. -/
def expand? (handles : TagHandles) (handle text : String) : Option String :=
  if handle.isEmpty then some text
  else (handles.find? (·.1 == handle)).map (·.2 ++ text)

end TagHandles

end TableQuery
