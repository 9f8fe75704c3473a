import TableQuery.Yaml.Node
import TableQuery.Yaml.Scalar
import TableQuery.Yaml.Tag

/-!
# The tokens of a YAML document

Outside brackets, the column in which something begins says to which node it belongs. Reading
tokens turns columns into marks: a block of entries begins with a mark of its own when one is set
in deeper than the block around it, and ends when something is set in less.

That a scalar is a key shows only at the colon behind it, which must stand on the same line and
within 1024 characters. So the place where a key may have begun is remembered; at the colon, the
mark of the key goes there, and that of a block if the key is its first.

* `YamlReading`: how far a text has been read into tokens.
* `YamlToken.ofText?`: all tokens of a text.
-/

namespace TableQuery

/-- A token of a YAML document. -/
inductive YamlToken where
  | directive (d : YamlDirective)
  | documentStart
  | documentEnd
  | blockSequence
  | blockMapping
  | blockEnd
  | flowSequence
  | flowSequenceEnd
  | flowMapping
  | flowMappingEnd
  /-- The hyphen before an entry of a sequence. -/
  | entry
  /-- The comma between two entries. -/
  | comma
  /-- What follows is a key. -/
  | key
  /-- What follows is the value of a key. -/
  | value
  | reference (name : String)
  | name (name : String)
  | tag (handle text : String)
  | scalar (text : String) (style : ScalarStyle)
deriving DecidableEq, Repr

/-- A place where a key may have begun. -/
structure KeyPlace where
  /-- The number of tokens before it. -/
  position : Nat
  /-- Only a key can stand there. -/
  required : Bool
  index : Nat
  line : Nat
  column : Nat
deriving DecidableEq, Repr

/-- How far a text has been read. -/
structure YamlReading where
  source : YamlSource
  /-- The last one first. -/
  tokens : List YamlToken
  /-- How many tokens there are. -/
  count : Nat
  /-- The columns of the blocks that are open, the innermost first. -/
  columns : List Nat
  /-- Where a key may have begun, inside the innermost brackets. -/
  place : Option KeyPlace
  /-- The same for what is around each pair of brackets that is open. -/
  outerPlaces : List (Option KeyPlace)
  /-- A key may begin here. -/
  keyAllowed : Bool
deriving DecidableEq, Repr

namespace YamlReading

/-- Nothing has been read. -/
def start (cs : List Char) : YamlReading := ⟨.ofChars cs, [], 0, [], none, [], true⟩

/-- Brackets are open. -/
def inFlow (r : YamlReading) : Bool := !r.outerPlaces.isEmpty

/-- Adds a token. -/
def push (r : YamlReading) (t : YamlToken) : YamlReading :=
  { r with tokens := t :: r.tokens, count := r.count + 1 }

/-- Puts a token behind the first `position` ones. -/
def insert (r : YamlReading) (position : Nat) (t : YamlToken) : YamlReading :=
  let later := r.count - position
  { r with tokens := r.tokens.take later ++ t :: r.tokens.drop later, count := r.count + 1 }

/-- How far plain text must be set in to go on behind the end of a line. -/
def textColumn (r : YamlReading) : Nat := r.columns.head?.elim 0 (· + 1)

/-! ## Blocks -/

/-- Begins a block in a column that is deeper than the block around it, with its mark behind the
first `position` tokens. Inside brackets there are no blocks. -/
def openBlock (r : YamlReading) (column position : Nat) (mark : YamlToken) : YamlReading :=
  if r.inFlow || r.columns.head?.any (column ≤ ·) then r
  else { r.insert position mark with columns := column :: r.columns }

/-- Ends the blocks that satisfy a test on their columns, from the innermost on. -/
def closeBlocks (r : YamlReading) (test : Nat → Bool) : YamlReading :=
  if r.inFlow then r
  else
    let closed := (r.columns.takeWhile test).length
    { r with
      columns := r.columns.drop closed
      tokens := List.replicate closed .blockEnd ++ r.tokens
      count := r.count + closed }

/-! ## Places of keys -/

/-- Gives up the place where a key may have begun. -/
def dropPlace? (r : YamlReading) : Option YamlReading :=
  if r.place.any (·.required) then none else some { r with place := none }

/-- Remembers that a key may begin here. -/
def markPlace? (r : YamlReading) : Option YamlReading :=
  if r.keyAllowed then do
    let s := r.source
    let required := !r.inFlow && r.columns.head? == some s.column
    let r ← r.dropPlace?
    some { r with place := some ⟨r.count, required, s.index, s.line, s.column⟩ }
  else some r

/-- A key that began there would have come to its end by now. -/
def isStale (s : YamlSource) (p : KeyPlace) : Bool := p.line < s.line || p.index + 1024 < s.index

/-- Gives up the place if it is stale. Those around brackets that are open can wait, since no key
can end before the brackets are closed. -/
def dropStale? (r : YamlReading) : Option YamlReading :=
  if r.place.any (isStale r.source) then r.dropPlace? else some r

/-! ## Single tokens -/

/-- Skips blanks, comments and ends of lines. A tab is no blank where a key may begin outside
brackets, and there a key may begin on every new line. -/
def skipSpace (bound : Nat) (r : YamlReading) : YamlReading :=
  match bound with
  | 0 => r
  | bound + 1 =>
    let s := r.source
    let s := if s.index == 0 && s.rest.head?.any (·.toNat == 0xFEFF) then s.skip 1 else s
    let tabs := r.inFlow || !r.keyAllowed
    let s := (s.skipWhile fun c => c == ' ' || (tabs && c == '\t')).skipComment
    match s.readLineEnd with
    | ([], s) => { r with source := s }
    | (_, s) => skipSpace bound { r with source := s, keyAllowed := r.keyAllowed || !r.inFlow }

/-- Adds a token of so many characters, and says whether a key may follow. -/
def take (r : YamlReading) (n : Nat) (t : YamlToken) (keyAllowed : Bool) : YamlReading :=
  { r.push t with source := r.source.skip n, keyAllowed }

/-- A mark around documents. All blocks end before it. -/
def takeMarker? (r : YamlReading) (t : YamlToken) : Option YamlReading := do
  some ((← (r.closeBlocks fun _ => true).dropPlace?).take 3 t false)

/-- A directive. -/
def takeDirective? (r : YamlReading) : Option YamlReading := do
  let r ← (r.closeBlocks fun _ => true).dropPlace?
  let (directive, source) ← (r.source.skip 1).readDirective?
  some { r.push (.directive directive) with source, keyAllowed := false }

/-- An opening bracket. -/
def takeOpening? (r : YamlReading) (t : YamlToken) : Option YamlReading := do
  let r ← r.markPlace?
  some ({ r with place := none, outerPlaces := r.place :: r.outerPlaces }.take 1 t true)

/-- A closing bracket. -/
def takeClosing? (r : YamlReading) (t : YamlToken) : Option YamlReading := do
  let r ← r.dropPlace?
  let r := match r.outerPlaces with
    | place :: outerPlaces => { r with place, outerPlaces }
    | [] => r
  some (r.take 1 t false)

/-- A comma. -/
def takeComma? (r : YamlReading) : Option YamlReading := do
  some ((← r.dropPlace?).take 1 .comma true)

/-- The mark of an entry or of a key, which may begin a block. -/
def takeLeading? (r : YamlReading) (block t : YamlToken) (keyAllowed : Bool) :
    Option YamlReading := do
  if !r.inFlow && !r.keyAllowed then none
  else
    let r ← (r.openBlock r.source.column r.count block).dropPlace?
    some (r.take 1 t keyAllowed)

/-- The colon before a value. If a key may have begun, it has. -/
def takeValue? (r : YamlReading) : Option YamlReading :=
  match r.place with
  | some p =>
    let r := (r.insert p.position .key).openBlock p.column p.position .blockMapping
    some ({ r with place := none }.take 1 .value false)
  | none =>
    if r.inFlow then some (r.take 1 .value false)
    else if r.keyAllowed then
      some ((r.openBlock r.source.column r.count .blockMapping).take 1 .value true)
    else none

/-- Something that may be the beginning of a key, after its reader. -/
def takeContent? (r : YamlReading) (read : YamlSource → Option (YamlToken × YamlSource)) :
    Option YamlReading := do
  let r ← r.markPlace?
  let (t, source) ← read r.source
  some { r.push t with source, keyAllowed := false }

/-- A name or a reference behind its mark. -/
def takeName? (r : YamlReading) (token : String → YamlToken) : Option YamlReading :=
  r.takeContent? fun s => do
    let (name, s) ← (s.skip 1).readName?
    some (token name, s)

/-- A tag. A gap must follow it, or inside brackets a comma. -/
def takeTag? (r : YamlReading) : Option YamlReading :=
  r.takeContent? fun s => do
    let (handle, text, s) ← s.readTag?
    if atGap s.rest || (r.inFlow && s.rest.head? == some ',') then some (.tag handle text, s)
    else none

/-- A block of text. -/
def takeBlockText? (bound : Nat) (r : YamlReading) (folded : Bool) : Option YamlReading := do
  let r ← r.dropPlace?
  let (text, source) ← (r.source.skip 1).readBlock? folded r.columns.head? bound
  let style := if folded then ScalarStyle.folded else .literal
  some { r.push (.scalar text style) with source, keyAllowed := true }

/-- A scalar in quotes. -/
def takeQuoted? (bound : Nat) (r : YamlReading) : Option YamlReading :=
  r.takeContent? fun s => do
    let (text, s) ← s.readQuoted? bound
    some (.scalar text .quoted, s)

/-- A plain scalar. A key may follow if a line has ended behind it. -/
def takePlain? (bound : Nat) (r : YamlReading) : Option YamlReading := do
  let r ← r.markPlace?
  let (text, keyAllowed, source) ← r.source.readPlain? r.inFlow r.textColumn bound
  some { r.push (.scalar text .plain) with source, keyAllowed }

/-- The token that stands here. -/
def takeToken? (bound : Nat) (r : YamlReading) : Option YamlReading :=
  let s := r.source
  match s.rest with
  | [] => none
  | c :: cs =>
    let spaced := r.inFlow || atGap cs
    if s.column == 0 && c == '%' then r.takeDirective?
    else if s.atMarker then r.takeMarker? (if c == '-' then .documentStart else .documentEnd)
    else if c == '[' then r.takeOpening? .flowSequence
    else if c == '\x7b' then r.takeOpening? .flowMapping
    else if c == ']' then r.takeClosing? .flowSequenceEnd
    else if c == '\x7d' then r.takeClosing? .flowMappingEnd
    else if c == ',' then r.takeComma?
    else if c == '-' && atGap cs then r.takeLeading? .blockSequence .entry true
    else if c == '?' && spaced then r.takeLeading? .blockMapping .key !r.inFlow
    else if c == ':' && spaced then r.takeValue?
    else if c == '*' then r.takeName? .reference
    else if c == '&' then r.takeName? .name
    else if c == '!' then r.takeTag?
    else if (c == '|' || c == '>') && !r.inFlow then r.takeBlockText? bound (c == '>')
    else if c == '\'' || c == '"' then r.takeQuoted? bound
    else if startsPlain r.inFlow s.rest then r.takePlain? bound
    else none

/-- Reads to the end. -/
def finish? (bound : Nat) (r : YamlReading) : Option (List YamlToken) :=
  match bound with
  | 0 => none
  | bound + 1 => do
    let r ← (r.skipSpace bound).dropStale?
    if r.source.rest.isEmpty then
      let r ← (r.closeBlocks fun _ => true).dropPlace?
      some r.tokens.reverse
    else
      (← (r.closeBlocks (r.source.column < ·)).takeToken? bound).finish? bound

end YamlReading

/-- The tokens of a text. -/
def YamlToken.ofText? (text : String) : Option (List YamlToken) :=
  let cs := text.toList
  if cs.all isYamlChar then (YamlReading.start cs).finish? (cs.length + 2) else none

end TableQuery
