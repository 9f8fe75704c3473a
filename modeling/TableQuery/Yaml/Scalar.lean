import TableQuery.Yaml.Source

/-!
# Reading YAML scalars

The readers here take one scalar from the source: plain text, quoted text, and blocks of literal
or folded text. `none` is text that is none.

* `YamlSource.readPlain?`: it ends before a colon with a gap behind it, before a comment, and
  before a line that is not set in; inside brackets it ends before a mark.
* `YamlSource.readQuoted?`: single quotes, and double quotes with escapes.
* `YamlSource.readBlock?`: lines that are set in, behind a header.
-/

namespace TableQuery

/-! ## Plain scalars -/

/-- A plain scalar may begin here. -/
def startsPlain (flow : Bool) : List Char → Bool
  | [] => false
  | c :: cs =>
    if c == '-' then !atGap cs
    else if c == '?' || c == ':' then !flow && !atGap cs
    else !(isFlowMark c || isGapChar c || c == '#' || c == '&' || c == '*' || c == '!' ||
      c == '|' || c == '>' || c == '\'' || c == '"' || c == '%' || c == '@' || c.toNat == 0x60)

/-- The word of a plain scalar that stands here. `none` is a colon that runs into a mark. -/
def plainWord? (flow : Bool) : List Char → Option (List Char)
  | [] => some []
  | c :: cs =>
    if isGapChar c then some []
    else if c == ':' && flow && cs.head?.any (fun d => isFlowMark d || d == '?') then none
    else if c == ':' && atGap cs then some []
    else if flow && isFlowMark c then some []
    else (plainWord? flow cs).map (c :: ·)

namespace YamlSource

/-- Reads the rest of a plain scalar: its text, and whether a line has ended behind it. The gap
is what stands before; it counts only if another word follows. -/
def plainText? (flow : Bool) (indent bound : Nat) (gap : TextGap) (s : YamlSource) :
    Option (List Char × Bool × YamlSource) :=
  let ended := some ([], gap.hasLineEnd, s)
  match bound with
  | 0 => ended
  | bound + 1 =>
    if s.atMarker || s.rest.head? == some '#' then ended
    else do
      let word ← plainWord? flow s.rest
      if word.isEmpty then ended
      else
        let (next, s) ← (s.skip word.length).readGap? indent bound
        let text := gap.text ++ word
        if next.isNone || (!flow && s.column < indent) then some (text, next.hasLineEnd, s)
        else
          let (more, lineEnded, s) ← plainText? flow indent bound next s
          some (text ++ more, lineEnded, s)

/-- Reads a plain scalar, whose lines are set in by `indent` outside brackets. -/
def readPlain? (flow : Bool) (indent bound : Nat) (s : YamlSource) :
    Option (String × Bool × YamlSource) := do
  let (text, lineEnded, s) ← s.plainText? flow indent bound .none
  some (String.ofList text, lineEnded, s)

end YamlSource

/-! ## Quoted scalars -/

/-- The word of text in single quotes that stands here, and the number of characters that write
it: a quote in it is written twice. -/
def singleWord : List Char → List Char × Nat
  | '\'' :: '\'' :: cs =>
    let (text, n) := singleWord cs
    ('\'' :: text, n + 2)
  | c :: cs =>
    if c == '\'' || isGapChar c then ([], 0)
    else
      let (text, n) := singleWord cs
      (c :: text, n + 1)
  | [] => ([], 0)

/-- What one character after a backslash stands for. -/
def yamlEscape? : Char → Option Char
  | '0' => some (Char.ofNat 0)
  | 'a' => some (Char.ofNat 7)
  | 'b' => some (Char.ofNat 8)
  | 't' => some '\t'
  | '\t' => some '\t'
  | 'n' => some '\n'
  | 'v' => some (Char.ofNat 0xB)
  | 'f' => some (Char.ofNat 0xC)
  | 'r' => some '\r'
  | 'e' => some (Char.ofNat 0x1B)
  | ' ' => some ' '
  | '"' => some '"'
  | '/' => some '/'
  | '\\' => some '\\'
  | 'N' => some (Char.ofNat 0x85)
  | '_' => some (Char.ofNat 0xA0)
  | 'L' => some (Char.ofNat 0x2028)
  | 'P' => some (Char.ofNat 0x2029)
  | _ => none

/-- How many hexadecimal digits follow a character after a backslash. -/
def hexCount? : Char → Option Nat
  | 'x' => some 2
  | 'u' => some 4
  | 'U' => some 8
  | _ => none

/-- The character with a number, if there is one. -/
def charOf? (n : Nat) : Option Char :=
  if n.isValidChar then some (Char.ofNat n) else none

/-- The character that stands behind a backslash, and how many characters write it. -/
def escapedChar? : List Char → Option (Char × Nat)
  | [] => none
  | c :: cs =>
    match hexCount? c with
    | some n => do
      let digits := cs.take n
      if digits.length < n then none
      else some (← charOf? (← baseNumber? 16 digits), n + 1)
    | none => (yamlEscape? c).map (·, 1)

/-- The word of text in double quotes that stands here, and the number of characters that write
it. It ends before a backslash at the end of a line. -/
def doubleWord? (bound : Nat) (cs : List Char) : Option (List Char × Nat) :=
  match bound, cs with
  | bound + 1, '\\' :: cs =>
    if cs.head?.any isLineEnd then some ([], 0)
    else do
      let (c, n) ← escapedChar? cs
      let (text, m) ← doubleWord? bound (cs.drop n)
      some (c :: text, n + 1 + m)
  | bound + 1, c :: cs =>
    if c == '"' || isGapChar c then some ([], 0)
    else do
      let (text, m) ← doubleWord? bound cs
      some (c :: text, m + 1)
  | _, _ => some ([], 0)

namespace YamlSource

/-- Reads quoted text up to the closing quote. Behind a backslash at the end of a line, neither
that end nor the blanks around it count. -/
def quotedText? (quote : Char) (bound : Nat) (s : YamlSource) :
    Option (List Char × YamlSource) :=
  match bound with
  | 0 => none
  | bound + 1 =>
    if s.atMarker || s.rest.isEmpty then none
    else do
      let (word, n) ←
        if quote == '"' then doubleWord? bound s.rest else some (singleWord s.rest)
      let s := s.skip n
      let joined := s.rest.head? == some '\\'
      let s := if joined then (s.skip 1).readLineEnd.2 else s
      if s.rest.head? == some quote then some (word, s.skip 1)
      else
        let (gap, s) ← s.readGap? 0 bound
        let (more, s) ← quotedText? quote bound s
        some (word ++ (if joined then gap.lineEnds else gap.text) ++ more, s)

/-- Reads a scalar in the quotes that stand here. -/
def readQuoted? (bound : Nat) (s : YamlSource) : Option (String × YamlSource) := do
  let quote ← s.rest.head?
  let (text, s) ← (s.skip 1).quotedText? quote bound
  some (String.ofList text, s)

end YamlSource

/-! ## Blocks of text -/

/-- What becomes of the ends of lines at the end of a block. -/
inductive Chomping where
  /-- None is kept. -/
  | strip
  /-- That of the last line is kept. -/
  | clip
  | keep
deriving DecidableEq, Repr

namespace Chomping

/-- The mark of a way in a header. -/
def ofChar? : Char → Option Chomping
  | '-' => some .strip
  | '+' => some .keep
  | _ => none

/-- What is kept of the end of the last line and of those of the empty lines behind it. -/
def ending (c : Chomping) (last empty : List Char) : List Char :=
  match c with
  | .strip => []
  | .clip => last
  | .keep => last ++ empty

end Chomping

/-- The header of a block. -/
structure BlockHeader where
  chomping : Chomping
  /-- By how much the lines are set in, if it is given. -/
  indent : Option Nat
deriving DecidableEq, Repr

namespace BlockHeader

/-- How far lines are set in, which is not zero. -/
def indentOf? (c : Char) : Option Nat := if c == '0' then none else some (digitValue c)

/-- The header that stands here and its length. Both parts may be missing, and either may come
first. -/
def read? (cs : List Char) : Option (BlockHeader × Nat) :=
  match cs.head?.bind Chomping.ofChar? with
  | some chomping =>
    match (cs.drop 1).head? with
    | some d =>
      if d.isDigit then do some (⟨chomping, some (← indentOf? d)⟩, 2)
      else some (⟨chomping, none⟩, 1)
    | none => some (⟨chomping, none⟩, 1)
  | none =>
    match cs.head? with
    | some d =>
      if d.isDigit then do
        let indent ← indentOf? d
        match (cs.drop 1).head?.bind Chomping.ofChar? with
        | some chomping => some (⟨chomping, some indent⟩, 2)
        | none => some (⟨.clip, some indent⟩, 1)
      else some (⟨.clip, none⟩, 0)
    | none => some (⟨.clip, none⟩, 0)

end BlockHeader

namespace YamlSource

/-- Skips what the next line of a block is set in by, and the empty lines before it. Gives their
ends, and the greatest column that has been reached. Lines are set in by `indent`, or by as many
blanks as there are. -/
def readEmptyLines? (indent : Option Nat) (bound most : Nat) (s : YamlSource) :
    Option (List Char × Nat × YamlSource) :=
  match bound with
  | 0 => some ([], most, s)
  | bound + 1 =>
    let blanks := (s.rest.takeWhile (· == ' ')).length
    let s := s.skip (match indent with
      | some n => min blanks (n - s.column)
      | none => blanks)
    let most := max most s.column
    if indent.all (s.column < ·) && s.rest.head? == some '\t' then none
    else match s.readLineEnd with
      | ([], s) => some ([], most, s)
      | (lineEnd, s) => do
        let (more, most, s) ← readEmptyLines? indent bound most s
        some (lineEnd ++ more, most, s)

/-- Reads the lines of a block that are set in by `indent`. `last` is the end of the line
before, `empty` those of the empty lines since, and `kept` says that the line before began with
a blank, so that its end is kept. -/
def blockText? (folded : Bool) (chomping : Chomping) (indent bound : Nat)
    (last empty : List Char) (kept : Bool) (s : YamlSource) : Option (List Char × YamlSource) :=
  let ended := some (chomping.ending last empty, s)
  match bound with
  | 0 => ended
  | bound + 1 =>
    if s.column != indent || s.rest.isEmpty then ended
    else do
      let blank := s.rest.head?.any isInlineBlank
      let joint :=
        if folded && last == ['\n'] && !kept && !blank then
          if empty.isEmpty then [' '] else []
        else last
      let (line, s) := s.span (!isLineEnd ·)
      let (lineEnd, s) := s.readLineEnd
      let (next, _, s) ← s.readEmptyLines? (some indent) bound 0
      let (more, s) ← blockText? folded chomping indent bound lineEnd next blank s
      some (joint ++ empty ++ line ++ more, s)

/-- Reads a block of text behind its mark. `parent` is the column of the node around it, or
`none` at the top. Without a number in the header, the first line that is not empty says how far
the lines are set in, which is farther than `parent`. -/
def readBlock? (folded : Bool) (parent : Option Nat) (bound : Nat) (s : YamlSource) :
    Option (String × YamlSource) := do
  let (header, n) ← BlockHeader.read? s.rest
  let s ← (s.skip n).finishLine?
  let given := header.indent.map (parent.getD 0 + ·)
  let (empty, most, s) ← s.readEmptyLines? given bound 0
  let indent := given.getD (max most (max (parent.elim 0 (· + 1)) 1))
  let (text, s) ← s.blockText? folded header.chomping indent bound [] empty false
  some (String.ofList text, s)

end YamlSource

end TableQuery
