import TableQuery.Numeric.Decimal

/-!
# The text of a YAML document

A document is read from left to right. The source is the text that is left, with the numbers of
the bytes and lines that have been read and the column that has been reached. A carriage
return with a line feed behind it is one end of a line, and so are each of the two, the next line
character, and the two separators of Unicode; the separators stay in the text, and the others
become line feeds.

* `YamlSource.readLineEnd`, `readGap?`: ends of lines, and the space between two words.
* `TextGap.text`: what such a space stands for. Two lines are joined by a blank, and empty lines
  between them are kept.

The readers of documents take a bound on the number of steps. Any that is greater than the number
of characters left will do, so one bound serves for all parts of a text.
-/

namespace TableQuery

/-! ## Characters -/

/-- A character that may stand in a document. -/
def isYamlChar (c : Char) : Bool :=
  let n := c.toNat
  n == 9 || n == 10 || n == 13 || (0x20 ≤ n && n ≤ 0x7E) || n == 0x85 ||
    (0xA0 ≤ n && n ≤ 0xD7FF) || (0xE000 ≤ n && n ≤ 0xFFFD) || 0x10000 ≤ n

/-- A separator of lines or paragraphs. -/
def isSeparatorChar (c : Char) : Bool := c.toNat == 0x2028 || c.toNat == 0x2029

/-- A character that ends a line. -/
def isLineEnd (c : Char) : Bool :=
  c == '\n' || c == '\r' || c.toNat == 0x85 || isSeparatorChar c

/-- A blank within a line. -/
def isInlineBlank (c : Char) : Bool := c == ' ' || c == '\t'

/-- A blank or the end of a line. -/
def isGapChar (c : Char) : Bool := isInlineBlank c || isLineEnd c

/-- A character of the names of nodes and kinds of tags. -/
def isNameChar (c : Char) : Bool := c.isAlphanum || c == '_' || c == '-'

/-- A character that structures text inside brackets. -/
def isFlowMark (c : Char) : Bool :=
  c == ',' || c == '[' || c == ']' || c == '\x7b' || c == '\x7d'

/-- The text ends here, or a blank or the end of a line stands here. -/
def atGap (cs : List Char) : Bool := cs.head?.all isGapChar

/-- The text or the line ends here. -/
def atLineEnd (cs : List Char) : Bool := cs.head?.all isLineEnd

/-! ## The source -/

/-- The text that is left, and how far it has been read. -/
structure YamlSource where
  rest : List Char
  /-- How many bytes of UTF-8 have been read. -/
  index : Nat
  /-- How many ends of lines have been read. -/
  line : Nat
  column : Nat
deriving DecidableEq, Repr

namespace YamlSource

/-- A text of which nothing has been read. -/
def ofChars (cs : List Char) : YamlSource := ⟨cs, 0, 0, 0⟩

-- Sums of whole numbers begin with the numeral, whatever other zero numbers are given.
attribute [local instance (high)] Zero.ofOfNat0

/-- The number of bytes that characters take. -/
def width (cs : List Char) : Nat := (cs.map Char.utf8Size).sum

/-- Goes on behind some characters of the same line. -/
def skip (s : YamlSource) (n : Nat) : YamlSource :=
  { s with
    rest := s.rest.drop n
    index := s.index + width (s.rest.take n)
    column := s.column + n }

/-- Reads the characters of the line that satisfy a test, up to the first that does not. -/
def span (s : YamlSource) (test : Char → Bool) : List Char × YamlSource :=
  let read := s.rest.takeWhile test
  (read, s.skip read.length)

/-- Goes on behind the characters of the line that satisfy a test. -/
def skipWhile (s : YamlSource) (test : Char → Bool) : YamlSource := (s.span test).2

/-- Skips blanks. -/
def skipBlanks (s : YamlSource) : YamlSource := s.skipWhile isInlineBlank

/-- Skips a comment that begins here. -/
def skipComment (s : YamlSource) : YamlSource :=
  if s.rest.head? == some '#' then s.skipWhile (!isLineEnd ·) else s

/-- The end of a line that stands here: what it is in the text, and how many characters long. -/
def lineEnd? : List Char → Option (Char × Nat)
  | '\r' :: '\n' :: _ => some ('\n', 2)
  | c :: _ =>
    if isSeparatorChar c then some (c, 1) else if isLineEnd c then some ('\n', 1) else none
  | [] => none

/-- Reads the end of the line, if it stands here. -/
def readLineEnd (s : YamlSource) : List Char × YamlSource :=
  match lineEnd? s.rest with
  | some (c, n) => ([c], ⟨s.rest.drop n, s.index + width (s.rest.take n), s.line + 1, 0⟩)
  | none => ([], s)

/-- The line begins with one of the two marks around documents. -/
def atMarker (s : YamlSource) : Bool :=
  s.column == 0 && match s.rest with
    | '-' :: '-' :: '-' :: more => atGap more
    | '.' :: '.' :: '.' :: more => atGap more
    | _ => false

/-- Reads what may follow on a line behind its content, and the end of the line. -/
def finishLine? (s : YamlSource) : Option YamlSource :=
  let s := s.skipBlanks.skipComment
  if atLineEnd s.rest then some s.readLineEnd.2 else none

end YamlSource

/-! ## The space between words -/

/-- The space between two words: the blanks before the first end of a line, and the ends of
lines. -/
structure TextGap where
  blanks : List Char
  lineEnds : List Char
deriving DecidableEq, Repr

namespace TextGap

/-- No space. -/
def none : TextGap := ⟨[], []⟩

/-- There is no space. -/
def isNone (g : TextGap) : Bool := g.blanks.isEmpty && g.lineEnds.isEmpty

/-- A line ends here. -/
def hasLineEnd (g : TextGap) : Bool := !g.lineEnds.isEmpty

/-- What stands for the space in the text. -/
def text (g : TextGap) : List Char :=
  match g.lineEnds with
  | [] => g.blanks
  | ['\n'] => [' ']
  | '\n' :: more => more
  | ends => ends

end TextGap

namespace YamlSource

/-- Reads ends of lines and the blanks behind them. No tab may stand before the column
`indent`. -/
def readLineEnds? (indent bound : Nat) (s : YamlSource) : Option (List Char × YamlSource) :=
  match bound with
  | 0 => some ([], s)
  | bound + 1 =>
    match s.readLineEnd with
    | ([], s) => some ([], s)
    | (lineEnd, s) => do
      let (blanks, s) := s.span isInlineBlank
      if (blanks.take indent).contains '\t' then none
      else
        let (more, s) ← readLineEnds? indent bound s
        some (lineEnd ++ more, s)

/-- Reads the space that stands here. -/
def readGap? (indent bound : Nat) (s : YamlSource) : Option (TextGap × YamlSource) := do
  let (blanks, s) := s.span isInlineBlank
  let (lineEnds, s) ← s.readLineEnds? indent bound
  some (⟨blanks, lineEnds⟩, s)

end YamlSource

end TableQuery
