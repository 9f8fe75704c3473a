import TableQuery.Json.Value

/-!
# The lexemes of JSON text

Text falls into punctuation, words, numerals and quoted strings. A lexeme keeps the characters
of a numeral or string as they were written; what they mean is worked out only where the value
is wanted, since a value that is skipped needs no meaning.

* `lexemes?`: the lexemes of a text, one pass over its characters.
* `JsonNumeral.toNumber?`: the number that a numeral denotes.
* `unescape?`: the string that the inside of a pair of quotes denotes.
-/

namespace TableQuery

/-- A numeral as written: digits, digits after the point, and the exponent. -/
structure JsonNumeral where
  negative : Bool
  whole : List Char
  fraction : List Char
  /-- The numeral has a point or an exponent. -/
  isFloat : Bool
  exponent : Int
deriving DecidableEq, Repr

/-- A piece of JSON text. -/
inductive Lexeme where
  | openArray | closeArray | openObject | closeObject | comma | colon
  | null
  | bool (value : Bool)
  | number (numeral : JsonNumeral)
  /-- The characters between two quotes, escapes included. -/
  | text (inside : List Char)
deriving DecidableEq, Repr

namespace JsonNumeral

/-- The exponent part and whether there is one. -/
def readTail? : List Char → Option (Bool × Int)
  | [] => some (false, 0)
  | cs => (readExponent? cs).map (true, ·)

/-- A numeral: no needless zero in front, and a digit wherever one may stand. -/
def ofChars? (cs : List Char) : Option JsonNumeral := do
  let (negative, rest) := match cs with
    | '-' :: rest => (true, rest)
    | _ => (false, cs)
  let whole := rest.takeWhile Char.isDigit
  let more := rest.dropWhile Char.isDigit
  if whole.isEmpty || (whole.length != 1 && whole.head? == some '0') then none
  else match more with
    | '.' :: after =>
      let fraction := after.takeWhile Char.isDigit
      if fraction.isEmpty then none
      else
        let (_, e) ← readTail? (after.dropWhile Char.isDigit)
        some ⟨negative, whole, fraction, true, e⟩
    | _ =>
      let (hasExponent, e) ← readTail? more
      some ⟨negative, whole, [], hasExponent, e⟩

/-- The digits that fit a word of 64 bits, and how many follow them. -/
def significant (n : Nat) : List Char → Nat × Nat
  | [] => (n, 0)
  | c :: cs =>
    let next := n * 10 + digitValue c
    if next ≤ maxWord64 then significant next cs else (n, cs.length + 1)

/-- Scales by a power of ten with one rounding for every 308 places down and one in all up.
`none` is a number beyond the largest double. -/
def scale? (x : Binary64) (e : Int) : Nat → Option Binary64
  | 0 => some x
  | fuel + 1 =>
    if e.natAbs ≤ 308 then
      let power := Decimal.toBinary64 ⟨false, 1, e.natAbs⟩
      if 0 ≤ e then
        let y := x.mul power
        if y.isFinite then some y else none
      else some (x.div power)
    else if x = .zero then some x
    else if 0 ≤ e then none
    else scale? (x.div (Decimal.toBinary64 ⟨false, 1, 308⟩)) (e + 308) fuel

/-- The double that a numeral denotes: as many digits as fit a word of 64 bits, scaled. -/
def toFloat? (x : JsonNumeral) : Option Finite64 := do
  let (n, left) := significant 0 x.whole
  let (m, skipped) := significant n x.fraction
  let places : Int := (x.fraction.length : Int) - skipped
  -- Ten steps of 308 places take every word of 64 bits to zero.
  match ← scale? (.ofNat m) (left - places + x.exponent) 10 with
  | .finite y => some { y with negative := x.negative }
  | _ => none

/-- The number that a numeral denotes. Without point and exponent it is an integer if it lies
within the signed or unsigned words of 64 bits; `-0` is the negative zero. -/
def toNumber? (x : JsonNumeral) : Option JsonNumber :=
  let n := digitsValue x.whole
  if x.isFloat || decide (maxWord64 < n) || (x.negative && (n == 0 || decide (2 ^ 63 < n))) then
    x.toFloat?.map .float
  else some (.integer (if x.negative then -n else n))

end JsonNumeral

/-- The number that four hexadecimal digits write. -/
def hexQuad? (a b c d : Char) : Option Nat := do
  some ((← hexValue? a) * 4096 + (← hexValue? b) * 256 + (← hexValue? c) * 16 + (← hexValue? d))

/-- What the character after a backslash stands for. -/
def simpleEscape? : Char → Option Char
  | '"' => some '"'
  | '\\' => some '\\'
  | '/' => some '/'
  | 'b' => some '\x08'
  | 'f' => some '\x0c'
  | 'n' => some '\n'
  | 'r' => some '\r'
  | 't' => some '\t'
  | _ => none

/-- The string that the inside of a pair of quotes denotes. Two escapes of four digits are
needed for a character beyond the first 65536; half of such a pair denotes nothing. -/
def unescape? : List Char → Option (List Char)
  | [] => some []
  | '\\' :: 'u' :: a :: b :: c :: d :: rest => do
    let high ← hexQuad? a b c d
    if 0xD800 ≤ high ∧ high < 0xDC00 then
      match rest with
      | '\\' :: 'u' :: e :: f :: g :: h :: more =>
        let low ← hexQuad? e f g h
        if 0xDC00 ≤ low ∧ low < 0xE000 then
          let more ← unescape? more
          some (Char.ofNat (0x10000 + (high - 0xD800) * 0x400 + (low - 0xDC00)) :: more)
        else none
      | _ => none
    else if 0xDC00 ≤ high ∧ high < 0xE000 then none
    else
      let rest ← unescape? rest
      some (Char.ofNat high :: rest)
  | '\\' :: c :: rest => do
    let c ← simpleEscape? c
    let rest ← unescape? rest
    some (c :: rest)
  | c :: rest => if c = '\\' then none else (unescape? rest).map (c :: ·)

/-- What the reading of lexemes is in the middle of. Characters are held last one first. -/
inductive LexState where
  | between
  | word (seen : List Char)
  | numeral (seen : List Char)
  | text (seen : List Char)
  /-- Just after a backslash. -/
  | escape (seen : List Char)
  /-- In an escape with so many hexadecimal digits to come. -/
  | hex (seen : List Char) (left : Nat)

namespace LexState

/-- The lexeme that ends here, if one was being read outside quotes. -/
def flush? : LexState → Option (List Lexeme)
  | .between => some []
  | .word seen =>
    match String.ofList seen.reverse with
    | "null" => some [.null]
    | "true" => some [.bool true]
    | "false" => some [.bool false]
    | _ => none
  | .numeral seen => (JsonNumeral.ofChars? seen.reverse).map fun n => [.number n]
  | _ => none

/-- Between lexemes, what a character begins or is. -/
def start? (c : Char) : Option (LexState × List Lexeme) :=
  if c = ' ' ∨ c = '\t' ∨ c = '\n' ∨ c = '\r' then some (.between, [])
  else if c = '[' then some (.between, [.openArray])
  else if c = ']' then some (.between, [.closeArray])
  else if c = '\x7b' then some (.between, [.openObject])
  else if c = '\x7d' then some (.between, [.closeObject])
  else if c = ',' then some (.between, [.comma])
  else if c = ':' then some (.between, [.colon])
  else if c = '"' then some (.text [], [])
  else if c = '-' ∨ c.isDigit then some (.numeral [c], [])
  else if c.isAlpha then some (.word [c], [])
  else none

/-- Takes one character, giving the next state and the lexemes that are complete. -/
def step? : LexState → Char → Option (LexState × List Lexeme)
  | .text seen, c =>
    if c = '"' then some (.between, [.text seen.reverse])
    else if c = '\\' then some (.escape (c :: seen), [])
    else if c.toNat < 0x20 then none
    else some (.text (c :: seen), [])
  | .escape seen, c =>
    if c = 'u' then some (.hex (c :: seen) 4, [])
    else if (simpleEscape? c).isSome then some (.text (c :: seen), [])
    else none
  | .hex seen left, c =>
    if (hexValue? c).isNone then none
    else if left ≤ 1 then some (.text (c :: seen), [])
    else some (.hex (c :: seen) (left - 1), [])
  | .word seen, c =>
    if c.isAlpha then some (.word (c :: seen), [])
    else do
      let done ← flush? (.word seen)
      let (next, more) ← start? c
      some (next, done ++ more)
  | .numeral seen, c =>
    if c.isDigit ∨ c = '.' ∨ c = 'e' ∨ c = 'E' ∨ c = '+' ∨ c = '-' then
      some (.numeral (c :: seen), [])
    else do
      let done ← flush? (.numeral seen)
      let (next, more) ← start? c
      some (next, done ++ more)
  | .between, c => start? c

end LexState

/-- The lexemes of a text from a state on. -/
def lexemesFrom? (state : LexState) : List Char → Option (List Lexeme)
  | [] => state.flush?
  | c :: cs => do
    let (next, done) ← state.step? c
    let more ← lexemesFrom? next cs
    some (done ++ more)

/-- The lexemes of a text. -/
def lexemes? (text : String) : Option (List Lexeme) := lexemesFrom? .between text.toList

end TableQuery
