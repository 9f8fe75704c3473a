/-!
# Text from bytes

Bytes are read as UTF-8. Where they are not, the longest beginning of a character that stands
there, or else one byte, becomes the character U+FFFD.

* `textOfBytes`: one pass over the bytes, with a character part way through as the state.
-/

namespace TableQuery

/-- A character part way through: its number so far, how many bytes are to come, and the bounds
of the next one. -/
structure OpenChar where
  code : Nat
  left : Nat
  least : Nat
  most : Nat
deriving DecidableEq, Repr

/-- Stands for bytes that are not text. -/
def replacementChar : Char := '\ufffd'

/-- The character of several bytes that a byte begins. The bounds of the second byte keep out
numbers that fewer bytes could write, and numbers that no character has. -/
def openChar? (byte : Nat) : Option OpenChar :=
  if 0xC2 ≤ byte ∧ byte ≤ 0xDF then some ⟨byte - 0xC0, 1, 0x80, 0xBF⟩
  else if byte = 0xE0 then some ⟨0, 2, 0xA0, 0xBF⟩
  else if byte = 0xED then some ⟨0xD, 2, 0x80, 0x9F⟩
  else if 0xE1 ≤ byte ∧ byte ≤ 0xEF then some ⟨byte - 0xE0, 2, 0x80, 0xBF⟩
  else if byte = 0xF0 then some ⟨0, 3, 0x90, 0xBF⟩
  else if 0xF1 ≤ byte ∧ byte ≤ 0xF3 then some ⟨byte - 0xF0, 3, 0x80, 0xBF⟩
  else if byte = 0xF4 then some ⟨4, 3, 0x80, 0x8F⟩
  else none

namespace OpenChar

/-- Takes a byte between characters, giving what is complete and what is open. -/
def start (byte : Nat) : List Char × Option OpenChar :=
  if byte < 0x80 then ([Char.ofNat byte], none)
  else match openChar? byte with
    | some c => ([], some c)
    | none => ([replacementChar], none)

/-- Takes a byte. -/
def step : Option OpenChar → Nat → List Char × Option OpenChar
  | none, byte => start byte
  | some c, byte =>
    if c.least ≤ byte ∧ byte ≤ c.most then
      let code := c.code * 64 + (byte - 0x80)
      if c.left ≤ 1 then ([Char.ofNat code], none)
      else ([], some ⟨code, c.left - 1, 0x80, 0xBF⟩)
    else
      let (done, next) := start byte
      (replacementChar :: done, next)

end OpenChar

/-- The text that bytes write, from a state on. -/
def textOfBytesFrom (state : Option OpenChar) : List UInt8 → List Char
  | [] => if state.isSome then [replacementChar] else []
  | byte :: rest =>
    let (done, next) := OpenChar.step state byte.toNat
    done ++ textOfBytesFrom next rest

/-- The text that bytes write. -/
def textOfBytes (bytes : List UInt8) : String := String.ofList (textOfBytesFrom none bytes)

end TableQuery
