/-!
# Blank space and letter case

Which characters count as blank at the ends of a text, and the lower case of the letters of
the Latin alphabet. Other letters keep their case.
-/

namespace TableQuery

/-- The characters with the Unicode property `White_Space`. -/
def isBlank (c : Char) : Bool :=
  let n := c.toNat
  (9 ≤ n && n ≤ 13) || n == 0x20 || n == 0x85 || n == 0xA0 || n == 0x1680 ||
    (0x2000 ≤ n && n ≤ 0x200A) || n == 0x2028 || n == 0x2029 || n == 0x202F || n == 0x205F ||
    n == 0x3000

/-- The characters without the blanks at both ends. -/
def trimChars (cs : List Char) : List Char :=
  ((cs.dropWhile isBlank).reverse.dropWhile isBlank).reverse

/-- The text without the blanks at both ends. -/
def trimBlank (s : String) : String := String.ofList (trimChars s.toList)

/-- The letters `A` to `Z` become small. -/
def lowerCase (s : String) : String := String.ofList (s.toList.map Char.toLower)

/-- The text is empty or blank throughout. -/
def isBlankText (s : String) : Bool := s.toList.all isBlank

/-- `text` begins with `start`. -/
def beginsWith (start text : String) : Bool := start.toList.isPrefixOf text.toList

/-- The pieces of a list between the elements equal to `separator`. There is always one. -/
def splitAtEach {α : Type} [BEq α] (separator : α) : List α → List (List α)
  | [] => [[]]
  | x :: xs =>
    if x == separator then [] :: splitAtEach separator xs
    else match splitAtEach separator xs with
      | [] => [[x]]
      | piece :: pieces => (x :: piece) :: pieces

end TableQuery
