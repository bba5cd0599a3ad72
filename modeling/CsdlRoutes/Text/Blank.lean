import CsdlRoutes.Text.Ranges

/-!
# Blank characters

Two classes of blank characters are in use. `isSpace` is the Unicode property *White_Space*.
`isBlank` adds the four information separators U+001C to U+001F, which a reader of typed-in text
counts as blank too.

* `strip` takes the blanks from the ends of a text.
* `words` splits a text at its blanks.
-/

namespace CsdlRoutes.Text

/-- The characters with the property *White_Space*. -/
def spaceRanges : Ranges :=
  [(0x9, 0xd), (0x20, 0x20), (0x85, 0x85), (0xa0, 0xa0), (0x1680, 0x1680), (0x2000, 0x200a),
   (0x2028, 0x2029), (0x202f, 0x202f), (0x205f, 0x205f), (0x3000, 0x3000)]

/-- Whether a character has the property *White_Space*. -/
def isSpace (c : Char) : Bool := spaceRanges.contains c

/-- Whether a character is white space or one of the information separators U+001C to U+001F. -/
def isBlank (c : Char) : Bool :=
  isSpace c || (decide (0x1c ≤ c.toNat) && decide (c.toNat ≤ 0x1f))

/-- Drops the characters of a class from both ends. -/
def trimBoth (p : Char → Bool) (cs : List Char) : List Char :=
  ((cs.dropWhile p).reverse.dropWhile p).reverse

/-- A text without the blanks at its ends. -/
def strip (s : String) : String := String.ofList (trimBoth isBlank s.toList)

/-- Whether a text holds nothing but blanks. -/
def allBlank (s : String) : Bool := s.toList.all isBlank

/-- Adds the words of a row of characters behind a word that is not finished. -/
def wordsAfter (word : List Char) : List Char → List (List Char)
  | [] => if word.isEmpty then [] else [word.reverse]
  | c :: rest =>
    if isBlank c then
      if word.isEmpty then wordsAfter [] rest else word.reverse :: wordsAfter [] rest
    else wordsAfter (c :: word) rest

/-- The words between blanks. -/
def words (s : String) : List String := (wordsAfter [] s.toList).map String.ofList

end CsdlRoutes.Text
