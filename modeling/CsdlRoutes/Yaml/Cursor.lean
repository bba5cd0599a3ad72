import CsdlRoutes.Yaml.Fault

/-!
# A place in a YAML text

A cursor holds the characters that are left, with the count of characters before it and its line and
column. The end of the text is seen as the character NUL, which no text contains.

* `Cursor.next` moves on by a character, `Cursor.skip` by a number of them.
* `Cursor.splitWhile` takes the longest row of characters of a class.
* `Cursor.lineBreak?` takes a line break, whichever way it is written.
-/

namespace CsdlRoutes.Yaml

/-- A place in a text. -/
structure Cursor where
  rest : List Char
  index : Nat
  line : Nat
  column : Nat
  deriving Repr, Inhabited

/-! ## Classes of characters -/

/-- Whether a character breaks a line. -/
def isBreak (c : Char) : Bool :=
  c == '\n' || c == '\r' || c == '\u0085' || c == '\u2028' || c == '\u2029'

/-- Whether a character breaks a line or marks the end of the text. -/
def isBreakOrEnd (c : Char) : Bool := c == '\x00' || isBreak c

/-- Whether a character is a space, breaks a line or marks the end of the text. -/
def isSpaceOrEnd (c : Char) : Bool := c == ' ' || isBreakOrEnd c

/-- Whether a character is a space or a tab, breaks a line or marks the end of the text. -/
def isGapOrEnd (c : Char) : Bool := c == '\t' || isSpaceOrEnd c

/-- Whether a character may occur in the name of an anchor, a directive or a tag handle. -/
def isWordChar (c : Char) : Bool :=
  (decide ('0' ≤ c) && decide (c ≤ '9')) || (decide ('A' ≤ c) && decide (c ≤ 'Z')) ||
    (decide ('a' ≤ c) && decide (c ≤ 'z')) || c == '-' || c == '_'

/-- Whether a character may occur in a text. -/
def isAllowed (c : Char) : Bool :=
  c == '\t' || c == '\n' || c == '\r' || c == '\u0085' ||
    (decide (' ' ≤ c) && decide (c ≤ '~')) ||
    (decide ('\u00a0' ≤ c) && c != '\ufffe' && c != '\uffff')

namespace Cursor

/-- The start of a text. -/
def start (cs : List Char) : Cursor := ⟨cs, 0, 0, 0⟩

/-- The character at a place. -/
def peek (here : Cursor) : Char := here.rest.headD '\x00'

/-- The character a number of places on. -/
def peekAt (here : Cursor) (n : Nat) : Char := (here.rest.drop n).headD '\x00'

/-- Moves on by one character. A carriage return before a line feed does not end the line, and a
byte order mark takes no column. -/
def next (here : Cursor) : Cursor :=
  match here.rest with
  | [] => here
  | c :: rest =>
    if isBreak c && !(c == '\r' && rest.head? == some '\n') then
      ⟨rest, here.index + 1, here.line + 1, 0⟩
    else if c == '\ufeff' then ⟨rest, here.index + 1, here.line, here.column⟩
    else ⟨rest, here.index + 1, here.line, here.column + 1⟩

/-- Moves on by a number of characters. -/
def skip (here : Cursor) : Nat → Cursor
  | 0 => here
  | n + 1 => here.next.skip n

/-- The longest row of characters of a class, and the place behind it. -/
def splitWhile (here : Cursor) (p : Char → Bool) : List Char × Cursor :=
  let taken := here.rest.takeWhile p
  (taken, here.skip taken.length)

/-- The place behind the characters of a class. -/
def skipWhile (here : Cursor) (p : Char → Bool) : Cursor := (here.splitWhile p).2

/-- The place behind the spaces. -/
def skipSpaces (here : Cursor) : Cursor := here.skipWhile (· == ' ')

/-- The end of the line. -/
def lineEnd (here : Cursor) : Cursor := here.skipWhile (!isBreakOrEnd ·)

/-- The place behind a comment, if one starts here. -/
def skipComment (here : Cursor) : Cursor := if here.peek == '#' then here.lineEnd else here

/-- A line break as the character it stands for, and the place behind it. -/
def lineBreak? (here : Cursor) : Option (Char × Cursor) :=
  match here.rest with
  | '\r' :: '\n' :: _ => some ('\n', here.skip 2)
  | c :: _ =>
    if c == '\u2028' || c == '\u2029' then some (c, here.next)
    else if isBreak c then some ('\n', here.next)
    else none
  | [] => none

/-- The place behind a line break, if there is one. -/
def skipBreak (here : Cursor) : Cursor :=
  match here.lineBreak? with
  | some (_, after) => after
  | none => here

/-- Whether three equal marks stand here on their own. -/
def atMark (here : Cursor) (mark : Char) : Bool :=
  here.rest.take 3 == [mark, mark, mark] && isGapOrEnd (here.peekAt 3)

/-- Whether the mark between documents or the mark at the end of one stands here. -/
def atDocumentMark (here : Cursor) : Bool := here.atMark '-' || here.atMark '.'

/-- Goes to the end of a line on which only a comment may follow. -/
def finishLine? (here : Cursor) : Option Cursor :=
  let last := here.skipSpaces.skipComment
  if isBreakOrEnd last.peek then some last.skipBreak else none

end Cursor

end CsdlRoutes.Yaml
