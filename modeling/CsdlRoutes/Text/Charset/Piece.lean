/-!
# Reading charsets piece by piece

A charset tells what the bytes at a position begin with: bytes that stand for a text, bytes that stand
for nothing, or a character that the end of the bytes cuts off. Read to the end, a row of bytes is always some text,
with a mark for each of the last two.

* `Piece` is what a row of bytes begins with.
* `readPieces` reads a row of bytes to the end.
* `Charset` is what a charset makes of a row of bytes.
-/

namespace CsdlRoutes.Text

/-- What a row of bytes begins with. -/
inductive Piece where
  /-- Some bytes that stand for a text, most often for one character. -/
  | text (length : Nat) (chars : List Char)
  /-- Some bytes that stand for nothing. -/
  | wrong (length : Nat)
  /-- A character that the end cuts off. -/
  | cutOff
  deriving DecidableEq, Repr

/-- The mark for bytes that stand for nothing. -/
def replacementMark : Char := '\ufffd'

/-- Reads a row of bytes to the end. Every piece is at least one byte long. -/
def readPieces (piece : List UInt8 → Piece) : List UInt8 → List Char
  | [] => []
  | b :: rest =>
    match piece (b :: rest) with
    | .text length chars => chars ++ readPieces piece (rest.drop (length - 1))
    | .wrong length => replacementMark :: readPieces piece (rest.drop (length - 1))
    | .cutOff => [replacementMark]
termination_by bytes => bytes.length
decreasing_by all_goals simp only [List.length_drop, List.length_cons]; omega

/-- Why bytes are not read in a charset at all. -/
inductive CharsetFault where
  /-- Nothing at the start of the bytes tells their order. -/
  | noByteOrder
  /-- The charset is one in which nothing is written. -/
  | nothingWritten
  /-- The charset turns bytes into bytes. -/
  | bytesForBytes
  /-- The charset turns texts into texts. -/
  | textForText
  deriving DecidableEq, Repr

/-- What a charset makes of a row of bytes. -/
abbrev Charset := List UInt8 → Except CharsetFault (List Char)

/-- The charset that is read piece by piece. -/
def Charset.ofPieces (piece : List UInt8 → Piece) : Charset := fun bytes =>
  .ok (readPieces piece bytes)

/-- The charset in which nothing is read. -/
def Charset.failing (fault : CharsetFault) : Charset := fun _ => .error fault

/-! ## Tables -/

/-- The character at an index of a table, given row by row. The mark for bytes that stand for nothing
fills the gaps. -/
def tableChar? (width : Nat) (rows : List String) (index : Nat) : Option Char :=
  (rows[index / width]?.bind fun row => row.toList[index % width]?).filter (· != replacementMark)

/-- A piece of some bytes that stand for a character, if there is one for them, and otherwise one byte
that stands for nothing. -/
def Piece.ofChar? (length : Nat) (c? : Option Char) : Piece :=
  match c? with
  | some c => .text length [c]
  | none => .wrong 1

end CsdlRoutes.Text
