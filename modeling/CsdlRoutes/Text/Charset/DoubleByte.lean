import CsdlRoutes.Text.Charset.Piece

/-!
# Charsets of one or two bytes a character

In these charsets some bytes stand for a character alone, and others lead a pair. A lead whose pair
stands for nothing is passed over alone, so that the next byte is read afresh.

* `DoubleByte` is such a charset, `DoubleByte.charset` what it makes of a row of bytes.
* `highCell?` turns a pair of bytes into a cell of a chart, `chartChar?` is the character in a cell.
-/

namespace CsdlRoutes.Text.Charset

/-- A charset of one or two bytes a character. -/
structure DoubleByte where
  /-- The character that a byte stands for alone. -/
  single? : UInt8 → Option Char
  /-- Whether a byte that stands for nothing alone leads a pair. -/
  isLead : UInt8 → Bool
  /-- The character that a pair stands for. -/
  pair? : UInt8 → UInt8 → Option Char

namespace DoubleByte

/-- What a row of bytes begins with. -/
def piece (d : DoubleByte) : List UInt8 → Piece
  | [] => .cutOff
  | b :: rest =>
    match d.single? b with
    | some c => .text 1 [c]
    | none =>
      if d.isLead b then
        match rest with
        | [] => .cutOff
        | trail :: _ => .ofChar? 2 (d.pair? b trail)
      else .wrong 1

/-- What the charset makes of a row of bytes. -/
def charset (d : DoubleByte) : Charset := .ofPieces d.piece

end DoubleByte

/-! ## Bytes -/

/-- The character of ASCII that a byte stands for. -/
def asciiChar? (b : UInt8) : Option Char :=
  if b < 128 then some (Char.ofNat b.toNat) else none

/-- Whether a byte is none of ASCII. -/
def isHigh (b : UInt8) : Bool := 128 ≤ b

/-- Whether a byte lies within bounds. -/
def isWithin (least greatest b : UInt8) : Bool := least ≤ b && b ≤ greatest

/-- The index in a chart of rows of 94 columns, of a row and a column that count from zero. -/
def chartIndex (row column : Nat) : Nat := row * 94 + column

/-- The character in a chart of rows of 94 columns. -/
def chartChar? (rows : List String) (row column : Nat) : Option Char :=
  if column < 94 then tableChar? 94 rows (chartIndex row column) else none

/-- The row and the column, from zero, of two bytes that both lie in the upper half. -/
def highCell? (lead trail : UInt8) : Option (Nat × Nat) :=
  if isWithin 0xa1 0xfe lead && isWithin 0xa1 0xfe trail then
    some (lead.toNat - 0xa1, trail.toNat - 0xa1)
  else none

/-- The number of a trail that starts at 64 and leaves out 127. -/
def trailIndex? (trail : UInt8) : Option Nat :=
  if isWithin 0x40 0x7e trail then some (trail.toNat - 0x40)
  else if isWithin 0x80 0xfe trail then some (trail.toNat - 0x41)
  else none

end CsdlRoutes.Text.Charset
