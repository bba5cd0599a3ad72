import CsdlRoutes.Text.Charset.DoubleByte
import CsdlRoutes.Text.Charset.JapaneseTable

/-!
# Japanese charsets

Two ways of placing the chart of Japanese characters under pairs of bytes, one of them also as vendors
have filled it, and one with a second chart under three bytes. The half-width letters stand under one
byte, or under a byte behind a mark.

* `shiftJis`, `vendorShiftJis` and `eucJp` are the charsets.
-/

namespace CsdlRoutes.Text.Charset

/-- The half-width letter that a byte stands for. -/
def halfWidth? (b : UInt8) : Option Char :=
  if isWithin 0xa1 0xdf b then some (Char.ofNat (0xff61 + (b.toNat - 0xa1))) else none

/-- The row and the column, from zero, of a pair whose leads share two rows each. -/
def sharedCell? (lead trail : UInt8) : Option (Nat × Nat) := do
  let base ←
    if isWithin 0x81 0x9f lead then some (lead.toNat - 0x81)
    else if isWithin 0xe0 0xfc lead then some (lead.toNat - 0xc1)
    else none
  let column ← if trail ≤ 0xfc then trailIndex? trail else none
  return (2 * base + column / 94, column % 94)

/-- The pairs as the chart has them. -/
def shiftJis : DoubleByte where
  single? b := (asciiChar? b).or (halfWidth? b)
  isLead b := isWithin 0x81 0x9f b || isWithin 0xe0 0xea b
  pair? lead trail := (sharedCell? lead trail).bind fun (row, column) =>
    chartChar? kanjiRows row column

/-- The characters of the chart for which vendors have others, by row and column from zero. -/
def vendorChanges : List ((Nat × Nat) × Char) :=
  [((0, 32), '～'), ((0, 33), '∥'), ((0, 60), '－'), ((0, 80), '￠'), ((0, 81), '￡'),
   ((1, 43), '￢')]

/-- The chart as vendors have filled it, by row and column from zero. The rows 95 to 114 are for
private use. -/
def vendorChar? (row column : Nat) : Option Char :=
  match vendorChanges.lookup (row, column) with
  | some c => some c
  | none =>
    if row = 12 then chartChar? numberRow 0 column
    else if 88 ≤ row ∧ row < 92 then chartChar? addedRows (row - 88) column
    else if 94 ≤ row ∧ row < 114 then some (Char.ofNat (0xe000 + chartIndex (row - 94) column))
    else if 114 ≤ row then chartChar? lastRows (row - 114) column
    else chartChar? kanjiRows row column

/-- The pairs as vendors have filled the chart. Bytes that are left over stand for themselves or for
private use. -/
def vendorShiftJis : DoubleByte where
  single? b :=
    if b = 0x80 then some '\x80'
    else if b = 0xa0 then some '\uf8f0'
    else if 0xfd ≤ b then some (Char.ofNat (0xf8f1 + (b.toNat - 0xfd)))
    else (asciiChar? b).or (halfWidth? b)
  isLead _ := true
  pair? lead trail := (sharedCell? lead trail).bind fun (row, column) => vendorChar? row column

/-- What a row of bytes begins with where pairs lie in the upper half. -/
def eucJpPiece : List UInt8 → Piece
  | [] => .cutOff
  | b :: rest =>
    match asciiChar? b, rest with
    | some c, _ => .text 1 [c]
    | none, [] => .cutOff
    | none, second :: more =>
      if b = 0x8e then .ofChar? 2 (halfWidth? second)
      else if b = 0x8f then
        match more with
        | [] => .cutOff
        | third :: _ =>
          .ofChar? 3 ((highCell? second third).bind fun (row, column) =>
            chartChar? supplementRows row column)
      else
        .ofChar? 2 ((highCell? b second).bind fun (row, column) => chartChar? kanjiRows row column)

/-- Pairs in the upper half. -/
def eucJp : Charset := .ofPieces eucJpPiece

end CsdlRoutes.Text.Charset
