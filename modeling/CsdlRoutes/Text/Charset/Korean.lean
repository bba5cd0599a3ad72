import CsdlRoutes.Text.Charset.DoubleByte
import CsdlRoutes.Text.Charset.KoreanTable

/-!
# Korean charsets

The chart of Korean characters stands under pairs of bytes of the upper half. One charset composes the
syllables that the chart lacks out of letters, eight bytes a syllable; the other one places them, in
their order, under the pairs that are left.

* `eucKr` and `unifiedHangul` are the charsets.
-/

namespace CsdlRoutes.Text.Charset

/-- The first of all syllables. -/
def firstSyllable : Nat := 0xac00

/-- The number of all syllables. -/
def syllableCount : Nat := 11172

/-- The chart. -/
def wansungChar? (lead trail : UInt8) : Option Char :=
  (highCell? lead trail).bind fun (row, column) => chartChar? wansungRows row column

/-! ## Composed syllables -/

/-- The letters of the chart, as numbers of what they are at the start of a syllable. -/
def initialLetters : List (Option Nat) :=
  [some 0, some 1, none, some 2, none, none, some 3, some 4, some 5, none, none, none, none, none,
   none, none, some 6, some 7, some 8, none, some 9, some 10, some 11, some 12, some 13, some 14,
   some 15, some 16, some 17, some 18]

/-- The letters of the chart, as numbers of what they are at the end of a syllable. -/
def finalLetters : List (Option Nat) :=
  [some 1, some 2, some 3, some 4, some 5, some 6, some 7, none, some 8, some 9, some 10, some 11,
   some 12, some 13, some 14, some 15, some 16, some 17, none, some 18, some 19, some 20, some 21,
   some 22, none, some 23, some 24, some 25, some 26, some 27]

/-- The byte that fills the place of a letter. -/
def letterFiller : UInt8 := 0xd4

/-- The syllable of a letter at the start, one in the middle and one at the end. -/
def composedSyllable? (initial medial final : UInt8) : Option Char := do
  let first ← (← initialLetters[initial.toNat - 0xa1]?).filter fun _ => isWithin 0xa1 0xbe initial
  let middle ← if isWithin 0xbf 0xd3 medial then some (medial.toNat - 0xbf) else none
  let last ←
    if final = letterFiller then some 0
    else (← finalLetters[final.toNat - 0xa1]?).filter fun _ => isWithin 0xa1 0xbe final
  return Char.ofNat (firstSyllable + first * 588 + middle * 28 + last)

/-- What a row of bytes begins with that starts a composed syllable. -/
def composedPiece : List UInt8 → Piece
  | 0xa4 :: _ :: 0xa4 :: initial :: 0xa4 :: medial :: 0xa4 :: final :: _ =>
    .ofChar? 8 (composedSyllable? initial medial final)
  | bytes => if bytes.length < 8 then .cutOff else .wrong 1

/-- What a row of bytes begins with where syllables are composed. -/
def eucKrPiece : List UInt8 → Piece
  | [] => .cutOff
  | b :: rest =>
    match asciiChar? b, rest with
    | some c, _ => .text 1 [c]
    | none, [] => .cutOff
    | none, trail :: _ =>
      if b = 0xa4 ∧ trail = letterFiller then composedPiece (b :: rest)
      else .ofChar? 2 (wansungChar? b trail)

/-- The chart, with composed syllables. -/
def eucKr : Charset := .ofPieces eucKrPiece

/-! ## All syllables under pairs -/

/-- The number of a pair that is left by the chart. Up to the lead 160 there are 178 trails, and 84
from there on. -/
def leftIndex? (lead trail : UInt8) : Option Nat := do
  let column ←
    if isWithin 0x41 0x5a trail then some (trail.toNat - 0x41)
    else if isWithin 0x61 0x7a trail then some (trail.toNat - 0x61 + 26)
    else if isWithin 0x81 0xfe trail then some (trail.toNat - 0x81 + 52)
    else none
  if isWithin 0x81 0xa0 lead then some ((lead.toNat - 0x81) * 178 + column)
  else if isWithin 0xa1 0xc6 lead ∧ column < 84 then
    some (32 * 178 + (lead.toNat - 0xa1) * 84 + column)
  else none

/-- The syllables of the chart, in their order. -/
def chartSyllables : List Nat :=
  ((wansungRows.drop 15).take 25).flatMap fun row => row.toList.map Char.toNat

/-- A number of a syllable among all, given its number among those that are not in a row of some. -/
def passOver (syllable : Nat) : List Nat → Nat
  | [] => syllable
  | taken :: rest => if taken ≤ syllable then passOver (syllable + 1) rest else syllable

/-- The syllable that a pair left by the chart stands for. -/
def leftSyllable? (lead trail : UInt8) : Option Char := do
  let syllable := passOver (firstSyllable + (← leftIndex? lead trail)) chartSyllables
  if syllable < firstSyllable + syllableCount then some (Char.ofNat syllable) else none

/-- The chart, and all other syllables under the pairs that it leaves. -/
def unifiedHangul : DoubleByte where
  single? := asciiChar?
  isLead := isHigh
  pair? lead trail := (wansungChar? lead trail).or (leftSyllable? lead trail)

end CsdlRoutes.Text.Charset
