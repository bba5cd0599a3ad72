import CsdlRoutes.Text.Charset.ChineseTable
import CsdlRoutes.Text.Charset.DoubleByte

/-!
# Chinese charsets

For the mainland there are three charsets, each one larger than the one before: one under pairs of the
upper half, one under all pairs, and one that also has four bytes a character and by them all
characters there are. For Taiwan there are two, which differ in a few characters.

* `gb2312`, `gbk`, `gb18030`, `big5` and `vendorBig5` are the charsets.
-/

namespace CsdlRoutes.Text.Charset

/-! ## The mainland -/

/-- The chart for the mainland. -/
def hanziChar? (lead trail : UInt8) : Option Char := do
  let column ← trailIndex? trail
  if isWithin 0x81 0xfe lead then tableChar? 95 hanziRows ((lead.toNat - 0x81) * 190 + column)
  else none

/-- All pairs. -/
def gbk : DoubleByte where
  single? := asciiChar?
  isLead := isHigh
  pair? := hanziChar?

/-- The number of two bytes. -/
def pairNumber (lead trail : UInt8) : Nat := lead.toNat * 256 + trail.toNat

/-- The pairs of the upper half that only the larger charsets have, as bounds. -/
def laterPairs : List (Nat × Nat) :=
  [(0xa2a1, 0xa2aa), (0xa6e0, 0xa6eb), (0xa6ee, 0xa6f2), (0xa6f4, 0xa6f5), (0xa8bb, 0xa8bb),
   (0xa8bd, 0xa8be), (0xa8c0, 0xa8c0)]

/-- Pairs of the upper half. -/
def gb2312 : DoubleByte where
  single? := asciiChar?
  isLead := isHigh
  pair? lead trail :=
    let number := pairNumber lead trail
    if lead < 0xa1 || trail < 0xa1 then none
    else if laterPairs.any fun (first, last) => first ≤ number && number ≤ last then none
    else if number = 0xa1a4 then some '・'
    else if number = 0xa1aa then some '―'
    else hanziChar? lead trail

/-- The character for private use that a pair stands for. -/
def privateChar? (lead trail : UInt8) : Option Char :=
  let column := trail.toNat - 0xa1
  if isWithin 0xaa 0xaf lead && isWithin 0xa1 0xfe trail then
    some (Char.ofNat (0xe000 + (lead.toNat - 0xaa) * 94 + column))
  else if isWithin 0xf8 0xfe lead && isWithin 0xa1 0xfe trail then
    some (Char.ofNat (0xe234 + (lead.toNat - 0xf8) * 94 + column))
  else if isWithin 0xa1 0xa7 lead && trail ≤ 0xa0 then
    (trailIndex? trail).map fun column => Char.ofNat (0xe4c6 + (lead.toNat - 0xa1) * 96 + column)
  else none

/-- The character that fills a gap. -/
def fillingChar? (lead trail : UInt8) : Option Char :=
  let number := pairNumber lead trail
  hanziFillings.findSome? fun (first, row) =>
    if first ≤ number then row.toList[number - first]? else none

/-- The character of a number among those of four bytes, below the first plane's end. -/
def numberedChar? (number : Nat) : Option Char :=
  if number < 39420 then
    ((fourByteStarts.takeWhile fun (first, _) => first ≤ number).getLast?).map
      fun (first, code) => Char.ofNat (code + (number - first))
  else none

/-- The character that four bytes stand for. Those beyond the first plane have a range of numbers of
their own. -/
def fourByteChar? (first second third fourth : UInt8) : Option Char :=
  if isWithin 0x81 0xfe third && isWithin 0x30 0x39 fourth then
    let low := (third.toNat - 0x81) * 10 + (fourth.toNat - 0x30)
    if isWithin 0x81 0x84 first then
      numberedChar? (((first.toNat - 0x81) * 10 + (second.toNat - 0x30)) * 1260 + low)
    else if isWithin 0x90 0xe3 first then
      let code := 0x10000 + ((first.toNat - 0x90) * 10 + (second.toNat - 0x30)) * 1260 + low
      if code < 0x110000 then some (Char.ofNat code) else none
    else none
  else none

/-- What a row of bytes begins with where four bytes may stand for a character. -/
def gb18030Piece : List UInt8 → Piece
  | [] => .cutOff
  | b :: rest =>
    match asciiChar? b, rest with
    | some c, _ => .text 1 [c]
    | none, [] => .cutOff
    | none, second :: more =>
      if isWithin 0x30 0x39 second then
        match more with
        | third :: fourth :: _ => .ofChar? 4 (fourByteChar? b second third fourth)
        | _ => .cutOff
      else
        .ofChar? 2 <|
          ((hanziChar? b second).or (fillingChar? b second)).or (privateChar? b second)

/-- All characters there are. -/
def gb18030 : Charset := .ofPieces gb18030Piece

/-! ## Taiwan -/

/-- The chart for Taiwan, as vendors have filled it. -/
def bigChar? (lead trail : UInt8) : Option Char := do
  let column ←
    if isWithin 0x40 0x7e trail then some (trail.toNat - 0x40)
    else if isWithin 0xa1 0xfe trail then some (trail.toNat - 0x62)
    else none
  if isWithin 0xa1 0xf9 lead then tableChar? 79 bigRows ((lead.toNat - 0xa1) * 157 + column)
  else none

/-- The pairs as vendors have filled the chart. -/
def vendorBig5 : DoubleByte where
  single? := asciiChar?
  isLead := isHigh
  pair? := bigChar?

/-- The characters for which vendors have others. -/
def bigChanges : List (Nat × Char) :=
  [(0xa145, '•'), (0xa14e, '､'), (0xa1c2, '‾'), (0xa1e3, '∼'), (0xa1f2, '♁'), (0xa1f3, '☉'),
   (0xa241, '／'), (0xa242, '＼'), (0xa244, '¥'), (0xa246, '¢'), (0xa247, '£')]

/-- The pairs without what vendors have added. -/
def big5 : DoubleByte where
  single? := asciiChar?
  isLead := isHigh
  pair? lead trail :=
    let number := pairNumber lead trail
    match bigChanges.lookup number with
    | some c => some c
    | none => if number = 0xa3e1 || 0xf9d6 ≤ number then none else bigChar? lead trail

end CsdlRoutes.Text.Charset
