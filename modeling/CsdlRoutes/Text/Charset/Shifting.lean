import CsdlRoutes.Text.Charset.Chinese
import CsdlRoutes.Text.Charset.Japanese
import CsdlRoutes.Text.Charset.Korean

/-!
# Charsets that shift between charts

These charsets write everything with the bytes of ASCII. Marks, or sequences that start with an escape
character, tell by which chart the bytes behind them are read.

* `hz` shifts between ASCII and Chinese characters by marks with a tilde.
* `Designation` are the charts that an escape sequence names, and `shifting` reads them.
-/

namespace CsdlRoutes.Text.Charset

/-! ## Marks with a tilde -/

/-- A pair of bytes of the lower half, as a pair of the upper half. -/
def raised (f : UInt8 → UInt8 → Option Char) (lead trail : UInt8) : Option Char :=
  if lead < 128 && trail < 128 then f (lead + 128) (trail + 128) else none

/-- Reads bytes by one of two charts. -/
def readHz (isChinese : Bool) : List UInt8 → List Char
  | [] => []
  | [b] => if b < 128 && b != 0x7e && !isChinese then [Char.ofNat b.toNat] else [replacementMark]
  | b :: next :: rest =>
    if b = 0x7e then
      if next = 0x7e && !isChinese then '~' :: readHz isChinese rest
      else if next = 0x7b && !isChinese then readHz true rest
      else if next = 0x0a && !isChinese then readHz isChinese rest
      else if next = 0x7d && isChinese then readHz false rest
      else replacementMark :: readHz isChinese (next :: rest)
    else if 128 ≤ b then replacementMark :: readHz isChinese (next :: rest)
    else if isChinese then
      match raised gb2312.pair? b next with
      | some c => c :: readHz isChinese rest
      | none => replacementMark :: readHz isChinese (next :: rest)
    else Char.ofNat b.toNat :: readHz isChinese (next :: rest)

/-- ASCII and, between marks, Chinese characters. -/
def hz : Charset := fun bytes => .ok (readHz false bytes)

/-! ## Escape sequences -/

/-- A chart that an escape sequence names. -/
inductive Designation where
  | ascii
  /-- ASCII with two other characters. -/
  | roman
  | halfWidth
  | kanji
  | supplement
  | hanzi
  | wansung
  deriving DecidableEq, Repr

/-- How many bytes stand for a character. -/
def Designation.width : Designation → Nat
  | .ascii | .roman | .halfWidth => 1
  | _ => 2

/-- The letter in an escape sequence, and whether a dollar sign is before it. -/
def Designation.ofLetter? (isDouble : Bool) (letter : UInt8) : Option Designation :=
  match isDouble, letter with
  | false, 0x42 => some .ascii
  | false, 0x4a => some .roman
  | false, 0x49 => some .halfWidth
  | true, 0x40 | true, 0x42 => some .kanji
  | true, 0x44 => some .supplement
  | true, 0x41 => some .hanzi
  | true, 0x43 => some .wansung
  | _, _ => none

/-- The cell of a Japanese chart. -/
def kanjiCell? (rows : List String) (lead trail : UInt8) : Option Char :=
  (highCell? lead trail).bind fun (row, column) => chartChar? rows row column

/-- The character that bytes at the start of a row stand for. -/
def Designation.charOf? (d : Designation) (first second : UInt8) : Option Char :=
  match d with
  | .ascii => asciiChar? first
  | .roman =>
    if first = 0x5c then some '¥' else if first = 0x7e then some '‾' else asciiChar? first
  | .halfWidth => if first < 128 then halfWidth? (first + 128) else none
  | .kanji => raised (kanjiCell? kanjiRows) first second
  | .supplement => raised (kanjiCell? supplementRows) first second
  | .hanzi => raised gb2312.pair? first second
  | .wansung => raised wansungChar? first second

/-- What bytes are read by: two charts, which of them counts, and whether an escape sequence of another
kind is passed through. -/
structure Shifts where
  chart : Designation
  shiftedChart : Designation
  isShifted : Bool
  passesThrough : Bool
  deriving DecidableEq, Repr

/-- At the start everything is ASCII. -/
def Shifts.start : Shifts := ⟨.ascii, .ascii, false, false⟩

/-- Whether a byte ends an escape sequence. -/
def endsEscape (b : UInt8) : Bool := isWithin 0x41 0x5a b || b == 0x40

/-- An escape sequence: its length, and the charts behind it if it names one of some. -/
def readEscape (known : List Designation) (s : Shifts) (bytes : List UInt8) :
    Option (Nat × Option Shifts) :=
  let inside := (bytes.drop 1).takeWhile fun b => !endsEscape b
  let length := inside.length + 2
  let named (isDouble : Bool) : Option Designation :=
    ((bytes[length - 1]?).bind (Designation.ofLetter? isDouble)).filter fun d =>
      d == .ascii || known.contains d
  if 16 < length then some (1, none)
  else if bytes.length < length then none
  else
    some (length,
      match inside with
      | [0x24] | [0x24, 0x28] => (named true).map fun chart => { s with chart }
      | [0x28] => (named false).map fun chart => { s with chart }
      | [0x24, 0x29] => (named true).map fun shiftedChart => { s with shiftedChart }
      | [0x29] => (named false).map fun shiftedChart => { s with shiftedChart }
      | _ => none)

/-- Reads bytes by the charts that escape sequences name. Where shifts are on, two control characters
change between the charts, and a line starts with the first one. -/
def readShifting (known : List Designation) (hasShifts : Bool) (s : Shifts) :
    List UInt8 → List Char
  | [] => []
  | b :: rest =>
    let itself := Char.ofNat b.toNat
    if s.passesThrough then
      itself :: readShifting known hasShifts { s with passesThrough := !endsEscape b } rest
    else if b = 0x1b then
      match rest.head? with
      | none => [replacementMark]
      | some next =>
        if [0x28, 0x29, 0x24, 0x2e, 0x26].contains next then
          match readEscape known s (b :: rest) with
          | none => [replacementMark]
          | some (length, some shifts) =>
            readShifting known hasShifts shifts (rest.drop (length - 1))
          | some (length, none) =>
            replacementMark :: readShifting known hasShifts s (rest.drop (length - 1))
        else itself :: readShifting known hasShifts { s with passesThrough := true } rest
    else if b = 0x0e && hasShifts then
      readShifting known hasShifts { s with isShifted := true } rest
    else if b = 0x0f && hasShifts then
      readShifting known hasShifts { s with isShifted := false } rest
    else if b = 0x0a then itself :: readShifting known hasShifts { s with isShifted := false } rest
    else if b < 0x20 then itself :: readShifting known hasShifts s rest
    else if 128 ≤ b then replacementMark :: readShifting known hasShifts s rest
    else
      let chart := if s.isShifted then s.shiftedChart else s.chart
      if rest.length + 1 < chart.width then [replacementMark]
      else
        (chart.charOf? b (rest.headD 0)).getD replacementMark ::
          readShifting known hasShifts s (rest.drop (chart.width - 1))
termination_by bytes => bytes.length
decreasing_by all_goals simp only [List.length_drop, List.length_cons]; omega

/-- The charset of some charts. -/
def shifting (known : List Designation) (hasShifts : Bool) : Charset := fun bytes =>
  .ok (readShifting known hasShifts .start bytes)

end CsdlRoutes.Text.Charset
