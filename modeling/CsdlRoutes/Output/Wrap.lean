import CsdlRoutes.Output.CellWidth
import CsdlRoutes.Text.Blank

/-!
# Fitting text into the width of a terminal

A text is shown in lines of a bounded number of cells. A line breaks before a word that does not fit
any more, and inside a word that no line could hold. Blanks that stand beyond the width at the end of
a line are left out.

* `breaks` are the places at which a line breaks.
* `wrap` are the lines of a text.
-/

namespace CsdlRoutes.Output

open Text (isBlank)

/-! ## Words -/

/-- Splits a word, with the blanks behind it, from the rest. Blanks before it belong to it. -/
def splitWord (cs : List Char) : List Char × List Char :=
  let lead := cs.takeWhile isBlank
  let rest := cs.dropWhile isBlank
  let word := rest.takeWhile (!isBlank ·)
  let behind := rest.dropWhile (!isBlank ·)
  (lead ++ word ++ behind.takeWhile isBlank, behind.dropWhile isBlank)

/-- The words of a row of characters in at most a number of steps. -/
def splitWordsIn : Nat → List Char → List (List Char)
  | 0, _ => []
  | fuel + 1, cs =>
    if cs.all isBlank then []
    else
      let (word, rest) := splitWord cs
      word :: splitWordsIn fuel rest

/-- The words of a row of characters, each with the blanks behind it. Together they are the whole row,
unless it is blank. -/
def splitWords (cs : List Char) : List (List Char) := splitWordsIn (cs.length + 1) cs

/-- A row of characters without the blanks at its end. -/
def trimEnd (cs : List Char) : List Char := (cs.reverse.dropWhile isBlank).reverse

/-! ## Breaks -/

/-- Cuts a row of characters into parts that fit, given the part that is not finished, backwards, and
its width. -/
def chop (width : Nat) : List Char → Nat → List Char → List (List Char)
  | part, _, [] => [part.reverse]
  | part, filled, c :: rest =>
    if width < filled + cellWidth c then
      part.reverse :: chop width [c] (cellWidth c) rest
    else chop width (c :: part) (filled + cellWidth c) rest

/-- The places at which the parts of a word start, given the place of the word. A line does not break
at its start. -/
def partStarts (start : Nat) : List (List Char) → List Nat
  | [] => []
  | part :: rest =>
    (if start = 0 then [] else [start]) ++ partStarts (start + part.length) rest

/-- The places at which a line breaks, given its words, the place of the next word and how many cells
of the line are filled. -/
def breaksBefore (width : Nat) : Nat → Nat → List (List Char) → List Nat
  | _, _, [] => []
  | start, filled, word :: rest =>
    let next := start + word.length
    if filled + cells (trimEnd word) ≤ width then
      breaksBefore width next (filled + cells word) rest
    else if width < cells (trimEnd word) then
      let parts := chop width [] 0 word
      partStarts start parts ++
        breaksBefore width next (cells (parts.getLast?.getD [])) rest
    else if filled ≠ 0 ∧ start ≠ 0 then
      start :: breaksBefore width next (cells word) rest
    else breaksBefore width next filled rest

/-- The places at which a line breaks. -/
def breaks (width : Nat) (cs : List Char) : List Nat := breaksBefore width 0 0 (splitWords cs)

/-- Cuts a row of characters at places, given the place at which it starts. -/
def cutAt (start : Nat) (cs : List Char) : List Nat → List (List Char)
  | [] => [cs]
  | place :: rest => cs.take (place - start) :: cutAt place (cs.drop (place - start)) rest

/-! ## Lines -/

/-- Leaves out blanks at the end, but only as many as there are characters beyond the width. -/
def dropEndBlanks (width : Nat) (cs : List Char) : List Char :=
  let blanks := cs.length - (trimEnd cs).length
  cs.take (cs.length - min blanks (cs.length - width))

/-- The longest part of a row of characters that fills the width, by halving, in at most a number of
steps. Half of a wide character shows as a blank. -/
def cropBetween (width : Nat) (cs : List Char) : Nat → Nat → Nat → List Char
  | 0, _, _ => cs.take width
  | fuel + 1, low, high =>
    let middle := (low + high) / 2
    let before := cs.take (middle + 1)
    if cells before = width + 1 ∧ (before.getLast?.map cellWidth) = some 2 then
      before.dropLast ++ [' ']
    else if cells before = width then before
    else if width < cells before then cropBetween width cs fuel low middle
    else cropBetween width cs fuel middle high

/-- A row of characters cut to the width. -/
def crop (width : Nat) (cs : List Char) : List Char :=
  if cells cs ≤ width then cs else cropBetween width cs (cs.length + 1) 0 cs.length

/-- How many cells lie between the stops of the tabulator. -/
def tabStop : Nat := 8

/-- Blanks in the place of tabulators, given how many cells are filled. -/
def expandTabs (filled : Nat) : List Char → List Char
  | [] => []
  | '\t' :: rest =>
    let next := (filled / tabStop + 1) * tabStop
    List.replicate (next - filled) ' ' ++ expandTabs next rest
  | c :: rest => c :: expandTabs (filled + cellWidth c) rest

/-- The parts of a row of characters between line feeds. -/
def splitLines : List Char → List (List Char)
  | [] => [[]]
  | c :: rest =>
    match splitLines rest with
    | [] => [[c]]
    | line :: more => if c == '\n' then [] :: line :: more else (c :: line) :: more

/-- The lines in which one line is shown. -/
def wrapLine (width : Nat) (cs : List Char) : List (List Char) :=
  let cs := expandTabs 0 cs
  (cutAt 0 cs (breaks width cs)).map fun line => crop width (dropEndBlanks width line)

/-- The control characters that are not shown: bell, backspace, vertical tab, form feed and carriage
return. -/
def isDropped (c : Char) : Bool := [7, 8, 11, 12, 13].contains c.toNat

/-- The lines of a text. -/
def wrap (width : Nat) (cs : List Char) : List (List Char) :=
  (splitLines (cs.filter (!isDropped ·))).flatMap (wrapLine width)

end CsdlRoutes.Output
