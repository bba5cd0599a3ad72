import CsdlRoutes.Text.CodePoint
import CsdlRoutes.Text.Digit
import CsdlRoutes.Yaml.Cursor

/-!
# The texts of YAML scalars

A scalar is quoted, plain, or a block of lines. Inside quotes and in plain scalars a single line
break folds into a space and further breaks stay; a block keeps its breaks (`|`) or folds those
between lines that start with no blank (`>`).

* `quotedScalar` reads a scalar in single or double quotes.
* `plainScalar` reads a plain scalar.
* `blockScalar` reads a block of lines.
-/

namespace CsdlRoutes.Yaml

open Text (hexValue? ofDigits)

/-! ## Quoted scalars -/

/-- The character that a one-letter escape stands for. -/
def shortEscape? (c : Char) : Option Char :=
  match c with
  | '0' => some '\x00'
  | 'a' => some '\x07'
  | 'b' => some '\x08'
  | 't' => some '\t'
  | '\t' => some '\t'
  | 'n' => some '\n'
  | 'v' => some '\x0b'
  | 'f' => some '\x0c'
  | 'r' => some '\r'
  | 'e' => some '\x1b'
  | ' ' => some ' '
  | '\x22' => some '\x22'
  | '\\' => some '\\'
  | '/' => some '/'
  | 'N' => some '\u0085'
  | '_' => some '\u00a0'
  | 'L' => some '\u2028'
  | 'P' => some '\u2029'
  | _ => none

/-- How many hexadecimal digits follow the letter of an escape. -/
def escapeWidth? (c : Char) : Option Nat :=
  match c with
  | 'x' => some 2
  | 'u' => some 4
  | 'U' => some 8
  | _ => none

/-- The character with a number. -/
def charOfNumber (n : Nat) : Except Fault Char :=
  if n > 0x10ffff then .error (.unreadable (.character n)) else .ok (Text.charOfCode n)

/-- The line breaks and blanks between two lines of a quoted scalar: the breaks, last first, and the
place behind them. -/
def quotedBreaks : Nat → List Char → Cursor → Except Fault (List Char × Cursor)
  | 0, breaks, here => .ok (breaks, here)
  | fuel + 1, breaks, here =>
    if here.atDocumentMark then .error .separatorInQuote
    else
      let here := here.skipWhile fun c => c == ' ' || c == '\t'
      match here.lineBreak? with
      | some (c, after) => quotedBreaks fuel (c :: breaks) after
      | none => .ok (breaks, here)

/-- Blanks inside quotes, put in front of the characters read so far, last first. Blanks at the end of
a line are dropped. -/
def quotedBlanks (read : List Char) (here : Cursor) : Except Fault (List Char × Cursor) :=
  let (blanks, here) := here.splitWhile fun c => c == ' ' || c == '\t'
  if here.peek == '\x00' then .error .unclosedQuote
  else
    match here.lineBreak? with
    | none => .ok (blanks.reverse ++ read, here)
    | some (c, after) => do
      let (breaks, last) ← quotedBreaks after.rest.length [] after
      let read := if c != '\n' then c :: read else if breaks.isEmpty then ' ' :: read else read
      return (breaks ++ read, last)

/-- An escape, from its backslash on, put in front of the characters read so far. -/
def quotedEscape (read : List Char) (here : Cursor) : Except Fault (List Char × Cursor) :=
  let here := here.next
  match shortEscape? here.peek with
  | some c => .ok (c :: read, here.next)
  | none =>
    match escapeWidth? here.peek with
    | some width =>
      let here := here.next
      let digits := here.rest.take width
      match digits.mapM hexValue? with
      | none => .error .escape
      | some values => do
        if values.length < width then .error .escape
        let c ← charOfNumber (ofDigits 16 values)
        return (c :: read, here.skip width)
    | none =>
      match here.lineBreak? with
      | none => .error .escape
      | some (_, after) => do
        let (breaks, last) ← quotedBreaks after.rest.length [] after
        return (breaks ++ read, last)

/-- Reads a quoted scalar on to its closing quote. `read` holds the characters read so far, last
first. -/
def quotedFrom (double : Bool) : Nat → List Char → Cursor → Except Fault (String × Cursor)
  | 0, _, _ => .error .unclosedQuote
  | fuel + 1, read, here =>
    let c := here.peek
    if isGapOrEnd c then do
      let (read, here) ← quotedBlanks read here
      quotedFrom double fuel read here
    else if double && c == '\\' then do
      let (read, here) ← quotedEscape read here
      quotedFrom double fuel read here
    else if double && c == '\x22' then .ok (String.ofList read.reverse, here.next)
    else if !double && c == '\'' then
      if here.peekAt 1 == '\'' then quotedFrom double fuel (c :: read) (here.skip 2)
      else .ok (String.ofList read.reverse, here.next)
    else quotedFrom double fuel (c :: read) here.next

/-- Reads a quoted scalar from its opening quote on. -/
def quotedScalar (here : Cursor) : Except Fault (String × Cursor) :=
  quotedFrom (here.peek == '\x22') (here.rest.length + 1) [] here.next

/-! ## Plain scalars -/

/-- Whether a plain scalar cannot go on with a character, given the one behind it. -/
def endsPlain (inFlow : Bool) (c following : Char) : Bool :=
  let bracket (c : Char) : Bool := c == ',' || c == '[' || c == ']' || c == '\x7b' || c == '\x7d'
  isGapOrEnd c || (c == ':' && (isGapOrEnd following || (inFlow && bracket following))) ||
    (inFlow && (bracket c || c == '?'))

/-- The length of the piece of a plain scalar at the head of a text. -/
def plainLength (inFlow : Bool) : List Char → Nat
  | [] => 0
  | c :: rest =>
    if endsPlain inFlow c (rest.headD '\x00') then 0 else plainLength inFlow rest + 1

/-- The further line breaks and blanks between two pieces of a plain scalar: the breaks, last first,
unless a document mark comes, and the place behind them. -/
def plainBreaks : Nat → List Char → Cursor → Option (List Char) × Cursor
  | 0, breaks, here => (some breaks, here)
  | fuel + 1, breaks, here =>
    if here.peek == ' ' then plainBreaks fuel breaks here.next
    else
      match here.lineBreak? with
      | none => (some breaks, here)
      | some (c, after) =>
        if after.atDocumentMark then (none, after) else plainBreaks fuel (c :: breaks) after

/-- What stands between two pieces of a plain scalar. -/
structure PlainGap where
  /-- The characters that the gap puts between the pieces, last first; none ends the scalar. -/
  chars : List Char
  /-- Whether the gap broke a line. -/
  broken : Bool
  after : Cursor

/-- Reads the gap behind a piece of a plain scalar. -/
def plainGap (here : Cursor) : PlainGap :=
  let (blanks, here) := here.splitWhile (· == ' ')
  match here.lineBreak? with
  | none => ⟨blanks, false, here⟩
  | some (c, after) =>
    if after.atDocumentMark then ⟨[], true, after⟩
    else
      match plainBreaks after.rest.length [] after with
      | (none, last) => ⟨[], true, last⟩
      | (some breaks, last) =>
        ⟨breaks ++ (if c != '\n' then [c] else if breaks.isEmpty then [' '] else []), true, last⟩

/-- What a plain scalar reads to: its text, whether a line was broken behind its last piece, and the
place reached. -/
structure PlainScalar where
  text : String
  broken : Bool
  after : Cursor

/-- Reads a plain scalar on. `read` holds the characters read so far, last first, and `gap` those of
the gap before this place. -/
def plainFrom (inFlow : Bool) (indent : Int) :
    Nat → List Char → List Char → Bool → Cursor → PlainScalar
  | 0, read, _, broken, here => ⟨String.ofList read.reverse, broken, here⟩
  | fuel + 1, read, gap, broken, here =>
    let length := plainLength inFlow here.rest
    if here.peek == '#' || length == 0 then ⟨String.ofList read.reverse, broken, here⟩
    else
      let read := (here.rest.take length).reverse ++ (gap ++ read)
      let next := plainGap (here.skip length)
      if next.chars.isEmpty || next.after.peek == '#' ||
          (!inFlow && decide ((next.after.column : Int) < indent)) then
        ⟨String.ofList read.reverse, next.broken, next.after⟩
      else plainFrom inFlow indent fuel read next.chars next.broken next.after

/-- Reads a plain scalar inside a block with a given indentation, or inside brackets. -/
def plainScalar (inFlow : Bool) (indent : Int) (here : Cursor) : PlainScalar :=
  plainFrom inFlow (indent + 1) (here.rest.length + 1) [] [] false here

/-! ## Blocks of lines -/

/-- What becomes of the line breaks at the end of a block. -/
inductive Chomping where
  | clip
  | strip
  | keep
  deriving DecidableEq, Repr

/-- The mark for the line breaks at the end of a block. -/
def chompingMark? (c : Char) : Option Chomping :=
  if c == '+' then some .keep else if c == '-' then some .strip else none

/-- The digit of an indentation, from 1 to 9. -/
def indentMark? (c : Char) : Option Nat :=
  if '1' ≤ c ∧ c ≤ '9' then some (c.toNat - 48) else none

/-- Reads the marks behind the sign that opens a block, in either order. -/
def blockMarks (here : Cursor) : Chomping × Option Nat × Cursor :=
  match chompingMark? here.peek with
  | some chomping =>
    match indentMark? here.next.peek with
    | some n => (chomping, some n, here.skip 2)
    | none => (chomping, none, here.next)
  | none =>
    match indentMark? here.peek with
    | some n =>
      match chompingMark? here.next.peek with
      | some chomping => (chomping, some n, here.skip 2)
      | none => (.clip, some n, here.next)
    | none => (.clip, none, here)

/-- Skips the empty lines at the start of a block: their breaks, last first, the greatest column that
their spaces reach, and the place behind. -/
def blockStart : Nat → List Char → Nat → Cursor → List Char × Nat × Cursor
  | 0, breaks, reach, here => (breaks, reach, here)
  | fuel + 1, breaks, reach, here =>
    if here.peek == ' ' then blockStart fuel breaks (max reach here.next.column) here.next
    else
      match here.lineBreak? with
      | some (c, after) => blockStart fuel (c :: breaks) reach after
      | none => (breaks, reach, here)

/-- The spaces of an indentation, at most up to a column. -/
def skipIndent (indent : Nat) (here : Cursor) : Cursor :=
  here.skip (min (indent - here.column) (here.rest.takeWhile (· == ' ')).length)

/-- Skips the empty lines inside a block: their breaks, last first, and the place behind. -/
def blockBreaks (indent : Nat) : Nat → List Char → Cursor → List Char × Cursor
  | 0, breaks, here => (breaks, here)
  | fuel + 1, breaks, here =>
    let here := skipIndent indent here
    match here.lineBreak? with
    | some (c, after) => blockBreaks indent fuel (c :: breaks) after
    | none => (breaks, here)

/-- Whether a character is a space or a tab. -/
def isSpaceOrTab (c : Char) : Bool := c == ' ' || c == '\t'

/-- Reads the lines of a block. `read` holds the characters read so far, last first, and `breaks` the
breaks before this place. The result is the characters, the break behind the last line, the breaks
after that, and the place reached. -/
def blockLines (folded : Bool) (indent : Nat) :
    Nat → List Char → List Char → List Char → Cursor →
      List Char × List Char × List Char × Cursor
  | 0, read, last, breaks, here => (read, last, breaks, here)
  | fuel + 1, read, last, breaks, here =>
    if here.column != indent || here.peek == '\x00' then (read, last, breaks, here)
    else
      let leads := !isSpaceOrTab here.peek
      let (line, lineEnd) := here.splitWhile (!isBreakOrEnd ·)
      let read := line.reverse ++ (breaks ++ read)
      let (last, after) :=
        match lineEnd.lineBreak? with
        | some (c, after) => ([c], after)
        | none => ([], lineEnd)
      let (breaks, next) := blockBreaks indent (after.rest.length + 1) [] after
      if next.column == indent && next.peek != '\x00' then
        let read :=
          if folded && last == ['\n'] && leads && !isSpaceOrTab next.peek then
            if breaks.isEmpty then ' ' :: read else read
          else last ++ read
        blockLines folded indent fuel read last breaks next
      else (read, last, breaks, next)

/-- Reads a block of lines from its sign on, inside a block with a given indentation. -/
def blockScalar (indent : Int) (here : Cursor) : Except Fault (String × Cursor) := do
  let folded := here.peek == '>'
  let (chomping, increment, header) := blockMarks here.next
  unless isSpaceOrEnd header.peek do .error .blockHeader
  let some body := header.finishLine? | .error .blockHeader
  let least := (max (indent + 1) 1).toNat
  let (indent, breaks, first) :=
    match increment with
    | none =>
      let (breaks, reach, first) := blockStart (body.rest.length + 1) [] 0 body
      (max least reach, breaks, first)
    | some n =>
      let indent := least + n - 1
      let (breaks, first) := blockBreaks indent (body.rest.length + 1) [] body
      (indent, breaks, first)
  let (read, last, breaks, after) :=
    blockLines folded indent (first.rest.length + 1) [] [] breaks first
  let tail :=
    match chomping with
    | .clip => last
    | .strip => []
    | .keep => breaks ++ last
  return (String.ofList (tail ++ read).reverse, after)

end CsdlRoutes.Yaml
