import CsdlRoutes.Text.CodePoint
import CsdlRoutes.Value

/-!
# Reading JSON

A reader works on the characters that are left. When it fails it says why and hands back what was
left at the place of the fault, from which the position in the whole text follows.

Beyond the standard, the numbers `NaN`, `Infinity` and `-Infinity` are read, and a number without
fraction and exponent is an integer of any size up to 4300 digits. Collections stand in one another
up to a depth of `nestingLimit`.

* `Json.read` reads a whole text.
* `Json.Fault.message` words a fault together with its line, column and character.
-/

namespace CsdlRoutes.Json

open Number (Binary64)
open Text (isAsciiDigit hexValue? ofDigits asciiDigitValue charOfCode)

/-- What a reader missed or could not accept. -/
inductive Cause where
  | valueExpected
  | nameExpected
  | colonExpected
  | commaExpected
  | extraData
  | unterminatedString
  | controlCharacter
  | badEscape
  | badUnicodeEscape
  | byteOrderMark
  /-- An integer of more digits than are read. -/
  | longInteger (digits : Nat)
  /-- A collection inside more others than are read. -/
  | tooDeep
  deriving DecidableEq, Repr

/-- Why reading stopped, and what was left there. -/
structure Stop where
  cause : Cause
  rest : List Char
  deriving DecidableEq, Repr

/-! ## Tokens -/

/-- The four characters that may stand between tokens. -/
def isGap (c : Char) : Bool := c == ' ' || c == '\t' || c == '\n' || c == '\r'

/-- Skips the characters between tokens. -/
def skipGap (cs : List Char) : List Char := cs.dropWhile isGap

/-- What follows a word, if the text starts with it. -/
def afterWord? : List Char → List Char → Option (List Char)
  | [], cs => some cs
  | w :: ws, c :: cs => if w = c then afterWord? ws cs else none
  | _ :: _, [] => none

/-- The character that a one-letter escape stands for. -/
def shortEscape? (c : Char) : Option Char :=
  match c with
  | '\x22' => some '\x22'
  | '\\' => some '\\'
  | '/' => some '/'
  | 'b' => some '\x08'
  | 'f' => some '\x0c'
  | 'n' => some '\n'
  | 'r' => some '\r'
  | 't' => some '\t'
  | _ => none

/-- The code unit of four hexadecimal digits. -/
def codeUnit? (a b c d : Char) : Option Nat := do
  let a ← hexValue? a
  let b ← hexValue? b
  let c ← hexValue? c
  let d ← hexValue? d
  return ofDigits 16 [a, b, c, d]

/-- Whether a code unit is the first of a pair. -/
def isHighSurrogate (n : Nat) : Bool := decide (0xd800 ≤ n) && decide (n ≤ 0xdbff)

/-- Whether a code unit is the second of a pair. -/
def isLowSurrogate (n : Nat) : Bool := decide (0xdc00 ≤ n) && decide (n ≤ 0xdfff)

/-- The character of a pair of code units. -/
def charOfPair (high low : Nat) : Char :=
  Char.ofNat (0x10000 + (high - 0xd800) * 0x400 + (low - 0xdc00))

/-- Reads the four digits after an escaping `u`, and with them a second escape if the two make a pair.
`start` is the text from that `u` on. One more character has to follow the digits. -/
def unicodeEscape (start : List Char) : Except Stop (Char × List Char) :=
  match start with
  | _ :: a :: b :: c :: d :: rest =>
    match rest, codeUnit? a b c d with
    | _ :: _, some first =>
      match rest with
      | '\\' :: 'u' :: a' :: b' :: c' :: d' :: after =>
        if isHighSurrogate first && !after.isEmpty then
          match codeUnit? a' b' c' d' with
          | none => .error ⟨.badUnicodeEscape, rest.drop 1⟩
          | some second =>
            if isLowSurrogate second then .ok (charOfPair first second, after)
            else .ok (charOfCode first, rest)
        else .ok (charOfCode first, rest)
      | _ => .ok (charOfCode first, rest)
    | _, _ => .error ⟨.badUnicodeEscape, start⟩
  | _ => .error ⟨.badUnicodeEscape, start⟩

/-- Reads a string after its opening quote. `opening` is the text from that quote on, where an
unclosed string is reported; `read` holds the characters read so far, last first. -/
def stringBody (opening : List Char) :
    Nat → List Char → List Char → Except Stop (String × List Char)
  | 0, _, _ => .error ⟨.unterminatedString, opening⟩
  | _ + 1, _, [] => .error ⟨.unterminatedString, opening⟩
  | fuel + 1, read, c :: rest =>
    if c = '\x22' then .ok (String.ofList read.reverse, rest)
    else if c.toNat < 0x20 then .error ⟨.controlCharacter, c :: rest⟩
    else if c ≠ '\\' then stringBody opening fuel (c :: read) rest
    else
      match rest with
      | [] => .error ⟨.unterminatedString, opening⟩
      | e :: more =>
        if e = 'u' then
          match unicodeEscape rest with
          | .ok (x, rest) => stringBody opening fuel (x :: read) rest
          | .error stop => .error stop
        else
          match shortEscape? e with
          | some x => stringBody opening fuel (x :: read) more
          | none => .error ⟨.badEscape, c :: rest⟩

/-- Reads a string after its opening quote, given the text from the quote on. -/
def quotedText (opening : List Char) : Except Stop (String × List Char) :=
  stringBody opening opening.length [] (opening.drop 1)

/-- The value of a row of decimal digits. -/
def decimalValue (digits : List Char) : Nat := ofDigits 10 (digits.map asciiDigitValue)

/-- An exponent mark with its digits: the exponent and what follows, if the text starts with one. -/
def exponent? : List Char → Option (Int × List Char)
  | mark :: rest =>
    if mark = 'e' ∨ mark = 'E' then
      let (negative, body) :=
        match rest with
        | '-' :: r => (true, r)
        | '+' :: r => (false, r)
        | r => (false, r)
      let digits := body.takeWhile isAsciiDigit
      if digits.isEmpty then none
      else
        let n := Int.ofNat (decimalValue digits)
        some (if negative then -n else n, body.dropWhile isAsciiDigit)
    else none
  | [] => none

/-- A point with its digits, and what follows, if the text starts with them. -/
def fraction? : List Char → Option (List Char × List Char)
  | '.' :: rest =>
    let digits := rest.takeWhile isAsciiDigit
    if digits.isEmpty then none else some (digits, rest.dropWhile isAsciiDigit)
  | _ => none

/-- Reads a number. A fraction or an exponent makes it a floating-point number. -/
def number (cs : List Char) : Except Stop (Scalar × List Char) :=
  let (negative, body) :=
    match cs with
    | '-' :: rest => (true, rest)
    | rest => (false, rest)
  let whole :=
    match body with
    | '0' :: _ => ['0']
    | _ => body.takeWhile isAsciiDigit
  if whole.isEmpty then .error ⟨.valueExpected, cs⟩
  else
    let afterWhole := body.drop whole.length
    let (fraction, afterFraction) := (fraction? afterWhole).getD ([], afterWhole)
    let (exponent, rest) := (exponent? afterFraction).getD (0, afterFraction)
    if fraction.isEmpty ∧ rest.length = afterFraction.length then
      if whole.length > Number.maxDigits then .error ⟨.longInteger whole.length, cs⟩
      else
        let n := Int.ofNat (decimalValue whole)
        .ok (.int (if negative then -n else n), rest)
    else
      let coefficient := decimalValue (whole ++ fraction)
      .ok (.float (Binary64.ofDecimal negative coefficient (exponent - fraction.length)), rest)

/-- The words that stand for a leaf. -/
def words : List (String × Scalar) :=
  [("null", .null), ("true", .bool true), ("false", .bool false), ("NaN", .float (.nan 0)),
   ("Infinity", .float (.infinite false)), ("-Infinity", .float (.infinite true))]

/-- Reads a leaf that is no string. -/
def leaf (cs : List Char) : Except Stop (Scalar × List Char) :=
  match words.findSome? fun (word, s) => (afterWord? word.toList cs).map (s, ·) with
  | some found => .ok found
  | none => number cs

/-! ## Values -/

/-- How many collections may stand in one another. -/
def nestingLimit : Nat := 985

/-- How many collections may stand in one that is opened where `room` of them may, or the fault that
none may be opened there. -/
def roomWithin (room : Nat) (start : List Char) : Except Stop Nat :=
  match room with
  | 0 => .error ⟨.tooDeep, start⟩
  | room + 1 => .ok room

mutual

/-- Reads a value in which `room` collections may stand in one another. -/
def value : Nat → Nat → List Char → Except Stop (Value × List Char)
  | 0, _, cs => .error ⟨.valueExpected, cs⟩
  | _ + 1, _, [] => .error ⟨.valueExpected, []⟩
  | fuel + 1, room, c :: rest =>
    if c = '\x22' then do
      let (s, rest) ← quotedText (c :: rest)
      return (.text s, rest)
    else if c = '\x7b' then do
      let room ← roomWithin room (c :: rest)
      match skipGap rest with
      | '\x7d' :: rest => return (.object [], rest)
      | rest =>
        let (assignments, rest) ← members fuel room [] rest
        return (.object (Keyed.ofList assignments), rest)
    else if c = '[' then do
      let room ← roomWithin room (c :: rest)
      match skipGap rest with
      | ']' :: rest => return (.list [], rest)
      | rest =>
        let (items, rest) ← elements fuel room [] rest
        return (.list items, rest)
    else do
      let (s, rest) ← leaf (c :: rest)
      return (.scalar s, rest)

/-- Reads the members of an object up to its closing brace. -/
def members : Nat → Nat → List (Scalar × Value) → List Char →
    Except Stop (List (Scalar × Value) × List Char)
  | 0, _, _, cs => .error ⟨.nameExpected, cs⟩
  | fuel + 1, room, read, cs =>
    match cs with
    | '\x22' :: _ => do
      let (key, rest) ← quotedText cs
      match skipGap rest with
      | ':' :: rest => do
        let (v, rest) ← value fuel room (skipGap rest)
        let read := (Scalar.text key, v) :: read
        match skipGap rest with
        | '\x7d' :: rest => .ok (read.reverse, rest)
        | ',' :: rest => members fuel room read (skipGap rest)
        | rest => .error ⟨.commaExpected, rest⟩
      | rest => .error ⟨.colonExpected, rest⟩
    | _ => .error ⟨.nameExpected, cs⟩

/-- Reads the items of a list up to its closing bracket. -/
def elements : Nat → Nat → List Value → List Char → Except Stop (List Value × List Char)
  | 0, _, _, cs => .error ⟨.valueExpected, cs⟩
  | fuel + 1, room, read, cs => do
    let (v, rest) ← value fuel room cs
    let read := v :: read
    match skipGap rest with
    | ']' :: rest => .ok (read.reverse, rest)
    | ',' :: rest => elements fuel room read (skipGap rest)
    | rest => .error ⟨.commaExpected, rest⟩

end

/-- Reads a whole text. Every step of the reader but the first of a list takes a character, so twice
the length of the text bounds the steps. -/
def readChars (cs : List Char) : Except Stop Value :=
  match cs with
  | '\ufeff' :: _ => .error ⟨.byteOrderMark, cs⟩
  | _ => do
    let (v, rest) ← value (2 * cs.length + 2) nestingLimit (skipGap cs)
    match skipGap rest with
    | [] => .ok v
    | rest => .error ⟨.extraData, rest⟩

/-! ## Positions -/

/-- A place in a text: line and column from one, and the count of characters before it. -/
structure Position where
  line : Nat
  column : Nat
  index : Nat
  deriving DecidableEq, Repr

/-- The place that a count of characters leads to. -/
def Position.of (cs : List Char) (index : Nat) : Position :=
  let before := cs.take index
  let line := before.count '\n' + 1
  let column := (before.reverse.takeWhile (· != '\n')).length + 1
  ⟨line, column, index⟩

/-- A reason why a text is not read, with its place. -/
structure Fault where
  cause : Cause
  position : Position
  deriving DecidableEq, Repr

/-- Reads a JSON text. -/
def read (text : String) : Except Fault Value :=
  let cs := text.toList
  match readChars cs with
  | .ok v => .ok v
  | .error stop => .error ⟨stop.cause, Position.of cs (cs.length - stop.rest.length)⟩

/-- Whether a fault concerns the size of a number or the depth of a collection, in a text that may
follow the grammar. -/
def Fault.isOversize (f : Fault) : Bool :=
  match f.cause with
  | .longInteger _ | .tooDeep => true
  | _ => false

/-- The wording of a cause. -/
def Cause.wording : Cause → String
  | .valueExpected => "Expecting value"
  | .nameExpected => "Expecting property name enclosed in double quotes"
  | .colonExpected => "Expecting ':' delimiter"
  | .commaExpected => "Expecting ',' delimiter"
  | .extraData => "Extra data"
  | .unterminatedString => "Unterminated string starting at"
  | .controlCharacter => "Invalid control character at"
  | .badEscape => "Invalid \\escape"
  | .badUnicodeEscape => "Invalid \\uXXXX escape"
  | .byteOrderMark => "Unexpected UTF-8 BOM (decode using utf-8-sig)"
  | .longInteger digits =>
    s!"Exceeds the limit (4300 digits) for integer string conversion: value has {digits} digits; " ++
      "use sys.set_int_max_str_digits() to increase the limit"
  | .tooDeep => "Collections stand in too many others"

/-- The wording of a fault. What is oversized is reported without its place. -/
def Fault.message (f : Fault) : String :=
  if f.isOversize then f.cause.wording
  else s!"{f.cause.wording}: line {f.position.line} column {f.position.column} " ++
    s!"(char {f.position.index})"

end CsdlRoutes.Json
