import CsdlRoutes.Text.Charset.Piece

/-!
# Charsets with escapes

A byte stands for the character of its number, but a backslash starts the number of a character in
hexadecimal digits and, in one of the two charsets, the short forms of control characters as well.

* `escapes` and `numberEscapes` are the charsets.
-/

namespace CsdlRoutes.Text.Charset

/-- The value of a byte as a hexadecimal digit. -/
def hexByte? (b : UInt8) : Option Nat :=
  if 0x30 ≤ b ∧ b ≤ 0x39 then some (b.toNat - 0x30)
  else if 0x61 ≤ b ∧ b ≤ 0x66 then some (b.toNat - 0x57)
  else if 0x41 ≤ b ∧ b ≤ 0x46 then some (b.toNat - 0x37)
  else none

/-- The piece of a number in hexadecimal digits, given what was read of it. A number that no character
has stands for nothing. -/
def hexPiece (read : Nat) (missing code : Nat) : List UInt8 → Piece
  | bytes =>
    match missing, bytes with
    | 0, _ =>
      if code < 0xd800 ∨ (0xe000 ≤ code ∧ code < 0x110000) then .text read [Char.ofNat code]
      else .wrong read
    | _ + 1, [] => .cutOff
    | missing + 1, b :: rest =>
      match hexByte? b with
      | some digit => hexPiece (read + 1) missing (code * 16 + digit) rest
      | none => .wrong read

/-- The number of up to three octal digits, and how many there are. -/
def octalNumber (bytes : List UInt8) : Nat × Nat :=
  let digits := (bytes.take 3).takeWhile fun b => 0x30 ≤ b && b < 0x38
  (digits.foldl (fun n b => n * 8 + (b.toNat - 0x30)) 0, digits.length)

/-- The control characters and others that have a short form. -/
def shortForms : List (Char × Char) :=
  [('\\', '\\'), ('\'', '\''), ('"', '"'), ('b', '\x08'), ('f', '\x0c'), ('t', '\t'),
   ('n', '\n'), ('r', '\r'), ('v', '\x0b'), ('a', '\x07')]

/-- A name of a character in braces. Names are not known. -/
def namePiece : List UInt8 → Piece
  | [] => .cutOff
  | 0x7b :: rest =>
    let name := rest.takeWhile (· != 0x7d)
    if name.length = rest.length then .cutOff
    else if name.isEmpty then .wrong 3
    else .wrong (name.length + 4)
  | _ => .wrong 2

/-- What bytes behind a backslash stand for, given the first of them. -/
def escapePiece (kind : UInt8) (more : List UInt8) : Piece :=
  let letter := Char.ofNat kind.toNat
  match shortForms.lookup letter with
  | some c => .text 2 [c]
  | none =>
    match letter with
    | '\n' => .text 2 []
    | 'x' => hexPiece 2 2 0 more
    | 'u' => hexPiece 2 4 0 more
    | 'U' => hexPiece 2 8 0 more
    | 'N' => namePiece more
    | _ =>
      let (code, length) := octalNumber (kind :: more)
      if length = 0 then .text 2 ['\\', letter] else .text (length + 1) [Char.ofNat code]

/-- What bytes behind a backslash stand for where only numbers have escapes. A backslash behind a
backslash starts none. -/
def numberEscapePiece (kind : UInt8) (more : List UInt8) : Piece :=
  if kind = 0x75 then hexPiece 2 4 0 more
  else if kind = 0x55 then hexPiece 2 8 0 more
  else .text 2 ['\\', Char.ofNat kind.toNat]

/-- The charset with escapes of some kind. A backslash at the end is cut off, or stands for itself. -/
def withEscapes (piece : UInt8 → List UInt8 → Piece) (lastPiece : Piece) : Charset :=
  .ofPieces fun
    | 0x5c :: kind :: more => piece kind more
    | [0x5c] => lastPiece
    | b :: _ => .text 1 [Char.ofNat b.toNat]
    | [] => .cutOff

/-- Escapes of all kinds. -/
def escapes : Charset := withEscapes escapePiece .cutOff

/-- Escapes of numbers. -/
def numberEscapes : Charset := withEscapes numberEscapePiece (.text 1 ['\\'])

end CsdlRoutes.Text.Charset
