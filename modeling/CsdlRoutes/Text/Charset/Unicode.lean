import CsdlRoutes.Text.Charset.DoubleByte
import CsdlRoutes.Text.Utf8

/-!
# Charsets of all characters

All characters there are can be written in units of one, two or four bytes; where a unit has more than
one byte, either end of it may come first, and a mark at the start may tell which. In a further charset
they are written with the bytes of ASCII alone, in stretches of base 64.

* `utf8`, `markedUtf8`, `utf16`, `orderedUtf16`, `utf32`, `orderedUtf32` and `utf7` are the charsets.
-/

namespace CsdlRoutes.Text.Charset

/-- The charset in which a byte stands for the character of its number. -/
def latin1 : Charset := fun bytes => .ok (bytes.map fun b => Char.ofNat b.toNat)

/-! ## Units of one byte -/

/-- The value of a character, given what was read of it and the bytes to follow. The count of bytes
that were good comes with a failure. -/
def continueUtf8 (read : Nat) (missing : Nat) (least greatest : UInt8) (code : Nat) :
    List UInt8 → Piece
  | bytes =>
    match missing, bytes with
    | 0, _ => .text read [Char.ofNat code]
    | _ + 1, [] => .cutOff
    | missing + 1, b :: rest =>
      if b < least ∨ greatest < b then .wrong read
      else continueUtf8 (read + 1) missing 0x80 0xbf (code * 64 + b.toNat % 64) rest

/-- The bits of a first byte that count, given how many bytes follow. -/
def firstBits (b : UInt8) (missing : Nat) : Nat :=
  if missing = 0 then b.toNat else b.toNat % Nat.pow 2 (6 - missing)

/-- What a row of bytes begins with in units of one byte. -/
def utf8Piece : List UInt8 → Piece
  | [] => .cutOff
  | b :: rest =>
    match utf8Continuation? b with
    | none => .wrong 1
    | some (missing, least, greatest) =>
      continueUtf8 1 missing least greatest (firstBits b missing) rest

/-- Units of one byte. -/
def utf8 : Charset := .ofPieces utf8Piece

/-- Units of one byte, perhaps behind a mark. What a mark is cut down to stands for nothing. -/
def markedUtf8 : Charset := fun bytes =>
  match bytes with
  | [] | [0xef] | [0xef, 0xbb] => .ok []
  | 0xef :: 0xbb :: 0xbf :: rest => utf8 rest
  | bytes => utf8 bytes

/-! ## Units of two bytes -/

/-- Which end of a unit comes first. -/
inductive ByteOrder where
  | littleEnd
  | bigEnd
  deriving DecidableEq, Repr

/-- A number of bytes, in their order. -/
def ByteOrder.number (order : ByteOrder) (bytes : List UInt8) : Nat :=
  let inOrder := match order with
    | .littleEnd => bytes.reverse
    | .bigEnd => bytes
  inOrder.foldl (fun n b => n * 256 + b.toNat) 0

/-- Whether a unit is the first one of a pair. -/
def isHighSurrogate (unit : Nat) : Bool := 0xd800 ≤ unit && unit < 0xdc00

/-- Whether a unit is the second one of a pair. -/
def isLowSurrogate (unit : Nat) : Bool := 0xdc00 ≤ unit && unit < 0xe000

/-- The character of a pair of units. -/
def joinSurrogates (high low : Nat) : Char :=
  Char.ofNat (0x10000 + (high - 0xd800) * 1024 + (low - 0xdc00))

/-- What a row of bytes begins with in units of two bytes. -/
def utf16Piece (order : ByteOrder) : List UInt8 → Piece
  | a :: b :: rest =>
    let unit := order.number [a, b]
    if isHighSurrogate unit then
      match rest with
      | c :: d :: _ =>
        let next := order.number [c, d]
        if isLowSurrogate next then .text 4 [joinSurrogates unit next] else .wrong 2
      | _ => .cutOff
    else if isLowSurrogate unit then .wrong 2
    else .text 2 [Char.ofNat unit]
  | _ => .cutOff

/-- Units of two bytes in a known order. -/
def utf16 (order : ByteOrder) : Charset := .ofPieces (utf16Piece order)

/-- Units of two bytes behind a mark that tells their order. -/
def orderedUtf16 : Charset := fun bytes =>
  match bytes with
  | 0xff :: 0xfe :: rest => utf16 .littleEnd rest
  | 0xfe :: 0xff :: rest => utf16 .bigEnd rest
  | _ :: _ :: _ => .error .noByteOrder
  | bytes => utf16 .littleEnd bytes

/-! ## Units of four bytes -/

/-- What a row of bytes begins with in units of four bytes. -/
def utf32Piece (order : ByteOrder) : List UInt8 → Piece
  | a :: b :: c :: d :: _ =>
    let code := order.number [a, b, c, d]
    if code < 0xd800 ∨ (0xe000 ≤ code ∧ code < 0x110000) then .text 4 [Char.ofNat code]
    else .wrong 4
  | _ => .cutOff

/-- Units of four bytes in a known order. -/
def utf32 (order : ByteOrder) : Charset := .ofPieces (utf32Piece order)

/-- Units of four bytes behind a mark that tells their order. -/
def orderedUtf32 : Charset := fun bytes =>
  match bytes with
  | 0xff :: 0xfe :: 0 :: 0 :: rest => utf32 .littleEnd rest
  | 0 :: 0 :: 0xfe :: 0xff :: rest => utf32 .bigEnd rest
  | _ :: _ :: _ :: _ :: _ => .error .noByteOrder
  | bytes => utf32 .littleEnd bytes

/-! ## Stretches of base 64 -/

/-- The value of a byte in base 64. -/
def base64Digit? (b : UInt8) : Option Nat :=
  if isWithin 0x41 0x5a b then some (b.toNat - 0x41)
  else if isWithin 0x61 0x7a b then some (b.toNat - 0x61 + 26)
  else if isWithin 0x30 0x39 b then some (b.toNat - 0x30 + 52)
  else if b = 0x2b then some 62
  else if b = 0x2f then some 63
  else none

/-- A stretch of base 64 that is being read. -/
structure Stretch where
  /-- The bits that make no unit yet, and how many there are. -/
  bits : Nat
  bitCount : Nat
  /-- The first unit of a pair that waits for the second one. -/
  high? : Option Nat
  deriving DecidableEq, Repr

/-- A stretch of which nothing was read. -/
def Stretch.start : Stretch := ⟨0, 0, none⟩

/-- The stretch after a unit, and what the unit completes. A unit of a pair that stays alone stands for
nothing. -/
def Stretch.addUnit (s : Stretch) (unit : Nat) : Stretch × List Char :=
  match s.high? with
  | some high =>
    if isLowSurrogate unit then ({ s with high? := none }, [joinSurrogates high unit])
    else if isHighSurrogate unit then ({ s with high? := some unit }, [replacementMark])
    else ({ s with high? := none }, [replacementMark, Char.ofNat unit])
  | none =>
    if isHighSurrogate unit then ({ s with high? := some unit }, [])
    else if isLowSurrogate unit then (s, [replacementMark])
    else (s, [Char.ofNat unit])

/-- The stretch after a digit, and what the digit completes. -/
def Stretch.addDigit (s : Stretch) (digit : Nat) : Stretch × List Char :=
  let bits := s.bits * 64 + digit
  let count := s.bitCount + 6
  if count < 16 then ({ s with bits, bitCount := count }, [])
  else
    let left := count - 16
    let unit := Nat.pow 2 left
    ({ s with bits := bits % unit, bitCount := left } : Stretch).addUnit (bits / unit)

/-- Whether bits are left over that do not just fill up the last digit. -/
def Stretch.hasRest (s : Stretch) : Bool := 6 ≤ s.bitCount || (0 < s.bitCount && s.bits != 0)

/-- Reads bytes of which some may stand in stretches of base 64. A plus opens a stretch, and what is no
digit ends it; a hyphen that ends it is left out. -/
def readUtf7 (stretch? : Option Stretch) : List UInt8 → List Char
  | [] =>
    match stretch? with
    | some s => if s.hasRest || s.high?.isSome then [replacementMark] else []
    | none => []
  | b :: rest =>
    match stretch? with
    | some s =>
      match base64Digit? b with
      | some digit =>
        let (s, chars) := s.addDigit digit
        chars ++ readUtf7 (some s) rest
      | none =>
        if s.hasRest then replacementMark :: readUtf7 none rest
        else
          let alone := if s.high?.isSome && b < 128 then [replacementMark] else []
          alone ++
            (if b = 0x2d then readUtf7 none rest
             else if b < 128 then Char.ofNat b.toNat :: readUtf7 none rest
             else replacementMark :: readUtf7 none rest)
    | none =>
      if b = 0x2b then
        match rest with
        | 0x2d :: rest => '+' :: readUtf7 none rest
        | next :: rest =>
          match base64Digit? next with
          | some digit =>
            let (s, chars) := Stretch.start.addDigit digit
            chars ++ readUtf7 (some s) rest
          | none => replacementMark :: readUtf7 none rest
        | [] => []
      else if b < 128 then Char.ofNat b.toNat :: readUtf7 none rest
      else replacementMark :: readUtf7 none rest

/-- Stretches of base 64 in ASCII. -/
def utf7 : Charset := fun bytes => .ok (readUtf7 none bytes)

end CsdlRoutes.Text.Charset
