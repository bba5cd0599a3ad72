import CsdlRoutes.Text.Digit

/-!
# Addresses of hosts

An address of four numbers has points between them. One of eight numbers has colons between them: two
colons in a row stand for as many zeros as are missing, and an address of four numbers may stand in
place of the last two.

* `isFourPartAddress` and `isEightPartAddress` say what is an address.
* `looksLikeFourParts` says what is taken for one.
-/

namespace CsdlRoutes.Host

open Text (isAsciiDigit hexValue?)

/-- The pieces of a text between the places where a character stands. -/
def piecesBetween (mark : Char) : List Char → List (List Char)
  | [] => [[]]
  | c :: rest =>
    match piecesBetween mark rest with
    | [] => [[]]
    | piece :: more => if c = mark then [] :: piece :: more else (c :: piece) :: more

/-! ## Four numbers -/

/-- Whether a text is a number below 256, without zeros in front. -/
def isShortNumber (cs : List Char) : Bool :=
  let number := cs.foldl (fun n c => n * 10 + (c.toNat - 48)) 0
  !cs.isEmpty && cs.all isAsciiDigit && cs.length ≤ 3 && (cs.length == 1 || cs.head? != some '0') &&
    number < 256

/-- Whether a text is an address of four numbers. -/
def isFourPartAddress (cs : List Char) : Bool :=
  let pieces := piecesBetween '.' cs
  pieces.length == 4 && pieces.all isShortNumber

/-- Whether a text is a row of digits, with some single characters between digits, whatever they
are. -/
def isSeparatedDigits (separators : Nat) (isInNumber : Bool) : List Char → Bool
  | [] => isInNumber && separators == 0
  | c :: rest =>
    (isAsciiDigit c && isSeparatedDigits separators true rest) ||
      (isInNumber && separators != 0 && isSeparatedDigits (separators - 1) false rest)

/-- Whether a text looks like four numbers: any character counts as a point. -/
def looksLikeFourParts (cs : List Char) : Bool := isSeparatedDigits 3 false cs

/-! ## Eight numbers -/

/-- Whether a text is a number of up to four hexadecimal digits. -/
def isHexNumber (cs : List Char) : Bool :=
  !cs.isEmpty && cs.length ≤ 4 && cs.all fun c => (hexValue? c).isSome

/-- The pieces of an address in which the last piece may be an address of four numbers, which counts as
two numbers. -/
def withShortTail (pieces : List (List Char)) : Option (List (List Char)) :=
  match pieces.getLast? with
  | none => some pieces
  | some last =>
    if !last.contains '.' then some pieces
    else if isFourPartAddress last then some (pieces.dropLast ++ [['0'], ['0']])
    else none

/-- Whether the pieces on one side of a gap are numbers, or an empty piece alone. -/
def isSideOfGap (pieces : List (List Char)) : Bool := pieces == [[]] || pieces.all isHexNumber

/-- How many numbers are on one side of a gap. -/
def numberCount (pieces : List (List Char)) : Nat := if pieces == [[]] then 0 else pieces.length

/-- Whether the pieces between colons are eight numbers. An empty piece that is neither the first nor
the last is a gap, in which at least one number is left out. -/
def areEightNumbers (pieces : List (List Char)) : Bool :=
  let inner := (pieces.drop 1).dropLast
  let count := 1 + (inner.takeWhile fun piece => !piece.isEmpty).length
  if count = 1 + inner.length then pieces.length == 8 && pieces.all isHexNumber
  else
    let before := pieces.take count
    let after := pieces.drop (count + 1)
    isSideOfGap before && isSideOfGap after && numberCount before + numberCount after < 8

/-- Whether a text is an address of eight numbers, perhaps with a zone behind a percent sign. -/
def isEightPartAddress (cs : List Char) : Bool :=
  let zone := cs.dropWhile (· != '%')
  let isZone := zone.isEmpty || (zone.length > 1 && !(zone.drop 1).contains '%')
  let pieces := piecesBetween ':' (cs.takeWhile (· != '%'))
  isZone && pieces.length ≥ 3 &&
    match withShortTail pieces with
    | some pieces => areEightNumbers pieces
    | none => false

end CsdlRoutes.Host
