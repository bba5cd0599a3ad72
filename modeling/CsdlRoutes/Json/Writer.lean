import CsdlRoutes.Value

/-!
# Writing JSON

A style says whether the text is spread over lines and which characters are escaped. Every style
escapes quotes, backslashes and control characters; the ASCII styles also write every character
beyond the tilde by its UTF-16 code units. A set and a pair are written as lists, and bytes as
messages quote them.
-/

namespace CsdlRoutes.Json

open Number (Layout)
open Text (hexText)

/-- The decisions of a written form. -/
structure Style where
  /-- The width of one step of indentation, or none for a text on one line. -/
  indent : Option Nat
  /-- Whether only ASCII characters are written. -/
  ascii : Bool

/-- Two spaces a level, all characters as they are. -/
def Style.listing : Style := ⟨some 2, false⟩

/-- Two spaces a level, ASCII only. -/
def Style.stored : Style := ⟨some 2, true⟩

/-- One line, ASCII only. -/
def Style.line : Style := ⟨none, true⟩

/-- Numbers in JSON: positional notation from `1e-04` up to below `1e+16`. -/
def numberLayout : Layout := ⟨-4, 15, 2, "Infinity", "NaN"⟩

/-- The escape of a UTF-16 code unit. -/
def unitEscape (n : Nat) : List Char := '\\' :: 'u' :: (hexText 4 n).toList

/-- A character as it stands in a string. -/
def writtenChar (ascii : Bool) (c : Char) : List Char :=
  if c = '\x22' then ['\\', '\x22']
  else if c = '\\' then ['\\', '\\']
  else if c = '\n' then ['\\', 'n']
  else if c = '\r' then ['\\', 'r']
  else if c = '\t' then ['\\', 't']
  else if c = '\x08' then ['\\', 'b']
  else if c = '\x0c' then ['\\', 'f']
  else if c.toNat < 0x20 then unitEscape c.toNat
  else if ascii && decide (0x7e < c.toNat) then
    if c.toNat < 0x10000 then unitEscape c.toNat
    else
      let n := c.toNat - 0x10000
      unitEscape (0xd800 + n / 0x400) ++ unitEscape (0xdc00 + n % 0x400)
  else [c]

/-- A string with its quotes. -/
def writtenText (ascii : Bool) (s : String) : String :=
  String.ofList ('\x22' :: (s.toList.flatMap (writtenChar ascii) ++ ['\x22']))

/-- A leaf. -/
def writtenScalar (ascii : Bool) : Scalar → String
  | .null => "null"
  | .bool b => if b then "true" else "false"
  | .int i => toString i
  | .float x => numberLayout.format x
  | s => writtenText ascii s.display

/-- A key. Keys are strings in JSON, so any other scalar is written inside quotes. -/
def writtenKey (ascii : Bool) (key : Scalar) : String :=
  match key with
  | .text s => writtenText ascii s
  | .date _ | .moment _ => writtenText ascii key.display
  | s => writtenText ascii (writtenScalar ascii s)

/-- The text between an opening mark, an item, or a closing mark and the next. -/
def Style.lineBreak (style : Style) (depth : Nat) : String :=
  match style.indent with
  | some width => "\n" ++ String.ofList (List.replicate (width * depth) ' ')
  | none => ""

/-- The mark between two items. -/
def Style.separator (style : Style) : String :=
  match style.indent with
  | some _ => ","
  | none => ", "

mutual

/-- A value that stands at a depth of nesting. -/
def writtenAt (style : Style) (depth : Nat) : Value → String
  | .scalar s => writtenScalar style.ascii s
  | .list [] => "[]"
  | .list items =>
    "[" ++ style.separator.intercalate (writtenItems style (depth + 1) items) ++
      style.lineBreak depth ++ "]"
  | .object [] => "\x7b\x7d"
  | .object members =>
    "\x7b" ++ style.separator.intercalate (writtenMembers style (depth + 1) members) ++
      style.lineBreak depth ++ "\x7d"
  | .set [] => "[]"
  | .set keys =>
    let items := keys.map fun k => style.lineBreak (depth + 1) ++ writtenScalar style.ascii k
    "[" ++ style.separator.intercalate items ++ style.lineBreak depth ++ "]"
  | .pair v w =>
    "[" ++ style.lineBreak (depth + 1) ++ writtenAt style (depth + 1) v ++ style.separator ++
      style.lineBreak (depth + 1) ++ writtenAt style (depth + 1) w ++ style.lineBreak depth ++ "]"
  | .labelled _ v => writtenAt style depth v

/-- The items of a list. -/
def writtenItems (style : Style) (depth : Nat) : List Value → List String
  | [] => []
  | v :: rest => (style.lineBreak depth ++ writtenAt style depth v) :: writtenItems style depth rest

/-- The members of an object. -/
def writtenMembers (style : Style) (depth : Nat) : List (Scalar × Value) → List String
  | [] => []
  | (k, v) :: rest =>
    (style.lineBreak depth ++ writtenKey style.ascii k ++ ": " ++ writtenAt style depth v) ::
      writtenMembers style depth rest

end

/-- The text of a value. -/
def write (style : Style) (v : Value) : String := writtenAt style 0 v

end CsdlRoutes.Json
