import CsdlRoutes.Text.Digit
import CsdlRoutes.Text.Printable

/-!
# Quoted text

In messages a text is shown between quotes. Single quotes are used, unless the text holds a single
quote and no double quote. A backslash stands before a backslash and before the quote in use; line
feed, carriage return and tab have letters of their own; every other character that is not printable
is written by its code point. Bytes are shown in the same way as ASCII text, with a letter in front.

* `quoted` is a text between quotes, `quotedBytes` bytes.
-/

namespace CsdlRoutes.Text

/-- The quote that a text is shown between. -/
def quoteFor (cs : List Char) : Char :=
  if cs.contains '\x27' && !cs.contains '\x22' then '\x22' else '\x27'

/-- A character written by its code point. -/
def codePointEscape (c : Char) : List Char :=
  if c.toNat ≤ 0xff then '\\' :: 'x' :: (hexText 2 c.toNat).toList
  else if c.toNat ≤ 0xffff then '\\' :: 'u' :: (hexText 4 c.toNat).toList
  else '\\' :: 'U' :: (hexText 8 c.toNat).toList

/-- A character as it stands between quotes. -/
def quotedChar (quote c : Char) : List Char :=
  if c = '\\' then ['\\', '\\']
  else if c = quote then ['\\', quote]
  else if c = '\n' then ['\\', 'n']
  else if c = '\r' then ['\\', 'r']
  else if c = '\t' then ['\\', 't']
  else if isPrintable c then [c]
  else codePointEscape c

/-- A text between quotes. -/
def quoted (s : String) : String :=
  let cs := s.toList
  let quote := quoteFor cs
  String.ofList (quote :: (cs.flatMap (quotedChar quote) ++ [quote]))

/-- A byte as it stands between quotes. -/
def quotedByte (quote : Char) (b : UInt8) : List Char :=
  let c := Char.ofNat b.toNat
  if b < 0x7f then quotedChar quote c else codePointEscape c

/-- Bytes between quotes. -/
def quotedBytes (bs : List UInt8) : String :=
  let quote := quoteFor (bs.map fun b => Char.ofNat b.toNat)
  String.ofList ('b' :: quote :: (bs.flatMap (quotedByte quote) ++ [quote]))

end CsdlRoutes.Text
