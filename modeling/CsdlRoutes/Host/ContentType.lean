import CsdlRoutes.Text.Blank
import CsdlRoutes.Text.Charset.Named
import CsdlRoutes.Text.Lower

/-!
# Kinds of content

A server names the kind of content of an answer, with parameters behind semicolons. One of the
parameters names the charset. A value may stand in quotes, and it may be spread over several
parameters of one name that are numbered, some of them with escapes and the name of a charset of their
own.

* `ContentType.charset` is the charset that a kind of content names, or else UTF-8.
-/

namespace CsdlRoutes.Host.ContentType

open Text (Charset)

/-! ## Quotes -/

/-- Splits at the semicolons that stand outside of quotes. A quote behind a backslash is none. -/
def splitFields (cs : List Char) : List (List Char) :=
  go [] false cs
where
  /-- The fields, given what was read of the first one, last first, and whether it is in quotes. -/
  go (read : List Char) (isQuoted : Bool) : List Char → List (List Char)
    | [] => [read.reverse]
    | '\\' :: '"' :: rest => go ('"' :: '\\' :: read) isQuoted rest
    | '"' :: rest => go ('"' :: read) (!isQuoted) rest
    | ';' :: rest =>
      if isQuoted then go (';' :: read) isQuoted rest else read.reverse :: go [] false rest
    | c :: rest => go (c :: read) isQuoted rest

/-- Replaces two characters in a row by one. -/
def contract (first second result : Char) : List Char → List Char
  | a :: b :: rest =>
    if a = first ∧ b = second then result :: contract first second result rest
    else a :: contract first second result (b :: rest)
  | cs => cs

/-- A value without its quotes, or without angle brackets. -/
def unquote (cs : List Char) : List Char :=
  match cs, cs.getLast? with
  | '"' :: rest@(_ :: _), some '"' =>
    contract '\\' '"' '"' (contract '\\' '\\' '\\' rest.dropLast)
  | '<' :: rest@(_ :: _), some '>' => rest.dropLast
  | _, _ => cs

/-- The inside of quotes in which a value stands. -/
def escapeQuotes (cs : List Char) : List Char :=
  cs.flatMap fun c => if c == '\\' || c == '"' then ['\\', c] else [c]

/-- A value in quotes. -/
def quote (cs : List Char) : List Char := '"' :: escapeQuotes cs ++ ['"']

/-! ## Parameters -/

/-- A parameter: its name in lower case, and its value. -/
abbrev Parameter := List Char × List Char

/-- Takes away the blanks at both ends. -/
def strip (cs : List Char) : List Char := (Text.strip (String.ofList cs)).toList

/-- Reads a parameter. -/
def readParameter (field : List Char) : Parameter :=
  let name := Text.lower (String.ofList (strip (field.takeWhile (· != '='))))
  (name.toList, strip ((field.dropWhile (· != '=')).drop 1))

/-- The parameters, and before them the kind of content itself. -/
def readParameters (contentType : String) : List Parameter :=
  (splitFields contentType.toList).map readParameter

/-- A part of a value that is spread over parameters. -/
structure Part where
  number : Option Nat
  value : List Char
  isEscaped : Bool
  deriving DecidableEq, Repr

/-- Reads the name of a parameter that holds a part of a value: the name of the value, and the number
of the part. -/
def partName? (name : List Char) : Option (List Char × Option Nat) :=
  let stem := name.takeWhile (· != '*')
  let tail := name.dropWhile (· != '*')
  let isWord := !stem.isEmpty && stem.all fun c => c.isAlphanum || c == '_'
  let digits := (tail.drop 1).takeWhile Char.isDigit
  let behind := (tail.drop 1).dropWhile Char.isDigit
  let isNumbered := !digits.isEmpty && (behind.isEmpty || behind == ['*'])
  if !isWord || tail.isEmpty then none
  else if tail == ['*'] then some (stem, none)
  else if isNumbered then some (stem, (String.ofList digits).toNat?)
  else none

/-- The parts of the value of a name. -/
def partsOf (name : List Char) (parameters : List Parameter) : List Part :=
  parameters.filterMap fun (n, value) =>
    (partName? n).bind fun (stem, number) =>
      if stem = name then some ⟨number, unquote value, n.getLast? == some '*'⟩ else none

/-- Replaces a percent sign and two digits by the character of that number. -/
def unescape : List Char → List Char
  | '%' :: a :: b :: rest =>
    match Text.hexValue? a, Text.hexValue? b with
    | some high, some low => Char.ofNat (high * 16 + low) :: unescape rest
    | _, _ => '%' :: unescape (a :: b :: rest)
  | c :: rest => c :: unescape rest
  | [] => []

/-- A text in a charset of its own, given as the characters of its bytes. What is no text in the
charset is left as it is. -/
def decodeValue (charsetName : List Char) (cs : List Char) : List Char :=
  let name := if charsetName.isEmpty then "us-ascii" else String.ofList charsetName
  let bytes := cs.map fun c => UInt8.ofNat c.toNat
  match Charset.ofName? name with
  | none => cs
  | some charset =>
    match charset bytes with
    | .ok decoded => if decoded.contains Text.replacementMark then cs else decoded
    | .error _ => cs

/-- Splits the name of a charset and that of a language, each with an apostrophe behind it, from the
start of a value. -/
def splitNames (cs : List Char) : List Char × List Char :=
  let behindFirst := (cs.dropWhile (· != '\'')).drop 1
  if behindFirst.contains '\'' then
    (cs.takeWhile (· != '\''), (behindFirst.dropWhile (· != '\'')).drop 1)
  else ([], cs)

/-- The value of parts. If one of them has escapes, the names of a charset and a language stand before
the whole value. -/
def joinParts (parts : List Part) : List Char :=
  let sorted := parts.mergeSort fun p q => p.number.getD 0 ≤ q.number.getD 0
  let whole := sorted.flatMap fun p => if p.isEscaped then unescape p.value else p.value
  if parts.any (·.isEscaped) then
    let (charsetName, value) := splitNames (escapeQuotes whole)
    decodeValue charsetName (unquote ('"' :: value ++ ['"']))
  else unquote (quote whole)

/-! ## Charsets -/

/-- The name of the parameter that names the charset. -/
def charsetParameter : List Char := "charset".toList

/-- The value of the parameter that names the charset. It may stand first, where else the kind of
content stands. A whole value comes before one that is spread over parameters. -/
def charsetValue? (contentType : String) : Option (List Char) :=
  match readParameters contentType with
  | [] => none
  | first :: rest =>
    if first.1 = charsetParameter then some (unquote first.2)
    else
      match rest.lookup charsetParameter with
      | some value => some (unquote (quote (unquote value)))
      | none =>
        let parts := partsOf charsetParameter rest
        if parts.isEmpty then none else some (joinParts parts)

/-- The charset that a kind of content names, or else UTF-8. -/
def charset (contentType : String) : Charset :=
  let named := (charsetValue? contentType).filter fun cs => cs.all (·.toNat < 128)
  (named.bind fun cs => Charset.ofName? (String.ofList cs)).getD Charset.utf8

end CsdlRoutes.Host.ContentType
