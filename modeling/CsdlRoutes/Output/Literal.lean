import CsdlRoutes.Text.Blank
import CsdlRoutes.Text.Digit

/-!
# Literals

The parameters of an action in a mark are a literal: a number, which may have a sign or be the sum of
a real and an imaginary number, a text, bytes, a constant, or a tuple, a set or a dictionary of
literals. What is in a set and the keys of a dictionary cannot be sets or dictionaries themselves.

* `Literal.tokens?` splits a text into tokens.
* `isLiteral` says whether a text is a literal.
-/

namespace CsdlRoutes.Output

namespace Literal

/-- A token of a literal. -/
inductive Token where
  | real
  | imaginary
  | text
  | bytes
  | constant
  /-- The word that makes an empty set. -/
  | emptySet
  | sign
  | comma
  | colon
  | openRound
  | closeRound
  | openCurly
  | closeCurly
  /-- The end of a line outside of brackets. -/
  | newline
  deriving DecidableEq, Repr

/-! ## Numbers -/

/-- Whether a character may stand in a name. -/
def isNameChar (c : Char) : Bool := c.isAlphanum || c == '_' || decide (0x80 ≤ c.toNat)

/-- Drops digits that single underscores may separate. There has to be one. -/
def dropDigits? (isDigit : Char → Bool) : List Char → Option (List Char)
  | [] => none
  | c :: rest =>
    if isDigit c then
      match rest with
      | '_' :: d :: more =>
        if isDigit d then dropDigits? isDigit (d :: more) else some rest
      | d :: more => if isDigit d then dropDigits? isDigit (d :: more) else some rest
      | [] => some []
    else none
termination_by cs => cs.length

/-- Drops a number in base two, eight or sixteen, behind its zero. -/
def dropBased? (mark : Char) (rest : List Char) : Option (List Char) :=
  let isDigit? : Option (Char → Bool) :=
    match mark.toLower with
    | 'x' => some fun c => (Text.hexValue? c).isSome
    | 'o' => some fun c => decide ('0' ≤ c) && decide (c ≤ '7')
    | 'b' => some fun c => c == '0' || c == '1'
    | _ => none
  isDigit?.bind fun isDigit =>
    match rest with
    | '_' :: more => dropDigits? isDigit more
    | _ => dropDigits? isDigit rest

/-- Drops an exponent, if there is one. -/
def dropExponent (cs : List Char) : List Char :=
  match cs with
  | e :: rest =>
    if e == 'e' || e == 'E' then
      let digits :=
        match rest with
        | '+' :: more | '-' :: more => more
        | _ => rest
      (dropDigits? Text.isAsciiDigit digits).getD cs
    else cs
  | [] => []

/-- Drops the part of a number from its point on, if there is one. -/
def dropFraction (cs : List Char) : List Char :=
  match cs with
  | '.' :: rest => (dropDigits? Text.isAsciiDigit rest).getD rest
  | _ => cs

/-- Reads a number in base ten: its token and what follows it. A whole number starts with a zero only
if it is zero. -/
def decimal? (cs : List Char) : Option (Token × List Char) := do
  let afterWhole ←
    match cs with
    | '.' :: _ => some cs
    | _ => dropDigits? Text.isAsciiDigit cs
  let rest := dropExponent (dropFraction afterWhole)
  match rest with
  | j :: more => if j == 'j' || j == 'J' then return (.imaginary, more)
  | [] => pure ()
  let isWhole := rest.length == afterWhole.length
  let written := cs.take (cs.length - rest.length)
  if isWhole && written.head? == some '0' && written.any fun c => c != '0' && c != '_' then none
  else return (.real, rest)

/-- Reads a number: its token and what follows it. No name may follow directly. -/
def number? (cs : List Char) : Option (Token × List Char) := do
  let (token, rest) ←
    match cs with
    | '0' :: mark :: more =>
      match dropBased? mark more with
      | some rest => some (Token.real, rest)
      | none => decimal? cs
    | _ => decimal? cs
  if rest.head?.any isNameChar then none else return (token, rest)

/-! ## Quoted texts -/

/-- What a prefix says of a quoted text. -/
structure QuoteKind where
  isRaw : Bool
  isBytes : Bool
  deriving DecidableEq, Repr

/-- The kind of a quoted text by the letters before it. -/
def quoteKind? (letters : List Char) : Option QuoteKind :=
  match String.ofList (letters.map Char.toLower) with
  | "" | "u" => some ⟨false, false⟩
  | "r" => some ⟨true, false⟩
  | "b" => some ⟨false, true⟩
  | "br" | "rb" => some ⟨true, true⟩
  | _ => none

/-- Whether a number of hexadecimal digits starts a row of characters. -/
def startsWithHex (count : Nat) (cs : List Char) : Bool :=
  decide (count ≤ cs.length) && (cs.take count).all fun c => (Text.hexValue? c).isSome

/-- Whether an escape, given by what follows its backslash, can be read. -/
def isEscape (kind : QuoteKind) (cs : List Char) : Bool :=
  match cs with
  | 'x' :: rest => startsWithHex 2 rest
  | 'u' :: rest => kind.isBytes || startsWithHex 4 rest
  | 'U' :: rest =>
    kind.isBytes || (startsWithHex 8 rest &&
      decide (Text.ofDigits 16 ((rest.take 8).filterMap Text.hexValue?) ≤ 0x10ffff))
  | 'N' :: rest => kind.isBytes || rest.head? == some '\x7b'
  | _ => true

/-- Drops the body of a quoted text and the quotes that end it. Without `isLong` it ends at one quote
and may not hold a line break. -/
def dropBody? (kind : QuoteKind) (quote : Char) (isLong : Bool) : List Char → Option (List Char)
  | [] => none
  | '\\' :: rest =>
    match rest with
    | [] => none
    | c :: more =>
      if (kind.isRaw || isEscape kind rest) && (!kind.isBytes || decide (c.toNat < 0x80)) then
        dropBody? kind quote isLong more
      else none
  | c :: rest =>
    if c == quote && !isLong then some rest
    else if c == quote && [quote, quote].isPrefixOf rest then some (rest.drop 2)
    else if (c == '\n' && !isLong) || (kind.isBytes && decide (0x80 ≤ c.toNat)) then none
    else dropBody? kind quote isLong rest

/-- Reads a quoted text, given the letters before it: its token and what follows it. -/
def quoted? (letters cs : List Char) : Option (Token × List Char) := do
  let kind ← quoteKind? letters
  let quote ← cs.head?
  let isLong := [quote, quote, quote].isPrefixOf cs
  let rest ← dropBody? kind quote isLong (cs.drop (if isLong then 3 else 1))
  return (if kind.isBytes then .bytes else .text, rest)

/-! ## Tokens -/

/-- Reads a name or a quoted text with letters before it. -/
def word? (cs : List Char) : Option (Token × List Char) :=
  let name := cs.takeWhile isNameChar
  let rest := cs.dropWhile isNameChar
  if rest.head?.any fun c => c == '\'' || c == '"' then quoted? name rest
  else
    match String.ofList name with
    | "None" | "True" | "False" => some (.constant, rest)
    | "set" => some (.emptySet, rest)
    | _ => none

/-- Reads one token that is no blank. -/
def token? (cs : List Char) : Option (Token × List Char) :=
  match cs with
  | '.' :: '.' :: '.' :: rest => some (.constant, rest)
  | '(' :: rest => some (.openRound, rest)
  | ')' :: rest => some (.closeRound, rest)
  | '\x7b' :: rest => some (.openCurly, rest)
  | '\x7d' :: rest => some (.closeCurly, rest)
  | ',' :: rest => some (.comma, rest)
  | ':' :: rest => some (.colon, rest)
  | '+' :: rest | '-' :: rest => some (.sign, rest)
  | '\'' :: _ | '"' :: _ => quoted? [] cs
  | c :: rest =>
    if Text.isAsciiDigit c || (c == '.' && rest.head?.any Text.isAsciiDigit) then number? cs
    else if isNameChar c then word? cs
    else none
  | [] => none

/-- How deep brackets are nested behind a token. -/
def Token.depthAfter (depth : Nat) : Token → Nat
  | .openRound | .openCurly => depth + 1
  | .closeRound | .closeCurly => depth - 1
  | _ => depth

/-- Splits a text into tokens, given how deep it stands in brackets, in at most a number of steps. -/
def tokensIn? : Nat → Nat → List Char → Option (List Token)
  | 0, _, _ => none
  | _, _, [] => some []
  | fuel + 1, depth, c :: rest =>
    if c == ' ' || c == '\t' || c == '\x0c' then tokensIn? fuel depth rest
    else if c == '#' then tokensIn? fuel depth (rest.dropWhile (· != '\n'))
    else if c == '\n' then
      if depth = 0 then (tokensIn? fuel depth rest).map (Token.newline :: ·)
      else tokensIn? fuel depth rest
    else if c == '\\' && rest.head? == some '\n' then tokensIn? fuel depth (rest.drop 1)
    else
      match token? (c :: rest) with
      | some (token, after) =>
        (tokensIn? fuel (token.depthAfter depth) after).map (token :: ·)
      | none => none

/-- All line ends as line feeds. -/
def unifyLineEnds : List Char → List Char
  | '\r' :: '\n' :: rest => '\n' :: unifyLineEnds rest
  | '\r' :: rest => '\n' :: unifyLineEnds rest
  | c :: rest => c :: unifyLineEnds rest
  | [] => []

/-- Splits a text into tokens. -/
def tokens? (cs : List Char) : Option (List Token) :=
  let cs := unifyLineEnds cs
  tokensIn? (cs.length + 1) 0 cs

/-! ## Grammar -/

/-- What a literal is, as far as it matters for what it may be a part of. -/
inductive Shape where
  | real
  | imaginary
  /-- A real number with a sign. -/
  | signedReal
  /-- A literal that may be in a set, if so marked. -/
  | other (isKey : Bool)
  deriving DecidableEq, Repr

/-- Whether a literal may be in a set. -/
def Shape.isKey : Shape → Bool
  | .other isKey => isKey
  | _ => true

/-- A literal with a sign before it. -/
def Shape.signed? : Shape → Option Shape
  | .real => some .signedReal
  | .imaginary => some (.other true)
  | _ => none

/-- Drops further quoted texts of the same kind, which join the first one. -/
def dropJoined (token : Token) : List Token → List Token
  | [] => []
  | t :: rest => if t == token then dropJoined token rest else t :: rest

/-- The elements of a tuple: whether there is a comma, and whether all may be in a set. -/
abbrev Elements := List Shape × Bool

mutual

/-- Reads a literal without a sign. -/
def atom? : Nat → List Token → Option (Shape × List Token)
  | 0, _ => none
  | _ + 1, .real :: rest => some (.real, rest)
  | _ + 1, .imaginary :: rest => some (.imaginary, rest)
  | _ + 1, .constant :: rest => some (.other true, rest)
  | _ + 1, .text :: rest => some (.other true, dropJoined .text rest)
  | _ + 1, .bytes :: rest => some (.other true, dropJoined .bytes rest)
  | _ + 1, .emptySet :: .openRound :: .closeRound :: rest => some (.other false, rest)
  | fuel + 1, .openRound :: rest => do
    let ((elements, hasComma), rest) ← elements? fuel rest
    match rest with
    | .closeRound :: rest =>
      match elements, hasComma with
      | [single], false => return (single, rest)
      | _, _ => return (.other (elements.all Shape.isKey), rest)
    | _ => none
  | fuel + 1, .openCurly :: rest =>
    match rest with
    | .closeCurly :: rest => some (.other false, rest)
    | _ => do
      let (first, after) ← sum? fuel rest
      let rest ←
        match after with
        | .colon :: _ => entries? fuel rest
        | _ => do
          let ((elements, _), rest) ← elements? fuel rest
          if elements.all Shape.isKey then some rest else none
      match rest with
      | .closeCurly :: rest => if first.isKey then return (.other false, rest) else none
      | _ => none
  | _ + 1, _ => none

/-- Reads a literal with at most one sign before it. -/
def signed? : Nat → List Token → Option (Shape × List Token)
  | 0, _ => none
  | fuel + 1, .sign :: rest => do
    let (s, rest) ← atom? fuel rest
    return (← s.signed?, rest)
  | fuel + 1, rest => atom? fuel rest

/-- Reads a literal that may be the sum of a real and an imaginary number. -/
def sum? : Nat → List Token → Option (Shape × List Token)
  | 0, _ => none
  | fuel + 1, rest => do
    let (left, rest) ← signed? fuel rest
    match rest with
    | .sign :: rest => do
      let (right, rest) ← atom? fuel rest
      if (left == .real || left == .signedReal) && right == .imaginary then
        return (.other true, rest)
      else none
    | _ => return (left, rest)

/-- Reads literals between commas. A comma may follow the last one. -/
def elements? : Nat → List Token → Option (Elements × List Token)
  | 0, _ => none
  | fuel + 1, rest =>
    match rest with
    | [] | .closeRound :: _ | .closeCurly :: _ | .newline :: _ => some (([], false), rest)
    | _ => do
      let (first, rest) ← sum? fuel rest
      match rest with
      | .comma :: rest => do
        let ((more, _), rest) ← elements? fuel rest
        return ((first :: more, true), rest)
      | _ => return (([first], false), rest)

/-- Reads keys and values between commas. A comma may follow the last one. -/
def entries? : Nat → List Token → Option (List Token)
  | 0, _ => none
  | fuel + 1, rest =>
    match rest with
    | .closeCurly :: _ => some rest
    | _ => do
      let (key, rest) ← sum? fuel rest
      match rest with
      | .colon :: rest => do
        let (_, rest) ← sum? fuel rest
        if !key.isKey then none
        else
          match rest with
          | .comma :: rest => entries? fuel rest
          | _ => return rest
      | _ => none

end

end Literal

open Literal in
/-- Whether a text is a literal. Several literals between commas are a tuple. -/
def isLiteral (cs : List Char) : Bool :=
  match tokens? cs with
  | none => false
  | some tokens =>
    match elements? (5 * tokens.length + 5) tokens with
    | some ((elements, _), rest) => !elements.isEmpty && rest.all (· == .newline)
    | none => false

end CsdlRoutes.Output
