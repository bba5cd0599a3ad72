import CsdlRoutes.Number.Whole
import CsdlRoutes.Text.Utf8
import CsdlRoutes.Yaml.Scalar

/-!
# Tokens of a YAML text

The scanner turns characters into tokens. Two kinds of token do not stand in the text where they are
put: the starts and ends of blocks follow from the indentation, and the mark of a key is put before
the key once the colon behind it is met. So a token that may turn out to be a key is remembered, for
each depth of brackets one, as long as it is on one line and within 1024 characters.

* `Token.scan` is the list of tokens of a text. It ends with `streamEnd`, or with `broken` where a
  token cannot be told because none can be read behind it.
-/

namespace CsdlRoutes.Yaml

open Text (hexValue?)

/-- What a directive says. -/
inductive Directive where
  | version (major : Nat)
  | handle (name expansion : String)
  | other
  deriving DecidableEq, Repr

/-- A token. -/
inductive Token where
  | directive (d : Directive)
  | documentStart
  | documentEnd
  | streamEnd
  | blockSequenceStart
  | blockMappingStart
  | blockEnd
  | flowSequenceStart
  | flowSequenceEnd
  | flowMappingStart
  | flowMappingEnd
  | flowEntry
  | blockEntry
  | key
  | value
  | alias (name : String)
  | anchor (name : String)
  | tag (handle : Option String) (suffix : String)
  | scalar (plain : Bool) (text : String)
  | broken (fault : Fault)
  deriving DecidableEq, Repr, Inhabited

/-- A token that may turn out to be a key. -/
structure SimpleKey where
  /-- How many tokens precede it. -/
  position : Nat
  /-- Whether nothing but a key can stand there. -/
  required : Bool
  index : Nat
  line : Nat
  column : Nat
  deriving DecidableEq, Repr

/-- The scanner between two tokens. -/
structure Scanner where
  here : Cursor
  tokens : Array Token
  /-- How many brackets are open. -/
  flowLevel : Nat
  /-- The column of the innermost block, or -1. -/
  indent : Int
  /-- The columns of the blocks around it. -/
  outer : List Int
  /-- Whether a key may start here. -/
  keyAllowed : Bool
  /-- The token that may turn out to be a key, for each depth of brackets. -/
  keys : List (Nat × SimpleKey)

namespace Scanner

/-- The scanner at the start of a text. -/
def start (cs : List Char) : Scanner := ⟨Cursor.start cs, #[], 0, -1, [], true, []⟩

/-- Adds a token. -/
def push (s : Scanner) (t : Token) : Scanner := { s with tokens := s.tokens.push t }

/-- Whether the place is inside brackets. -/
def inFlow (s : Scanner) : Bool := s.flowLevel != 0

/-! ## Keys and indentation -/

/-- Whether a token can no longer be a key. -/
def isStale (s : Scanner) (k : SimpleKey) : Bool :=
  k.line != s.here.line || decide (s.here.index - k.index > 1024)

/-- Forgets the tokens that can no longer be keys. -/
def dropStaleKeys (s : Scanner) : Except Fault Scanner :=
  if s.keys.any fun (_, k) => s.isStale k && k.required then .error .keyWithoutColon
  else .ok { s with keys := s.keys.filter fun (_, k) => !s.isStale k }

/-- The tokens that stand whatever follows: those before the first one that may turn out to be a
key. -/
def settled (s : Scanner) : List Token :=
  let undecided := s.keys.filter fun (_, k) => k.required || !s.isStale k
  s.tokens.toList.take ((undecided.map fun (_, k) => k.position).foldl min s.tokens.size)

/-- The token at this depth of brackets that may turn out to be a key. -/
def key? (s : Scanner) : Option SimpleKey := s.keys.lookup s.flowLevel

/-- Forgets the token at this depth that might have been a key. -/
def dropKey (s : Scanner) : Except Fault Scanner :=
  match s.key? with
  | some k =>
    if k.required then .error .keyWithoutColon
    else .ok { s with keys := s.keys.filter (·.1 != s.flowLevel) }
  | none => .ok s

/-- Remembers that the next token may turn out to be a key. -/
def saveKey (s : Scanner) : Except Fault Scanner :=
  if s.keyAllowed then do
    let required := !s.inFlow && s.indent == s.here.column
    let s ← s.dropKey
    let k : SimpleKey := ⟨s.tokens.size, required, s.here.index, s.here.line, s.here.column⟩
    return { s with keys := (s.flowLevel, k) :: s.keys }
  else .ok s

/-- The ends of blocks that are deeper than a column: the remaining indentation and their count. -/
def unwound (column : Int) : Int → List Int → Int × List Int × Nat
  | indent, [] => (indent, [], 0)
  | indent, next :: outer =>
    if column < indent then
      let (i, o, n) := unwound column next outer
      (i, o, n + 1)
    else (indent, next :: outer, 0)

/-- Ends the blocks that are deeper than a column. -/
def unwind (s : Scanner) (column : Int) : Scanner :=
  if s.inFlow then s
  else
    let (indent, outer, ends) := unwound column s.indent s.outer
    { s with indent, outer, tokens := s.tokens ++ Array.replicate ends Token.blockEnd }

/-- Opens a block at a column that is deeper than the innermost block: the token goes to a position
among the tokens. -/
def openBlock (s : Scanner) (column position : Nat) (t : Token) : Scanner :=
  if s.indent < column then
    { s with indent := column, outer := s.indent :: s.outer,
             tokens := s.tokens.insertIdxIfInBounds position t }
  else s

/-! ## Directives and tags -/

/-- The handle of a tag. A lone mark before a space is a handle too. -/
def tagHandle (here : Cursor) : Except Fault (String × Cursor) :=
  if here.peek != '!' then .error .tagForm
  else if here.peekAt 1 == ' ' then .ok ("!", here.next)
  else
    let (word, last) := here.next.splitWhile isWordChar
    if last.peek == '!' then .ok (String.ofList ('!' :: word ++ ['!']), last.next)
    else .error .tagForm

/-- Whether a character may occur in the text of a tag. -/
def isTagChar (c : Char) : Bool :=
  isWordChar c || ";/?:@&=+$,.!~*'()[]%".toList.contains c

/-- The bytes of a row of percent escapes, and the place behind them. -/
def percentBytes : Nat → List UInt8 → Cursor → Except Fault (List UInt8 × Cursor)
  | 0, bytes, here => .ok (bytes, here)
  | fuel + 1, bytes, here =>
    if here.peek != '%' then .ok (bytes, here)
    else
      match hexValue? (here.peekAt 1), hexValue? (here.peekAt 2) with
      | some a, some b => percentBytes fuel (UInt8.ofNat (a * 16 + b) :: bytes) (here.skip 3)
      | _, _ => .error .tagForm

/-- The text of a tag. `read` holds the characters read so far, last first. -/
def tagText : Nat → List Char → Cursor → Except Fault (String × Cursor)
  | 0, _, _ => .error .tagForm
  | fuel + 1, read, here =>
    let c := here.peek
    if c == '%' then do
      let (bytes, here) ← percentBytes here.rest.length [] here
      match Text.decode (ByteArray.mk bytes.reverse.toArray) with
      | .ok s => tagText fuel (s.toList.reverse ++ read) here
      | .error _ => .error .tagForm
    else if isTagChar c then tagText fuel (c :: read) here.next
    else if read.isEmpty then .error .tagForm
    else .ok (String.ofList read.reverse, here)

/-- The text of a tag from a place on. -/
def tagTextAt (here : Cursor) : Except Fault (String × Cursor) :=
  tagText (here.rest.length + 1) [] here

/-- A row of digits, and the place behind it. -/
def digits (here : Cursor) : Except Fault (Nat × Cursor) :=
  let (ds, last) := here.splitWhile Text.isAsciiDigit
  if ds.isEmpty then .error .directive
  else if Number.maxDigits < ds.length then .error (.unreadable (.number (String.ofList ds)))
  else .ok (Text.ofDigits 10 (ds.map Text.asciiDigitValue), last)

/-- A directive from its sign on, with the rest of its line. -/
def directive (here : Cursor) : Except Fault (Directive × Cursor) := do
  let (name, last) := here.next.splitWhile isWordChar
  if name.isEmpty || !isSpaceOrEnd last.peek then .error .directive
  let (d, last) ←
    if name == "YAML".toList then do
      let (major, last) ← digits last.skipSpaces
      if last.peek != '.' then .error .directive
      let (_, last) ← digits last.next
      if !isSpaceOrEnd last.peek then .error .directive
      return (Directive.version major, last)
    else if name == "TAG".toList then do
      let (handle, last) ← tagHandle last.skipSpaces
      if last.peek != ' ' then .error .directive
      let (expansion, last) ← tagTextAt last.skipSpaces
      if !isSpaceOrEnd last.peek then .error .directive
      return (Directive.handle handle expansion, last)
    else .ok (Directive.other, last.lineEnd)
  let some last := last.finishLine? | .error .directive
  return (d, last)

/-- The name of an anchor or an alias, from its sign on. -/
def anchorName (here : Cursor) : Except Fault (String × Cursor) :=
  let (name, last) := here.next.splitWhile isWordChar
  let ends := isGapOrEnd last.peek || "?:,]\x7d%@\x60".toList.contains last.peek
  if name.isEmpty || !ends then .error .anchorName
  else .ok (String.ofList name, last)

/-- Whether a second mark follows the mark of a tag before the next space. -/
def hasTagHandle (here : Cursor) : Bool :=
  (here.next.rest.takeWhile (!isSpaceOrEnd ·)).contains '!'

/-- A tag from its mark on. -/
def tag (here : Cursor) : Except Fault (Token × Cursor) := do
  let (t, last) ←
    if here.peekAt 1 == '<' then do
      let (suffix, last) ← tagTextAt (here.skip 2)
      if last.peek != '>' then .error .tagForm
      return (Token.tag none suffix, last.next)
    else if isGapOrEnd (here.peekAt 1) then .ok (Token.tag none "!", here.next)
    else if hasTagHandle here then do
      let (handle, last) ← tagHandle here
      let (suffix, last) ← tagTextAt last
      return (Token.tag (some handle) suffix, last)
    else do
      let (suffix, last) ← tagTextAt here.next
      return (Token.tag (some "!") suffix, last)
  if isSpaceOrEnd last.peek then return (t, last) else .error .tagForm

/-! ## Tokens -/

/-- Skips blanks, comments and line breaks. A line break outside brackets allows a key. -/
def skipGapFrom (inFlow : Bool) : Nat → Bool → Cursor → Bool × Cursor
  | 0, keyAllowed, here => (keyAllowed, here)
  | fuel + 1, keyAllowed, here =>
    let here := here.skipSpaces.skipComment
    match here.lineBreak? with
    | some (_, after) => skipGapFrom inFlow fuel (keyAllowed || !inFlow) after
    | none => (keyAllowed, here)

/-- Skips to the next token. A byte order mark at the very start is skipped too. -/
def skipGap (s : Scanner) : Scanner :=
  let here := if s.here.index == 0 && s.here.peek == '\ufeff' then s.here.next else s.here
  let (keyAllowed, here) := skipGapFrom s.inFlow (here.rest.length + 1) s.keyAllowed here
  { s with here, keyAllowed }

/-- Ends all blocks, before a token that stands outside of every block. -/
def leaveBlocks (s : Scanner) : Except Fault Scanner := do
  let s ← (s.unwind (-1)).dropKey
  return { s with keyAllowed := false }

/-- A token that goes up to a place, after which no key may start. -/
def single (s : Scanner) (t : Token) (last : Cursor) : Scanner :=
  { s.push t with here := last, keyAllowed := false }

/-- A token that may be a key, read by a function. -/
def maybeKey (s : Scanner) (read : Cursor → Except Fault (Token × Cursor)) :
    Except Fault Scanner := do
  let s ← s.saveKey
  let (t, last) ← read s.here
  return s.single t last

/-- An opening bracket. -/
def openFlow (s : Scanner) (t : Token) : Except Fault Scanner := do
  let s ← s.saveKey
  return { s.push t with here := s.here.next, flowLevel := s.flowLevel + 1, keyAllowed := true }

/-- A closing bracket. -/
def closeFlow (s : Scanner) (t : Token) : Except Fault Scanner := do
  let s ← s.dropKey
  if s.flowLevel == 0 then .error .unexpectedToken
  return { s.single t s.here.next with flowLevel := s.flowLevel - 1 }

/-- The sign of a list entry. -/
def entry (s : Scanner) : Except Fault Scanner := do
  if !s.inFlow && !s.keyAllowed then .error .entryNotAllowed
  let s := if s.inFlow then s else s.openBlock s.here.column s.tokens.size .blockSequenceStart
  let s ← s.dropKey
  return { s.push .blockEntry with here := s.here.next, keyAllowed := true }

/-- The sign of a key. -/
def explicitKey (s : Scanner) : Except Fault Scanner := do
  if !s.inFlow && !s.keyAllowed then .error .keyNotAllowed
  let s := if s.inFlow then s else s.openBlock s.here.column s.tokens.size .blockMappingStart
  let s ← s.dropKey
  return { s.push .key with here := s.here.next, keyAllowed := !s.inFlow }

/-- The sign of a value. It makes a key of the token remembered at this depth, if there is one. -/
def valueSign (s : Scanner) : Except Fault Scanner :=
  match s.key? with
  | some k =>
    let s := { s with
      keys := s.keys.filter (·.1 != s.flowLevel),
      tokens := s.tokens.insertIdxIfInBounds k.position .key }
    let s := if s.inFlow then s else s.openBlock k.column k.position .blockMappingStart
    .ok (s.single .value s.here.next)
  | none => do
    if !s.inFlow && !s.keyAllowed then .error .valueNotAllowed
    let s := if s.inFlow then s else s.openBlock s.here.column s.tokens.size .blockMappingStart
    let s ← { s with keyAllowed := !s.inFlow }.dropKey
    return { s.push .value with here := s.here.next }

/-- A block of lines. A key may follow it. -/
def block (s : Scanner) : Except Fault Scanner := do
  let s ← { s with keyAllowed := true }.dropKey
  let (text, last) ← blockScalar s.indent s.here
  return { s.push (.scalar false text) with here := last }

/-- A plain scalar. A key may follow it if a line was broken behind it. -/
def plain (s : Scanner) : Except Fault Scanner := do
  let s ← s.saveKey
  let p := plainScalar s.inFlow s.indent s.here
  return { s.single (.scalar true p.text) p.after with keyAllowed := p.broken }

/-- The characters that have a meaning of their own at the start of a token. -/
def isIndicator (c : Char) : Bool := "-?:,[]\x7b\x7d#&*!|>'\"%@\x60".toList.contains c

/-- Whether a plain scalar may start at a place. -/
def startsPlain (s : Scanner) : Bool :=
  let c := s.here.peek
  (!isGapOrEnd c && !isIndicator c) ||
    (!isGapOrEnd (s.here.peekAt 1) && (c == '-' || (!s.inFlow && (c == '?' || c == ':'))))

/-- Reads the token at a place that is no gap. -/
def token (s : Scanner) : Except Fault Scanner :=
  let here := s.here
  let c := here.peek
  let alone := s.inFlow || isGapOrEnd (here.peekAt 1)
  let atMargin := here.column == 0
  if atMargin && c == '%' then do
    let s ← s.leaveBlocks
    let (d, last) ← directive here
    return s.single (.directive d) last
  else if atMargin && here.atMark '-' then do
    let s ← s.leaveBlocks
    return s.single .documentStart (here.skip 3)
  else if atMargin && here.atMark '.' then do
    let s ← s.leaveBlocks
    return s.single .documentEnd (here.skip 3)
  else if c == '[' then s.openFlow .flowSequenceStart
  else if c == '\x7b' then s.openFlow .flowMappingStart
  else if c == ']' then s.closeFlow .flowSequenceEnd
  else if c == '\x7d' then s.closeFlow .flowMappingEnd
  else if c == ',' then do
    let s ← { s with keyAllowed := true }.dropKey
    return { s.push .flowEntry with here := here.next }
  else if c == '-' && isGapOrEnd (here.peekAt 1) then s.entry
  else if c == '?' && alone then s.explicitKey
  else if c == ':' && alone then s.valueSign
  else if c == '*' then s.maybeKey fun c => (anchorName c).map fun (n, last) => (.alias n, last)
  else if c == '&' then s.maybeKey fun c => (anchorName c).map fun (n, last) => (.anchor n, last)
  else if c == '!' then s.maybeKey tag
  else if (c == '|' || c == '>') && !s.inFlow then s.block
  else if c == '\'' || c == '\x22' then
    s.maybeKey fun c => (quotedScalar c).map fun (text, last) => (.scalar false text, last)
  else if s.startsPlain then s.plain
  else .error (.stray c)

/-- Reads the next token, with the ends of blocks before it. -/
def step (s : Scanner) : Except Fault Scanner := do
  let s ← s.skipGap.dropStaleKeys
  (s.unwind s.here.column).token

/-- Ends the text. -/
def finish (s : Scanner) : Except Fault Scanner := do
  let s ← s.skipGap.dropStaleKeys
  let s ← (s.unwind (-1)).dropKey
  return s.push .streamEnd

/-- Reads the tokens from a place on. -/
def run : Nat → Scanner → List Token
  | 0, s => s.tokens.toList
  | fuel + 1, s =>
    if s.skipGap.here.rest.isEmpty then
      match s.finish with
      | .ok last => last.tokens.toList
      | .error fault => s.settled ++ [.broken fault]
    else
      match s.step with
      | .ok next => run fuel next
      | .error fault => s.settled ++ [.broken fault]

end Scanner

/-- The tokens of a text. Every token takes a character, so the length of the text bounds the
steps. -/
def Token.scan (text : String) : List Token :=
  let cs := text.toList
  match cs.find? (!isAllowed ·) with
  | some c => [.broken (.unprintable c)]
  | none => Scanner.run (cs.length + 1) (Scanner.start cs)

end CsdlRoutes.Yaml
