import CsdlRoutes.Text.Digit

/-!
# Tags of YAML nodes

A tag says what a node stands for. A plain scalar without a tag gets one from its form.

* `Tag.ofName` reads the full name of a tag.
* `Tag.ofPlain` finds the tag that the form of a plain scalar implies.
* `Stamp.read?` splits a text that has the form of a date, with or without a time.
-/

namespace CsdlRoutes.Yaml

open Text (isAsciiDigit hexValue?)

/-- What a node stands for. -/
inductive Tag where
  | null
  | bool
  | int
  | float
  | text
  | moment
  | bytes
  | sequence
  | mapping
  /-- A mapping of which only the keys count. -/
  | set
  /-- A sequence of mappings of one pair each, whose keys differ. -/
  | orderedMap
  /-- A sequence of mappings of one pair each. -/
  | pairs
  /-- The key under which other objects are merged in. -/
  | merge
  /-- The key of the value that stands for a whole object. -/
  | value
  | other (name : String)
  deriving DecidableEq, Repr

/-- The start of the names of the common tags. -/
def commonTagStem : String := "tag:yaml.org,2002:"

/-- The tags with their short names. -/
def Tag.shortNames : List (Tag × String) :=
  [(.null, "null"), (.bool, "bool"), (.int, "int"), (.float, "float"), (.text, "str"),
   (.moment, "timestamp"), (.bytes, "binary"), (.sequence, "seq"), (.mapping, "map"),
   (.set, "set"), (.orderedMap, "omap"), (.pairs, "pairs"), (.merge, "merge"), (.value, "value")]

/-- The tag with a full name. -/
def Tag.ofName (name : String) : Tag :=
  match Tag.shortNames.find? fun (_, short) => commonTagStem ++ short == name with
  | some (tag, _) => tag
  | none => .other name

/-- Whether a tag asks for a collection. -/
def Tag.isCollection : Tag → Bool
  | .sequence | .mapping | .set | .orderedMap | .pairs => true
  | _ => false

/-- Whether a tag is the name of nothing that a node can denote. -/
def Tag.isUnknown : Tag → Bool
  | .merge | .value | .other _ => true
  | _ => false

/-- The full name of a tag. -/
def Tag.name : Tag → String
  | .other name => name
  | tag => commonTagStem ++ (Tag.shortNames.lookup tag).getD ""

/-! ## Forms of numbers -/

/-- A text without its sign. -/
def withoutSign : List Char → List Char
  | '+' :: rest => rest
  | '-' :: rest => rest
  | cs => cs

/-- The pieces of a text between the occurrences of a character. -/
def splitAtEach (separator : Char) : List Char → List (List Char)
  | [] => [[]]
  | c :: rest =>
    match splitAtEach separator rest with
    | [] => [[]]
    | piece :: pieces =>
      if c = separator then [] :: piece :: pieces else (c :: piece) :: pieces

/-- Whether a text is not empty and holds underscores and characters of a class only. -/
def isRow (p : Char → Bool) (cs : List Char) : Bool :=
  !cs.isEmpty && cs.all fun c => c == '_' || p c

/-- Whether a text is a row that starts with a character of a class. -/
def isRowFrom (first p : Char → Bool) : List Char → Bool
  | [] => false
  | c :: rest => first c && rest.all fun c => c == '_' || p c

/-- Whether a character is a digit from 1 to 9. -/
def isPositiveDigit (c : Char) : Bool := isAsciiDigit c && c != '0'

/-- Whether a text counts minutes or seconds: up to 59, with one digit or two. -/
def isSixtieth : List Char → Bool
  | [c] => isAsciiDigit c
  | [c, d] => decide ('0' ≤ c) && decide (c ≤ '5') && isAsciiDigit d
  | _ => false

/-- Whether a text has the form of an integer: in base 2, 8, 16 or 10, or of base 60 with colons. -/
def isIntForm (cs : List Char) : Bool :=
  match withoutSign cs with
  | ['0'] => true
  | '0' :: 'b' :: rest => isRow (fun c => c == '0' || c == '1') rest
  | '0' :: 'x' :: rest => isRow (fun c => (hexValue? c).isSome) rest
  | '0' :: rest => isRow (fun c => decide ('0' ≤ c) && decide (c ≤ '7')) rest
  | body =>
    match splitAtEach ':' body with
    | whole :: parts => isRowFrom isPositiveDigit isAsciiDigit whole && parts.all isSixtieth
    | [] => false

/-- Whether a text is an exponent with its mark and sign, or empty. -/
def isExponentForm : List Char → Bool
  | [] => true
  | mark :: sign :: digits =>
    (mark == 'e' || mark == 'E') && (sign == '-' || sign == '+') && !digits.isEmpty &&
      digits.all isAsciiDigit
  | _ => false

/-- Whether a text is what may follow the point of a number. -/
def isFractionForm (cs : List Char) : Bool :=
  isExponentForm (cs.dropWhile fun c => c == '_' || isAsciiDigit c)

/-- Whether a text has the form of a floating-point number: with a point and perhaps a signed
exponent, of base 60 with colons and a point, or one of the words for infinity and for no number. -/
def isFloatForm (cs : List Char) : Bool :=
  let body := withoutSign cs
  let (whole, rest) := (body.takeWhile (· != '.'), body.dropWhile (· != '.'))
  match rest with
  | '.' :: fraction =>
    if whole.isEmpty then
      (fraction == "inf".toList || fraction == "Inf".toList || fraction == "INF".toList) ||
        (body == cs &&
          ((fraction == "nan".toList || fraction == "NaN".toList || fraction == "NAN".toList) ||
            (fraction.head?.any isAsciiDigit && isFractionForm fraction)))
    else
      match splitAtEach ':' whole with
      | [_] => isRowFrom isAsciiDigit isAsciiDigit whole && isFractionForm fraction
      | first :: parts =>
        isRowFrom isAsciiDigit isAsciiDigit first && parts.all isSixtieth &&
          fraction.all fun c => c == '_' || isAsciiDigit c
      | [] => false
  | _ => false

/-! ## Forms of dates -/

/-- The time of a text that has the form of a date and a time. -/
structure Clock where
  hour : List Char
  minute : List Char
  second : List Char
  fraction : List Char
  /-- The zone: none, universal time, or a sign, hours and minutes. -/
  zone : Option (Option (Char × List Char × List Char))
  deriving DecidableEq, Repr

/-- A text that has the form of a date, split into its numbers. -/
structure Stamp where
  year : List Char
  month : List Char
  day : List Char
  clock : Option Clock
  deriving DecidableEq, Repr

/-- One or two digits, and what follows them. -/
def oneOrTwoDigits? (cs : List Char) : Option (List Char × List Char) :=
  let ds := (cs.takeWhile isAsciiDigit).take 2
  if ds.isEmpty then none else some (ds, cs.drop ds.length)

/-- A number of digits, and what follows them. -/
def exactDigits? (n : Nat) (cs : List Char) : Option (List Char × List Char) :=
  let ds := cs.take n
  if ds.length == n && ds.all isAsciiDigit then some (ds, cs.drop n) else none

/-- What follows a character, if the text starts with it. -/
def after? (c : Char) : List Char → Option (List Char)
  | d :: rest => if c = d then some rest else none
  | [] => none

/-- The zone at the end of a time. -/
def zone? (cs : List Char) : Option (Option (Option (Char × List Char × List Char))) :=
  if cs.isEmpty then some none
  else
    match cs.dropWhile fun c => c == ' ' || c == '\t' with
    | ['Z'] => some (some none)
    | sign :: rest => do
      if sign != '+' && sign != '-' then none
      let (hours, rest) ← oneOrTwoDigits? rest
      if rest.isEmpty then return some (some (sign, hours, []))
      let (minutes, rest) ← exactDigits? 2 (← after? ':' rest)
      if rest.isEmpty then return some (some (sign, hours, minutes)) else none
    | [] => none

/-- The time behind a date. -/
def clock? (cs : List Char) : Option Clock := do
  let cs ←
    match cs with
    | 'T' :: rest => some rest
    | 't' :: rest => some rest
    | _ =>
      let rest := cs.dropWhile fun c => c == ' ' || c == '\t'
      if rest.length == cs.length then none else some rest
  let (hour, cs) ← oneOrTwoDigits? cs
  let (minute, cs) ← exactDigits? 2 (← after? ':' cs)
  let (second, cs) ← exactDigits? 2 (← after? ':' cs)
  let (fraction, cs) :=
    match cs with
    | '.' :: rest => (rest.takeWhile isAsciiDigit, rest.dropWhile isAsciiDigit)
    | _ => ([], cs)
  let zone ← zone? cs
  return ⟨hour, minute, second, fraction, zone⟩

/-- Splits a text that has the form of a date, with or without a time. -/
def Stamp.read? (cs : List Char) : Option Stamp := do
  let (year, cs) ← exactDigits? 4 cs
  let (month, cs) ← oneOrTwoDigits? (← after? '-' cs)
  let (day, cs) ← oneOrTwoDigits? (← after? '-' cs)
  if cs.isEmpty then return ⟨year, month, day, none⟩
  return ⟨year, month, day, some (← clock? cs)⟩

/-- Whether a text has the form that makes a plain scalar a date: without a time, month and day have
two digits. -/
def isMomentForm (cs : List Char) : Bool :=
  match Stamp.read? cs with
  | some stamp => stamp.clock.isSome || (stamp.month.length == 2 && stamp.day.length == 2)
  | none => false

/-! ## Plain scalars -/

/-- The words for truth values, in small letters. -/
def truthWords : List (String × Bool) :=
  [("yes", true), ("no", false), ("true", true), ("false", false), ("on", true), ("off", false)]

/-- Whether a text is a word in small letters, in capitals, or with a first capital. -/
def isSpelling (word cs : List Char) : Bool :=
  cs == word || cs == word.map Char.toUpper ||
    match word with
    | c :: rest => cs == c.toUpper :: rest
    | [] => false

/-- A text without one line feed at its end. -/
def withoutLastBreak (cs : List Char) : List Char :=
  if cs.getLast? == some '\n' then cs.dropLast else cs

/-- The tag that the form of a plain scalar implies. One line feed at the end is passed over. -/
def Tag.ofPlain (text : String) : Tag :=
  let cs := withoutLastBreak text.toList
  if text.isEmpty then .null
  else if truthWords.any fun (word, _) => isSpelling word.toList cs then .bool
  else if isFloatForm cs then .float
  else if isIntForm cs then .int
  else if cs == "<<".toList then .merge
  else if cs == ['~'] || isSpelling "null".toList cs then .null
  else if isMomentForm cs then .moment
  else if cs == ['='] then .value
  else if cs == ['!'] || cs == ['&'] || cs == ['*'] then .other (commonTagStem ++ "yaml")
  else .text

end CsdlRoutes.Yaml
