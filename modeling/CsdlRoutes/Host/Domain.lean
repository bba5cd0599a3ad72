import CsdlRoutes.Host.DomainTable
import CsdlRoutes.Text.Digit

/-!
# Domain names

A domain name is a row of labels. A label of other characters than ASCII is written in ASCII by its
insertions into what is left of it, and the length of that is bounded. Some characters are only allowed
beside others, and letters read from right to left do not mix with others.

* `isDomainName` says what is a domain name, given in lower case.
* `insertionLength` is the number of characters for the insertions into a label.
-/

namespace CsdlRoutes.Host

/-! ## Insertions -/

/-- The base of the digits of an insertion. -/
def insertionBase : Nat := 36

/-- The bias after an insertion: how it is brought down, and how often. -/
def shrinkDelta (steps delta : Nat) : Nat :=
  if h : delta ≤ 455 then steps * insertionBase + (insertionBase * delta) / (delta + 38)
  else shrinkDelta (steps + 1) (delta / 35)
termination_by delta
decreasing_by omega

/-- The bias after an insertion. -/
def adaptedBias (delta count : Nat) (isFirst : Bool) : Nat :=
  let delta := if isFirst then delta / 700 else delta / 2
  shrinkDelta 0 (delta + delta / count)

/-- The threshold of a digit of an insertion, by its place. -/
def digitThreshold (place bias : Nat) : Nat :=
  min 26 (max 1 (insertionBase * (place + 1) - bias))

/-- The number of digits of an insertion. Every digit but the last takes away more than half of what is
left, so that as many digits as the fuel has are enough. -/
def insertionDigits (fuel place bias delta : Nat) : Nat :=
  match fuel with
  | 0 => 1
  | fuel + 1 =>
    let threshold := digitThreshold place bias
    if delta < threshold then 1
    else 1 + insertionDigits fuel (place + 1) bias ((delta - threshold) / (insertionBase - threshold))

/-- The state of writing insertions: what is written, and what the next one starts from. -/
structure InsertionState where
  length : Nat
  delta : Nat
  bias : Nat
  /-- How many characters of the label are in place. -/
  count : Nat
  isFirst : Bool

/-- Goes through a label and inserts a character wherever it stands. -/
def insertAll (code : Nat) (s : InsertionState) (cs : List Char) : InsertionState :=
  cs.foldl (fun s c =>
    if c.toNat < code then { s with delta := s.delta + 1 }
    else if c.toNat = code then
      ⟨s.length + insertionDigits s.delta 0 s.bias s.delta, 0,
        adaptedBias s.delta (s.count + 1) s.isFirst, s.count + 1, false⟩
    else s) s

/-- The number of characters for the insertions into a label, with the mark before them. -/
def insertionLength (cs : List Char) : Nat :=
  let basic := cs.filter (·.toNat < 128)
  let codes := ((cs.map Char.toNat).filter (128 ≤ ·)).eraseDups.mergeSort
  let start : InsertionState :=
    ⟨basic.length + (if basic.isEmpty then 0 else 1), 0, 72, basic.length, true⟩
  let (s, _) := codes.foldl (fun (s, code) next =>
      let s := { s with delta := s.delta + (next - code) * (s.count + 1) }
      let s := insertAll next s cs
      ({ s with delta := s.delta + 1 }, next + 1)) (start, 128)
  s.length

/-! ## Characters -/

/-- Whether a character lies within bounds. -/
def isBetween (least greatest : Nat) (c : Char) : Bool := least ≤ c.toNat && c.toNat ≤ greatest

/-- Whether a character is an Arabic digit. -/
def isArabicDigit (c : Char) : Bool := isBetween 0x660 0x669 c

/-- Whether a character is a digit that is read from left to right everywhere. -/
def isCommonDigit (c : Char) : Bool := Text.isAsciiDigit c || isBetween 0x6f0 0x6f9 c

/-- Whether a character is a letter of a script read from right to left. -/
def isRightToLeft (c : Char) : Bool :=
  (isBetween 0x590 0x8ff c || isBetween 0xfb1d 0xfdff c || isBetween 0xfe70 0xfeff c ||
    isBetween 0x10800 0x10fff c || isBetween 0x1e800 0x1efff c) &&
    !isArabicDigit c && !isCommonDigit c && !combiningRanges.contains c

/-- Whether a character is a Japanese or Chinese one. -/
def isEastAsian (c : Char) : Bool :=
  isBetween 0x3041 0x309f c || isBetween 0x30a1 0x30fa c || isBetween 0x30fd 0x30ff c ||
    isBetween 0x3005 0x3007 c || isBetween 0x3400 0x4dbf c || isBetween 0x4e00 0x9fff c ||
    isBetween 0x20000 0x3134a c

/-- Whether a character that is only allowed beside others is allowed, given what stands before and
after it and the whole label. -/
def isAllowedBeside (before after : Option Char) (label : List Char) (c : Char) : Bool :=
  if c = '·' then before == some 'l' && after == some 'l'
  else if c = '\u0375' then after.any (isBetween 0x370 0x3ff)
  else if c = '\u05f3' || c = '\u05f4' then before.any (isBetween 0x591 0x5f4)
  else if c = '・' then label.any isEastAsian
  else if isBetween 0x660 0x669 c then !label.any (isBetween 0x6f0 0x6f9)
  else if isBetween 0x6f0 0x6f9 c then !label.any (isBetween 0x660 0x669)
  else false

/-- Whether every character of a label is allowed where it stands. -/
def areAllowed (label : List Char) (before : Option Char) : List Char → Bool
  | [] => true
  | c :: rest =>
    (domainRanges.contains c || isAllowedBeside before rest.head? label c) &&
      areAllowed label (some c) rest

/-! ## Labels -/

/-- Whether a label does not mix directions. One with letters read from right to left, or with Arabic
digits, starts with such a letter and has no others, and digits of one kind only. -/
def hasOneDirection (label : List Char) : Bool :=
  let isMarked (c : Char) : Bool := isRightToLeft c || isArabicDigit c
  !label.any isMarked ||
    (label.head?.any isRightToLeft && !(label.any isArabicDigit && label.any isCommonDigit) &&
      label.all fun c => isMarked c || isCommonDigit c || c == '-' || combiningRanges.contains c)

/-- Whether hyphens stand where they are allowed: neither at the ends, nor both third and fourth. -/
def hasGoodHyphens (label : List Char) : Bool :=
  label.head? != some '-' && label.getLast? != some '-' && (label.drop 2).take 2 != ['-', '-']

/-- Whether a text is a label. A label of ASCII that stands for another one is not looked into. -/
def isLabel (label : List Char) : Bool :=
  let isAscii := label.all (·.toNat < 128)
  let length := if isAscii then label.length else 4 + insertionLength label
  !label.isEmpty && length ≤ 63 &&
    ("xn--".toList.isPrefixOf label && isAscii ||
      hasGoodHyphens label && !label.head?.any combiningRanges.contains &&
        areAllowed label none label && hasOneDirection label)

/-- The points between labels. -/
def isPoint (c : Char) : Bool := c == '.' || c == '。' || c == '．' || c == '｡'

/-- The labels of a domain name. -/
def labelsOf : List Char → List (List Char)
  | [] => [[]]
  | c :: rest =>
    match labelsOf rest with
    | [] => [[]]
    | label :: more => if isPoint c then [] :: label :: more else (c :: label) :: more

/-- Whether a text is a domain name. A point may stand behind the last label. -/
def isDomainName (cs : List Char) : Bool :=
  let labels := labelsOf cs
  let named := if labels.getLast? == some [] then labels.dropLast else labels
  !named.isEmpty && named.all isLabel && cs.length ≤ 254

end CsdlRoutes.Host
