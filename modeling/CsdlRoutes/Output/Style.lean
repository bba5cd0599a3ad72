import CsdlRoutes.Table
import CsdlRoutes.Text.Blank
import CsdlRoutes.Text.Digit
import CsdlRoutes.Text.Lower

/-!
# Styles of text

A style is written as a row of words: attributes, which the word not switches off, a colour, a colour
of the background behind the word on, and a link. The order of the words does not matter, attributes
have short names, and case does not count. So one style can be written in many ways.

* `Style.ofWords` reads a style, `Style.text` is its written form.
* `styleName` is the name by which a style is known: its written form, or the words in lower case if
  they are no style.
-/

namespace CsdlRoutes.Output

/-- Attributes in the order in which they are written. -/
def attributeNames : List String :=
  ["bold", "dim", "italic", "underline", "blink", "blink2", "reverse", "conceal", "strike",
   "underline2", "frame", "encircle", "overline"]

/-- Short names of attributes. -/
def shortAttributes : List (String × String) :=
  [("d", "dim"), ("b", "bold"), ("i", "italic"), ("u", "underline"), ("uu", "underline2"),
   ("r", "reverse"), ("c", "conceal"), ("s", "strike"), ("o", "overline")]

/-- The attribute that a word names. -/
def attribute? (word : String) : Option String :=
  if attributeNames.contains word then some word else shortAttributes.lookup word

/-- The names of colours. -/
def colourNames : List String :=
  Text.words <|
    "black red green yellow blue magenta cyan white bright_black bright_red bright_green
     bright_yellow bright_blue bright_magenta bright_cyan bright_white grey0 gray0 navy_blue
     dark_blue blue3 blue1 dark_green deep_sky_blue4 dodger_blue3 dodger_blue2 green4
     spring_green4 turquoise4 deep_sky_blue3 dodger_blue1 green3 spring_green3 dark_cyan
     light_sea_green deep_sky_blue2 deep_sky_blue1 spring_green2 cyan3 dark_turquoise turquoise2
     green1 spring_green1 medium_spring_green cyan2 cyan1 dark_red deep_pink4 purple4 purple3
     blue_violet orange4 grey37 gray37 medium_purple4 slate_blue3 royal_blue1 chartreuse4
     dark_sea_green4 pale_turquoise4 steel_blue steel_blue3 cornflower_blue chartreuse3
     cadet_blue sky_blue3 steel_blue1 pale_green3 sea_green3 aquamarine3 medium_turquoise
     chartreuse2 sea_green2 sea_green1 aquamarine1 dark_slate_gray2 dark_magenta dark_violet
     purple light_pink4 plum4 medium_purple3 slate_blue1 yellow4 wheat4 grey53 gray53
     light_slate_grey light_slate_gray medium_purple light_slate_blue dark_olive_green3
     dark_sea_green light_sky_blue3 sky_blue2 dark_sea_green3 dark_slate_gray3 sky_blue1
     chartreuse1 light_green pale_green1 dark_slate_gray1 red3 medium_violet_red magenta3
     dark_orange3 indian_red hot_pink3 medium_orchid3 medium_orchid medium_purple2 dark_goldenrod
     light_salmon3 rosy_brown grey63 gray63 medium_purple1 gold3 dark_khaki navajo_white3 grey69
     gray69 light_steel_blue3 light_steel_blue yellow3 dark_sea_green2 light_cyan3
     light_sky_blue1 green_yellow dark_olive_green2 dark_sea_green1 pale_turquoise1 deep_pink3
     magenta2 hot_pink2 orchid medium_orchid1 orange3 light_pink3 pink3 plum3 violet
     light_goldenrod3 tan misty_rose3 thistle3 plum2 khaki3 light_goldenrod2 light_yellow3 grey84
     gray84 light_steel_blue1 yellow2 dark_olive_green1 honeydew2 light_cyan1 red1 deep_pink2
     deep_pink1 magenta1 orange_red1 indian_red1 hot_pink dark_orange salmon1 light_coral
     pale_violet_red1 orchid2 orchid1 orange1 sandy_brown light_salmon1 light_pink1 pink1 plum1
     gold1 navajo_white1 misty_rose1 thistle1 yellow1 light_goldenrod1 khaki1 wheat1 cornsilk1
     grey100 gray100 grey3 gray3 grey7 gray7 grey11 gray11 grey15 gray15 grey19 gray19 grey23
     gray23 grey27 gray27 grey30 gray30 grey35 gray35 grey39 gray39 grey42 gray42 grey46 gray46
     grey50 gray50 grey54 gray54 grey58 gray58 grey62 gray62 grey66 gray66 grey70 gray70 grey74
     gray74 grey78 gray78 grey82 gray82 grey85 gray85 grey89 gray89 grey93 gray93"

/-! ## Colours -/

/-- Why words are no style. -/
inductive StyleFault where
  /-- A word is nothing that a style may hold. -/
  | unknownWord
  /-- A component of a colour is no number. -/
  | componentNoNumber
  deriving DecidableEq, Repr

/-- The pieces between commas. -/
def splitAtCommas : List Char → List (List Char)
  | [] => [[]]
  | c :: rest =>
    match splitAtCommas rest with
    | [] => [[c]]
    | piece :: more => if c == ',' then [] :: piece :: more else (c :: piece) :: more

/-- What a text holds between an opening word and a closing parenthesis. -/
def between? (opening : String) (cs : List Char) : Option (List Char) :=
  if opening.toList.isPrefixOf cs then
    match cs.reverse with
    | ')' :: _ => some ((cs.drop opening.length).dropLast)
    | _ => none
  else none

/-- The number of a component of a colour, in digits of any script. -/
def component? (cs : List Char) : Option Nat := do
  if cs.isEmpty then none
  let digits ← cs.mapM Text.digitValue?
  return Text.ofDigits 10 digits

/-- Checks a colour by its three components. -/
def checkComponents (inner : List Char) : Except StyleFault Unit :=
  if inner.isEmpty || !inner.all fun c => c == ',' || (Text.digitValue? c).isSome then
    .error .unknownWord
  else
    match splitAtCommas inner with
    | [red, green, blue] =>
      match [red, green, blue].mapM component? with
      | none => .error .componentNoNumber
      | some parts => if parts.all (· ≤ 255) then .ok () else .error .unknownWord
    | _ => .error .unknownWord

/-- Whether a text is a number of a colour in a palette. -/
def isPaletteNumber (inner : List Char) : Bool :=
  !inner.isEmpty && decide (inner.length ≤ 3) && inner.all Text.isAsciiDigit &&
    decide (Text.ofDigits 10 (inner.map Text.asciiDigitValue) ≤ 255)

/-- Whether a text is a hash sign and six hexadecimal digits. -/
def isHexColour : List Char → Bool
  | '#' :: digits => digits.length == 6 && digits.all fun c => (Text.hexValue? c).isSome
  | _ => false

/-- Reads a colour. Its name is in lower case. -/
def readColour (word : String) : Except StyleFault String :=
  let name := Text.lower word
  let cs := name.toList
  if name == "default" || colourNames.contains name || isHexColour cs then .ok name
  else
    match between? "color(" cs, between? "rgb(" cs with
    | some inner, _ => if isPaletteNumber inner then .ok name else .error .unknownWord
    | none, some inner => (checkComponents inner).map fun _ => name
    | none, none => .error .unknownWord

/-! ## Styles -/

/-- A style: attributes that it switches on or off, colours and a link. -/
structure Style where
  attributes : Table Bool
  colour : Option String
  background : Option String
  link : Option String
  deriving DecidableEq, Repr

namespace Style

/-- The style that says nothing. -/
def plain : Style := ⟨[], none, none, none⟩

/-- Adds what words say to a style. -/
def addWords (s : Style) : List String → Except StyleFault Style
  | [] => .ok s
  | word :: rest =>
    match Text.lower word, rest with
    | "on", colour :: rest =>
      match readColour colour with
      | .ok name => addWords { s with background := some name } rest
      | .error fault => .error fault
    | "not", word :: rest =>
      match attribute? word with
      | some name => addWords { s with attributes := s.attributes.put name false } rest
      | none => .error .unknownWord
    | "link", target :: rest => addWords { s with link := some target } rest
    | "on", [] | "not", [] | "link", [] => .error .unknownWord
    | lowered, rest =>
      match attribute? lowered with
      | some name => addWords { s with attributes := s.attributes.put name true } rest
      | none =>
        match readColour lowered with
        | .ok name => addWords { s with colour := some name } rest
        | .error fault => .error fault

/-- Reads a style. -/
def ofWords (words : List String) : Except StyleFault Style :=
  if words == ["none"] then .ok plain else plain.addWords words

/-- The written form of an attribute that a style mentions. -/
def attributeText? (s : Style) (name : String) : Option String :=
  (s.attributes.get? name).map fun isOn => if isOn then name else "not " ++ name

/-- The written form of a style. -/
def text (s : Style) : String :=
  let words := attributeNames.filterMap s.attributeText? ++ s.colour.toList ++
    (s.background.map ("on " ++ ·)).toList ++ (s.link.map ("link " ++ ·)).toList
  if words.isEmpty then "none" else " ".intercalate words

end Style

/-- The name by which a style is known. -/
def styleName (s : String) : Except StyleFault String :=
  match Style.ofWords (Text.words s) with
  | .ok style => .ok style.text
  | .error .unknownWord => .ok (Text.lower (Text.strip s))
  | .error fault => .error fault

end CsdlRoutes.Output
