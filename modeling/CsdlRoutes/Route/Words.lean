import CsdlRoutes.Text.Lower

/-!
# Words of commands

A name in camel case becomes a word in small letters with hyphens: one goes between a small ASCII
letter or digit and a capital one, and underscores become hyphens.

* `kebab` is the word of a name.
* `lowerFirst` is a name with a small first letter.
-/

namespace CsdlRoutes.Route

/-- Whether a character is a small ASCII letter or an ASCII digit. -/
def isSmallOrDigit (c : Char) : Bool := c.isLower || c.isDigit

/-- Puts a hyphen at each place where a capital letter follows a small letter or a digit. -/
def hyphenate : List Char → List Char
  | c :: d :: rest =>
    if isSmallOrDigit c && d.isUpper then c :: '-' :: hyphenate (d :: rest)
    else c :: hyphenate (d :: rest)
  | cs => cs

/-- The word of a name. -/
def kebab (name : String) : String :=
  Text.lower (String.ofList ((hyphenate name.toList).map fun c => if c = '_' then '-' else c))

/-- A name with a small first letter. -/
def lowerFirst (name : String) : String :=
  match name.toList with
  | [] => name
  | c :: rest => Text.lower c.toString ++ String.ofList rest

end CsdlRoutes.Route
