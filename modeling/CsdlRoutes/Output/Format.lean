/-!
# Output formats

Data is printed as JSON, as plain rows, or drawn for a terminal. The automatic format decides between
the last two.

* `Format.resolve` settles how data is laid out.
* `Format.ofName?` reads the name of a format.
-/

namespace CsdlRoutes.Output

/-- The format in which data is wanted. -/
inductive Format where
  | auto
  | json
  | plain
  | rich
  deriving DecidableEq, Repr

/-- The form of data that is printed as it stands. -/
inductive Form where
  | json
  | plain
  deriving DecidableEq, Repr

/-- How data is laid out. -/
inductive Layout where
  | text (form : Form)
  /-- As a drawing, which is without colour if that is asked for. -/
  | drawing (isPlain : Bool)
  deriving DecidableEq, Repr

namespace Format

/-- The name of a format. -/
def name : Format → String
  | .auto => "auto"
  | .json => "json"
  | .plain => "plain"
  | .rich => "rich"

/-- All formats, in the order in which they are listed. -/
def all : List Format := [.auto, .json, .plain, .rich]

/-- The names of all formats. -/
def names : List String := all.map name

/-- The format with a name. -/
def ofName? (s : String) : Option Format := all.find? (·.name == s)

/-- Settles how data is laid out. The automatic format draws it on a terminal, if colour is wanted. -/
def resolve (f : Format) (isTerminal isPlain : Bool) : Layout :=
  match f with
  | .auto => if isTerminal && !isPlain then .drawing isPlain else .text .plain
  | .json => .text .json
  | .plain => .text .plain
  | .rich => .drawing isPlain

end Format

end CsdlRoutes.Output
