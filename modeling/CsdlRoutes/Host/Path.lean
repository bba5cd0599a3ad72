/-!
# Paths

A path is a row of parts, and may start at the root. Empty parts and single dots mean nothing and are
left out of its written form; double dots stay, since what they lead to depends on the file system.

* `Path.read` splits a path, `Path.text` is its written form.
* `Path.join` puts one path behind another.
* `Path.suffix` is the ending of the last part.
-/

namespace CsdlRoutes.Host

/-- A path: what marks the root, if it starts there, and its parts. -/
structure Path where
  root : String
  parts : List String
  deriving DecidableEq, Repr

namespace Path

/-- The mark of the root: one slash, or two where exactly two start the path. -/
def rootMark (cs : List Char) : String :=
  match (cs.takeWhile (· == '/')).length with
  | 0 => ""
  | 2 => "//"
  | _ => "/"

/-- The pieces between slashes. -/
def pieces : List Char → List (List Char)
  | [] => [[]]
  | c :: rest =>
    match pieces rest with
    | [] => [[]]
    | piece :: more => if c = '/' then [] :: piece :: more else (c :: piece) :: more

/-- Splits a path. -/
def read (s : String) : Path :=
  let parts := ((pieces s.toList).map String.ofList).filter fun part => part != "" && part != "."
  ⟨rootMark s.toList, parts⟩

/-- The written form of a path. -/
def text (p : Path) : String :=
  if p.root == "" && p.parts.isEmpty then "." else p.root ++ "/".intercalate p.parts

/-- A path behind another one. A path that starts at the root stands alone. -/
def join (p q : Path) : Path := if q.root == "" then ⟨p.root, p.parts ++ q.parts⟩ else q

/-- A part behind a path. -/
def child (p : Path) (part : String) : Path := ⟨p.root, p.parts ++ [part]⟩

/-- The last part. -/
def name (p : Path) : String := p.parts.getLast?.getD ""

/-- What holds the last part. -/
def parent (p : Path) : Path := ⟨p.root, p.parts.dropLast⟩

/-- What a row of characters has from its last dot on, if something stands on both sides of it. -/
def suffixOf (cs : List Char) : List Char :=
  let after := (cs.reverse.takeWhile (· != '.')).reverse
  if after.isEmpty || cs.length < after.length + 2 then [] else '.' :: after

/-- The ending of the last part, with its dot. -/
def suffix (p : Path) : String := String.ofList (suffixOf p.name.toList)

end Path

end CsdlRoutes.Host
