import CsdlRoutes.Output.Listing
import CsdlRoutes.Output.Wrap

/-!
# What a command tells

Messages go to the standard error; which of them are shown, and how they are marked, depends on the
console. Without colour a message is shown as it stands; where colour is wanted its marks are followed
and its lines fitted into the width of the terminal.

* `Console.render` is what is shown of a message.
* `Console.render_of_isPlain`: without colour a message is shown as it stands or not at all.
-/

namespace CsdlRoutes.Output

/-! ## Messages -/

/-- A message to whoever runs a command. -/
inductive Message where
  | info (text : String)
  | success (text : String)
  | error (text : String)
  | suggestion (text : String)
  | debug (text : String)
  /-- A notice from inside the library, with the part that gives it. -/
  | log (source text : String)
  deriving DecidableEq, Repr

/-- How messages are shown. -/
structure Console where
  /-- Whether messages are shown without marks for colour. -/
  isPlain : Bool
  isQuiet : Bool
  isVerbose : Bool
  /-- How many cells a line has where colour is wanted. -/
  width : Nat
  deriving DecidableEq, Repr

namespace Message

/-- Whether a message is shown on a console. -/
def isShown (c : Console) : Message → Bool
  | .info _ | .success _ | .suggestion _ => !c.isQuiet
  | .error _ => true
  | .debug _ | .log _ _ => c.isVerbose

/-- A message as it stands without colour. -/
def plainText : Message → String
  | .info s | .success s => s
  | .error s => "Error: " ++ s
  | .suggestion s => "→ " ++ s
  | .debug s => "[debug] " ++ s
  | .log source s => "DEBUG " ++ source ++ ": " ++ s

/-- A message with marks for its colour. -/
def markedText : Message → String
  | .info s => s
  | .success s => "[green]" ++ s ++ "[/green]"
  | .error s => "[bold red]Error:[/bold red] " ++ s
  | .suggestion s => "[dim]→ " ++ s ++ "[/dim]"
  | .debug s => "[dim][debug] " ++ s ++ "[/dim]"
  | .log source s => "DEBUG " ++ source ++ ": " ++ s

/-- Whether a message is coloured where colour is wanted. -/
def isColoured : Message → Bool
  | .log _ _ => false
  | _ => true

end Message

/-- The lines of a text with marks, each with its end. Where a line has no cells nothing is shown. -/
def markedLines (width : Nat) (text : String) : Except MarkFault String :=
  (withoutMarks text.toList).map fun cs =>
    if width = 0 then "" else String.join ((wrap width cs).map fun l => line (String.ofList l))

/-- What is shown of a message, unless it cannot be shown because of a mark in it. -/
def Console.render (c : Console) (m : Message) : Except MarkFault String :=
  if !m.isShown c then .ok ""
  else if c.isPlain || !m.isColoured then .ok (line m.plainText)
  else markedLines c.width m.markedText

/-- A console without colour shows a message as it stands or not at all. -/
theorem Console.render_of_isPlain {c : Console} (h : c.isPlain = true) (m : Message) :
    c.render m = .ok (if m.isShown c then line m.plainText else "") := by
  cases hm : m.isShown c <;> simp [Console.render, h, hm]

/-! ## The environment -/

/-- Whether the environment asks for output without colour. -/
def asksPlain (noColor term : Option String) : Bool :=
  noColor.isSome || term == some "dumb"

/-- How many cells a line has where the environment does not say. -/
def defaultWidth : Nat := 80

/-- How many cells a line has. -/
def widthOf (columns : Option String) : Nat :=
  match columns.bind fun s => s.toList.mapM Text.digitValue? with
  | some (d :: digits) => Text.ofDigits 10 (d :: digits)
  | _ => defaultWidth

end CsdlRoutes.Output
