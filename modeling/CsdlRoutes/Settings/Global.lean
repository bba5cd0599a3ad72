import CsdlRoutes.Failure
import CsdlRoutes.Json.Writer
import CsdlRoutes.Text.Lower

/-!
# Global settings

The settings of a user are a record of three fields: the schema that is loaded where none is named,
the greatest number of segments of a route, and the output format. The record is stored as a JSON
file; members that are not there have their default values.

* `Settings.ofValue` and `Settings.toValue` convert between records and values.
* `Settings.ofFile` reads the file, `Settings.fileText` is its text.
* `Settings.set` changes one field by its name.
-/

namespace CsdlRoutes

open Output (Format)

/-- The settings of a user. -/
structure Settings where
  defaultSchema : Option String := none
  maxDepth : Nat := 5
  format : Format := .auto
  deriving DecidableEq, Repr

namespace Settings

/-- The settings where nothing is set. -/
def defaults : Settings := {}

/-! ## Values -/

/-- The name of a format. -/
def formatField : Value → Checked Format
  | .scalar (.text s) =>
    match Format.ofName? s with
    | some f => .ok f
    | none => .problem .unknownChoice
  | _ => .problem .unknownChoice

/-- Reads the record from a value. -/
def ofValue (v : Value) : Checked Settings :=
  objectField (fun members =>
    let fields :=
      (fieldOr none optionalTextField "default_schema" members).both <|
      (fieldOr 5 (objectField (fieldOr 5 countField "max_depth")) "traversal" members).both <|
      fieldOr .auto (objectField (fieldOr .auto formatField "format")) "output" members
    fields.map fun (defaultSchema, maxDepth, format) => ⟨defaultSchema, maxDepth, format⟩) v

/-- The members of the record. -/
def toMembers (s : Settings) : Members :=
  [(.text "default_schema", s.defaultSchema.elim .null .text),
   (.text "traversal", .object [(.text "max_depth", .scalar (.int s.maxDepth))]),
   (.text "output", .object [(.text "format", .text s.format.name)])]

/-- The record as a value. -/
def toValue (s : Settings) : Value := .object s.toMembers

/-- What is written is read back. -/
theorem ofValue_toValue (s : Settings) : ofValue s.toValue = .ok s := by
  obtain ⟨schema, depth, format⟩ := s
  cases schema <;> cases format <;> rfl

/-! ## The file -/

/-- Reads the text of a settings file. -/
def readText (text : String) : Except FileDefect Value :=
  match Json.read text with
  | .ok v => .ok v
  | .error fault => .error (.json fault)

/-- Reads the bytes of a settings file, whichever way its lines end. -/
def readBytes (bytes : ByteArray) : Except FileDefect Value :=
  match Text.decode bytes with
  | .ok text => readText (String.ofList (Text.unifyNewlines text.toList))
  | .error fault => .error (.encoding fault)

/-- Reads the bytes of the file of the record. -/
def ofBytes (bytes : ByteArray) : Except FileDefect Settings := do
  match ofValue (← readBytes bytes) with
  | .ok s => return s
  | .error problems => throw (.record problems)

/-- Reads the file at a path, if it is there. Without it nothing is set. -/
def ofFile (path : String) (file? : Option ByteArray) : Except Failure Settings :=
  match file? with
  | none => .ok defaults
  | some bytes => (ofBytes bytes).mapError (FileDefect.failure (.unreadableGlobal path))

/-- The text of the file. -/
def fileText (s : Settings) : String := Json.write Json.Style.stored s.toValue ++ "\n"

/-! ## Changes -/

/-- A text that stands for no schema. -/
def standsForNone (value : String) : Bool :=
  let word := Text.lower (Text.strip value)
  word == "" || word == "none"

/-- Sets the schema that is loaded where none is named. -/
def setDefaultSchema (s : Settings) (value : String) : Except Failure Settings :=
  .ok { s with defaultSchema := if standsForNone value then none else some value }

/-- Sets the greatest number of segments of a route. -/
def setMaxDepth (s : Settings) (value : String) : Except Failure Settings :=
  match Number.readWhole? value with
  | none => .error (.argument (.depthNotWhole value))
  | some (.ofNat n) => .ok { s with maxDepth := n }
  | some n => .error (.argument (.depthBelowZero n))

/-- Sets the output format. -/
def setFormat (s : Settings) (value : String) : Except Failure Settings :=
  match Format.ofName? value with
  | some f => .ok { s with format := f }
  | none => .error (.argument (.unknownFormat value))

/-- The names of the fields, each with what sets it. -/
def setters : List (String × (Settings → String → Except Failure Settings)) :=
  [("default_schema", setDefaultSchema), ("traversal.max_depth", setMaxDepth),
   ("output.format", setFormat)]

end Settings

end CsdlRoutes
