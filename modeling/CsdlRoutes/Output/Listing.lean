import CsdlRoutes.Json.Writer
import CsdlRoutes.Output.Flatten
import CsdlRoutes.Output.Format
import CsdlRoutes.Output.Marks

/-!
# Listings

What a command lists are rows of cells below headers. In JSON a listing is printed at once; plain rows
are printed one after the other. What a drawing for a terminal looks like is left to the host, and so
is which marks in it cannot be drawn.

* `Listing.texts` are the texts that a listing is printed as.
* `settingsTexts` are those of settings.
* `Listing.bareDrawing` is a drawing without frames and colours.
-/

namespace CsdlRoutes.Output

/-- What a command lists. The title is shown in drawings only. -/
structure Listing where
  title : String
  headers : List String
  rows : List (List String)
  deriving DecidableEq, Repr

/-- Text as a line. -/
def line (s : String) : String := s ++ "\n"

/-- A row as an object. A header that is repeated keeps its last cell, and cells without a header are
left out. -/
def record (headers row : List String) : Value :=
  .object (Keyed.ofList ((headers.zip row).map fun (h, cell) => (.text h, .text cell)))

/-- A row with tabs between the cells. -/
def plainRow (row : List String) : String := line ("\t".intercalate row)

/-- The texts that a listing is printed as: an array of objects in JSON, and otherwise one row after
the other, the headers first. -/
def Listing.texts (form : Form) (l : Listing) : List String :=
  match form with
  | .json => [line (Json.write Json.Style.listing (.list (l.rows.map (record l.headers))))]
  | .plain => (l.headers :: l.rows).map plainRow

/-- A drawing without frames and colours, if no mark stands against it. -/
def Listing.bareDrawing (l : Listing) : Except MarkFault String := do
  let bare (cell : String) : Except MarkFault String :=
    (withoutMarks cell.toList).map String.ofList
  let title ← bare l.title
  let rows ← (l.headers :: l.rows).mapM (·.mapM bare)
  return line title ++ String.join (rows.map plainRow)

/-! ## Settings -/

/-- A setting as a row. A setting without a value shows as a hyphen. -/
def settingRow (pair : String × Value) : List String :=
  [pair.1, if pair.2 = .null then "-" else pair.2.display]

/-- Settings as a listing of their flattened names and values. -/
def settingsListing (settings : Members) : Listing :=
  ⟨"Configuration", ["Setting", "Value"], (flatten settings).map settingRow⟩

/-- The texts that settings are printed as: an object in JSON, and otherwise those of their listing. -/
def settingsTexts (form : Form) (settings : Members) : List String :=
  match form with
  | .json => [line (Json.write Json.Style.listing (.object settings))]
  | .plain => (settingsListing settings).texts .plain

/-- What settings are printed as. -/
def settingsText (form : Form) (settings : Members) : String :=
  String.join (settingsTexts form settings)

end CsdlRoutes.Output
