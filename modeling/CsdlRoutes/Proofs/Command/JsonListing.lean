import CsdlRoutes.Proofs.Command.PerformedPlans
import CsdlRoutes.Proofs.Host.LoadingFailures
import CsdlRoutes.Proofs.Json.WrittenValues
import CsdlRoutes.Proofs.Route.OrderIndependence
import CsdlRoutes.Proofs.Route.Totality

/-!
# Listings as JSON

A listing of routes as JSON is read back as what it shows: one object for each row that remains, in
the order of the rows, with the template, the depth, the target and the kind of the last edge of its
node. That holds whatever characters the names have, since every text is read back. Only a listing
without rows prints nothing at all, and that happens exactly where the entity container has nothing
to walk to: the rows of the roots are no rows of references.

* `Shows`, `rowObject`: the row of a node, and the object of a row.
* `texts_rows`, `read_rowObjects`: what rows are printed as, and that it is read back.
* `json_listing_reads_back`: what a listing that ends with success has printed.
* `empty_container_prints_nothing`: a listing without rows.
-/

namespace CsdlRoutes.Command

open Output (Layout Listing line)
open Route (Node Row Walk)
open Schema (Model)

variable {m : Model} {n : Node} {r : Row}

/-! ## Rows and their objects -/

/-- A row that shows a node. -/
structure Shows (m : Model) (n : Node) (r : Row) : Prop where
  path : Route.template m n.route = .ok r.path
  depth : r.depth = n.depth
  target : r.target = n.property.typeName
  edge : r.edge = n.edge m

theorem shows_of_row (h : n.row m = .ok r) : Shows m n r := by
  obtain ⟨path, hpath, h⟩ := bind_eq_ok.mp h
  cases h
  exact ⟨hpath, rfl, rfl, rfl⟩

/-- A row as an object of a listing. -/
def rowObject (r : Row) : Value :=
  .object [(.text "Path", .text r.path), (.text "Depth", .text (toString r.depth)),
    (.text "Target", .text r.target), (.text "Edge", .text r.edge.word)]

theorem record_cells (r : Row) : Output.record Row.headers r.cells = rowObject r := rfl

theorem writable_rowObject (room : Nat) (r : Row) : Json.Writable (room + 1) (rowObject r) := by
  refine .object ?_ ?_ ?_
  · simp
  · have hkeys : [Scalar.text "Path", .text "Depth", .text "Target", .text "Edge"].Nodup := by decide
    exact hkeys
  · simp [Json.Writable.text]

/-- In JSON rows are printed at once, as one list of their objects. -/
theorem texts_rows (title : String) (rows : List Row) :
    (Listing.mk title Row.headers (rows.map Row.cells)).texts .json =
      [line (Json.write Json.Style.listing (.list (rows.map rowObject)))] := by
  have hrecords : (rows.map Row.cells).map (Output.record Row.headers) = rows.map rowObject := by
    rw [List.map_map]
    exact List.map_congr_left fun r _ => record_cells r
  rw [Listing.texts, hrecords]

/-- The list of the objects of rows is read back. -/
theorem read_rowObjects (rows : List Row) :
    Json.read (line (Json.write Json.Style.listing (.list (rows.map rowObject)))) =
      .ok (.list (rows.map rowObject)) := by
  have hwritable : Json.Writable Json.nestingLimit (.list (rows.map rowObject)) := by
    refine .list fun v hv => ?_
    obtain ⟨r, _, rfl⟩ := List.mem_map.mp hv
    exact writable_rowObject _ r
  have hgap : ∀ c ∈ "\n".toList, Json.isGap c = true := by simp [Json.isGap]
  exact Json.read_write hwritable hgap

/-! ## Rows that remain -/

/-- Whether a row remains where references may be left out. -/
def remains (references : Bool) (r : Row) : Bool := references || r.edge != .reference

/-- The rows of a listing are those that remain, in their order or in that of their paths. -/
theorem selectRows_eq (references : Bool) (listed : List Row) :
    selectRows false references listed = listed.filter (remains references) ∧
      selectRows true references listed = Route.byPath (listed.filter (remains references)) := by
  cases references with
  | false => exact ⟨rfl, rfl⟩
  | true =>
    have hall : listed.filter (remains true) = listed := List.filter_eq_self.mpr fun _ _ => rfl
    rw [hall]
    exact ⟨rfl, rfl⟩

theorem selectRows_perm (sorted references : Bool) (listed : List Row) :
    (selectRows sorted references listed).Perm (listed.filter (remains references)) := by
  obtain ⟨htraversal, hsorted⟩ := selectRows_eq references listed
  cases sorted with
  | false => exact List.Perm.of_eq htraversal
  | true =>
    rw [hsorted]
    exact List.mergeSort_perm _ _

/-- A row of a root is no row of a reference. -/
theorem remains_of_root (h : Shows m n r) (hroot : n.above = []) (references : Bool) :
    remains references r = true := by
  have hedge : r.edge ≠ .reference := by
    rw [h.edge, Node.edge, hroot]
    dsimp only
    split
    · exact fun h => by cases h
    · exact fun h => by cases h
  simp [remains, hedge]

/-! ## The listing of a command -/

variable {host : Host} {feed : Host.Feed} {layout : Layout}

/-- A plan that goes on with a model got it, and prints what the plan for the model prints. -/
theorem withModel_ending {schema : Option String} {next : Model → Plan} {code : Nat}
    (h : (withModel host feed schema next).ending = .exit code) :
    ∃ source m, (host.resolveSchema schema).2 = .ok source ∧ host.loadModel feed source = .ok m ∧
      (next m).ending = .exit code ∧
      (withModel host feed schema next).printed = (next m).printed := by
  unfold withModel withSchema at h ⊢
  rw [Plan.ending_after] at h
  obtain ⟨source, hsource, heq⟩ := Plan.ofResult_ending h
  rw [heq] at h
  rw [Plan.printed_after, printedBy_of_silent (silent_lookUp _), String.empty_append, heq]
  rw [Plan.ending_after] at h
  obtain ⟨m, hm, heq⟩ := Plan.ofResult_ending h
  rw [heq] at h
  refine ⟨source, m, hsource, hm, h, ?_⟩
  rw [Plan.printed_after, printedBy, printedBy_of_silent (silent_notices _), heq]
  rfl

theorem routesPlan_ending {depth : Option Nat} {sorted references : Bool} {code : Nat}
    (h : (routesPlan host layout depth sorted references m).ending = .exit code) :
    ∃ cap listed, (host.resolveDepth (depth.map Int.ofNat)).2 = .ok cap ∧
      Route.rows m cap = .ok listed ∧
      (routesPlan host layout depth sorted references m).printed =
        (printRows host layout (selectRows sorted references listed)).printed := by
  unfold routesPlan withDepth at h ⊢
  rw [Plan.ending_after] at h
  obtain ⟨cap, hcap, heq⟩ := Plan.ofResult_ending h
  rw [heq, Plan.ending_after] at h
  rw [Plan.printed_after, printedBy_of_silent (silent_lookUp _), String.empty_append, heq]
  obtain ⟨listed, hlisted, heq⟩ := Plan.ofResult_ending h
  refine ⟨cap, listed, hcap, hlisted, ?_⟩
  rw [Plan.printed_after, printedBy_of_silent (silent_tell _), String.empty_append, heq,
    Plan.printed_after, printedBy_of_silent (silent_tell _), String.empty_append]

theorem printed_printRows (rows : List Row) :
    (printRows host (.text .json) rows).printed =
      if rows.isEmpty then ""
      else line (Json.write Json.Style.listing (.list (rows.map rowObject))) := by
  unfold printRows
  split
  · rfl
  · rw [printListing, printed_putOut, texts_rows]
    exact String.empty_append

/-- A walk through a model that was extracted has a row for each node that it hands out. -/
theorem exists_shown {version : String} {d : Schema.Document}
    (h : Schema.extract version d = .ok m) {cap : Nat} {listed : List Row}
    (hlisted : Route.rows m cap = .ok listed) :
    ∃ w nodes, Walk.start m cap = .ok w ∧ w.Lists nodes ∧ List.Forall₂ (Shows m) nodes listed ∧
      (nodes ≠ [] → ∃ n ∈ nodes, n.above = []) := by
  have hm := Schema.closed_of_extract h
  obtain ⟨w, hw⟩ := (Route.exists_walk_iff hm cap).mpr (Schema.exists_rootContainer_of_extract h)
  obtain ⟨rs, hrs, hlists, hlisting⟩ := Route.lists_forest hm hw
  rw [Route.rows_eq_mapM hlisting] at hlisted
  refine ⟨w, _, hw, hlists, (mapM_eq_ok.mp hlisted).imp fun n r => shows_of_row, fun hnodes => ?_⟩
  obtain ⟨n, hn⟩ := List.exists_mem_of_ne_nil _ hnodes
  obtain ⟨root, hroot, _⟩ := (Route.mem_forest_roots_iff hm hrs).mp hn
  have hdepth := Route.depth_of_mem_roots hrs hroot
  refine ⟨root, (Route.mem_forest_roots_iff hm hrs).mpr ⟨root, hroot, .refl⟩, ?_⟩
  exact List.length_eq_zero_iff.mp (Nat.succ.inj hdepth)

/-- Where a root is listed, its row remains. -/
theorem selectRows_eq_nil_iff {nodes : List Node} {listed : List Row}
    (h : List.Forall₂ (Shows m) nodes listed) (hroot : nodes ≠ [] → ∃ n ∈ nodes, n.above = [])
    (sorted references : Bool) : selectRows sorted references listed = [] ↔ nodes = [] := by
  constructor
  · intro hnone
    by_contra hnodes
    obtain ⟨n, hn, habove⟩ := hroot hnodes
    obtain ⟨r, hr, hshows⟩ := (Shuffled.of_forall₂ h).exists_mem hn
    have hremains := List.mem_filter.mpr ⟨hr, remains_of_root hshows habove references⟩
    rw [← (selectRows_perm sorted references listed).mem_iff, hnone] at hremains
    cases hremains
  · rintro rfl
    cases h
    exact (selectRows_perm sorted references []).eq_nil

theorem extracted_of_loadModel {source : String} (h : host.loadModel feed source = .ok m) :
    ∃ version d, Schema.extract version d = .ok m := by
  rw [Host.loadModel_eq] at h
  obtain ⟨d, _, h⟩ := bind_eq_ok.mp h
  obtain ⟨version, _, h⟩ := bind_eq_ok.mp h
  exact ⟨version, d, h⟩

/-- The rows that a listing shows of some nodes: of the schema that counts there is a model, a walk
through it as deep as counts hands out the nodes, each node has its row, and of these rows the ones
remain that are not left out as references, in the order of the walk or in that of their paths. -/
def ShowsRows (host : Host) (feed : Host.Feed) (schema : Option String) (depth : Option Nat)
    (sorted references : Bool) (nodes : List Node) (shown : List Row) : Prop :=
  ∃ source m cap w listed, (host.resolveSchema schema).2 = .ok source ∧
    host.loadModel feed source = .ok m ∧ (host.resolveDepth (depth.map Int.ofNat)).2 = .ok cap ∧
    Walk.start m cap = .ok w ∧ w.Lists nodes ∧ List.Forall₂ (Shows m) nodes listed ∧
    (sorted = false → shown = listed.filter (remains references)) ∧
    (sorted = true → shown = Route.byPath (listed.filter (remains references)))

/-- **Listings as JSON are read back.** What a listing has printed that was asked for as JSON and ended
with success: if any rows remain, the text of one list, which is read back as the list of their
objects, one for each row in order. If none remain, nothing, and that is so exactly where there are no
nodes. -/
theorem json_listing_reads_back {isTerminal : Bool} {i : Invocation} {schema : Option String}
    {depth : Option Nat} {sorted references : Bool} (hjson : i.globals.json = true)
    (hrequest : i.request = .ok (.routes schema depth sorted references))
    (hcode : (run host feed isTerminal i).exitCode = ExitCode.success) :
    ∃ nodes shown, ShowsRows host feed schema depth sorted references nodes shown ∧
      (shown ≠ [] → (run host feed isTerminal i).output =
          line (Json.write Json.Style.listing (.list (shown.map rowObject))) ∧
        Json.read (run host feed isTerminal i).output = .ok (.list (shown.map rowObject))) ∧
      (shown = [] → (run host feed isTerminal i).output = "") ∧ (shown = [] ↔ nodes = []) := by
  have hrun : run host feed isTerminal i =
      (withModel host feed schema (routesPlan host (.text .json) depth sorted references)).perform
        (consoleOf host i.globals) host := by
    rw [run, chooseFormat, if_pos hjson, hrequest]
    rfl
  rw [hrun] at hcode ⊢
  obtain ⟨hending, houtput⟩ := Plan.perform_of_success hcode
  obtain ⟨source, m, hsource, hm, hending, hprinted⟩ := withModel_ending hending
  obtain ⟨cap, listed, hcap, hlisted, hrows⟩ := routesPlan_ending hending
  obtain ⟨version, d, hextract⟩ := extracted_of_loadModel hm
  obtain ⟨w, nodes, hw, hlists, hshown, hroot⟩ := exists_shown hextract hlisted
  obtain ⟨htraversal, hsorted⟩ := selectRows_eq references listed
  have hnone := selectRows_eq_nil_iff hshown hroot sorted references
  rw [hprinted, hrows, printed_printRows] at houtput
  refine ⟨nodes, selectRows sorted references listed, ⟨source, m, cap, w, listed, hsource, hm, hcap, hw,
    hlists, hshown, ?_, ?_⟩, fun hsome => ?_, fun hempty => ?_, hnone⟩
  · rintro rfl
    exact htraversal
  · rintro rfl
    exact hsorted
  · have hempty : (selectRows sorted references listed).isEmpty = false := by simpa using hsome
    rw [hempty, if_neg Bool.false_ne_true] at houtput
    rw [houtput]
    exact ⟨rfl, read_rowObjects _⟩
  · rw [houtput, hempty]
    rfl

/-- A host without files whose environment asks for output without colour. -/
def bareHost : Host :=
  ⟨⟨"/", []⟩, [("NO_COLOR", "")], "Linux", "/root", "20240101-000000", [], .standard⟩

/-- A listing as JSON of the schema on the standard input. -/
def listingOfInput (references : Bool) : Invocation :=
  ⟨{ json := true }, .ok (.routes (some "-") (some 2) false references)⟩

/-- A schema with a hall. -/
def hallSchema : Host.Feed :=
  ⟨"\x7b\"$Version\":\"4.0\",\"$EntityContainer\":\"h.all\",\"h\":\x7b\"all\":\x7b\"$Kind\":" ++
    "\"EntityContainer\",\"hall\":\x7b\"$Type\":\"h.t\"\x7d\x7d,\"t\":\x7b\"$Kind\":\"EntityType\"\x7d\x7d\x7d",
   .noResponse "offline"⟩

/-- The row of the hall. -/
def hallRow : Row := ⟨"/hall", 1, "h.t", .singleton⟩

theorem hallSchema_listed :
    (run bareHost hallSchema false (listingOfInput false)).exitCode = ExitCode.success ∧
      (run bareHost hallSchema false (listingOfInput false)).output =
        line (Json.write Json.Style.listing (.list [rowObject hallRow])) := by decide +kernel

/-- One row remains, that of the hall, and it is read back. -/
theorem hallSchema_reads_back : ∃ nodes shown,
    ShowsRows bareHost hallSchema (some "-") (some 2) false false nodes shown ∧
      nodes ≠ [] ∧ shown ≠ [] ∧ shown.map rowObject = [rowObject hallRow] ∧
      (run bareHost hallSchema false (listingOfInput false)).output =
        line (Json.write Json.Style.listing (.list (shown.map rowObject))) ∧
      Json.read (run bareHost hallSchema false (listingOfInput false)).output =
        .ok (.list (shown.map rowObject)) := by
  obtain ⟨hcode, houtput⟩ := hallSchema_listed
  obtain ⟨nodes, shown, hshows, hsome, hnone, hempty⟩ :=
    json_listing_reads_back rfl rfl hcode
  have hshown : shown ≠ [] := by
    intro h
    have hprinted := houtput.symm.trans (hnone h)
    rw [line, String.append_eq_empty_iff] at hprinted
    exact absurd hprinted.2 (by decide)
  obtain ⟨htext, hread⟩ := hsome hshown
  have hobjects : shown.map rowObject = [rowObject hallRow] := by
    have hhall := read_rowObjects [hallRow]
    rw [List.map_singleton, ← houtput, hread] at hhall
    exact Value.list.inj (Except.ok.inj hhall)
  exact ⟨nodes, shown, hshows, mt hempty.mpr hshown, hshown, hobjects, htext, hread⟩

/-- A schema whose entity container is empty. -/
def emptySchema : Host.Feed :=
  ⟨"\x7b\"$Version\":\"4.0\",\"$EntityContainer\":\"s.root\",\"s\":\x7b\"root\":\x7b\"$Kind\":" ++
    "\"EntityContainer\"\x7d\x7d\x7d",
   .noResponse "offline"⟩

/-- Without rows the listing of an empty container ends with success, but it prints nothing, which
cannot be read as JSON. -/
theorem empty_container_prints_nothing :
    (run bareHost emptySchema false (listingOfInput true)).exitCode = ExitCode.success ∧
      (run bareHost emptySchema false (listingOfInput true)).output = "" ∧
      ∀ v, Json.read (run bareHost emptySchema false (listingOfInput true)).output ≠ .ok v := by
  have hlisted : (run bareHost emptySchema false (listingOfInput true)).exitCode =
      ExitCode.success ∧ (run bareHost emptySchema false (listingOfInput true)).output = "" := by
    decide +kernel
  obtain ⟨hcode, houtput⟩ := hlisted
  refine ⟨hcode, houtput, fun v h => ?_⟩
  rw [houtput] at h
  cases h

end CsdlRoutes.Command
