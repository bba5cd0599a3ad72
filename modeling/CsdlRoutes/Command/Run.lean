import CsdlRoutes.Command.Line
import CsdlRoutes.Command.Plan
import CsdlRoutes.Command.Usage
import CsdlRoutes.Host.SchemaSource
import CsdlRoutes.Route.Row
import CsdlRoutes.Schema.Overview

/-!
# Running commands

What each command does: listing the routes of a schema, looking into its types, and showing, setting
and resetting the settings of the user.

* `Request.plan` is the plan of a command.
* `chooseFormat` heeds the general options, before the words behind them are looked at.
* `run` works out a command and carries it out.
-/

namespace CsdlRoutes.Command

open Host (Feed)
open Output (Console Form Format Layout Listing Message)
open Schema (Model SchemaType)

/-! ## Schemas -/

/-- The part of the library that gives notices when a tree is listed. -/
def listingSource : String := "routetree.generator.route_tree"

/-- What is done before a setting is known: where nothing above the settings of the user is set, the
directory for them is made. -/
def lookUp {α : Type} (aboveUser : Except Failure (Option α)) : List Deed :=
  match aboveUser with
  | .ok none => [.makeConfigDirectory]
  | _ => []

/-- Finds the schema that counts, and goes on with it. -/
def withSchema (host : Host) (schema : Option String) (next : String → Plan) : Plan :=
  (Plan.ofResult (host.resolveSchema schema).2 next).after
    (lookUp (Settings.schemaAboveUser? host.sources schema))

/-- Finds the greatest number of segments that counts, and goes on with it. -/
def withDepth (host : Host) (depth : Option Int) (next : Nat → Plan) : Plan :=
  (Plan.ofResult (host.resolveDepth depth).2 next).after
    (lookUp (Settings.depthAboveUser? host.sources depth))

/-- Loads the model of the schema that counts, and goes on with it. -/
def withModel (host : Host) (feed : Feed) (schema : Option String) (next : Model → Plan) : Plan :=
  withSchema host schema fun source =>
    let (notices, model) := host.readModel feed source
    (Plan.ofResult model next).after <|
      .tell (.debug s!"Loading schema from {source}") :: notices.map .note

/-! ## Listings -/

/-- Prints data as texts, one after the other, or as the drawing of a listing. -/
def putOut (host : Host) (layout : Layout) (texts : Form → List String) (drawn : Listing) : Plan :=
  match layout with
  | .text form => .done ((texts form).map .print)
  | .drawing isPlain =>
    let drawing := (host.equipment.draw isPlain drawn).mapError fun fault => .accident (.mark fault)
    .ofResult drawing fun text => .done [.print text]

/-- Prints a listing. -/
def printListing (host : Host) (layout : Layout) (l : Listing) : Plan :=
  putOut host layout l.texts l

/-- The rows that are listed. -/
def selectRows (sorted references : Bool) (rows : List Route.Row) : List Route.Row :=
  let rows := if references then rows else Route.withoutReferences rows
  if sorted then Route.byPath rows else rows

/-- Prints a listing of routes. Without rows there is only a message. -/
def printRows (host : Host) (layout : Layout) (rows : List Route.Row) : Plan :=
  if rows.isEmpty then .done [.tell (.info "The entity container exposes no routes.")]
  else
    printListing host layout
      ⟨s!"Routes ({rows.length})", Route.Row.headers, rows.map Route.Row.cells⟩

/-- Lists the routes of a model. -/
def routesPlan (host : Host) (layout : Layout) (depth : Option Nat) (sorted references : Bool)
    (m : Model) : Plan :=
  withDepth host (depth.map Int.ofNat) fun cap =>
    let listed := Plan.ofResult (Route.rows m cap) fun rows =>
      (printRows host layout (selectRows sorted references rows)).after
        [.tell (.log listingSource s!"Route tree complete: {rows.length} nodes, max depth {cap}")]
    listed.after [.tell (.debug s!"Building route tree with max depth {cap}")]

/-- Lists the types of a model. -/
def typesPlan (host : Host) (layout : Layout) (m : Model) : Plan :=
  .ofResult m.typeRows fun rows =>
    printListing host layout ⟨s!"Types ({rows.length})", Schema.typeHeaders, rows⟩

/-- Lists the segments that a type of a model offers. -/
def segmentsPlan (host : Host) (layout : Layout) (typeName : String) (m : Model) : Plan :=
  match m.findType? typeName with
  | none =>
    ⟨[.tell (.error s!"Unknown or ambiguous type: {typeName}"),
      .tell (.suggestion "List the available types with: routetree inspect types")],
     .exit ExitCode.invalidUsage⟩
  | some t =>
    .ofResult (m.segmentRows t) fun rows =>
      printListing host layout
        ⟨s!"{t.name} -- Segments ({rows.length})", Schema.segmentHeaders, rows⟩

/-! ## Settings -/

/-- Shows the settings of the user. -/
def showPlan (host : Host) (layout : Layout) : Plan :=
  let shown := Plan.ofResult host.configPath fun directory =>
    .ofResult host.globalSettings.2 fun s =>
      (putOut host layout (Output.settingsTexts · s.toMembers)
          (Output.settingsListing s.toMembers)).after
        [.tell (.info s!"Config directory: {directory.text}")]
  shown.after [.makeConfigDirectory]

/-- Sets a field of the settings of the user. -/
def setPlan (host : Host) (key value : String) : Plan :=
  match Settings.setters.lookup key with
  | none =>
    let keys := ", ".intercalate (Settings.setters.map Prod.fst)
    ⟨[.tell (.error s!"Unknown config key: {key} (expected one of: {keys})")],
     .exit ExitCode.invalidUsage⟩
  | some setter =>
    let stored := Plan.ofResult (host.globalSettings.2.bind fun s => setter s value) fun s =>
      .done [.save s, .tell (.success s!"Set {key} = {value}")]
    stored.after [.makeConfigDirectory]

/-- The lines of a text. -/
def linesOf (cs : List Char) : List String :=
  go [] cs
where
  /-- The lines of a text, given what was read of the first one, last first. -/
  go (read : List Char) : List Char → List String
    | [] => if read.isEmpty then [] else [String.ofList read.reverse]
    | c :: rest =>
      if c == '\n' then String.ofList read.reverse :: go [] rest else go (c :: read) rest

/-- What a line answers to a question, if it is an answer. No answer is the answer no. -/
def readReply? (line : String) : Option Bool :=
  let word := Text.strip (Text.lower line)
  if word == "y" || word == "yes" then some true
  else if word == "n" || word == "no" || word.isEmpty then some false
  else none

/-- Asks a question until it is answered by one of some lines. -/
def askPlan (question : String) (next : Bool → Plan) : List String → Plan
  | [] => ⟨[.print question], .aborted⟩
  | line :: rest =>
    match readReply? line with
    | some reply => (next reply).after [.print question]
    | none => (askPlan question next rest).after
        [.print question, .print "Error: invalid input\n"]

/-- Resets the settings of the user. -/
def resetPlan (feed : Feed) (force : Bool) : Plan :=
  let reset (confirmed : Bool) : Plan :=
    if confirmed then
      .done [.save Settings.defaults, .tell (.success "Configuration reset to defaults.")]
    else .done [.tell (.info "Cancelled.")]
  if force then reset true
  else askPlan "Reset all config to defaults? [y/N]: " reset (linesOf feed.input.toList)

/-! ## Commands -/

/-- What a command does. -/
def Request.plan (host : Host) (feed : Feed) (layout : Layout) : Request → Plan
  | .routes schema depth sorted references =>
    withModel host feed schema (routesPlan host layout depth sorted references)
  | .types schema => withModel host feed schema (typesPlan host layout)
  | .segments typeName schema => withModel host feed schema (segmentsPlan host layout typeName)
  | .showSettings => showPlan host layout
  | .set key value => setPlan host key value
  | .reset force => resetPlan feed force

/-- Whether output is without colour. -/
def isPlain (host : Host) (g : Globals) : Bool :=
  g.noColor || Output.asksPlain (host.environmentValue? "NO_COLOR") (host.environmentValue? "TERM")

/-- The console that the general options ask for. -/
def consoleOf (host : Host) (g : Globals) : Console :=
  ⟨isPlain host g, g.quiet, g.verbose, Output.widthOf (host.environmentValue? "COLUMNS")⟩

/-- The format that the general options and the settings of the user choose. Settings that are wrong
choose none. -/
def chooseFormat (host : Host) (g : Globals) : Host × Except Failure Format :=
  if g.json then (host, .ok .json)
  else if g.plain then (host, .ok .plain)
  else
    match host.globalSettings with
    | (host, .ok s) => (host, .ok s.format)
    | (host, .error (.setting _)) => (host, .ok .auto)
    | (host, .error failure) => (host, .error failure)

/-- The plan that a command line leads to, if it does lead to one. -/
def Invocation.plan? (host : Host) (feed : Feed) (isTerminal : Bool) (i : Invocation) :
    Option Plan :=
  match chooseFormat host i.globals, i.request with
  | (host, .ok format), .ok request =>
    some (request.plan host feed (format.resolve isTerminal (isPlain host i.globals)))
  | _, _ => none

/-- What the words behind the general options come to, on a host where these are heeded. -/
def answerRequest (host : Host) (feed : Feed) (layout : Layout) (c : Console) :
    Except Usage Request → Outcome
  | .error usage => usage.outcome host
  | .ok request => (request.plan host feed layout).perform c host

/-- Runs a command. What goes wrong before the general options are heeded is told by a console that
knows nothing of them. -/
def run (host : Host) (feed : Feed) (isTerminal : Bool) (i : Invocation) : Outcome :=
  match chooseFormat host i.globals with
  | (host, .error failure) => (Progress.start host).crash (consoleOf host {}) failure
  | (host, .ok format) =>
    answerRequest host feed (format.resolve isTerminal (isPlain host i.globals))
      (consoleOf host i.globals) i.request

end CsdlRoutes.Command
