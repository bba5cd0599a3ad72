import CsdlRoutes.Command.Run
import CsdlRoutes.Command.Usage
import Std.Time.Format

/-!
# The program

Gathers what a command sees of its host, works the command out, and hands on what has come of it: the
texts on the two outputs, the files that are new, and the exit code. Servers are out of its reach.
-/

namespace CsdlRoutes.Main

open Command (Invocation Outcome Request)
open Host (Answer Path)

/-- The variables that a command may look at. -/
def environmentNames : List String :=
  ["HOME", "XDG_CONFIG_HOME", "XDG_DATA_HOME", "NO_COLOR", "TERM", "COLUMNS", Settings.depthVariable,
   Settings.schemaVariable]

/-- The variables of the host. -/
def readEnvironment : IO (Table String) :=
  environmentNames.filterMapM fun name => do
    return (← IO.getEnv name).map fun value => (name, value)

/-- The name of the platform. -/
def readPlatform : IO String := do
  try return Text.strip (← IO.FS.readFile "/proc/sys/kernel/ostype")
  catch _ => return "unknown"

/-- Adds what stands at a place. -/
def withPlace (host : Host) (place : Path) : IO Host := do
  let path := (← IO.currentDir) / place.text
  if ← path.isDir then
    return { host with disk := host.disk.put place.text .directory }
  try
    let bytes ← IO.FS.readBinFile path
    return { host with disk := host.disk.put place.text (.file bytes) }
  catch _ => return host

/-- Adds what stands on the way along a path. -/
def withPath (host : Host) (p : Path) : IO Host := do
  let mut host := host
  let mut reached := []
  for part in (host.workingDirectory.join p).parts do
    reached := if part == ".." then reached.dropLast else reached ++ [part]
    host ← withPlace host (Host.Disk.placeOf reached)
  return host

/-- The ways of the host: all characters can be encoded but those that stand for half a pair. -/
def equipment : Host.Equipment :=
  { Host.Equipment.standard with encodes := fun c => !Text.isStandIn c }

/-- The host with the files of settings. -/
def readHost : IO Host := do
  let now ← Std.Time.PlainDateTime.now
  let host : Host :=
    { workingDirectory := Path.read (← IO.currentDir).toString
      environment := ← readEnvironment
      platform := ← readPlatform
      accountHome := "/"
      clock := now.format "uuuuMMdd-HHmmss"
      disk := []
      equipment }
  let mut host ← withPath host (Path.read Settings.projectFileName)
  for path in [host.configPath.map Host.settingsFile, host.dataPath.map (·.child "logs")] do
    if let .ok p := path then host ← withPath host p
  return host

/-- What servers answer. -/
def offline : Answer := .noResponse "no connection"

/-- The schema that a command loads, given what its command line says about it. -/
def schemaSource? (host : Host) : Request → Option String
  | .routes schema _ _ _ | .types schema | .segments _ schema =>
    (Settings.resolveSchema host.sources schema).toOption
  | _ => none

/-- The host with the schema that a command loads, and what is on the standard input if the schema is
there. -/
def withSchema (host : Host) (request : Except Command.Usage Request) : IO (Host × String) := do
  match request.toOption.bind (schemaSource? host) with
  | none => return (host, "")
  | some "-" =>
    let bytes ← (← IO.getStdin).readBinToEnd
    return (host, (String.fromUTF8? bytes).getD "")
  | some source =>
    if Host.isUrl source then return (host, "")
    else return (← withPath host (Path.read source), "")

/-- Puts an entry in its place, a file by way of a temporary one. -/
def storeEntry (place : String) : Host.Entry → IO Unit
  | .directory => IO.FS.createDirAll place
  | .file bytes => do
    let temporary := place ++ ".tmp"
    IO.FS.writeBinFile temporary bytes
    IO.FS.rename temporary place

/-- Runs a command, and once more with a line of the standard input if a question is left without an
answer. -/
partial def perform (host : Host) (isTerminal : Bool) (i : Invocation) (printed input : String) :
    IO Outcome := do
  let feed : Host.Feed := ⟨input, offline⟩
  let outcome := Command.run host feed isTerminal i
  IO.print (outcome.output.drop printed.length)
  if (i.plan? host feed isTerminal).any (·.ending = .aborted) then
    (← IO.getStdout).flush
    let line ← (← IO.getStdin).getLine
    if !line.isEmpty then
      return ← perform host isTerminal i outcome.output (input ++ line)
  return outcome

end CsdlRoutes.Main

open CsdlRoutes CsdlRoutes.Main in
/-- Runs the program with the words of a command line. -/
def main (args : List String) : IO UInt32 := do
  match Command.readCommandLine args with
  | .error usage =>
    IO.print usage.output
    IO.eprint usage.errors
    return usage.exitCode.toUInt32
  | .ok i =>
    let isTerminal ← (← IO.getStdout).isTty
    let (host, input) ← withSchema (← readHost) i.request
    let outcome ← perform host isTerminal i "" input
    IO.eprint outcome.errors
    for (place, entry) in outcome.host.disk do
      if host.disk.get? place != some entry then storeEntry place entry
    if let some failure := outcome.unreported then IO.eprintln failure.message
    return outcome.exitCode.toUInt32
