import CsdlRoutes.Host.Path
import CsdlRoutes.Host.Replacement
import CsdlRoutes.Output.Listing
import CsdlRoutes.Schema.Document
import CsdlRoutes.Settings.Precedence

/-!
# The host of a command

A command sees a working directory, an environment, the name of the platform and the disk of its
host. A host also has its own ways to read documents, to encode what is printed, and to draw listings
on a terminal. What is brought in from outside while a command runs, the text on the standard input
and the answer of a server, comes with each command.

* `Host.Equipment` are the ways of a host; `Host.prints` says which texts can be printed.
* `Host.file?` reads a file, `Host.store`, `Host.replace` and `Host.makeDirectories` change the disk.
* `Host.configDirectory` and `Host.dataDirectory` are where settings and logs are kept.
* `Host.globalSettings` reads the settings of the user, `Host.saveSettings` stores them.
* `Host.resolveDepth` and `Host.resolveSchema` find the setting that counts.
-/

namespace CsdlRoutes

/-- The ways in which a host reads documents and puts out data. -/
structure Host.Equipment where
  readers : Schema.Readers
  /-- The characters that can be encoded on the standard output. -/
  encodes : Char → Bool
  /-- The drawing of a listing, with colour or without, unless a mark stands against it. -/
  draw : Bool → Output.Listing → Except Output.MarkFault String

/-- What a command sees of its host. -/
structure Host where
  workingDirectory : Host.Path
  environment : Table String
  platform : String
  /-- The home directory of the account, where the environment names none. -/
  accountHome : String
  /-- The time as it stands in the names of logs. -/
  clock : String
  disk : Host.Disk
  equipment : Host.Equipment

namespace Host

/-- The readers of this library, an output for all characters, and drawings without frames. -/
def Equipment.standard : Equipment :=
  ⟨.standard, fun _ => true, fun _ listing => listing.bareDrawing⟩

/-- What a server answers. -/
inductive Answer where
  | response (status : Int) (contentType : String) (body : ByteArray)
  | noResponse (reason : String)
  deriving DecidableEq

/-- What is brought in from outside while a command runs. -/
structure Feed where
  input : String
  answer : Answer

/-- Whether a text can be printed on the standard output. -/
def prints (host : Host) (text : String) : Bool := text.toList.all host.equipment.encodes

/-! ## The disk -/

variable {α β : Type}

/-- Goes on with a result on the host that was left, unless there is a failure. -/
def andThen (state : Host × Except Failure α) (next : Host → α → Host × Except Failure β) :
    Host × Except Failure β :=
  match state with
  | (host, .ok a) => next host a
  | (host, .error failure) => (host, .error failure)

/-- The failure that a fault of storage is. -/
def ofStorage (result : Except StorageFault α) : Except Failure α :=
  result.mapError fun fault => .accident (.storage fault)

/-- The file at a path, if it is there. -/
def file? (host : Host) (p : Path) : Except Failure (Option ByteArray) :=
  ofStorage (host.disk.file? host.workingDirectory p)

/-- Makes a directory together with those above it. -/
def makeDirectories (host : Host) (p : Path) : Host × Except Failure Unit :=
  let (disk, result) := host.disk.makeDirectories host.workingDirectory p
  ({ host with disk }, ofStorage result)

/-- Writes a file in a directory that is there. -/
def write (host : Host) (p : Path) (bytes : ByteArray) : Host × Except Failure Unit :=
  match host.disk.store host.workingDirectory p bytes with
  | .ok disk => ({ host with disk }, .ok ())
  | .error fault => (host, .error (.accident (.storage fault)))

/-- Writes a file, and makes the directory for it. -/
def store (host : Host) (p : Path) (bytes : ByteArray) : Host × Except Failure Unit :=
  andThen (host.makeDirectories p.parent) fun host _ => host.write p bytes

/-- The place of a target and that of its temporary file. -/
def replacementPlaces (host : Host) (p : Path) : Except StorageFault (Path × Path) := do
  let temporary ← temporaryPath? host.disk host.workingDirectory p
  let place ← host.disk.locate host.workingDirectory p
  return (place, temporary)

/-- Replaces the file at a path, in a directory that is there. -/
def replaceInDirectory (host : Host) (p : Path) (data : ByteArray) (d : Disturbance) :
    Host × Except Failure Unit :=
  match host.replacementPlaces p with
  | .error fault => (host, .error (.accident (.storage fault)))
  | .ok (place, temporary) =>
    let (disk, result) :=
      replaceFile host.disk place temporary data (obstacle? host.disk p place) d
    ({ host with disk }, result)

/-- Replaces the file at a path, and makes the directory for it. -/
def replace (host : Host) (p : Path) (text : String) (d : Disturbance) :
    Host × Except Failure Unit :=
  andThen (host.makeDirectories p.parent) fun host _ => host.replaceInDirectory p text.toUTF8 d

/-! ## Directories -/

/-- The value of a variable. -/
def environmentValue? (host : Host) (name : String) : Option String := host.environment.get? name

/-- A path without the slashes at its end. -/
def withoutLastSlashes (s : String) : String :=
  String.ofList (s.toList.reverse.dropWhile (· == '/')).reverse

/-- The home directory. A name that starts with a tilde stands for a home directory itself, so none is
known by it. -/
def home (host : Host) : Except Failure Path :=
  let named := withoutLastSlashes ((host.environmentValue? "HOME").getD host.accountHome)
  if "~".toList.isPrefixOf named.toList then .error (.accident .noHome)
  else .ok (Path.read (if named.isEmpty then "/" else named))

/-- Whether the platform keeps settings and data in directories that the environment names. -/
def hasBaseDirectories (host : Host) : Bool :=
  host.platform == "Linux" || "BSD".toList.isSuffixOf host.platform.toList

/-- A directory that a variable names, or else a place below the home directory. -/
def baseDirectory (host : Host) (name : String) (fallback : List String) : Except Failure Path :=
  match Settings.setText? (host.environmentValue? name) with
  | some s => .ok (Path.read s)
  | none => host.home.map (fallback.foldl Path.child)

/-- The name of the program, in the names of its directories. -/
def programName : String := "routetree"

/-- The directory of settings. -/
def configPath (host : Host) : Except Failure Path :=
  if host.hasBaseDirectories then
    (host.baseDirectory "XDG_CONFIG_HOME" [".config"]).map (·.child programName)
  else host.home.map (·.child ("." ++ programName))

/-- The directory of data. -/
def dataPath (host : Host) : Except Failure Path :=
  if host.hasBaseDirectories then
    (host.baseDirectory "XDG_DATA_HOME" [".local", "share"]).map (·.child programName)
  else host.home.map fun home => (home.child ("." ++ programName)).child "logs"

/-- A directory that is made where it is not there. -/
def madeDirectory (host : Host) (path : Except Failure Path) : Host × Except Failure Path :=
  andThen (host, path) fun host path =>
    andThen (host.makeDirectories path) fun host _ => (host, .ok path)

/-- The directory of settings, which is made where it is not there. -/
def configDirectory (host : Host) : Host × Except Failure Path :=
  host.madeDirectory host.configPath

/-- The directory of data, which is made where it is not there. -/
def dataDirectory (host : Host) : Host × Except Failure Path :=
  host.madeDirectory host.dataPath

/-- Records an unexpected failure in a log, and yields the path of the log. -/
def recordCrash (host : Host) (text : String) : Host × Except Failure Path :=
  andThen host.dataDirectory fun host data =>
    andThen (host.madeDirectory (.ok (data.child "logs"))) fun host logs =>
      let log := logs.child ("crash-" ++ host.clock ++ ".log")
      andThen (host.write log text.toUTF8) fun host _ => (host, .ok log)

/-! ## Settings -/

/-- The file of settings in a directory. -/
def settingsFile (directory : Path) : Path := directory.child "config.json"

/-- The settings of the user in a directory. -/
def settingsIn (host : Host) (directory : Path) : Except Failure Settings := do
  let path := settingsFile directory
  Settings.ofFile path.text (← host.file? path)

/-- The settings of the user. The directory for them is made where it is not there. -/
def globalSettings (host : Host) : Host × Except Failure Settings :=
  andThen host.configDirectory fun host directory => (host, host.settingsIn directory)

/-- Stores the settings of the user. -/
def saveSettings (host : Host) (s : Settings) (d : Disturbance) : Host × Except Failure Unit :=
  andThen host.configDirectory fun host directory =>
    host.replace (settingsFile directory) s.fileText d

/-- The settings of the project in the working directory. -/
def projectSettings (host : Host) : Except Failure (Option Members) := do
  let path := host.workingDirectory.child Settings.projectFileName
  Settings.projectSettings path.text (← host.file? path)

/-- All sources of settings but the command line. -/
def sources (host : Host) : Settings.Sources :=
  ⟨host.environmentValue?, host.projectSettings, host.globalSettings.2⟩

/-- Goes on with the settings of the user where nothing above them is set. -/
def orOfUser (host : Host) (set : Except Failure (Option α))
    (ofUser : Settings → Except Failure α) : Host × Except Failure α :=
  andThen (host, set) fun host value? =>
    match value? with
    | some value => (host, .ok value)
    | none => andThen host.globalSettings fun host s => (host, ofUser s)

/-- The greatest number of segments that counts. -/
def resolveDepth (host : Host) (given : Option Int) : Host × Except Failure Nat :=
  host.orOfUser (Settings.depthAboveUser? host.sources given) Settings.depthOfUser

/-- The schema that counts. -/
def resolveSchema (host : Host) (given : Option String) : Host × Except Failure String :=
  host.orOfUser (Settings.schemaAboveUser? host.sources given) Settings.schemaOfUser

end Host

end CsdlRoutes
