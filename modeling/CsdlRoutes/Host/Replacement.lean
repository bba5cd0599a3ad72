import CsdlRoutes.Host.Disk

/-!
# Replacing files

A file is replaced as a whole: the data is written to a temporary file beside it, which then takes
its place. When a step fails, the temporary file is removed and the target stays as it was. Before
the removal a file that is still open is closed, and if that fails too, the removal is not reached.

* `replaceFile` is what becomes of the disk.
* `temporaryPath?` is where the temporary file is: at a path where nothing stands.
-/

namespace CsdlRoutes.Host

/-- A step of a replacement. -/
inductive ReplacementStep where
  | write
  | flush
  | sync
  | close
  | rename
  deriving DecidableEq, Repr

/-- What goes wrong during a replacement. -/
structure Disturbance where
  /-- The step that fails, if one does. -/
  failing : Option ReplacementStep
  /-- How many bytes were stored until the end, where the data could not be flushed. -/
  stored : Nat
  /-- Whether a file that a failure left open cannot be closed either. -/
  closingFails : Bool
  deriving DecidableEq, Repr

/-- Nothing goes wrong. -/
def Disturbance.none : Disturbance := ⟨.none, 0, false⟩

/-- Whether the temporary file is still open after a step failed. The step that closes a file closes
it even when it fails. -/
def ReplacementStep.leavesOpen : ReplacementStep → Bool
  | .write | .flush | .sync => true
  | .close | .rename => false

/-- What the temporary file holds in the end when a step fails: some of the data, as long as it is not
flushed. -/
def Disturbance.held (d : Disturbance) (data : ByteArray) : ReplacementStep → ByteArray
  | .write | .flush => data.extract 0 d.stored
  | .sync | .close | .rename => data

/-- What keeps a temporary file from taking the place of a target: a file takes the place of files
only, and a path without a name of its own leads to a directory in use. -/
def obstacle? (disk : Disk) (target place : Path) : Option StorageFault :=
  if target.name == "" || target.name == ".." then some .inUse
  else
    match disk.entry? place with
    | some .directory => some .isDirectory
    | _ => none

/-- Replaces the file at a place, by way of a temporary file at another place. -/
def replaceFile (disk : Disk) (place temporary : Path) (data : ByteArray)
    (obstacle : Option StorageFault) (d : Disturbance) : Disk × Except Failure Unit :=
  let removed := disk.erase temporary.text
  match d.failing, obstacle with
  | .none, .none => (removed.put place.text (.file data), .ok ())
  | .none, .some fault => (removed, .error (.accident (.storage fault)))
  | .some step, _ =>
    if step.leavesOpen && d.closingFails then
      (removed.put temporary.text (.file (d.held data step)),
        .error (.accident (.storage .notStored)))
    else (removed, .error (.accident (.storage .notStored)))

/-- The name of a temporary file: that of the target, and a number of eight digits. -/
def temporaryName (target : Path) (number : Nat) : String :=
  let digits := toString number
  "." ++ target.name ++ "." ++ "".pushn '0' (8 - digits.length) ++ digits ++ ".tmp"

/-- Where the temporary file for a target is: beside it, where nothing stands. -/
def temporaryPath? (disk : Disk) (directory target : Path) : Except StorageFault Path :=
  let place (number : Nat) : Except StorageFault Path :=
    disk.locate directory (target.parent.child (temporaryName target number))
  let isFree (number : Nat) : Bool :=
    match place number with
    | .ok p => (disk.entry? p).isNone
    | .error _ => false
  match (List.range (disk.length + 1)).find? isFree with
  | some number => place number
  | none => place 0 >>= fun _ => .error .occupied

end CsdlRoutes.Host
