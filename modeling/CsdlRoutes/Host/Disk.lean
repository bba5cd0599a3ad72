import CsdlRoutes.Failure
import CsdlRoutes.Host.Path
import CsdlRoutes.Table

/-!
# Disks

A disk holds directories and files by their places. A path is followed part by part, and each part is
looked up in the directory that was reached: a path that passes through a file, or through what is not
there, leads nowhere, even if double dots would lead back at once.

* `Disk.locate` is the place that a path leads to, whether something stands there or not.
* `Disk.file?` reads a file, `Disk.store` writes one.
* `Disk.makeDirectories` makes a directory together with those above it.
-/

namespace CsdlRoutes.Host

/-- Rows of bytes are compared byte by byte. -/
instance bytesDecidableEq : DecidableEq ByteArray := ByteArray.instDecidableEq

/-- What stands at a place. -/
inductive Entry where
  | directory
  | file (bytes : ByteArray)
  deriving DecidableEq

/-- Directories and files by their places. -/
abbrev Disk := Table Entry

namespace Disk

/-! ## Places -/

/-- The greatest number of bytes of a name. -/
def longestName : Nat := 255

/-- The greatest number of bytes of a path. -/
def longestPath : Nat := 4095

/-- The place at the end of a row of names, from the root on. -/
def placeOf (names : List String) : Path := ⟨"/", names⟩

/-- What stands at a place. The root is always a directory. -/
def entry? (disk : Disk) (place : Path) : Option Entry :=
  if place.parts.isEmpty then some .directory else disk.get? place.text

/-- Follows parts from a place on. Each is looked up in a directory, and double dots lead back. -/
def follow (disk : Disk) (reached : List String) : List String → Except StorageFault (List String)
  | [] => .ok reached
  | part :: rest =>
    match disk.entry? (placeOf reached) with
    | none => .error .missing
    | some (.file _) => .error .noDirectory
    | some .directory =>
      if part == ".." then disk.follow reached.dropLast rest
      else if longestName < part.utf8ByteSize then .error .tooLong
      else disk.follow (reached ++ [part]) rest

/-- The place that a path leads to from a directory. -/
def locate (disk : Disk) (directory p : Path) : Except StorageFault Path :=
  if p.text.toList.contains '\x00' then .error .unusableCharacter
  else if longestPath < p.text.utf8ByteSize then .error .tooLong
  else (disk.follow [] (directory.join p).parts).map placeOf

/-! ## Reading -/

/-- The file at a path, if there is one. Where a path leads nowhere there is none, but a path that is
too long is a fault. -/
def file? (disk : Disk) (directory p : Path) : Except StorageFault (Option ByteArray) :=
  match disk.locate directory p with
  | .ok place =>
    match disk.entry? place with
    | some (.file bytes) => .ok (some bytes)
    | _ => .ok none
  | .error .tooLong => .error .tooLong
  | .error _ => .ok none

/-- Whether a directory is at a path. -/
def hasDirectory (disk : Disk) (directory p : Path) : Bool :=
  match disk.locate directory p with
  | .ok place =>
    match disk.entry? place with
    | some .directory => true
    | _ => false
  | .error _ => false

/-! ## Writing -/

/-- Writes a file. -/
def store (disk : Disk) (directory p : Path) (bytes : ByteArray) : Except StorageFault Disk :=
  match disk.locate directory p with
  | .error fault => .error fault
  | .ok place =>
    match disk.entry? place with
    | some .directory => .error .isDirectory
    | _ => .ok (disk.put place.text (.file bytes))

/-- Makes a directory in one that is there. -/
def makeDirectory (disk : Disk) (directory p : Path) : Except StorageFault Disk :=
  match disk.locate directory p with
  | .error fault => .error fault
  | .ok place =>
    match disk.entry? place with
    | some _ => .error .occupied
    | none => .ok (disk.put place.text .directory)

/-- Makes a directory, unless it is there already. -/
def ensureDirectory (disk : Disk) (directory p : Path) : Except StorageFault Disk :=
  match disk.makeDirectory directory p with
  | .ok made => .ok made
  | .error fault => if disk.hasDirectory directory p then .ok disk else .error fault

/-- Makes a directory together with those above it, as far as they are not there. What was made stays
when one of them cannot be made. -/
def makeDirectories (disk : Disk) (directory p : Path) : Disk × Except StorageFault Unit :=
  match disk.ensureDirectory directory p with
  | .ok disk => (disk, .ok ())
  | .error .missing =>
    if h : p.parts = [] then (disk, .error .missing)
    else
      have : p.parent.parts.length < p.parts.length := by
        simpa [Path.parent] using Nat.sub_lt (List.length_pos_iff.2 h) Nat.one_pos
      match disk.makeDirectories directory p.parent with
      | (disk, .error fault) => (disk, .error fault)
      | (disk, .ok ()) =>
        match disk.ensureDirectory directory p with
        | .ok disk => (disk, .ok ())
        | .error fault => (disk, .error fault)
  | .error fault => (disk, .error fault)
termination_by p.parts.length

end Disk

end CsdlRoutes.Host
