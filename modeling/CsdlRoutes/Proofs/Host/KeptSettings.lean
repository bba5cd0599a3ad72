import CsdlRoutes.Host.Basic
import CsdlRoutes.Proofs.Host.DiskPlaces
import CsdlRoutes.Proofs.Settings.StoredRecord

/-!
# Settings that are kept

A host keeps settings when the directory for them is there or can be made, and a file can be put and
replaced in it. Reading and storing settings leave such a host as one, and what was stored last is in
the file.

* `Host.Keeps`: a host that keeps settings, with the bytes in the file.
* `Host.KeepsAt.globalSettings_eq`: what is read.
* `Host.KeepsAt.saveSettings_eq`, `Host.KeepsAt.stored_keeps`: what is stored.
-/

namespace CsdlRoutes.Host

open Disk

/-- The settings of a host are kept at a place: the directory for them is there or can be made, a file
with some bytes or nothing is at the place, and nothing where the temporary file goes. -/
structure KeepsAt (host made : Host) (directory place temporary : Path)
    (file? : Option ByteArray) : Prop where
  configured : host.configDirectory = (made, .ok directory)
  places : made.replacementPlaces (settingsFile directory) = .ok (place, temporary)
  free : made.disk.entry? temporary = none
  held : made.disk.entry? place = file?.map .file

/-- The settings of a host are kept in a file with some bytes, or in none so far. -/
def Keeps (host : Host) (file? : Option ByteArray) : Prop :=
  ∃ made directory place temporary, host.KeepsAt made directory place temporary file?

/-- The bytes of the file with the settings of the user, if it is there. -/
def settingsBytes (host : Host) : Except Failure (Option ByteArray) :=
  (andThen host.configDirectory fun host directory => (host, host.file? (settingsFile directory))).2

/-! ## The directory -/

variable {host made : Host} {directory place temporary : Path} {file? : Option ByteArray}

theorem makeDirectories_of_hasDirectory
    (h : host.disk.hasDirectory host.workingDirectory directory = true) :
    host.makeDirectories directory = (host, .ok ()) := by
  rw [makeDirectories, Disk.makeDirectories_of_hasDirectory h]
  rfl

/-- The directory of settings was made on the disk, and nothing else of the host has changed. -/
theorem configDirectory_eq_ok (h : host.configDirectory = (made, .ok directory)) :
    host.configPath = .ok directory ∧ (∃ disk, made = { host with disk }) ∧
      made.disk.hasDirectory made.workingDirectory directory = true := by
  rw [configDirectory, madeDirectory] at h
  cases hpath : host.configPath with
  | error failure =>
    rw [hpath] at h
    cases h
  | ok path =>
    rw [hpath] at h
    dsimp only [andThen] at h
    cases hmake : host.makeDirectories path with
    | mk made' result =>
      rw [hmake] at h
      cases result with
      | error failure => cases h
      | ok u =>
        cases h
        unfold makeDirectories at hmake
        cases hdisk : host.disk.makeDirectories host.workingDirectory directory with
        | mk disk outcome =>
          rw [hdisk] at hmake
          cases outcome with
          | error fault => cases hmake
          | ok u =>
            cases hmake
            exact ⟨rfl, ⟨disk, rfl⟩, Disk.hasDirectory_of_makeDirectories hdisk⟩

/-- The directory of settings below one that a variable names. -/
theorem configPath_of_variable (hbase : host.hasBaseDirectories = true) {text : String}
    (htext : Settings.setText? (host.environmentValue? "XDG_CONFIG_HOME") = some text) :
    host.configPath = .ok ((Path.read text).child programName) := by
  rw [configPath, if_pos hbase, baseDirectory, htext]
  rfl

theorem configDirectory_of_hasDirectory (hpath : host.configPath = .ok directory)
    (h : host.disk.hasDirectory host.workingDirectory directory = true) :
    host.configDirectory = (host, .ok directory) := by
  rw [configDirectory, madeDirectory, hpath]
  dsimp only [andThen]
  rw [makeDirectories_of_hasDirectory h]

theorem replacementPlaces_eq_ok {p : Path} (h : host.replacementPlaces p = .ok (place, temporary)) :
    temporaryPath? host.disk host.workingDirectory p = .ok temporary ∧
      host.disk.locate host.workingDirectory p = .ok place := by
  rw [replacementPlaces] at h
  obtain ⟨t, ht, h⟩ := bind_eq_ok.mp h
  obtain ⟨q, hq, h⟩ := bind_eq_ok.mp h
  cases h
  exact ⟨ht, hq⟩

/-- Once the directory is made, the settings of the user are those of the file in it. -/
theorem globalSettings_of_file (hmade : host.configDirectory = (made, .ok directory))
    (hfile : made.file? (settingsFile directory) = .ok file?) :
    host.globalSettings = (made, Settings.ofFile (settingsFile directory).text file?) := by
  rw [globalSettings, hmade]
  dsimp only [andThen]
  rw [settingsIn, hfile, ok_bind]

namespace KeepsAt

/-- What the host is like once the directory is made. -/
theorem host_made (h : host.KeepsAt made directory place temporary file?) :
    made.KeepsAt made directory place temporary file? := by
  obtain ⟨hpath, ⟨disk, rfl⟩, hthere⟩ := configDirectory_eq_ok h.configured
  exact ⟨configDirectory_of_hasDirectory hpath hthere, h.places, h.free, h.held⟩

theorem environment_made (h : host.KeepsAt made directory place temporary file?) :
    made.environment = host.environment := by
  obtain ⟨_, ⟨disk, rfl⟩, _⟩ := configDirectory_eq_ok h.configured
  rfl

theorem not_directory (h : host.KeepsAt made directory place temporary file?) :
    made.disk.entry? place ≠ some .directory := by
  rw [h.held]
  cases file? with
  | none => exact fun hd => by cases hd
  | some bytes => exact fun hd => by cases hd

/-! ## Reading -/

theorem file?_eq (h : host.KeepsAt made directory place temporary file?) :
    made.file? (settingsFile directory) = .ok file? := by
  obtain ⟨_, hplace⟩ := replacementPlaces_eq_ok h.places
  rw [Host.file?, Disk.file?, hplace]
  dsimp only
  rw [h.held]
  cases file? with
  | none => rfl
  | some bytes => rfl

theorem settingsBytes_eq (h : host.KeepsAt made directory place temporary file?) :
    host.settingsBytes = .ok file? := by
  rw [settingsBytes, h.configured]
  exact h.file?_eq

theorem globalSettings_eq (h : host.KeepsAt made directory place temporary file?) :
    host.globalSettings = (made, Settings.ofFile (settingsFile directory).text file?) :=
  globalSettings_of_file h.configured h.file?_eq

/-! ## Storing -/

/-- The host after bytes were stored. -/
def stored (made : Host) (place : Path) (bytes : ByteArray) : Host :=
  { made with disk := made.disk.put place.text (.file bytes) }

theorem saveSettings_eq (h : host.KeepsAt made directory place temporary file?) (s : Settings) :
    host.saveSettings s .none = (stored made place s.fileText.toUTF8, .ok ()) := by
  obtain ⟨_, _, hthere⟩ := configDirectory_eq_ok h.configured
  have hobstacle : obstacle? made.disk (settingsFile directory) place = none := by
    have hname : (settingsFile directory).name = "config.json" := Path.name_child _ _
    rw [obstacle?, hname, if_neg (by decide)]
    split
    · rename_i hdirectory
      exact absurd hdirectory h.not_directory
    · rfl
  have hroot : temporary.parts ≠ [] :=
    ne_nil_of_not_directory (by rw [h.free]; exact fun hd => by cases hd)
  have herase : made.disk.erase temporary.text = made.disk := by
    have hfree := h.free
    rw [entry?_of_ne_nil hroot] at hfree
    exact Table.erase_of_new hfree
  have hreplace : replaceFile made.disk place temporary s.fileText.toUTF8 none .none =
      ((made.disk.erase temporary.text).put place.text (.file s.fileText.toUTF8), .ok ()) := rfl
  rw [saveSettings, h.configured]
  dsimp only [andThen]
  rw [replace, settingsFile, Path.parent_child, makeDirectories_of_hasDirectory hthere]
  dsimp only [andThen]
  rw [← settingsFile, replaceInDirectory, h.places]
  dsimp only
  rw [hobstacle, hreplace, herase]
  rfl

/-- What was stored is in the file, and can be replaced again. -/
theorem stored_keeps (h : host.KeepsAt made directory place temporary file?) (bytes : ByteArray) :
    (stored made place bytes).KeepsAt (stored made place bytes) directory place temporary
      (some bytes) := by
  obtain ⟨hpath, _, hthere⟩ := configDirectory_eq_ok h.host_made.configured
  obtain ⟨htemporary, hplace⟩ := replacementPlaces_eq_ok h.places
  obtain ⟨names, hreach⟩ := exists_reaches hthere
  have hwithin := within_put h.not_directory (.file bytes)
  obtain ⟨htemporary', hfree'⟩ := temporaryPath?_put hreach (by decide) hplace h.not_directory
    htemporary bytes
  refine ⟨?_, ?_, hfree', ?_⟩
  · exact configDirectory_of_hasDirectory hpath (hasDirectory_of_within hwithin hthere)
  · have hplace' := locate_of_within hwithin hplace
    rw [replacementPlaces]
    exact bind_eq_ok.mpr ⟨temporary, htemporary', bind_eq_ok.mpr ⟨place, hplace', rfl⟩⟩
  · exact entry?_put_self h.not_directory _

end KeepsAt

end CsdlRoutes.Host
