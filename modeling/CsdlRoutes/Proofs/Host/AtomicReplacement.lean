import CsdlRoutes.Proofs.Host.DiskFiles

/-!
# Files replaced as a whole

A file is replaced as a whole or not at all. The data goes to a temporary file in the same directory,
at a place that was free, and that file takes the place of the target in one step. Until then nothing
is written anywhere else, and making directories changes no file. So after any failure each file is as
it was, the temporary one aside: that is removed, unless it was left open and closing it fails again.
Then it stays, with what it holds by then.

Nothing is assumed of the disk, the path or the data. A replacement may fail before its first step,
since the name of the temporary file is longer than that of the target.

* `Disturbance.stranded?`: what a temporary file holds that stays.
* `replaceFile_cases`: everything that a replacement can do to a disk.
* `replace_all_or_nothing`: what a replacement leaves behind, and that settings which were not saved
  leave the settings that are read as they were.
* `full_disk_strands_temporary`: a temporary file that stays.
-/

namespace CsdlRoutes.Host

open Disk

/-! ## Temporary files -/

/-- A temporary file is at another place than its target, whatever the target is. -/
theorem temporary_text_ne {disk : Disk} {directory target place temporary : Path}
    (htemporary : temporaryPath? disk directory target = .ok temporary)
    (hplace : disk.locate directory target = .ok place) : temporary.text ≠ place.text := by
  obtain ⟨number, _, hnumber⟩ := exists_chosen htemporary
  obtain ⟨hother, hdots⟩ := temporaryName_ne target number
  have hempty : temporaryName target number ≠ "" := by
    intro h
    have hlength := length_temporaryName target number
    rw [h] at hlength
    exact absurd hlength (by simp)
  have hthere := hasDirectory_parent (List.concat_ne_nil _ _) hnumber
  rw [Path.parent_child] at hthere
  obtain ⟨names, hreach⟩ := exists_reaches hthere
  rw [hreach.locate_child_eq_ok hdots hnumber]
  obtain ⟨_, _, found, hfound, rfl⟩ := locate_eq_ok_iff.mp hplace
  by_cases hparts : target.parts = []
  · -- the target is the directory itself
    have hparent : target.parent = target := by
      rw [Path.parent, hparts, List.dropLast_nil, ← hparts]
    have hfollow := hreach.follow
    rw [hparent, hfound] at hfollow
    cases hfollow
    intro h
    have hlt := length_text_lt names hempty
    rw [h] at hlt
    omega
  · by_cases hup : target.name = ".."
    · -- the target is what holds the directory
      rw [← child_of_parts hparts, hup, Path.join_child, follow_append, hreach.follow, ok_bind,
        follow, hreach.entry] at hfound
      cases hfound
      intro h
      have hlt := length_text_lt names hempty
      have hle := length_text_dropLast_le names
      rw [h] at hlt
      omega
    · rw [← child_of_parts hparts] at hplace
      rw [hreach.locate_child_eq_ok hup hplace]
      exact fun h => hother (eq_of_text_placeOf h)

/-! ## Replacing -/

/-- What a replacement fails with once the temporary file is there. -/
def Disturbance.fault? (d : Disturbance) (obstacle : Option StorageFault) : Option StorageFault :=
  match d.failing with
  | some _ => some .notStored
  | .none => obstacle

/-- What the temporary file holds that a failure leaves open and that cannot be closed afterwards. -/
def Disturbance.stranded? (d : Disturbance) (data : ByteArray) : Option ByteArray :=
  match d.failing with
  | some step =>
    if step.leavesOpen && d.closingFails then some (d.held data step) else Option.none
  | .none => Option.none

/-- Everything that a replacement can do to a disk, by way of a temporary file at a free place. -/
theorem replaceFile_cases {disk : Disk} {temporary : Path} (hfree : disk.entry? temporary = none)
    (place : Path) (data : ByteArray) (obstacle : Option StorageFault) (d : Disturbance) :
    d.fault? obstacle = none ∧
        replaceFile disk place temporary data obstacle d =
          (disk.put place.text (.file data), .ok ()) ∨
      ∃ fault, d.fault? obstacle = some fault ∧
        (d.stranded? data = none ∧ replaceFile disk place temporary data obstacle d =
            (disk, .error (.accident (.storage fault))) ∨
          ∃ held, d.stranded? data = some held ∧ replaceFile disk place temporary data obstacle d =
            (disk.put temporary.text (.file held), .error (.accident (.storage fault)))) := by
  have hremoved : disk.erase temporary.text = disk := by
    have hroot : temporary.parts ≠ [] :=
      ne_nil_of_not_directory (by rw [hfree]; exact fun h => by cases h)
    rw [entry?_of_ne_nil hroot] at hfree
    exact Table.erase_of_new hfree
  obtain ⟨failing, stored, closingFails⟩ := d
  unfold replaceFile Disturbance.fault? Disturbance.stranded?
  rw [hremoved]
  cases failing with
  | none =>
    cases obstacle with
    | none => exact Or.inl ⟨rfl, rfl⟩
    | some fault => exact Or.inr ⟨fault, rfl, Or.inl ⟨rfl, rfl⟩⟩
  | some step =>
    refine Or.inr ⟨.notStored, rfl, ?_⟩
    dsimp only
    cases step.leavesOpen && closingFails with
    | false => exact Or.inl ⟨rfl, rfl⟩
    | true => exact Or.inr ⟨_, rfl, rfl⟩

variable {host made : Host} {p directory place temporary : Path}

/-- A host on which the directory of a path could be made, and where the target and its temporary
file have their places. -/
structure Prepares (host : Host) (p : Path) (made : Host) (place temporary : Path) : Prop where
  directories : host.makeDirectories p.parent = (made, .ok ())
  places : made.replacementPlaces p = .ok (place, temporary)

theorem exists_makeDirectories (host : Host) (p : Path) :
    ∃ disk result, host.makeDirectories p = ({ host with disk }, ofStorage result) ∧
      host.disk.makeDirectories host.workingDirectory p = (disk, result) ∧
      SameFiles host.disk disk := by
  have hfiles := sameFiles_makeDirectories host.disk host.workingDirectory p
  rw [Host.makeDirectories]
  cases hmake : host.disk.makeDirectories host.workingDirectory p with
  | mk disk result =>
    rw [hmake] at hfiles
    exact ⟨disk, result, rfl, rfl, hfiles⟩

theorem replace_of_not_prepares (h : ¬ ∃ made place temporary, host.Prepares p made place temporary)
    (text : String) (d : Disturbance) :
    ∃ after fault, host.replace p text d =
        ({ host with disk := after }, .error (.accident (.storage fault))) ∧
      SameFiles host.disk after := by
  obtain ⟨disk, result, hmake, _, hfiles⟩ := exists_makeDirectories host p.parent
  rw [replace, hmake]
  cases result with
  | error fault => exact ⟨disk, fault, rfl, hfiles⟩
  | ok u =>
    dsimp only [ofStorage, Except.mapError, andThen]
    rw [replaceInDirectory]
    cases hplaces : replacementPlaces { host with disk } p with
    | error fault => exact ⟨disk, fault, rfl, hfiles⟩
    | ok places => exact absurd ⟨_, places.1, places.2, hmake, hplaces⟩ h

namespace Prepares

theorem same_files (h : host.Prepares p made place temporary) :
    ∃ disk, made = { host with disk } ∧ SameFiles host.disk disk := by
  obtain ⟨disk, result, hmake, _, hfiles⟩ := exists_makeDirectories host p.parent
  rw [h.directories] at hmake
  exact ⟨disk, congrArg Prod.fst hmake, hfiles⟩

theorem replace_eq (h : host.Prepares p made place temporary) (text : String) (d : Disturbance) :
    host.replace p text d =
      ({ made with disk := (replaceFile made.disk place temporary text.toUTF8
          (obstacle? made.disk p place) d).1 },
        (replaceFile made.disk place temporary text.toUTF8 (obstacle? made.disk p place) d).2) := by
  rw [replace, h.directories]
  dsimp only [andThen]
  rw [replaceInDirectory, h.places]

theorem free (h : host.Prepares p made place temporary) : made.disk.entry? temporary = none :=
  entry?_temporaryPath? (replacementPlaces_eq_ok h.places).1

theorem text_ne (h : host.Prepares p made place temporary) : temporary.text ≠ place.text := by
  obtain ⟨htemporary, hplace⟩ := replacementPlaces_eq_ok h.places
  exact temporary_text_ne htemporary hplace

end Prepares

theorem not_directory_of_obstacle {disk : Disk} (h : obstacle? disk p place = none) :
    disk.entry? place ≠ some .directory := by
  intro hdirectory
  rw [obstacle?, hdirectory] at h
  split at h
  · cases h
  · cases h

/-- What a replacement comes to once the temporary file is there. -/
theorem Prepares.settles (h : host.Prepares p made place temporary) (text : String)
    (d : Disturbance) :
    ∃ after result, host.replace p text d = ({ host with disk := after }, result) ∧
      (d.fault? (obstacle? made.disk p place) = none →
        result = .ok () ∧ after.fileAt? place = some text.toUTF8 ∧
          SameFilesBut place host.disk after) ∧
      ∀ fault, d.fault? (obstacle? made.disk p place) = some fault →
        result = .error (.accident (.storage fault)) ∧ SameFilesBut temporary host.disk after ∧
          after.fileAt? temporary = d.stranded? text.toUTF8 ∧
          (d.stranded? text.toUTF8 = none → SameFiles host.disk after) := by
  obtain ⟨disk, hmade, hfiles⟩ := h.same_files
  have hdisk : made.disk = disk := by rw [hmade]
  have hhost : ∀ after, { made with disk := after } = { host with disk := after } := by
    intro after
    rw [hmade]
  have hreplace := h.replace_eq text d
  rw [hhost] at hreplace
  refine ⟨_, _, hreplace, ?_, ?_⟩
  · intro hnone
    obtain ⟨_, hdone⟩ | ⟨fault, hsome, _⟩ := replaceFile_cases h.free place text.toUTF8
      (obstacle? made.disk p place) d
    · have hobstacle : obstacle? made.disk p place = none := by
        unfold Disturbance.fault? at hnone
        split at hnone
        · cases hnone
        · exact hnone
      rw [hdone]
      refine ⟨rfl, fileAt?_put_self (not_directory_of_obstacle hobstacle) _, ?_⟩
      rw [hdisk]
      exact hfiles.trans_but (sameFilesBut_put place _)
    · rw [hnone] at hsome
      cases hsome
  · intro fault hfault
    obtain ⟨hnone, _⟩ | ⟨fault', hsome, hkept | hstranded⟩ := replaceFile_cases h.free place
      text.toUTF8 (obstacle? made.disk p place) d
    · rw [hnone] at hfault
      cases hfault
    · obtain ⟨hremoved, hkept⟩ := hkept
      rw [hsome] at hfault
      cases hfault
      rw [hkept, hdisk, hremoved]
      exact ⟨rfl, hfiles.but temporary, hdisk ▸ fileAt?_of_free h.free, fun _ => hfiles⟩
    · obtain ⟨held, hheld, hstranded⟩ := hstranded
      rw [hsome] at hfault
      cases hfault
      rw [hstranded, hdisk, hheld]
      refine ⟨rfl, hfiles.trans_but (sameFilesBut_put temporary _), ?_, fun hnone => by cases hnone⟩
      refine fileAt?_put_self ?_ held
      rw [← hdisk, h.free]
      exact fun h => by cases h

/-! ## Settings that are not saved -/

theorem configDirectory_error_again {failure : Failure}
    (h : host.configDirectory = (made, .error failure)) :
    ∃ again, made.globalSettings.2 = .error again := by
  have hfails : ∃ again, made.configDirectory = (made, .error again) := by
    rw [configDirectory, madeDirectory] at h
    cases hpath : host.configPath with
    | error failure' =>
      rw [hpath] at h
      cases h
      refine ⟨failure, ?_⟩
      rw [configDirectory, madeDirectory, hpath]
      rfl
    | ok path =>
      obtain ⟨disk, result, hmake, hdisk, _⟩ := exists_makeDirectories host path
      rw [hpath] at h
      dsimp only [andThen] at h
      rw [hmake] at h
      cases result with
      | ok u => cases h
      | error fault =>
        cases h
        obtain ⟨again, hagain⟩ := makeDirectories_error_again _ _ _ hdisk
        refine ⟨.accident (.storage again), ?_⟩
        have hpath' : Host.configPath { host with disk } = .ok path := hpath
        rw [configDirectory, madeDirectory, hpath']
        dsimp only [andThen]
        rw [Host.makeDirectories]
        dsimp only
        rw [hagain]
        rfl
  obtain ⟨again, hagain⟩ := hfails
  refine ⟨again, ?_⟩
  rw [globalSettings, hagain]
  rfl

theorem configPath_made (h : host.configDirectory = (made, .ok directory)) :
    made.configPath = .ok directory := by
  obtain ⟨hpath, ⟨disk, rfl⟩, _⟩ := configDirectory_eq_ok h
  exact hpath

/-- Where the directory of settings is there, it stays there. -/
theorem globalSettings_of_within {disk : Disk} (hpath : made.configPath = .ok directory)
    (hthere : made.disk.hasDirectory made.workingDirectory directory = true)
    (hwithin : made.disk.Within disk) :
    (globalSettings { made with disk }).2 = settingsIn { made with disk } directory := by
  have hpath' : configPath { made with disk } = .ok directory := hpath
  rw [globalSettings, configDirectory_of_hasDirectory hpath' (hasDirectory_of_within hwithin hthere)]
  rfl

/-- A file beside the settings does not change what is read from them. -/
theorem settingsIn_of_within {disk : Disk} (hwithin : made.disk.Within disk)
    (hplace : made.disk.locate made.workingDirectory (settingsFile directory) = .ok place)
    (hentry : disk.entry? place = made.disk.entry? place) :
    settingsIn { made with disk } directory = made.settingsIn directory := by
  have hfile : Host.file? { made with disk } (settingsFile directory) =
      made.file? (settingsFile directory) := by
    unfold Host.file? Disk.file?
    dsimp only
    rw [locate_of_within hwithin hplace, hplace]
    dsimp only
    rw [hentry]
  rw [settingsIn, settingsIn, hfile]

/-- Where there is a directory for them, the settings are read as before after they were not saved. -/
theorem globalSettings_of_unsaved (hmade : host.configDirectory = (made, .ok directory))
    {s : Settings} {d : Disturbance} {failure : Failure}
    (h : (host.saveSettings s d).2 = .error failure) :
    (host.saveSettings s d).1.globalSettings.2 = host.globalSettings.2 := by
  have hpath := configPath_made hmade
  obtain ⟨_, _, hthere⟩ := configDirectory_eq_ok hmade
  have hbefore : host.globalSettings.2 = made.settingsIn directory := by
    rw [globalSettings, hmade]
    rfl
  have hsave : host.saveSettings s d =
      made.replaceInDirectory (settingsFile directory) s.fileText.toUTF8 d := by
    rw [saveSettings, hmade]
    dsimp only [andThen]
    rw [replace, settingsFile, Path.parent_child, makeDirectories_of_hasDirectory hthere]
    rfl
  have hkeeps : made.globalSettings.2 = made.settingsIn directory :=
    globalSettings_of_within hpath hthere fun _ => id
  rw [hbefore]
  rw [hsave, replaceInDirectory] at h ⊢
  cases hplaces : made.replacementPlaces (settingsFile directory) with
  | error fault => exact hkeeps
  | ok places =>
    obtain ⟨place, temporary⟩ := places
    obtain ⟨htemporary, hplace⟩ := replacementPlaces_eq_ok hplaces
    have hfree := entry?_temporaryPath? htemporary
    rw [hplaces] at h
    dsimp only at h ⊢
    obtain ⟨_, hdone⟩ | ⟨fault, _, ⟨_, hkept⟩ | ⟨held, _, hstranded⟩⟩ := replaceFile_cases hfree
      place s.fileText.toUTF8 (obstacle? made.disk (settingsFile directory) place) d
    · rw [hdone] at h
      cases h
    · rw [hkept]
      exact hkeeps
    · have hwithin : made.disk.Within (made.disk.put temporary.text (.file held)) :=
        within_put (by rw [hfree]; exact fun h => by cases h) _
      rw [hstranded]
      dsimp only
      rw [globalSettings_of_within hpath hthere hwithin, settingsIn_of_within hwithin hplace]
      exact entry?_put_of_ne (temporary_text_ne htemporary hplace).symm _

/-! ## The whole replacement -/

/-- **A file is replaced as a whole or not at all.** Where the directory cannot be made or no temporary
file can stand in it, the replacement fails and no file has changed. Otherwise the temporary file
stands at a place that was free. If no step fails and the target is no directory, the target then
holds the data and no other file has changed. If something fails, this is what the replacement
fails with, and every file but the temporary one is as it was. That one is not there, so that no file
has changed, unless it was left open and closing it failed again: then it stays with what it holds.
And after settings were not saved, the settings that are read are the same as before, with the same
failure as far as their directory can be made. -/
theorem replace_all_or_nothing (host : Host) (p : Path) (text : String) (d : Disturbance) :
    (∃ after result, host.replace p text d = ({ host with disk := after }, result) ∧
      ((¬ ∃ made place temporary, host.Prepares p made place temporary) →
        (∃ fault, result = .error (.accident (.storage fault))) ∧ SameFiles host.disk after) ∧
      ∀ made place temporary, host.Prepares p made place temporary →
        host.disk.fileAt? temporary = none ∧ temporary.text ≠ place.text ∧
          (d.fault? (obstacle? made.disk p place) = none →
            result = .ok () ∧ after.fileAt? place = some text.toUTF8 ∧
              SameFilesBut place host.disk after) ∧
          ∀ fault, d.fault? (obstacle? made.disk p place) = some fault →
            result = .error (.accident (.storage fault)) ∧ SameFilesBut temporary host.disk after ∧
              after.fileAt? temporary = d.stranded? text.toUTF8 ∧
              (d.stranded? text.toUTF8 = none → SameFiles host.disk after)) ∧
    ∀ s failure, (host.saveSettings s d).2 = .error failure →
      (host.saveSettings s d).1.globalSettings.2.toOption = host.globalSettings.2.toOption ∧
        ((∃ made directory, host.configDirectory = (made, .ok directory)) →
          (host.saveSettings s d).1.globalSettings.2 = host.globalSettings.2) := by
  refine ⟨?_, fun s failure hfailed => ?_⟩
  · by_cases hprepares : ∃ made place temporary, host.Prepares p made place temporary
    · obtain ⟨made, place, temporary, h⟩ := hprepares
      obtain ⟨after, result, hreplace, _⟩ := h.settles text d
      refine ⟨after, result, hreplace, fun hnone => absurd ⟨_, _, _, h⟩ hnone, ?_⟩
      intro made' place' temporary' h'
      obtain ⟨after', result', hreplace', hdone, hfails⟩ := h'.settles text d
      rw [hreplace] at hreplace'
      cases hreplace'
      obtain ⟨disk, hmade, hfiles⟩ := h'.same_files
      refine ⟨?_, h'.text_ne, hdone, hfails⟩
      have hfree := fileAt?_of_free h'.free
      rw [hmade, hfiles temporary'] at hfree
      exact hfree
    · obtain ⟨after, fault, hreplace, hfiles⟩ := replace_of_not_prepares hprepares text d
      exact ⟨after, _, hreplace, fun _ => ⟨⟨fault, rfl⟩, hfiles⟩, fun made place temporary h =>
        absurd ⟨made, place, temporary, h⟩ hprepares⟩
  · cases hconfig : host.configDirectory with
    | mk made result =>
      cases result with
      | ok directory =>
        have hsame := globalSettings_of_unsaved hconfig hfailed
        exact ⟨congrArg Except.toOption hsame, fun _ => hsame⟩
      | error failure' =>
        obtain ⟨again, hagain⟩ := configDirectory_error_again hconfig
        have hsave : (host.saveSettings s d).1 = made := by
          rw [saveSettings, hconfig]
          rfl
        have hbefore : host.globalSettings.2 = .error failure' := by
          rw [globalSettings, hconfig]
          rfl
        refine ⟨?_, ?_⟩
        · rw [hsave, hagain, hbefore]
          rfl
        · rintro ⟨made', directory, hmade⟩
          cases hmade

/-- A host with notes in the working directory, and a directory of settings without a file in it. -/
def notesHost : Host :=
  ⟨⟨"/", []⟩, [("XDG_CONFIG_HOME", "/etc")], "Linux", "/root", "20240101-000000",
    [("/notes", .file "old".toUTF8), ("/etc", .directory), ("/etc/routetree", .directory)], .standard⟩

theorem notesHost_prepares : notesHost.Prepares ⟨"", ["notes"]⟩ notesHost
    ⟨"/", ["notes"]⟩ ⟨"/", [".notes.00000000.tmp"]⟩ :=
  ⟨makeDirectories_of_hasDirectory rfl, rfl⟩

theorem notesHost_configDirectory : notesHost.configDirectory =
    (notesHost, .ok ⟨"/", ["etc", "routetree"]⟩) := by
  have htext : Settings.setText? (notesHost.environmentValue? "XDG_CONFIG_HOME") = some "/etc" := by
    decide
  have hpath : notesHost.configPath = .ok ⟨"/", ["etc", "routetree"]⟩ := by
    rw [configPath_of_variable (by decide) htext]
    exact congrArg Except.ok (by decide)
  exact configDirectory_of_hasDirectory hpath (by decide)

theorem notesHost_unsaved : (notesHost.saveSettings { maxDepth := 3 } ⟨some .flush, 1, true⟩).2 =
    .error (.accident (.storage .notStored)) := by
  have hprepares : notesHost.Prepares (settingsFile ⟨"/", ["etc", "routetree"]⟩) notesHost
      ⟨"/", ["etc", "routetree", "config.json"]⟩
      ⟨"/", ["etc", "routetree", ".config.json.00000000.tmp"]⟩ :=
    ⟨makeDirectories_of_hasDirectory rfl, rfl⟩
  rw [saveSettings, notesHost_configDirectory]
  dsimp only [andThen]
  rw [hprepares.replace_eq]
  rfl

/-- Notes that are replaced, that are kept since the data was not stored for good, and that are kept
beside a temporary file that could not be closed; and settings that are not saved for this reason. -/
theorem notes_all_or_nothing :
    (∃ after, notesHost.replace ⟨"", ["notes"]⟩ "new" .none =
        ({ notesHost with disk := after }, .ok ()) ∧
      after.fileAt? ⟨"/", ["notes"]⟩ = some "new".toUTF8 ∧
      SameFilesBut ⟨"/", ["notes"]⟩ notesHost.disk after) ∧
    (∃ after, notesHost.replace ⟨"", ["notes"]⟩ "new" ⟨some .sync, 0, false⟩ =
        ({ notesHost with disk := after }, .error (.accident (.storage .notStored))) ∧
      SameFiles notesHost.disk after) ∧
    (∃ after, notesHost.replace ⟨"", ["notes"]⟩ "new" ⟨some .sync, 0, true⟩ =
        ({ notesHost with disk := after }, .error (.accident (.storage .notStored))) ∧
      after.fileAt? ⟨"/", [".notes.00000000.tmp"]⟩ = some "new".toUTF8 ∧
      SameFilesBut ⟨"/", [".notes.00000000.tmp"]⟩ notesHost.disk after) ∧
    (notesHost.saveSettings { maxDepth := 3 } ⟨some .flush, 1, true⟩).2 =
        .error (.accident (.storage .notStored)) ∧
      (notesHost.saveSettings { maxDepth := 3 } ⟨some .flush, 1, true⟩).1.globalSettings.2 =
        notesHost.globalSettings.2 := by
  obtain ⟨⟨after, result, hreplace, _, hprepared⟩, _⟩ :=
    replace_all_or_nothing notesHost ⟨"", ["notes"]⟩ "new" .none
  obtain ⟨⟨kept, failed, hfailed, _, hfails⟩, _⟩ :=
    replace_all_or_nothing notesHost ⟨"", ["notes"]⟩ "new" ⟨some .sync, 0, false⟩
  obtain ⟨⟨left, stuck, hstuck, _, hstrands⟩, _⟩ :=
    replace_all_or_nothing notesHost ⟨"", ["notes"]⟩ "new" ⟨some .sync, 0, true⟩
  obtain ⟨_, hsettings⟩ :=
    replace_all_or_nothing notesHost ⟨"", ["notes"]⟩ "new" ⟨some .flush, 1, true⟩
  obtain ⟨_, _, hdone, _⟩ := hprepared _ _ _ notesHost_prepares
  obtain ⟨_, _, _, hundone⟩ := hfails _ _ _ notesHost_prepares
  obtain ⟨_, _, _, hstays⟩ := hstrands _ _ _ notesHost_prepares
  obtain ⟨rfl, hdata, hothers⟩ := hdone rfl
  obtain ⟨rfl, _, _, hsame⟩ := hundone .notStored rfl
  obtain ⟨rfl, hbut, hheld, _⟩ := hstays .notStored rfl
  obtain ⟨_, hread⟩ := hsettings { maxDepth := 3 } _ notesHost_unsaved
  exact ⟨⟨after, hreplace, hdata, hothers⟩, ⟨kept, hfailed, hsame rfl⟩, ⟨left, hstuck, hheld, hbut⟩,
    notesHost_unsaved, hread ⟨_, _, notesHost_configDirectory⟩⟩

/-- On a full disk the data is not flushed but for its first byte, and closing the temporary file tries
to flush the rest once more. So the temporary file stays, although none was there before, and the
failure is reported. -/
theorem full_disk_strands_temporary :
    notesHost.disk.fileAt? ⟨"/", [".notes.00000000.tmp"]⟩ = none ∧
      ∃ after, notesHost.replace ⟨"", ["notes"]⟩ "new" ⟨some .flush, 1, true⟩ =
          ({ notesHost with disk := after }, .error (.accident (.storage .notStored))) ∧
        after.fileAt? ⟨"/", [".notes.00000000.tmp"]⟩ = some "n".toUTF8 ∧
        after.fileAt? ⟨"/", ["notes"]⟩ = some "old".toUTF8 := by
  obtain ⟨after, result, hreplace, _, hfails⟩ := notesHost_prepares.settles "new" ⟨some .flush, 1, true⟩
  obtain ⟨rfl, hothers, hheld, _⟩ := hfails .notStored rfl
  exact ⟨rfl, after, hreplace, hheld, hothers _ (by decide)⟩

end CsdlRoutes.Host
