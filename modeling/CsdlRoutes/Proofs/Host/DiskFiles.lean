import CsdlRoutes.Proofs.Host.KeptSettings

/-!
# Files that stay

A disk holds files and directories. Putting an entry at a place changes no file elsewhere, and making
directories changes no file at all, even where it fails halfway. Directories that could not be made
cannot be made at a second try either: what the first try made leads no further.

* `Disk.SameFiles`, `Disk.SameFilesBut`: disks with the same files.
* `Disk.sameFiles_makeDirectories`: directories are made without a change to files.
* `Disk.makeDirectories_error_again`: directories that cannot be made.
* `Disk.length_text_lt`: places in a directory have longer names.
-/

namespace CsdlRoutes.Host

namespace Disk

variable {disk disk' made : Disk} {directory p place : Path} {names : List String}

/-! ## Files on a disk -/

/-- The bytes of the file at a place, if a file stands there. -/
def fileAt? (disk : Disk) (place : Path) : Option ByteArray :=
  match disk.entry? place with
  | some (.file bytes) => some bytes
  | _ => none

/-- Two disks hold the same files, whatever their directories are. -/
def SameFiles (disk disk' : Disk) : Prop :=
  ∀ place, disk'.fileAt? place = disk.fileAt? place

/-- Two disks hold the same files but perhaps at one place. -/
def SameFilesBut (spared : Path) (disk disk' : Disk) : Prop :=
  ∀ place, place.text ≠ spared.text → disk'.fileAt? place = disk.fileAt? place

theorem SameFiles.refl (disk : Disk) : SameFiles disk disk := fun _ => rfl

theorem SameFiles.trans {disk'' : Disk} (h : SameFiles disk disk') (h' : SameFiles disk' disk'') :
    SameFiles disk disk'' := fun place => (h' place).trans (h place)

theorem SameFiles.but (h : SameFiles disk disk') (spared : Path) : SameFilesBut spared disk disk' :=
  fun place _ => h place

theorem SameFiles.trans_but {disk'' : Disk} {spared : Path} (h : SameFiles disk disk')
    (h' : SameFilesBut spared disk' disk'') : SameFilesBut spared disk disk'' :=
  fun place hplace => (h' place hplace).trans (h place)

theorem fileAt?_of_free (h : disk.entry? place = none) : disk.fileAt? place = none := by
  rw [fileAt?, h]

theorem fileAt?_put_self (h : disk.entry? place ≠ some .directory) (bytes : ByteArray) :
    fileAt? (disk.put place.text (.file bytes)) place = some bytes := by
  rw [fileAt?, entry?_put_self h]

theorem sameFilesBut_put (place : Path) (entry : Entry) :
    SameFilesBut place disk (disk.put place.text entry) := by
  intro other hother
  rw [fileAt?, fileAt?, entry?_put_of_ne hother]

/-- A directory that is made where nothing stood changes no file. -/
theorem sameFiles_put_directory (h : disk.entry? place = none) :
    SameFiles disk (disk.put place.text .directory) := by
  have hdirectory : disk.entry? place ≠ some .directory := by
    rw [h]
    exact fun h => by cases h
  intro other
  by_cases htext : other.text = place.text
  · by_cases hroot : other.parts = []
    · unfold fileAt? entry?
      rw [hroot]
      rfl
    · have hfree : disk.get? other.text = none := by
        rw [htext, ← entry?_of_ne_nil (ne_nil_of_not_directory hdirectory), h]
      rw [fileAt?, fileAt?, entry?_of_ne_nil hroot, entry?_of_ne_nil hroot, hfree, htext,
        Table.get?_put_self]
  · exact sameFilesBut_put place .directory other htext

theorem sameFiles_ensureDirectory (h : disk.ensureDirectory directory p = .ok made) :
    SameFiles disk made := by
  unfold ensureDirectory at h
  split at h
  · rename_i made' hmake
    cases h
    unfold makeDirectory at hmake
    split at hmake
    · cases hmake
    · split at hmake
      · cases hmake
      · rename_i hfree
        cases hmake
        exact sameFiles_put_directory hfree
  · split at h
    · cases h
      exact SameFiles.refl disk
    · cases h

/-! ## Making directories -/

section Made

variable {fault : StorageFault}

theorem makeDirectories_of_ok (h : disk.ensureDirectory directory p = .ok made) :
    disk.makeDirectories directory p = (made, .ok ()) := by
  rw [makeDirectories, h]

theorem makeDirectories_of_error (h : disk.ensureDirectory directory p = .error fault)
    (hlast : fault ≠ .missing ∨ p.parts = []) :
    disk.makeDirectories directory p = (disk, .error fault) := by
  rw [makeDirectories, h]
  cases fault with
  | missing =>
    have hroot : p.parts = [] := hlast.resolve_left fun hne => hne rfl
    dsimp only
    rw [dif_pos hroot]
  | _ => rfl

/-- Where something above is missing, what is above is made first. -/
theorem makeDirectories_of_missing (h : disk.ensureDirectory directory p = .error .missing)
    (hparts : p.parts ≠ []) :
    disk.makeDirectories directory p =
      match disk.makeDirectories directory p.parent with
      | (made, .error fault) => (made, .error fault)
      | (made, .ok ()) =>
        match made.ensureDirectory directory p with
        | .ok made => (made, .ok ())
        | .error fault => (made, .error fault) := by
  rw [makeDirectories, h]
  exact (dif_neg hparts).trans rfl

/-- Making directories changes no file, even where it fails halfway. -/
theorem sameFiles_makeDirectories (disk : Disk) (directory p : Path) :
    SameFiles disk (disk.makeDirectories directory p).1 := by
  induction p using makeDirectories.induct disk directory with
  | case1 p made hensure =>
    rw [makeDirectories_of_ok hensure]
    exact sameFiles_ensureDirectory hensure
  | case2 p hensure hroot =>
    rw [makeDirectories_of_error hensure (Or.inr hroot)]
    exact SameFiles.refl disk
  | case3 p hensure hparts _ made fault hparent ih =>
    rw [hparent] at ih
    rw [makeDirectories_of_missing hensure hparts, hparent]
    exact ih
  | case4 p hensure hparts _ made hparent last hlast ih =>
    rw [hparent] at ih
    rw [makeDirectories_of_missing hensure hparts, hparent]
    dsimp only
    rw [hlast]
    exact ih.trans (sameFiles_ensureDirectory hlast)
  | case5 p hensure hparts _ made hparent fault hlast ih =>
    rw [hparent] at ih
    rw [makeDirectories_of_missing hensure hparts, hparent]
    dsimp only
    rw [hlast]
    exact ih
  | case6 p fault hmissing hensure =>
    rw [makeDirectories_of_error hensure (Or.inl hmissing)]
    exact SameFiles.refl disk

theorem child_of_parts (hparts : p.parts ≠ []) : p.parent.child p.name = p := by
  rw [Path.child, Path.parent, Path.name, List.getLast?_eq_some_getLast hparts, Option.getD_some,
    List.dropLast_concat_getLast]

/-- What holds the last part is written no longer than the whole path, with characters of it. -/
theorem text_parent (hparts : p.parts ≠ []) :
    p.parent.text = "." ∨ ∃ rest, p.text = p.parent.text ++ rest := by
  have htext : p.text = p.root ++ "/".intercalate p.parts := by
    rw [Path.text, if_neg]
    simpa using fun _ => hparts
  have hparent : p.parent.root = p.root := rfl
  by_cases hroot : (p.parent.root == "" && p.parent.parts.isEmpty) = true
  · exact Or.inl (if_pos hroot)
  · refine Or.inr ?_
    rw [htext, Path.text, if_neg hroot, hparent, ← child_of_parts hparts, Path.parent_child]
    by_cases hrest : p.parent.parts = []
    · refine ⟨p.name, ?_⟩
      rw [Path.child, hrest, List.nil_append, String.intercalate_singleton, String.intercalate_nil,
        String.append_empty]
    · refine ⟨"/" ++ p.name, ?_⟩
      rw [Path.child]
      dsimp only
      rw [String.intercalate_append_of_ne_nil hrest (List.cons_ne_nil _ _),
        String.intercalate_singleton, String.append_assoc, String.append_assoc]

/-- A path that leads somewhere leads there from a directory. -/
theorem hasDirectory_parent (hparts : p.parts ≠ []) (h : disk.locate directory p = .ok place) :
    disk.hasDirectory directory p.parent = true := by
  obtain ⟨husable, hshort, names, hfollow, _⟩ := locate_eq_ok_iff.mp h
  rw [← child_of_parts hparts, Path.join_child, follow_append] at hfollow
  obtain ⟨above, habove, hlast⟩ := bind_eq_ok.mp hfollow
  have hentry : disk.entry? (placeOf above) = some .directory := by
    rw [follow] at hlast
    split at hlast
    · cases hlast
    · cases hlast
    · rename_i hdirectory
      exact hdirectory
  refine hasDirectory_iff.mpr ⟨placeOf above, locate_eq_ok_iff.mpr ⟨?_, ?_, above, habove, rfl⟩, hentry⟩
  · rcases text_parent hparts with hdot | ⟨rest, htext⟩
    · rw [hdot]
      decide
    · rw [htext, String.toList_append, List.contains_append, Bool.or_eq_false_iff] at husable
      exact husable.1
  · rcases text_parent hparts with hdot | ⟨rest, htext⟩
    · rw [hdot]
      decide
    · rw [htext, String.utf8ByteSize_append] at hshort
      omega

theorem exists_locate_of_ensureDirectory (h : disk.ensureDirectory directory p = .ok made) :
    ∃ place, disk.locate directory p = .ok place := by
  unfold ensureDirectory at h
  split at h
  · rename_i made' hmake
    unfold makeDirectory at hmake
    split at hmake
    · cases hmake
    · rename_i place hlocate
      exact ⟨place, hlocate⟩
  · split at h
    · rename_i hthere
      obtain ⟨place, hlocate, _⟩ := hasDirectory_iff.mp hthere
      exact ⟨place, hlocate⟩
    · cases h

/-- Directories that cannot be made cannot be made at a second try either. The second fault may be
another one: where a directory above was made meanwhile, the path leads further. -/
theorem makeDirectories_error_again (disk : Disk) (directory p : Path)
    (h : disk.makeDirectories directory p = (made, .error fault)) :
    ∃ again, made.makeDirectories directory p = (made, .error again) := by
  induction p using makeDirectories.induct disk directory generalizing made fault with
  | case1 p made' hensure =>
    rw [makeDirectories_of_ok hensure] at h
    cases h
  | case2 p hensure hroot =>
    rw [makeDirectories_of_error hensure (Or.inr hroot)] at h
    cases h
    exact ⟨_, makeDirectories_of_error hensure (Or.inr hroot)⟩
  | case3 p hensure hparts _ made' fault' hparent ih =>
    rw [makeDirectories_of_missing hensure hparts, hparent] at h
    cases h
    obtain ⟨again, hagain⟩ := ih hparent
    cases hnext : made'.ensureDirectory directory p with
    | ok next =>
      -- now that the path leads somewhere, what holds its last part would be a directory
      obtain ⟨place, hlocate⟩ := exists_locate_of_ensureDirectory hnext
      have hthere := makeDirectories_of_hasDirectory (hasDirectory_parent hparts hlocate)
      rw [hthere] at hagain
      cases hagain
    | error next =>
      by_cases hmissing : next = .missing
      · refine ⟨again, ?_⟩
        rw [hmissing] at hnext
        rw [makeDirectories_of_missing hnext hparts, hagain]
      · exact ⟨next, makeDirectories_of_error hnext (Or.inl hmissing)⟩
  | case4 p hensure hparts _ made' hparent last hlast ih =>
    rw [makeDirectories_of_missing hensure hparts, hparent] at h
    dsimp only at h
    rw [hlast] at h
    cases h
  | case5 p hensure hparts _ made' hparent fault' hlast ih =>
    rw [makeDirectories_of_missing hensure hparts, hparent] at h
    dsimp only at h
    rw [hlast] at h
    cases h
    by_cases hmissing : fault' = .missing
    · have hthere := makeDirectories_of_hasDirectory (hasDirectory_of_makeDirectories hparent)
      refine ⟨fault', ?_⟩
      rw [hmissing] at hlast
      rw [makeDirectories_of_missing hlast hparts, hthere]
      dsimp only
      rw [hlast, hmissing]
    · exact ⟨fault', makeDirectories_of_error hlast (Or.inl hmissing)⟩
  | case6 p fault' hmissing hensure =>
    rw [makeDirectories_of_error hensure (Or.inl hmissing)] at h
    cases h
    exact ⟨_, makeDirectories_of_error hensure (Or.inl hmissing)⟩

end Made

/-! ## Places with different names -/

theorem text_placeOf_concat (hnames : names ≠ []) (part : String) :
    (placeOf (names ++ [part])).text = (placeOf names).text ++ ("/" ++ part) := by
  rw [text_placeOf, text_placeOf, String.intercalate_append_of_ne_nil hnames (List.cons_ne_nil _ _),
    String.intercalate_singleton, String.append_assoc, String.append_assoc]

/-- A place in a directory has a longer name than the directory. -/
theorem length_text_lt (names : List String) {part : String} (hpart : part ≠ "") :
    (placeOf names).text.length < (placeOf (names ++ [part])).text.length := by
  have hpos : 0 < part.length := by
    rw [Nat.pos_iff_ne_zero, ne_eq, String.length_eq_zero_iff]
    exact hpart
  by_cases hnames : names = []
  · rw [hnames, List.nil_append, text_placeOf, text_placeOf, String.intercalate_nil,
      String.intercalate_singleton, String.length_append, String.length_append]
    have hempty : "".length = 0 := rfl
    omega
  · rw [text_placeOf_concat hnames, String.length_append, String.length_append]
    omega

theorem length_text_dropLast_le (names : List String) :
    (placeOf names.dropLast).text.length ≤ (placeOf names).text.length := by
  rcases List.eq_nil_or_concat names with rfl | ⟨above, part, rfl⟩
  · exact Nat.le_refl _
  · rw [List.concat_eq_append, List.dropLast_concat]
    by_cases hpart : part = ""
    · by_cases habove : above = []
      · rw [hpart, habove]
        exact Nat.le_refl _
      · rw [text_placeOf_concat habove, String.length_append]
        omega
    · exact (length_text_lt above hpart).le

end Disk

end CsdlRoutes.Host
