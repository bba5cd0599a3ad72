import CsdlRoutes.Host.Replacement
import CsdlRoutes.Proofs.Results
import CsdlRoutes.Proofs.TableEntries

/-!
# Places on a changing disk

A path is followed through directories only, so it leads to the same place as long as no directory
on its way is lost. Neither making a directory nor putting a file where no directory stands loses
one. So a directory that was made is there, and what was made or stored once can be made or stored
again.

* `Disk.Within`: no directory is lost.
* `Disk.makeDirectories_of_hasDirectory`, `Disk.hasDirectory_of_makeDirectories`: directories are
  made once.
* `Disk.Reaches.locate_child`: where a path leads that has one part more.
* `entry?_temporaryPath?`: the place of a temporary file is free.
* `temporaryPath?_put`: that place after a replacement.
-/

namespace CsdlRoutes.Host

/-! ## Paths -/

theorem Path.parent_child (p : Path) (part : String) : (p.child part).parent = p := by
  rw [Path.child, Path.parent, List.dropLast_concat]

theorem Path.name_child (p : Path) (part : String) : (p.child part).name = part := by
  rw [Path.child, Path.name, List.getLast?_concat]
  rfl

theorem Path.join_child (directory p : Path) (part : String) :
    (directory.join (p.child part)).parts = (directory.join p).parts ++ [part] := by
  unfold Path.join Path.child
  split
  · exact (List.append_assoc _ _ _).symm
  · rfl

namespace Disk

variable {disk disk' made : Disk} {directory p place : Path} {reached names : List String}

theorem text_placeOf (names : List String) :
    (placeOf names).text = "/" ++ "/".intercalate names := rfl

theorem eq_of_intercalate_concat {α : Type} {mark : List α} {rows : List (List α)}
    {row other : List α} (h : mark.intercalate (rows ++ [row]) = mark.intercalate (rows ++ [other])) :
    row = other := by
  induction rows with
  | nil => simpa using h
  | cons first rows ih =>
    have hne : ∀ last, rows ++ [last] ≠ [] := fun _ => List.concat_ne_nil _ _
    rw [List.cons_append, List.cons_append, List.intercalate_cons_of_ne_nil (hne row),
      List.intercalate_cons_of_ne_nil (hne other), List.append_cancel_left_eq] at h
    exact ih h

/-- Two places in one directory differ by their names. -/
theorem eq_of_text_placeOf {part other : String}
    (h : (placeOf (names ++ [part])).text = (placeOf (names ++ [other])).text) : part = other := by
  have hlist := congrArg String.toList h
  simp only [text_placeOf, String.toList_append, String.toList_intercalate, List.map_append,
    List.map_singleton] at hlist
  rw [List.append_cancel_left_eq] at hlist
  exact String.toList_injective (eq_of_intercalate_concat hlist)

/-! ## Directories that are kept -/

/-- Every directory of a disk is one of another disk. -/
def Within (disk disk' : Disk) : Prop :=
  ∀ place, disk.entry? place = some .directory → disk'.entry? place = some .directory

theorem follow_of_within (h : disk.Within disk') {parts : List String}
    (hfollow : disk.follow reached parts = .ok names) :
    disk'.follow reached parts = .ok names := by
  induction parts generalizing reached with
  | nil => exact hfollow
  | cons part rest ih =>
    rw [follow] at hfollow ⊢
    split at hfollow
    · cases hfollow
    · cases hfollow
    · rename_i hentry
      rw [h _ hentry]
      dsimp only
      split at hfollow
      · rename_i hdots
        rw [if_pos hdots]
        exact ih hfollow
      · rename_i hdots
        rw [if_neg hdots]
        split at hfollow
        · cases hfollow
        · rename_i hshort
          rw [if_neg hshort]
          exact ih hfollow

theorem locate_eq_ok_iff : disk.locate directory p = .ok place ↔
    p.text.toList.contains '\x00' = false ∧ p.text.utf8ByteSize ≤ longestPath ∧
      ∃ names, disk.follow [] (directory.join p).parts = .ok names ∧ placeOf names = place := by
  unfold locate
  split
  · rename_i hnul
    constructor
    · intro h
      cases h
    · rintro ⟨husable, _⟩
      rw [hnul] at husable
      cases husable
  · rename_i hnul
    split
    · rename_i hlong
      constructor
      · intro h
        cases h
      · rintro ⟨_, hshort, _⟩
        omega
    · rename_i hlong
      have hpath := And.intro (Bool.eq_false_iff.mpr hnul) (Nat.not_lt.mp hlong)
      cases disk.follow [] (directory.join p).parts with
      | error fault => simp [Except.map]
      | ok names =>
        simp only [Except.map, hpath, true_and, Except.ok.injEq, exists_eq_left']

theorem locate_of_within (h : disk.Within disk') (hlocate : disk.locate directory p = .ok place) :
    disk'.locate directory p = .ok place := by
  obtain ⟨husable, hshort, names, hfollow, hplace⟩ := locate_eq_ok_iff.mp hlocate
  exact locate_eq_ok_iff.mpr ⟨husable, hshort, names, follow_of_within h hfollow, hplace⟩

theorem entry?_of_ne_nil (h : place.parts ≠ []) : disk.entry? place = disk.get? place.text := by
  unfold entry?
  rw [if_neg (by simpa using h)]

theorem ne_nil_of_not_directory (h : disk.entry? place ≠ some .directory) : place.parts ≠ [] := by
  intro hnil
  unfold entry? at h
  rw [hnil] at h
  exact h rfl

theorem entry?_put_self (h : disk.entry? place ≠ some .directory) (entry : Entry) :
    entry? (disk.put place.text entry) place = some entry := by
  rw [entry?_of_ne_nil (ne_nil_of_not_directory h), Table.get?_put_self]

theorem entry?_put_of_ne {other : Path} (h : other.text ≠ place.text) (entry : Entry) :
    entry? (disk.put place.text entry) other = disk.entry? other := by
  unfold entry?
  rw [Table.get?_put_of_ne h]

theorem within_put (h : disk.entry? place ≠ some .directory) (entry : Entry) :
    disk.Within (disk.put place.text entry) := by
  intro other hother
  by_cases hroot : other.parts = []
  · unfold entry?
    rw [hroot]
    rfl
  · by_cases htext : other.text = place.text
    · rw [entry?_of_ne_nil hroot, htext, ← entry?_of_ne_nil (ne_nil_of_not_directory h)] at hother
      exact absurd hother h
    · rw [entry?_put_of_ne htext]
      exact hother

/-! ## Making directories -/

theorem hasDirectory_iff : disk.hasDirectory directory p = true ↔
    ∃ place, disk.locate directory p = .ok place ∧ disk.entry? place = some .directory := by
  unfold hasDirectory
  cases disk.locate directory p with
  | error fault => simp
  | ok place =>
    dsimp only
    split
    · rename_i hentry
      exact ⟨fun _ => ⟨place, rfl, hentry⟩, fun _ => rfl⟩
    · rename_i hother
      refine ⟨fun h => (by cases h), ?_⟩
      rintro ⟨place, hplace, hentry⟩
      cases hplace
      exact absurd hentry (hother ·)

theorem hasDirectory_of_ensureDirectory (h : disk.ensureDirectory directory p = .ok made) :
    made.hasDirectory directory p = true := by
  unfold ensureDirectory at h
  split at h
  · rename_i made' hmake
    cases h
    unfold makeDirectory at hmake
    split at hmake
    · cases hmake
    · rename_i place hlocate
      split at hmake
      · cases hmake
      · rename_i hfree
        cases hmake
        have hnone : disk.entry? place ≠ some .directory := by
          rw [hfree]
          exact fun h => by cases h
        exact hasDirectory_iff.mpr ⟨place, locate_of_within (within_put hnone _) hlocate,
          entry?_put_self hnone _⟩
  · split at h
    · rename_i hthere
      cases h
      exact hthere
    · cases h

theorem ensureDirectory_of_hasDirectory (h : disk.hasDirectory directory p = true) :
    disk.ensureDirectory directory p = .ok disk := by
  obtain ⟨place, hlocate, hentry⟩ := hasDirectory_iff.mp h
  have hmake : disk.makeDirectory directory p = .error .occupied := by
    rw [makeDirectory, hlocate]
    dsimp only
    rw [hentry]
  rw [ensureDirectory, hmake]
  dsimp only
  rw [if_pos h]

theorem hasDirectory_of_makeDirectories (h : disk.makeDirectories directory p = (made, .ok ())) :
    made.hasDirectory directory p = true := by
  rw [makeDirectories] at h
  split at h
  · rename_i hensure
    cases h
    exact hasDirectory_of_ensureDirectory hensure
  · split at h
    · cases h
    · split at h
      · cases h
      · split at h
        · rename_i hensure
          cases h
          exact hasDirectory_of_ensureDirectory hensure
        · cases h
  · cases h

theorem makeDirectories_of_hasDirectory (h : disk.hasDirectory directory p = true) :
    disk.makeDirectories directory p = (disk, .ok ()) := by
  rw [makeDirectories, ensureDirectory_of_hasDirectory h]

/-! ## Places in a directory -/

/-- A path leads to a directory, which is reached by a row of names from the root on. -/
structure Reaches (disk : Disk) (directory p : Path) (names : List String) : Prop where
  follow : disk.follow [] (directory.join p).parts = .ok names
  entry : disk.entry? (placeOf names) = some .directory

theorem exists_reaches (h : disk.hasDirectory directory p = true) :
    ∃ names, disk.Reaches directory p names := by
  obtain ⟨place, hlocate, hentry⟩ := hasDirectory_iff.mp h
  obtain ⟨_, _, names, hfollow, rfl⟩ := locate_eq_ok_iff.mp hlocate
  exact ⟨names, hfollow, hentry⟩

theorem hasDirectory_of_within (hwithin : disk.Within disk')
    (h : disk.hasDirectory directory p = true) : disk'.hasDirectory directory p = true := by
  obtain ⟨place, hlocate, hentry⟩ := hasDirectory_iff.mp h
  exact hasDirectory_iff.mpr ⟨place, locate_of_within hwithin hlocate, hwithin place hentry⟩

theorem follow_append (parts rest : List String) (reached : List String) :
    disk.follow reached (parts ++ rest) =
      disk.follow reached parts >>= fun names => disk.follow names rest := by
  induction parts generalizing reached with
  | nil => rfl
  | cons part parts ih =>
    rw [List.cons_append, follow, follow]
    split
    · rfl
    · rfl
    · split
      · exact ih _
      · split
        · rfl
        · exact ih _

namespace Reaches

theorem within (h : disk.Reaches directory p names) (hwithin : disk.Within disk') :
    disk'.Reaches directory p names :=
  ⟨follow_of_within hwithin h.follow, hwithin _ h.entry⟩

/-- A path with one part more leads to the place of that name, as long as it is not too long. -/
theorem locate_child (h : disk.Reaches directory p names) {part : String} (hpart : part ≠ "..") :
    disk.locate directory (p.child part) =
      if (p.child part).text.toList.contains '\x00' then .error .unusableCharacter
      else if longestPath < (p.child part).text.utf8ByteSize then .error .tooLong
      else if longestName < part.utf8ByteSize then .error .tooLong
      else .ok (placeOf (names ++ [part])) := by
  have hlast : disk.follow names [part] =
      if longestName < part.utf8ByteSize then .error .tooLong else .ok (names ++ [part]) := by
    have hdots : ¬ (part == "..") = true := by simpa using hpart
    rw [Disk.follow, h.entry]
    dsimp only
    rw [if_neg hdots, Disk.follow]
  rw [locate, Path.join_child, follow_append, h.follow, ok_bind, hlast]
  split
  · rfl
  · split
    · rfl
    · split
      · rfl
      · rfl

theorem locate_child_eq_ok (h : disk.Reaches directory p names) {part : String}
    (hpart : part ≠ "..") (hlocate : disk.locate directory (p.child part) = .ok place) :
    place = placeOf (names ++ [part]) := by
  rw [h.locate_child hpart] at hlocate
  split at hlocate
  · cases hlocate
  · split at hlocate
    · cases hlocate
    · split at hlocate
      · cases hlocate
      · cases hlocate
        rfl

end Reaches

end Disk

/-! ## Temporary files -/

open Disk

/-- Whether nothing stands where a temporary file with a number would be. -/
def isFree (disk : Disk) (directory target : Path) (number : Nat) : Bool :=
  match disk.locate directory (target.parent.child (temporaryName target number)) with
  | .ok place => (disk.entry? place).isNone
  | .error _ => false

theorem temporaryPath?_eq (disk : Disk) (directory target : Path) :
    temporaryPath? disk directory target =
      match (List.range (disk.length + 1)).find? (isFree disk directory target) with
      | some number => disk.locate directory (target.parent.child (temporaryName target number))
      | none =>
        disk.locate directory (target.parent.child (temporaryName target 0)) >>=
          fun _ => .error .occupied := rfl

theorem find?_range_of_le {f : Nat → Bool} {m n k : Nat} (h : m ≤ n)
    (hfound : (List.range m).find? f = some k) : (List.range n).find? f = some k := by
  obtain ⟨more, rfl⟩ := Nat.exists_eq_add_of_le h
  rw [List.range_add, List.find?_append, hfound]
  rfl

/-- The place of a temporary file is the first that is free. -/
theorem exists_chosen {disk : Disk} {directory target temporary : Path}
    (h : temporaryPath? disk directory target = .ok temporary) : ∃ number,
      (List.range (disk.length + 1)).find? (isFree disk directory target) = some number ∧
        disk.locate directory (target.parent.child (temporaryName target number)) =
          .ok temporary := by
  rw [temporaryPath?_eq] at h
  split at h
  · rename_i number hchosen
    exact ⟨number, hchosen, h⟩
  · obtain ⟨_, _, h⟩ := bind_eq_ok.mp h
    cases h

theorem entry?_temporaryPath? {disk : Disk} {directory target temporary : Path}
    (h : temporaryPath? disk directory target = .ok temporary) : disk.entry? temporary = none := by
  obtain ⟨number, hchosen, hnumber⟩ := exists_chosen h
  have hfree := List.find?_some hchosen
  rw [isFree, hnumber] at hfree
  exact Option.isNone_iff_eq_none.mp hfree

/-- The name of a temporary file is longer than that of its target. -/
theorem length_temporaryName (target : Path) (number : Nat) :
    target.name.length + 6 ≤ (temporaryName target number).length := by
  have hdot : ".".length = 1 := rfl
  have hending : ".tmp".length = 4 := rfl
  simp only [temporaryName, String.length_append, hdot, hending]
  omega

theorem temporaryName_ne (target : Path) (number : Nat) :
    temporaryName target number ≠ target.name ∧ temporaryName target number ≠ ".." := by
  have hlength := length_temporaryName target number
  have hdots : "..".length = 2 := rfl
  constructor
  · intro h
    rw [h] at hlength
    omega
  · intro h
    rw [h, hdots] at hlength
    omega

/-- The place of a temporary file stays free and stays the first that is, when a file is put beside
it. -/
theorem temporaryPath?_put {disk : Disk} {directory p place temporary : Path} {names : List String}
    {part : String} (hreach : disk.Reaches directory p names) (hpart : part ≠ "..")
    (hplace : disk.locate directory (p.child part) = .ok place)
    (hfile : disk.entry? place ≠ some .directory)
    (htemporary : temporaryPath? disk directory (p.child part) = .ok temporary)
    (data : ByteArray) :
    temporaryPath? (disk.put place.text (.file data)) directory (p.child part) = .ok temporary ∧
      entry? (disk.put place.text (.file data)) temporary = none := by
  set after : Disk := disk.put place.text (.file data)
  have hreach' : after.Reaches directory p names := hreach.within (within_put hfile _)
  have hname := temporaryName_ne (p.child part)
  rw [Path.name_child] at hname
  have hlocate : ∀ number,
      after.locate directory (p.child (temporaryName (p.child part) number)) =
        disk.locate directory (p.child (temporaryName (p.child part) number)) := by
    intro number
    rw [hreach.locate_child (hname number).2, hreach'.locate_child (hname number).2]
  -- the file that is put has another name than any temporary file
  have hentry : ∀ number found,
      disk.locate directory (p.child (temporaryName (p.child part) number)) = .ok found →
        after.entry? found = disk.entry? found := by
    intro number found hfound
    refine entry?_put_of_ne ?_ _
    rw [hreach.locate_child_eq_ok (hname number).2 hfound,
      hreach.locate_child_eq_ok hpart hplace]
    exact fun h => (hname number).1 (eq_of_text_placeOf h)
  have hisFree : isFree after directory (p.child part) = isFree disk directory (p.child part) := by
    funext number
    rw [isFree, isFree, Path.parent_child, hlocate]
    cases hfound : disk.locate directory (p.child (temporaryName (p.child part) number)) with
    | error fault => rfl
    | ok found =>
      dsimp only
      rw [hentry number found hfound]
  obtain ⟨number, hchosen, hnumber⟩ := exists_chosen htemporary
  have hlength : disk.length + 1 ≤ after.length + 1 :=
    Nat.succ_le_succ (Table.length_le_put _ _ disk)
  rw [Path.parent_child] at hnumber
  rw [temporaryPath?_eq, Path.parent_child, hisFree, find?_range_of_le hlength hchosen]
  dsimp only
  rw [hlocate, hentry number temporary hnumber]
  exact ⟨hnumber, entry?_temporaryPath? htemporary⟩

end CsdlRoutes.Host
