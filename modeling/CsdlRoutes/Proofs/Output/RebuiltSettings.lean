import CsdlRoutes.Proofs.Output.PlainTables
import CsdlRoutes.Proofs.Output.SettingLeaves
import CsdlRoutes.Proofs.ProperValues

/-!
# Settings from their flattened form

Settings can be put together again from their pairs: each name is split at its dots, and the value
is set below the keys, where objects are made as they are needed. The result is the settings
themselves, in the same order, provided that their keys are texts without dots and that no object
inside is empty. A dot in a key would be taken for a step inside, and an empty object has no leaf to
tell of it. Keys may be empty.

What is printed tells less. A setting without a value shows as a hyphen and any other value by its
text, so a number shows like the text of its digits. Apart from that nothing is lost, as long as no
tab and no line break stands in what is printed.

* `rebuild`, `rebuild_flatten`: flattened settings are put together again.
* `settingRows_eq_iff`: settings with the same rows show the same at each leaf.
* `flatten_loses_nothing`: all that is said of flattened settings.
* `unset_prints_like_hyphen`: different settings that print the same.
-/

namespace CsdlRoutes

namespace Keyed

variable {α : Type}

theorem put_put (key : Scalar) (v w : α) (entries : Keyed α) :
    put key v (put key w entries) = put key v entries := by
  induction entries with
  | nil => simp [put, Scalar.sameKey_self]
  | cons entry rest ih =>
    obtain ⟨k, u⟩ := entry
    by_cases h : k.sameKey key = true
    · simp [put, h]
    · simp [put, h, ih]

theorem at?_eq_none_of_new {name : String} {entries : Keyed α}
    (h : Scalar.text name ∉ entries.map Prod.fst) : at? (.text name) entries = none := by
  rw [at?, Option.map_eq_none_iff, List.find?_eq_none]
  intro entry hentry hsame
  rw [Scalar.sameKey_text_right] at hsame
  exact h (hsame ▸ List.mem_map_of_mem hentry)

end Keyed

namespace Output

variable {a b members : Members}

/-! ## Putting settings together -/

/-- The keys that a name joins. -/
def keysOf (name : String) : List Scalar :=
  (name.toList.splitOn '.').map fun key => .text (String.ofList key)

/-- The members of the object under a key, if there is one. -/
def inside (key : Scalar) (members : Members) : Members :=
  ((Keyed.at? key members).map Value.members).getD []

/-- Sets a value below a row of keys. -/
def setBelow (value : Value) : List Scalar → Members → Members
  | [], members => members
  | [key], members => Keyed.put key value members
  | key :: next :: keys, members =>
    Keyed.put key (.object (setBelow value (next :: keys) (inside key members))) members

/-- Puts settings together from their pairs. -/
def rebuild (pairs : List (String × Value)) : Members :=
  pairs.foldl (fun members pair => setBelow pair.2 (keysOf pair.1) members) []

/-- Sets leaves one after the other. -/
def setLeaves (ls : List Leaf) (members : Members) : Members :=
  ls.foldl (fun members l => setBelow l.value l.keys members) members

/-- The keys are texts without dots, none of them twice, and no object inside is empty. -/
inductive WellNested : Members → Prop
  | intro {members : Members} (hkeys : members.Distinct)
      (hnames : ∀ m ∈ members, ∃ name, m.1 = .text name ∧ '.' ∉ name.toList)
      (hfull : ∀ m ∈ members, m.2 ≠ .object [])
      (hinner : ∀ m ∈ members, ∀ inner, m.2 = .object inner → WellNested inner) :
      WellNested members

/-! ## Keys -/

theorem WellNested.keys_of_leaf (h : WellNested members) {l : Leaf} (hl : IsLeafOf members l) :
    ∀ key ∈ l.keys, ∃ name, key = .text name ∧ '.' ∉ name.toList := by
  induction hl with
  | member hi _ =>
    cases h with
    | intro _ hnames _ _ =>
      intro k hk
      rw [List.mem_singleton.mp hk]
      exact hnames _ (List.mem_of_getElem? hi)
  | within hi _ ih =>
    cases h with
    | intro _ hnames _ hinner =>
      have hmem := List.mem_of_getElem? hi
      exact List.forall_mem_cons.mpr ⟨hnames _ hmem, ih (hinner _ hmem _ rfl)⟩

/-- Keys that are texts without dots are what their joined name is split into. -/
theorem keysOf_name {l : Leaf} (hne : l.keys ≠ [])
    (h : ∀ key ∈ l.keys, ∃ name, key = .text name ∧ '.' ∉ name.toList) :
    keysOf l.name = l.keys := by
  have hsplit : l.name.toList.splitOn '.' = l.keys.map fun key => key.display.toList := by
    rw [Leaf.name, String.toList_intercalate, List.map_map]
    refine List.splitOn_intercalate '.' ?_ (by simpa using hne)
    intro cs hcs
    obtain ⟨key, hkey, rfl⟩ := List.mem_map.mp hcs
    obtain ⟨name, rfl, hdot⟩ := h key hkey
    exact hdot
  rw [keysOf, hsplit, List.map_map]
  refine (List.map_congr_left fun key hkey => ?_).trans (List.map_id _)
  obtain ⟨name, rfl, _⟩ := h key hkey
  simp [Scalar.display]

theorem rebuild_eq_setLeaves (h : WellNested members) :
    rebuild (flatten members) = setLeaves (leaves members) [] := by
  have hkeys : ∀ l ∈ leaves members, keysOf l.name = l.keys := fun l hl =>
    keysOf_name (mem_leaves_iff.mp hl).keys_ne_nil (h.keys_of_leaf (mem_leaves_iff.mp hl))
  rw [rebuild, flatten_eq_map_leaves, List.foldl_map, setLeaves]
  exact List.foldl_ext _ _ _ fun members l hl => by rw [Leaf.pair, hkeys l hl]

/-! ## Leaves are set where they were -/

theorem setBelow_cons {keys : List Scalar} (h : keys ≠ []) (value : Value) (key : Scalar)
    (members : Members) :
    setBelow value (key :: keys) members =
      Keyed.put key (.object (setBelow value keys (inside key members))) members := by
  cases keys with
  | nil => exact absurd rfl h
  | cons next keys => rfl

theorem inside_put (key : Scalar) (inner members : Members) :
    inside key (Keyed.put key (.object inner) members) = inner := by
  rw [inside, Keyed.at?_put, if_pos (Scalar.sameKey_self key)]
  rfl

/-- Leaves of one object are set inside it. -/
theorem setLeaves_within {ls : List Leaf} (hls : ls ≠ []) (hkeys : ∀ l ∈ ls, l.keys ≠ [])
    (number : Nat) (key : Scalar) (members : Members) :
    setLeaves (ls.map (Leaf.within number key)) members =
      Keyed.put key (.object (setLeaves ls (inside key members))) members := by
  induction ls generalizing members with
  | nil => exact absurd rfl hls
  | cons l rest ih =>
    obtain ⟨hl, hrest⟩ := List.forall_mem_cons.mp hkeys
    have hfirst := setBelow_cons hl l.value key members
    rw [List.map_cons, setLeaves, List.foldl_cons]
    change setLeaves (rest.map (Leaf.within number key))
      (setBelow l.value (key :: l.keys) members) = _
    by_cases hempty : rest = []
    · subst hempty
      exact hfirst
    · rw [ih hempty hrest, hfirst, inside_put, Keyed.put_put]
      rfl

theorem leaves_ne_nil (h : WellNested members) (hne : members ≠ []) : leaves members ≠ [] := by
  induction h with
  | @intro members _ _ hfull _ ih =>
    cases members with
    | nil => exact absurd rfl hne
    | cons m rest =>
      obtain ⟨key, v⟩ := m
      rw [leaves, leavesFrom]
      refine List.append_ne_nil_of_left_ne_nil ?_ _
      rcases v.isLeaf_or_object with hv | ⟨inner, rfl⟩
      · rw [leavesUnder_leaf hv]
        exact List.cons_ne_nil _ _
      · have hinner : inner ≠ [] := fun hnil => hfull _ List.mem_cons_self (by rw [hnil])
        rw [leavesUnder_object]
        simpa using ih _ List.mem_cons_self inner rfl hinner

/-- Setting the leaves of a member adds it at the end. -/
theorem setLeaves_leavesUnder {name : String} {v : Value} {before : Members} (number : Nat)
    (hnew : Scalar.text name ∉ before.map Prod.fst)
    (h : ∀ inner, v = .object inner → leaves inner ≠ [] ∧ setLeaves (leaves inner) [] = inner) :
    setLeaves (leavesUnder number (.text name) v) before = before ++ [(.text name, v)] := by
  rcases v.isLeaf_or_object with hv | ⟨inner, rfl⟩
  · rw [leavesUnder_leaf hv]
    exact Keyed.put_of_new hnew
  · obtain ⟨hsome, hinner⟩ := h inner rfl
    have hkeys : ∀ l ∈ leaves inner, l.keys ≠ [] := fun l hl => (mem_leaves_iff.mp hl).keys_ne_nil
    have hempty : inside (.text name) before = [] := by
      rw [inside, Keyed.at?_eq_none_of_new hnew]
      rfl
    rw [leavesUnder_object, setLeaves_within hsome hkeys, hempty, hinner]
    exact Keyed.put_of_new hnew

theorem setLeaves_leaves (h : WellNested members) : setLeaves (leaves members) [] = members := by
  induction h with
  | @intro members hkeys hnames hfull hinner ih =>
    have hmember : ∀ m ∈ members, ∀ inner, m.2 = .object inner →
        leaves inner ≠ [] ∧ setLeaves (leaves inner) [] = inner := fun m hm inner hv =>
      ⟨leaves_ne_nil (hinner m hm inner hv) fun hnil => hfull m hm (by rw [hv, hnil]),
        ih m hm inner hv⟩
    suffices hrow : ∀ number before, Keyed.Distinct (before ++ members) →
        setLeaves (leavesFrom number members) before = before ++ members from hrow 0 [] hkeys
    clear hkeys hfull hinner ih
    induction members with
    | nil => exact fun _ before _ => (List.append_nil before).symm
    | cons m rest ih =>
      intro number before hdistinct
      obtain ⟨⟨name, hkey, _⟩, hothers⟩ := List.forall_mem_cons.mp hnames
      obtain ⟨hfirst, hrest⟩ := List.forall_mem_cons.mp hmember
      obtain ⟨key, v⟩ := m
      obtain rfl : key = .text name := hkey
      have hnew : Scalar.text name ∉ before.map Prod.fst := by
        rw [Keyed.Distinct, List.map_append, List.nodup_append'] at hdistinct
        exact fun hmem => hdistinct.2.2 hmem List.mem_cons_self
      rw [leavesFrom, setLeaves, List.foldl_append]
      change setLeaves (leavesFrom (number + 1) rest)
        (setLeaves (leavesUnder number (.text name) v) before) = _
      rw [List.append_cons] at hdistinct ⊢
      rw [setLeaves_leavesUnder number hnew hfirst]
      exact ih hothers hrest (number + 1) _ hdistinct

/-- Flattened settings are put together again. -/
theorem rebuild_flatten (h : WellNested members) : rebuild (flatten members) = members :=
  (rebuild_eq_setLeaves h).trans (setLeaves_leaves h)

theorem flatten_inj (ha : WellNested a) (hb : WellNested b) : flatten a = flatten b ↔ a = b := by
  constructor
  · intro h
    rw [← rebuild_flatten ha, h, rebuild_flatten hb]
  · exact congrArg flatten

/-! ## Rows of settings -/

mutual

/-- A row of members with another value in place of each leaf. -/
def withLeaves (f : Value → Value) : List (Scalar × Value) → List (Scalar × Value)
  | [] => []
  | (key, v) :: rest => (key, withLeaf f v) :: withLeaves f rest

/-- A value with another one in place of each leaf. -/
def withLeaf (f : Value → Value) : Value → Value
  | .object members => .object (withLeaves f members)
  | v => f v

end

theorem withLeaf_leaf {v : Value} (hv : v.IsLeaf) (f : Value → Value) : withLeaf f v = f v := by
  cases v with
  | object members => exact absurd rfl (hv members)
  | _ => rfl

theorem withLeaves_eq_map (f : Value → Value) (members : Members) :
    withLeaves f members = members.map fun m => (m.1, withLeaf f m.2) := by
  induction members with
  | nil => rfl
  | cons m rest ih => rw [withLeaves, ih, List.map_cons]

theorem flattenMember_withLeaf {f : Value → Value} (hf : ∀ v, (f v).IsLeaf) {name : String}
    {v : Value} (h : ∀ inner, v = .object inner → ∀ stem, flattenUnder stem (withLeaves f inner) =
      (flattenUnder stem inner).map fun p => (p.1, f p.2)) :
    flattenMember name (withLeaf f v) = (flattenMember name v).map fun p => (p.1, f p.2) := by
  rcases v.isLeaf_or_object with hv | ⟨inner, rfl⟩
  · rw [withLeaf_leaf hv, flattenMember_leaf hv, flattenMember_leaf (hf v)]
    rfl
  · exact h inner rfl _

theorem flattenUnder_withLeaves {f : Value → Value} (hf : ∀ v, (f v).IsLeaf) (stem : String)
    (members : Members) :
    flattenUnder stem (withLeaves f members) =
      (flattenUnder stem members).map fun p => (p.1, f p.2) := by
  induction members using Members.nested generalizing stem with
  | step members hinner =>
    induction members with
    | nil => rfl
    | cons m rest ih =>
      obtain ⟨hfirst, hrest⟩ := List.forall_mem_cons.mp hinner
      rw [withLeaves, flattenUnder, flattenUnder, List.map_append, ih hrest,
        flattenMember_withLeaf hf fun inner hv stem => hfirst inner hv stem]

/-- Other leaves under the same keys are as well nested. -/
theorem WellNested.withLeaves {f : Value → Value} (hf : ∀ v, (f v).IsLeaf)
    (h : WellNested members) : WellNested (withLeaves f members) := by
  induction h with
  | @intro members hkeys hnames hfull _ ih =>
    have hobject : ∀ v inner, withLeaf f v = .object inner →
        ∃ own, v = .object own ∧ inner = Output.withLeaves f own := fun v inner hv => by
      rcases v.isLeaf_or_object with hleaf | ⟨own, rfl⟩
      · rw [withLeaf_leaf hleaf] at hv
        exact absurd hv (hf v inner)
      · exact ⟨own, rfl, (Value.object.inj hv).symm⟩
    rw [withLeaves_eq_map]
    refine .intro ?_ ?_ ?_ ?_
    · rw [Keyed.Distinct, List.map_map]
      exact hkeys
    · exact List.forall_mem_map.mpr hnames
    · refine List.forall_mem_map.mpr fun m hm hv => ?_
      obtain ⟨own, hown, hnil⟩ := hobject _ _ hv
      cases own with
      | nil => exact hfull m hm hown
      | cons first rest => cases hnil
    · refine List.forall_mem_map.mpr fun m hm inner hv => ?_
      obtain ⟨own, hown, rfl⟩ := hobject _ _ hv
      exact ih m hm own hown

/-- What is shown of the value of a setting. -/
def settingCell (v : Value) : String := if v = .null then "-" else v.display

/-- Settings with the text that is shown in place of each value. -/
def shownSettings (settings : Members) : Members :=
  withLeaves (fun v => .text (settingCell v)) settings

/-- The rows in which settings are shown. -/
def settingRows (settings : Members) : List (List String) := (flatten settings).map settingRow

theorem isLeaf_text (s : String) : (Value.text s).IsLeaf := fun _ h => by cases h

theorem WellNested.shown (h : WellNested members) : WellNested (shownSettings members) :=
  h.withLeaves fun _ => isLeaf_text _

/-- The name of a setting and what is shown of its value. -/
def settingCells (pair : String × Value) : String × String := (pair.1, settingCell pair.2)

theorem settingRows_eq_map (settings : Members) :
    settingRows settings = ((flatten settings).map settingCells).map fun p => [p.1, p.2] := by
  rw [settingRows, List.map_map]
  rfl

theorem flatten_shownSettings (settings : Members) :
    flatten (shownSettings settings) =
      ((flatten settings).map settingCells).map fun p => (p.1, .text p.2) := by
  rw [List.map_map]
  exact flattenUnder_withLeaves (fun _ => isLeaf_text _) "" settings

/-- Two settings have the same rows exactly when they are the same but for values that are shown
alike. -/
theorem settingRows_eq_iff (ha : WellNested a) (hb : WellNested b) :
    settingRows a = settingRows b ↔ shownSettings a = shownSettings b := by
  have hrow : Function.Injective fun p : String × String => [p.1, p.2] := fun p q h => by
    simpa [Prod.ext_iff] using h
  have hpair : Function.Injective fun p : String × String => (p.1, Value.text p.2) :=
    fun p q h => by simpa [Prod.ext_iff] using h
  rw [← flatten_inj ha.shown hb.shown, settingRows_eq_map, settingRows_eq_map,
    flatten_shownSettings, flatten_shownSettings, (List.map_injective_iff.mpr hrow).eq_iff,
    (List.map_injective_iff.mpr hpair).eq_iff]

/-- Settings whose keys and shown values hold no tab and no line break are printed alike in plain
format exactly when they have the same rows. -/
theorem settingsText_plain_eq_iff (ha : ∀ row ∈ settingRows a, FitsLine row)
    (hb : ∀ row ∈ settingRows b, FitsLine row) :
    settingsText .plain a = settingsText .plain b ↔ settingRows a = settingRows b := by
  have hheaders : FitsLine ["Setting", "Value"] := by decide
  constructor
  · intro h
    have hcells : ∀ settings, (∀ row ∈ settingRows settings, FitsLine row) →
        cellsOf (settingsText .plain settings) = ["Setting", "Value"] :: settingRows settings :=
      fun settings hsettings => cellsOf_texts (List.forall_mem_cons.mpr ⟨hheaders, hsettings⟩)
    have hsame := congrArg cellsOf h
    rw [hcells a ha, hcells b hb] at hsame
    exact (List.cons.inj hsame).2
  · exact congrArg fun rows =>
      String.join (Listing.texts .plain ⟨"Configuration", ["Setting", "Value"], rows⟩)

/-! ## Settings and their flattened form -/

/-- **Flattening loses nothing.** Flattened settings are the leaves of the settings, each of them
once and in the order of their places, under its keys joined by dots. Where the keys are texts
without dots and no object inside is empty, the settings are put together again from their pairs, in
the same order, so different settings have different pairs. The rows of two settings are the same
exactly when the settings are the same but for values that are shown alike, and so are their plain
tables, as long as no tab and no line break stands in the cells. -/
theorem flatten_loses_nothing :
    (∀ settings, ∃ ls : List Leaf, (∀ l, l ∈ ls ↔ IsLeafOf settings l) ∧
      (ls.Pairwise fun k l => k.place < l.place) ∧ flatten settings = ls.map Leaf.pair) ∧
    (∀ settings, WellNested settings → rebuild (flatten settings) = settings) ∧
    ∀ a b, WellNested a → WellNested b →
      (flatten a = flatten b ↔ a = b) ∧
      (settingRows a = settingRows b ↔ shownSettings a = shownSettings b) ∧
      ((∀ row ∈ settingRows a, FitsLine row) → (∀ row ∈ settingRows b, FitsLine row) →
        (settingsText .plain a = settingsText .plain b ↔ shownSettings a = shownSettings b)) := by
  refine ⟨fun settings => ?_, fun settings => rebuild_flatten, fun a b ha hb => ?_⟩
  · exact ⟨leaves settings, fun l => mem_leaves_iff, pairwise_places settings,
      flatten_eq_map_leaves settings⟩
  · exact ⟨flatten_inj ha hb, settingRows_eq_iff ha hb, fun hlinesA hlinesB =>
      (settingsText_plain_eq_iff hlinesA hlinesB).trans (settingRows_eq_iff ha hb)⟩

/-- Settings with empty keys, with a leaf beside an object in an object, and with an empty object in
a list. -/
def layeredSettings : Members :=
  [(.text "", .object [(.text "", .scalar (.bool true))]),
   (.text "traversal", .object
     [(.text "max_depth", .text "5"), (.text "limits", .object [(.text "rows", .null)])]),
   (.text "sources", .list [.object []])]

/-- The same settings with an object less inside. -/
def flatterSettings : Members :=
  [(.text "", .scalar (.bool true)),
   (.text "traversal", .object [(.text "max_depth", .text "5"), (.text "rows", .null)]),
   (.text "sources", .list [.object []])]

theorem layeredSettings_wellNested : WellNested layeredSettings := by
  have hlimits : WellNested [(.text "rows", .null)] :=
    .intro (by decide) (by simp) (by simp) (by simp)
  have htraversal : WellNested
      [(.text "max_depth", .text "5"), (.text "limits", .object [(.text "rows", .null)])] :=
    .intro (by decide) (by simp) (by simp) (by simpa using hlimits)
  have hempty : WellNested [(.text "", .scalar (.bool true))] :=
    .intro (by decide) (by simp) (by simp) (by simp)
  exact .intro (by decide) (by simp [layeredSettings]) (by simp [layeredSettings])
    (by simpa [layeredSettings] using ⟨hempty, htraversal⟩)

theorem flatterSettings_wellNested : WellNested flatterSettings := by
  have htraversal : WellNested [(.text "max_depth", .text "5"), (.text "rows", .null)] :=
    .intro (by decide) (by simp) (by simp) (by simp)
  exact .intro (by decide) (by simp [flatterSettings]) (by simp [flatterSettings])
    (by simpa [flatterSettings] using htraversal)

theorem layeredSettings_lose_nothing :
    flatten layeredSettings =
      [(".", .scalar (.bool true)), ("traversal.max_depth", .text "5"),
       ("traversal.limits.rows", .null), ("sources", .list [.object []])] ∧
    rebuild (flatten layeredSettings) = layeredSettings ∧
    flatten layeredSettings ≠ flatten flatterSettings ∧
    settingRows layeredSettings ≠ settingRows flatterSettings ∧
    settingsText .plain layeredSettings ≠ settingsText .plain flatterSettings := by
  obtain ⟨_, hrebuilt, htold⟩ := flatten_loses_nothing
  obtain ⟨hpairs, hrows, hprinted⟩ :=
    htold _ _ layeredSettings_wellNested flatterSettings_wellNested
  have hshown : shownSettings layeredSettings ≠ shownSettings flatterSettings := by decide
  refine ⟨rfl, hrebuilt _ layeredSettings_wellNested, ?_, ?_, ?_⟩
  · rw [Ne, hpairs]
    decide
  · rwa [Ne, hrows]
  · rwa [Ne, hprinted (by decide) (by decide)]

/-- The setting for the schema without a value, and with a hyphen as its value. -/
def hyphenSettings (value : Value) : Members := [(.text "default_schema", value)]

/-- Settings that differ in whether there is a value print the same table. -/
theorem unset_prints_like_hyphen :
    WellNested (hyphenSettings .null) ∧ WellNested (hyphenSettings (.text "-")) ∧
      hyphenSettings .null ≠ hyphenSettings (.text "-") ∧
      settingsText .plain (hyphenSettings .null) =
        settingsText .plain (hyphenSettings (.text "-")) :=
  ⟨.intro (by decide) (by simp [hyphenSettings]) (by simp [hyphenSettings])
      (by simp [hyphenSettings]),
    .intro (by decide) (by simp [hyphenSettings]) (by simp [hyphenSettings])
      (by simp [hyphenSettings]),
    by decide, rfl⟩

end Output

end CsdlRoutes
