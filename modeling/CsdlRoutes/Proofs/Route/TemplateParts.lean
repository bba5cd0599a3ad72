import CsdlRoutes.Proofs.Results
import CsdlRoutes.Route.Template

/-!
# Reading templates back

The parts of a template can be told apart by their characters, if names are made of letters, digits
and underscores. A placeholder begins with a brace, a cast has a dot in it, the part for a reference
has a dollar sign, and none of these stands in a name. No part has a slash in it, and so a template
can be split into its parts again.

* `isWord`, `isDotted`: what names and qualified names are made of.
* `slash_notMem_keyParameters`: the placeholders of a route have no slash in them.
* `legend_eq_of_assemble_eq`: a template determines the names and the casts of its route.
-/

namespace CsdlRoutes.Route

open Schema (Model Property SchemaType)

/-! ## Names -/

/-- Whether a character may stand in a name: letters, digits and the underscore. Beyond ASCII every
character counts as a letter. -/
def isWordChar (c : Char) : Bool := c.isAlphanum || c == '_' || decide (0x80 ≤ c.toNat)

/-- Whether a name is made of letters, digits and underscores. -/
def isWord (name : String) : Bool := name.toList.all isWordChar

/-- Whether a name is made of letters, digits, underscores and dots. -/
def isDotted (name : String) : Bool := name.toList.all fun c => isWordChar c || c == '.'

theorem notMem_of_isWord {name : String} (h : isWord name = true) {c : Char}
    (hc : isWordChar c = false) : c ∉ name.toList := by
  intro hmem
  have hword := List.all_eq_true.mp h c hmem
  rw [hc] at hword
  cases hword

theorem notMem_of_isDotted {name : String} (h : isDotted name = true) {c : Char}
    (hc : (isWordChar c || c == '.') = false) : c ∉ name.toList := by
  intro hmem
  have hdotted := List.all_eq_true.mp h c hmem
  rw [hc] at hdotted
  cases hdotted

theorem isDotted_of_isWord {name : String} (h : isWord name = true) : isDotted name = true := by
  refine List.all_eq_true.mpr fun c hc => ?_
  rw [List.all_eq_true.mp h c hc, Bool.true_or]

/-! ## Small letters -/

theorem code_of_ofNat_eq_slash {code : Nat} (h : Char.ofNat code = '/') : code = 0x2f := by
  by_cases hvalid : code.isValidChar
  · rw [Char.ofNat, dif_pos hvalid] at h
    exact congrArg Char.toNat h
  · rw [Char.ofNat, dif_neg hvalid] at h
    exact absurd h (by decide)

theorem slash_ne_toLower {c : Char} (hc : c.toNat < 0x80) (h : c ≠ '/') : c.toLower ≠ '/' := by
  have hascii : ∀ code < 0x80, Char.ofNat code ≠ '/' → (Char.ofNat code).toLower ≠ '/' := by
    decide
  have hsame := hascii c.toNat hc
  rw [Char.ofNat_toNat] at hsame
  exact hsame h

theorem slash_ne_simpleLower {c : Char} (h : c ≠ '/') : Text.simpleLower c ≠ '/' := by
  unfold Text.simpleLower
  split
  · rename_i lo hi step offset hrow
    have hrange := List.find?_some hrow
    simp only [Bool.and_eq_true, decide_eq_true_eq] at hrange
    -- No row leads to a character as low as the slash.
    have hlow : ∀ row ∈ Text.lowerTable, (0x30 : Int) ≤ row.1 + row.2.2.2 := by
      set_option maxRecDepth 4000 in decide
    have hrow := hlow _ (List.mem_of_find?_eq_some hrow)
    dsimp only at hrow
    intro heq
    have hcode := code_of_ofNat_eq_slash heq
    rw [Int.ofNat_eq_natCast] at hcode
    omega
  · exact h

theorem slash_notMem_lowerChar {c : Char} (h : c ≠ '/') : '/' ∉ Text.lowerChar c := by
  unfold Text.lowerChar
  split
  · rename_i hascii
    rw [List.mem_singleton]
    exact (slash_ne_toLower hascii h).symm
  · split
    · decide
    · rw [List.mem_singleton]
      exact (slash_ne_simpleLower h).symm

theorem slash_notMem_lowerAfter {before cs : List Char} (h : '/' ∉ cs) :
    '/' ∉ Text.lowerAfter before cs := by
  induction cs generalizing before with
  | nil => exact List.not_mem_nil
  | cons c rest ih =>
    obtain ⟨hc, hrest⟩ := List.ne_and_not_mem_of_not_mem_cons h
    rw [Text.lowerAfter, List.mem_append, not_or]
    refine ⟨?_, ih hrest⟩
    split
    · split <;> decide
    · exact slash_notMem_lowerChar (Ne.symm hc)

theorem slash_notMem_lowerFirst {name : String} (h : '/' ∉ name.toList) :
    '/' ∉ (lowerFirst name).toList := by
  unfold lowerFirst
  split
  · exact h
  · rename_i c rest hname
    rw [hname] at h
    obtain ⟨hc, hrest⟩ := List.ne_and_not_mem_of_not_mem_cons h
    rw [String.toList_append, String.toList_ofList, List.mem_append, not_or]
    refine ⟨?_, hrest⟩
    rw [Text.lower, String.toList_ofList]
    exact slash_notMem_lowerAfter (by simpa using hc)

/-! ## Placeholders -/

theorem slash_notMem_shortName {name : String} (h : '/' ∉ name.toList) :
    '/' ∉ (Schema.shortName name).toList := by
  unfold Schema.shortName
  split
  · rename_i before after hsplit
    rw [(Schema.splitAtLastDot?_eq_some hsplit).1] at h
    rw [String.toList_ofList]
    exact fun hmem => h (List.mem_append_right _ (List.mem_cons_of_mem _ hmem))
  · exact h

theorem slash_notMem_toString (n : Nat) : '/' ∉ (toString n).toList := by
  rw [Nat.toString_eq_ofList_toDigits, String.toList_ofList]
  intro hmem
  exact absurd (Nat.isDigit_of_mem_toDigits (by decide) (by decide) hmem) (by decide)

theorem slash_notMem_placeholder {stem : String} (h : '/' ∉ stem.toList) (used : List String) :
    '/' ∉ (placeholder used stem).toList := by
  unfold placeholder
  dsimp only
  split
  · exact h
  · rw [String.toList_append, List.mem_append, not_or]
    exact ⟨h, slash_notMem_toString _⟩

variable {m : Model}

/-- What becomes of a segment: it is no collection, or it has a placeholder and its stem counts as
used from there on. -/
theorem keyParametersFrom_cons_eq_ok {used : List String} {position : Nat} {p : Property}
    {rest : List Property} {keys : List KeyParameter}
    (h : keyParametersFrom m used position (p :: rest) = .ok keys) :
    p.isCollection = false ∧ keyParametersFrom m used (position + 1) rest = .ok keys ∨
      p.isCollection = true ∧ ∃ target stem more, m.targetType p = .ok target ∧
        stem = lowerFirst target.shortName ++ "Id" ∧
        keyParametersFrom m (used ++ [stem]) (position + 1) rest = .ok more ∧
        keys = ⟨placeholder used stem, position, p, target.name⟩ :: more := by
  rw [keyParametersFrom] at h
  split at h
  · rename_i hcollection
    obtain ⟨target, htarget, h⟩ := bind_eq_ok.mp h
    obtain ⟨more, hmore, h⟩ := bind_eq_ok.mp h
    cases h
    exact Or.inr ⟨hcollection, target, _, more, htarget, rfl, hmore, rfl⟩
  · rename_i hsingle
    exact Or.inl ⟨Bool.eq_false_iff.mpr hsingle, h⟩

theorem slash_notMem_keyParametersFrom {route : List Property}
    (htargets : ∀ p ∈ route, ∀ t, m.targetType p = .ok t → '/' ∉ t.name.toList)
    {used : List String} {position : Nat} {keys : List KeyParameter}
    (hkeys : keyParametersFrom m used position route = .ok keys) :
    ∀ k ∈ keys, '/' ∉ k.name.toList := by
  induction route generalizing used position keys with
  | nil =>
    cases hkeys
    exact List.forall_mem_nil _
  | cons p rest ih =>
    have hrest := fun q hq => htargets q (List.mem_cons_of_mem _ hq)
    rcases keyParametersFrom_cons_eq_ok hkeys with
      ⟨_, hmore⟩ | ⟨_, target, stem, more, htarget, rfl, hmore, rfl⟩
    · exact ih hrest hmore
    · have hname := htargets p List.mem_cons_self target htarget
      refine List.forall_mem_cons.mpr ⟨slash_notMem_placeholder ?_ used, ih hrest hmore⟩
      rw [String.toList_append, List.mem_append, not_or]
      exact ⟨slash_notMem_lowerFirst (slash_notMem_shortName hname), by decide⟩

/-- The placeholders of a route have no slash in them, unless a type that the route passes has. -/
theorem slash_notMem_keyParameters {route : List Property}
    (htargets : ∀ p ∈ route.dropLast, ∀ t, m.targetType p = .ok t → '/' ∉ t.name.toList)
    {keys : List KeyParameter} (hkeys : keyParameters m route = .ok keys) :
    ∀ k ∈ keys, '/' ∉ k.name.toList := slash_notMem_keyParametersFrom htargets hkeys

/-! ## Parts -/

/-- A segment can be recognised: its name is a word, and its cast is a name with a dot in it. -/
structure Legible (segment : Property × Option String) : Prop where
  name : isWord segment.1.name = true
  cast : ∀ name, segment.2 = some name → isDotted name = true ∧ '.' ∈ name.toList

/-- What is written for a segment of a template: its cast and its name. -/
def legend (segment : Property × Option String) : Option String × String :=
  (segment.2, segment.1.name)

/-- Casts and names in the order in which a template has them. -/
def labels (segments : List (Property × Option String)) : List String :=
  segments.flatMap fun (p, cast) => cast.toList ++ [p.name]

variable {segments segments' : List (Property × Option String)}

theorem isDotted_labels (h : ∀ s ∈ segments, Legible s) :
    ∀ part ∈ labels segments, isDotted part = true := by
  intro part hpart
  obtain ⟨⟨p, cast⟩, hs, hpart⟩ := List.mem_flatMap.mp hpart
  rcases List.mem_append.mp hpart with hcast | hname
  · exact ((h _ hs).cast part (Option.mem_toList.mp hcast)).1
  · rw [List.mem_singleton.mp hname]
    exact isDotted_of_isWord (h _ hs).name

/-- A part with a dot is a cast, one without is a name. -/
theorem legend_eq_of_labels_eq (h : ∀ s ∈ segments, Legible s) (h' : ∀ s ∈ segments', Legible s)
    (heq : labels segments = labels segments') : segments.map legend = segments'.map legend := by
  have hdot : isWordChar '.' = false := by decide
  induction segments generalizing segments' with
  | nil =>
    cases segments' with
    | nil => rfl
    | cons s rest =>
      obtain ⟨p, cast⟩ := s
      cases cast <;> cases heq
  | cons s rest ih =>
    obtain ⟨p, cast⟩ := s
    obtain ⟨hs, hrest⟩ := List.forall_mem_cons.mp h
    have hp : '.' ∉ p.name.toList := notMem_of_isWord hs.name hdot
    cases segments' with
    | nil => cases cast <;> cases heq
    | cons s' rest' =>
      obtain ⟨p', cast'⟩ := s'
      obtain ⟨hs', hrest'⟩ := List.forall_mem_cons.mp h'
      have hp' : '.' ∉ p'.name.toList := notMem_of_isWord hs'.name hdot
      cases cast with
      | none =>
        cases cast' with
        | none =>
          obtain ⟨hname, hlabels⟩ := List.cons.inj heq
          rw [List.map_cons, List.map_cons, ih hrest hrest' hlabels, legend, legend, hname]
        | some d' => exact absurd ((List.cons.inj heq).1 ▸ (hs'.cast d' rfl).2) hp
      | some d =>
        cases cast' with
        | none => exact absurd ((List.cons.inj heq).1 ▸ (hs.cast d rfl).2) hp'
        | some d' =>
          obtain ⟨hcast, htail⟩ := List.cons.inj heq
          obtain ⟨hname, hlabels⟩ := List.cons.inj htail
          rw [List.map_cons, List.map_cons, ih hrest hrest' hlabels, legend, legend, hname, hcast]

/-- The parts that are made of letters, digits, underscores and dots are the casts and the names. -/
theorem filter_templateParts (h : ∀ s ∈ segments, Legible s) (keys : List KeyParameter)
    (position : Nat) :
    (templateParts keys position segments).filter isDotted = labels segments := by
  induction segments generalizing position with
  | nil => rfl
  | cons s rest ih =>
    obtain ⟨p, cast⟩ := s
    obtain ⟨hs, hrest⟩ := List.forall_mem_cons.mp h
    have hplaceholder : ∀ key? : Option KeyParameter,
        ((key?.map fun k => "\x7b" ++ k.name ++ "\x7d").toList).filter isDotted = [] := by
      intro key?
      cases key? with
      | none => rfl
      | some k => simp [isDotted, isWordChar]
    have hlabels := isDotted_labels (List.forall_mem_singleton.mpr hs)
    have hhead : (cast.toList ++ [p.name]).filter isDotted = cast.toList ++ [p.name] :=
      List.filter_eq_self.mpr (by simpa [labels] using hlabels)
    rw [templateParts, List.append_cons, List.filter_append, hhead, List.filter_append,
      hplaceholder, ih hrest]
    rfl

theorem slash_notMem_templateParts (h : ∀ s ∈ segments, Legible s) {keys : List KeyParameter}
    (hkeys : ∀ k ∈ keys, '/' ∉ k.name.toList) (position : Nat) :
    ∀ part ∈ templateParts keys position segments, '/' ∉ part.toList := by
  induction segments generalizing position with
  | nil => exact List.forall_mem_nil _
  | cons s rest ih =>
    obtain ⟨p, cast⟩ := s
    obtain ⟨hs, hrest⟩ := List.forall_mem_cons.mp h
    intro part hpart
    rw [templateParts, List.append_cons] at hpart
    rcases List.mem_append.mp hpart with hlabel | hpart
    · have hlabels := isDotted_labels (List.forall_mem_singleton.mpr hs)
      exact notMem_of_isDotted (hlabels part (by simpa [labels] using hlabel)) (by decide)
    · rcases List.mem_append.mp hpart with hkey | hpart
      · obtain ⟨k, hk, rfl⟩ := Option.map_eq_some_iff.mp (Option.mem_toList.mp hkey)
        have hname := hkeys k (List.mem_of_find?_eq_some hk)
        simpa using hname
      · exact ih hrest (position + 1) part hpart

/-! ## Templates -/

/-- The parts of a template with the one for a reference. -/
def allParts (m : Model) (route : List Property) (keys : List KeyParameter)
    (casts : List (Option String)) : List String :=
  templateParts keys 0 (route.zip casts) ++ if isReference m route then [referenceSegment] else []

variable {route route' : List Property} {keys keys' : List KeyParameter}
  {casts casts' : List (Option String)}

theorem filter_allParts (h : ∀ s ∈ route.zip casts, Legible s) :
    (allParts m route keys casts).filter isDotted = labels (route.zip casts) := by
  rw [allParts, List.filter_append, filter_templateParts h]
  split
  · have hreference : isDotted referenceSegment = false := by decide
    simp [hreference]
  · simp

theorem toList_assemble : (assemble m route keys casts).toList =
    '/' :: ['/'].intercalate ((allParts m route keys casts).map String.toList) := by
  rw [assemble, String.toList_append, String.toList_intercalate]
  rfl

theorem splitOn_assemble (h : ∀ s ∈ route.zip casts, Legible s)
    (hkeys : ∀ k ∈ keys, '/' ∉ k.name.toList) (hne : route.zip casts ≠ []) :
    (assemble m route keys casts).toList.tail.splitOn '/' =
      (allParts m route keys casts).map String.toList := by
  have hslash : ∀ part ∈ allParts m route keys casts, '/' ∉ part.toList := by
    intro part hpart
    rcases List.mem_append.mp hpart with hpart | hpart
    · exact slash_notMem_templateParts h hkeys 0 part hpart
    · split at hpart
      · rw [List.mem_singleton.mp hpart]
        decide
      · cases hpart
  have hparts : allParts m route keys casts ≠ [] := by
    obtain ⟨⟨p, cast⟩, rest, hsegments⟩ := List.exists_cons_of_ne_nil hne
    simp [allParts, hsegments, templateParts]
  rw [toList_assemble, List.tail_cons]
  exact List.splitOn_intercalate '/' (by simpa using hslash) (by simpa using hparts)

/-- A template determines the names and the casts of its route, with or without placeholders. -/
theorem legend_eq_of_assemble_eq (h : ∀ s ∈ route.zip casts, Legible s)
    (h' : ∀ s ∈ route'.zip casts', Legible s) (hkeys : ∀ k ∈ keys, '/' ∉ k.name.toList)
    (hkeys' : ∀ k ∈ keys', '/' ∉ k.name.toList) (hne : route.zip casts ≠ [])
    (hne' : route'.zip casts' ≠ [])
    (heq : assemble m route keys casts = assemble m route' keys' casts') :
    (route.zip casts).map legend = (route'.zip casts').map legend := by
  refine legend_eq_of_labels_eq h h' ?_
  have hparts : allParts m route keys casts = allParts m route' keys' casts' := by
    refine List.map_injective_iff.mpr (fun _ _ => String.ext) ?_
    rw [← splitOn_assemble h hkeys hne, ← splitOn_assemble h' hkeys' hne', heq]
  rw [← filter_allParts h, hparts, filter_allParts h']

end CsdlRoutes.Route
