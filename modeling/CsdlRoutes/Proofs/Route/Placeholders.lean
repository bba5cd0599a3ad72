import CsdlRoutes.Proofs.Route.DistinctTemplates

/-!
# Placeholders

Each collection of a route but the last segment has a placeholder, named after the type of its
members. The name is a stem that ends in `Id`, and from the second use of a stem on a number follows
it. Two names cannot be the same: digits at the end of a name are never part of the stem, so a name
tells its stem and its number, and of one stem each number is given once. That holds whatever types
are called, and it does not matter where the route leads, as long as its targets can be looked up.

A template has a slot for a placeholder behind each segment. There is a template when all casts can
be told. For a cast the base types of a target may be needed, so that a target whose base type is
missing can leave a route without a template although each of its segments leads somewhere.

* `placeholder_inj`: a name tells its stem and its number.
* `nodup_keyParametersFrom`, `segments_keyParameters`: the names of the placeholders of a route, and
  the segments that they belong to.
* `reduceOption_slots`, `assemble_eq_lineUp`: where a template has its placeholders.
* `exists_template_iff`: when there is a template.
* `placeholders_never_clash`: the placeholders of a route and their places in its template.
-/

namespace CsdlRoutes.Route

open Schema (Model Property SchemaType)

/-! ## Names of placeholders -/

/-- A text that does not end in a digit has no digits at its end. -/
theorem eq_nil_of_digits {text before digits : List Char} {c : Char} (hc : c.isDigit = false)
    (hdigits : ∀ d ∈ digits, d.isDigit = true) (h : text ++ [c] = before ++ digits) :
    digits = [] := by
  rcases digits.eq_nil_or_concat with rfl | ⟨init, d, rfl⟩
  · rfl
  · rw [List.concat_eq_append] at h hdigits
    rw [← List.append_assoc] at h
    obtain ⟨_, hlast⟩ := List.append_inj' h rfl
    have hd := hdigits d (List.mem_append_right _ List.mem_cons_self)
    rw [← List.head_eq_of_cons_eq hlast, hc] at hd
    cases hd

/-- Digits behind texts that do not end in digits can be told from the texts. -/
theorem append_digits_inj {text text' digits digits' : List Char} {c c' : Char}
    (hc : c.isDigit = false) (hc' : c'.isDigit = false) (hdigits : ∀ d ∈ digits, d.isDigit = true)
    (hdigits' : ∀ d ∈ digits', d.isDigit = true)
    (h : (text ++ [c]) ++ digits = (text' ++ [c']) ++ digits') :
    text ++ [c] = text' ++ [c'] ∧ digits = digits' := by
  rcases List.append_eq_append_iff.mp h with ⟨more, htext, rfl⟩ | ⟨more, htext, rfl⟩
  · have hmore := eq_nil_of_digits hc' (fun d hd => hdigits d (List.mem_append_left _ hd)) htext
    rw [hmore, List.append_nil] at htext
    exact ⟨htext.symm, by rw [hmore, List.nil_append]⟩
  · have hmore := eq_nil_of_digits hc (fun d hd => hdigits' d (List.mem_append_left _ hd)) htext
    rw [hmore, List.append_nil] at htext
    exact ⟨htext, by rw [hmore, List.nil_append]⟩

/-- What follows the stem of a placeholder, given how often the stem was used before. -/
def numbering (count : Nat) : List Char := if count = 0 then [] else Nat.toDigits 10 (count + 1)

theorem toList_placeholder (used : List String) (stem : String) :
    (placeholder used stem).toList = stem.toList ++ numbering (used.count stem) := by
  unfold placeholder numbering
  dsimp only
  by_cases hcount : used.count stem = 0
  · rw [if_pos (by omega), if_pos hcount, List.append_nil]
  · rw [if_neg (by omega), if_neg hcount, String.toList_append, Nat.toString_eq_ofList_toDigits,
      String.toList_ofList]

theorem numbering_inj {count count' : Nat} (h : numbering count = numbering count') :
    count = count' := by
  unfold numbering at h
  split at h <;> split at h
  · omega
  · exact absurd h.symm Nat.toDigits_ne_nil
  · exact absurd h Nat.toDigits_ne_nil
  · have hvalue := congrArg (fun digits => Nat.ofDigitChars 10 digits 0) h
    rw [Nat.ofDigitChars_ten_toDigits, Nat.ofDigitChars_ten_toDigits] at hvalue
    exact Nat.succ.inj hvalue

theorem isDigit_of_mem_numbering {count : Nat} : ∀ c ∈ numbering count, c.isDigit = true := by
  intro c hc
  unfold numbering at hc
  split at hc
  · cases hc
  · exact Nat.isDigit_of_mem_toDigits (by decide) (by decide) hc

/-- A placeholder tells its stem and how often that was used before. -/
theorem placeholder_inj {used used' : List String} {name name' : String}
    (h : placeholder used (name ++ "Id") = placeholder used' (name' ++ "Id")) :
    name ++ "Id" = name' ++ "Id" ∧
      used.count (name ++ "Id") = used'.count (name' ++ "Id") := by
  have hlists := congrArg String.toList h
  rw [toList_placeholder, toList_placeholder] at hlists
  have hstem : ∀ text : String, (text ++ "Id").toList = (text.toList ++ ['I']) ++ ['d'] := by
    intro text
    rw [String.toList_append, List.append_assoc]
    rfl
  rw [hstem, hstem] at hlists
  obtain ⟨hstems, hnumbers⟩ := append_digits_inj (by decide) (by decide) isDigit_of_mem_numbering
    isDigit_of_mem_numbering hlists
  refine ⟨String.ext ?_, numbering_inj hnumbers⟩
  rw [hstem, hstem]
  exact hstems

/-! ## The placeholders of a route -/

variable {m : Model} {route : List Property} {used : List String} {position : Nat}
  {keys : List KeyParameter}

/-- Each placeholder of a route is named with regard to all stems before the route. -/
theorem exists_stem_of_mem (h : keyParametersFrom m used position route = .ok keys) :
    ∀ k ∈ keys, ∃ later name, k.name = placeholder (used ++ later) (name ++ "Id") := by
  induction route generalizing used position keys with
  | nil =>
    cases h
    exact List.forall_mem_nil _
  | cons p rest ih =>
    rcases keyParametersFrom_cons_eq_ok h with
      ⟨_, hmore⟩ | ⟨_, target, stem, more, _, rfl, hmore, rfl⟩
    · exact ih hmore
    · refine List.forall_mem_cons.mpr ⟨⟨[], lowerFirst target.shortName, ?_⟩, fun k hk => ?_⟩
      · rw [List.append_nil]
      · obtain ⟨later, name, hname⟩ := ih hmore k hk
        exact ⟨_ :: later, name, by rw [hname, List.append_assoc]; rfl⟩

/-- No two placeholders have the same name. The induction is on the route, with the stems before it:
whatever comes later under the same stem has a greater number. -/
theorem nodup_keyParametersFrom (h : keyParametersFrom m used position route = .ok keys) :
    (keys.map (·.name)).Nodup := by
  induction route generalizing used position keys with
  | nil =>
    cases h
    exact List.nodup_nil
  | cons p rest ih =>
    rcases keyParametersFrom_cons_eq_ok h with
      ⟨_, hmore⟩ | ⟨_, target, stem, more, _, rfl, hmore, rfl⟩
    · exact ih hmore
    · refine List.nodup_cons.mpr ⟨fun hmem => ?_, ih hmore⟩
      obtain ⟨k, hk, hsame⟩ := List.mem_map.mp hmem
      obtain ⟨later, name, hname⟩ := exists_stem_of_mem hmore k hk
      obtain ⟨hstem, hcount⟩ := placeholder_inj (hname.symm.trans hsame)
      rw [hstem, List.append_assoc, List.count_append, List.singleton_append,
        List.count_cons_self] at hcount
      omega

theorem segments_keyParametersFrom (h : keyParametersFrom m used position route = .ok keys) :
    keys.map (fun k => (k.segment, k.position)) =
      (route.zipIdx position).filter fun s => s.1.isCollection := by
  induction route generalizing used position keys with
  | nil =>
    cases h
    rfl
  | cons p rest ih =>
    rw [List.zipIdx_cons]
    rcases keyParametersFrom_cons_eq_ok h with
      ⟨hsingle, hmore⟩ | ⟨hcollection, target, stem, more, _, _, hmore, rfl⟩
    · rw [ih hmore, List.filter_cons_of_neg (by simpa using hsingle)]
    · rw [List.map_cons, ih hmore, List.filter_cons_of_pos (by simpa using hcollection)]

/-- The collections of a route but the last segment have placeholders, in their order. -/
theorem segments_keyParameters (h : keyParameters m route = .ok keys) :
    keys.map (fun k => (k.segment, k.position)) =
      route.dropLast.zipIdx.filter fun s => s.1.isCollection := segments_keyParametersFrom h

theorem positions_keyParameters (h : keyParameters m route = .ok keys) :
    (keys.map (·.position)).Sublist (List.range' 0 route.dropLast.length) := by
  have hpositions : keys.map (·.position) =
      (route.dropLast.zipIdx.filter fun s => s.1.isCollection).map Prod.snd := by
    rw [← segments_keyParameters h, List.map_map]
    rfl
  rw [hpositions, ← List.zipIdx_map_snd]
  exact List.filter_sublist.map _

/-! ## Slots for placeholders -/

/-- For each position of a route from one on, the placeholder that belongs there. -/
def slots (keys : List KeyParameter) (start count : Nat) : List (Option KeyParameter) :=
  (List.range' start count).map fun position => keys.find? (·.position == position)

/-- What a template holds for a segment: its cast, its name and its placeholder. -/
def partsOf : (Property × Option String) × Option KeyParameter → List String
  | ((p, cast), key?) =>
    cast.toList ++ p.name :: (key?.map fun k => "\x7b" ++ k.name ++ "\x7d").toList

theorem slots_succ (keys : List KeyParameter) (start count : Nat) :
    slots keys start (count + 1) =
      keys.find? (·.position == start) :: slots keys (start + 1) count := by
  rw [slots, List.range'_succ, List.map_cons, slots]

theorem length_slots (keys : List KeyParameter) (start count : Nat) :
    (slots keys start count).length = count := by
  rw [slots, List.length_map, List.length_range']

/-- A placeholder is in the slot of its position. -/
theorem position_of_slot {start count i : Nat} {k : KeyParameter}
    (h : (slots keys start count)[i]? = some (some k)) : k.position = start + i := by
  rw [slots, List.getElem?_map] at h
  obtain ⟨position, hposition, hfound⟩ := Option.map_eq_some_iff.mp h
  have hk := List.find?_some hfound
  rw [List.getElem?_eq_some_iff] at hposition
  obtain ⟨_, rfl⟩ := hposition
  rw [List.getElem_range', Nat.one_mul] at hk
  exact beq_iff_eq.mp hk

/-- Each placeholder is in one slot, if they are in order and there are slots for their positions. -/
theorem reduceOption_slots {start count : Nat}
    (h : (keys.map (·.position)).Sublist (List.range' start count)) :
    (slots keys start count).reduceOption = keys := by
  induction count generalizing keys start with
  | zero =>
    rw [List.range'_zero, List.sublist_nil, List.map_eq_nil_iff] at h
    rw [h]
    rfl
  | succ count ih =>
    rw [List.range'_succ] at h
    rw [slots_succ]
    rcases List.sublist_cons_iff.mp h with hlater | ⟨positions, hkeys, hlater⟩
    · have hnone : keys.find? (·.position == start) = none := by
        refine List.find?_eq_none.mpr fun k hk hposition => ?_
        have hrange := List.mem_range'_1.mp (hlater.subset (List.mem_map_of_mem hk))
        rw [beq_iff_eq.mp hposition] at hrange
        omega
      rw [hnone, List.reduceOption_cons_of_none]
      exact ih hlater
    · obtain ⟨k, more, rfl, rfl, rfl⟩ := List.map_eq_cons_iff.mp hkeys
      -- The first placeholder is not in the slots that follow.
      have hslots : slots (k :: more) (k.position + 1) count = slots more (k.position + 1) count := by
        refine List.map_congr_left fun position hposition => ?_
        have hrange := List.mem_range'_1.mp hposition
        exact List.find?_cons_of_neg (by rw [beq_iff_eq]; omega)
      have hfirst : (k :: more).find? (·.position == k.position) = some k :=
        List.find?_cons_of_pos (beq_self_eq_true k.position)
      rw [hfirst, List.reduceOption_cons_of_some, hslots, ih hlater]

/-- A template has the parts of each segment one after another, with the placeholder of a segment in
its slot. -/
theorem templateParts_eq (keys : List KeyParameter) (position : Nat)
    (segments : List (Property × Option String)) :
    templateParts keys position segments =
      (segments.zip (slots keys position segments.length)).flatMap partsOf := by
  induction segments generalizing position with
  | nil => rfl
  | cons s rest ih =>
    obtain ⟨p, cast⟩ := s
    rw [templateParts, ih, List.length_cons, slots_succ, List.zip_cons_cons, List.flatMap_cons,
      partsOf, List.append_assoc, List.cons_append]

/-! ## Templates -/

/-- A route has a template when its targets can be looked up and its casts can be told. -/
theorem exists_template_iff (hkeys : keyParameters m route = .ok keys) :
    (∃ path, template m route = .ok path) ↔ route.IsChain (CastSettled m) := by
  rw [← exists_casts_iff]
  constructor
  · rintro ⟨path, h⟩
    obtain ⟨_, cs, _, hcs, _⟩ := template_eq_ok h
    exact ⟨cs, hcs⟩
  · rintro ⟨cs, hcs⟩
    exact ⟨assemble m route keys cs, by rw [template, hkeys, ok_bind, hcs]; rfl⟩

/-- A template from its casts and slots: the parts of each segment, and a last one for a reference. -/
def lineUp (m : Model) (route : List Property) (cs : List (Option String))
    (row : List (Option KeyParameter)) : String :=
  "/" ++ "/".intercalate (((route.zip cs).zip row).flatMap partsOf ++
    if isReference m route then [referenceSegment] else [])

theorem assemble_eq_lineUp {cs : List (Option String)} (hlength : cs.length = route.length) :
    assemble m route keys cs = lineUp m route cs (slots keys 0 route.length) := by
  have hzip : (route.zip cs).length = route.length := by
    rw [List.length_zip, hlength, Nat.min_self]
  rw [assemble, lineUp, templateParts_eq, hzip]

/-- **Placeholders never clash.** Whatever the properties of a route are, if their targets can be
looked up, then the route has one placeholder for each collection but the last segment, in the order
of their positions, and no two have the same name. It has a template just when its casts can be told.
Then each placeholder is in one slot of the template, the one behind its own segment. -/
theorem placeholders_never_clash (m : Model) {route : List Property}
    (h : ∀ p ∈ route, ∃ target, m.targetType p = .ok target) :
    ∃ keys, keyParameters m route = .ok keys ∧
      keys.map (fun k => (k.segment, k.position)) =
        (route.dropLast.zipIdx.filter fun s => s.1.isCollection) ∧
      (keys.map (·.position)).Pairwise (· < ·) ∧ (keys.map (·.name)).Nodup ∧
      ((∃ path, template m route = .ok path) ↔ route.IsChain (CastSettled m)) ∧
      ∀ path, template m route = .ok path →
        ∃ cs, casts m route = .ok cs ∧ cs.length = route.length ∧
          ∃ row : List (Option KeyParameter), row.length = route.length ∧
            row.reduceOption = keys ∧
            (∀ i (k : KeyParameter), row[i]? = some (some k) → k.position = i) ∧
            path = lineUp m route cs row := by
  obtain ⟨keys, hkeys⟩ := exists_keyParameters h
  have hpositions := positions_keyParameters hkeys
  refine ⟨keys, hkeys, segments_keyParameters hkeys, ?_, nodup_keyParametersFrom hkeys,
    exists_template_iff hkeys, fun path hpath => ?_⟩
  · exact (List.pairwise_lt_range' 1).sublist hpositions
  · obtain ⟨keys', cs, hkeys', hcs, rfl⟩ := template_eq_ok hpath
    rw [hkeys] at hkeys'
    cases hkeys'
    have hlength := length_castsFrom hcs
    have hslots : (keys.map (·.position)).Sublist (List.range' 0 route.length) :=
      hpositions.trans (List.range'_sublist_right.mpr (by simp))
    refine ⟨cs, hcs, hlength, slots keys 0 route.length, length_slots keys 0 _,
      reduceOption_slots hslots, fun i k hslot => ?_, assemble_eq_lineUp hlength⟩
    rw [position_of_slot hslot, Nat.zero_add]

/-- Two types with the same short name. The one derives from the other, whose own base type is
missing. -/
def workshop : Model where
  version := "4.0"
  space := "a"
  types :=
    [("a.item", ⟨"a.item", .entity, some "a.gone", false, [],
       [⟨"parts", "a.item", "b.item", true, true, true⟩]⟩),
     ("b.item", ⟨"b.item", .entity, some "a.item", false, [],
       [⟨"maker", "b.item", "c.maker", false, true, true⟩]⟩),
     ("c.maker", ⟨"c.maker", .entity, none, false, [],
       [⟨"goods", "c.maker", "a.item", true, true, true⟩]⟩),
     ("a.root", ⟨"a.root", .container, none, false, [],
       [⟨"items", "a.root", "a.item", true, true, true⟩]⟩)]
  entityContainer := "a.root"

/-- A route through the workshop that needs no base types: each segment is declared by the target of
the one before it. -/
def workshopRoute : List Property :=
  [⟨"items", "a.root", "a.item", true, true, true⟩, ⟨"parts", "a.item", "b.item", true, true, true⟩,
   ⟨"maker", "b.item", "c.maker", false, true, true⟩,
   ⟨"goods", "c.maker", "a.item", true, true, true⟩, ⟨"parts", "a.item", "b.item", true, true, true⟩]

theorem workshopRoute_placeholders :
    (∀ p ∈ workshopRoute, ∃ target, workshop.targetType p = .ok target) ∧
      template workshop workshopRoute =
        .ok "/items/\x7bitemId\x7d/parts/\x7bitemId2\x7d/maker/goods/\x7bitemId3\x7d/parts" ∧
      ∃ keys, keyParameters workshop workshopRoute = .ok keys ∧
        keys.map (fun k => (k.name, k.position)) = [("itemId", 0), ("itemId2", 1), ("itemId3", 3)] ∧
        (keys.map (·.name)).Nodup ∧ workshopRoute.IsChain (CastSettled workshop) := by
  have h : ∀ p ∈ workshopRoute, ∃ target, workshop.targetType p = .ok target := by
    simp only [workshopRoute, List.forall_mem_cons]
    exact ⟨⟨_, rfl⟩, ⟨_, rfl⟩, ⟨_, rfl⟩, ⟨_, rfl⟩, ⟨_, rfl⟩, List.forall_mem_nil _⟩
  have htemplate : template workshop workshopRoute =
      .ok "/items/\x7bitemId\x7d/parts/\x7bitemId2\x7d/maker/goods/\x7bitemId3\x7d/parts" :=
    rfl
  obtain ⟨keys, hkeys, _, _, hdistinct, hsettled, _⟩ := placeholders_never_clash workshop h
  refine ⟨h, htemplate, keys, hkeys, ?_, hdistinct, hsettled.mp ⟨_, htemplate⟩⟩
  cases hkeys
  rfl

/-- A route from the items to a maker, which is declared by the type of their parts. -/
def makerRoute : List Property :=
  [⟨"items", "a.root", "a.item", true, true, true⟩, ⟨"maker", "b.item", "c.maker", false, true, true⟩]

/-- Both segments of the route lead somewhere and the first one has a placeholder. For the cast to
the type of parts the base types of items are needed, so there is no template. -/
theorem missing_base_leaves_no_template :
    (∀ p ∈ makerRoute, workshop.Declared p ∧ ∃ target, workshop.targetType p = .ok target) ∧
      (∃ key, keyParameters workshop makerRoute = .ok [key]) ∧
      template workshop makerRoute = .error (.schema (.unknownType "a.gone" "a")) := by
  refine ⟨?_, ⟨_, rfl⟩, rfl⟩
  simp only [makerRoute, List.forall_mem_cons, Model.Declared]
  exact ⟨⟨by decide, ⟨_, rfl⟩⟩, ⟨by decide, ⟨_, rfl⟩⟩, List.forall_mem_nil _⟩

end CsdlRoutes.Route
