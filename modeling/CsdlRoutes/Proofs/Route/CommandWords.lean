import CsdlRoutes.Proofs.Route.DistinctTemplates
import CsdlRoutes.Proofs.Route.Preorder

/-!
# Which nodes share the words of a command

The words of a command come from the names along a route alone. They do not tell which type declares
a property, and a word does not tell underscores from hyphens, capital letters from small ones, or
a hyphen of the name from one at a capital letter. So two nodes may have the same words. Their routes
then part somewhere, and where they part stand siblings with one word.

Nothing is assumed of the names, except where the siblings are to be told apart by their names: there
they are of ASCII letters and digits without two capital letters in a row.

* `kebab_eq_iff`: when two such names have one word.
* `exists_siblings_of_words_eq`: nodes with the same words have siblings above them with one word.
* `words_identify_nodes_iff`: when the words of all nodes are different.
* `owners_share_words`: a document with two nodes of the same words.
-/

namespace CsdlRoutes.Route

open Schema (Document Model Property extract)

/-! ## Words of names -/

/-- Names of ASCII letters and digits in which no two capital letters stand in a row, as in camel
case. The first letter may be of either case. -/
structure IsCamel (name : String) : Prop where
  plain : ∀ c ∈ name.toList, isSmallOrDigit c = true ∨ c.isUpper = true
  single : name.toList.IsChain fun c d => d.isUpper = true → isSmallOrDigit c = true

instance (name : String) : Decidable (IsCamel name) :=
  decidable_of_iff
    ((name.toList.all fun c => isSmallOrDigit c || c.isUpper) = true ∧
      name.toList.IsChain fun c d => d.isUpper = true → isSmallOrDigit c = true)
    ⟨fun h => ⟨by simpa using h.1, h.2⟩, fun h => ⟨by simpa using h.plain, h.single⟩⟩

/-- What hyphens make of the letters behind a letter. -/
def hyphenateBehind : Char → List Char → List Char
  | _, [] => []
  | c, d :: rest =>
    if isSmallOrDigit c && d.isUpper then '-' :: d :: hyphenateBehind d rest
    else d :: hyphenateBehind d rest

theorem hyphenate_cons (c : Char) (rest : List Char) :
    hyphenate (c :: rest) = c :: hyphenateBehind c rest := by
  induction rest generalizing c with
  | nil => rfl
  | cons d rest ih =>
    rw [hyphenate, hyphenateBehind, ih d]
    split <;> rfl

/-- Takes the hyphens out again: the letter behind each of them becomes a capital one. -/
def withoutHyphens : List Char → List Char
  | [] => []
  | '-' :: c :: rest => c.toUpper :: withoutHyphens rest
  | c :: rest => c :: withoutHyphens rest

theorem withoutHyphens_cons {c : Char} (h : c ≠ '-') (rest : List Char) :
    withoutHyphens (c :: rest) = c :: withoutHyphens rest := by
  rw [withoutHyphens]
  rintro c' rest' rfl
  exact absurd rfl h

/-- The letters and digits of ASCII, case by case. -/
theorem plain_cases {c : Char} (h : isSmallOrDigit c = true ∨ c.isUpper = true) :
    c.toNat < 0x80 ∧ c ≠ '_' ∧
      (c.isUpper = false ∧ c.toLower = c ∧ c ≠ '-' ∨
        c.isUpper = true ∧ c.toLower.toUpper = c ∧ isSmallOrDigit c = false) := by
  have hascii : c.toNat < 0x80 := by
    delta isSmallOrDigit Char.isLower Char.isUpper Char.isDigit at h
    simp only [Bool.or_eq_true, Bool.and_eq_true, decide_eq_true_eq, UInt32.le_iff_toNat_le,
      ge_iff_le] at h
    change ((97 ≤ c.toNat ∧ c.toNat ≤ 122) ∨ (48 ≤ c.toNat ∧ c.toNat ≤ 57)) ∨
      (65 ≤ c.toNat ∧ c.toNat ≤ 90) at h
    omega
  have hcases : ∀ code < 0x80,
      isSmallOrDigit (Char.ofNat code) = true ∨ (Char.ofNat code).isUpper = true →
        Char.ofNat code ≠ '_' ∧
          ((Char.ofNat code).isUpper = false ∧ (Char.ofNat code).toLower = Char.ofNat code ∧
              Char.ofNat code ≠ '-' ∨
            (Char.ofNat code).isUpper = true ∧
              (Char.ofNat code).toLower.toUpper = Char.ofNat code ∧
              isSmallOrDigit (Char.ofNat code) = false) := by
    decide
  have hcode := hcases c.toNat hascii
  rw [Char.ofNat_toNat] at hcode
  exact ⟨hascii, hcode h⟩

theorem lowerAfter_of_ascii {cs : List Char} (h : ∀ c ∈ cs, c.toNat < 0x80) (before : List Char) :
    Text.lowerAfter before cs = cs.map Char.toLower := by
  induction cs generalizing before with
  | nil => rfl
  | cons c rest ih =>
    obtain ⟨hc, hrest⟩ := List.forall_mem_cons.mp h
    have hsigma : c.toNat ≠ 0x3a3 := by omega
    rw [Text.lowerAfter, if_neg hsigma, Text.lowerChar, if_pos hc, ih hrest]
    rfl

theorem mem_hyphenateBehind {c d : Char} {rest : List Char} (h : d ∈ hyphenateBehind c rest) :
    d = '-' ∨ d ∈ rest := by
  induction rest generalizing c with
  | nil => cases h
  | cons e rest ih =>
    rw [hyphenateBehind] at h
    split at h
    · rcases List.mem_cons.mp h with h | h
      · exact Or.inl h
      · rcases List.mem_cons.mp h with rfl | h
        · exact Or.inr List.mem_cons_self
        · exact (ih h).imp_right (List.mem_cons_of_mem e)
    · rcases List.mem_cons.mp h with rfl | h
      · exact Or.inr List.mem_cons_self
      · exact (ih h).imp_right (List.mem_cons_of_mem e)

/-- The word of a name that is not empty: its first letter in lower case, and what hyphens make of the
others. -/
theorem toList_kebab {name : String} {c : Char} {rest : List Char} (hname : name.toList = c :: rest)
    (hplain : ∀ d ∈ c :: rest, isSmallOrDigit d = true ∨ d.isUpper = true) :
    (kebab name).toList = c.toLower :: (hyphenateBehind c rest).map Char.toLower := by
  have hmem : ∀ d ∈ c :: hyphenateBehind c rest, d.toNat < 0x80 ∧ d ≠ '_' := by
    intro d hd
    rcases List.mem_cons.mp hd with rfl | hd
    · obtain ⟨hascii, hmark, _⟩ := plain_cases (hplain d List.mem_cons_self)
      exact ⟨hascii, hmark⟩
    · rcases mem_hyphenateBehind hd with rfl | hd
      · decide
      · obtain ⟨hascii, hmark, _⟩ := plain_cases (hplain d (List.mem_cons_of_mem c hd))
        exact ⟨hascii, hmark⟩
  have hmarks : (c :: hyphenateBehind c rest).map (fun d => if d = '_' then '-' else d) =
      c :: hyphenateBehind c rest := by
    rw [List.map_congr_left fun d hd => if_neg (hmem d hd).2]
    exact List.map_id' _
  rw [kebab, hname, hyphenate_cons, hmarks, Text.lower, String.toList_ofList,
    String.toList_ofList, lowerAfter_of_ascii (fun d hd => (hmem d hd).1), List.map_cons]

theorem toList_lowerFirst {name : String} {c : Char} {rest : List Char}
    (hname : name.toList = c :: rest) (hc : c.toNat < 0x80) :
    (lowerFirst name).toList = c.toLower :: rest := by
  have hlower : (Text.lower c.toString).toList = [c.toLower] := by
    rw [Text.lower, String.toList_ofList, Char.toString, String.toList_singleton,
      lowerAfter_of_ascii (by simpa using hc)]
    rfl
  rw [lowerFirst, hname]
  dsimp only
  rw [String.toList_append, hlower, String.toList_ofList]
  rfl

/-- The letters behind the first one come back from the word. -/
theorem withoutHyphens_hyphenateBehind {c : Char} {rest : List Char}
    (hplain : ∀ d ∈ rest, isSmallOrDigit d = true ∨ d.isUpper = true)
    (hsingle : (c :: rest).IsChain fun c d => d.isUpper = true → isSmallOrDigit c = true) :
    withoutHyphens ((hyphenateBehind c rest).map Char.toLower) = rest := by
  induction rest generalizing c with
  | nil => rfl
  | cons d rest ih =>
    obtain ⟨hd, hrest⟩ := List.forall_mem_cons.mp hplain
    obtain ⟨hstep, hchain⟩ := List.isChain_cons_cons.mp hsingle
    have hback := ih hrest hchain
    obtain ⟨_, _, ⟨hsmall, hlower, hmark⟩ | ⟨hcapital, hlower, _⟩⟩ := plain_cases hd
    · have hno : ¬ (isSmallOrDigit c && d.isUpper) = true := by simp [hsmall]
      rw [hyphenateBehind, if_neg hno, List.map_cons, hlower, withoutHyphens_cons hmark, hback]
    · have hyes : (isSmallOrDigit c && d.isUpper) = true := by simp [hstep hcapital, hcapital]
      have hhyphen : Char.toLower '-' = '-' := by decide
      rw [hyphenateBehind, if_pos hyes, List.map_cons, List.map_cons, hhyphen, withoutHyphens,
        hlower, hback]

/-- Only where a capital letter follows does the letter before it count. -/
theorem hyphenateBehind_congr {c c' : Char} {rest : List Char}
    (hsingle : (c :: rest).IsChain fun c d => d.isUpper = true → isSmallOrDigit c = true)
    (hsingle' : (c' :: rest).IsChain fun c d => d.isUpper = true → isSmallOrDigit c = true) :
    hyphenateBehind c rest = hyphenateBehind c' rest := by
  cases rest with
  | nil => rfl
  | cons d rest =>
    have hstep := (List.isChain_cons_cons.mp hsingle).1
    have hstep' := (List.isChain_cons_cons.mp hsingle').1
    rw [hyphenateBehind, hyphenateBehind]
    cases hd : d.isUpper with
    | false => rw [Bool.and_false, Bool.and_false]
    | true => rw [hstep hd, hstep' hd]

theorem toList_of_empty {name : String} (h : name.toList = []) :
    (kebab name).toList = [] ∧ (lowerFirst name).toList = [] := by
  constructor
  · rw [kebab, h]
    rfl
  · rw [lowerFirst, h]
    exact h

/-- **Names with one word.** Two names in camel case have one word when they are the same but for the
case of their first letters. -/
theorem kebab_eq_iff {a b : String} (ha : IsCamel a) (hb : IsCamel b) :
    kebab a = kebab b ↔ lowerFirst a = lowerFirst b := by
  obtain ⟨haplain, hasingle⟩ := ha
  obtain ⟨hbplain, hbsingle⟩ := hb
  rw [← String.toList_inj, ← String.toList_inj]
  cases haname : a.toList with
  | nil =>
    obtain ⟨hakebab, halower⟩ := toList_of_empty haname
    rw [hakebab, halower]
    cases hbname : b.toList with
    | nil =>
      obtain ⟨hbkebab, hblower⟩ := toList_of_empty hbname
      rw [hbkebab, hblower]
    | cons d others =>
      rw [hbname] at hbplain
      have hascii := (plain_cases (hbplain d List.mem_cons_self)).1
      rw [toList_kebab hbname hbplain, toList_lowerFirst hbname hascii]
      simp
  | cons c rest =>
    rw [haname] at haplain hasingle
    obtain ⟨hc, hrest⟩ := List.forall_mem_cons.mp haplain
    rw [toList_kebab haname haplain, toList_lowerFirst haname (plain_cases hc).1]
    cases hbname : b.toList with
    | nil =>
      obtain ⟨hbkebab, hblower⟩ := toList_of_empty hbname
      rw [hbkebab, hblower]
      simp
    | cons d others =>
      rw [hbname] at hbplain hbsingle
      obtain ⟨hd, hothers⟩ := List.forall_mem_cons.mp hbplain
      rw [toList_kebab hbname hbplain, toList_lowerFirst hbname (plain_cases hd).1,
        List.cons.injEq, List.cons.injEq]
      refine and_congr_right fun _ => ⟨fun hwords => ?_, ?_⟩
      · rw [← withoutHyphens_hyphenateBehind hrest hasingle,
          ← withoutHyphens_hyphenateBehind hothers hbsingle, hwords]
      · rintro rfl
        rw [hyphenateBehind_congr hasingle hbsingle]

/-! ## Nodes with the same words -/

variable {m : Model} {cap : Nat}

theorem parent?_eq_iff {n n' : Node} : n.parent? = n'.parent? ↔ n.above = n'.above := by
  constructor
  · intro h
    cases hparent : n.parent? with
    | some a =>
      rw [Node.parent?_eq_some_iff.mp hparent, Node.parent?_eq_some_iff.mp (h ▸ hparent)]
    | none =>
      have hroot := Node.parent?_eq_none_iff.mp hparent
      have hroot' := Node.parent?_eq_none_iff.mp (h ▸ hparent)
      rw [List.length_eq_zero_iff.mp (Nat.succ.inj hroot),
        List.length_eq_zero_iff.mp (Nat.succ.inj hroot')]
  · intro h
    rw [Node.parent?, Node.parent?, h]

theorem words_eq_iff {n n' : Node} : commandWords n.route = commandWords n'.route ↔
    n.way.map (kebab ·.name) = n'.way.map (kebab ·.name) := by
  rw [commandWords, commandWords, Node.route_eq_reverse_way, Node.route_eq_reverse_way,
    List.map_reverse, List.map_reverse, List.reverse_inj]

/-- Two nodes with the same words part at siblings with one word. The induction is on the properties
above one of the nodes: where those above both are the same, the nodes are siblings themselves. -/
theorem exists_siblings_of_words_eq {n n' : Node} (hne : n ≠ n')
    (h : commandWords n.route = commandWords n'.route) :
    ∃ s ∈ n.ancestors, ∃ s' ∈ n'.ancestors, s ≠ s' ∧ s.parent? = s'.parent? ∧
      kebab s.property.name = kebab s'.property.name := by
  obtain ⟨p, above⟩ := n
  obtain ⟨p', above'⟩ := n'
  rw [words_eq_iff] at h
  simp only [Node.way, List.map_cons, List.cons.injEq] at h
  obtain ⟨hword, hwords⟩ := h
  induction above generalizing p p' above' with
  | nil =>
    obtain rfl : above' = [] := by simpa using hwords.symm
    exact ⟨_, Node.mem_ancestors_iff.mpr List.suffix_rfl, _,
      Node.mem_ancestors_iff.mpr List.suffix_rfl, hne, rfl, hword⟩
  | cons q rest ih =>
    cases above' with
    | nil => cases hwords
    | cons q' rest' =>
      by_cases hsame : q :: rest = q' :: rest'
      · exact ⟨_, Node.mem_ancestors_iff.mpr List.suffix_rfl, _,
          Node.mem_ancestors_iff.mpr List.suffix_rfl, hne, parent?_eq_iff.mpr hsame, hword⟩
      · obtain ⟨hnext, hothers⟩ := List.cons.inj hwords
        have hparents : Node.mk q rest ≠ Node.mk q' rest' := by
          rintro hnodes
          cases hnodes
          exact hsame rfl
        obtain ⟨s, hs, s', hs', hparts⟩ := ih q q' rest' hparents hnext hothers
        refine ⟨s, ?_, s', ?_, hparts⟩
        · exact Node.mem_ancestors_iff.mpr
            ((Node.mem_ancestors_iff.mp hs).trans (List.suffix_cons p _))
        · exact Node.mem_ancestors_iff.mpr
            ((Node.mem_ancestors_iff.mp hs').trans (List.suffix_cons p' _))

theorem declared_of_mem_forest (hm : m.Closed) {rs : List Node} (hrs : roots m = .ok rs) {n : Node}
    (hn : n ∈ forest m cap rs.reverse) : m.Declared n.property := by
  obtain ⟨r, hr, hreach⟩ := (mem_forest_roots_iff hm hrs).mp hn
  rcases Relation.ReflTransGen.cases_tail hreach with rfl | ⟨_, _, hbelow⟩
  · exact declared_of_mem_roots hm hrs hr
  · exact declared_of_below hm hbelow

/-- What is said of nodes tells siblings apart: those right below one node, and those at the root. -/
def TellsSiblings {α : Type} (f : Node → α) (nodes : List Node) : Prop :=
  ∀ s ∈ nodes, ∀ s' ∈ nodes, s.parent? = s'.parent? → f s = f s' → s = s'

/-- The words of listed nodes are different as soon as those of siblings are. -/
theorem nodup_words_iff (hm : m.Closed) {rs : List Node} (hrs : roots m = .ok rs) :
    ((forest m cap rs.reverse).map fun n => commandWords n.route).Nodup ↔
      TellsSiblings (fun n => kebab n.property.name) (forest m cap rs.reverse) := by
  rw [List.nodup_map_iff_inj_on (nodup_forest_roots hm hrs)]
  constructor
  · intro h s hs s' hs' hparent hword
    refine h s hs s' hs' (words_eq_iff.mpr ?_)
    rw [Node.way, Node.way, parent?_eq_iff.mp hparent, List.map_cons, List.map_cons]
    exact congrArg (· :: _) hword
  · intro h n hn n' hn' hwords
    by_contra hne
    obtain ⟨s, hs, s', hs', hother, hparent, hword⟩ := exists_siblings_of_words_eq hne hwords
    exact hother (h s (ancestor_mem_forest hm hrs hn hs) s' (ancestor_mem_forest hm hrs hn' hs')
      hparent hword)

/-- **Words identify nodes as far as they tell siblings apart.** Of the nodes that a walk through the
model of a document hands out, two with the same words have siblings above them, or are siblings, whose
names have one word. So the words of all nodes are different exactly when those of siblings are, and
where the names are in camel case, exactly when siblings have names that differ in more than the case
of the first letter. -/
theorem words_identify_nodes_iff {version : String} {d : Document}
    (h : extract version d = .ok m) (cap : Nat) :
    ∃ w nodes, Walk.start m cap = .ok w ∧ w.Lists nodes ∧
      (∀ n ∈ nodes, ∀ n' ∈ nodes, n ≠ n' → commandWords n.route = commandWords n'.route →
        ∃ s ∈ n.ancestors, ∃ s' ∈ n'.ancestors, s ≠ s' ∧ s.parent? = s'.parent? ∧
          kebab s.property.name = kebab s'.property.name) ∧
      ((nodes.map fun n => commandWords n.route).Nodup ↔
        TellsSiblings (fun n => kebab n.property.name) nodes) ∧
      ((∀ p, m.Declared p → IsCamel p.name) →
        ((nodes.map fun n => commandWords n.route).Nodup ↔
          TellsSiblings (fun n => lowerFirst n.property.name) nodes)) := by
  have hm := Schema.closed_of_extract h
  obtain ⟨w, hw⟩ := (exists_walk_iff hm cap).mpr (Schema.exists_rootContainer_of_extract h)
  obtain ⟨rs, hrs, hlists, _⟩ := lists_forest hm hw
  have hdistinct : ((forest m cap rs.reverse).map fun n => commandWords n.route).Nodup ↔
      TellsSiblings (fun n => kebab n.property.name) (forest m cap rs.reverse) :=
    nodup_words_iff hm hrs
  refine ⟨w, _, hw, hlists, ?_, hdistinct, fun hcamel => ?_⟩
  · intro n _ n' _ hne hwords
    exact exists_siblings_of_words_eq hne hwords
  · have hname : ∀ n ∈ forest m cap rs.reverse, IsCamel n.property.name := fun n hn =>
      hcamel _ (declared_of_mem_forest hm hrs hn)
    rw [hdistinct]
    refine forall₄_congr fun s hs s' hs' => ?_
    rw [kebab_eq_iff (hname s hs) (hname s' hs')]

/-- The owner of a user among the things. -/
def ownerOfUser : Node :=
  ⟨⟨"owner", "p.user", "p.user", false, true, false⟩,
    [⟨"things", "p.root", "p.thing", true, true, true⟩]⟩

/-- The owner of a group among the things. -/
def ownerOfGroup : Node :=
  ⟨⟨"owner", "p.group", "p.user", false, true, true⟩,
    [⟨"things", "p.root", "p.thing", true, true, true⟩]⟩

theorem owners_listed :
    ∃ m w, extract "4.0" premises = .ok m ∧
      (∀ t ∈ m.types.values, ∀ p ∈ t.properties, IsCamel p.name) ∧ Walk.start m 2 = .ok w ∧
      ownerOfUser ∈ (w.take 7).1.nodes ∧ ownerOfGroup ∈ (w.take 7).1.nodes := by
  refine ⟨_, _, rfl, ?_, rfl, ?_, ?_⟩
  · decide
  · decide
  · decide

/-- The owners are siblings with one name, so the words of the nodes are not all different. -/
theorem premises_words_identify_nodes :
    ∃ m, extract "4.0" premises = .ok m ∧ (∀ p, m.Declared p → IsCamel p.name) ∧
      ∃ w nodes, Walk.start m 2 = .ok w ∧ w.Lists nodes ∧
        ownerOfUser ∈ nodes ∧ ownerOfGroup ∈ nodes ∧ ownerOfUser ≠ ownerOfGroup ∧
        commandWords ownerOfUser.route = commandWords ownerOfGroup.route ∧
        (∃ s ∈ ownerOfUser.ancestors, ∃ s' ∈ ownerOfGroup.ancestors, s ≠ s' ∧
          s.parent? = s'.parent? ∧ kebab s.property.name = kebab s'.property.name) ∧
        ¬ (nodes.map fun n => commandWords n.route).Nodup ∧
        ¬ TellsSiblings (fun n => kebab n.property.name) nodes ∧
        ¬ TellsSiblings (fun n => lowerFirst n.property.name) nodes := by
  obtain ⟨m, w, hm, hcamel, hw, huser, hgroup⟩ := owners_listed
  have hnames : ∀ p, m.Declared p → IsCamel p.name := fun p ⟨t, ht, hp⟩ => hcamel t ht p hp
  obtain ⟨w', nodes, hw', hlists, hsiblings, hwords, hlowered⟩ := words_identify_nodes_iff hm 2
  obtain rfl : w = w' := Except.ok.inj (hw.symm.trans hw')
  have huser := hlists.mem_of_take huser
  have hgroup := hlists.mem_of_take hgroup
  have hne : ownerOfUser ≠ ownerOfGroup := by decide
  have hnot : ¬ TellsSiblings (fun n => lowerFirst n.property.name) nodes := fun h =>
    hne (h _ huser _ hgroup rfl rfl)
  have hrepeated : ¬ (nodes.map fun n => commandWords n.route).Nodup := (hlowered hnames).not.mpr hnot
  exact ⟨m, hm, hnames, w, nodes, hw, hlists, huser, hgroup, hne, rfl,
    hsiblings _ huser _ hgroup hne rfl, hrepeated, hwords.not.mp hrepeated, hnot⟩

/-- Below the things stand the owner of a user and that of a group. The words leave out the casts to
these types, so both nodes have the words `things` and `owner`. -/
theorem owners_share_words :
    ∃ m w n n', extract "4.0" premises = .ok m ∧ Walk.start m 2 = .ok w ∧
      n ∈ (w.take 7).1.nodes ∧ n' ∈ (w.take 7).1.nodes ∧ n ≠ n' ∧
      commandWords n.route = commandWords n'.route := by
  obtain ⟨m, w, hm, _, hw, huser, hgroup⟩ := owners_listed
  have hne : ownerOfUser ≠ ownerOfGroup := by decide
  exact ⟨m, w, ownerOfUser, ownerOfGroup, hm, hw, huser, hgroup, hne, rfl⟩

end CsdlRoutes.Route
