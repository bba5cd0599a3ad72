import CsdlRoutes.Proofs.Route.Totality

/-!
# What routes look like in another model

How a route is written down depends on names alone: those of the types that its properties lead to,
those of the base types of these, and that of the entity container. So a route looks the same from
outside in every model that has the same names there.

* `Namesakes` says this of two models.
* `Outline` is what a route looks like from outside.
* `keyParameters_namesakes`, `casts_namesakes`, `outline_namesakes`: what does not change.
-/

namespace CsdlRoutes.Route

open Schema (Model Property SchemaType)

/-- In both models a name leads to types of one name, whose base types have the same names. -/
structure Namesakes (m m' : Model) : Prop where
  entityContainer : m.entityContainer = m'.entityContainer
  getType : ∀ name t, m.getType name = .ok t → ∃ u, m'.getType name = .ok u ∧ t.name = u.name ∧
    ∀ bases, m.baseTypes t = .ok bases → ∃ bases', m'.baseTypes u = .ok bases' ∧
      bases.map (·.name) = bases'.map (·.name)

variable {m m' : Model} {cap : Nat}

theorem isReference_namesakes (h : m.entityContainer = m'.entityContainer) (p : Property) :
    m.isReference p = m'.isReference p := by
  rw [Model.isReference, Model.isReference, h]

theorem endsInReference_namesakes (h : m.entityContainer = m'.entityContainer)
    (route : List Property) : isReference m route = isReference m' route :=
  congrArg (fun f => Option.any f route.getLast?) (funext (isReference_namesakes h))

/-! ## Templates -/

theorem keyParametersFrom_namesakes (h : Namesakes m m') {route : List Property}
    {used : List String} {position : Nat} {keys : List KeyParameter}
    (hkeys : keyParametersFrom m used position route = .ok keys) :
    keyParametersFrom m' used position route = .ok keys := by
  induction route generalizing used position keys with
  | nil => exact hkeys
  | cons p rest ih =>
    rw [keyParametersFrom] at hkeys ⊢
    split at hkeys
    · rename_i hcollection
      obtain ⟨target, htarget, hkeys⟩ := bind_eq_ok.mp hkeys
      obtain ⟨more, hmore, hkeys⟩ := bind_eq_ok.mp hkeys
      cases hkeys
      obtain ⟨target', htarget', hname, _⟩ := h.getType _ _ htarget
      have hlead : m'.targetType p = .ok target' := htarget'
      have hshort : target'.shortName = target.shortName := by
        rw [SchemaType.shortName, SchemaType.shortName, hname]
      rw [if_pos hcollection, hlead, ok_bind]
      dsimp only
      rw [hshort, ih hmore, ok_bind, ← hname]
      rfl
    · rename_i hsingle
      rw [if_neg hsingle]
      exact ih hkeys

theorem keyParameters_namesakes (h : Namesakes m m') {route : List Property}
    {keys : List KeyParameter} (hkeys : keyParameters m route = .ok keys) :
    keyParameters m' route = .ok keys := keyParametersFrom_namesakes h hkeys

theorem any_name_eq {ts us : List SchemaType} (h : ts.map (·.name) = us.map (·.name))
    (name : String) : ts.any (·.name == name) = us.any (·.name == name) := by
  have hnames := congrArg (fun names : List String => names.any (· == name)) h
  simpa only [List.any_map, Function.comp_def] using hnames

theorem castBetween_namesakes (h : Namesakes m m') {previous p : Property} {cast : Option String}
    (hcast : castBetween m previous p = .ok cast) : castBetween m' previous p = .ok cast := by
  unfold castBetween at hcast ⊢
  rw [← h.entityContainer]
  split at hcast
  · rename_i hroot
    rw [if_pos hroot]
    exact hcast
  · rename_i hroot
    obtain ⟨target, htarget, hcast⟩ := bind_eq_ok.mp hcast
    obtain ⟨target', htarget', hname, hchain⟩ := h.getType _ _ htarget
    have hlead : m'.targetType previous = .ok target' := htarget'
    rw [if_neg hroot, hlead, ok_bind, ← hname]
    split at hcast
    · rename_i hself
      rw [if_pos hself]
      exact hcast
    · rename_i hself
      obtain ⟨bases, hbases, hcast⟩ := bind_eq_ok.mp hcast
      obtain ⟨bases', hbases', hnames⟩ := hchain bases hbases
      rw [if_neg hself, hbases', ok_bind, ← any_name_eq hnames]
      exact hcast

theorem castsFrom_namesakes (h : Namesakes m m') {route : List Property}
    {previous? : Option Property} {cs : List (Option String)}
    (hcs : castsFrom m previous? route = .ok cs) : castsFrom m' previous? route = .ok cs := by
  induction route generalizing previous? cs with
  | nil => exact hcs
  | cons p rest ih =>
    rw [castsFrom] at hcs ⊢
    obtain ⟨cast, hcast, hcs⟩ := bind_eq_ok.mp hcs
    obtain ⟨more, hmore, hcs⟩ := bind_eq_ok.mp hcs
    cases hcs
    have hcast' : castBefore m' previous? p = .ok cast := by
      cases previous? with
      | none => exact hcast
      | some previous => exact castBetween_namesakes h hcast
    rw [hcast', ok_bind, ih hmore, ok_bind]
    rfl

theorem casts_namesakes (h : Namesakes m m') {route : List Property} {cs : List (Option String)}
    (hcs : casts m route = .ok cs) : casts m' route = .ok cs := castsFrom_namesakes h hcs

theorem assemble_namesakes (h : m.entityContainer = m'.entityContainer) (route : List Property)
    (keys : List KeyParameter) (cs : List (Option String)) :
    assemble m route keys cs = assemble m' route keys cs := by
  rw [assemble, assemble, endsInReference_namesakes h]

theorem template_namesakes (h : Namesakes m m') {route : List Property} {path : String}
    (hpath : template m route = .ok path) : template m' route = .ok path := by
  obtain ⟨keys, hkeys, hpath⟩ := bind_eq_ok.mp hpath
  obtain ⟨cs, hcs, hpath⟩ := bind_eq_ok.mp hpath
  rw [template, keyParameters_namesakes h hkeys, ok_bind, casts_namesakes h hcs, ok_bind,
    ← assemble_namesakes h.entityContainer]
  exact hpath

theorem bareTemplate_namesakes (h : Namesakes m m') {route : List Property} {path : String}
    (hpath : bareTemplate m route = .ok path) : bareTemplate m' route = .ok path := by
  obtain ⟨cs, hcs, hpath⟩ := bind_eq_ok.mp hpath
  rw [bareTemplate, casts_namesakes h hcs, ok_bind, ← assemble_namesakes h.entityContainer]
  exact hpath

/-! ## Outlines -/

/-- What a route looks like from outside: its templates with and without placeholders, the words of
its command, its length, whether it ends in a reference, and the type that it leads to. -/
structure Outline where
  path : String
  barePath : String
  words : List String
  depth : Nat
  isReference : Bool
  target : String
  deriving DecidableEq, Repr

/-- What the route of a node looks like from outside. -/
def Node.outline (m : Model) (n : Node) : Except Failure Outline := do
  return ⟨← template m n.route, ← bareTemplate m n.route, commandWords n.route, n.depth,
    isReference m n.route, n.property.typeName⟩

theorem outline_eq_ok_iff {n : Node} {o : Outline} :
    n.outline m = .ok o ↔ ∃ path barePath, template m n.route = .ok path ∧
      bareTemplate m n.route = .ok barePath ∧
      o = ⟨path, barePath, commandWords n.route, n.depth, isReference m n.route,
        n.property.typeName⟩ := by
  rw [Node.outline]
  simp only [bind_eq_ok]
  constructor
  · rintro ⟨path, hpath, barePath, hbarePath, h⟩
    cases h
    exact ⟨path, barePath, hpath, hbarePath, rfl⟩
  · rintro ⟨path, barePath, hpath, hbarePath, rfl⟩
    exact ⟨path, hpath, barePath, hbarePath, rfl⟩

theorem outline_namesakes (h : Namesakes m m') {n : Node} {o : Outline}
    (ho : n.outline m = .ok o) : n.outline m' = .ok o := by
  obtain ⟨path, barePath, hpath, hbarePath, rfl⟩ := outline_eq_ok_iff.mp ho
  exact outline_eq_ok_iff.mpr ⟨path, barePath, template_namesakes h hpath,
    bareTemplate_namesakes h hbarePath, by rw [endsInReference_namesakes h.entityContainer]⟩

theorem exists_outline (hm : m.Closed) {rs : List Node} (hrs : roots m = .ok rs) {n : Node}
    (hn : n ∈ forest m cap rs.reverse) : ∃ o, n.outline m = .ok o := by
  have haddressable := addressable_of_mem_forest hm hrs hn
  obtain ⟨path, hpath⟩ := haddressable.template
  obtain ⟨barePath, hbarePath⟩ := haddressable.bareTemplate
  exact ⟨_, outline_eq_ok_iff.mpr ⟨path, barePath, hpath, hbarePath, rfl⟩⟩

/-! ## Rows -/

theorem row_namesakes (h : Namesakes m m') {n : Node} {row : Row} (hrow : n.row m = .ok row) :
    n.row m' = .ok row := by
  have hedge : n.edge m = n.edge m' := by
    rw [Node.edge, Node.edge, isReference_namesakes h.entityContainer]
  obtain ⟨path, hpath, hrow⟩ := bind_eq_ok.mp hrow
  rw [Node.row, template_namesakes h hpath, ok_bind, ← hedge]
  exact hrow

end CsdlRoutes.Route
