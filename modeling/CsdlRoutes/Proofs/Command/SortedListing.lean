import CsdlRoutes.Command.Run
import CsdlRoutes.Proofs.Route.OrderIndependence

/-!
# Sorted listings and the order of declarations

Which routes a schema has does not depend on the order in which the members of its schemas and of
its types are written. Only the order of the routes does, and sorting removes it, as long as no two
routes have one path. So a sorted listing is stable.

* `sortedPlan_eq`: the plan of a sorted listing.
* `AgreeUpToOrder`: models with the same routes in different orders.
* `declaration_order_irrelevant`: what a rearranged document leads to.
-/

namespace CsdlRoutes.Command

open Output (Layout)
open Route (Hands Outline Row)
open Schema (Document Model extract)

variable {m m' : Model} {cap : Nat}

theorem selectRows_sorted_eq {listed listed' : List Row} (h : listed.Perm listed')
    (hdistinct : (listed.map Row.path).Nodup) (references : Bool) :
    selectRows true references listed = selectRows true references listed' := by
  cases references with
  | true => exact Route.byPath_eq_of_perm h hdistinct
  | false =>
    refine Route.byPath_eq_of_perm (Route.withoutReferences_perm h) ?_
    exact hdistinct.sublist (List.filter_sublist.map Row.path)

/-- Models with the same rows in different orders have one plan for a sorted listing. -/
theorem sortedPlan_eq {listed listed' : List Row} (hlisted : Route.rows m cap = .ok listed)
    (hlisted' : Route.rows m' cap = .ok listed') (h : listed.Perm listed')
    (hdistinct : (listed.map Row.path).Nodup) {host : Host} {depth : Option Nat}
    (hdepth : (host.resolveDepth (depth.map Int.ofNat)).2 = .ok cap) (layout : Layout)
    (references : Bool) :
    routesPlan host layout depth true references m =
      routesPlan host layout depth true references m' := by
  unfold routesPlan withDepth
  rw [hdepth]
  simp only [Plan.ofResult, hlisted, hlisted', h.length_eq,
    selectRows_sorted_eq h hdistinct references]

/-- Walks through two models hand out routes that look the same, up to their order. Where no two of
the routes have one path, the plan of a sorted listing is the same for both models. -/
def AgreeUpToOrder (m m' : Model) (cap : Nat) : Prop :=
  ∃ os os', Hands m cap os ∧ Hands m' cap os' ∧ os.Perm os' ∧
    ((os.map Outline.path).Nodup → ∀ (host : Host) (depth : Option Nat),
      (host.resolveDepth (depth.map Int.ofNat)).2 = .ok cap →
        ∀ (layout : Layout) (references : Bool),
          routesPlan host layout depth true references m =
            routesPlan host layout depth true references m')

/-- **The order of declarations does not matter.** Where extraction accepts a document in which no
name of a property has a slash, it accepts any rearrangement of it, and the two models agree up to
the order of their routes. -/
theorem declaration_order_irrelevant {version : String} {d d' : Document}
    (h : Document.Rearranged d d') (hd : Document.Proper d) (hm : extract version d = .ok m)
    (hslash : ∀ t ∈ m.types.values, ∀ p ∈ t.properties, '/' ∉ p.name.toList) :
    ∃ m', extract version d' = .ok m' ∧ ∀ cap, AgreeUpToOrder m m' cap := by
  obtain ⟨m', hm', hreordered⟩ := Schema.extract_rearranged h hd hm
  have htidy := Model.tidy_of_extract hd hm fun p ⟨t, ht, hpt⟩ => hslash t ht p hpt
  have htidy' := hreordered.tidy htidy (Schema.closed_of_extract hm')
    (Schema.nodup_names_of_extract hm')
  refine ⟨m', hm', fun cap => ?_⟩
  obtain ⟨os, os', listed, listed', hos, hos', hperm, hlisted, hlisted', hlistedperm, hpaths⟩ :=
    Route.hands_reordered hreordered htidy htidy' (Schema.exists_rootContainer_of_extract hm) cap
  refine ⟨os, os', hos, hos', hperm, ?_⟩
  intro hdistinct host depth hdepth layout references
  exact sortedPlan_eq hlisted hlisted' hlistedperm (hpaths ▸ hdistinct) hdepth layout references

/-- A small document: a container of users, each of whom has a name and a chief. -/
def roster : Document :=
  [(.text "$EntityContainer", .text "t.root"),
   (.text "t", .object
     [(.text "user", .object
       [(.text "$Kind", .text "EntityType"),
        (.text "name", .object []),
        (.text "chief", .object
          [(.text "$Kind", .text "NavigationProperty"), (.text "$Type", .text "t.user")])]),
      (.text "root", .object
       [(.text "$Kind", .text "EntityContainer"),
        (.text "users", .object
          [(.text "$Collection", .scalar (.bool true)), (.text "$Type", .text "t.user")]),
        (.text "me", .object [(.text "$Type", .text "t.user")])])])]

/-- The roster with the container first, and with its members and those of a user in other orders.
-/
def rosterBackwards : Document :=
  [(.text "$EntityContainer", .text "t.root"),
   (.text "t", .object
     [(.text "root", .object
       [(.text "$Kind", .text "EntityContainer"),
        (.text "me", .object [(.text "$Type", .text "t.user")]),
        (.text "users", .object
          [(.text "$Collection", .scalar (.bool true)), (.text "$Type", .text "t.user")])]),
      (.text "user", .object
       [(.text "name", .object []),
        (.text "$Kind", .text "EntityType"),
        (.text "chief", .object
          [(.text "$Kind", .text "NavigationProperty"), (.text "$Type", .text "t.user")])])])]

theorem rosterBackwards_rearranged : Document.Rearranged roster rosterBackwards :=
  .cons (.same _) (.cons (.objects rfl rfl rfl ⟨_, .swap _ _ _,
    .cons (.objects rfl rfl rfl (.cons _ (.swap _ _ _)))
      (.cons (.objects rfl rfl rfl (.swap _ _ _)) .nil)⟩) .nil)

theorem roster_order_irrelevant : ∃ m m', extract "4.0" roster = .ok m ∧
    extract "4.0" rosterBackwards = .ok m' ∧ ∀ cap, AgreeUpToOrder m m' cap := by
  obtain ⟨m, hm, hslash⟩ : ∃ m, extract "4.0" roster = .ok m ∧
      ∀ t ∈ m.types.values, ∀ p ∈ t.properties, '/' ∉ p.name.toList := ⟨_, rfl, by decide⟩
  obtain ⟨m', hm'⟩ :=
    declaration_order_irrelevant rosterBackwards_rearranged (by decide) hm hslash
  exact ⟨m, m', hm, hm'⟩

end CsdlRoutes.Command
