import CsdlRoutes.Proofs.Results
import CsdlRoutes.Route.Walk

/-!
# Walks and recursive listings

A walk keeps the nodes that are due on a stack. What it will hand out from any state on is the
recursive listing of the stack, put after the listing of what is below the node handed out last.
Each request takes off the first node of that, so any number of requests gets the beginning of the
listing, and the failure that ends the listing shows at the request after its last node. Nothing is
assumed about the model.

* `listingFrom_eq`: the recursion by which a node is listed.
* `Walk.due`: what a walk will hand out, for any stack.
* `Walk.next_cases`: one request; `Walk.take_eq`: any number of requests.
* `listing_eq_due`: a walk from the beginning has the whole listing due.
-/

namespace CsdlRoutes.Route

open Schema (Model Property)

/-! ## Emissions in a row -/

namespace Emission

theorem cons_append (n : Node) (e f : Emission) : (cons n e).append f = cons n (e.append f) := by
  obtain ⟨nodes, failure⟩ := e
  cases failure <;> rfl

theorem append_assoc (e f g : Emission) : (e.append f).append g = e.append (f.append g) := by
  obtain ⟨nodes, failure⟩ := e
  obtain ⟨nodes', failure'⟩ := f
  cases failure with
  | some _ => rfl
  | none =>
    cases failure' with
    | some _ => rfl
    | none => simp [append]

theorem concat_append (es fs : List Emission) :
    concat (es ++ fs) = (concat es).append (concat fs) := by
  induction es with
  | nil => rfl
  | cons e es ih => rw [List.cons_append, concat, concat, ih, append_assoc]

/-- What a number of requests gets from a listing: nodes as long as there are any, and then how the
listing ended. -/
def taken (e : Emission) (count : Nat) : Walk.Taken :=
  if count ≤ e.nodes.length then ⟨e.nodes.take count, false, none⟩
  else ⟨e.nodes, e.failure.isNone, e.failure⟩

theorem taken_zero (e : Emission) : e.taken 0 = ⟨[], false, none⟩ := by
  simp [taken]

theorem taken_cons (n : Node) (e : Emission) (count : Nat) :
    (cons n e).taken (count + 1) =
      ⟨n :: (e.taken count).nodes, (e.taken count).finished, (e.taken count).failure⟩ := by
  by_cases h : count ≤ e.nodes.length <;> simp [taken, cons, h]

end Emission

/-! ## The recursion -/

/-- The nodes right below a node, in the order in which they are pushed. A node that is as deep as
allowed has none, and neither has a mere reference. -/
def offspring (m : Model) (cap : Nat) (n : Node) : Except Failure (List Node) :=
  if n.depth < cap && !m.isReference n.property then children m n else .ok []

/-- The listing of a node and what is below it. -/
def listingFrom (m : Model) (cap : Nat) (n : Node) : Emission := visit m (cap - n.depth) n

theorem depth_child (n : Node) (p : Property) : (n.child p).depth = n.depth + 1 := rfl

theorem children_eq_ok {m : Model} {n : Node} {nodes : List Node} (h : children m n = .ok nodes) :
    ∃ target segs, m.targetType n.property = .ok target ∧ m.segments target = .ok segs ∧
      nodes = (segs.filter fun p => !n.onPath.contains p.canonicalName).map n.child := by
  obtain ⟨target, htarget, h⟩ := bind_eq_ok.mp h
  obtain ⟨segs, hsegs, h⟩ := bind_eq_ok.mp h
  cases h
  exact ⟨target, segs, htarget, hsegs, rfl⟩

theorem depth_of_mem_children {m : Model} {n : Node} {nodes : List Node}
    (h : children m n = .ok nodes) {c : Node} (hc : c ∈ nodes) : c.depth = n.depth + 1 := by
  obtain ⟨_, _, _, _, rfl⟩ := children_eq_ok h
  obtain ⟨p, _, rfl⟩ := List.mem_map.mp hc
  exact depth_child n p

/-- A node is listed before what is below it, and of the nodes right below it the last one comes
first. A failure to find them ends the listing. -/
theorem listingFrom_eq (m : Model) (cap : Nat) (n : Node) :
    listingFrom m cap n =
      match offspring m cap n with
      | .error failure => ⟨[n], some failure⟩
      | .ok nodes => .cons n (.concat (nodes.reverse.map (listingFrom m cap))) := by
  unfold listingFrom offspring
  cases hlevels : cap - n.depth with
  | zero =>
    have hdeep : ¬ n.depth < cap := by omega
    simp [visit, hdeep, Emission.concat]
  | succ levels =>
    have hshallow : n.depth < cap := by omega
    rw [visit]
    cases href : m.isReference n.property with
    | true => simp [Emission.concat]
    | false =>
      cases hchildren : children m n with
      | error failure => simp [hshallow]
      | ok nodes =>
        have hsame : nodes.reverse.map (visit m levels) =
            nodes.reverse.map fun c => visit m (cap - c.depth) c := by
          apply List.map_congr_left
          intro c hc
          have hdepth := depth_of_mem_children hchildren (List.mem_reverse.mp hc)
          have hlevel : cap - c.depth = levels := by omega
          rw [hlevel]
        simp [hshallow, hsame]

/-! ## What is due -/

namespace Walk

/-- What a walk will hand out from a state on, and how it will end. -/
def due (w : Walk) : Emission :=
  match w.last? with
  | none => .concat (w.stack.map (listingFrom w.model w.cap))
  | some n =>
    match offspring w.model w.cap n with
    | .error failure => ⟨[], some failure⟩
    | .ok nodes => .concat ((nodes.reverse ++ w.stack).map (listingFrom w.model w.cap))

/-- Handing out the next node of the stack takes it off what is due. -/
theorem pop_cases {w : Walk} (hw : w.last? = none) :
    (∃ n w', w.pop = (.node n, w') ∧ w.due = .cons n w'.due) ∨
    (∃ w', w.pop = (.finished, w') ∧ w.due = .empty ∧ w'.due = .empty) := by
  obtain ⟨m, cap, last?, stack⟩ := w
  cases hw
  cases stack with
  | nil => exact Or.inr ⟨_, rfl, rfl, rfl⟩
  | cons n rest =>
    refine Or.inl ⟨n, _, rfl, ?_⟩
    simp only [due, List.map_cons, Emission.concat]
    rw [listingFrom_eq]
    cases offspring m cap n with
    | error failure => rfl
    | ok nodes =>
      dsimp only
      rw [Emission.cons_append, List.map_append, Emission.concat_append]

/-- What one request gets, and what is due after it. -/
theorem next_cases (w : Walk) :
    (∃ n w', w.next = (.node n, w') ∧ w.due = .cons n w'.due) ∨
    (∃ w', w.next = (.finished, w') ∧ w.due = .empty ∧ w'.due = .empty) ∨
    (∃ failure w', w.next = (.failed failure, w') ∧ w.due = ⟨[], some failure⟩ ∧
      w'.due = .empty) := by
  unfold next
  cases hlast : w.last? with
  | none =>
    rcases pop_cases hlast with h | h
    · exact Or.inl h
    · exact Or.inr (Or.inl h)
  | some n =>
    have hbelow : w.below n = offspring w.model w.cap n := rfl
    dsimp only
    rw [hbelow]
    cases hoff : offspring w.model w.cap n with
    | error failure =>
      exact Or.inr (Or.inr ⟨failure, _, rfl, by simp [due, hlast, hoff], rfl⟩)
    | ok nodes =>
      have hdue : w.due =
          due { w with last? := none, stack := nodes.reverse ++ w.stack } := by
        simp [due, hlast, hoff]
      rw [hdue]
      rcases pop_cases (w := { w with last? := none, stack := nodes.reverse ++ w.stack }) rfl
        with h | h
      · exact Or.inl h
      · exact Or.inr (Or.inl h)

/-- Any number of requests gets the beginning of what is due. The induction is on the number of
requests, for all walks: `due` is the invariant that carries it. -/
theorem take_eq (w : Walk) (count : Nat) : (w.take count).1 = w.due.taken count := by
  induction count generalizing w with
  | zero => rw [Emission.taken_zero]; rfl
  | succ count ih =>
    rw [take]
    rcases next_cases w with ⟨n, w', hnext, hdue⟩ | ⟨w', hnext, hdue, _⟩ |
      ⟨failure, w', hnext, hdue, _⟩
    · rw [hnext, hdue, Emission.taken_cons, ← ih w']
    · rw [hnext, hdue]
      rfl
    · rw [hnext, hdue]
      rfl

end Walk

theorem walk_start_eq_ok {m : Model} {cap : Nat} {w : Walk} (h : Walk.start m cap = .ok w) :
    ∃ rs, roots m = .ok rs ∧ w = ⟨m, cap, none, rs.reverse⟩ := by
  obtain ⟨rs, hrs, h⟩ := bind_eq_ok.mp h
  cases h
  exact ⟨rs, hrs, rfl⟩

theorem depth_of_mem_roots {m : Model} {rs : List Node} (h : roots m = .ok rs) {r : Node}
    (hr : r ∈ rs) : r.depth = 1 := by
  obtain ⟨c, _, h⟩ := bind_eq_ok.mp h
  obtain ⟨segs, _, h⟩ := bind_eq_ok.mp h
  cases h
  obtain ⟨p, _, rfl⟩ := List.mem_map.mp hr
  rfl

/-- At the beginning of a walk the whole listing is due. -/
theorem listing_eq_due {m : Model} {cap : Nat} {w : Walk} (h : Walk.start m cap = .ok w) :
    listing m cap = .ok w.due := by
  obtain ⟨rs, hrs, rfl⟩ := walk_start_eq_ok h
  have hsame : rs.reverse.map (visit m (cap - 1)) = rs.reverse.map (listingFrom m cap) := by
    apply List.map_congr_left
    intro r hr
    rw [listingFrom, depth_of_mem_roots hrs (List.mem_reverse.mp hr)]
  rw [listing, hrs, ok_bind, hsame]
  rfl

end CsdlRoutes.Route
