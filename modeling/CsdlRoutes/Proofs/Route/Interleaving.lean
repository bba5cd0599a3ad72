import CsdlRoutes.Proofs.Route.WalkEmission
import CsdlRoutes.Proofs.Schema.SharedIndex
import CsdlRoutes.Proofs.Schema.UnknownTypes
import CsdlRoutes.Route.Walks

/-!
# Walks that take turns

What a walk answers depends on its own greatest number of segments and on how often it was asked, and
on nothing else: not on the other walks through the model, nor on who had the index of subtypes built.
It answers with the nodes of the recursive listing, one at each request. A model may be broken, that
is, refer to types that it does not have. Then the listing breaks off at the first node below which
the nodes cannot be found, and the failure is the answer to the request after that node. Later
requests get nothing.

* `Emission.UpToFailure`: where a listing breaks off.
* `Emission.answerAt`: the answer to a request, by the number of those before it.
* `Walks.owes_run`: what is left of a listing after any requests.
* `walks_take_turns`: the answers of a walk among others.
-/

namespace CsdlRoutes.Route

open Schema (Model Property SubtypeIndex)

variable {m : Model} {cap : Nat}

/-! ## Where a listing breaks off -/

/-- The nodes below a node can be found. -/
def Expands (m : Model) (cap : Nat) (n : Node) : Prop := ∃ below, offspring m cap n = .ok below

/-- A listing that did not fail has nodes that can be expanded. One that did ends with a node that
may have nodes below it, and they could not be found because of an unknown type; all nodes before
that one can be expanded. -/
structure Emission.UpToFailure (m : Model) (cap : Nat) (e : Emission) : Prop where
  complete : e.failure = none → ∀ n ∈ e.nodes, Expands m cap n
  stopped : ∀ failure, e.failure = some failure → ∃ before n, e.nodes = before ++ [n] ∧
    (∀ a ∈ before, Expands m cap a) ∧ n.depth < cap ∧ m.isReference n.property = false ∧
    children m n = .error failure ∧ m.Unknown failure

theorem unknown_children (m : Model) (n : Node) : FailsOnly m.Unknown (children m n) :=
  (Model.unknown_targetType m _).bind fun _ _ =>
    (Model.unknown_segments m _).bind fun _ _ => .ok ⟨_, rfl⟩

theorem children_of_offspring_error {n : Node} {failure : Failure}
    (h : offspring m cap n = .error failure) :
    n.depth < cap ∧ m.isReference n.property = false ∧ children m n = .error failure := by
  unfold offspring at h
  split at h
  · rename_i hopen
    obtain ⟨hdepth, href⟩ := Bool.and_eq_true_iff.mp hopen
    exact ⟨by simpa using hdepth, by simpa using href, h⟩
  · cases h

namespace Emission.UpToFailure

theorem empty : UpToFailure m cap .empty := ⟨fun _ _ hn => (nomatch hn), fun _ h => nomatch h⟩

theorem append {e f : Emission} (he : UpToFailure m cap e) (hf : UpToFailure m cap f) :
    UpToFailure m cap (e.append f) := by
  obtain ⟨nodes, failure⟩ := e
  cases failure with
  | some failure => exact he
  | none =>
    have hexpands := he.complete rfl
    refine ⟨fun hfailure n hn => ?_, fun failure hfailure => ?_⟩
    · rcases List.mem_append.mp hn with hn | hn
      · exact hexpands n hn
      · exact hf.complete hfailure n hn
    · obtain ⟨before, n, hnodes, hbefore, hrest⟩ := hf.stopped failure hfailure
      refine ⟨nodes ++ before, n, ?_, ?_, hrest⟩
      · change nodes ++ f.nodes = _
        rw [hnodes, List.append_assoc]
      · exact List.forall_mem_append.mpr ⟨hexpands, hbefore⟩

theorem concat {es : List Emission} (h : ∀ e ∈ es, UpToFailure m cap e) :
    UpToFailure m cap (.concat es) := by
  induction es with
  | nil => exact empty
  | cons e rest ih =>
    obtain ⟨he, hrest⟩ := List.forall_mem_cons.mp h
    exact he.append (ih hrest)

theorem cons {n : Node} {e : Emission} (hn : Expands m cap n) (he : UpToFailure m cap e) :
    UpToFailure m cap (.cons n e) := by
  have hsingle : UpToFailure m cap ⟨[n], none⟩ :=
    ⟨fun _ => List.forall_mem_singleton.mpr hn, fun _ h => nomatch h⟩
  exact hsingle.append he

theorem singleton {n : Node} {failure : Failure} (h : offspring m cap n = .error failure) :
    UpToFailure m cap ⟨[n], some failure⟩ := by
  refine ⟨fun hnone => (nomatch hnone), fun failure' hsame => ?_⟩
  cases hsame
  obtain ⟨hdepth, href, hchildren⟩ := children_of_offspring_error h
  exact ⟨[], n, rfl, List.forall_mem_nil _, hdepth, href, hchildren,
    (unknown_children m n).2 failure hchildren⟩

/-- The induction is on the number of levels that are left below a node. -/
theorem listingFrom (m : Model) (cap : Nat) (n : Node) :
    UpToFailure m cap (listingFrom m cap n) := by
  induction hlevels : cap - n.depth generalizing n with
  | zero =>
    rw [listingFrom_eq]
    have hdeep : ¬ n.depth < cap := by omega
    have hoff : offspring m cap n = .ok [] := by simp [offspring, hdeep]
    rw [hoff]
    exact cons ⟨[], hoff⟩ empty
  | succ levels ih =>
    rw [listingFrom_eq]
    cases hoff : offspring m cap n with
    | error failure => exact singleton hoff
    | ok nodes =>
      refine cons ⟨nodes, hoff⟩ (concat ?_)
      intro e he
      obtain ⟨c, hc, rfl⟩ := List.mem_map.mp he
      have hdepth : c.depth = n.depth + 1 := by
        unfold offspring at hoff
        split at hoff
        · exact depth_of_mem_children hoff (List.mem_reverse.mp hc)
        · cases hoff
          cases hc
      exact ih c (by omega)

end Emission.UpToFailure

/-- What is due in any state of a walk breaks off where a node cannot be expanded. -/
theorem upToFailure_of_start {w : Walk} (h : Walk.start m cap = .ok w) :
    w.due.UpToFailure m cap := by
  obtain ⟨rs, _, rfl⟩ := walk_start_eq_ok h
  refine Emission.UpToFailure.concat fun e he => ?_
  obtain ⟨n, _, rfl⟩ := List.mem_map.mp he
  exact .listingFrom m cap n

/-! ## Answers by number -/

namespace Emission

/-- The answer to the first request for what a listing yields. -/
def first (e : Emission) : Step :=
  match e.nodes, e.failure with
  | n :: _, _ => .node n
  | [], some failure => .failed failure
  | [], none => .finished

/-- The answer to the request that comes after a number of others: a node as long as there are any,
then the failure, if there was one, and nothing more after that. -/
def answerAt (e : Emission) (count : Nat) : Step :=
  match e.nodes[count]? with
  | some n => .node n
  | none =>
    if count = e.nodes.length then
      match e.failure with
      | some failure => .failed failure
      | none => .finished
    else .finished

/-- What is left after a number of requests. -/
def after (e : Emission) (count : Nat) : Emission :=
  ⟨e.nodes.drop count, if count ≤ e.nodes.length then e.failure else none⟩

theorem after_zero (e : Emission) : e.after 0 = e := by simp [after]

theorem after_after (e : Emission) (count more : Nat) :
    (e.after count).after more = e.after (count + more) := by
  have hlength : (e.nodes.drop count).length = e.nodes.length - count := List.length_drop
  simp only [after, List.drop_drop, hlength]
  by_cases hcount : count ≤ e.nodes.length
  · by_cases hmore : count + more ≤ e.nodes.length
    · have hrest : more ≤ e.nodes.length - count := by omega
      simp [hcount, hmore, hrest]
    · have hrest : ¬ more ≤ e.nodes.length - count := by omega
      simp [hmore, hrest]
  · have hsum : ¬ count + more ≤ e.nodes.length := by omega
    simp [hcount, hsum]

theorem first_after (e : Emission) (count : Nat) : (e.after count).first = e.answerAt count := by
  unfold first answerAt after
  dsimp only
  rcases Nat.lt_trichotomy count e.nodes.length with hlt | heq | hgt
  · rw [List.drop_eq_getElem_cons hlt, List.getElem?_eq_getElem hlt]
  · subst heq
    cases e.failure <;> simp
  · have hle : e.nodes.length ≤ count := Nat.le_of_lt hgt
    have hno : ¬ count ≤ e.nodes.length := by omega
    have hne : ¬ count = e.nodes.length := by omega
    simp [List.drop_eq_nil_of_le hle, List.getElem?_eq_none hle, hno, hne]

theorem cons_after_one (n : Node) (e : Emission) : (cons n e).after 1 = e := by
  simp [cons, after]

end Emission

/-! ## One walk -/

theorem Walk.next_due (w : Walk) :
    w.next.1 = w.due.first ∧ w.next.2.due = w.due.after 1 := by
  rcases w.next_cases with ⟨n, w', hnext, hdue⟩ | ⟨w', hnext, hdue, hdue'⟩ |
    ⟨failure, w', hnext, hdue, hdue'⟩
  · rw [hnext, hdue, Emission.cons_after_one]
    exact ⟨rfl, rfl⟩
  · rw [hnext, hdue, hdue']
    exact ⟨rfl, rfl⟩
  · rw [hnext, hdue, hdue']
    exact ⟨rfl, rfl⟩

theorem Walk.model_next (w : Walk) : w.next.2.model = w.model := by
  have hpop : ∀ w : Walk, w.pop.2.model = w.model := by
    intro w
    unfold Walk.pop
    split <;> rfl
  unfold Walk.next
  split
  · exact hpop w
  · split
    · rfl
    · exact hpop _

theorem computes_children (m : Model) (n : Node) :
    m.Computes (cachedChildren m n) (children m n) :=
  (Model.Computes.lift _).bind fun target => (Model.computes_segments m target).bind fun _ => .pure _

theorem computes_roots (m : Model) : m.Computes (cachedRoots m) (roots m) :=
  (Model.Computes.lift _).bind fun c => (Model.computes_segmentsAs m true c).bind fun _ => .pure _

theorem computes_start (m : Model) (cap : Nat) :
    m.Computes (Walk.cachedStart m cap) (Walk.start m cap) :=
  (computes_roots m).bind fun _ => .pure _

theorem computes_below (w : Walk) (n : Node) :
    w.model.Computes (w.cachedBelow n) (w.below n) := by
  unfold Walk.cachedBelow Walk.below
  split
  · exact computes_children w.model n
  · exact .pure []

/-- A request gets the same from a walk, whether the index was built before or is built for it. -/
theorem cachedNext_eq (w : Walk) {index? : Option SubtypeIndex} (h : w.model.Keeps index?) :
    ∃ index?', w.cachedNext.run index? = (w.next, index?') ∧ w.model.Keeps index?' := by
  unfold Walk.cachedNext Walk.next
  cases hlast : w.last? with
  | none => exact ⟨index?, rfl, h⟩
  | some n =>
    obtain ⟨index?', hrun, hkeeps⟩ := computes_below w n index? h
    refine ⟨index?', ?_, hkeeps⟩
    dsimp only
    rw [StateT.run_bind, hrun]
    cases w.below n with
    | error failure => rfl
    | ok nodes => rfl

/-! ## All walks -/

/-- The walks go through one model, and the index that they share is that of the model. -/
structure Walks.Sound (m : Model) (ws : Walks) : Prop where
  keeps : m.Keeps ws.index?
  models : ∀ w ∈ ws.walks, w.model = m

/-- What the walk at a place still has to hand out. -/
def Walks.Owes (ws : Walks) (i : Nat) (e : Emission) : Prop :=
  ∃ w, ws.walks[i]? = some w ∧ w.due = e

namespace Walks

variable {ws : Walks}

theorem sound_fresh (m : Model) : Sound m fresh := ⟨m.keeps_none, fun _ hw => (nomatch hw)⟩

/-- A new walk is put behind the others. -/
theorem answer_start (hws : ws.Sound m) {w : Walk} (hw : Walk.start m cap = .ok w) :
    ∃ index?, ws.answer m (.start cap) = (.started, ⟨index?, ws.walks ++ [w]⟩) ∧
      m.Keeps index? := by
  obtain ⟨index?, hrun, hkeeps⟩ := computes_start m cap ws.index? hws.keeps
  refine ⟨index?, ?_, hkeeps⟩
  rw [answer, hrun, hw]

theorem answer_refused (hws : ws.Sound m) {failure : Failure}
    (hw : Walk.start m cap = .error failure) :
    ∃ index?, ws.answer m (.start cap) = (.refused failure, ⟨index?, ws.walks⟩) ∧
      m.Keeps index? := by
  obtain ⟨index?, hrun, hkeeps⟩ := computes_start m cap ws.index? hws.keeps
  refine ⟨index?, ?_, hkeeps⟩
  rw [answer, hrun, hw]

/-- A request to a walk changes that walk alone. -/
theorem answer_next (hws : ws.Sound m) {i : Nat} {w : Walk} (hw : ws.walks[i]? = some w) :
    ∃ index?, ws.answer m (.next i) =
      (.answered w.next.1, ⟨index?, ws.walks.set i w.next.2⟩) ∧ m.Keeps index? := by
  have hmodel := hws.models w (List.mem_of_getElem? hw)
  obtain ⟨index?, hrun, hkeeps⟩ := cachedNext_eq w (hmodel ▸ hws.keeps)
  refine ⟨index?, ?_, hmodel ▸ hkeeps⟩
  rw [answer, hw]
  dsimp only
  rw [hrun]

theorem answer_noWalk {i : Nat} (hw : ws.walks[i]? = none) :
    ws.answer m (.next i) = (.noWalk, ws) := by rw [answer, hw]

/-- What one request leaves: the same walks with at most one more, the one that was asked a step
further, and no wrong index. -/
theorem answer_sound (hws : ws.Sound m) (request : Request) :
    (ws.answer m request).2.Sound m := by
  cases request with
  | start cap =>
    cases hw : Walk.start m cap with
    | error failure =>
      obtain ⟨index?, hanswer, hkeeps⟩ := answer_refused hws hw
      rw [hanswer]
      exact ⟨hkeeps, hws.models⟩
    | ok w =>
      obtain ⟨index?, hanswer, hkeeps⟩ := answer_start hws hw
      obtain ⟨rs, _, rfl⟩ := walk_start_eq_ok hw
      rw [hanswer]
      exact ⟨hkeeps, List.forall_mem_append.mpr ⟨hws.models, List.forall_mem_singleton.mpr rfl⟩⟩
  | next i =>
    cases hw : ws.walks[i]? with
    | none =>
      rw [answer_noWalk hw]
      exact hws
    | some w =>
      obtain ⟨index?, hanswer, hkeeps⟩ := answer_next hws hw
      rw [hanswer]
      refine ⟨hkeeps, fun w' hw' => ?_⟩
      rcases List.mem_or_eq_of_mem_set hw' with hw' | rfl
      · exact hws.models w' hw'
      · exact w.model_next.trans (hws.models w (List.mem_of_getElem? hw))

/-- One request takes what it gets off what the walk at a place has to hand out, if it was for that
walk. -/
theorem owes_answer (hws : ws.Sound m) {i : Nat} {e : Emission} (h : ws.Owes i e)
    (request : Request) :
    (ws.answer m request).2.Owes i (e.after ([request].count (.next i))) := by
  obtain ⟨w, hw, rfl⟩ := h
  cases request with
  | start cap =>
    have hcount : [Request.start cap].count (.next i) = 0 := rfl
    rw [hcount, Emission.after_zero]
    cases hstart : Walk.start m cap with
    | error failure =>
      obtain ⟨index?, hanswer, _⟩ := answer_refused hws hstart
      rw [hanswer]
      exact ⟨w, hw, rfl⟩
    | ok w' =>
      obtain ⟨index?, hanswer, _⟩ := answer_start hws hstart
      rw [hanswer]
      have hlt : i < ws.walks.length := (List.getElem?_eq_some_iff.mp hw).1
      exact ⟨w, (List.getElem?_append_left hlt).trans hw, rfl⟩
  | next j =>
    by_cases hsame : j = i
    · subst hsame
      obtain ⟨index?, hanswer, _⟩ := answer_next hws hw
      have hcount : [Request.next j].count (.next j) = 1 := by simp
      have hlt : j < ws.walks.length := (List.getElem?_eq_some_iff.mp hw).1
      rw [hanswer, hcount]
      exact ⟨w.next.2, List.getElem?_set_self hlt, w.next_due.2⟩
    · have hcount : [Request.next j].count (.next i) = 0 := by simp [hsame]
      rw [hcount, Emission.after_zero]
      cases hj : ws.walks[j]? with
      | none =>
        rw [answer_noWalk hj]
        exact ⟨w, hw, rfl⟩
      | some w' =>
        obtain ⟨index?, hanswer, _⟩ := answer_next hws hj
        rw [hanswer]
        exact ⟨w, (List.getElem?_set_ne hsame).trans hw, rfl⟩

/-! ## Runs -/

theorem run_cons (ws : Walks) (request : Request) (rest : List Request) :
    run m ws (request :: rest) = ((ws.answer m request).1 :: (run m (ws.answer m request).2 rest).1,
      (run m (ws.answer m request).2 rest).2) := rfl

theorem run_append (ws : Walks) (before rest : List Request) :
    run m ws (before ++ rest) = ((run m ws before).1 ++ (run m (run m ws before).2 rest).1,
      (run m (run m ws before).2 rest).2) := by
  induction before generalizing ws with
  | nil => rfl
  | cons request before ih => rw [List.cons_append, run_cons, run_cons, ih]; rfl

theorem length_run (ws : Walks) (requests : List Request) :
    (run m ws requests).1.length = requests.length := by
  induction requests generalizing ws with
  | nil => rfl
  | cons request rest ih => rw [run_cons, List.length_cons, List.length_cons, ih]

/-- The answer to a request, among those to other requests before and after it. -/
theorem getElem?_run (ws : Walks) (before : List Request) (request : Request)
    (rest : List Request) : (run m ws (before ++ request :: rest)).1[before.length]? =
      some ((run m ws before).2.answer m request).1 := by
  have hlength := length_run (m := m) ws before
  rw [run_append, run_cons, List.getElem?_append_right (by omega), hlength, Nat.sub_self]
  rfl

theorem run_sound (hws : ws.Sound m) (requests : List Request) :
    (run m ws requests).2.Sound m := by
  induction requests generalizing ws with
  | nil => exact hws
  | cons request rest ih => exact ih (answer_sound hws request)

/-- After any requests a walk has to hand out what it had before, less what was asked of it. The
induction is on the requests; what one request changes carries it. -/
theorem owes_run (hws : ws.Sound m) {i : Nat} {e : Emission} (h : ws.Owes i e)
    (requests : List Request) :
    (run m ws requests).2.Owes i (e.after (requests.count (.next i))) := by
  induction requests generalizing ws e with
  | nil =>
    rw [List.count_nil, Emission.after_zero]
    exact h
  | cons request rest ih =>
    have hrest := ih (answer_sound hws request) (owes_answer hws h request)
    rw [Emission.after_after, ← List.count_append] at hrest
    exact hrest

end Walks

/-- How many walks are begun by requests. -/
def begun (requests : List Request) : Nat := requests.countP fun request =>
  match request with
  | .start _ => true
  | .next _ => false

namespace Walks

/-- Where walks can be begun at all, each request for one is granted. -/
theorem length_walks_run {ws : Walks} (hws : ws.Sound m) (hroots : ∃ rs, roots m = .ok rs)
    (requests : List Request) :
    (run m ws requests).2.walks.length = ws.walks.length + begun requests := by
  induction requests generalizing ws with
  | nil => rfl
  | cons request rest ih =>
    rw [run_cons, ih (answer_sound hws request), begun, begun, List.countP_cons]
    cases request with
    | start cap =>
      obtain ⟨rs, hrs⟩ := hroots
      have hw : Walk.start m cap = .ok ⟨m, cap, none, rs.reverse⟩ := by
        rw [Walk.start, hrs, ok_bind]
        rfl
      obtain ⟨index?, hanswer, _⟩ := answer_start hws hw
      rw [hanswer, List.length_append, List.length_singleton, if_pos rfl]
      omega
    | next i =>
      rw [if_neg Bool.false_ne_true]
      cases hw : ws.walks[i]? with
      | none =>
        rw [answer_noWalk hw]
        rfl
      | some w =>
        obtain ⟨index?, hanswer, _⟩ := answer_next hws hw
        rw [hanswer, List.length_set]
        rfl

end Walks

/-- **Walks take turns.** Where a walk can be begun, there is a listing of the tree, which breaks off
at the first node below which the nodes cannot be found. Whatever walks are begun and asked in
whatever order, the answers of one walk depend on its greatest number of segments and on the number
of requests to it alone: they are the nodes of its listing, one after another, then the failure that
broke the listing off, if there was one, and after that nothing more. -/
theorem walks_take_turns {w : Walk} (hw : Walk.start m cap = .ok w) :
    ∃ e, listing m cap = .ok e ∧ e.UpToFailure m cap ∧
      ∀ before between after : List Request,
        (Walks.run m .fresh
            ((before ++ .start cap :: between) ++ .next (begun before) :: after)).1[
          (before ++ .start cap :: between).length]? =
            some (.answered (e.answerAt (between.count (.next (begun before))))) := by
  refine ⟨w.due, listing_eq_due hw, upToFailure_of_start hw, fun before between after => ?_⟩
  obtain ⟨rs, hrs, _⟩ := walk_start_eq_ok hw
  have hsound := Walks.run_sound (Walks.sound_fresh m) before
  have hlength := Walks.length_walks_run (Walks.sound_fresh m) ⟨rs, hrs⟩ before
  -- the walk in question is put behind those that were begun before
  obtain ⟨index?, hstart, _⟩ := Walks.answer_start hsound hw
  have howes :
      ((Walks.run m .fresh before).2.answer m (.start cap)).2.Owes (begun before) w.due := by
    rw [hstart]
    refine ⟨w, ?_, rfl⟩
    have hplace : begun before = (Walks.run m .fresh before).2.walks.length := by
      rw [hlength]
      exact (Nat.zero_add _).symm
    rw [hplace]
    exact List.getElem?_concat_length
  have hstarted := Walks.answer_sound hsound (.start cap)
  obtain ⟨w', hplace, hdue⟩ := Walks.owes_run hstarted howes between
  obtain ⟨index?', hnext, _⟩ := Walks.answer_next (Walks.run_sound hstarted between) hplace
  rw [Walks.getElem?_run, Walks.run_append, Walks.run_cons, hnext, w'.next_due.1, hdue,
    Emission.first_after]

/-- A model with files, which lie in folders, and users, who have a chief of a missing type. The files
are listed, then the users, and then the listing breaks off. -/
def tornModel : Model where
  version := "4.0"
  space := "t"
  types :=
    [("t.file", ⟨"t.file", .entity, none, false, ["id"],
       [⟨"folder", "t.file", "t.file", false, true, true⟩]⟩),
     ("t.user", ⟨"t.user", .entity, none, false, ["id"],
       [⟨"chief", "t.user", "t.chief", false, true, true⟩]⟩),
     ("t.root", ⟨"t.root", .container, none, false, [],
       [⟨"me", "t.root", "t.user", false, true, true⟩,
        ⟨"users", "t.root", "t.user", true, true, true⟩,
        ⟨"files", "t.root", "t.file", true, true, true⟩]⟩)]
  entityContainer := "t.root"

theorem tornModel_walks_take_turns : ∃ w, Walk.start tornModel 2 = .ok w ∧
    ∃ e, listing tornModel 2 = .ok e ∧ e.UpToFailure tornModel 2 ∧
      e.nodes.map Node.names = ["files", "files/folder", "users"] ∧
      e.failure = some (.schema (.unknownType "t.chief" "t")) ∧
      ∀ before between after : List Request,
        (Walks.run tornModel .fresh
            ((before ++ .start 2 :: between) ++ .next (begun before) :: after)).1[
          (before ++ .start 2 :: between).length]? =
            some (.answered (e.answerAt (between.count (.next (begun before))))) := by
  obtain ⟨w, hw⟩ : ∃ w, Walk.start tornModel 2 = .ok w := ⟨_, rfl⟩
  obtain ⟨e, he, hstops, hanswers⟩ := walks_take_turns hw
  obtain ⟨e', he', hnodes, hfailure⟩ : ∃ e', listing tornModel 2 = .ok e' ∧
      e'.nodes.map Node.names = ["files", "files/folder", "users"] ∧
      e'.failure = some (.schema (.unknownType "t.chief" "t")) := ⟨_, rfl, by decide, by decide⟩
  rw [he] at he'
  cases he'
  exact ⟨w, hw, e, he, hstops, hnodes, hfailure, hanswers⟩

end CsdlRoutes.Route
