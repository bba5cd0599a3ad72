import CsdlRoutes.Json.Reader
import CsdlRoutes.Proofs.ProperValues
import CsdlRoutes.Proofs.Results

/-!
# Values of JSON texts

The reader collects the members of an object as assignments, so a repeated name leaves one member
behind, and no object that is read has a key twice.

* `ReadsProper`: what the readers that call each other yield within a number of steps.
* `proper_of_read`: the values of JSON texts.
-/

namespace CsdlRoutes.Json

/-- Within a number of steps the readers yield proper values, if those that were read before are. -/
structure ReadsProper (fuel : Nat) : Prop where
  value : ∀ room cs v rest, value fuel room cs = .ok (v, rest) → v.Proper
  members : ∀ room read cs ms rest, (∀ m ∈ read, m.2.Proper) →
    members fuel room read cs = .ok (ms, rest) → ∀ m ∈ ms, m.2.Proper
  elements : ∀ room read cs items rest, (∀ v ∈ read, v.Proper) →
    elements fuel room read cs = .ok (items, rest) → ∀ v ∈ items, v.Proper

namespace ReadsProper

variable {fuel : Nat}

theorem value_succ (h : ReadsProper fuel) {room : Nat} {cs rest : List Char} {v : Value}
    (hv : Json.value (fuel + 1) room cs = .ok (v, rest)) : v.Proper := by
  cases cs with
  | nil => cases hv
  | cons c cs =>
    unfold Json.value at hv
    split at hv
    · obtain ⟨⟨s, after⟩, _, hv⟩ := bind_eq_ok.mp hv
      cases hv
      exact .scalar _
    · split at hv
      · obtain ⟨inside, _, hv⟩ := bind_eq_ok.mp hv
        split at hv
        · cases hv
          exact .object List.nodup_nil (by simp)
        · obtain ⟨⟨assignments, after⟩, hread, hv⟩ := bind_eq_ok.mp hv
          cases hv
          obtain ⟨hdistinct, hproper⟩ :=
            Keyed.distinct_ofList (h.members _ _ _ _ _ (by simp) hread)
          exact .object hdistinct hproper
      · split at hv
        · obtain ⟨inside, _, hv⟩ := bind_eq_ok.mp hv
          split at hv
          · cases hv
            exact .list (by simp)
          · obtain ⟨⟨items, after⟩, hread, hv⟩ := bind_eq_ok.mp hv
            cases hv
            exact .list (h.elements _ _ _ _ _ (by simp) hread)
        · obtain ⟨⟨s, after⟩, _, hv⟩ := bind_eq_ok.mp hv
          cases hv
          exact .scalar _

theorem members_succ (h : ReadsProper fuel) {room : Nat} {read ms : List (Scalar × Value)}
    {cs rest : List Char} (hread : ∀ m ∈ read, m.2.Proper)
    (hms : Json.members (fuel + 1) room read cs = .ok (ms, rest)) : ∀ m ∈ ms, m.2.Proper := by
  unfold Json.members at hms
  split at hms
  · obtain ⟨⟨key, after⟩, _, hms⟩ := bind_eq_ok.mp hms
    dsimp only at hms
    split at hms
    · obtain ⟨⟨v, after'⟩, hv, hms⟩ := bind_eq_ok.mp hms
      have hread' : ∀ m ∈ (Scalar.text key, v) :: read, m.2.Proper :=
        List.forall_mem_cons.mpr ⟨h.value _ _ _ _ hv, hread⟩
      dsimp only at hms
      split at hms
      · cases hms
        exact fun m hm => hread' m (List.mem_reverse.mp hm)
      · exact h.members _ _ _ _ _ hread' hms
      · cases hms
    · cases hms
  · cases hms

theorem elements_succ (h : ReadsProper fuel) {room : Nat} {read items : List Value}
    {cs rest : List Char} (hread : ∀ v ∈ read, v.Proper)
    (hitems : Json.elements (fuel + 1) room read cs = .ok (items, rest)) :
    ∀ v ∈ items, v.Proper := by
  unfold Json.elements at hitems
  obtain ⟨⟨v, after⟩, hv, hitems⟩ := bind_eq_ok.mp hitems
  have hread' : ∀ w ∈ v :: read, w.Proper :=
    List.forall_mem_cons.mpr ⟨h.value _ _ _ _ hv, hread⟩
  dsimp only at hitems
  split at hitems
  · cases hitems
    exact fun w hw => hread' w (List.mem_reverse.mp hw)
  · exact h.elements _ _ _ _ _ hread' hitems
  · cases hitems

end ReadsProper

theorem readsProper (fuel : Nat) : ReadsProper fuel := by
  induction fuel with
  | zero =>
    refine ⟨?_, ?_, ?_⟩
    · intro room cs v rest h
      cases h
    · intro room read cs ms rest _ h
      cases h
    · intro room read cs items rest _ h
      cases h
  | succ fuel ih =>
    exact ⟨fun _ _ _ _ => ih.value_succ, fun _ _ _ _ _ => ih.members_succ,
      fun _ _ _ _ _ => ih.elements_succ⟩

/-- No object in the value of a JSON text has a key twice. -/
theorem proper_of_read {text : String} {v : Value} (h : read text = .ok v) : v.Proper := by
  unfold read at h
  dsimp only at h
  split at h
  · rename_i w hread
    cases h
    unfold readChars at hread
    split at hread
    · cases hread
    · obtain ⟨⟨u, rest⟩, hu, hread⟩ := bind_eq_ok.mp hread
      dsimp only at hread
      split at hread
      · cases hread
        exact (readsProper _).value _ _ _ _ hu
      · cases hread
  · cases h

end CsdlRoutes.Json
