import CsdlRoutes.Proofs.Json.ReadValues
import CsdlRoutes.Proofs.Schema.Rearrangement
import CsdlRoutes.Proofs.Yaml.ReadValues
import CsdlRoutes.Schema.Document

/-!
# Documents that are read are proper

Whatever is known about the encoding of a text, the document that is read from it has no object with
a key twice.

* `proper_of_read`: the documents of texts.
-/

namespace CsdlRoutes.Schema.Document

theorem proper_of_members {members : Members} (h : ∀ m ∈ members, m.2.Proper) :
    Document.Proper members := by
  intro entry hentry
  obtain ⟨hkeys, hmembers⟩ := (h entry hentry).members
  exact ⟨hkeys, fun member hmember => (hmembers member hmember).members.1⟩

theorem proper_of_object {v : Value} (hv : v.Proper) {members : Members}
    (h : v.bare = .object members) : Document.Proper members := by
  have hmembers := hv.members.2
  rw [Value.members_of_bare h] at hmembers
  exact proper_of_members hmembers

theorem proper_of_readYaml {json : Option Json.Fault} {text : String} {d : Document}
    (h : readYaml .standard json text = .ok d) : Document.Proper d := by
  unfold readYaml at h
  split at h
  · rename_i v hv
    unfold ofYaml at h
    split at h
    · rename_i members hbare
      cases h
      exact proper_of_object (Yaml.proper_of_read hv) hbare
    · cases h
    · cases h
  · cases h
  · cases h
  · cases h

/-- A document that is read from a text is proper. -/
theorem proper_of_read {hint : Hint} {text : String} {d : Document}
    (h : read .standard hint text = .ok d) : Document.Proper d := by
  unfold read at h
  split at h
  · exact proper_of_readYaml h
  · split at h
    · rename_i v hv
      unfold ofJson at h
      split at h
      · cases h
        exact proper_of_object (Json.proper_of_read hv) rfl
      · cases h
    · split at h
      · cases h
      · cases h
      · split at h
        · cases h
        · exact proper_of_readYaml h

end CsdlRoutes.Schema.Document
