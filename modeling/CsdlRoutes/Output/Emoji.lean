import CsdlRoutes.Output.EmojiNames
import CsdlRoutes.Text.Lower

/-!
# Pictures by name

Where colour is wanted, a name between colons shows as the picture of that name. A hyphen and the
word text or emoji behind the name choose the form of the picture. A name that no picture has stays
as it is, with both of its colons.

* `withPictures` puts pictures in the place of names.
-/

namespace CsdlRoutes.Output

/-- What a name may end in to choose a form, and the character that chooses it. -/
def pictureForms : List (String × Char) :=
  [("-emoji", Char.ofNat 0xfe0f), ("-text", Char.ofNat 0xfe0e)]

/-- Splits what stands between colons into a name and the character that chooses a form. -/
def splitForm (inner : List Char) : List Char × List Char :=
  match pictureForms.find? fun (ending, _) => ending.toList.isSuffixOf inner with
  | some (ending, form) => (inner.take (inner.length - ending.length), [form])
  | none => (inner, [])

/-- The picture of what stands between colons. -/
def picture? (inner : List Char) : Option (List Char) :=
  let (name, form) := splitForm inner
  (pictures.get? (Text.lower (String.ofList name))).map fun shown => shown.toList ++ form

/-- Splits what follows a colon at the next one, if no blank comes before it. -/
def splitAtColon? : List Char → Option (List Char × List Char)
  | [] => none
  | c :: rest =>
    if c == ':' then some ([], rest)
    else if Text.isBlank c then none
    else (splitAtColon? rest).map fun (inner, after) => (c :: inner, after)

theorem length_of_splitAtColon? {cs inner after : List Char}
    (h : splitAtColon? cs = some (inner, after)) : after.length < cs.length := by
  induction cs generalizing inner after with
  | nil => simp [splitAtColon?] at h
  | cons c rest ih =>
    unfold splitAtColon? at h
    split at h
    · simp only [Option.some.injEq, Prod.mk.injEq] at h
      simp [← h.2]
    · split at h
      · cases h
      · obtain ⟨⟨inner', after'⟩, hsplit, heq⟩ := Option.map_eq_some_iff.1 h
        simp only [Prod.mk.injEq] at heq
        have := ih hsplit
        simp only [List.length_cons, ← heq.2]
        omega

/-- Puts pictures in the place of names. -/
def withPictures (cs : List Char) : List Char :=
  match cs with
  | [] => []
  | c :: rest =>
    if c == ':' then
      match h : splitAtColon? rest with
      | some (inner, after) =>
        have := length_of_splitAtColon? h
        (picture? inner).getD (':' :: inner ++ [':']) ++ withPictures after
      | none => c :: withPictures rest
    else c :: withPictures rest
termination_by cs.length

end CsdlRoutes.Output
