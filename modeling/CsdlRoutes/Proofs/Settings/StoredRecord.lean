import CsdlRoutes.Proofs.Json.WrittenValues
import CsdlRoutes.Settings.Global

/-!
# The record in its file

A record comes back from its file as long as its depth has no more digits than are read. A depth
that was typed in has no more.

* `Settings.ofBytes_fileText`: what is stored is loaded.
* `Settings.storable_of_setter`: every change of a field leaves such a record behind.
-/

namespace CsdlRoutes

/-! ## Typed numbers -/

namespace Number

open Text (ofDigits digitValue? digitValue?_lt trimBoth isSpace)

theorem foldl_digits_lt {digits : List Nat} (h : ∀ d ∈ digits, d < 10) {n k : Nat}
    (hn : n < 10 ^ k) :
    digits.foldl (fun n d => n * 10 + d) n < 10 ^ (k + digits.length) := by
  induction digits generalizing n k with
  | nil => exact hn
  | cons d digits ih =>
    obtain ⟨hd, hdigits⟩ := List.forall_mem_cons.mp h
    have hnext : n * 10 + d < 10 ^ (k + 1) := by
      rw [pow_succ]
      omega
    have hrest := ih hdigits hnext
    rw [List.length_cons, Nat.add_comm digits.length 1, ← Nat.add_assoc]
    exact hrest

theorem lt_of_mem_separatedDigits {after : Bool} {cs : List Char} {digits : List Nat}
    (h : separatedDigits? digitValue? after cs = some digits) : ∀ d ∈ digits, d < 10 := by
  induction cs generalizing after digits with
  | nil =>
    rw [separatedDigits?] at h
    split at h
    · cases h
      exact List.forall_mem_nil _
    · cases h
  | cons c cs ih =>
    rw [separatedDigits?] at h
    split at h
    · split at h
      · exact ih h
      · cases h
    · simp only [Option.bind_eq_bind, Option.bind_eq_some_iff] at h
      obtain ⟨d, hd, ds, hds, h⟩ := h
      cases h
      exact List.forall_mem_cons.mpr ⟨digitValue?_lt hd, ih hds⟩

/-- A number that was typed in has no more digits than are read. -/
theorem natAbs_lt_of_readWhole? {text : String} {i : Int} (h : readWhole? text = some i) :
    i.natAbs < 10 ^ maxDigits := by
  unfold readWhole? at h
  dsimp only at h
  simp only [Option.bind_eq_bind, Option.bind_eq_some_iff] at h
  obtain ⟨digits, hdigits, h⟩ := h
  generalize (splitSign (trimBoth isSpace text.toList)).1 = negative at h
  split at h
  · cases h
  · rename_i hlength
    cases h
    have hzero : 0 < 10 ^ 0 := by decide
    have hlt := foldl_digits_lt (lt_of_mem_separatedDigits hdigits) hzero
    have hle : 10 ^ (0 + digits.length) ≤ 10 ^ maxDigits :=
      Nat.pow_le_pow_right (by decide) (by omega)
    have habs : (signedOfDigits negative digits).natAbs = ofDigits 10 digits := by
      unfold signedOfDigits
      split
      · exact Int.natAbs_neg _
      · rfl
    rw [habs]
    exact Nat.lt_of_lt_of_le hlt hle

end Number

/-! ## Records -/

namespace Settings

/-- A record whose depth has no more digits than are read. -/
structure Storable (s : Settings) : Prop where
  small : s.maxDepth < 10 ^ Number.maxDigits

theorem storable_defaults : defaults.Storable := by
  have hdigit : 5 < 10 ^ 1 := by decide
  exact ⟨Nat.lt_of_lt_of_le hdigit (Nat.pow_le_pow_right (by decide) (by decide))⟩

theorem storable_of_setter {key value : String} {setter : Settings → String → Except Failure Settings}
    (hsetter : (key, setter) ∈ setters) {s s' : Settings} (h : setter s value = .ok s')
    (hs : s.Storable) : s'.Storable := by
  simp only [setters, List.mem_cons, List.not_mem_nil, or_false, Prod.mk.injEq] at hsetter
  rcases hsetter with ⟨_, rfl⟩ | ⟨_, rfl⟩ | ⟨_, rfl⟩
  · unfold setDefaultSchema at h
    obtain rfl := Except.ok.inj h
    exact ⟨hs.small⟩
  · unfold setMaxDepth at h
    split at h
    · cases h
    · rename_i n hn
      obtain rfl := Except.ok.inj h
      have hsmall := Number.natAbs_lt_of_readWhole? hn
      exact ⟨hsmall⟩
    · cases h
  · unfold setFormat at h
    split at h
    · obtain rfl := Except.ok.inj h
      exact ⟨hs.small⟩
    · cases h

theorem writable_toValue {s : Settings} (h : s.Storable) :
    Json.Writable Json.nestingLimit s.toValue := by
  have hschema : Json.Writable 984 (s.defaultSchema.elim .null .text) := by
    cases s.defaultSchema with
    | none => exact .null
    | some schema => exact .text schema
  have hdepth : Json.Writable 984 (.object [(.text "max_depth", .scalar (.int s.maxDepth))]) := by
    refine .object ?_ (List.nodup_singleton _) ?_
    · simp
    · have hsmall : (s.maxDepth : Int).natAbs < 10 ^ Number.maxDigits := h.small
      simpa using Json.Writable.int hsmall
  have hformat : Json.Writable 984 (.object [(.text "format", .text s.format.name)]) := by
    refine .object ?_ (List.nodup_singleton _) ?_
    · simp
    · simpa using Json.Writable.text s.format.name
  have hkeys : s.toMembers.map Prod.fst =
      [.text "default_schema", .text "traversal", .text "output"] := rfl
  refine .object ?_ ?_ ?_
  · simp [toMembers]
  · rw [Keyed.Distinct, hkeys]
    decide
  · simpa [toMembers] using ⟨hschema, hdepth, hformat⟩

theorem readBytes_fileText {s : Settings} (h : s.Storable) :
    readBytes s.fileText.toUTF8 = .ok s.toValue := by
  have hreturn : '\r' ∉ s.fileText.toList := by
    rw [fileText, String.toList_append, List.mem_append, not_or]
    exact ⟨Json.return_not_mem_written (writable_toValue h) 0, by decide⟩
  have hgap : ∀ c ∈ "\n".toList, Json.isGap c = true := by simp [Json.isGap]
  rw [readBytes, Text.decode_toUTF8]
  dsimp only
  rw [Text.unifyNewlines_eq_self hreturn, String.ofList_toList, readText, fileText,
    Json.read_write (writable_toValue h) hgap]

/-- **What is stored is loaded.** -/
theorem ofBytes_fileText {s : Settings} (h : s.Storable) : ofBytes s.fileText.toUTF8 = .ok s := by
  rw [ofBytes, readBytes_fileText h, ok_bind, ofValue_toValue]
  rfl

/-- An object that is not closed. -/
theorem readBytes_brace :
    readBytes "\x7b".toUTF8 = .error (.json ⟨.nameExpected, ⟨1, 2, 1⟩⟩) := by
  have hlines : String.ofList (Text.unifyNewlines "\x7b".toList) = "\x7b" := rfl
  rw [readBytes, Text.decode_toUTF8]
  dsimp only
  rw [hlines]
  rfl

end Settings

end CsdlRoutes
