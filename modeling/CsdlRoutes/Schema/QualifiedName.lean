import CsdlRoutes.Failure

/-!
# Qualified names

A qualified name is a namespace and a short name with a dot between them. Both are non-empty, and the
dot is the last one, so the short name has none.

* `splitAtLastDot?` splits a row of characters at its last dot.
* `QualifiedName.read` splits a name, and refuses one that is not qualified.
-/

namespace CsdlRoutes.Schema

/-- A name with its namespace. -/
structure QualifiedName where
  space : String
  short : String
  deriving DecidableEq, Repr

/-- What stands before and after the last dot. -/
def splitAtLastDot? : List Char → Option (List Char × List Char)
  | [] => none
  | c :: rest =>
    match splitAtLastDot? rest with
    | some (before, after) => some (c :: before, after)
    | none => if c = '.' then some ([], rest) else none

/-- Splits a qualified name. -/
def QualifiedName.read? (name : String) : Option QualifiedName :=
  match splitAtLastDot? name.toList with
  | some (before, after) =>
    if before.isEmpty || after.isEmpty then none
    else some ⟨String.ofList before, String.ofList after⟩
  | none => none

/-- Splits a qualified name, and refuses one that is not qualified. -/
def QualifiedName.read (name : String) : Except Failure QualifiedName :=
  match QualifiedName.read? name with
  | some q => .ok q
  | none => .error (.document (.unqualifiedName name))

/-- The name as one text. -/
def QualifiedName.join (q : QualifiedName) : String := q.space ++ "." ++ q.short

/-- What stands after the last dot of a name, or the whole name. -/
def shortName (name : String) : String :=
  match splitAtLastDot? name.toList with
  | some (_, after) => String.ofList after
  | none => name

/-- The namespace of the primitive types. -/
def primitiveSpace : String := "Edm"

/-- Whether a name is that of a primitive type. -/
def isPrimitive (name : String) : Bool := "Edm.".toList.isPrefixOf name.toList

/-- Whether a member of a document is reserved for the format itself. -/
def isReserved (name : String) : Bool := name.toList.head? == some '$'

/-- Whether a member of a document is an annotation. -/
def isAnnotation (name : String) : Bool := name.toList.contains '@'

theorem splitAtLastDot?_eq_some {cs before after : List Char}
    (h : splitAtLastDot? cs = some (before, after)) :
    cs = before ++ '.' :: after ∧ '.' ∉ after := by
  induction cs generalizing before with
  | nil => simp [splitAtLastDot?] at h
  | cons c rest ih =>
    rw [splitAtLastDot?] at h
    split at h
    · rename_i b a hr
      simp only [Option.some.injEq, Prod.mk.injEq] at h
      obtain ⟨rfl, rfl⟩ := h
      obtain ⟨he, hn⟩ := ih hr
      exact ⟨by rw [he, List.cons_append], hn⟩
    · rename_i hr
      split at h
      · rename_i hc
        simp only [Option.some.injEq, Prod.mk.injEq] at h
        obtain ⟨rfl, rfl⟩ := h
        refine ⟨by rw [hc, List.nil_append], fun hm => ?_⟩
        clear ih
        induction rest with
        | nil => simp at hm
        | cons d more ih =>
          rw [splitAtLastDot?] at hr
          split at hr
          · simp at hr
          · rename_i hmore
            split at hr
            · simp at hr
            · rename_i hd
              rcases List.mem_cons.1 hm with rfl | hm
              · exact hd rfl
              · exact ih hmore hm
      · simp at h

end CsdlRoutes.Schema
