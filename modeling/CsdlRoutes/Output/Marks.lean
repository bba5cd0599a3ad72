import CsdlRoutes.Output.Emoji
import CsdlRoutes.Output.Literal
import CsdlRoutes.Output.Style

/-!
# Marks in messages

Where colour is wanted, words in square brackets are marks: they open a style, or close it if they
start with a slash. Marks do not show. A backslash before a mark lets it stand as text. A mark that
starts with an at sign opens an action, whose parameters are read when it is closed. A mark that
closes nothing, or an action whose parameters are no literal, cannot be shown at all.

* `pieces` tells marks from text.
* `withoutMarks` is a text without its marks, if they can be shown.
-/

namespace CsdlRoutes.Output

/-- A piece of a text with marks. -/
inductive Piece where
  | text (cs : List Char)
  | opening (style parameters : List Char)
  /-- A mark that closes a style, or the last style that is open if it names none. -/
  | closing (style : List Char)
  deriving DecidableEq, Repr

/-! ## Telling marks from text -/

/-- Whether a character may start a mark. -/
def startsMark (c : Char) : Bool := c.isLower || c == '#' || c == '/' || c == '@'

/-- Whether a character may stand in a mark. -/
def isInMark (c : Char) : Bool := c != ']' && c != '['

/-- Splits what follows an opening bracket into a mark and what follows the mark. -/
def splitMark? (cs : List Char) : Option (List Char × List Char) :=
  if cs.head?.any startsMark then
    match cs.dropWhile isInMark with
    | ']' :: rest => some (cs.takeWhile isInMark, rest)
    | _ => none
  else none

/-- Splits a text into what stands before its first mark, the mark, and what follows. -/
def nextMark? : List Char → Option (List Char × List Char × List Char)
  | [] => none
  | c :: rest =>
    match if c == '[' then splitMark? rest else none with
    | some (mark, after) => some ([], mark, after)
    | none => (nextMark? rest).map fun (before, found) => (c :: before, found)

theorem length_of_splitMark? {cs mark rest : List Char} (h : splitMark? cs = some (mark, rest)) :
    rest.length < cs.length := by
  unfold splitMark? at h
  split at h
  · split at h
    · rename_i tail heq
      have hle : (cs.dropWhile isInMark).length ≤ cs.length :=
        (List.dropWhile_sublist isInMark).length_le
      rw [heq] at hle
      simp only [Option.some.injEq, Prod.mk.injEq] at h
      rw [← h.2]
      exact hle
    · cases h
  · cases h

theorem length_of_nextMark? {cs before mark after : List Char}
    (h : nextMark? cs = some (before, mark, after)) : after.length < cs.length := by
  induction cs generalizing before mark after with
  | nil => simp [nextMark?] at h
  | cons c rest ih =>
    unfold nextMark? at h
    split at h
    · rename_i found hfound
      simp only [Option.some.injEq, Prod.mk.injEq] at h
      split at hfound
      · have := length_of_splitMark? hfound
        rw [h.2.2] at this
        exact Nat.lt_succ_of_lt this
      · cases hfound
    · obtain ⟨⟨before', found⟩, hnext, heq⟩ := Option.map_eq_some_iff.1 h
      simp only [Prod.mk.injEq] at heq
      rw [heq.2] at hnext
      exact Nat.lt_succ_of_lt (ih hnext)

/-- The piece that a mark makes. Parameters follow an equals sign. -/
def Piece.ofMark (mark : List Char) : Piece :=
  match mark.takeWhile (· != '=') with
  | '/' :: style => .closing style
  | style => .opening style ((mark.dropWhile (· != '=')).drop 1)

/-- The piece of a text, unless there is none. -/
def plain (cs : List Char) : List Piece := if cs.isEmpty then [] else [.text cs]

/-- Tells marks from text. Of the backslashes before a mark each second one is shown, and an odd one
lets the mark stand as text. -/
def pieces (cs : List Char) : List Piece :=
  match h : nextMark? cs with
  | none => plain cs
  | some (before, mark, after) =>
    have := length_of_nextMark? h
    let count := (before.reverse.takeWhile (· == '\\')).length
    plain (before.take (before.length - count)) ++ plain (List.replicate (count / 2) '\\') ++
      (if count % 2 = 1 then plain ('[' :: mark ++ [']']) else [Piece.ofMark mark]) ++ pieces after
termination_by cs.length

/-! ## Leaving out marks -/

/-- Why a text with marks cannot be shown. -/
inductive MarkFault where
  /-- A mark closes nothing. -/
  | closesNothing
  /-- The parameters of an action are no literal. -/
  | unreadableAction
  /-- A component of a colour is no number. -/
  | componentNoNumber
  deriving DecidableEq, Repr

/-- A style that is open. -/
structure OpenStyle where
  name : String
  parameters : List Char
  deriving DecidableEq, Repr

/-- The name by which the style of a mark is known. -/
def nameOfMark (style : List Char) : Except MarkFault String :=
  (styleName (String.ofList style)).mapError fun _ => .componentNoNumber

/-- Whether a character may stand in the name of what handles an action. -/
def isHandlerChar (c : Char) : Bool := c.isAlphanum || c == '_' || c == '.' ||
  (decide (0x80 ≤ c.toNat) && !Text.isBlank c)

/-- What is read of the parameters of an action: what follows the name of a handler if it is in
parentheses, nothing behind a name alone, and all of it otherwise. -/
def actionLiteral (parameters : List Char) : List Char :=
  let behind := parameters.dropWhile isHandlerChar
  if behind.isEmpty then ['(', ')']
  else if behind.head? == some '(' && behind.getLast? == some ')' && decide (2 ≤ behind.length) &&
      !behind.contains '\n' then behind
  else parameters

/-- Whether the parameters of a style can be read when it is closed. -/
def OpenStyle.isReadable (o : OpenStyle) : Bool :=
  !("@".toList.isPrefixOf o.name.toList) || o.parameters.isEmpty ||
    isLiteral (actionLiteral (Text.trimBoth Text.isBlank o.parameters))

/-- Closes a style. -/
def OpenStyle.close (o : OpenStyle) : Except MarkFault Unit :=
  if o.isReadable then .ok () else .error .unreadableAction

/-- A text as it shows between marks: a bracket without its backslash, and pictures by name. -/
def shownText (cs : List Char) : List Char := withPictures (freeBrackets cs)
where
  freeBrackets : List Char → List Char
    | '\\' :: '[' :: rest => '[' :: freeBrackets rest
    | c :: rest => c :: freeBrackets rest
    | [] => []

/-- The text of pieces, given the styles that are open, the last one first. -/
def textOf : List OpenStyle → List Piece → Except MarkFault (List Char)
  | _, [] => .ok []
  | opened, .text cs :: rest => (textOf opened rest).map (shownText cs ++ ·)
  | opened, .opening style parameters :: rest =>
    match nameOfMark style with
    | .ok name => textOf (⟨name, parameters⟩ :: opened) rest
    | .error fault => .error fault
  | opened, .closing style :: rest => do
    let closed? ←
      if style.all Text.isBlank then pure opened.head?
      else do
        let name ← nameOfMark (Text.trimBoth Text.isBlank style)
        pure (opened.find? (·.name == name))
    match closed? with
    | none => .error .closesNothing
    | some closed =>
      closed.close
      textOf (opened.erase closed) rest

/-- A text without its marks, if they can be shown. -/
def withoutMarks (cs : List Char) : Except MarkFault (List Char) := textOf [] (pieces cs)

end CsdlRoutes.Output
