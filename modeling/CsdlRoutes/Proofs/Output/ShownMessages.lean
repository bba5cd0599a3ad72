import CsdlRoutes.Output.Console

/-!
# Messages that can be shown

A mark starts with a bracket. So a text without opening brackets brings no marks of its own into a
message, and the marks around it are closed in their order: the message is shown on every console.

* `render_success`: the message of a success.
-/

namespace CsdlRoutes.Output

variable {cs before mark after rest : List Char} {opened : List OpenStyle} {ps : List Piece}

theorem nextMark?_append (h : '[' ∉ cs) (rest : List Char) :
    nextMark? (cs ++ rest) = (nextMark? rest).map fun (before, found) => (cs ++ before, found) := by
  induction cs with
  | nil => simp
  | cons c cs ih =>
    rw [List.mem_cons, not_or] at h
    obtain ⟨hc, hcs⟩ := h
    have hbracket : ¬ (c == '[') = true := by simpa using Ne.symm hc
    rw [List.cons_append, nextMark?, if_neg hbracket]
    dsimp only
    rw [ih hcs, Option.map_map]
    rfl

theorem pieces_of_none (h : nextMark? cs = none) : pieces cs = plain cs := by
  rw [pieces]
  split
  · rfl
  · rename_i hmark
    rw [h] at hmark
    cases hmark

theorem pieces_of_some (h : nextMark? cs = some (before, mark, after)) : pieces cs =
    let count := (before.reverse.takeWhile (· == '\\')).length
    plain (before.take (before.length - count)) ++ plain (List.replicate (count / 2) '\\') ++
      (if count % 2 = 1 then plain ('[' :: mark ++ [']']) else [Piece.ofMark mark]) ++
        pieces after := by
  rw [pieces]
  split
  · rename_i hmark
    rw [h] at hmark
    cases hmark
  · rename_i hmark
    rw [h] at hmark
    cases hmark
    rfl

theorem textOf_text (opened : List OpenStyle) (cs : List Char) (ps : List Piece) :
    textOf opened (.text cs :: ps) = (textOf opened ps).map (shownText cs ++ ·) := rfl

theorem textOf_closing (opened : List OpenStyle) (style : List Char) (ps : List Piece) :
    textOf opened (.closing style :: ps) = (do
      let closed? ←
        if style.all Text.isBlank then pure opened.head?
        else do
          let name ← nameOfMark (Text.trimBoth Text.isBlank style)
          pure (opened.find? (·.name == name))
      match closed? with
      | none => .error .closesNothing
      | some closed =>
        closed.close
        textOf (opened.erase closed) ps) := rfl

theorem exists_textOf_plain (cs : List Char) (h : ∃ shown, textOf opened ps = .ok shown) :
    ∃ shown, textOf opened (plain cs ++ ps) = .ok shown := by
  obtain ⟨shown, hshown⟩ := h
  unfold plain
  split
  · exact ⟨shown, hshown⟩
  · exact ⟨shownText cs ++ shown, by rw [List.singleton_append, textOf_text, hshown]; rfl⟩

theorem pieces_of_mark (h : nextMark? cs = some ([], mark, after)) :
    pieces cs = Piece.ofMark mark :: pieces after := by
  rw [pieces_of_some h]
  rfl

theorem textOf_opening {style : List Char} {name : String} (hname : nameOfMark style = .ok name)
    (parameters : List Char) : textOf opened (.opening style parameters :: ps) =
      textOf (⟨name, parameters⟩ :: opened) ps := by
  rw [textOf, hname]

theorem close_of_noParameters (name : String) : (OpenStyle.mk name []).close = .ok () := by
  simp [OpenStyle.close, OpenStyle.isReadable]

theorem exists_textOf_closing {style : List Char} {name : String}
    (hblank : style.all Text.isBlank = false) (htrim : Text.trimBoth Text.isBlank style = style)
    (hname : nameOfMark style = .ok name) :
    ∃ shown, textOf [⟨name, []⟩] [.closing style] = .ok shown := by
  have hreadable := close_of_noParameters name
  have hfound : [OpenStyle.mk name []].find? (·.name == name) = some ⟨name, []⟩ := by simp
  refine ⟨[], ?_⟩
  rw [textOf_closing, hblank, htrim, hname]
  simp only [Bool.false_eq_true, if_false, hfound, pure, Except.pure, bind, Except.bind, hreadable]
  rfl

/-- A mark that names no style closes the last one. -/
theorem textOf_closing_last {o : OpenStyle} (h : o.close = .ok ()) :
    textOf (o :: opened) (.closing [] :: ps) = textOf opened ps := by
  rw [textOf_closing]
  simp only [List.all_nil, if_true, pure, Except.pure, bind, Except.bind, List.head?_cons, h,
    List.erase_cons_head]

/-- Where no style is open, a mark that names a style closes nothing. -/
theorem textOf_closing_nothing {style : List Char} {name : String}
    (hblank : style.all Text.isBlank = false) (htrim : Text.trimBoth Text.isBlank style = style)
    (hname : nameOfMark style = .ok name) (ps : List Piece) :
    textOf [] (.closing style :: ps) = .error .closesNothing := by
  rw [textOf_closing, hblank, htrim, hname]
  rfl

/-! ## Names of styles -/

theorem readColour_cases {word : String} (hpalette : between? "color(" word.toList = none)
    (hcomponents : between? "rgb(" word.toList = none) (hlower : Text.lower word = word) :
    readColour word = .ok word ∨ readColour word = .error .unknownWord := by
  unfold readColour
  rw [hlower]
  dsimp only
  split
  · exact Or.inl rfl
  · rw [hpalette, hcomponents]
    exact Or.inr rfl

/-- A word in lower case that is neither a keyword nor an attribute nor a colour by its components is
a style or none, but no fault. -/
theorem exists_nameOfMark {style : List Char} {word : String}
    (hwords : Text.words (String.ofList style) = [word]) (hlower : Text.lower word = word)
    (hkeyword : word ∉ ["none", "on", "not", "link"]) (hattribute : attribute? word = none)
    (hpalette : between? "color(" word.toList = none)
    (hcomponents : between? "rgb(" word.toList = none) :
    ∃ name, nameOfMark style = .ok name := by
  simp only [List.mem_cons, List.not_mem_nil, or_false, not_or] at hkeyword
  obtain ⟨hnone, hon, hnot, hlink⟩ := hkeyword
  have hstyle : (∃ s, Style.ofWords [word] = .ok s) ∨
      Style.ofWords [word] = .error .unknownWord := by
    have hplain : ¬ ([word] == ["none"]) = true := by simpa using hnone
    rw [Style.ofWords, if_neg hplain]
    unfold Style.addWords
    rw [hlower]
    split
    any_goals contradiction
    rw [hattribute]
    dsimp only
    rcases readColour_cases hpalette hcomponents hlower with hcolour | hcolour
    · rw [hcolour]
      exact Or.inl ⟨_, rfl⟩
    · rw [hcolour]
      exact Or.inr rfl
  rw [nameOfMark, styleName, hwords]
  rcases hstyle with ⟨s, hs⟩ | hs
  · rw [hs]
    exact ⟨s.text, rfl⟩
  · rw [hs]
    exact ⟨_, rfl⟩

theorem exists_nameOfMark_green : ∃ name, nameOfMark "green".toList = .ok name := by
  have hwords : Text.words (String.ofList "green".toList) = ["green"] := by decide +kernel
  have hlower : Text.lower "green" = "green" := by decide +kernel
  exact exists_nameOfMark hwords hlower (by decide) (by decide) (by decide) (by decide)

/-! ## Messages -/

theorem exists_render (c : Console) {m : Message} (h : ∃ cs, withoutMarks m.markedText.toList = .ok cs) :
    ∃ shown, c.render m = .ok shown := by
  obtain ⟨cs, hcs⟩ := h
  unfold Console.render
  split
  · exact ⟨"", rfl⟩
  · split
    · exact ⟨_, rfl⟩
    · rw [markedLines, hcs]
      exact ⟨_, rfl⟩

/-- The message of a success is shown if there is no opening bracket in its text. -/
theorem render_success (c : Console) {text : String} (h : '[' ∉ text.toList) :
    ∃ shown, c.render (.success text) = .ok shown := by
  obtain ⟨name, hname⟩ := exists_nameOfMark_green
  have hpiece : Piece.ofMark "green".toList = .opening "green".toList [] := by decide
  have hopening : nextMark? ("[green]".toList ++ (text.toList ++ "[/green]".toList)) =
      some ([], "green".toList, text.toList ++ "[/green]".toList) := rfl
  have hclosing : nextMark? (text.toList ++ "[/green]".toList) =
      some (text.toList, "/green".toList, []) := by
    have hmark : nextMark? "[/green]".toList = some ([], "/green".toList, []) := by decide
    rw [nextMark?_append h, hmark, Option.map_some]
    dsimp only
    rw [List.append_nil]
  have hbehind : ∃ shown, textOf [⟨name, []⟩] (pieces (text.toList ++ "[/green]".toList)) =
      .ok shown := by
    rw [pieces_of_some hclosing, pieces_of_none rfl]
    dsimp only
    rw [List.append_assoc, List.append_assoc]
    refine exists_textOf_plain _ (exists_textOf_plain _ ?_)
    split
    · exact exists_textOf_plain _ ⟨[], rfl⟩
    · exact exists_textOf_closing (by decide +kernel) (by decide +kernel) hname
  have htext : (Message.success text).markedText.toList =
      "[green]".toList ++ (text.toList ++ "[/green]".toList) := by
    change ("[green]" ++ text ++ "[/green]").toList = _
    rw [String.toList_append, String.toList_append, List.append_assoc]
  refine exists_render c ?_
  rw [htext, withoutMarks, pieces_of_mark hopening, hpiece, textOf_opening hname]
  exact hbehind

end CsdlRoutes.Output
