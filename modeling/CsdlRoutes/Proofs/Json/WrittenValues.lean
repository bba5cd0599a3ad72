import CsdlRoutes.Proofs.Json.WrittenTokens
import CsdlRoutes.Proofs.ProperValues
import CsdlRoutes.Proofs.Results

/-!
# Written values are read back

The parts of a collection come back one after the other, whatever stands behind the last of them, so
a value comes back once its parts do. Each reader is met with the written form in front of a rest.

* `Writable`: the values that the two directions are about.
* `ReadsBack`: a value comes back from its written form at a depth of nesting.
* `elements_written`, `members_written`: lists and objects.
* `read_write`: whole texts.
* `return_not_mem_written`: no carriage return is written.
-/

namespace CsdlRoutes.Json

open Text (isAsciiDigit)

variable {fuel : Nat}

/-! ## Values -/

/-- The values that JSON has a text for from which they are read back, where a number of collections
may stand in one another. Floating-point numbers, and keys that are no texts, are left out. -/
inductive Writable : Nat → Value → Prop
  | null {room : Nat} : Writable room .null
  | bool {room : Nat} (b : Bool) : Writable room (.scalar (.bool b))
  | int {room : Nat} {i : Int} : i.natAbs < 10 ^ Number.maxDigits →
      Writable room (.scalar (.int i))
  | text {room : Nat} (s : String) : Writable room (.text s)
  | list {room : Nat} {items : List Value} : (∀ v ∈ items, Writable room v) →
      Writable (room + 1) (.list items)
  | object {room : Nat} {members : Members} : (∀ m ∈ members, ∃ name, m.1 = .text name) →
      members.Distinct → (∀ m ∈ members, Writable room m.2) →
      Writable (room + 1) (.object members)

/-- A text that starts neither with a gap, nor with the end of a list, nor with a byte order mark. -/
def Opens (cs : List Char) : Prop :=
  ∃ c more, cs = c :: more ∧ isGap c = false ∧ c ≠ ']' ∧ c ≠ '\ufeff'

variable {style : Style} {room depth : Nat} {rest : List Char}

theorem value_of_leaf {c : Char} {cs : List Char} {s : Scalar} (hquote : c ≠ '\x22')
    (hbrace : c ≠ '\x7b') (hbracket : c ≠ '[') (h : leaf (c :: cs) = .ok (s, rest)) :
    value (fuel + 1) room (c :: cs) = .ok (.scalar s, rest) := by
  simp [value, hquote, hbrace, hbracket, h, pure, Except.pure, bind, Except.bind]

theorem writtenText_append (ascii : Bool) (s : String) (rest : List Char) :
    ∃ more, (writtenText ascii s).toList ++ rest = '\x22' :: more :=
  ⟨_, by rw [writtenText, String.toList_ofList, List.cons_append]⟩

theorem value_text (ascii : Bool) (s : String) (fuel room : Nat) (rest : List Char) :
    value (fuel + 1) room ((writtenText ascii s).toList ++ rest) = .ok (.text s, rest) := by
  obtain ⟨more, hmore⟩ := writtenText_append ascii s rest
  have hread := quotedText_writtenText ascii s rest
  rw [hmore] at hread ⊢
  simp [value, hread, pure, Except.pure, bind, Except.bind]

/-! ## Gaps -/

theorem skipGap_append {gap cs : List Char} (h : ∀ c ∈ gap, isGap c = true) :
    skipGap (gap ++ cs) = skipGap cs := List.dropWhile_append_of_pos h

theorem skipGap_of_not_gap {c : Char} {cs : List Char} (h : isGap c = false) :
    skipGap (c :: cs) = c :: cs := by
  simp [skipGap, h]

theorem isGap_lineBreak (style : Style) (depth : Nat) :
    ∀ c ∈ (style.lineBreak depth).toList, isGap c = true := by
  intro c hc
  unfold Style.lineBreak at hc
  split at hc
  · simp only [String.toList_append, String.toList_ofList, List.mem_append,
      List.mem_replicate] at hc
    rcases hc with hc | ⟨_, rfl⟩
    · rw [List.mem_singleton.mp hc]
      rfl
    · rfl
  · cases hc

theorem exists_separator (style : Style) :
    ∃ gap, style.separator.toList = ',' :: gap ∧ ∀ c ∈ gap, isGap c = true := by
  unfold Style.separator
  split
  · exact ⟨[], rfl, by simp⟩
  · exact ⟨[' '], rfl, by simp [isGap]⟩

theorem endsNumber_cons {c : Char} (hdigit : isAsciiDigit c = false) (hpoint : c ≠ '.')
    (hlower : c ≠ 'e') (hupper : c ≠ 'E') : EndsNumber (c :: rest) := by
  intro d hd
  cases hd
  exact ⟨hdigit, hpoint, hlower, hupper⟩

theorem endsNumber_gap {gap : List Char} (hgap : ∀ c ∈ gap, isGap c = true)
    (h : EndsNumber rest) : EndsNumber (gap ++ rest) := by
  cases gap with
  | nil => exact h
  | cons c gap =>
    have hc := hgap c List.mem_cons_self
    simp only [isGap, Bool.or_eq_true, beq_iff_eq] at hc
    rcases hc with ((rfl | rfl) | rfl) | rfl <;>
      exact endsNumber_cons (by decide) (by decide) (by decide) (by decide)

theorem skipGap_opens {cs : List Char} (h : Opens cs) : skipGap cs = cs := by
  obtain ⟨c, more, rfl, hc, _⟩ := h
  exact skipGap_of_not_gap hc

/-! ## Collections -/

theorem intercalate_cons {α : Type} (mark first : List α) (others : List (List α)) :
    mark.intercalate (first :: others) = first ++ others.flatMap (mark ++ ·) := by
  induction others generalizing first with
  | nil => simp
  | cons second others ih =>
    rw [List.intercalate_cons_of_ne_nil (List.cons_ne_nil _ _), ih, List.flatMap_cons,
      List.append_assoc, List.append_assoc]

/-- What stands behind the first part of a collection: the other parts, each on its line. -/
def following (style : Style) (depth : Nat) (parts : List (List Char)) : List Char :=
  parts.flatMap fun part => style.separator.toList ++ ((style.lineBreak depth).toList ++ part)

theorem following_cons {gap : List Char} (hgap : style.separator.toList = ',' :: gap)
    (depth : Nat) (part : List Char) (parts : List (List Char)) :
    following style depth (part :: parts) = ',' :: (gap ++ ((style.lineBreak depth).toList ++
      (part ++ following style depth parts))) := by
  simp [following, hgap]

theorem endsNumber_comma : EndsNumber (',' :: rest) :=
  endsNumber_cons (by decide) (by decide) (by decide) (by decide)

/-- The written form of a value as a row of characters. -/
def written (style : Style) (depth : Nat) (v : Value) : List Char := (writtenAt style depth v).toList

/-- A value is read back from its written form, whatever stands behind it. -/
structure ReadsBack (style : Style) (room depth : Nat) (v : Value) : Prop where
  opens : ∀ rest, Opens (written style depth v ++ rest)
  value : ∀ fuel rest, EndsNumber rest → 2 * (written style depth v).length ≤ fuel →
    value fuel room (written style depth v ++ rest) = .ok (v, rest)

/-- The items of a list are read back one after the other. The induction is on those behind the
first. -/
theorem elements_written (fuel : Nat) (read : List Value) (rest : List Char) {v : Value}
    {items : List Value} (hv : ∀ u ∈ v :: items, ReadsBack style room depth u) {gap : List Char}
    (hgap : ∀ c ∈ gap, isGap c = true)
    (hfuel : 2 * ((written style depth v).length +
      (following style depth (items.map (written style depth))).length) < fuel) :
    elements fuel room read (written style depth v ++
        (following style depth (items.map (written style depth)) ++ (gap ++ ']' :: rest))) =
      .ok (read.reverse ++ v :: items, rest) := by
  obtain ⟨fuel, rfl⟩ := Nat.exists_eq_add_one_of_ne_zero (Nat.ne_zero_of_lt hfuel)
  induction items generalizing v read fuel with
  | nil =>
    have hends : EndsNumber (gap ++ ']' :: rest) :=
      endsNumber_gap hgap (endsNumber_cons (by decide) (by decide) (by decide) (by decide))
    have hread := (hv v List.mem_cons_self).value fuel _ hends (by omega)
    have hend : skipGap (gap ++ ']' :: rest) = ']' :: rest := by
      rw [skipGap_append hgap, skipGap_of_not_gap (by decide)]
    rw [List.map_nil, following, List.flatMap_nil, List.nil_append, elements, hread, ok_bind]
    simp [hend]
  | cons u items ih =>
    obtain ⟨hfirst, hothers⟩ := List.forall_mem_cons.mp hv
    obtain ⟨space, hseparator, hspace⟩ := exists_separator style
    rw [List.map_cons, following_cons hseparator] at hfuel ⊢
    simp only [List.length_cons, List.length_append] at hfuel
    obtain ⟨fuel, rfl⟩ := Nat.exists_eq_add_one_of_ne_zero (show fuel ≠ 0 by omega)
    have hrest := ih (v :: read) hothers fuel (by omega)
    have hread := fun more => hfirst.value (fuel + 1) (',' :: more) endsNumber_comma (by omega)
    have hnext := (hothers u List.mem_cons_self).opens
    rw [elements, List.cons_append, hread, ok_bind]
    dsimp only
    rw [skipGap_of_not_gap (by decide)]
    change elements (fuel + 1) room (v :: read) (skipGap _) = _
    rw [List.append_assoc, skipGap_append hspace, List.append_assoc,
      skipGap_append (isGap_lineBreak style depth), List.append_assoc, skipGap_opens (hnext _), hrest]
    simp

theorem value_list {gap cs : List Char} {items : List Value} (hgap : ∀ c ∈ gap, isGap c = true)
    (hcs : Opens cs) (hitems : elements fuel room [] cs = .ok (items, rest)) :
    value (fuel + 1) (room + 1) ('[' :: (gap ++ cs)) = .ok (.list items, rest) := by
  have hskip : skipGap (gap ++ cs) = cs := by rw [skipGap_append hgap, skipGap_opens hcs]
  obtain ⟨c, more, rfl, _, hbracket, _⟩ := hcs
  have hroom : roomWithin (room + 1) ('[' :: (gap ++ c :: more)) = .ok room := rfl
  rw [value, if_neg (by decide), if_neg (by decide), if_pos rfl, hroom, ok_bind, hskip]
  split
  · rename_i heq
    exact absurd (List.cons.inj heq).1 hbracket
  · rw [hitems, ok_bind]
    rfl

/-- The written form of a member of an object. -/
def writtenMember (style : Style) (depth : Nat) (m : Scalar × Value) : List Char :=
  (writtenKey style.ascii m.1).toList ++ ':' :: ' ' :: written style depth m.2

theorem writtenMember_append (style : Style) (depth : Nat) (name : String) (v : Value)
    (rest : List Char) :
    ∃ more, writtenMember style depth (.text name, v) ++ rest = '\x22' :: more := by
  obtain ⟨more, hmore⟩ := writtenText_append style.ascii name
    (':' :: ' ' :: (written style depth v ++ rest))
  exact ⟨more, by rw [← hmore, writtenMember, List.append_assoc]; rfl⟩

theorem opens_writtenMember (style : Style) (depth : Nat) (name : String) (v : Value)
    (rest : List Char) : Opens (writtenMember style depth (.text name, v) ++ rest) := by
  obtain ⟨more, hmore⟩ := writtenMember_append style depth name v rest
  exact ⟨'\x22', more, hmore, by decide, by decide, by decide⟩

/-- Reads one member of an object up to what stands behind its value. -/
theorem members_step {name : String} {v : Value} (hv : ReadsBack style room depth v)
    {read : List (Scalar × Value)} (hrest : EndsNumber rest)
    (hfuel : 2 * (writtenMember style depth (.text name, v)).length ≤ fuel) :
    members (fuel + 1) room read (writtenMember style depth (.text name, v) ++ rest) =
      match skipGap rest with
      | '\x7d' :: after => .ok (((.text name, v) :: read).reverse, after)
      | ',' :: after => members fuel room ((.text name, v) :: read) (skipGap after)
      | after => .error ⟨.commaExpected, after⟩ := by
  have hvalue := hv.value fuel rest hrest (by
    simp only [writtenMember, List.length_append, List.length_cons] at hfuel
    omega)
  have hkey := quotedText_writtenText style.ascii name
    (':' :: ' ' :: (written style depth v ++ rest))
  obtain ⟨more, hmore⟩ := writtenText_append style.ascii name
    (':' :: ' ' :: (written style depth v ++ rest))
  have hspace : skipGap (' ' :: (written style depth v ++ rest)) = written style depth v ++ rest := by
    have hgap : ∀ c ∈ [' '], isGap c = true := by simp [isGap]
    exact (skipGap_append hgap).trans (skipGap_opens (hv.opens rest))
  have htext : writtenMember style depth (.text name, v) ++ rest = '\x22' :: more := by
    rw [← hmore, writtenMember, List.append_assoc]
    rfl
  rw [hmore] at hkey
  rw [htext, members, hkey, ok_bind]
  dsimp only
  rw [skipGap_of_not_gap (by decide)]
  change (value fuel room (skipGap (' ' :: (written style depth v ++ rest))) >>= _) = _
  exact congrArg (· >>= _) ((congrArg _ hspace).trans hvalue)

/-- The members of an object are read back one after the other. -/
theorem members_written (fuel : Nat) (read : List (Scalar × Value)) (rest : List Char)
    {m : Scalar × Value} {others : Members}
    (hm : ∀ n ∈ m :: others, (∃ name, n.1 = .text name) ∧ ReadsBack style room depth n.2)
    {gap : List Char} (hgap : ∀ c ∈ gap, isGap c = true)
    (hfuel : 2 * ((writtenMember style depth m).length +
      (following style depth (others.map (writtenMember style depth))).length) < fuel) :
    members fuel room read (writtenMember style depth m ++
        (following style depth (others.map (writtenMember style depth)) ++
          (gap ++ '\x7d' :: rest))) = .ok (read.reverse ++ m :: others, rest) := by
  obtain ⟨fuel, rfl⟩ := Nat.exists_eq_add_one_of_ne_zero (Nat.ne_zero_of_lt hfuel)
  induction others generalizing m read fuel with
  | nil =>
    obtain ⟨⟨name, hname⟩, hv⟩ := hm m List.mem_cons_self
    obtain ⟨k, v⟩ := m
    dsimp only at hname hv
    subst hname
    have hends : EndsNumber (gap ++ '\x7d' :: rest) :=
      endsNumber_gap hgap (endsNumber_cons (by decide) (by decide) (by decide) (by decide))
    have hend : skipGap (gap ++ '\x7d' :: rest) = '\x7d' :: rest := by
      rw [skipGap_append hgap, skipGap_of_not_gap (by decide)]
    rw [List.map_nil, following, List.flatMap_nil, List.nil_append,
      members_step hv hends (by omega), hend]
    simp
  | cons n others ih =>
    obtain ⟨⟨⟨name, hname⟩, hv⟩, hothers⟩ := List.forall_mem_cons.mp hm
    obtain ⟨k, v⟩ := m
    dsimp only at hname hv
    subst hname
    obtain ⟨space, hseparator, hspace⟩ := exists_separator style
    rw [List.map_cons, following_cons hseparator] at hfuel ⊢
    simp only [List.length_cons, List.length_append] at hfuel
    obtain ⟨fuel, rfl⟩ := Nat.exists_eq_add_one_of_ne_zero (show fuel ≠ 0 by omega)
    have hrest := ih ((.text name, v) :: read) hothers fuel (by omega)
    rw [List.cons_append, members_step hv endsNumber_comma (by omega),
      skipGap_of_not_gap (by decide)]
    change members (fuel + 1) room ((.text name, v) :: read) (skipGap _) = _
    obtain ⟨⟨other, hother⟩, _⟩ := hothers n List.mem_cons_self
    obtain ⟨l, w⟩ := n
    dsimp only at hother
    subst hother
    rw [List.append_assoc, skipGap_append hspace, List.append_assoc,
      skipGap_append (isGap_lineBreak style depth), List.append_assoc,
      skipGap_opens (opens_writtenMember _ _ _ _ _), hrest]
    simp

theorem value_object {gap cs : List Char} {m : Scalar × Value} {assignments : Members}
    (hgap : ∀ c ∈ gap, isGap c = true) (hm : ∃ name, m.1 = .text name)
    (hmembers : members fuel room [] (writtenMember style depth m ++ cs) =
      .ok (assignments, rest)) :
    value (fuel + 1) (room + 1) ('\x7b' :: (gap ++ (writtenMember style depth m ++ cs))) =
      .ok (.object (Keyed.ofList assignments), rest) := by
  obtain ⟨k, v⟩ := m
  obtain ⟨name, rfl⟩ := hm
  have hskip : skipGap (gap ++ (writtenMember style depth (.text name, v) ++ cs)) =
      writtenMember style depth (.text name, v) ++ cs := by
    rw [skipGap_append hgap, skipGap_opens (opens_writtenMember style depth name v cs)]
  obtain ⟨more, hmore⟩ := writtenMember_append style depth name v cs
  have hroom : roomWithin (room + 1)
      ('\x7b' :: (gap ++ (writtenMember style depth (.text name, v) ++ cs))) = .ok room := rfl
  rw [value, if_neg (by decide), if_pos rfl, hroom, ok_bind, hskip]
  rw [hmore] at hmembers ⊢
  split
  · rename_i heq
    exact absurd (List.cons.inj heq).1 (by decide)
  · rw [hmembers, ok_bind]
    rfl

/-! ## Written forms -/

theorem map_writtenItems (items : List Value) :
    (writtenItems style depth items).map String.toList =
      items.map fun v => (style.lineBreak depth).toList ++ written style depth v := by
  induction items with
  | nil => rfl
  | cons v items ih => simp [writtenItems, written, ih]

theorem map_writtenMembers (members : Members) :
    (writtenMembers style depth members).map String.toList =
      members.map fun m => (style.lineBreak depth).toList ++ writtenMember style depth m := by
  induction members with
  | nil => rfl
  | cons m members ih =>
    obtain ⟨k, v⟩ := m
    simp [writtenMembers, writtenMember, written, ih]

/-- The parts of a collection between their separators, each on its line. -/
theorem intercalate_lines (part : List Char) (parts : List (List Char)) :
    style.separator.toList.intercalate
        ((part :: parts).map ((style.lineBreak depth).toList ++ ·)) =
      (style.lineBreak depth).toList ++ (part ++ following style depth parts) := by
  rw [List.map_cons, intercalate_cons, List.append_assoc, following, List.flatMap_map]

theorem written_list (v : Value) (items : List Value) : written style depth (.list (v :: items)) =
    '[' :: ((style.lineBreak (depth + 1)).toList ++ (written style (depth + 1) v ++
      (following style (depth + 1) (items.map (written style (depth + 1))) ++
        ((style.lineBreak depth).toList ++ [']'])))) := by
  have hparts : (writtenItems style (depth + 1) (v :: items)).map String.toList =
      (written style (depth + 1) v :: items.map (written style (depth + 1))).map
        ((style.lineBreak (depth + 1)).toList ++ ·) := by
    rw [map_writtenItems, ← List.map_cons, List.map_map]
    rfl
  rw [written, writtenAt]
  · simp only [String.toList_append, String.toList_intercalate, hparts, intercalate_lines,
      List.append_assoc]
    rfl
  · exact List.cons_ne_nil _ _

theorem written_object (m : Scalar × Value) (others : Members) :
    written style depth (.object (m :: others)) =
      '\x7b' :: ((style.lineBreak (depth + 1)).toList ++ (writtenMember style (depth + 1) m ++
        (following style (depth + 1) (others.map (writtenMember style (depth + 1))) ++
          ((style.lineBreak depth).toList ++ ['\x7d'])))) := by
  have hparts : (writtenMembers style (depth + 1) (m :: others)).map String.toList =
      (writtenMember style (depth + 1) m :: others.map (writtenMember style (depth + 1))).map
        ((style.lineBreak (depth + 1)).toList ++ ·) := by
    rw [map_writtenMembers, ← List.map_cons, List.map_map]
    rfl
  rw [written, writtenAt]
  · simp only [String.toList_append, String.toList_intercalate, hparts, intercalate_lines,
      List.append_assoc]
    rfl
  · exact List.cons_ne_nil _ _

/-! ## Reading back -/

namespace ReadsBack

theorem of_cons {v : Value} {c : Char} {cs : List Char} (hform : written style depth v = c :: cs)
    (hopens : isGap c = false ∧ c ≠ ']' ∧ c ≠ '\ufeff')
    (hvalue : ∀ fuel rest, EndsNumber rest → 2 * cs.length < fuel →
      Json.value (fuel + 1) room (c :: (cs ++ rest)) = .ok (v, rest)) :
    ReadsBack style room depth v := by
  refine ⟨?_, ?_⟩
  · intro rest
    exact ⟨c, cs ++ rest, by rw [hform, List.cons_append], hopens⟩
  · intro fuel rest hrest hfuel
    rw [hform, List.length_cons] at hfuel
    obtain ⟨fuel, rfl⟩ := Nat.exists_eq_add_one_of_ne_zero (show fuel ≠ 0 by omega)
    rw [hform]
    exact hvalue fuel rest hrest (by omega)

/-- A leaf that starts like no string and no collection. -/
theorem of_leaf {s : Scalar} {c : Char} {cs : List Char}
    (hwritten : (writtenScalar style.ascii s).toList = c :: cs)
    (hopens : isGap c = false ∧ c ≠ ']' ∧ c ≠ '\ufeff')
    (hmarks : c ≠ '\x22' ∧ c ≠ '\x7b' ∧ c ≠ '[')
    (hleaf : ∀ rest, EndsNumber rest → leaf (c :: (cs ++ rest)) = .ok (s, rest)) :
    ReadsBack style room depth (.scalar s) := by
  obtain ⟨hquote, hbrace, hbracket⟩ := hmarks
  refine of_cons (by rw [written, writtenAt, hwritten]) hopens fun fuel rest hrest _ => ?_
  exact value_of_leaf hquote hbrace hbracket (hleaf rest hrest)

theorem null : ReadsBack style room depth .null := by
  have htext : (writtenScalar style.ascii .null).toList = ['n', 'u', 'l', 'l'] := by
    rw [writtenScalar]
    rfl
  exact of_leaf htext (by decide) (by decide) fun _ _ => rfl

theorem bool (b : Bool) : ReadsBack style room depth (.scalar (.bool b)) := by
  cases b with
  | false =>
    have htext : (writtenScalar style.ascii (.bool false)).toList =
        ['f', 'a', 'l', 's', 'e'] := by
      rw [writtenScalar]
      rfl
    exact of_leaf htext (by decide) (by decide) fun _ _ => rfl
  | true =>
    have htext : (writtenScalar style.ascii (.bool true)).toList = ['t', 'r', 'u', 'e'] := by
      rw [writtenScalar]
      rfl
    exact of_leaf htext (by decide) (by decide) fun _ _ => rfl

theorem int {i : Int} (hi : i.natAbs < 10 ^ Number.maxDigits) :
    ReadsBack style room depth (.scalar (.int i)) := by
  cases i with
  | ofNat n =>
    have htext : (toString (Int.ofNat n)).toList = Nat.toDigits 10 n := by
      change (Nat.repr n).toList = _
      rw [Nat.repr_eq_ofList_toDigits, String.toList_ofList]
    obtain ⟨c, more, hdigits, hc⟩ := exists_head_toDigits n
    have hother : ∀ d, isAsciiDigit d = false → c ≠ d := by
      rintro d hd rfl
      rw [hc] at hd
      cases hd
    have hgap : isGap c = false := by
      simp [isGap, hother ' ' (by decide), hother '\t' (by decide), hother '\n' (by decide),
        hother '\r' (by decide)]
    refine of_leaf (htext.trans hdigits) ⟨hgap, hother _ (by decide), hother _ (by decide)⟩
      ⟨hother _ (by decide), hother _ (by decide), hother _ (by decide)⟩ ?_
    intro rest hrest
    rw [← List.cons_append, ← hdigits]
    exact leaf_toDigits hi hrest
  | negSucc n =>
    have htext : (toString (Int.negSucc n)).toList = '-' :: Nat.toDigits 10 (n + 1) := by
      change ("-" ++ Nat.repr (n + 1)).toList = _
      simp [Nat.repr_eq_ofList_toDigits]
    exact of_leaf htext (by decide) (by decide) fun _ => leaf_negative hi

theorem text (s : String) : ReadsBack style room depth (.text s) := by
  have hform : written style depth (.text s) =
      '\x22' :: (s.toList.flatMap (writtenChar style.ascii) ++ ['\x22']) := by
    rw [written, writtenAt]
    exact String.toList_ofList
  refine of_cons hform (by decide) fun fuel rest _ _ => ?_
  have hread := value_text style.ascii s fuel room rest
  rw [writtenText, String.toList_ofList] at hread
  exact hread

theorem list {items : List Value} (h : ∀ v ∈ items, ReadsBack style room (depth + 1) v) :
    ReadsBack style (room + 1) depth (.list items) := by
  cases items with
  | nil =>
    have hform : written style depth (.list []) = ['[', ']'] := by
      rw [written, writtenAt]
      rfl
    exact of_cons hform (by decide) fun _ _ _ _ => rfl
  | cons v items =>
    refine of_cons (written_list v items) (by decide) fun fuel rest _ hfuel => ?_
    simp only [List.length_cons, List.length_append] at hfuel
    have hitems := elements_written fuel [] rest h (isGap_lineBreak style depth) (by omega)
    have hread := value_list (isGap_lineBreak style (depth + 1))
      ((h v List.mem_cons_self).opens _) hitems
    simpa using hread

theorem object {members : Members} (htexts : ∀ m ∈ members, ∃ name, m.1 = .text name)
    (hdistinct : members.Distinct) (h : ∀ m ∈ members, ReadsBack style room (depth + 1) m.2) :
    ReadsBack style (room + 1) depth (.object members) := by
  cases members with
  | nil =>
    have hform : written style depth (.object []) = ['\x7b', '\x7d'] := by
      rw [written, writtenAt]
      rfl
    exact of_cons hform (by decide) fun _ _ _ _ => rfl
  | cons m others =>
    refine of_cons (written_object m others) (by decide) fun fuel rest _ hfuel => ?_
    simp only [List.length_cons, List.length_append] at hfuel
    have hmembers := members_written fuel [] rest (fun n hn => ⟨htexts n hn, h n hn⟩)
      (isGap_lineBreak style depth) (by omega)
    have hread := value_object (isGap_lineBreak style (depth + 1)) (htexts m List.mem_cons_self)
      hmembers
    simpa [Keyed.ofList_eq_self htexts hdistinct] using hread

end ReadsBack

theorem readsBack {v : Value} (h : Writable room v) (depth : Nat) :
    ReadsBack style room depth v := by
  induction h generalizing depth with
  | null => exact .null
  | bool b => exact .bool b
  | int hi => exact .int hi
  | text s => exact .text s
  | list _ ih => exact .list fun v hv => ih v hv (depth + 1)
  | object htexts hdistinct _ ih =>
    exact .object htexts hdistinct fun m hm => ih m hm (depth + 1)

/-- **Written values are read back.** The text of a value whose collections stand in one another as
deep as they are read, and after which no more than a gap follows, has that value. -/
theorem read_write {v : Value} (h : Writable nestingLimit v) {gap : String}
    (hgap : ∀ c ∈ gap.toList, isGap c = true) :
    Json.read (write style v ++ gap) = .ok v := by
  have hback : ReadsBack style nestingLimit 0 v := readsBack h 0
  have htext : (write style v ++ gap).toList = written style 0 v ++ gap.toList :=
    String.toList_append
  have hends : EndsNumber gap.toList := by
    have hnil : EndsNumber [] := fun c hc => by cases hc
    simpa using endsNumber_gap hgap hnil
  have hvalue := hback.value (2 * (written style 0 v ++ gap.toList).length + 2) gap.toList hends
    (by rw [List.length_append]; omega)
  have hopens := hback.opens gap.toList
  have hchars : readChars (written style 0 v ++ gap.toList) = .ok v := by
    have hend : skipGap gap.toList = [] := by
      have hskip : skipGap (gap.toList ++ []) = skipGap [] := skipGap_append hgap
      rwa [List.append_nil] at hskip
    unfold readChars
    split
    · rename_i heq
      obtain ⟨c, more, hcs, _, _, hbom⟩ := hopens
      rw [hcs] at heq
      exact absurd (List.cons.inj heq).1 hbom
    · rw [skipGap_opens hopens, hvalue, ok_bind]
      dsimp only
      rw [hend]
  rw [Json.read, htext, hchars]

/-! ## Line ends -/

theorem return_not_mem_lineBreak (style : Style) (depth : Nat) :
    '\r' ∉ (style.lineBreak depth).toList := by
  unfold Style.lineBreak
  split
  · simp
  · simp

theorem return_not_mem_following {parts : List (List Char)} (h : ∀ part ∈ parts, '\r' ∉ part) :
    '\r' ∉ following style depth parts := by
  obtain ⟨gap, hseparator⟩ : ∃ gap, style.separator = gap ∧ '\r' ∉ gap.toList := by
    refine ⟨_, rfl, ?_⟩
    unfold Style.separator
    split <;> simp
  simp only [following, List.mem_flatMap, List.mem_append, not_exists, not_and, not_or]
  intro part hpart
  exact ⟨hseparator.1 ▸ hseparator.2, return_not_mem_lineBreak style depth, h part hpart⟩

/-- No carriage return stands in a written value. -/
theorem return_not_mem_written {v : Value} (h : Writable room v) (depth : Nat) :
    '\r' ∉ written style depth v := by
  induction h generalizing depth with
  | null =>
    rw [written, writtenAt, writtenScalar]
    decide
  | bool b =>
    rw [written, writtenAt, writtenScalar]
    cases b <;> decide
  | @int _ i _ =>
    rw [written, writtenAt, writtenScalar]
    exact return_not_mem_toString i
  | text s =>
    rw [written, writtenAt]
    exact return_not_mem_writtenText style.ascii s
  | @list _ items _ ih =>
    cases items with
    | nil =>
      rw [written, writtenAt]
      decide
    | cons v items =>
      have hothers : '\r' ∉ following style (depth + 1) (items.map (written style (depth + 1))) := by
        refine return_not_mem_following fun part hpart => ?_
        obtain ⟨u, hu, rfl⟩ := List.mem_map.mp hpart
        exact ih u (List.mem_cons_of_mem v hu) (depth + 1)
      rw [written_list]
      simp [ih v List.mem_cons_self, hothers, return_not_mem_lineBreak]
  | @object _ members htexts _ _ ih =>
    have hmember : ∀ m ∈ members, '\r' ∉ writtenMember style (depth + 1) m := by
      intro m hm
      obtain ⟨name, hname⟩ := htexts m hm
      simp [writtenMember, hname, writtenKey, return_not_mem_writtenText, ih m hm]
    cases members with
    | nil =>
      rw [written, writtenAt]
      decide
    | cons m others =>
      have hothers : '\r' ∉
          following style (depth + 1) (others.map (writtenMember style (depth + 1))) := by
        refine return_not_mem_following fun part hpart => ?_
        obtain ⟨n, hn, rfl⟩ := List.mem_map.mp hpart
        exact hmember n (List.mem_cons_of_mem m hn)
      rw [written_object]
      simp [hmember m List.mem_cons_self, hothers, return_not_mem_lineBreak]

end CsdlRoutes.Json
