import Mathlib.Data.Nat.Digits.Lemmas
import CsdlRoutes.Json.Reader
import CsdlRoutes.Json.Writer

/-!
# Written strings and integers are read back

Every character of a string comes back from its escape, and an integer from its decimal digits.
Each reader is met with the written form in front of a rest.

* `quotedText_writtenText`: strings.
* `leaf_toDigits`, `leaf_negative`: integers, before what ends a number.
* `return_not_mem_writtenText`, `return_not_mem_toString`: no carriage return is written.
-/

namespace CsdlRoutes.Json

open Text (hexText hexValue? ofDigits isAsciiDigit asciiDigitValue charOfCode charOfCode_toNat)

/-! ## Code units -/

theorem hexValue?_digitChar {n : Nat} (h : n < 16) : hexValue? n.digitChar = some n := by
  interval_cases n <;> decide

theorem toList_hexText_digit {n : Nat} (h : n < 16) :
    (hexText 1 n).toList = [n.digitChar] := by
  rw [hexText, String.toList_ofList, Nat.toDigits_of_lt_base h]
  rfl

theorem toList_hexText_succ (width n : Nat) : (hexText (width + 2) n).toList =
    (hexText (width + 1) (n / 16)).toList ++ [(n % 16).digitChar] := by
  rw [hexText, hexText, String.toList_ofList, String.toList_ofList]
  by_cases hdigit : n < 16
  · have hrest : n / 16 = 0 := by omega
    have hlast : n % 16 = n := by omega
    rw [hrest, hlast, Nat.toDigits_of_lt_base hdigit, Nat.toDigits_of_lt_base (by decide)]
    change List.replicate (width + 1) '0' ++ _ = (List.replicate width '0' ++ ['0']) ++ _
    rw [← List.replicate_succ']
  · have hlength : width + 2 - ((Nat.toDigits 16 (n / 16)).length + 1) =
        width + 1 - (Nat.toDigits 16 (n / 16)).length := by omega
    rw [Nat.toDigits_of_base_le (by decide) (by omega : 16 ≤ n), List.length_append,
      List.length_singleton, List.append_assoc, hlength]

/-- The four hexadecimal digits of a code unit. -/
theorem toList_hexText {n : Nat} (h : n < 0x10000) : (hexText 4 n).toList =
    [(n / 0x1000).digitChar, (n / 0x100 % 16).digitChar, (n / 16 % 16).digitChar,
      (n % 16).digitChar] := by
  have hfirst : n / 16 / 16 / 16 = n / 0x1000 := by omega
  have hsecond : n / 16 / 16 = n / 0x100 := by omega
  rw [toList_hexText_succ, toList_hexText_succ, toList_hexText_succ, hfirst, hsecond,
    toList_hexText_digit (by omega)]
  rfl

theorem codeUnit?_hexText {n : Nat} (h : n < 0x10000) :
    codeUnit? (n / 0x1000).digitChar (n / 0x100 % 16).digitChar (n / 16 % 16).digitChar
      (n % 16).digitChar = some n := by
  have hfirst : n / 0x1000 < 16 := by omega
  have hsecond : n / 0x100 % 16 < 16 := by omega
  have hthird : n / 16 % 16 < 16 := by omega
  have hfourth : n % 16 < 16 := by omega
  simp only [codeUnit?, hexValue?_digitChar, hfirst, hsecond, hthird, hfourth, Option.bind_eq_bind,
    Option.bind_some]
  simp only [ofDigits, List.foldl_cons, List.foldl_nil, Option.pure_def, Option.some.injEq]
  omega

theorem unitEscape_append (n : Nat) (more : List Char) :
    unitEscape n ++ more = '\\' :: 'u' :: ((hexText 4 n).toList ++ more) := rfl

theorem unicodeEscape_single {n : Nat} (hn : n < 0x10000) (hhigh : isHighSurrogate n = false)
    {more : List Char} (hmore : more ≠ []) :
    unicodeEscape ('u' :: ((hexText 4 n).toList ++ more)) = .ok (charOfCode n, more) := by
  obtain ⟨next, after, rfl⟩ := List.exists_cons_of_ne_nil hmore
  rw [toList_hexText hn]
  simp only [List.cons_append, List.nil_append, unicodeEscape, codeUnit?_hexText hn, hhigh,
    Bool.false_and, Bool.false_eq_true, if_false]
  split <;> rfl

theorem unicodeEscape_pair {high low : Nat} (hhigh : isHighSurrogate high = true)
    (hlow : isLowSurrogate low = true) {more : List Char} (hmore : more ≠ []) :
    unicodeEscape ('u' :: ((hexText 4 high).toList ++ (unitEscape low ++ more))) =
      .ok (charOfPair high low, more) := by
  have hhighunit : high < 0x10000 := by
    simp only [isHighSurrogate, Bool.and_eq_true, decide_eq_true_eq] at hhigh
    omega
  have hlowunit : low < 0x10000 := by
    simp only [isLowSurrogate, Bool.and_eq_true, decide_eq_true_eq] at hlow
    omega
  obtain ⟨next, after, rfl⟩ := List.exists_cons_of_ne_nil hmore
  rw [unitEscape, toList_hexText hhighunit, toList_hexText hlowunit]
  simp [unicodeEscape, codeUnit?_hexText hhighunit, codeUnit?_hexText hlowunit, hhigh, hlow]

/-! ## Strings -/

/-- No character is the first half of a pair of code units. -/
theorem not_high_toNat (c : Char) : isHighSurrogate c.toNat = false := by
  have hvalid : c.toNat < 0xd800 ∨ 0xdfff < c.toNat ∧ c.toNat < 0x110000 := c.valid
  simp only [isHighSurrogate, Bool.and_eq_false_iff, decide_eq_false_iff_not]
  omega

theorem charOfPair_toNat {c : Char} (h : 0x10000 ≤ c.toNat) :
    charOfPair (0xd800 + (c.toNat - 0x10000) / 0x400) (0xdc00 + (c.toNat - 0x10000) % 0x400) =
      c := by
  have hcode : 0x10000 + (0xd800 + (c.toNat - 0x10000) / 0x400 - 0xd800) * 0x400 +
      (0xdc00 + (c.toNat - 0x10000) % 0x400 - 0xdc00) = c.toNat := by omega
  rw [charOfPair, hcode]
  exact Char.ofNat_toNat c

theorem surrogates_of_toNat {c : Char} (h : 0x10000 ≤ c.toNat) :
    isHighSurrogate (0xd800 + (c.toNat - 0x10000) / 0x400) = true ∧
      isLowSurrogate (0xdc00 + (c.toNat - 0x10000) % 0x400) = true := by
  have hvalid : c.toNat < 0xd800 ∨ 0xdfff < c.toNat ∧ c.toNat < 0x110000 := c.valid
  simp only [isHighSurrogate, isLowSurrogate, Bool.and_eq_true, decide_eq_true_eq]
  omega

variable {opening read more : List Char} {fuel : Nat}

theorem stringBody_shortEscape {e x : Char} (he : e ≠ 'u') (hx : shortEscape? e = some x) :
    stringBody opening (fuel + 1) read ('\\' :: e :: more) =
      stringBody opening fuel (x :: read) more := by
  simp [stringBody, he, hx]

theorem stringBody_unicodeEscape {rest : List Char} {x : Char}
    (h : unicodeEscape ('u' :: rest) = .ok (x, more)) :
    stringBody opening (fuel + 1) read ('\\' :: 'u' :: rest) =
      stringBody opening fuel (x :: read) more := by
  simp [stringBody, h]

theorem stringBody_plain {c : Char} (hquote : c ≠ '\x22') (hcontrol : ¬ c.toNat < 0x20)
    (hescape : c ≠ '\\') :
    stringBody opening (fuel + 1) read (c :: more) = stringBody opening fuel (c :: read) more := by
  simp [stringBody, hquote, hcontrol, hescape]

/-- The ways in which a character is written: by a letter, by one or two code units, or as it is. -/
theorem writtenChar_cases (ascii : Bool) (c : Char) :
    (∃ e, e ≠ 'u' ∧ e ≠ '\r' ∧ shortEscape? e = some c ∧ writtenChar ascii c = ['\\', e]) ∨
    (c.toNat < 0x10000 ∧ writtenChar ascii c = unitEscape c.toNat) ∨
    (0x10000 ≤ c.toNat ∧ writtenChar ascii c =
      unitEscape (0xd800 + (c.toNat - 0x10000) / 0x400) ++
        unitEscape (0xdc00 + (c.toNat - 0x10000) % 0x400)) ∨
    (c ≠ '\x22' ∧ c ≠ '\\' ∧ ¬ c.toNat < 0x20 ∧ writtenChar ascii c = [c]) := by
  by_cases hshort : c ∈ ['\x22', '\\', '\n', '\r', '\t', '\x08', '\x0c']
  · left
    simp only [List.mem_cons, List.not_mem_nil, or_false] at hshort
    rcases hshort with rfl | rfl | rfl | rfl | rfl | rfl | rfl
    · exact ⟨'\x22', by decide, by decide, rfl, rfl⟩
    · exact ⟨'\\', by decide, by decide, rfl, rfl⟩
    · exact ⟨'n', by decide, by decide, rfl, rfl⟩
    · exact ⟨'r', by decide, by decide, rfl, rfl⟩
    · exact ⟨'t', by decide, by decide, rfl, rfl⟩
    · exact ⟨'b', by decide, by decide, rfl, rfl⟩
    · exact ⟨'f', by decide, by decide, rfl, rfl⟩
  · right
    simp only [List.mem_cons, List.not_mem_nil, or_false, not_or] at hshort
    obtain ⟨hquote, hbackslash, hn, hr, ht, hb, hf⟩ := hshort
    simp only [writtenChar, hquote, hbackslash, hn, hr, ht, hb, hf, if_false]
    by_cases hcontrol : c.toNat < 0x20
    · exact Or.inl ⟨by omega, by rw [if_pos hcontrol]⟩
    · rw [if_neg hcontrol]
      split
      · split
        · rename_i hunit
          exact Or.inl ⟨hunit, rfl⟩
        · rename_i hpair
          exact Or.inr (Or.inl ⟨by omega, rfl⟩)
      · exact Or.inr (Or.inr ⟨hquote, hbackslash, hcontrol, rfl⟩)

/-- A character is read back from its written form, as long as something follows. -/
theorem stringBody_writtenChar (ascii : Bool) (c : Char) (hmore : more ≠ []) :
    stringBody opening (fuel + 1) read (writtenChar ascii c ++ more) =
      stringBody opening fuel (c :: read) more := by
  rcases writtenChar_cases ascii c with
    ⟨e, he, _, hshort, hwritten⟩ | ⟨hunit, hwritten⟩ | ⟨hpair, hwritten⟩ |
      ⟨hquote, hbackslash, hcontrol, hwritten⟩
  · rw [hwritten]
    exact stringBody_shortEscape he hshort
  · have hread := unicodeEscape_single hunit (not_high_toNat c) hmore
    rw [charOfCode_toNat] at hread
    rw [hwritten, unitEscape_append]
    exact stringBody_unicodeEscape hread
  · obtain ⟨hhigh, hlow⟩ := surrogates_of_toNat hpair
    have hread := unicodeEscape_pair hhigh hlow hmore
    rw [charOfPair_toNat hpair] at hread
    rw [hwritten, List.append_assoc, unitEscape_append]
    exact stringBody_unicodeEscape hread
  · rw [hwritten]
    exact stringBody_plain hquote hcontrol hbackslash

theorem writtenChar_ne_nil (ascii : Bool) (c : Char) : writtenChar ascii c ≠ [] := by
  rcases writtenChar_cases ascii c with ⟨_, _, _, _, h⟩ | ⟨_, h⟩ | ⟨_, h⟩ | ⟨_, _, _, h⟩
  · rw [h]
    exact List.cons_ne_nil _ _
  · rw [h, unitEscape]
    exact List.cons_ne_nil _ _
  · rw [h, unitEscape_append]
    exact List.cons_ne_nil _ _
  · rw [h]
    exact List.cons_ne_nil _ _

theorem stringBody_written (ascii : Bool) (cs rest : List Char)
    (hfuel : (cs.flatMap (writtenChar ascii)).length < fuel) :
    stringBody opening fuel read (cs.flatMap (writtenChar ascii) ++ '\x22' :: rest) =
      .ok (String.ofList (read.reverse ++ cs), rest) := by
  obtain ⟨fuel, rfl⟩ := Nat.exists_eq_add_one_of_ne_zero (Nat.ne_zero_of_lt hfuel)
  induction cs generalizing fuel read with
  | nil => simp [stringBody]
  | cons c cs ih =>
    have hpos := List.length_pos_iff.mpr (writtenChar_ne_nil ascii c)
    rw [List.flatMap_cons, List.length_append] at hfuel
    obtain ⟨fuel, rfl⟩ := Nat.exists_eq_add_one_of_ne_zero (show fuel ≠ 0 by omega)
    rw [List.flatMap_cons, List.append_assoc, stringBody_writtenChar ascii c (by simp),
      ih fuel (by omega), List.reverse_cons, List.append_assoc, List.singleton_append]

/-- A string is read back from its written form. -/
theorem quotedText_writtenText (ascii : Bool) (s : String) (rest : List Char) :
    quotedText ((writtenText ascii s).toList ++ rest) = .ok (s, rest) := by
  rw [writtenText, String.toList_ofList, quotedText, List.cons_append, List.append_assoc,
    List.singleton_append, List.drop_one, List.tail_cons,
    stringBody_written ascii s.toList rest (by simp)]
  simp

/-! ## Integers -/

/-- Where a number has come to its end. -/
def EndsNumber (rest : List Char) : Prop :=
  ∀ c, rest.head? = some c → isAsciiDigit c = false ∧ c ≠ '.' ∧ c ≠ 'e' ∧ c ≠ 'E'

theorem isAsciiDigit_of_mem_toDigits {n : Nat} {c : Char} (h : c ∈ Nat.toDigits 10 n) :
    isAsciiDigit c = true := by
  have hdigit := Nat.isDigit_of_mem_toDigits (by decide) (by decide) h
  simp only [Char.isDigit, Bool.and_eq_true, decide_eq_true_eq] at hdigit
  simp only [isAsciiDigit, Bool.and_eq_true, decide_eq_true_eq]
  exact hdigit

theorem decimalValue_toDigits (n : Nat) : decimalValue (Nat.toDigits 10 n) = n := by
  have hvalue := Nat.ofDigitChars_ten_toDigits (n := n)
  rw [Nat.ofDigitChars_eq_foldl] at hvalue
  rw [decimalValue, ofDigits, List.foldl_map]
  have hzero : '0'.toNat = 48 := rfl
  simpa only [asciiDigitValue, Nat.mul_comm, hzero] using hvalue

/-- A number other than zero is not written with a zero in front. -/
theorem head?_toDigits {n : Nat} (h : n ≠ 0) : (Nat.toDigits 10 n).head? ≠ some '0' := by
  induction n using Nat.strongRecOn with
  | _ n ih =>
    by_cases hdigit : n < 10
    · rw [Nat.toDigits_of_lt_base hdigit]
      simpa using h
    · rw [Nat.toDigits_of_base_le (by decide) (by omega),
        List.head?_append_of_ne_nil _ Nat.toDigits_ne_nil]
      exact ih (n / 10) (by omega) (by omega)

theorem fraction?_of_ends {rest : List Char} (h : EndsNumber rest) : fraction? rest = none := by
  cases rest with
  | nil => rfl
  | cons c rest =>
    obtain ⟨_, hpoint, _, _⟩ := h c rfl
    unfold fraction?
    split
    · rename_i heq
      exact absurd (List.cons.inj heq).1 hpoint
    · rfl

theorem exponent?_of_ends {rest : List Char} (h : EndsNumber rest) : exponent? rest = none := by
  cases rest with
  | nil => rfl
  | cons c rest =>
    obtain ⟨_, _, hlower, hupper⟩ := h c rfl
    simp [exponent?, hlower, hupper]

/-- The digits at the start of a number are all digits of a written number. -/
theorem takeWhile_toDigits {rest : List Char} (h : EndsNumber rest) (n : Nat) :
    (Nat.toDigits 10 n ++ rest).takeWhile isAsciiDigit = Nat.toDigits 10 n := by
  rw [List.takeWhile_append_of_pos fun _ => isAsciiDigit_of_mem_toDigits]
  cases rest with
  | nil => exact List.append_nil _
  | cons c rest =>
    obtain ⟨hdigit, _⟩ := h c rfl
    simp [hdigit]

/-- The digits behind a minus sign or behind none are read as the integer of that sign. -/
theorem number_toDigits {n : Nat} (hn : n < 10 ^ Number.maxDigits) {rest : List Char}
    (h : EndsNumber rest) {cs : List Char} (negative : Bool)
    (hsign : (match cs with
      | '-' :: body => (true, body)
      | body => (false, body)) = (negative, Nat.toDigits 10 n ++ rest)) :
    number cs = .ok (.int (if negative then -n else n), rest) := by
  have hlength : ¬ (Nat.toDigits 10 n).length > Number.maxDigits :=
    Nat.not_lt.mpr ((Nat.length_toDigits_le_iff (by decide) (by decide)).mpr hn)
  have hdigits : (Nat.toDigits 10 n).isEmpty = false := by simp
  have hrest : fraction? rest = none ∧ exponent? rest = none :=
    ⟨fraction?_of_ends h, exponent?_of_ends h⟩
  unfold number
  split
  rename_i sign body hsplit
  obtain ⟨rfl, rfl⟩ := Prod.mk.inj (hsplit.symm.trans hsign)
  by_cases hzero : n = 0
  · subst hzero
    have hdigit : Nat.toDigits 10 0 = ['0'] := rfl
    rw [hdigit]
    simp [hrest, decimalValue, ofDigits, asciiDigitValue, Number.maxDigits]
  · have hhead : ∀ tail, Nat.toDigits 10 n ++ rest = '0' :: tail → False := by
      intro tail heq
      have hfirst := congrArg List.head? heq
      rw [List.head?_append_of_ne_nil _ Nat.toDigits_ne_nil] at hfirst
      exact head?_toDigits hzero hfirst
    simp only [takeWhile_toDigits h, List.drop_left, hrest, hdigits, Option.getD_none, hlength,
      decimalValue_toDigits]
    simp

theorem exists_head_toDigits (n : Nat) : ∃ c more, Nat.toDigits 10 n = c :: more ∧
    isAsciiDigit c = true := by
  obtain ⟨c, more, hdigits⟩ := List.exists_cons_of_ne_nil (Nat.toDigits_ne_nil (n := n) (b := 10))
  exact ⟨c, more, hdigits, isAsciiDigit_of_mem_toDigits (by rw [hdigits]; simp)⟩

theorem leaf_eq_number {cs : List Char} (h : ∀ w ∈ words, afterWord? w.1.toList cs = none) :
    leaf cs = number cs := by
  rw [leaf, List.findSome?_eq_none_iff.mpr]
  rintro ⟨word, s⟩ hw
  have hnone := h (word, s) hw
  dsimp only at hnone ⊢
  rw [hnone]
  rfl

theorem leaf_toDigits {n : Nat} (hn : n < 10 ^ Number.maxDigits) {rest : List Char}
    (h : EndsNumber rest) : leaf (Nat.toDigits 10 n ++ rest) = .ok (.int n, rest) := by
  obtain ⟨c, more, hdigits, hc⟩ := exists_head_toDigits n
  have hne : ∀ other : Char, isAsciiDigit other = false → ¬ other = c := by
    rintro other hother rfl
    rw [hc] at hother
    cases hother
  have hnumber : number (Nat.toDigits 10 n ++ rest) = .ok (.int n, rest) := by
    refine number_toDigits hn h false ?_
    split
    · rename_i heq
      rw [hdigits] at heq
      exact absurd (List.cons.inj heq).1.symm (hne '-' (by decide))
    · rfl
  have hwords : ∀ w ∈ words, afterWord? w.1.toList (Nat.toDigits 10 n ++ rest) = none := by
    rw [hdigits]
    simp [words, afterWord?, hne 'n' (by decide), hne 't' (by decide), hne 'f' (by decide),
      hne 'N' (by decide), hne 'I' (by decide), hne '-' (by decide)]
  exact (leaf_eq_number hwords).trans hnumber

theorem leaf_negative {n : Nat} (hn : n < 10 ^ Number.maxDigits) {rest : List Char}
    (h : EndsNumber rest) : leaf ('-' :: (Nat.toDigits 10 n ++ rest)) = .ok (.int (-n), rest) := by
  obtain ⟨c, more, hdigits, hc⟩ := exists_head_toDigits n
  have hne : ¬ 'I' = c := by
    rintro rfl
    cases hc
  have hnumber : number ('-' :: (Nat.toDigits 10 n ++ rest)) = .ok (.int (-n), rest) :=
    number_toDigits hn h true rfl
  have hwords : ∀ w ∈ words, afterWord? w.1.toList ('-' :: (Nat.toDigits 10 n ++ rest)) = none := by
    rw [hdigits]
    simp [words, afterWord?, hne]
  exact (leaf_eq_number hwords).trans hnumber

/-! ## Line ends -/

theorem return_not_mem_unitEscape {n : Nat} (h : n < 0x10000) : '\r' ∉ unitEscape n := by
  have hdigit : ∀ d < 16, ¬ '\r' = d.digitChar := by
    intro d hd
    interval_cases d <;> decide
  rw [unitEscape, toList_hexText h]
  simp [hdigit (n / 0x1000) (by omega), hdigit (n / 0x100 % 16) (by omega),
    hdigit (n / 16 % 16) (by omega), hdigit (n % 16) (by omega)]

theorem return_not_mem_writtenChar (ascii : Bool) (c : Char) : '\r' ∉ writtenChar ascii c := by
  rcases writtenChar_cases ascii c with
    ⟨e, _, he, _, hwritten⟩ | ⟨hunit, hwritten⟩ | ⟨hpair, hwritten⟩ | ⟨_, _, hcontrol, hwritten⟩
  · simp [hwritten, he.symm]
  · rw [hwritten]
    exact return_not_mem_unitEscape hunit
  · have hvalid : c.toNat < 0xd800 ∨ 0xdfff < c.toNat ∧ c.toNat < 0x110000 := c.valid
    rw [hwritten, List.mem_append, not_or]
    exact ⟨return_not_mem_unitEscape (by omega), return_not_mem_unitEscape (by omega)⟩
  · rw [hwritten, List.mem_singleton]
    rintro rfl
    exact hcontrol (by decide)

theorem return_not_mem_writtenText (ascii : Bool) (s : String) :
    '\r' ∉ (writtenText ascii s).toList := by
  rw [writtenText, String.toList_ofList]
  simp [return_not_mem_writtenChar]

theorem return_not_mem_toString (i : Int) : '\r' ∉ (toString i).toList := by
  have hdigits : ∀ n : Nat, '\r' ∉ Nat.toDigits 10 n := by
    intro n h
    cases isAsciiDigit_of_mem_toDigits h
  cases i with
  | ofNat n =>
    change '\r' ∉ (Nat.repr n).toList
    rw [Nat.repr_eq_ofList_toDigits, String.toList_ofList]
    exact hdigits n
  | negSucc n =>
    change '\r' ∉ ("-" ++ Nat.repr (n + 1)).toList
    simp [Nat.repr_eq_ofList_toDigits, hdigits]

end CsdlRoutes.Json
