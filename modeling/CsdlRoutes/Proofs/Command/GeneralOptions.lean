import CsdlRoutes.Command.Line

/-!
# General options in front of a command

No general option takes a value. So a word of general options is read by itself, whatever follows
it, and the options of a command line are those of its words, one word after the other. A flag for
diagnostics may stand anywhere among them: all that it changes is which messages are shown.

* `parseOptions_append`: words of options in front of others.
* `Invocation.withFlags`: a command line with flags for diagnostics.
* `readCommandLine_withFlags`: how such a command line is read.
-/

namespace CsdlRoutes.Command

/-! ## Options without values -/

section OptionsWithoutValues

variable {σ : Type} {table : OptionTable σ} {choices : List σ}
  {waiting : Option (String → σ)} {cs : List Char}

/-- No option of a table takes a value. -/
def OptionTable.OnlyFlags (table : OptionTable σ) : Prop :=
  ∀ name choice, table.lookup name ≠ some (.value choice)

theorem readLetters_of_onlyFlags (h : table.OnlyFlags)
    (hread : readLetters table cs = some (choices, waiting)) : waiting = none := by
  induction cs generalizing choices waiting with
  | nil =>
    cases hread
    rfl
  | cons c rest ih =>
    rw [readLetters] at hread
    split at hread
    · cases hread
    · obtain ⟨⟨more, waiting'⟩, hrest, heq⟩ := Option.map_eq_some_iff.mp hread
      cases heq
      exact ih hrest
    · rename_i choice hvalue
      exact absurd hvalue (h _ choice)

/-- Where no option takes a value, no word waits for the next one. -/
theorem readOption_of_onlyFlags (h : table.OnlyFlags)
    (hread : readOption table cs = some (choices, waiting)) : waiting = none := by
  have hlong : ∀ name choice, table.long? name ≠ some (.value choice) := by
    intro name choice hvalue
    rw [OptionTable.long?] at hvalue
    split at hvalue
    · cases hvalue
    · exact h name choice hvalue
  unfold readOption at hread
  dsimp only at hread
  split at hread
  · cases hread
    rfl
  · cases hread
  · rename_i hvalue _
    exact absurd hvalue (hlong _ _)
  · rename_i hvalue _
    exact absurd hvalue (hlong _ _)
  · split at hread
    · cases hread
    · exact readLetters_of_onlyFlags h hread

/-- Words each of which is an option, or several. -/
def AreOptions (words : List String) : Prop :=
  ∀ word ∈ words, isOption word.toList = true ∧ word ≠ "--"

instance (words : List String) : Decidable (AreOptions words) := List.decidableBAll _ words

/-- The choices that words of options stand for. -/
def choicesOf? (table : OptionTable σ) : List String → Option (List σ)
  | [] => some []
  | word :: rest =>
    (readOption table word.toList).bind fun (choices, _) =>
      (choicesOf? table rest).map (choices ++ ·)

/-- Words of options are read whatever follows them. -/
theorem parseOptions_append (h : table.OnlyFlags) {front : List String} (hfront : AreOptions front)
    (mixed : Bool) (rest : List String) : parseOptions table mixed (front ++ rest) =
      (choicesOf? table front).bind fun choices =>
        (parseOptions table mixed rest).map fun (more, args) => (choices ++ more, args) := by
  unfold parseOptions
  induction front with
  | nil =>
    rw [List.nil_append, choicesOf?, Option.bind_some]
    exact Option.map_id'.symm
  | cons word front ih =>
    obtain ⟨⟨hoption, hdashes⟩, hothers⟩ := List.forall_mem_cons.mp hfront
    have hend : ¬ (word == "--") = true := by simpa using hdashes
    rw [List.cons_append, parseWords, if_neg hend, if_pos hoption, choicesOf?]
    cases hread : readOption table word.toList with
    | none => rfl
    | some found =>
      obtain ⟨choices, waiting⟩ := found
      obtain rfl := readOption_of_onlyFlags h hread
      simp only [Option.bind_some]
      rw [ih hothers]
      cases choicesOf? table front with
      | none => rfl
      | some others =>
        cases parseWords table mixed none rest with
        | none => rfl
        | some behind => simp

end OptionsWithoutValues

theorem onlyFlags_globalOptions : globalOptions.OnlyFlags := by
  intro name choice hvalue
  obtain ⟨before, after, hsplit, _⟩ := List.lookup_eq_some_iff.mp hvalue
  have hmem : (name, OptionUse.value choice) ∈ globalOptions := by
    rw [hsplit]
    exact List.mem_append_right _ List.mem_cons_self
  simp [globalOptions] at hmem

/-! ## Flags for diagnostics -/

/-- The spellings of the flag for a quiet command. -/
def quietFlags : List String := ["--quiet", "-q"]

/-- The spellings of the flag for a verbose command. -/
def verboseFlags : List String := ["--verbose", "-v"]

/-- Words that are flags for diagnostics. -/
def AreFlags (words : List String) : Prop := ∀ word ∈ words, word ∈ quietFlags ++ verboseFlags

instance (words : List String) : Decidable (AreFlags words) := List.decidableBAll _ words

/-- A command line with flags for diagnostics. -/
def Invocation.withFlags (i : Invocation) (flags : List String) : Invocation :=
  { i with globals := { i.globals with
      quiet := i.globals.quiet || flags.any quietFlags.contains
      verbose := i.globals.verbose || flags.any verboseFlags.contains } }

/-- The choice of a flag for diagnostics. -/
def flagChoice (flag : String) : GlobalChoice :=
  if quietFlags.contains flag then .quiet else .verbose

theorem areOptions_of_areFlags {flags : List String} (h : AreFlags flags) : AreOptions flags := by
  have hall : ∀ flag ∈ quietFlags ++ verboseFlags,
      isOption flag.toList = true ∧ flag ≠ "--" := by decide
  exact fun flag hflag => hall flag (h flag hflag)

theorem choicesOf?_flags {flags : List String} (h : AreFlags flags) :
    choicesOf? globalOptions flags = some (flags.map flagChoice) := by
  have hall : ∀ flag ∈ quietFlags ++ verboseFlags,
      (readOption globalOptions flag.toList).map Prod.fst = some [flagChoice flag] := by decide
  induction flags with
  | nil => rfl
  | cons flag flags ih =>
    obtain ⟨hflag, hothers⟩ := List.forall_mem_cons.mp h
    obtain ⟨⟨choices, waiting⟩, hread, hchoices⟩ := Option.map_eq_some_iff.mp (hall flag hflag)
    dsimp only at hchoices
    rw [choicesOf?, hread, ih hothers, hchoices]
    rfl

theorem flagChoice_cases (flag : String) :
    flagChoice flag = .quiet ∨ flagChoice flag = .verbose := by
  unfold flagChoice
  split
  · exact Or.inl rfl
  · exact Or.inr rfl

/-- A flag for diagnostics does not end the program. -/
theorem usage?_flags (before after : List GlobalChoice) (flags : List String) :
    GlobalChoice.usage? (before ++ (flags.map flagChoice ++ after)) =
      GlobalChoice.usage? (before ++ after) := by
  have hflags : GlobalChoice.usage? (flags.map flagChoice) = none := by
    rw [GlobalChoice.usage?, List.findSome?_eq_none_iff]
    intro choice hchoice
    obtain ⟨flag, _, rfl⟩ := List.mem_map.mp hchoice
    rcases flagChoice_cases flag with hflag | hflag
    · rw [hflag]
    · rw [hflag]
  unfold GlobalChoice.usage? at hflags ⊢
  rw [List.findSome?_append, List.findSome?_append, hflags, Option.none_or, List.findSome?_append]

/-- A flag for diagnostics is no other choice. -/
theorem not_mem_map_flagChoice {choice : GlobalChoice} (hquiet : choice ≠ .quiet)
    (hverbose : choice ≠ .verbose) (flags : List String) : choice ∉ flags.map flagChoice := by
  intro hchoice
  obtain ⟨flag, _, rfl⟩ := List.mem_map.mp hchoice
  exact (flagChoice_cases flag).elim hquiet hverbose

theorem contains_map_flagChoice {flags : List String} (h : AreFlags flags) :
    (flags.map flagChoice).contains .quiet = flags.any quietFlags.contains ∧
      (flags.map flagChoice).contains .verbose = flags.any verboseFlags.contains := by
  have hall : ∀ flag ∈ quietFlags ++ verboseFlags,
      (GlobalChoice.quiet == flagChoice flag) = quietFlags.contains flag ∧
        (GlobalChoice.verbose == flagChoice flag) = verboseFlags.contains flag := by decide
  induction flags with
  | nil => exact ⟨rfl, rfl⟩
  | cons flag flags ih =>
    obtain ⟨hflag, hothers⟩ := List.forall_mem_cons.mp h
    obtain ⟨hquiet, hverbose⟩ := hall flag hflag
    obtain ⟨hmoreQuiet, hmoreVerbose⟩ := ih hothers
    rw [List.map_cons, List.contains_cons, List.contains_cons, hquiet, hverbose, hmoreQuiet,
      hmoreVerbose]
    exact ⟨rfl, rfl⟩

theorem ofChoices_flags {flags : List String} (h : AreFlags flags)
    (before after : List GlobalChoice) (request : Except Usage Request) :
    Invocation.mk (Globals.ofChoices (before ++ (flags.map flagChoice ++ after))) request =
      (Invocation.mk (Globals.ofChoices (before ++ after)) request).withFlags flags := by
  have hsame : ∀ choice : GlobalChoice, choice ≠ .quiet → choice ≠ .verbose →
      (before ++ (flags.map flagChoice ++ after)).contains choice =
        (before ++ after).contains choice := by
    intro choice hquiet hverbose
    simp [not_mem_map_flagChoice hquiet hverbose flags]
  have hmore : ∀ (choice : GlobalChoice) (told : Bool),
      (flags.map flagChoice).contains choice = told →
      (before ++ (flags.map flagChoice ++ after)).contains choice =
        ((before ++ after).contains choice || told) := by
    rintro choice told rfl
    simp only [List.contains_eq_mem, List.mem_append, Bool.decide_or]
    cases decide (choice ∈ before) <;> simp [Bool.or_comm]
  obtain ⟨hquiet, hverbose⟩ := contains_map_flagChoice h
  unfold Globals.ofChoices Invocation.withFlags
  rw [hsame .json (by decide) (by decide), hsame .plain (by decide) (by decide),
    hsame .noColor (by decide) (by decide), hmore .quiet _ hquiet, hmore .verbose _ hverbose]

/-- Flags for diagnostics among the general options of a command line change nothing but the general
options, and a command line that is answered without a command is answered in the same way. -/
theorem readCommandLine_withFlags {front flags rest : List String} (hfront : AreOptions front)
    (hflags : AreFlags flags) (hwords : front ++ rest ≠ []) :
    readCommandLine (front ++ flags ++ rest) =
      (readCommandLine (front ++ rest)).map (·.withFlags flags) := by
  have hempty : ¬ (front ++ rest).isEmpty = true := by simpa using hwords
  have hmore : ¬ (front ++ flags ++ rest).isEmpty = true := by
    intro h
    refine hwords ?_
    simp only [List.isEmpty_iff, List.append_eq_nil_iff] at h
    rw [h.1.1, h.2, List.append_nil]
  rw [readCommandLine, readCommandLine, if_neg hempty, if_neg hmore, List.append_assoc,
    parseOptions_append onlyFlags_globalOptions hfront,
    parseOptions_append onlyFlags_globalOptions hfront,
    parseOptions_append onlyFlags_globalOptions (areOptions_of_areFlags hflags),
    choicesOf?_flags hflags, Option.bind_some]
  cases choicesOf? globalOptions front with
  | none => rfl
  | some before =>
    cases parseOptions globalOptions false rest with
    | none => rfl
    | some behind =>
      obtain ⟨after, args⟩ := behind
      simp only [Option.bind_some, Option.map_some]
      rw [usage?_flags]
      cases GlobalChoice.usage? (before ++ after) with
      | some usage => rfl
      | none =>
        cases args with
        | nil => rfl
        | cons name words =>
          dsimp only
          cases rootReaders.lookup name with
          | none => rfl
          | some read => exact congrArg Except.ok (ofChoices_flags hflags before after (read words))

end CsdlRoutes.Command
