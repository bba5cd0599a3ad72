import CsdlRoutes.Proofs.Command.GeneralOptions
import CsdlRoutes.Proofs.Command.PerformedPlans
import CsdlRoutes.Proofs.Command.SettingsChanges
import CsdlRoutes.Proofs.Host.LoadingFailures

/-!
# Flags for diagnostics and data

The flags for quiet and for verbose commands choose which messages are shown. A plan is worked out
without them, and it is carried out in the same way on consoles that show different messages. Two
runs part in two cases only, in which the run that shows a message breaks off there and the run that
does not goes on: colour is wanted and the message has a mark in it that cannot be shown, or it is a
notice that cannot be put into words.

* `SameData`: outcomes that differ in what was told at most.
* `Splits`: the deeds at which two runs may part.
* `Plan.perform_akin`: one plan on two consoles.
* `run_withFlags`: one command with flags and without them.
* `output_of_run_failure`: commands that list what is in a schema, and fail.
* `answer`: what comes of a command line.
* `diagnostics_leave_data`: runs of one command with flags and without them.
* `quiet_changes_outcome`: a command that fails unless it is quiet.
-/

namespace CsdlRoutes.Command

open Output (Console Format Message withoutMarks)

/-! ## Two consoles -/

/-- Outcomes that differ in what was told at most. -/
structure SameData (o o' : Outcome) : Prop where
  host : o.host = o'.host
  output : o.output = o'.output
  exitCode : o.exitCode = o'.exitCode

/-- Consoles that differ in which messages they show at most. -/
structure Akin (c c' : Console) : Prop where
  isPlain : c.isPlain = c'.isPlain
  width : c.width = c'.width

/-- A deed at which runs on two consoles part: one of them tells something and breaks off. Either it
is a message that has a mark in it that cannot be shown, where colour is wanted, or it is a notice that
cannot be put into words. -/
inductive Splits (c c' : Console) : Deed → Prop
  | message {m : Message} (shown : m.isShown c ≠ m.isShown c')
      (coloured : c.isPlain = false ∧ m.isColoured = true)
      (fault : ∃ fault, withoutMarks m.markedText.toList = .error fault) : Splits c c' (.tell m)
  | notice {notice : Schema.Notice} (told : c.isVerbose ≠ c'.isVerbose) (deep : notice.IsTooDeep) :
      Splits c c' (.note notice)

/-- What has come of two runs so far that differ in what was told at most. -/
structure Progress.Agrees (p p' : Progress) : Prop where
  host : p.host = p'.host
  output : p.output = p'.output

/-- Two runs after one deed, or after several: they agree, and both go on or break off with one
failure. -/
structure Alongside (x x' : Progress × Except Failure Unit) : Prop where
  agrees : x.1.Agrees x'.1
  result : x.2 = x'.2

theorem Alongside.cases {x x' : Progress × Except Failure Unit} (h : Alongside x x') :
    (∃ q q', x = (q, .ok ()) ∧ x' = (q', .ok ()) ∧ q.Agrees q') ∨
      ∃ q q' failure, x = (q, .error failure) ∧ x' = (q', .error failure) ∧ q.Agrees q' := by
  obtain ⟨q, result⟩ := x
  obtain ⟨q', result'⟩ := x'
  obtain ⟨hagrees, hresult⟩ := h
  dsimp only at hresult
  cases hresult
  cases result with
  | ok u => exact Or.inl ⟨q, q', rfl, rfl, hagrees⟩
  | error failure => exact Or.inr ⟨q, q', failure, rfl, rfl, hagrees⟩

variable {c c' : Console} {m : Message} {p p' : Progress}

/-- A failure is shown on every console. -/
theorem not_splits_error (text : String) : ¬ Splits c c' (.tell (.error text)) := by
  rintro ⟨hshown, _, _⟩
  exact hshown rfl

/-- A message that stands without colour is shown as it is, or not at all. -/
theorem exists_render_of_uncoloured {c : Console} {m : Message}
    (h : (c.isPlain || !m.isColoured) = true) : ∃ text, c.render m = .ok text := by
  rw [Console.render, if_pos h]
  split
  · exact ⟨_, rfl⟩
  · exact ⟨_, rfl⟩

/-- Unless runs part at a message, it is shown on both consoles as far as they show it, or breaks off
both. -/
theorem render_akin (h : Akin c c') (hm : ¬ Splits c c' (.tell m)) :
    (∃ text text', c.render m = .ok text ∧ c'.render m = .ok text') ∨
      ∃ fault, c.render m = .error fault ∧ c'.render m = .error fault := by
  by_cases hshown : m.isShown c = m.isShown c'
  · have hsame : c.render m = c'.render m := by
      rw [Console.render, Console.render, hshown, h.isPlain, h.width]
    cases hrender : c'.render m with
    | ok text => exact Or.inl ⟨text, text, hsame.trans hrender, rfl⟩
    | error fault => exact Or.inr ⟨fault, hsame.trans hrender, rfl⟩
  · have hrenders : ∀ c'' : Console, c''.isPlain = c.isPlain → ∃ text, c''.render m = .ok text := by
      intro c'' hplain
      by_cases hmarked : (c.isPlain || !m.isColoured) = true
      · exact exists_render_of_uncoloured (by rwa [hplain])
      · cases hmarks : withoutMarks m.markedText.toList with
        | ok cs => exact Output.exists_render c'' ⟨cs, hmarks⟩
        | error fault =>
          refine absurd (.message hshown ?_ ⟨fault, hmarks⟩) hm
          simpa using hmarked
    obtain ⟨text, hrender⟩ := hrenders c rfl
    obtain ⟨text', hrender'⟩ := hrenders c' h.isPlain.symm
    exact Or.inl ⟨text, text', hrender, hrender'⟩

/-! ## Carrying out one plan -/

namespace Progress

theorem tell_akin (h : Akin c c') (hm : ¬ Splits c c' (.tell m)) (hp : p.Agrees p') :
    Alongside (p.tell c m) (p'.tell c' m) := by
  unfold tell
  obtain ⟨text, text', hrender, hrender'⟩ | ⟨fault, hrender, hrender'⟩ := render_akin h hm
  · rw [hrender, hrender']
    exact ⟨⟨hp.host, hp.output⟩, rfl⟩
  · rw [hrender, hrender']
    exact ⟨hp, rfl⟩

/-- A notice that can be put into words breaks off no run. -/
theorem note_of_words {notice : Schema.Notice} {words : String} (h : notice.words = .ok words)
    (c : Console) (p : Progress) : ∃ q, p.note c notice = (q, .ok ()) ∧ q.Agrees p := by
  unfold note
  split
  · rw [h]
    dsimp only
    obtain ⟨text, hrender⟩ : ∃ text, c.render (.log extractionSource words) = .ok text :=
      exists_render_of_uncoloured (Bool.or_true _)
    rw [tell, hrender]
    exact ⟨_, rfl, rfl, rfl⟩
  · exact ⟨p, rfl, rfl, rfl⟩

theorem note_akin {notice : Schema.Notice} (hn : ¬ Splits c c' (.note notice)) (hp : p.Agrees p') :
    Alongside (p.note c notice) (p'.note c' notice) := by
  obtain ⟨_, words, hwords⟩ | ⟨hdeep, hwords⟩ := notice.words_cases
  · obtain ⟨q, hq, hsame⟩ := note_of_words hwords c p
    obtain ⟨q', hq', hsame'⟩ := note_of_words hwords c' p'
    rw [hq, hq']
    refine ⟨⟨?_, ?_⟩, rfl⟩
    · exact hsame.host.trans (hp.host.trans hsame'.host.symm)
    · exact hsame.output.trans (hp.output.trans hsame'.output.symm)
  · have htold : c.isVerbose = c'.isVerbose := by
      by_contra htold
      exact hn (.notice htold hdeep)
    unfold note
    rw [htold, hwords]
    split
    · exact ⟨hp, rfl⟩
    · exact ⟨hp, rfl⟩

theorem print_akin (text : String) (hp : p.Agrees p') : Alongside (p.print text) (p'.print text) := by
  rw [print, print, hp.host]
  split
  · exact ⟨⟨rfl, congrArg (· ++ text) hp.output⟩, rfl⟩
  · exact ⟨hp, rfl⟩

theorem perform_akin (h : Akin c c') {deed : Deed} (hdeed : ¬ Splits c c' deed) (hp : p.Agrees p') :
    Alongside (p.perform c deed) (p'.perform c' deed) := by
  cases deed with
  | print text => exact print_akin text hp
  | tell m => exact tell_akin h hdeed hp
  | note notice => exact note_akin hdeed hp
  | makeConfigDirectory =>
    rw [perform, perform, hp.host]
    exact ⟨⟨rfl, hp.output⟩, rfl⟩
  | save s =>
    rw [perform, perform, hp.host]
    exact ⟨⟨rfl, hp.output⟩, rfl⟩

/-- Rows of deeds go on side by side, and break off at the same deed. -/
theorem performAll_akin (h : Akin c c') {deeds : List Deed}
    (hdeeds : ∀ deed ∈ deeds, ¬ Splits c c' deed) (hp : p.Agrees p') :
    Alongside (p.performAll c deeds) (p'.performAll c' deeds) := by
  induction deeds generalizing p p' with
  | nil => exact ⟨hp, rfl⟩
  | cons deed rest ih =>
    obtain ⟨hdeed, hrest⟩ := List.forall_mem_cons.mp hdeeds
    rw [performAll, performAll]
    obtain ⟨q, q', hnext, hnext', hq⟩ | ⟨q, q', failure, hnext, hnext', hq⟩ :=
      (perform_akin h hdeed hp).cases
    · rw [hnext, hnext']
      exact ih hrest hq
    · rw [hnext, hnext']
      exact ⟨hq, rfl⟩

theorem crash_akin (h : Akin c c') (hp : p.Agrees p') (failure : Failure) :
    SameData (p.crash c failure) (p'.crash c' failure) := by
  rw [crash, crash, hp.host]
  cases p'.host.recordCrash (failure.message ++ "\n") with
  | mk host result =>
    cases result with
    | error failure => exact ⟨rfl, hp.output, rfl⟩
    | ok log =>
      have hnow : Agrees { p with host } { p' with host } := ⟨rfl, hp.output⟩
      dsimp only
      obtain ⟨q, q', hnext, hnext', hq⟩ | ⟨q, q', failure, hnext, hnext', hq⟩ := (tell_akin h
        (not_splits_error ("Unexpected error. Debug log: " ++ log.text)) hnow).cases
      · rw [hnext, hnext']
        exact ⟨hq.host, hq.output, rfl⟩
      · rw [hnext, hnext']
        exact ⟨hq.host, hq.output, rfl⟩

theorem fail_akin (h : Akin c c') (hp : p.Agrees p') (failure : Failure) :
    SameData (p.fail c failure) (p'.fail c' failure) := by
  unfold fail
  cases failure.kind? with
  | none => exact crash_akin h hp failure
  | some kind =>
    dsimp only
    obtain ⟨q, q', hnext, hnext', hq⟩ | ⟨q, q', failure', hnext, hnext', hq⟩ :=
      (tell_akin h (not_splits_error failure.message) hp).cases
    · rw [hnext, hnext']
      exact ⟨hq.host, hq.output, rfl⟩
    · rw [hnext, hnext']
      exact crash_akin h hq failure'

theorem finish_akin (h : Akin c c') (hp : p.Agrees p') (ending : Ending) :
    SameData (p.finish c ending) (p'.finish c' ending) := by
  cases ending with
  | exit code => exact ⟨hp.host, hp.output, rfl⟩
  | failed failure => exact fail_akin h hp failure
  | aborted => exact ⟨hp.host, hp.output, rfl⟩

end Progress

/-- A plan comes to the same data on two consoles, unless they part at one of its deeds. -/
theorem Plan.perform_akin (h : Akin c c') (host : Host) (plan : Plan) :
    SameData (plan.perform c host) (plan.perform c' host) ∨
      ∃ deed ∈ plan.deeds, Splits c c' deed := by
  by_cases hsplits : ∃ deed ∈ plan.deeds, Splits c c' deed
  · exact Or.inr hsplits
  · refine Or.inl ?_
    have hdeeds : ∀ deed ∈ plan.deeds, ¬ Splits c c' deed := fun deed hdeed hs =>
      hsplits ⟨deed, hdeed, hs⟩
    have hstart : (Progress.start host).Agrees (Progress.start host) := ⟨rfl, rfl⟩
    rw [Plan.perform, Plan.perform]
    obtain ⟨q, q', hnext, hnext', hq⟩ | ⟨q, q', failure, hnext, hnext', hq⟩ :=
      (Progress.performAll_akin h hdeeds hstart).cases
    · rw [hnext, hnext']
      exact Progress.finish_akin h hq plan.ending
    · rw [hnext, hnext']
      exact Progress.crash_akin h hq failure

/-! ## One command -/

theorem sameButDisk_chooseFormat (host : Host) (g : Globals) :
    host.SameButDisk (chooseFormat host g).1 := by
  have hload := Host.sameButDisk_globalSettings host
  unfold chooseFormat
  split
  · exact .refl host
  · split
    · exact .refl host
    · cases hnext : host.globalSettings with
      | mk next result =>
        rw [hnext] at hload
        cases result with
        | ok s => exact hload
        | error failure =>
          cases failure with
          | setting why => exact hload
          | _ => exact hload

variable {host : Host} {feed : Host.Feed} {isTerminal : Bool} {i : Invocation}

theorem akin_withFlags (host : Host) (i : Invocation) (flags : List String) :
    Akin (consoleOf host i.globals) (consoleOf host (i.withFlags flags).globals) := ⟨rfl, rfl⟩

/-- A command comes to the same data with flags for diagnostics and without them, unless the two runs
part at a deed of its plan. -/
theorem run_withFlags (host : Host) (feed : Host.Feed) (isTerminal : Bool) (i : Invocation)
    (flags : List String) :
    SameData (run host feed isTerminal i) (run host feed isTerminal (i.withFlags flags)) ∨
      ∃ plan, i.plan? host feed isTerminal = some plan ∧ ∃ deed ∈ plan.deeds,
        Splits (consoleOf host i.globals) (consoleOf host (i.withFlags flags).globals) deed := by
  have hsame : chooseFormat host (i.withFlags flags).globals = chooseFormat host i.globals := rfl
  have henvironment := (sameButDisk_chooseFormat host i.globals).environment
  have hakin := akin_withFlags host i flags
  rw [run, run, Invocation.plan?, hsame]
  cases hchosen : chooseFormat host i.globals with
  | mk next result =>
    rw [hchosen] at henvironment
    cases result with
    | error failure => exact Or.inl ⟨rfl, rfl, rfl⟩
    | ok format =>
      have hrequest : (i.withFlags flags).request = i.request := rfl
      dsimp only
      rw [hrequest, consoleOf_eq henvironment, consoleOf_eq henvironment]
      cases i.request with
      | error usage => exact Or.inl ⟨rfl, rfl, rfl⟩
      | ok request =>
        rcases Plan.perform_akin hakin next (request.plan next feed
          (format.resolve isTerminal (isPlain next i.globals))) with hdata | hsplits
        · exact Or.inl hdata
        · exact Or.inr ⟨_, rfl, hsplits⟩

/-- A command that lists what is in a schema, or is answered without a command, prints nothing unless
it comes to success or breaks off at a text that cannot be printed. Only how the program is used is
printed where a command is missing. -/
theorem output_of_run_failure (hlisting : ∀ request, i.request = .ok request → request.isListing = true)
    (hcommand : i.request ≠ .error .noCommand)
    (hcode : (run host feed isTerminal i).exitCode ≠ ExitCode.success) :
    (run host feed isTerminal i).output = "" ∨
      ∃ plan, i.plan? host feed isTerminal = some plan ∧
        plan.BreaksOff host (run host feed isTerminal i).output := by
  have hnext := sameButDisk_chooseFormat host i.globals
  rw [run] at hcode ⊢
  rw [Invocation.plan?]
  cases hchosen : chooseFormat host i.globals with
  | mk next result =>
    rw [hchosen] at hcode hnext
    cases result with
    | error failure => exact Or.inl (Progress.crash_eq _ _ failure).1
    | ok format =>
      dsimp only at hcode hnext ⊢
      cases hrequest : i.request with
      | error usage =>
        rw [hrequest] at hcode hcommand
        cases usage with
        | version => exact absurd rfl hcode
        | help => exact absurd rfl hcode
        | noCommand => exact absurd rfl hcommand
        | wrong => exact Or.inl rfl
      | ok request =>
        rw [hrequest] at hcode
        refine ((printsLast_of_isListing (hlisting request hrequest)).output_of_failure hcode).imp_right
          fun hbroken => ⟨_, rfl, ?_⟩
        unfold Plan.BreaksOff at hbroken ⊢
        rwa [hnext.prints] at hbroken

/-- A host whose standard output encodes ASCII alone. -/
def asciiHost : Host :=
  { settledHost none with
    equipment := { Host.Equipment.standard with encodes := fun c => decide (c.toNat < 0x80) } }

-- Plain rows are printed one after the other, so the headers were printed when a row cannot be.
example :
    let rows : List Route.Row := [⟨"/caf\u00e9", 1, "s.t", .singleton⟩]
    let c := consoleOf asciiHost { noColor := true }
    let o := (printRows asciiHost (.text .plain) rows).perform c asciiHost
    o.exitCode = ExitCode.genericFailure ∧ o.output = "Path\tDepth\tTarget\tEdge\n" := by
  decide +kernel

/-! ## Command lines -/

/-- What comes of a command line. -/
def answer (host : Host) (feed : Host.Feed) (isTerminal : Bool) (words : List String) : Outcome :=
  match readCommandLine words with
  | .error usage => usage.outcome host
  | .ok i => run host feed isTerminal i

/-- What a command line asks for. -/
def asked (words : List String) : Except Usage Request :=
  (readCommandLine words).bind Invocation.request

/-- **Flags for diagnostics leave data alone.** Flags among the general options of a command line
change neither what it prints nor its exit code nor anything on the host, unless the run that tells
something breaks off there, at a mark in a message or a value in a notice. And whatever the flags are,
a command that lists what is in a schema prints nothing when its exit code says failure, unless it
breaks off at a text that cannot be encoded; then it has printed what comes before. -/
theorem diagnostics_leave_data (host : Host) (feed : Host.Feed) (isTerminal : Bool)
    {front flags rest : List String} (hfront : AreOptions front) (hflags : AreFlags flags)
    (hwords : front ++ rest ≠ []) :
    (SameData (answer host feed isTerminal (front ++ rest))
        (answer host feed isTerminal (front ++ flags ++ rest)) ∨
      ∃ i plan, readCommandLine (front ++ rest) = .ok i ∧
        i.plan? host feed isTerminal = some plan ∧ ∃ deed ∈ plan.deeds,
          Splits (consoleOf host i.globals) (consoleOf host (i.withFlags flags).globals) deed) ∧
    ∀ words, asked words ≠ .error .noCommand →
      (∀ request, asked words = .ok request → request.isListing = true) →
      (answer host feed isTerminal words).exitCode ≠ ExitCode.success →
      (answer host feed isTerminal words).output = "" ∨
        ∃ i plan, readCommandLine words = .ok i ∧ i.plan? host feed isTerminal = some plan ∧
          plan.BreaksOff host (answer host feed isTerminal words).output := by
  refine ⟨?_, ?_⟩
  · rw [answer, answer, readCommandLine_withFlags hfront hflags hwords]
    cases hread : readCommandLine (front ++ rest) with
    | error usage => exact Or.inl ⟨rfl, rfl, rfl⟩
    | ok i =>
      rcases run_withFlags host feed isTerminal i flags with hdata | ⟨plan, hplan, hsplits⟩
      · exact Or.inl hdata
      · exact Or.inr ⟨i, plan, rfl, hplan, hsplits⟩
  · intro words hcommand hlisting hcode
    unfold asked at hcommand hlisting
    unfold answer at hcode ⊢
    cases hread : readCommandLine words with
    | error usage =>
      rw [hread] at hcommand hcode
      cases usage with
      | version => exact absurd rfl hcode
      | help => exact absurd rfl hcode
      | noCommand => exact absurd rfl hcommand
      | wrong => exact Or.inl rfl
    | ok i =>
      rw [hread] at hcommand hlisting hcode
      refine (output_of_run_failure hlisting hcommand hcode).imp_right ?_
      rintro ⟨plan, hplan, hbroken⟩
      exact ⟨i, plan, rfl, hplan, hbroken⟩

/-- Without colour a setting with a mark in it is set in the same way by a quiet and verbose command.
A listing without a schema fails, and prints nothing. -/
theorem plain_setting_told_or_not :
    AreOptions ["--no-color"] ∧ AreFlags ["-q", "--verbose"] ∧
    SameData
      (answer (settledHost none) ⟨"", .noResponse "unreachable"⟩ false
        ["--no-color", "config", "set", "default_schema", "[/]"])
      (answer (settledHost none) ⟨"", .noResponse "unreachable"⟩ false
        ["--no-color", "-q", "--verbose", "config", "set", "default_schema", "[/]"]) ∧
    (answer (settledHost none) ⟨"", .noResponse "unreachable"⟩ false
      ["--no-color", "routes"]).exitCode ≠ ExitCode.success ∧
    (answer (settledHost none) ⟨"", .noResponse "unreachable"⟩ false
      ["--no-color", "routes"]).output = "" := by
  have hfront : AreOptions ["--no-color"] := by decide
  have hflags : AreFlags ["-q", "--verbose"] := by decide
  obtain ⟨hdata, hfailure⟩ := diagnostics_leave_data (settledHost none)
    ⟨"", .noResponse "unreachable"⟩ false hfront hflags
    (List.cons_ne_nil _ ["config", "set", "default_schema", "[/]"])
  have hcode : (answer (settledHost none) ⟨"", .noResponse "unreachable"⟩ false
      ["--no-color", "routes"]).exitCode ≠ ExitCode.success := by decide +kernel
  have hasked : asked ["--no-color", "routes"] = .ok (.routes none none false true) := by
    decide +kernel
  have hprints : ∀ text, (settledHost none).prints text = true := fun text =>
    List.all_eq_true.mpr fun _ _ => rfl
  refine ⟨hfront, hflags, ?_, hcode, ?_⟩
  · rcases hdata with hdata | ⟨i, plan, hread, hplan, deed, hdeed, hsplits⟩
    · exact hdata
    · have hknown : (readCommandLine (["--no-color"] ++ ["config", "set", "default_schema",
          "[/]"])).map (fun i => ((consoleOf (settledHost none) i.globals).isPlain,
            (i.plan? (settledHost none) ⟨"", .noResponse "unreachable"⟩ false).map fun plan =>
              plan.deeds.all fun deed => !(deed matches .note _))) =
            .ok (true, some true) := by decide +kernel
      rw [hread, Except.map, hplan] at hknown
      obtain ⟨hplain, hknown⟩ := Prod.ext_iff.mp (Except.ok.inj hknown)
      have htold := List.all_eq_true.mp (Option.some.inj hknown) deed hdeed
      cases hsplits with
      | message _ hcoloured _ => cases hplain.symm.trans hcoloured.1
      | notice _ _ => cases htold
  · refine (hfailure ["--no-color", "routes"] ?_ ?_ hcode).resolve_right ?_
    · rw [hasked]
      exact fun h => by cases h
    · intro request hrequest
      rw [hasked] at hrequest
      cases hrequest
      rfl
    · rintro ⟨_, _, _, _, _, text, _, _, hunprinted, _⟩
      rw [hprints text] at hunprinted
      cases hunprinted

/-- A field is set, but what is told of it cannot be shown: the command stores it and fails. -/
theorem exitCode_of_untold {made : Host} {directory place temporary : Host.Path}
    {file? : Option ByteArray} {key value : String} {s : Settings} {fault : Output.MarkFault}
    {setter : Settings → String → Except Failure Settings}
    (h : host.KeepsAt made directory place temporary file?)
    (hlookup : Settings.setters.lookup key = some setter)
    (hset : (host.globalSettings.2.bind fun s => setter s value) = .ok s)
    (hshown : c.render (.success s!"Set {key} = {value}") = .error fault) :
    ((setPlan host key value).perform c host).exitCode = ExitCode.genericFailure := by
  have htell : ∀ p : Progress, p.perform c (.tell (.success s!"Set {key} = {value}")) =
      (p, .error (.accident (.mark fault))) := by
    intro p
    rw [Progress.perform, Progress.tell, hshown]
  rw [setPlan, hlookup]
  dsimp only
  rw [perform_after h, hset, Plan.ofResult, Plan.perform, Plan.done,
    performAll_cons (perform_save h.host_made c s), Progress.performAll, htell]
  exact (Progress.crash_eq c _ _).2

/-- The mark in the setting closes the style of the message, and nothing is left to close behind it. -/
theorem withoutMarks_told :
    withoutMarks "[green]Set default_schema = [/][/green]".toList = .error .closesNothing := by
  obtain ⟨name, hname⟩ := Output.exists_nameOfMark_green
  have hopening : Output.nextMark? "[green]Set default_schema = [/][/green]".toList =
      some ([], "green".toList, "Set default_schema = [/][/green]".toList) := by decide
  have hclosing : Output.nextMark? "Set default_schema = [/][/green]".toList =
      some ("Set default_schema = ".toList, "/".toList, "[/green]".toList) := by decide
  have hlast : Output.nextMark? "[/green]".toList = some ([], "/green".toList, []) := by decide
  have hpieces : Output.pieces "[green]Set default_schema = [/][/green]".toList =
      [.opening "green".toList [], .text "Set default_schema = ".toList, .closing [],
        .closing "green".toList] := by
    rw [Output.pieces_of_mark hopening, Output.pieces_of_some hclosing,
      Output.pieces_of_mark hlast, Output.pieces_of_none rfl]
    decide
  have hnothing := Output.textOf_closing_nothing (by decide +kernel) (by decide +kernel) hname []
  have hclosed := Output.close_of_noParameters name
  rw [withoutMarks, hpieces, Output.textOf_opening hname, Output.textOf,
    Output.textOf_closing_last hclosed, hnothing]
  rfl

/-- A quiet command sets a setting with a mark in it and succeeds. Without the flag it does the same
and fails, since it tells what it has done. -/
theorem quiet_changes_outcome :
    (answer (settledHost none) ⟨"", .noResponse "unreachable"⟩ false
      ["--quiet", "config", "set", "default_schema", "[/]"]).exitCode = ExitCode.success ∧
    (answer (settledHost none) ⟨"", .noResponse "unreachable"⟩ false
      ["config", "set", "default_schema", "[/]"]).exitCode = ExitCode.genericFailure := by
  refine ⟨by decide +kernel, ?_⟩
  have hload : (settledHost none).globalSettings.2 = .ok Settings.defaults := by
    rw [(settledHost_keepsAt none).globalSettings_eq]
    rfl
  have hread : readCommandLine ["config", "set", "default_schema", "[/]"] =
      .ok ⟨{}, .ok (.set "default_schema" "[/]")⟩ := by
    rfl
  have hopens : (Call.mk (.set "default_schema" "[/]") {} ⟨"", .noResponse "unreachable"⟩
      false).Opens (settledHost none) := Call.opens_of_load hload
  obtain ⟨next, format, houtcome, hnext, hsame, _⟩ := outcome_eq (settledHost_keepsAt none) hopens
  have hset : (next.globalSettings.2.bind fun s => Settings.setDefaultSchema s "[/]") =
      .ok { Settings.defaults with defaultSchema := some "[/]" } := by
    rw [hsame, hload]
    decide +kernel
  have hrender : (consoleOf (settledHost none) {}).render (.success "Set default_schema = [/]") =
      .error .closesNothing := by
    have hcolour : ¬ ((consoleOf (settledHost none) {}).isPlain ||
        !(Message.success "Set default_schema = [/]").isColoured) = true := by decide +kernel
    have hshown : ¬ (!(Message.success "Set default_schema = [/]").isShown
        (consoleOf (settledHost none) {})) = true := by decide
    rw [Console.render, if_neg hshown, if_neg hcolour, Output.markedLines]
    exact congrArg (Except.map _) withoutMarks_told
  have hlookup : Settings.setters.lookup "default_schema" = some Settings.setDefaultSchema := rfl
  have hplan := exitCode_of_untold hnext hlookup hset hrender
  rw [answer, hread]
  exact (congrArg Outcome.exitCode houtcome).trans hplan

end CsdlRoutes.Command
