import CsdlRoutes.Command.Run
import CsdlRoutes.Proofs.Host.Surroundings
import CsdlRoutes.Proofs.Results

/-!
# What performed plans print

Only the deeds of a plan print, each its own text, and nothing that a plan ends with adds to that. A
deed that goes wrong prints nothing; one that was to print goes wrong only at a character that cannot
be encoded. So what is printed are the texts of the deeds up to the first that goes wrong, and of all
of them where the exit code says success.

* `Plan.printed`: what all deeds of a plan print.
* `Progress.perform_cases`, `Progress.performAll_cases`: what one deed and a row of deeds can come to.
* `Plan.perform_of_success`: what is known of a plan that was carried out with success.
* `Plan.ofResult_ending`: a plan that ends by itself got all results that it needs.
* `Plan.PrintsLast`: plans that print when all else is done.
* `Plan.BreaksOff`: plans that break off at a text that cannot be printed.
-/

namespace CsdlRoutes.Command

open Output (Console Message)

variable {c : Console} {p p' : Progress} {deed : Deed} {deeds : List Deed} {failure : Failure}

/-! ## What is printed -/

/-- What a deed puts on the standard output. -/
def Deed.printed : Deed → String
  | .print text => text
  | _ => ""

/-- What deeds put on the standard output, one after the other. -/
def printedBy : List Deed → String
  | [] => ""
  | deed :: rest => deed.printed ++ printedBy rest

theorem printedBy_append (deeds more : List Deed) :
    printedBy (deeds ++ more) = printedBy deeds ++ printedBy more := by
  induction deeds with
  | nil => exact String.empty_append.symm
  | cons deed rest ih => rw [List.cons_append, printedBy, ih, printedBy, String.append_assoc]

/-- Deeds that put nothing on the standard output. -/
def Silent (deeds : List Deed) : Prop := ∀ deed ∈ deeds, deed.printed = ""

theorem printedBy_map_print (texts : List String) :
    printedBy (texts.map .print) = String.join texts := by
  induction texts with
  | nil => rfl
  | cons text rest ih => rw [List.map_cons, printedBy, ih, Deed.printed, String.join_cons]

theorem printedBy_of_silent (h : Silent deeds) : printedBy deeds = "" := by
  induction deeds with
  | nil => rfl
  | cons deed rest ih =>
    obtain ⟨hdeed, hrest⟩ := List.forall_mem_cons.mp h
    rw [printedBy, hdeed, ih hrest, String.append_empty]

theorem Silent.append {more : List Deed} (h : Silent deeds) (hmore : Silent more) :
    Silent (deeds ++ more) := by
  intro deed hdeed
  rcases List.mem_append.mp hdeed with hdeed | hdeed
  · exact h deed hdeed
  · exact hmore deed hdeed

theorem silent_tell (m : Message) : Silent [.tell m] := List.forall_mem_singleton.mpr rfl

theorem silent_lookUp {α : Type} (aboveUser : Except Failure (Option α)) :
    Silent (lookUp aboveUser) := by
  unfold lookUp
  split
  · exact List.forall_mem_singleton.mpr rfl
  · exact List.forall_mem_nil _

theorem silent_notices (notices : List Schema.Notice) : Silent (notices.map .note) :=
  List.forall_mem_map.mpr fun _ _ => rfl

/-- What all deeds of a plan put on the standard output. -/
def Plan.printed (plan : Plan) : String := printedBy plan.deeds

namespace Plan

theorem printed_after (plan : Plan) (deeds : List Deed) :
    (plan.after deeds).printed = printedBy deeds ++ plan.printed := printedBy_append _ _

theorem ending_after (plan : Plan) (deeds : List Deed) :
    (plan.after deeds).ending = plan.ending := rfl

/-- A plan that ends by itself got the result that it needs. -/
theorem ofResult_ending {α : Type} {result : Except Failure α} {next : α → Plan} {code : Nat}
    (h : (ofResult result next).ending = .exit code) : ∃ a, result = .ok a ∧
      ofResult result next = next a := by
  cases result with
  | error failure => cases h
  | ok a => exact ⟨a, rfl, rfl⟩

end Plan

/-! ## Carrying out -/

namespace Progress

theorem tell_eq (c : Console) (p : Progress) (m : Message) :
    (p.tell c m).1.host = p.host ∧ (p.tell c m).1.output = p.output := by
  unfold tell
  split
  · exact ⟨rfl, rfl⟩
  · exact ⟨rfl, rfl⟩

theorem note_eq (c : Console) (p : Progress) (notice : Schema.Notice) :
    (p.note c notice).1.host = p.host ∧ (p.note c notice).1.output = p.output := by
  unfold note
  split
  · split
    · exact tell_eq c p _
    · exact ⟨rfl, rfl⟩
  · exact ⟨rfl, rfl⟩

theorem sameButDisk_perform (c : Console) (p : Progress) (deed : Deed) :
    p.host.SameButDisk (p.perform c deed).1.host := by
  cases deed with
  | print text =>
    rw [perform, print]
    split
    · exact .refl _
    · exact .refl _
  | tell m =>
    rw [perform, (tell_eq c p m).1]
    exact .refl _
  | note notice =>
    rw [perform, (note_eq c p notice).1]
    exact .refl _
  | makeConfigDirectory => exact Host.sameButDisk_configDirectory p.host
  | save s => exact Host.sameButDisk_saveSettings p.host s .none

/-- A deed is done and has put its own text on the standard output, or it goes wrong and has put
nothing there. It goes wrong at its own text only if that cannot be printed. -/
theorem perform_cases (c : Console) (p : Progress) (deed : Deed) :
    (∃ q, p.perform c deed = (q, .ok ()) ∧ q.output = p.output ++ deed.printed) ∨
      ∃ q failure, p.perform c deed = (q, .error failure) ∧ q.output = p.output ∧
        ∀ text, deed = .print text → p.host.prints text = false := by
  by_cases hprint : ∃ text, deed = .print text
  · obtain ⟨text, rfl⟩ := hprint
    rw [perform, print]
    cases htext : p.host.prints text with
    | true => exact Or.inl ⟨_, rfl, rfl⟩
    | false =>
      refine Or.inr ⟨_, _, rfl, rfl, ?_⟩
      rintro _ ⟨⟩
      exact htext
  · have hsilent : (p.perform c deed).1.output = p.output ∧ deed.printed = "" := by
      cases deed with
      | print text => exact absurd ⟨text, rfl⟩ hprint
      | tell m => exact ⟨(tell_eq c p m).2, rfl⟩
      | note notice => exact ⟨(note_eq c p notice).2, rfl⟩
      | makeConfigDirectory => exact ⟨rfl, rfl⟩
      | save s => exact ⟨rfl, rfl⟩
    obtain ⟨houtput, hprinted⟩ := hsilent
    cases hresult : p.perform c deed with
    | mk q result =>
      rw [hresult] at houtput
      cases result with
      | ok u => exact Or.inl ⟨q, rfl, by rw [houtput, hprinted, String.append_empty]⟩
      | error failure =>
        exact Or.inr ⟨q, failure, rfl, houtput, fun text h => absurd ⟨text, h⟩ hprint⟩

/-- A row of deeds is done and has put all its texts on the standard output, or it goes wrong at one
of them, after those before it have printed. -/
theorem performAll_cases (c : Console) (p : Progress) (deeds : List Deed) :
    (∃ q, p.performAll c deeds = (q, .ok ()) ∧ q.output = p.output ++ printedBy deeds) ∨
      ∃ q failure before wrong rest, p.performAll c deeds = (q, .error failure) ∧
        deeds = before ++ wrong :: rest ∧ q.output = p.output ++ printedBy before ∧
        ∀ text, wrong = .print text → p.host.prints text = false := by
  induction deeds generalizing p with
  | nil => exact Or.inl ⟨p, rfl, String.append_empty.symm⟩
  | cons deed rest ih =>
    have hsame := sameButDisk_perform c p deed
    rw [performAll]
    obtain ⟨q, hq, houtput⟩ | ⟨q, failure, hq, houtput, hwrong⟩ := perform_cases c p deed
    · rw [hq] at hsame ⊢
      obtain ⟨last, hlast, hrest⟩ | ⟨last, failure, before, wrong, others, hlast, hsplit, hrest, hwrong⟩
        := ih q
      · refine Or.inl ⟨last, hlast, ?_⟩
        rw [hrest, houtput, printedBy, String.append_assoc]
      · rw [hsame.prints] at hwrong
        refine Or.inr ⟨last, failure, deed :: before, wrong, others, hlast, ?_, ?_, hwrong⟩
        · rw [hsplit, List.cons_append]
        · rw [hrest, houtput, printedBy, String.append_assoc]
    · rw [hq]
      exact Or.inr ⟨q, failure, [], deed, rest, rfl, rfl, houtput.trans String.append_empty.symm,
        hwrong⟩

theorem crash_eq (c : Console) (p : Progress) (failure : Failure) :
    (p.crash c failure).output = p.output ∧
      (p.crash c failure).exitCode = ExitCode.genericFailure := by
  unfold crash
  split
  · exact ⟨rfl, rfl⟩
  · rename_i host log _
    have houtput := (tell_eq c { p with host }
      (.error ("Unexpected error. Debug log: " ++ log.text))).2
    dsimp only
    split
    · rename_i hnext
      rw [hnext] at houtput
      exact ⟨houtput, rfl⟩
    · rename_i hnext
      rw [hnext] at houtput
      exact ⟨houtput, rfl⟩

theorem exitCode_of_kind (kind : ErrorKind) : kind.exitCode ≠ ExitCode.success := by
  cases kind <;> decide

theorem fail_eq (c : Console) (p : Progress) (failure : Failure) :
    (p.fail c failure).output = p.output ∧ (p.fail c failure).exitCode ≠ ExitCode.success := by
  have hcrash : ∀ (p : Progress) failure, (p.crash c failure).exitCode ≠ ExitCode.success := by
    intro p failure
    rw [(crash_eq c p failure).2]
    decide
  unfold fail
  split
  · exact ⟨(crash_eq c p failure).1, hcrash p failure⟩
  · rename_i kind _
    have houtput := (tell_eq c p (.error failure.message)).2
    split
    · rename_i hnext
      rw [hnext] at houtput
      exact ⟨houtput, exitCode_of_kind kind⟩
    · rename_i failure' hnext
      rw [hnext] at houtput
      exact ⟨(crash_eq c _ failure').1.trans houtput, hcrash _ failure'⟩

/-- An ending puts nothing on the standard output, and only an exit of its own says success. -/
theorem finish_eq (c : Console) (p : Progress) (ending : Ending) :
    (p.finish c ending).output = p.output ∧
      ((p.finish c ending).exitCode = ExitCode.success → ending = .exit ExitCode.success) := by
  cases ending with
  | exit code => exact ⟨rfl, fun h => congrArg Ending.exit h⟩
  | failed failure =>
    obtain ⟨houtput, hcode⟩ := fail_eq c p failure
    exact ⟨houtput, fun h => absurd h hcode⟩
  | aborted =>
    have hcode : ExitCode.genericFailure ≠ ExitCode.success := by decide
    exact ⟨rfl, fun h => absurd h hcode⟩

end Progress

variable {host : Host} {plan : Plan}

/-- A plan that was carried out with success ends so by itself, and all its deeds have printed. -/
theorem Plan.perform_of_success (h : (plan.perform c host).exitCode = ExitCode.success) :
    plan.ending = .exit ExitCode.success ∧ (plan.perform c host).output = plan.printed := by
  rw [Plan.perform] at h ⊢
  obtain ⟨q, hdone, houtput⟩ | ⟨q, failure, _, _, _, hbroken, _, _, _⟩ :=
    (Progress.start host).performAll_cases c plan.deeds
  · rw [hdone] at h ⊢
    obtain ⟨hfinished, hcode⟩ := Progress.finish_eq c q plan.ending
    refine ⟨hcode h, ?_⟩
    dsimp only
    rw [hfinished, houtput]
    exact String.empty_append
  · rw [hbroken] at h
    dsimp only at h
    rw [(Progress.crash_eq c q failure).2] at h
    cases h

/-! ## Plans that print last -/

/-- A plan that prints when all else is done, and then ends with success, or does not print at all. -/
inductive Plan.PrintsLast : Plan → Prop
  | never {plan : Plan} : Silent plan.deeds → PrintsLast plan
  | last {deeds : List Deed} (texts : List String) : Silent deeds →
      PrintsLast (.done (deeds ++ texts.map .print))

/-- A plan breaks off at a text that cannot be printed, after other texts were. -/
def Plan.BreaksOff (host : Host) (plan : Plan) (printed : String) : Prop :=
  ∃ before text rest, plan.deeds = before ++ .print text :: rest ∧ host.prints text = false ∧
    printed = printedBy before

namespace Plan.PrintsLast

theorem after (h : plan.PrintsLast) {deeds : List Deed} (hdeeds : Silent deeds) :
    (plan.after deeds).PrintsLast := by
  cases h with
  | never hsilent => exact .never (hdeeds.append hsilent)
  | @last more texts hmore =>
    have hdone : (Plan.done (more ++ texts.map .print)).after deeds =
        .done (deeds ++ more ++ texts.map .print) := by
      rw [Plan.after, Plan.done, Plan.done, List.append_assoc]
    rw [hdone]
    exact .last texts (hdeeds.append hmore)

theorem ofResult {α : Type} {result : Except Failure α} {next : α → Plan}
    (h : ∀ a, (next a).PrintsLast) : (Plan.ofResult result next).PrintsLast := by
  cases result with
  | error failure => exact .never (List.forall_mem_nil _)
  | ok a => exact h a

/-- In front of a deed that is not to print, nothing is printed. -/
theorem silent_before (h : plan.PrintsLast) {before rest : List Deed} {wrong : Deed}
    (hdeeds : plan.deeds = before ++ wrong :: rest) (hwrong : ∀ text, wrong ≠ .print text) :
    Silent before := by
  cases h with
  | never hsilent =>
    intro deed hdeed
    exact hsilent deed (hdeeds ▸ List.mem_append_left _ hdeed)
  | @last deeds texts hsilent =>
    obtain ⟨more, rfl, htexts⟩ | ⟨more, rfl, _⟩ := List.append_eq_append_iff.mp hdeeds
    · have hmem : wrong ∈ texts.map Deed.print := htexts ▸ List.mem_append_right _ List.mem_cons_self
      obtain ⟨text, _, htext⟩ := List.mem_map.mp hmem
      exact absurd htext.symm (hwrong text)
    · exact fun deed hdeed => hsilent deed (List.mem_append_left _ hdeed)

/-- Where such a plan does not come to success, nothing was printed, unless it breaks off at a text
that cannot be printed. -/
theorem output_of_failure (h : plan.PrintsLast)
    (hcode : (plan.perform c host).exitCode ≠ ExitCode.success) :
    (plan.perform c host).output = "" ∨ plan.BreaksOff host (plan.perform c host).output := by
  rw [Plan.perform] at hcode ⊢
  obtain ⟨q, hdone, houtput⟩ | ⟨q, failure, before, wrong, rest, hbroken, hdeeds, houtput, hwrong⟩ :=
    (Progress.start host).performAll_cases c plan.deeds
  · rw [hdone] at hcode ⊢
    refine Or.inl ((Progress.finish_eq c q plan.ending).1.trans ?_)
    cases h with
    | never hsilent => rw [houtput, printedBy_of_silent hsilent]; rfl
    | last texts _ => exact absurd rfl hcode
  · rw [hbroken]
    have hprinted : (q.crash c failure).output = printedBy before :=
      (Progress.crash_eq c q failure).1.trans (houtput.trans String.empty_append)
    by_cases hprint : ∃ text, wrong = .print text
    · obtain ⟨text, rfl⟩ := hprint
      exact Or.inr ⟨before, text, rest, hdeeds, hwrong text rfl, hprinted⟩
    · refine Or.inl (hprinted.trans (printedBy_of_silent (h.silent_before hdeeds ?_)))
      exact fun text htext => hprint ⟨text, htext⟩

end Plan.PrintsLast

/-- Whether a command lists what is in a schema. -/
def Request.isListing : Request → Bool
  | .routes _ _ _ _ | .types _ | .segments _ _ => true
  | _ => false

variable {feed : Host.Feed} {layout : Output.Layout}

theorem printsLast_withModel {schema : Option String} {next : Schema.Model → Plan}
    (h : ∀ m, (next m).PrintsLast) : (withModel host feed schema next).PrintsLast := by
  refine .after (.ofResult fun source => ?_) (silent_lookUp _)
  refine .after (.ofResult h) ?_
  exact List.forall_mem_cons.mpr ⟨rfl, silent_notices _⟩

/-- Data that is printed as texts is on the standard output in full. -/
theorem printed_putOut (form : Output.Form) (texts : Output.Form → List String)
    (drawn : Output.Listing) :
    (putOut host (.text form) texts drawn).printed = String.join (texts form) :=
  printedBy_map_print _

theorem printsLast_putOut (texts : Output.Form → List String) (drawn : Output.Listing) :
    (putOut host layout texts drawn).PrintsLast := by
  cases layout with
  | text form => exact @Plan.PrintsLast.last [] (texts form) (List.forall_mem_nil _)
  | drawing isPlain =>
    exact .ofResult fun text => @Plan.PrintsLast.last [] [text] (List.forall_mem_nil _)

theorem printsLast_routesPlan (depth : Option Nat) (sorted references : Bool) (m : Schema.Model) :
    (routesPlan host layout depth sorted references m).PrintsLast := by
  refine .after (.ofResult fun cap => ?_) (silent_lookUp _)
  refine .after (.ofResult fun rows => ?_) (silent_tell _)
  refine .after ?_ (silent_tell _)
  unfold printRows
  split
  · exact .never (silent_tell _)
  · exact printsLast_putOut _ _

theorem printsLast_typesPlan (m : Schema.Model) : (typesPlan host layout m).PrintsLast :=
  .ofResult fun _ => printsLast_putOut _ _

theorem printsLast_segmentsPlan (typeName : String) (m : Schema.Model) :
    (segmentsPlan host layout typeName m).PrintsLast := by
  unfold segmentsPlan
  split
  · exact .never (List.forall_mem_cons.mpr ⟨rfl, silent_tell _⟩)
  · exact .ofResult fun _ => printsLast_putOut _ _

/-- Commands that list what is in a schema print when all else is done. -/
theorem printsLast_of_isListing {request : Request} (h : request.isListing = true) :
    (request.plan host feed layout).PrintsLast := by
  cases request with
  | routes schema depth sorted references =>
    exact printsLast_withModel (printsLast_routesPlan depth sorted references)
  | types schema => exact printsLast_withModel printsLast_typesPlan
  | segments typeName schema => exact printsLast_withModel (printsLast_segmentsPlan typeName)
  | _ => cases h

end CsdlRoutes.Command
