import CsdlRoutes.Command.Run
import CsdlRoutes.Proofs.Host.KeptSettings
import CsdlRoutes.Proofs.Output.ShownMessages
import CsdlRoutes.Proofs.Settings.DecidingSource

/-!
# Changes of the settings

A change sets one field of the record or resets all of them. What a row of changes leaves in the file
is what those that succeed make of the defaults, one after the other. A change that fails leaves the
file as it was, whatever it holds, and so does every setting of a field when the file is wrong. Only
a field that is not known is told before the file is read.

* `Change.effect?`: what a change does to the record, if it succeeds.
* `stored_of_set`, `refused_of_set`, `stored_of_reset`: the plans of the commands.
* `outcome_of_effect`, `outcome_of_refusal`: one change.
* `represents_calls`: a row of changes.
* `changes_kept`: all of it together.
-/

namespace CsdlRoutes.Command

open Host (Feed KeepsAt)
open Output (Console Format Message)

/-! ## Changes -/

/-- A command that changes the settings of the user. -/
inductive Change where
  | set (key value : String)
  | reset
  deriving DecidableEq, Repr

namespace Change

def request : Change → Request
  | .set key value => .set key value
  | .reset => .reset true

/-- What a change does to the record, if it succeeds. -/
def effect? : Change → Option (Settings → Settings)
  | .reset => some fun _ => Settings.defaults
  | .set key value =>
    if key = "default_schema" then
      let word := Text.lower (Text.strip value)
      some fun s => { s with defaultSchema := if word = "" ∨ word = "none" then none else some value }
    else if key = "traversal.max_depth" then
      match Number.readWhole? value with
      | some (.ofNat n) => some fun s => { s with maxDepth := n }
      | _ => none
    else if key = "output.format" then
      (Format.ofName? value).map fun f s => { s with format := f }
    else none

/-- The record after a change. It stays as it is if the change fails. -/
def apply (s : Settings) (change : Change) : Settings :=
  match change.effect? with
  | some f => f s
  | none => s

/-- What is told of a change when the file of the record is as it should be. -/
def reply : Change → Message
  | .reset => .success "Configuration reset to defaults."
  | .set key value =>
    match Settings.setters.lookup key with
    | none =>
      let keys := ", ".intercalate (Settings.setters.map Prod.fst)
      .error s!"Unknown config key: {key} (expected one of: {keys})"
    | some setter =>
      match setter Settings.defaults value with
      | .ok _ => .success s!"Set {key} = {value}"
      | .error failure => .error failure.message

end Change

/-- A command that changes the settings, with its general options and what comes from outside. -/
structure Call where
  change : Change
  globals : Globals
  feed : Feed
  isTerminal : Bool

namespace Call

/-- What comes of a call on a host. -/
def outcome (host : Host) (call : Call) : Outcome :=
  run host call.feed call.isTerminal ⟨call.globals, .ok call.change.request⟩

/-- What is told of a call can be shown on its console. -/
def Shown (host : Host) (call : Call) : Prop :=
  ∃ text, (consoleOf host call.globals).render call.change.reply = .ok text

end Call

/-- The host after a row of calls. -/
def hostAfter (host : Host) (calls : List Call) : Host :=
  calls.foldl (fun host call => (call.outcome host).host) host

/-- The record after a row of calls, from the defaults on. -/
def recordAfter (calls : List Call) : Settings :=
  calls.foldl (fun s call => call.change.apply s) Settings.defaults

/-! ## Setters -/

theorem setter_cases {key : String} {setter : Settings → String → Except Failure Settings}
    (h : (key, setter) ∈ Settings.setters) (value : String) :
    (∃ f, (Change.set key value).effect? = some f ∧ ∀ s, setter s value = .ok (f s)) ∨
      ((Change.set key value).effect? = none ∧ ∃ a, ∀ s, setter s value = .error (.argument a)) := by
  simp only [Settings.setters, List.mem_cons, List.not_mem_nil, or_false, Prod.mk.injEq] at h
  rcases h with ⟨rfl, rfl⟩ | ⟨rfl, rfl⟩ | ⟨rfl, rfl⟩
  · refine Or.inl ⟨_, by rw [Change.effect?, if_pos rfl], fun s => ?_⟩
    simp [Settings.setDefaultSchema, Settings.standsForNone]
  · have heffect : (Change.set "traversal.max_depth" value).effect? =
        match Number.readWhole? value with
        | some (.ofNat n) => some fun s => { s with maxDepth := n }
        | _ => none := by
      rw [Change.effect?, if_neg (by decide), if_pos rfl]
    rw [heffect]
    cases hread : Number.readWhole? value with
    | none => exact Or.inr ⟨rfl, _, fun s => by rw [Settings.setMaxDepth, hread]⟩
    | some i =>
      cases i with
      | ofNat n => exact Or.inl ⟨_, rfl, fun s => by rw [Settings.setMaxDepth, hread]⟩
      | negSucc n => exact Or.inr ⟨rfl, _, fun s => by rw [Settings.setMaxDepth, hread]⟩
  · have heffect : (Change.set "output.format" value).effect? =
        (Format.ofName? value).map fun f s => { s with format := f } := by
      rw [Change.effect?, if_neg (by decide), if_neg (by decide), if_pos rfl]
    rw [heffect]
    cases hname : Format.ofName? value with
    | none => exact Or.inr ⟨rfl, _, fun s => by rw [Settings.setFormat, hname]⟩
    | some f => exact Or.inl ⟨_, rfl, fun s => by rw [Settings.setFormat, hname]⟩

theorem mem_setters_of_lookup {key : String}
    {setter : Settings → String → Except Failure Settings}
    (h : Settings.setters.lookup key = some setter) : (key, setter) ∈ Settings.setters := by
  obtain ⟨before, after, hsplit, _⟩ := List.lookup_eq_some_iff.mp h
  rw [hsplit]
  exact List.mem_append_right _ List.mem_cons_self

theorem effect?_of_unknown {key : String} (h : Settings.setters.lookup key = none)
    (value : String) : (Change.set key value).effect? = none := by
  have hother : ∀ p ∈ Settings.setters, key ≠ p.1 := by
    simpa using List.lookup_eq_none_iff.mp h
  simp only [Settings.setters, List.forall_mem_cons] at hother
  obtain ⟨hschema, hdepth, hformat, _⟩ := hother
  rw [Change.effect?, if_neg hschema, if_neg hdepth, if_neg hformat]

/-- A field that is set with an effect is a known one, whose setter has that effect. -/
theorem exists_setter_of_effect {key value : String} {f : Settings → Settings}
    (h : (Change.set key value).effect? = some f) : ∃ setter,
      Settings.setters.lookup key = some setter ∧ ∀ s, setter s value = .ok (f s) := by
  cases hlookup : Settings.setters.lookup key with
  | none =>
    rw [effect?_of_unknown hlookup] at h
    cases h
  | some setter =>
    rcases setter_cases (mem_setters_of_lookup hlookup) value with ⟨g, hg, hset⟩ | ⟨hno, _⟩
    · rw [hg] at h
      cases h
      exact ⟨setter, rfl, hset⟩
    · rw [hno] at h
      cases h

/-- A field that is set without effect is not a known one, or its setter refuses the value. -/
theorem unknown_or_refused {key value : String} (h : (Change.set key value).effect? = none) :
    Settings.setters.lookup key = none ∨ ∃ setter a,
      Settings.setters.lookup key = some setter ∧ ∀ s, setter s value = .error (.argument a) := by
  cases hlookup : Settings.setters.lookup key with
  | none => exact Or.inl rfl
  | some setter =>
    rcases setter_cases (mem_setters_of_lookup hlookup) value with ⟨g, hg, _⟩ | ⟨_, a, hset⟩
    · rw [hg] at h
      cases h
    · exact Or.inr ⟨setter, a, rfl, hset⟩

/-! ## Plans -/

variable {host made next : Host} {directory place temporary : Host.Path}
  {file? : Option ByteArray} {c : Console} {key value text : String} {s : Settings}
  {setter : Settings → String → Except Failure Settings} {failure : Failure} {kind : ErrorKind}

theorem performAll_cons {p p' : Progress} {deed : Deed} {deeds : List Deed}
    (h : p.perform c deed = (p', .ok ())) :
    p.performAll c (deed :: deeds) = p'.performAll c deeds := by
  rw [Progress.performAll, h]

theorem perform_tell {p : Progress} {m : Message} (hshown : c.render m = .ok text) :
    p.perform c (.tell m) = (p.addError text, .ok ()) := by
  rw [Progress.perform, Progress.tell, hshown]

theorem perform_after (h : host.KeepsAt made directory place temporary file?) (plan : Plan) :
    (plan.after [.makeConfigDirectory]).perform c host = plan.perform c made := by
  have hmake : (Progress.start host).perform c .makeConfigDirectory =
      (Progress.start made, .ok ()) := by
    rw [Progress.perform, Progress.start, h.configured]
    rfl
  rw [Plan.perform, Plan.perform, Plan.after, List.singleton_append, performAll_cons hmake]

theorem perform_save (h : host.KeepsAt made directory place temporary file?) (c : Console)
    (s : Settings) : (Progress.start host).perform c (.save s) =
      (Progress.start (KeepsAt.stored made place s.fileText.toUTF8), .ok ()) := by
  rw [Progress.perform, Progress.start, h.saveSettings_eq]
  rfl

/-- Settings are stored, and then a message is shown. -/
theorem perform_saveAndTell (h : host.KeepsAt made directory place temporary file?) {m : Message}
    (hshown : c.render m = .ok text) :
    (Plan.done [.save s, .tell m]).perform c host =
      ⟨⟨KeepsAt.stored made place s.fileText.toUTF8, "", text⟩, ExitCode.success, none⟩ := by
  rw [Plan.perform, Plan.done, performAll_cons (perform_save h c s), performAll_cons (perform_tell hshown)]
  simp [Progress.performAll, Progress.addError, Progress.start, Progress.finish]

theorem perform_fail (hkind : failure.kind? = some kind)
    (hshown : c.render (.error failure.message) = .ok text) :
    (Plan.fail failure).perform c host = ⟨⟨host, "", text⟩, kind.exitCode, none⟩ := by
  have htell : (Progress.start host).tell c (.error failure.message) =
      ((Progress.start host).addError text, .ok ()) := by
    rw [Progress.tell, hshown]
  rw [Plan.perform, Plan.fail, Progress.performAll]
  dsimp only [Progress.finish]
  rw [Progress.fail, hkind]
  dsimp only
  rw [htell]
  simp [Progress.addError, Progress.start]

/-- A field is set: the record is stored, and the change is told. -/
theorem stored_of_set (h : host.KeepsAt made directory place temporary file?)
    (hlookup : Settings.setters.lookup key = some setter)
    (hset : (host.globalSettings.2.bind fun s => setter s value) = .ok s)
    (hshown : c.render (.success s!"Set {key} = {value}") = .ok text) :
    (setPlan host key value).perform c host =
      ⟨⟨KeepsAt.stored made place s.fileText.toUTF8, "", text⟩, ExitCode.success, none⟩ := by
  rw [setPlan, hlookup]
  dsimp only
  rw [perform_after h, hset]
  exact perform_saveAndTell h.host_made hshown

/-- A field is not set: the value is refused or the file is wrong. -/
theorem refused_of_set (h : host.KeepsAt made directory place temporary file?)
    (hlookup : Settings.setters.lookup key = some setter)
    (hset : (host.globalSettings.2.bind fun s => setter s value) = .error failure)
    (hkind : failure.kind? = some kind) (hshown : c.render (.error failure.message) = .ok text) :
    (setPlan host key value).perform c host = ⟨⟨made, "", text⟩, kind.exitCode, none⟩ := by
  rw [setPlan, hlookup]
  dsimp only
  rw [perform_after h, hset]
  exact perform_fail hkind hshown

/-- A field that is not known is refused before the file is read. -/
theorem refused_of_unknown (host : Host) (hlookup : Settings.setters.lookup key = none)
    (hshown : c.render (Change.set key value).reply = .ok text) :
    (setPlan host key value).perform c host = ⟨⟨host, "", text⟩, ExitCode.invalidUsage, none⟩ := by
  rw [Change.reply, hlookup] at hshown
  rw [setPlan, hlookup]
  dsimp only at hshown ⊢
  rw [Plan.perform, performAll_cons (perform_tell hshown)]
  simp [Progress.performAll, Progress.addError, Progress.start, Progress.finish]

/-- All fields are reset, whatever the file holds. -/
theorem stored_of_reset (h : host.KeepsAt made directory place temporary file?) (c : Console)
    (feed : Feed) :
    ∃ text, (resetPlan feed true).perform c host =
      ⟨⟨KeepsAt.stored made place Settings.defaults.fileText.toUTF8, "", text⟩, ExitCode.success, none⟩ := by
  have hbracket : '[' ∉ "Configuration reset to defaults.".toList := by decide
  obtain ⟨text, hshown⟩ := Output.render_success c hbracket
  exact ⟨text, perform_saveAndTell h hshown⟩

/-! ## One call -/

theorem consoleOf_eq (h : next.environment = host.environment) (g : Globals) :
    consoleOf next g = consoleOf host g := by
  unfold consoleOf isPlain Host.environmentValue?
  rw [h]

/-- The format can be chosen: it is given, or the file is read or is wrong in a way that was
foreseen. -/
def Call.Opens (host : Host) (call : Call) : Prop :=
  call.globals.json = true ∨ call.globals.plain = true ∨
    host.globalSettings.2 ≠ .error (.accident .tooDeep)

/-- A call carries out its plan on a host that keeps the same settings. -/
theorem outcome_eq (h : host.KeepsAt made directory place temporary file?) {call : Call}
    (hopens : call.Opens host) : ∃ next format,
      call.outcome host =
        (call.change.request.plan next call.feed format).perform (consoleOf host call.globals)
          next ∧
      next.KeepsAt made directory place temporary file? ∧
      next.globalSettings.2 = host.globalSettings.2 ∧
      next.environment = host.environment := by
  have hchosen : ∃ next format, chooseFormat host call.globals = (next, .ok format) ∧
      (next = host ∨ next = made) := by
    unfold chooseFormat
    by_cases hjson : call.globals.json = true
    · exact ⟨host, .json, by rw [if_pos hjson], Or.inl rfl⟩
    · rw [if_neg hjson]
      by_cases hplain : call.globals.plain = true
      · exact ⟨host, .plain, by rw [if_pos hplain], Or.inl rfl⟩
      · have hdeep := (hopens.resolve_left hjson).resolve_left hplain
        rw [if_neg hplain]
        rw [h.globalSettings_eq] at hdeep ⊢
        cases hload : Settings.ofFile (Host.settingsFile directory).text file? with
        | ok s => exact ⟨made, s.format, rfl, Or.inr rfl⟩
        | error failure =>
          rcases Settings.ofFile_eq_error hload with ⟨why, rfl⟩ | ⟨rfl, _⟩
          · exact ⟨made, .auto, rfl, Or.inr rfl⟩
          · exact absurd hload hdeep
  obtain ⟨next, format, hformat, hnext⟩ := hchosen
  have hkept : next.KeepsAt made directory place temporary file? := by
    rcases hnext with rfl | rfl
    · exact h
    · exact h.host_made
  have henvironment : next.environment = host.environment := by
    rcases hnext with rfl | rfl
    · rfl
    · exact h.environment_made
  have hload : next.globalSettings.2 = host.globalSettings.2 := by
    rw [hkept.globalSettings_eq, h.globalSettings_eq]
  refine ⟨next, format.resolve call.isTerminal (isPlain next call.globals), ?_, hkept, hload,
    henvironment⟩
  rw [Call.outcome, run, hformat]
  dsimp only
  rw [answerRequest, consoleOf_eq henvironment]

/-- What a call leaves behind: its exit code, a host that keeps settings in a file with some bytes, and
the same environment. -/
structure Leaves (host : Host) (call : Call) (file? : Option ByteArray) (code : Nat) : Prop where
  exitCode : (call.outcome host).exitCode = code
  kept : (call.outcome host).host.Keeps file?
  environment : (call.outcome host).host.environment = host.environment

namespace Leaves

variable {call : Call} {code : Nat}

theorem of_stored (h : host.KeepsAt made directory place temporary file?)
    (houtcome : call.outcome host =
      ⟨⟨KeepsAt.stored made place s.fileText.toUTF8, "", text⟩, ExitCode.success, none⟩) :
    Leaves host call (some s.fileText.toUTF8) ExitCode.success := by
  refine ⟨by rw [houtcome], ?_, ?_⟩
  · rw [houtcome]
    exact ⟨_, directory, place, temporary, h.stored_keeps _⟩
  · rw [houtcome]
    exact h.environment_made

theorem of_refused (h : next.KeepsAt made directory place temporary file?)
    (henvironment : next.environment = host.environment)
    (houtcome : call.outcome host = ⟨⟨next, "", text⟩, code, none⟩) :
    Leaves host call file? code := by
  refine ⟨by rw [houtcome], ?_, ?_⟩
  · rw [houtcome]
    exact ⟨made, directory, place, temporary, h⟩
  · rw [houtcome]
    exact henvironment

end Leaves

theorem Call.opens_of_load {call : Call} (hload : host.globalSettings.2 = .ok s) :
    call.Opens host := by
  refine Or.inr (Or.inr ?_)
  rw [hload]
  exact fun h => by cases h

theorem Call.opens_of_rejection {call : Call} {why : SettingFailure}
    (hload : host.globalSettings.2 = .error (.setting why)) : call.Opens host := by
  refine Or.inr (Or.inr ?_)
  rw [hload]
  exact fun h => by cases h

/-- A file can be reset whatever it holds. -/
theorem outcome_of_reset (h : host.Keeps file?) {call : Call} (hopens : call.Opens host)
    (hreset : call.change = .reset) :
    Leaves host call (some Settings.defaults.fileText.toUTF8) ExitCode.success := by
  obtain ⟨made, directory, place, temporary, h⟩ := h
  obtain ⟨next, format, houtcome, hnext, _, _⟩ := outcome_eq h hopens
  obtain ⟨text, hplan⟩ := stored_of_reset hnext (consoleOf host call.globals) call.feed
  rw [hreset] at houtcome
  exact .of_stored h (houtcome.trans hplan)

/-- A change that has an effect stores the record that it makes. -/
theorem outcome_of_effect (h : host.Keeps file?) {call : Call} (hshown : call.Shown host)
    (hload : host.globalSettings.2 = .ok s) {f : Settings → Settings}
    (heffect : call.change.effect? = some f) :
    Leaves host call (some (f s).fileText.toUTF8) ExitCode.success := by
  obtain ⟨text, hshown⟩ := hshown
  cases hchange : call.change with
  | reset =>
    rw [hchange] at heffect
    cases heffect
    exact outcome_of_reset h (Call.opens_of_load hload) hchange
  | set key value =>
    obtain ⟨made, directory, place, temporary, h⟩ := h
    have hopens : call.Opens host := Call.opens_of_load hload
    obtain ⟨next, format, houtcome, hnext, hsame, _⟩ := outcome_eq h hopens
    rw [hchange] at houtcome hshown heffect
    obtain ⟨setter, hlookup, hset⟩ := exists_setter_of_effect heffect
    have hbind : (next.globalSettings.2.bind fun s => setter s value) = .ok (f s) := by
      rw [hsame, hload]
      exact hset s
    rw [Change.reply, hlookup] at hshown
    dsimp only at hshown
    rw [hset] at hshown
    exact .of_stored h (houtcome.trans (stored_of_set hnext hlookup hbind hshown))

/-- A change without effect leaves the file as it was. -/
theorem outcome_of_refusal (h : host.Keeps file?) {call : Call} (hshown : call.Shown host)
    (hload : host.globalSettings.2 = .ok s) (heffect : call.change.effect? = none) :
    Leaves host call file? ExitCode.invalidUsage := by
  obtain ⟨text, hshown⟩ := hshown
  cases hchange : call.change with
  | reset =>
    rw [hchange] at heffect
    cases heffect
  | set key value =>
    obtain ⟨made, directory, place, temporary, h⟩ := h
    have hopens : call.Opens host := Call.opens_of_load hload
    obtain ⟨next, format, houtcome, hnext, hsame, henvironment⟩ := outcome_eq h hopens
    rw [hchange] at houtcome hshown heffect
    rcases unknown_or_refused heffect with hlookup | ⟨setter, a, hlookup, hset⟩
    · have hplan := refused_of_unknown next hlookup hshown
      exact .of_refused hnext henvironment (houtcome.trans hplan)
    · have hbind : (next.globalSettings.2.bind fun s => setter s value) =
          .error (.argument a) := by
        rw [hsame, hload]
        exact hset s
      rw [Change.reply, hlookup] at hshown
      dsimp only at hshown
      rw [hset] at hshown
      have hplan := refused_of_set hnext hlookup hbind rfl hshown
      exact .of_refused hnext.host_made (hnext.environment_made.trans henvironment)
        (houtcome.trans hplan)

/-- A file that is wrong stays as it is when a field is set. -/
theorem outcome_of_rejection (h : host.Keeps file?) {call : Call}
    (hset : call.change = .set key value) (hkey : key ∈ Settings.setters.map Prod.fst)
    {why : SettingFailure} (hload : host.globalSettings.2 = .error (.setting why))
    (hshown : (consoleOf host call.globals).render (.error why.message) = .ok text) :
    Leaves host call file? ExitCode.genericFailure := by
  obtain ⟨made, directory, place, temporary, h⟩ := h
  have hopens : call.Opens host := Call.opens_of_rejection hload
  obtain ⟨next, format, houtcome, hnext, hsame, henvironment⟩ := outcome_eq h hopens
  rw [hset] at houtcome
  cases hlookup : Settings.setters.lookup key with
  | none =>
    obtain ⟨⟨_, setter⟩, hmem, rfl⟩ := List.mem_map.mp hkey
    have hother := List.lookup_eq_none_iff.mp hlookup _ hmem
    simp at hother
  | some setter =>
    have hbind : (next.globalSettings.2.bind fun s => setter s value) =
        .error (.setting why) := by
      rw [hsame, hload]
      rfl
    have hplan := refused_of_set hnext hlookup hbind rfl hshown
    exact .of_refused hnext.host_made (hnext.environment_made.trans henvironment)
      (houtcome.trans hplan)

/-! ## Rows of calls -/

/-- A file holds a record, or there is no file and the record is that of the defaults. -/
structure Represents (file? : Option ByteArray) (s : Settings) : Prop where
  storable : s.Storable
  held : file? = none ∧ s = Settings.defaults ∨ file? = some s.fileText.toUTF8

theorem Represents.ofFile (h : Represents file? s) (path : String) :
    Settings.ofFile path file? = .ok s := by
  rcases h.held with ⟨rfl, rfl⟩ | rfl
  · rfl
  · rw [Settings.ofFile, Settings.ofBytes_fileText h.storable]
    rfl

theorem Represents.load (h : Represents file? s) (hkept : host.Keeps file?) :
    host.globalSettings.2 = .ok s := by
  obtain ⟨made, directory, place, temporary, hkept⟩ := hkept
  rw [hkept.globalSettings_eq, h.ofFile]

theorem storable_of_effect {change : Change} {f : Settings → Settings}
    (h : change.effect? = some f) (hs : s.Storable) : (f s).Storable := by
  cases change with
  | reset =>
    cases h
    exact Settings.storable_defaults
  | set key value =>
    obtain ⟨setter, hlookup, hset⟩ := exists_setter_of_effect h
    exact Settings.storable_of_setter (mem_setters_of_lookup hlookup) (hset s) hs

/-- One call leaves a host that keeps the record which the change makes of the one before. -/
theorem represents_outcome (h : host.Keeps file?) (hrepresents : Represents file? s) {call : Call}
    (hshown : call.Shown host) : ∃ after?,
      (call.outcome host).host.Keeps after? ∧ Represents after? (call.change.apply s) ∧
        (call.outcome host).host.environment = host.environment := by
  have hload := hrepresents.load h
  cases heffect : call.change.effect? with
  | none =>
    have hleaves := outcome_of_refusal h hshown hload heffect
    refine ⟨file?, hleaves.kept, ?_, hleaves.environment⟩
    rw [Change.apply, heffect]
    exact hrepresents
  | some f =>
    have hleaves := outcome_of_effect h hshown hload heffect
    refine ⟨_, hleaves.kept, ?_, hleaves.environment⟩
    rw [Change.apply, heffect]
    exact ⟨storable_of_effect heffect hrepresents.storable, Or.inr rfl⟩

theorem Call.shown_of_environment {call : Call} (h : next.environment = host.environment)
    (hshown : call.Shown host) : call.Shown next := by
  rw [Call.Shown, consoleOf_eq h]
  exact hshown

/-- A row of calls leaves a host that keeps the record which their changes make. The induction is on
the calls, from any record on. -/
theorem represents_calls (calls : List Call) (h : host.Keeps file?)
    (hrepresents : Represents file? s) (hshown : ∀ call ∈ calls, call.Shown host) : ∃ after?,
      (hostAfter host calls).Keeps after? ∧
        Represents after? (calls.foldl (fun s call => call.change.apply s) s) ∧
        (hostAfter host calls).environment = host.environment := by
  induction calls generalizing host file? s with
  | nil => exact ⟨file?, h, hrepresents, rfl⟩
  | cons call calls ih =>
    obtain ⟨hcall, hcalls⟩ := List.forall_mem_cons.mp hshown
    obtain ⟨middle?, hkept, hmiddle, henvironment⟩ := represents_outcome h hrepresents hcall
    obtain ⟨after?, hafter, hrecord, hsame⟩ := ih hkept hmiddle fun other hother =>
      Call.shown_of_environment henvironment (hcalls other hother)
    exact ⟨after?, hafter, hrecord, hsame.trans henvironment⟩

/-! ## All changes -/

theorem settingsBytes_of_keeps (h : host.Keeps file?) : host.settingsBytes = .ok file? := by
  obtain ⟨made, directory, place, temporary, h⟩ := h
  exact h.settingsBytes_eq

/-- **The file implements the record.** On a host that keeps settings, whose file is not there yet,
any row of changes leaves what those with an effect make of the defaults, and the next change either
has an effect or is refused as wrong usage and leaves the file as it is. A reset succeeds whatever
the file holds, as long as the format can be chosen, and where the file is wrong the setting of a
known field fails and leaves it as it is. What is told has to be shown on the console of each. -/
theorem changes_kept (h : host.Keeps file?) :
    (file? = none → ∀ calls : List Call, (∀ call ∈ calls, call.Shown host) →
      (hostAfter host calls).globalSettings.2 = .ok (recordAfter calls) ∧
      ((hostAfter host calls).settingsBytes = .ok none ∨
        (hostAfter host calls).settingsBytes = .ok (some (recordAfter calls).fileText.toUTF8)) ∧
      ∀ call : Call, call.Shown host →
        (call.outcome (hostAfter host calls)).exitCode =
          (if call.change.effect?.isSome then ExitCode.success else ExitCode.invalidUsage) ∧
        (call.change.effect? = none →
          (call.outcome (hostAfter host calls)).host.settingsBytes =
            (hostAfter host calls).settingsBytes)) ∧
    (∀ call : Call, call.change = .reset → call.Opens host →
      (call.outcome host).exitCode = ExitCode.success ∧
      (call.outcome host).host.globalSettings.2 = .ok Settings.defaults) ∧
    ∀ (call : Call) (key value : String) (why : SettingFailure),
      call.change = .set key value → key ∈ Settings.setters.map Prod.fst →
      host.globalSettings.2 = .error (.setting why) →
      (∃ text, (consoleOf host call.globals).render (.error why.message) = .ok text) →
      (call.outcome host).exitCode = ExitCode.genericFailure ∧
      (call.outcome host).host.settingsBytes = host.settingsBytes := by
  refine ⟨?_, ?_, ?_⟩
  · rintro rfl calls hshown
    have hdefaults : Represents none Settings.defaults :=
      ⟨Settings.storable_defaults, Or.inl ⟨rfl, rfl⟩⟩
    obtain ⟨after?, hafter, hrepresents, henvironment⟩ :=
      represents_calls calls h hdefaults hshown
    have hbytes := settingsBytes_of_keeps hafter
    refine ⟨hrepresents.load hafter, ?_, ?_⟩
    · rcases hrepresents.held with ⟨rfl, _⟩ | rfl
      · exact Or.inl hbytes
      · exact Or.inr hbytes
    · intro call hcall
      have hcall := Call.shown_of_environment henvironment hcall
      have hload := hrepresents.load hafter
      cases heffect : call.change.effect? with
      | some f =>
        have hleaves := outcome_of_effect hafter hcall hload heffect
        refine ⟨hleaves.exitCode, ?_⟩
        intro hnone
        cases hnone
      | none =>
        have hleaves := outcome_of_refusal hafter hcall hload heffect
        refine ⟨hleaves.exitCode, ?_⟩
        intro _
        rw [hbytes, settingsBytes_of_keeps hleaves.kept]
  · intro call hreset hopens
    have hleaves := outcome_of_reset h hopens hreset
    have hdefaults : Represents (some Settings.defaults.fileText.toUTF8) Settings.defaults :=
      ⟨Settings.storable_defaults, Or.inr rfl⟩
    exact ⟨hleaves.exitCode, hdefaults.load hleaves.kept⟩
  · rintro call key value why hset hkey hload ⟨text, hshown⟩
    have hleaves := outcome_of_rejection h hset hkey hload hshown
    refine ⟨hleaves.exitCode, ?_⟩
    rw [settingsBytes_of_keeps h, settingsBytes_of_keeps hleaves.kept]

/-! ## A host -/

/-- Without colour everything is shown. -/
theorem Call.shown_of_noColor {call : Call} (h : call.globals.noColor = true) (host : Host) :
    call.Shown host := by
  have hplain : (consoleOf host call.globals).isPlain = true := by
    rw [consoleOf, isPlain, h]
    rfl
  exact ⟨_, Output.Console.render_of_isPlain hplain _⟩

/-- A host with a directory for settings, and nothing else but perhaps the file. -/
def settledHost (file? : Option ByteArray) : Host :=
  ⟨⟨"/", []⟩, [("XDG_CONFIG_HOME", "/etc")], "Linux", "/root", "20240101-000000",
    [("/etc", .directory), ("/etc/routetree", .directory)] ++
      (file?.map fun bytes => ("/etc/routetree/config.json", .file bytes)).toList,
    .standard⟩

theorem settledHost_keepsAt (file? : Option ByteArray) :
    (settledHost file?).KeepsAt (settledHost file?) ⟨"/", ["etc", "routetree"]⟩
      ⟨"/", ["etc", "routetree", "config.json"]⟩
      ⟨"/", ["etc", "routetree", ".config.json.00000000.tmp"]⟩ file? := by
  have hpath : (settledHost none).configPath = .ok ⟨"/", ["etc", "routetree"]⟩ := by
    have htext : Settings.setText? ((settledHost none).environmentValue? "XDG_CONFIG_HOME") =
        some "/etc" := by decide
    rw [Host.configPath_of_variable (by decide) htext]
    exact congrArg Except.ok (by decide)
  have hnone : (settledHost none).KeepsAt (settledHost none) ⟨"/", ["etc", "routetree"]⟩
      ⟨"/", ["etc", "routetree", "config.json"]⟩
      ⟨"/", ["etc", "routetree", ".config.json.00000000.tmp"]⟩ none :=
    ⟨Host.configDirectory_of_hasDirectory hpath (by decide), rfl, rfl, rfl⟩
  cases file? with
  | none => exact hnone
  | some bytes => exact hnone.stored_keeps bytes

theorem settledHost_keeps (file? : Option ByteArray) : (settledHost file?).Keeps file? :=
  ⟨_, _, _, _, settledHost_keepsAt file?⟩

/-- Without colour, on a terminal or not. -/
def plainly (change : Change) : Call :=
  ⟨change, { noColor := true }, ⟨"", .noResponse "unreachable"⟩, false⟩

/-- A host whose settings file holds nothing but an opening brace. -/
def brokenHost : Host := settledHost (some "\x7b".toUTF8)

/-- What is wrong with that file. -/
def brokenFile : SettingFailure :=
  .unreadableGlobal "/etc/routetree/config.json" (.json ⟨.nameExpected, ⟨1, 2, 1⟩⟩)

theorem brokenHost_rejects : brokenHost.globalSettings.2 = .error (.setting brokenFile) := by
  have hbytes : Settings.ofBytes "\x7b".toUTF8 = .error (.json ⟨.nameExpected, ⟨1, 2, 1⟩⟩) := by
    rw [Settings.ofBytes, Settings.readBytes_brace]
    rfl
  rw [brokenHost, (settledHost_keepsAt _).globalSettings_eq, Settings.ofFile, hbytes]
  rfl

/-- Some changes of which one has no effect, a change that is refused, and changes of a file that is
wrong. -/
theorem settledHost_changes_kept :
    (hostAfter (settledHost none) [plainly (.set "traversal.max_depth" "3"),
        plainly (.set "traversal.max_depth" "-1"),
        plainly (.set "output.format" "json")]).globalSettings.2 =
      .ok { maxDepth := 3, format := .json } ∧
    ((plainly (.set "output.format" "xml")).outcome
      (hostAfter (settledHost none) [plainly .reset])).exitCode = ExitCode.invalidUsage ∧
    ((plainly .reset).outcome brokenHost).host.globalSettings.2 = .ok Settings.defaults ∧
    ((plainly (.set "output.format" "json")).outcome brokenHost).exitCode =
      ExitCode.genericFailure := by
  have hshown : ∀ (change : Change) (host : Host), (plainly change).Shown host :=
    fun _ host => Call.shown_of_noColor rfl host
  obtain ⟨hrows, _, _⟩ := changes_kept (settledHost_keeps none)
  obtain ⟨_, hreset, hreject⟩ := changes_kept (settledHost_keeps (some "\x7b".toUTF8))
  refine ⟨?_, ?_, ?_, ?_⟩
  · have hrecord : recordAfter [plainly (.set "traversal.max_depth" "3"),
        plainly (.set "traversal.max_depth" "-1"), plainly (.set "output.format" "json")] =
        { maxDepth := 3, format := .json } := by decide +kernel
    rw [← hrecord]
    exact (hrows rfl _ (by simp [hshown])).1
  · exact ((hrows rfl [plainly .reset] (by simp [hshown])).2.2 _ (hshown _ _)).1
  · exact (hreset (plainly .reset) rfl (Call.opens_of_rejection brokenHost_rejects)).2
  · have hplain : (consoleOf brokenHost { noColor := true }).isPlain = true := rfl
    exact (hreject (plainly (.set "output.format" "json")) "output.format" "json" brokenFile rfl
      (by decide) brokenHost_rejects ⟨_, Output.Console.render_of_isPlain hplain _⟩).1

/-- A field that is not known is wrong usage even where the file is wrong. -/
theorem unknown_key_before_file : brokenHost.globalSettings.2 = .error (.setting brokenFile) ∧
    ((plainly (.set "colour" "blue")).outcome brokenHost).exitCode ≠ ExitCode.genericFailure := by
  refine ⟨brokenHost_rejects, ?_⟩
  have hopens : (plainly (.set "colour" "blue")).Opens brokenHost :=
    Call.opens_of_rejection brokenHost_rejects
  obtain ⟨next, format, houtcome, _⟩ := outcome_eq (settledHost_keepsAt _) hopens
  obtain ⟨text, hshown⟩ : (plainly (.set "colour" "blue")).Shown brokenHost :=
    Call.shown_of_noColor rfl brokenHost
  have hlookup : Settings.setters.lookup "colour" = none := by rfl
  have hplan := refused_of_unknown next hlookup hshown
  have hcode : ((plainly (.set "colour" "blue")).outcome brokenHost).exitCode =
      ExitCode.invalidUsage := by
    have hrefused := houtcome.trans hplan
    rw [brokenHost, hrefused]
  rw [hcode]
  decide

end CsdlRoutes.Command
