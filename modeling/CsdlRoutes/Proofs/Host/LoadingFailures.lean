import CsdlRoutes.Host.SchemaSource
import CsdlRoutes.Proofs.Schema.ExtractedModel
import CsdlRoutes.Proofs.Schema.Misreadings

/-!
# How loading fails

Loading a model is meant to fail for reasons that concern the document alone. Some things that can go
wrong are overlooked: the bytes of a file that are no text, integers of too many digits, collections
in too many others, values that a YAML text cannot denote, and values in the document that are not
what they are read as. What is overlooked can be told from the source, and there is nothing else,
whatever the readers make of a text.

* `Host.Delivers` and `Host.Undelivered`: what comes of a source, a text or an accident.
* `Schema.Document.Unread`: the accidents that reading a text comes to.
* `Schema.Notice.IsTooDeep`: the notices that cannot be put into words.
* `Host.Overlooks`: all accidents that a source has in store.
* `Host.loadModel_refuses_or_overlooks`: loading refuses the document, or comes to an accident that
  is overlooked; and where there is one, no model is loaded.
-/

namespace CsdlRoutes

/-! ## Reading a text -/

namespace Schema.Document

/-- The accident that a reason for not reading a JSON text is, if it is one. -/
def jsonAccident? : Json.Cause → Option Accident
  | .longInteger digits => some (.longInteger digits)
  | .tooDeep => some .tooDeep
  | _ => none

/-- The accident that a reason for not reading a YAML text is, if it is one. -/
def yamlAccident? : Yaml.Fault → Option Accident
  | .unreadable what => some (.unreadable what)
  | .tooDeep => some .tooDeep
  | _ => none

/-- A text is read as YAML: this is known, or nothing is known and the text is refused as JSON. -/
def ComesToYaml (readers : Readers) (hint : Hint) (text : String) : Prop :=
  hint = .yaml ∨ hint = .unknown ∧
    ∃ fault, readers.json text = .error fault ∧ jsonAccident? fault.cause = none

/-- The accidents that reading a text comes to. -/
inductive Unread (readers : Readers) (hint : Hint) (text : String) : Accident → Prop
  | json {fault : Json.Fault} {a : Accident} (hhint : hint ≠ .yaml)
      (hread : readers.json text = .error fault) (ha : jsonAccident? fault.cause = some a) :
      Unread readers hint text a
  | yaml {fault : Yaml.Fault} {a : Accident} (hcomes : ComesToYaml readers hint text)
      (hread : readers.yaml text = .error fault) (ha : yamlAccident? fault = some a) :
      Unread readers hint text a

variable {readers : Readers} {hint : Hint} {text : String}

theorem readYaml_of_error {fault : Yaml.Fault} (json : Option Json.Fault)
    (hread : readers.yaml text = .error fault) :
    readYaml readers json text = match yamlAccident? fault with
      | some a => .error (.accident a)
      | none => .error (.document (.malformed json fault)) := by
  unfold readYaml
  rw [hread]
  cases fault <;> rfl

theorem read_of_json_error {fault : Json.Fault} (hhint : hint ≠ .yaml)
    (hread : readers.json text = .error fault) :
    read readers hint text = match jsonAccident? fault.cause with
      | some a => .error (.accident a)
      | none =>
        if hint = .json then .error (.document (.malformedJson fault))
        else readYaml readers (some fault) text := by
  obtain ⟨cause, position⟩ := fault
  unfold read
  rw [if_neg hhint, hread]
  cases cause <;> rfl

theorem read_of_comesToYaml (hcomes : ComesToYaml readers hint text) :
    ∃ json, read readers hint text = readYaml readers json text := by
  obtain rfl | ⟨rfl, fault, hread, hnone⟩ := hcomes
  · exact ⟨none, rfl⟩
  · refine ⟨some fault, ?_⟩
    rw [read_of_json_error (by decide) hread, hnone]
    rfl

theorem read_of_unread {a : Accident} (h : Unread readers hint text a) :
    read readers hint text = .error (.accident a) := by
  cases h with
  | json hhint hread ha => rw [read_of_json_error hhint hread, ha]
  | yaml hcomes hread ha =>
    obtain ⟨json, hread'⟩ := read_of_comesToYaml hcomes
    rw [hread', readYaml_of_error json hread, ha]

theorem readYaml_failsOnly (hcomes : ComesToYaml readers hint text) (json : Option Json.Fault) :
    FailsOnly (Failure.IsRefusalOr (Unread readers hint text)) (readYaml readers json text) := by
  cases hread : readers.yaml text with
  | ok v =>
    unfold readYaml ofYaml
    rw [hread]
    dsimp only
    split
    · exact .ok ⟨_, rfl⟩
    · exact .error (.document _)
    · exact .error (.document _)
  | error fault =>
    rw [readYaml_of_error json hread]
    cases ha : yamlAccident? fault with
    | some a => exact .error (.accident (.yaml hcomes hread ha))
    | none => exact .error (.document _)

/-- Reading a text refuses it, or comes to one of the accidents of the text. -/
theorem read_failsOnly (readers : Readers) (hint : Hint) (text : String) :
    FailsOnly (Failure.IsRefusalOr (Unread readers hint text)) (read readers hint text) := by
  by_cases hhint : hint = .yaml
  · have hcomes : ComesToYaml readers hint text := Or.inl hhint
    obtain ⟨json, hread⟩ := read_of_comesToYaml hcomes
    rw [hread]
    exact readYaml_failsOnly hcomes json
  · cases hread : readers.json text with
    | ok v =>
      unfold read ofJson
      rw [if_neg hhint, hread]
      dsimp only
      split
      · exact .ok ⟨_, rfl⟩
      · exact .error (.document _)
    | error fault =>
      rw [read_of_json_error hhint hread]
      cases ha : jsonAccident? fault.cause with
      | some a => exact .error (.accident (.json hhint hread ha))
      | none =>
        dsimp only
        split
        · exact .error (.document _)
        · rename_i hnojson
          refine readYaml_failsOnly (Or.inr ⟨?_, fault, hread, ha⟩) _
          cases hint with
          | json => exact absurd rfl hnojson
          | yaml => exact absurd rfl hhint
          | unknown => rfl

end Schema.Document

/-! ## Loading a document -/

namespace Host

open Schema (Document Hint)

/-- The text that a source delivers, with what is known about its encoding. -/
inductive Delivers (host : Host) (feed : Feed) (source : String) : Hint → String → Prop
  | input (hsource : source = "-") (hblank : Text.allBlank feed.input = false) :
      Delivers host feed source .unknown feed.input
  | answer {status : Int} {contentType : String} {body : ByteArray} {text : String}
      (hurl : isUrl source = true) (husable : Url.isUsable source = true)
      (hanswer : feed.answer = .response status contentType body)
      (hstatus : 200 ≤ status ∧ status < 300) (htext : textOfAnswer contentType body = .ok text) :
      Delivers host feed source (hintOfContentType contentType) text
  | file {bytes : ByteArray} {raw : String} (hsource : source ≠ "-") (hurl : isUrl source = false)
      (hfile : host.file? (Path.read source) = .ok (some bytes)) (hraw : Text.decode bytes = .ok raw)
      (hblank : Text.allBlank (String.ofList (Text.unifyNewlines raw.toList)) = false) :
      Delivers host feed source (hintOfSuffix (Path.read source).suffix)
        (String.ofList (Text.unifyNewlines raw.toList))

/-- The accidents for which a source delivers no text. -/
inductive Undelivered (host : Host) (feed : Feed) (source : String) : Accident → Prop
  | address (hurl : isUrl source = true) (husable : Url.isUsable source = false) :
      Undelivered host feed source (.unusableUrl source)
  | charset {status : Int} {contentType : String} {body : ByteArray} {fault : Text.CharsetFault}
      (hurl : isUrl source = true) (husable : Url.isUsable source = true)
      (hanswer : feed.answer = .response status contentType body)
      (hstatus : 200 ≤ status ∧ status < 300) (hbody : body.isEmpty = false)
      (hcharset : ContentType.charset contentType body.toList = .error fault) :
      Undelivered host feed source (.charset fault)
  | storage {fault : StorageFault} (hsource : source ≠ "-") (hurl : isUrl source = false)
      (hfile : host.disk.file? host.workingDirectory (Path.read source) = .error fault) :
      Undelivered host feed source (.storage fault)
  | encoding {bytes : ByteArray} {fault : Text.Utf8Fault} (hsource : source ≠ "-")
      (hurl : isUrl source = false) (hfile : host.file? (Path.read source) = .ok (some bytes))
      (hbytes : Text.decode bytes = .error fault) : Undelivered host feed source (.encoding fault)

variable {host : Host} {feed : Feed} {source : String}

theorem ne_of_isUrl (hurl : isUrl source = true) : source ≠ "-" := by
  rintro rfl
  revert hurl
  decide

theorem loadDocument_of_isUrl (hurl : isUrl source = true) :
    host.loadDocument feed source =
      if Url.isUsable source then documentOfAnswer host.equipment.readers source feed.answer
      else .error (.accident (.unusableUrl source)) := by
  have hsource : (source == "-") = false := beq_eq_false_iff_ne.mpr (ne_of_isUrl hurl)
  rw [loadDocument, hsource, hurl, if_neg Bool.false_ne_true, if_pos rfl]

theorem loadDocument_of_path (hsource : source ≠ "-") (hurl : isUrl source = false) :
    host.loadDocument feed source =
      match host.file? (Path.read source) with
      | .error failure => .error failure
      | .ok (some bytes) => documentOfBytes host.equipment.readers source bytes
      | .ok none => .error (.document (.fileNotFound source)) := by
  have hsource : (source == "-") = false := beq_eq_false_iff_ne.mpr hsource
  rw [loadDocument, hsource, hurl]
  cases host.file? (Path.read source) with
  | error failure => rfl
  | ok bytes? => cases bytes? <;> rfl

/-- A text that is delivered is read. -/
theorem loadDocument_of_delivers {hint : Hint} {text : String}
    (h : host.Delivers feed source hint text) :
    host.loadDocument feed source = Document.read host.equipment.readers hint text := by
  cases h with
  | input hsource hblank =>
    rw [loadDocument, hsource, documentOfInput, hblank]
    simp only [BEq.rfl, if_true, Bool.false_eq_true, if_false]
  | answer hurl husable hanswer hstatus htext =>
    rw [loadDocument_of_isUrl hurl, if_pos husable, hanswer, documentOfAnswer, if_pos hstatus, htext]
    dsimp only [Except.bind]
  | file hsource hurl hfile hraw hblank =>
    rw [loadDocument_of_path hsource hurl, hfile]
    dsimp only
    rw [documentOfBytes, hraw]
    dsimp only
    rw [hblank, if_neg Bool.false_ne_true]

theorem loadDocument_of_undelivered {a : Accident} (h : host.Undelivered feed source a) :
    host.loadDocument feed source = .error (.accident a) := by
  cases h with
  | address hurl husable =>
    rw [loadDocument_of_isUrl hurl, husable]
    rfl
  | charset hurl husable hanswer hstatus hbody hcharset =>
    rw [loadDocument_of_isUrl hurl, if_pos husable, hanswer, documentOfAnswer, if_pos hstatus,
      textOfAnswer, hbody, if_neg Bool.false_ne_true, hcharset]
    dsimp only [Except.bind]
  | storage hsource hurl hfile =>
    rw [loadDocument_of_path hsource hurl, file?, hfile]
    rfl
  | encoding hsource hurl hfile hbytes =>
    rw [loadDocument_of_path hsource hurl, hfile]
    dsimp only
    rw [documentOfBytes, hbytes]

theorem failsOnly_of_undelivered {a : Accident} (h : host.Undelivered feed source a) :
    FailsOnly (Failure.IsRefusalOr (host.Undelivered feed source)) (host.loadDocument feed source) := by
  rw [loadDocument_of_undelivered h]
  exact .error (.accident h)

theorem textOfAnswer_eq_error {contentType : String} {body : ByteArray} {failure : Failure}
    (h : textOfAnswer contentType body = .error failure) :
    ∃ fault, body.isEmpty = false ∧ ContentType.charset contentType body.toList = .error fault := by
  unfold textOfAnswer at h
  split at h
  · cases h
  · rename_i hbody
    split at h
    · cases h
    · rename_i fault hcharset
      exact ⟨fault, Bool.eq_false_iff.mpr hbody, hcharset⟩

theorem answer_cases (hurl : isUrl source = true) (husable : Url.isUsable source = true) :
    (∃ hint text, host.Delivers feed source hint text) ∨
      FailsOnly (Failure.IsRefusalOr (host.Undelivered feed source))
        (host.loadDocument feed source) := by
  cases hanswer : feed.answer with
  | noResponse reason =>
    refine Or.inr ?_
    rw [loadDocument_of_isUrl hurl, if_pos husable, hanswer]
    exact .error (.document _)
  | response status contentType body =>
    by_cases hstatus : 200 ≤ status ∧ status < 300
    · cases htext : textOfAnswer contentType body with
      | ok text => exact Or.inl ⟨_, text, .answer hurl husable hanswer hstatus htext⟩
      | error failure =>
        obtain ⟨fault, hbody, hcharset⟩ := textOfAnswer_eq_error htext
        exact Or.inr (failsOnly_of_undelivered
          (.charset hurl husable hanswer hstatus hbody hcharset))
    · refine Or.inr ?_
      rw [loadDocument_of_isUrl hurl, if_pos husable, hanswer, documentOfAnswer, if_neg hstatus]
      exact .error (.document _)

theorem file_cases (hsource : source ≠ "-") (hurl : isUrl source = false) :
    (∃ hint text, host.Delivers feed source hint text) ∨
      FailsOnly (Failure.IsRefusalOr (host.Undelivered feed source))
        (host.loadDocument feed source) := by
  cases hfile : host.disk.file? host.workingDirectory (Path.read source) with
  | error fault => exact Or.inr (failsOnly_of_undelivered (.storage hsource hurl hfile))
  | ok bytes? =>
    have hfile : host.file? (Path.read source) = .ok bytes? := by
      rw [file?, hfile]
      rfl
    cases bytes? with
    | none =>
      refine Or.inr ?_
      rw [loadDocument_of_path hsource hurl, hfile]
      exact .error (.document _)
    | some bytes =>
      cases hraw : Text.decode bytes with
      | error fault => exact Or.inr (failsOnly_of_undelivered (.encoding hsource hurl hfile hraw))
      | ok raw =>
        cases hblank : Text.allBlank (String.ofList (Text.unifyNewlines raw.toList)) with
        | false => exact Or.inl ⟨_, _, .file hsource hurl hfile hraw hblank⟩
        | true =>
          refine Or.inr ?_
          rw [loadDocument_of_path hsource hurl, hfile]
          dsimp only
          rw [documentOfBytes, hraw]
          dsimp only
          rw [hblank]
          exact .error (.document _)

/-- What comes of a source. -/
theorem loadDocument_cases (host : Host) (feed : Feed) (source : String) :
    (∃ hint text, host.Delivers feed source hint text) ∨
      FailsOnly (Failure.IsRefusalOr (host.Undelivered feed source))
        (host.loadDocument feed source) := by
  by_cases hsource : source = "-"
  · cases hblank : Text.allBlank feed.input with
    | false => exact Or.inl ⟨_, _, .input hsource hblank⟩
    | true =>
      refine Or.inr ?_
      rw [hsource, loadDocument, documentOfInput, hblank]
      exact .error (.document _)
  · cases hurl : isUrl source with
    | true =>
      cases husable : Url.isUsable source with
      | false =>
        exact Or.inr (failsOnly_of_undelivered (.address hurl husable))
      | true => exact answer_cases hurl husable
    | false => exact file_cases hsource hurl

end Host

/-! ## Putting notices into words -/

namespace Schema

/-- The value that a notice quotes, if it quotes one. -/
def Notice.quoted? : Notice → Option Value
  | .otherKind _ kind | .otherMember _ _ kind => some kind
  | _ => none

/-- A notice cannot be put into words: it quotes a value whose collections stand in too many others.
-/
def Notice.IsTooDeep (notice : Notice) : Prop :=
  ∃ v, notice.quoted? = some v ∧ v.hindrance? quotedLevels = some .tooDeep

theorem quotation_cases (v : Value) :
    v.hindrance? quotedLevels ≠ some .tooDeep ∧ quotation v = .ok v.quoted ∨
      v.hindrance? quotedLevels = some .tooDeep ∧ quotation v = .error (.accident .tooDeep) := by
  unfold quotation
  rcases v.hindrance? quotedLevels with _ | _ | _
  · exact Or.inl ⟨by decide, rfl⟩
  · exact Or.inl ⟨by decide, rfl⟩
  · exact Or.inr ⟨rfl, rfl⟩

/-- A notice is put into words, unless it quotes a value that is too deep. -/
theorem Notice.words_cases (notice : Notice) :
    ¬ notice.IsTooDeep ∧ (∃ s, notice.words = .ok s) ∨
      notice.IsTooDeep ∧ notice.words = .error (.accident .tooDeep) := by
  by_cases hquoted : ∃ v, notice.quoted? = some v
  · obtain ⟨v, hv⟩ := hquoted
    have hwords : ∃ f : String → String,
        notice.words = quotation v >>= fun text => .ok (f text) := by
      cases notice with
      | otherKind name kind =>
        cases hv
        exact ⟨_, rfl⟩
      | otherMember owner name kind =>
        cases hv
        exact ⟨_, rfl⟩
      | _ => cases hv
    obtain ⟨f, hwords⟩ := hwords
    rw [hwords]
    obtain ⟨hfits, hquotation⟩ | ⟨hdeep, hquotation⟩ := quotation_cases v
    · refine Or.inl ⟨?_, _, by rw [hquotation, ok_bind]⟩
      rintro ⟨w, hw, hdeep⟩
      rw [hv] at hw
      cases hw
      exact hfits hdeep
    · exact Or.inr ⟨⟨v, hv, hdeep⟩, by rw [hquotation]; rfl⟩
  · refine Or.inl ⟨fun ⟨v, hv, _⟩ => hquoted ⟨v, hv⟩, ?_⟩
    cases notice with
    | otherKind name kind => exact absurd ⟨kind, rfl⟩ hquoted
    | otherMember owner name kind => exact absurd ⟨kind, rfl⟩ hquoted
    | _ => exact ⟨_, rfl⟩

end Schema

/-! ## Loading a model -/

namespace Host

open Schema (Document)

variable {host : Host} {feed : Feed} {source : String} {isVerbose : Bool}

/-- All accidents that a source has in store. Some of them come up only where notices are told. -/
inductive Overlooks (host : Host) (feed : Feed) (source : String) (isVerbose : Bool) : Accident → Prop
  | undelivered {a : Accident} (h : host.Undelivered feed source a) :
      Overlooks host feed source isVerbose a
  | unread {hint : Schema.Hint} {text : String} {a : Accident}
      (hdelivers : host.Delivers feed source hint text)
      (h : Document.Unread host.equipment.readers hint text a) :
      Overlooks host feed source isVerbose a
  | version {d : Document} {v : Value} {hindrance : Hindrance}
      (hload : host.loadDocument feed source = .ok d) (hversion : Keyed.get? "$Version" d = some v)
      (h : v.hindrance? Schema.shownLevels = some hindrance) :
      Overlooks host feed source isVerbose (Schema.accidentOf hindrance)
  | misread {d : Document} {a : Accident} (hload : host.loadDocument feed source = .ok d)
      (h : a ∈ Schema.misreadings d) : Overlooks host feed source isVerbose a
  | unworded {notice : Schema.Notice} (hverbose : isVerbose = true)
      (hnotice : notice ∈ (host.readModel feed source).1) (h : notice.IsTooDeep) :
      Overlooks host feed source isVerbose .tooDeep

theorem version_eq_ok {d : Document} {v : Value} (hversion : Keyed.get? "$Version" d = some v)
    {version : String} (h : d.version = .ok version) : v.hindrance? Schema.shownLevels = none := by
  unfold Document.version at h
  rw [hversion] at h
  split at h
  · cases h
  · split at h
    · cases ‹some v = none›
    · cases ‹some v = _›
      rfl
    · cases ‹some v = _›
      obtain ⟨s, hs, _⟩ := bind_eq_ok.mp h
      unfold Schema.shown at hs
      split at hs
      · assumption
      · cases hs

theorem version_failsOnly (d : Document) :
    FailsOnly (Failure.IsRefusalOr fun a => ∃ v hindrance, Keyed.get? "$Version" d = some v ∧
      v.hindrance? Schema.shownLevels = some hindrance ∧ a = Schema.accidentOf hindrance)
      d.version := by
  unfold Document.version
  split
  · exact .error (.document _)
  · split
    · exact .error (.document _)
    · exact .error (.document _)
    · rename_i v _ hversion
      unfold Schema.shown
      split
      · rw [ok_bind]
        split
        · exact .ok ⟨_, rfl⟩
        · exact .error (.document _)
      · rename_i hindrance hhidden
        exact .error (.accident ⟨v, hindrance, hversion, hhidden, rfl⟩)

theorem loadModel_eq (host : Host) (feed : Feed) (source : String) :
    host.loadModel feed source =
      host.loadDocument feed source >>= fun d => d.version >>= fun version =>
        Schema.extract version d := by
  change (host.readModel feed source).2 = _
  unfold readModel
  cases host.loadDocument feed source with
  | error failure => rfl
  | ok d =>
    rw [ok_bind]
    dsimp only
    cases d.version <;> rfl

/-- Where notices are told, they are put into words before the model is there. -/
theorem loadModel_verbose (host : Host) (feed : Feed) (source : String) :
    host.loadModel feed source true =
      ((host.readModel feed source).1.forM fun notice => discard notice.words) >>= fun _ =>
        host.loadModel feed source := rfl

theorem loadDocument_failsOnly (host : Host) (feed : Feed) (source : String) (isVerbose : Bool) :
    FailsOnly (Failure.IsRefusalOr (host.Overlooks feed source isVerbose))
      (host.loadDocument feed source) := by
  obtain ⟨hint, text, hdelivers⟩ | h := loadDocument_cases host feed source
  · rw [loadDocument_of_delivers hdelivers]
    exact (Document.read_failsOnly _ hint text).mono fun _ h => h.mono fun _ => .unread hdelivers
  · exact h.mono fun _ h => h.mono fun _ => .undelivered

theorem loadModel_failsOnly (host : Host) (feed : Feed) (source : String) (isVerbose : Bool) :
    FailsOnly (Failure.IsRefusalOr (host.Overlooks feed source isVerbose))
      (host.loadModel feed source) := by
  rw [loadModel_eq]
  refine (loadDocument_failsOnly host feed source isVerbose).bind fun d hload =>
    FailsOnly.bind ?_ ?_
  · refine (version_failsOnly d).mono fun failure h => h.mono ?_
    rintro _ ⟨v, hindrance, hversion, hhidden, rfl⟩
    exact .version hload hversion hhidden
  · intro version _
    refine (Schema.extract_settles version d).failsOnly.mono fun failure h => h.mono ?_
    intro a ha
    exact .misread hload ha

theorem words_failsOnly {notice : Schema.Notice}
    (hnotice : notice ∈ (host.readModel feed source).1) :
    FailsOnly (Failure.IsRefusalOr (host.Overlooks feed source true))
      (discard notice.words : Except Failure PUnit) := by
  obtain ⟨_, s, hwords⟩ | ⟨hdeep, hwords⟩ := notice.words_cases
  · rw [hwords]
    exact .ok ⟨(), rfl⟩
  · rw [hwords]
    exact .error (.accident (.unworded rfl hnotice hdeep))

/-- No model is loaded where something is overlooked. -/
theorem loadModel_ne_ok {a : Accident} (h : host.Overlooks feed source isVerbose a)
    (m : Schema.Model) : host.loadModel feed source isVerbose ≠ .ok m := by
  intro hm
  have hquiet : host.loadModel feed source = .ok m := by
    cases isVerbose with
    | false => exact hm
    | true =>
      rw [loadModel_verbose] at hm
      obtain ⟨_, _, hm⟩ := bind_eq_ok.mp hm
      exact hm
  rw [loadModel_eq] at hquiet
  obtain ⟨d, hload, hquiet⟩ := bind_eq_ok.mp hquiet
  obtain ⟨version, hversion, hextract⟩ := bind_eq_ok.mp hquiet
  cases h with
  | undelivered h =>
    rw [loadDocument_of_undelivered h] at hload
    cases hload
  | unread hdelivers h =>
    rw [loadDocument_of_delivers hdelivers, Document.read_of_unread h] at hload
    cases hload
  | version hload' hfound hhidden =>
    cases hload.symm.trans hload'
    rw [version_eq_ok hfound hversion] at hhidden
    cases hhidden
  | misread hload' h =>
    cases hload.symm.trans hload'
    rw [(Schema.extract_settles version d).clear m hextract] at h
    cases h
  | @unworded notice hverbose hnotice hdeep =>
    rw [hverbose, loadModel_verbose] at hm
    obtain ⟨_, hworded, _⟩ := bind_eq_ok.mp hm
    have hwords := Schema.forM_eq_ok_iff.mp hworded notice hnotice
    obtain ⟨hfits, _⟩ | ⟨_, hfails⟩ := notice.words_cases
    · exact hfits hdeep
    · rw [hfails] at hwords
      cases hwords

/-- **Loading a model refuses the document or overlooks something.** -/
theorem loadModel_refuses_or_overlooks (host : Host) (feed : Feed) (source : String)
    (isVerbose : Bool) :
    (∀ model, host.loadModel feed source isVerbose = .ok model →
        ∀ a, ¬ host.Overlooks feed source isVerbose a) ∧
      ∀ failure, host.loadModel feed source isVerbose = .error failure →
        failure.kind? = some .schemaParse ∨
          ∃ a, host.Overlooks feed source isVerbose a ∧ failure = .accident a := by
  refine ⟨fun model hmodel a ha => loadModel_ne_ok ha model hmodel, ?_⟩
  have hfails : FailsOnly (Failure.IsRefusalOr (host.Overlooks feed source isVerbose))
      (host.loadModel feed source isVerbose) := by
    cases isVerbose with
    | false => exact loadModel_failsOnly host feed source false
    | true =>
      rw [loadModel_verbose]
      exact .bind (.forM fun notice hnotice => words_failsOnly hnotice) fun _ _ =>
        loadModel_failsOnly host feed source true
  intro failure hfailure
  refine (hfails.2 failure hfailure).imp_left ?_
  rintro ⟨why, rfl⟩
  rfl

/-- A host with one file, whose only byte starts no character. -/
def undecodableHost : Host :=
  ⟨⟨"/", []⟩, [], "Linux", "/root", "20240101-000000", [("/s.json", .file ⟨#[0xff]⟩)],
    .standard⟩

/-- Nothing on the standard input, and no answer of a server. -/
def silence : Feed := ⟨"", .noResponse "unreachable"⟩

theorem loadModel_undecodable : undecodableHost.loadModel silence "s.json" =
    .error (.accident (.encoding ⟨0, 0xff, 1, .invalidStart⟩)) := by
  have h : undecodableHost.Undelivered silence "s.json" (.encoding ⟨0, 0xff, 1, .invalidStart⟩) :=
    .encoding (by decide) (by decide) rfl (by decide +kernel)
  rw [loadModel_eq, loadDocument_of_undelivered h]
  rfl

/-- A file that is no text is not refused as a schema document. -/
theorem undecodable_not_refused : ∃ failure,
    undecodableHost.loadModel silence "s.json" = .error failure ∧
      failure.kind? ≠ some .schemaParse :=
  ⟨_, loadModel_undecodable, by decide⟩

theorem undecodable_overlooked :
    (∀ model, undecodableHost.loadModel silence "s.json" ≠ .ok model) ∧
      ∃ a, undecodableHost.Overlooks silence "s.json" false a := by
  obtain ⟨_, hfails⟩ := loadModel_refuses_or_overlooks undecodableHost silence "s.json" false
  rw [loadModel_undecodable]
  refine ⟨fun _ h => (nomatch h), ?_⟩
  obtain h | ⟨a, ha, _⟩ := hfails _ loadModel_undecodable
  · cases h
  · exact ⟨a, ha⟩

end Host

end CsdlRoutes
