import Mathlib.Order.WellFounded
import CsdlRoutes.Proofs.Results
import CsdlRoutes.Settings.Precedence

/-!
# The source that decides

A setting can be given on the command line, by a variable of the environment, in the settings file of
a project and in that of the user. The greatest number of segments and the schema are read from these
four in the same manner; what differs is which values count as set, and how a value is read.

* `Reading`: how a setting is read from each of its sources, with `depthReading` and `schemaReading`.
* `Reading.Decides`: the strongest source that is set. There is always one.
* `depthAboveUser?_eq`, `schemaAboveUser?_eq`: both settings are found in this manner.
* `Reading.settle_eq_ok_iff`: what counts is what is held in the source that decides.
* `Reading.settle_congr`: weaker sources make no difference.
* `depth_heldIn_iff`, `schema_heldIn_iff`: the values that the sources hold.
-/

namespace CsdlRoutes.Settings

/-! ## Sources -/

/-- Where a setting may be given. -/
inductive Source where
  | line
  | environment
  | project
  | user
  deriving DecidableEq

/-- The place of a source among the others, from the strongest to the weakest. -/
def Source.rank : Source → Nat
  | .line => 0
  | .environment => 1
  | .project => 2
  | .user => 3

/-- What is found below the command line: the values of variables, and the bytes of the settings files
of the project and of the user, where they are there. -/
structure Findings where
  environment : String → Option String
  project : Option ByteArray
  user : Option ByteArray

/-- No collection of a settings file stands in more others than are read. -/
def Findings.Shallow (f : Findings) : Prop :=
  ∀ bytes, f.project = some bytes ∨ f.user = some bytes →
    ∀ place, readBytes bytes ≠ .error (.json ⟨.tooDeep, place⟩)

/-- The record of the user in a file. Without the file it is that of the defaults. -/
def IsRecord (file? : Option ByteArray) (s : Settings) : Prop :=
  file? = none ∧ s = defaults ∨ ∃ bytes, file? = some bytes ∧ ofBytes bytes = .ok s

/-! ## Readings -/

/-- How a setting is read from each of its sources. -/
structure Reading (α : Type) where
  /-- What the command line gives, if it gives something. -/
  given? : Option (Except Failure α)
  variableName : String
  ofText : String → Except Failure α
  /-- The name of the member of the settings of a project. -/
  key : String
  /-- Whether such a member counts as set. -/
  counts : Value → Bool
  ofMember : Value → Except Failure α
  ofUser : Settings → Except Failure α

/-- How the greatest number of segments is read. -/
def depthReading (given : Option Int) : Reading Nat where
  given? := given.map (checkDepth · "--max-depth")
  variableName := depthVariable
  ofText text :=
    match Number.readWhole? text with
    | some depth => checkDepth depth depthVariable
    | none => .error (.setting (.variableNotWhole text))
  key := "max_depth"
  counts v := v != .null
  ofMember
    | .scalar (.int n) => checkDepth n projectFileName
    | _ => .error (.setting .projectDepthNotWhole)
  ofUser := depthOfUser

/-- How the schema is read. -/
def schemaReading (given : Option String) : Reading String where
  given? := (setText? given).map .ok
  variableName := schemaVariable
  ofText := .ok
  key := "default_schema"
  counts := Value.isTruthy
  ofMember v := .ok v.display
  ofUser := schemaOfUser

namespace Reading

variable {α : Type} (r : Reading α) (f : Findings)

/-- Whether a source is set. A settings file of a project that is there and is no object is set too,
for it is wrong. The settings of the user always are. -/
def Sets : Source → Prop
  | .line => r.given?.isSome
  | .environment => ∃ text, f.environment r.variableName = some text ∧ text ≠ ""
  | .project => ∃ bytes, f.project = some bytes ∧
      ∀ members, readBytes bytes = .ok (.object members) →
        ∃ v, Keyed.get? r.key members = some v ∧ r.counts v
  | .user => True

/-- A source decides: it is set and no stronger one is. -/
def Decides (source : Source) : Prop :=
  r.Sets f source ∧ ∀ stronger : Source, stronger.rank < source.rank → ¬ r.Sets f stronger

/-- A value is held in a source. -/
def HeldIn : Source → α → Prop
  | .line, a => r.given? = some (.ok a)
  | .environment, a => ∃ text, f.environment r.variableName = some text ∧ r.ofText text = .ok a
  | .project, a => ∃ bytes members v, f.project = some bytes ∧
      readBytes bytes = .ok (.object members) ∧ Keyed.get? r.key members = some v ∧
      r.ofMember v = .ok a
  | .user, a => ∃ s, IsRecord f.user s ∧ r.ofUser s = .ok a

/-- What is wrong with a value is told as a wrong setting. -/
structure Foreseen : Prop where
  given : ∀ failure, r.given? = some (.error failure) → ∃ why, failure = .setting why
  ofText : ∀ text failure, r.ofText text = .error failure → ∃ why, failure = .setting why
  ofMember : ∀ v failure, r.ofMember v = .error failure → ∃ why, failure = .setting why
  ofUser : ∀ s failure, r.ofUser s = .error failure → ∃ why, failure = .setting why

/-- There is a source that decides, for the settings of the user do if nothing else is set. -/
theorem exists_decides : ∃ source, r.Decides f source := by
  obtain ⟨source, hset, hstrongest⟩ :=
    (measure Source.rank).wf.has_min {source | r.Sets f source} ⟨.user, trivial⟩
  exact ⟨source, hset, fun stronger hlt hstronger => hstrongest stronger hstronger hlt⟩

theorem decides_unique {r : Reading α} {f : Findings} {source source' : Source}
    (h : r.Decides f source) (h' : r.Decides f source') : source = source' := by
  have hge : ¬ source'.rank < source.rank := fun hlt => h.2 source' hlt h'.1
  have hle : ¬ source.rank < source'.rank := fun hlt => h'.2 source hlt h.1
  cases source <;> cases source' <;> first | rfl | simp [Source.rank] at hge hle

/-! ## The setting that counts -/

/-- The member of the settings of a project that counts, if one does. -/
def member? (project : Option Members) : Option Value :=
  (project.bind (Keyed.get? r.key)).filter r.counts

/-- The setting in the settings of a project, if they hold one. -/
def ofProject (project : Option Members) : Except Failure (Option α) :=
  match r.member? project with
  | some v => (r.ofMember v).map some
  | none => .ok none

/-- The setting that is set above the settings of the user, if one is. -/
def above? (s : Sources) : Except Failure (Option α) :=
  match r.given? with
  | some result => result.map some
  | none =>
    match setText? (s.environment r.variableName) with
    | some text => (r.ofText text).map some
    | none => s.project.bind r.ofProject

/-- The setting that counts. -/
def settle (s : Sources) : Except Failure α := do
  match ← r.above? s with
  | some a => return a
  | none => r.ofUser (← s.user)

end Reading

theorem setText?_eq_some_iff {o : Option String} {text : String} :
    setText? o = some text ↔ o = some text ∧ text ≠ "" := by
  simp [setText?, Option.filter_eq_some_iff]

theorem projectDepth?_eq (given : Option Int) (project : Option Members) :
    projectDepth? project = (depthReading given).ofProject project := by
  unfold projectDepth? Reading.ofProject Reading.member?
  have hkey : (depthReading given).key = "max_depth" := rfl
  rw [hkey]
  cases project.bind (Keyed.get? "max_depth") with
  | none => rfl
  | some v =>
    cases v with
    | scalar s => cases s <;> rfl
    | list _ | object _ | set _ | pair _ _ | labelled _ _ => rfl

theorem depthAboveUser?_eq (s : Sources) (given : Option Int) :
    depthAboveUser? s given = (depthReading given).above? s := by
  unfold depthAboveUser? Reading.above?
  cases given with
  | some depth => rfl
  | none =>
    have hvariable : (depthReading none).variableName = depthVariable := rfl
    have hproject : projectDepth? = (depthReading none).ofProject := funext (projectDepth?_eq none)
    rw [hvariable, hproject]
    cases setText? (s.environment depthVariable) with
    | none => rfl
    | some text =>
      dsimp only [depthReading]
      cases Number.readWhole? text <;> rfl

theorem schemaAboveUser?_eq (s : Sources) (given : Option String) :
    schemaAboveUser? s given = (schemaReading given).above? s := by
  unfold schemaAboveUser? Reading.above?
  have hvariable : (schemaReading given).variableName = schemaVariable := rfl
  have hproject : s.project.map projectSchema? = s.project.bind (schemaReading given).ofProject := by
    cases s.project with
    | error failure => rfl
    | ok project =>
      unfold projectSchema? Reading.ofProject Reading.member?
      dsimp only [schemaReading, Except.map, Except.bind]
      cases (project.bind (Keyed.get? "default_schema")).filter Value.isTruthy <;> rfl
  rw [hvariable, hproject]
  dsimp only [schemaReading]
  cases setText? given with
  | some schema => rfl
  | none => cases setText? (s.environment schemaVariable) <;> rfl

/-! ## The files -/

section Files

variable {path : String} {file? : Option ByteArray} {failure : Failure}

theorem projectSettings_eq_none_iff : projectSettings path file? = .ok none ↔ file? = none := by
  unfold projectSettings
  cases file? with
  | none => simp
  | some bytes =>
    dsimp only
    split <;> simp

theorem projectSettings_eq_some_iff {members : Members} :
    projectSettings path file? = .ok (some members) ↔
      ∃ bytes, file? = some bytes ∧ readBytes bytes = .ok (.object members) := by
  unfold projectSettings
  cases file? with
  | none => simp
  | some bytes =>
    dsimp only
    split <;> simp_all

theorem ofFile_eq_ok_iff {s : Settings} : ofFile path file? = .ok s ↔ IsRecord file? s := by
  unfold ofFile IsRecord
  cases file? with
  | none => simp [eq_comm]
  | some bytes => cases hread : ofBytes bytes <;> simp [hread, Except.mapError]

/-- A settings file is refused as a wrong setting, or because its collections stand in too many
others. -/
def RefusedFile (file? : Option ByteArray) (failure : Failure) : Prop :=
  (∃ why, failure = .setting why) ∨ failure = .accident .tooDeep ∧
    ∃ bytes place, file? = some bytes ∧ readBytes bytes = .error (.json ⟨.tooDeep, place⟩)

theorem refusedFile_of_defect {bytes : ByteArray} {setting : FileDefect → SettingFailure}
    {why : FileDefect} (h : ∀ place, why = .json ⟨.tooDeep, place⟩ → readBytes bytes = .error why) :
    RefusedFile (some bytes) (why.failure setting) := by
  unfold FileDefect.failure
  split
  · rename_i place
    exact Or.inr ⟨rfl, bytes, place, rfl, h place rfl⟩
  · exact Or.inl ⟨_, rfl⟩

theorem projectSettings_eq_error (h : projectSettings path file? = .error failure) :
    RefusedFile file? failure := by
  unfold projectSettings at h
  cases file? with
  | none => cases h
  | some bytes =>
    dsimp only at h
    split at h
    · rename_i why hread
      cases h
      exact refusedFile_of_defect fun _ _ => hread
    · cases h
    · cases h
      exact Or.inl ⟨_, rfl⟩

theorem ofFile_eq_error (h : ofFile path file? = .error failure) : RefusedFile file? failure := by
  unfold ofFile at h
  cases file? with
  | none => cases h
  | some bytes =>
    dsimp only at h
    cases hrecord : ofBytes bytes with
    | ok s =>
      rw [hrecord] at h
      cases h
    | error why =>
      rw [hrecord] at h
      cases h
      refine refusedFile_of_defect fun place hdeep => ?_
      subst hdeep
      unfold ofBytes at hrecord
      cases hread : readBytes bytes with
      | error why =>
        rw [hread] at hrecord
        cases hrecord
        rfl
      | ok v =>
        rw [hread, ok_bind] at hrecord
        split at hrecord <;> cases hrecord

theorem RefusedFile.exists_setting (h : RefusedFile file? failure)
    (hshallow : ∀ bytes, file? = some bytes →
      ∀ place, readBytes bytes ≠ .error (.json ⟨.tooDeep, place⟩)) :
    ∃ why, failure = .setting why := by
  rcases h with hsetting | ⟨_, bytes, place, hbytes, hread⟩
  · exact hsetting
  · exact absurd hread (hshallow bytes hbytes place)

end Files

/-- The files that were found are those that are read, each at some path. -/
structure Sources.Shows (s : Sources) (f : Findings) : Prop where
  environment : s.environment = f.environment
  project : ∃ path, s.project = projectSettings path f.project
  user : ∃ path, s.user = ofFile path f.user

/-- Two rows of sources agree on one of them. -/
def Sources.AgreeOn (name : String) (s s' : Sources) : Source → Prop
  | .line => True
  | .environment => s'.environment name = s.environment name
  | .project => s'.project = s.project
  | .user => s'.user = s.user

namespace Reading

variable {α : Type} {r : Reading α} {f : Findings} {s s' : Sources} {source : Source} {a : α}
  {result : Except Failure α}

/-! ## What a source comes to -/

/-- What a source that is set comes to by itself. -/
inductive Comes (r : Reading α) (s : Sources) : Source → Except Failure α → Prop
  | line {result : Except Failure α} (h : r.given? = some result) : Comes r s .line result
  | environment {text : String} (h : setText? (s.environment r.variableName) = some text) :
      Comes r s .environment (r.ofText text)
  | wrongProject {failure : Failure} (h : s.project = .error failure) :
      Comes r s .project (.error failure)
  | project {members : Members} {v : Value} (h : s.project = .ok (some members))
      (hmember : r.member? (some members) = some v) : Comes r s .project (r.ofMember v)
  | user : Comes r s .user (s.user.bind r.ofUser)

/-- A source is reached: nothing is found in those before it. -/
structure Reaches (r : Reading α) (s : Sources) (source : Source) : Prop where
  given : 0 < source.rank → r.given? = none
  text : 1 < source.rank → setText? (s.environment r.variableName) = none
  project : 2 < source.rank → s.project.bind r.ofProject = .ok none

/-- A source that is reached and set decides. -/
theorem settle_of_comes (hreaches : r.Reaches s source) (h : r.Comes s source result) :
    r.settle s = result := by
  rw [settle, above?]
  cases h with
  | line h =>
    rw [h]
    cases result <;> rfl
  | environment h =>
    rw [hreaches.given (by decide)]
    dsimp only
    rw [h]
    dsimp only
    cases r.ofText _ <;> rfl
  | wrongProject h =>
    rw [hreaches.given (by decide)]
    dsimp only
    rw [hreaches.text (by decide), h]
    rfl
  | project h hmember =>
    rw [hreaches.given (by decide)]
    dsimp only
    rw [hreaches.text (by decide), h]
    dsimp only [Except.bind]
    rw [ofProject, hmember]
    dsimp only
    cases r.ofMember _ <;> rfl
  | user =>
    rw [hreaches.given (by decide)]
    dsimp only
    rw [hreaches.text (by decide), hreaches.project (by decide)]
    rfl

theorem Comes.congr (hagree : s.AgreeOn r.variableName s' source) (h : r.Comes s source result) :
    r.Comes s' source result := by
  cases h with
  | line h => exact .line h
  | environment h => exact .environment (hagree ▸ h)
  | wrongProject h => exact .wrongProject (hagree.trans h)
  | project h hmember => exact .project (hagree.trans h) hmember
  | user =>
    rw [← show s'.user = s.user from hagree]
    exact .user

theorem Reaches.congr
    (hagree : ∀ other : Source, other.rank ≤ source.rank → s.AgreeOn r.variableName s' other)
    (h : r.Reaches s source) : r.Reaches s' source := by
  refine ⟨h.given, fun hrank => ?_, fun hrank => ?_⟩
  · have henvironment : s'.environment r.variableName = s.environment r.variableName :=
      hagree .environment (Nat.le_of_lt hrank)
    rw [henvironment]
    exact h.text hrank
  · have hproject : s'.project = s.project := hagree .project (Nat.le_of_lt hrank)
    rw [hproject]
    exact h.project hrank

/-! ## What is found -/

section Shown

variable (hs : s.Shows f)

include hs

theorem sets_environment_iff :
    r.Sets f .environment ↔ ∃ text, setText? (s.environment r.variableName) = some text := by
  simp only [Sets, setText?_eq_some_iff, hs.environment]

theorem project_eq_some_iff {members : Members} : s.project = .ok (some members) ↔
    ∃ bytes, f.project = some bytes ∧ readBytes bytes = .ok (.object members) := by
  obtain ⟨path, hpath⟩ := hs.project
  rw [hpath, projectSettings_eq_some_iff]

theorem project_eq_none_iff : s.project = .ok none ↔ f.project = none := by
  obtain ⟨path, hpath⟩ := hs.project
  rw [hpath, projectSettings_eq_none_iff]

theorem sets_project_iff : r.Sets f .project ↔ (∃ failure, s.project = .error failure) ∨
    ∃ members v, s.project = .ok (some members) ∧ r.member? (some members) = some v := by
  constructor
  · rintro ⟨bytes, hbytes, hcounts⟩
    cases hproject : s.project with
    | error failure => exact Or.inl ⟨failure, rfl⟩
    | ok project =>
      cases project with
      | none =>
        rw [(project_eq_none_iff hs).mp hproject] at hbytes
        cases hbytes
      | some members =>
        obtain ⟨bytes', hbytes', hread⟩ := (project_eq_some_iff hs).mp hproject
        obtain rfl : bytes = bytes' := Option.some.inj (hbytes.symm.trans hbytes')
        obtain ⟨v, hv⟩ := hcounts members hread
        exact Or.inr ⟨members, v, rfl, Option.filter_eq_some_iff.mpr hv⟩
  · intro h
    -- Without the file the settings of the project would be right and hold nothing.
    have hthere : ∃ bytes, f.project = some bytes := by
      refine Option.ne_none_iff_exists'.mp fun hnone => ?_
      have hproject := (project_eq_none_iff hs).mpr hnone
      rw [hproject] at h
      rcases h with ⟨_, h⟩ | ⟨_, _, h, _⟩ <;> cases h
    obtain ⟨bytes, hbytes⟩ := hthere
    refine ⟨bytes, hbytes, fun members hread => ?_⟩
    have hsome := (project_eq_some_iff hs).mpr ⟨bytes, hbytes, hread⟩
    rw [hsome] at h
    rcases h with ⟨_, h⟩ | ⟨_, v, h, hv⟩
    · cases h
    · cases h
      exact ⟨v, Option.filter_eq_some_iff.mp hv⟩

theorem exists_comes (h : r.Sets f source) : ∃ result, r.Comes s source result := by
  cases source with
  | line =>
    obtain ⟨result, hresult⟩ := Option.isSome_iff_exists.mp h
    exact ⟨result, .line hresult⟩
  | environment =>
    obtain ⟨text, htext⟩ := (sets_environment_iff hs).mp h
    exact ⟨_, .environment htext⟩
  | project =>
    rcases (sets_project_iff hs).mp h with ⟨failure, hwrong⟩ | ⟨members, v, hsome, hv⟩
    · exact ⟨_, .wrongProject hwrong⟩
    · exact ⟨_, .project hsome hv⟩
  | user => exact ⟨_, .user⟩

theorem reaches_of_decides (h : r.Decides f source) : r.Reaches s source := by
  refine ⟨fun hrank => ?_, fun hrank => ?_, fun hrank => ?_⟩
  · exact Option.not_isSome_iff_eq_none.mp (h.2 .line hrank)
  · have hunset := mt (sets_environment_iff hs).mpr (h.2 .environment hrank)
    exact Option.eq_none_iff_forall_ne_some.mpr fun text htext => hunset ⟨text, htext⟩
  · have hunset := mt (sets_project_iff hs).mpr (h.2 .project hrank)
    obtain ⟨hright, hmember⟩ := not_or.mp hunset
    cases hproject : s.project with
    | error failure => exact absurd ⟨failure, hproject⟩ hright
    | ok project =>
      cases project with
      | none => rfl
      | some members =>
        have hnone : r.member? (some members) = none := Option.eq_none_iff_forall_ne_some.mpr
          fun v hv => hmember ⟨members, v, hproject, hv⟩
        dsimp only [Except.bind]
        rw [ofProject, hnone]

theorem heldIn_iff_of_comes (h : r.Comes s source result) :
    r.HeldIn f source a ↔ result = .ok a := by
  cases h with
  | line h => rw [HeldIn, h, Option.some_inj]
  | @environment text h =>
    rw [hs.environment, setText?_eq_some_iff] at h
    simp [HeldIn, h.1]
  | @wrongProject failure h =>
    refine ⟨fun ⟨bytes, members, v, hbytes, hread, _⟩ => ?_, fun h => by cases h⟩
    have hsome := (project_eq_some_iff hs).mpr ⟨bytes, hbytes, hread⟩
    rw [h] at hsome
    cases hsome
  | @project members v h hmember =>
    have hv := (Option.filter_eq_some_iff.mp hmember).1
    constructor
    · rintro ⟨bytes, members', v', hbytes, hread, hv', ha⟩
      have hsome := (project_eq_some_iff hs).mpr ⟨bytes, hbytes, hread⟩
      obtain rfl : members = members' := Option.some.inj (Except.ok.inj (h.symm.trans hsome))
      obtain rfl : v = v' := Option.some.inj (hv.symm.trans hv')
      exact ha
    · intro ha
      obtain ⟨bytes, hbytes, hread⟩ := (project_eq_some_iff hs).mp h
      exact ⟨bytes, members, v, hbytes, hread, hv, ha⟩
  | user =>
    obtain ⟨path, hpath⟩ := hs.user
    have hrecord (record : Settings) : IsRecord f.user record ↔ ofFile path f.user = .ok record :=
      ofFile_eq_ok_iff.symm
    simp only [HeldIn, hpath, hrecord]
    exact bind_eq_ok.symm

theorem exists_setting_of_comes (hr : r.Foreseen) (hshallow : f.Shallow)
    (h : r.Comes s source result) {failure : Failure} (hfailure : result = .error failure) :
    ∃ why, failure = .setting why := by
  cases h with
  | line h => exact hr.given failure (hfailure ▸ h)
  | environment => exact hr.ofText _ failure hfailure
  | wrongProject h =>
    cases hfailure
    obtain ⟨path, hpath⟩ := hs.project
    refine (projectSettings_eq_error (hpath.symm.trans h)).exists_setting fun bytes hbytes => ?_
    exact hshallow bytes (Or.inl hbytes)
  | project => exact hr.ofMember _ failure hfailure
  | user =>
    obtain ⟨path, hpath⟩ := hs.user
    rw [hpath] at hfailure
    cases hrecord : ofFile path f.user with
    | ok record =>
      rw [hrecord] at hfailure
      exact hr.ofUser record failure hfailure
    | error why =>
      rw [hrecord] at hfailure
      cases hfailure
      refine (ofFile_eq_error hrecord).exists_setting fun bytes hbytes => ?_
      exact hshallow bytes (Or.inr hbytes)

end Shown

/-! ## What counts -/

theorem settle_eq_ok_iff (hs : s.Shows f) (h : r.Decides f source) :
    r.settle s = .ok a ↔ r.HeldIn f source a := by
  obtain ⟨result, hcomes⟩ := exists_comes hs h.1
  rw [settle_of_comes (reaches_of_decides hs h) hcomes, heldIn_iff_of_comes hs hcomes]

theorem exists_setting_of_settle (hr : r.Foreseen) (hs : s.Shows f) (hshallow : f.Shallow)
    {failure : Failure} (h : r.settle s = .error failure) : ∃ why, failure = .setting why := by
  obtain ⟨source, hdecides⟩ := r.exists_decides f
  obtain ⟨result, hcomes⟩ := exists_comes hs hdecides.1
  rw [settle_of_comes (reaches_of_decides hs hdecides) hcomes] at h
  exact exists_setting_of_comes hs hr hshallow hcomes h

/-- Sources that agree up to the one that decides come to the same, whatever the others hold. -/
theorem settle_congr (hs : s.Shows f) (h : r.Decides f source)
    (hagree : ∀ other : Source, other.rank ≤ source.rank → s.AgreeOn r.variableName s' other) :
    r.settle s' = r.settle s := by
  obtain ⟨result, hcomes⟩ := exists_comes hs h.1
  have hreaches := reaches_of_decides hs h
  rw [settle_of_comes hreaches hcomes,
    settle_of_comes (hreaches.congr hagree) (hcomes.congr (hagree source (Nat.le_refl _)))]

end Reading

/-! ## The two settings -/

theorem checkDepth_eq_ok_iff {depth : Int} {place : String} {n : Nat} :
    checkDepth depth place = .ok n ↔ depth = n := by
  cases depth with
  | ofNat m =>
    rw [checkDepth, Except.ok.injEq]
    exact Int.natCast_inj.symm
  | negSucc m => simp [checkDepth]

theorem exists_setting_of_checkDepth {depth : Int} {place : String} {failure : Failure}
    (h : checkDepth depth place = .error failure) : ∃ why, failure = .setting why := by
  cases depth with
  | ofNat m => cases h
  | negSucc m => exact ⟨_, (Except.error.inj h).symm⟩

/-- A greatest number of segments is held in a source. -/
def DepthHeld (given : Option Int) (f : Findings) : Source → Nat → Prop
  | .line, n => given = some (n : Int)
  | .environment, n => ∃ text, f.environment depthVariable = some text ∧
      Number.readWhole? text = some (n : Int)
  | .project, n => ∃ bytes members, f.project = some bytes ∧
      readBytes bytes = .ok (.object members) ∧
      Keyed.get? "max_depth" members = some (.scalar (.int n))
  | .user, n => ∃ s, IsRecord f.user s ∧ s.maxDepth = n

/-- A schema is held in a source. -/
def SchemaHeld (given : Option String) (f : Findings) : Source → String → Prop
  | .line, schema => given = some schema ∧ schema ≠ ""
  | .environment, schema => f.environment schemaVariable = some schema
  | .project, schema => ∃ bytes members v, f.project = some bytes ∧
      readBytes bytes = .ok (.object members) ∧ Keyed.get? "default_schema" members = some v ∧
      v.display = schema
  | .user, schema => ∃ s, IsRecord f.user s ∧ s.defaultSchema = some schema ∧ schema ≠ ""

theorem depth_ofText_eq_ok_iff {given : Option Int} {text : String} {n : Nat} :
    (depthReading given).ofText text = .ok n ↔ Number.readWhole? text = some (n : Int) := by
  dsimp only [depthReading]
  cases Number.readWhole? text with
  | none => simp
  | some depth => simp [checkDepth_eq_ok_iff]

theorem depth_ofMember_eq_ok_iff {given : Option Int} {v : Value} {n : Nat} :
    (depthReading given).ofMember v = .ok n ↔ v = .scalar (.int n) := by
  dsimp only [depthReading]
  split
  · simp [checkDepth_eq_ok_iff]
  · rename_i hother
    simp only [reduceCtorEq, false_iff]
    exact hother n

theorem depth_heldIn_iff {given : Option Int} {f : Findings} {source : Source} {n : Nat} :
    (depthReading given).HeldIn f source n ↔ DepthHeld given f source n := by
  cases source with
  | line =>
    cases given with
    | none => simp [Reading.HeldIn, DepthHeld, depthReading]
    | some depth => simp [Reading.HeldIn, DepthHeld, depthReading, checkDepth_eq_ok_iff]
  | environment =>
    simp only [Reading.HeldIn, DepthHeld, depth_ofText_eq_ok_iff]
    rfl
  | project =>
    simp only [Reading.HeldIn, DepthHeld, depth_ofMember_eq_ok_iff]
    constructor
    · rintro ⟨bytes, members, v, hbytes, hread, hv, rfl⟩
      exact ⟨bytes, members, hbytes, hread, hv⟩
    · rintro ⟨bytes, members, hbytes, hread, hv⟩
      exact ⟨bytes, members, _, hbytes, hread, hv, rfl⟩
  | user => simp [Reading.HeldIn, DepthHeld, depthReading, depthOfUser]

theorem schemaOfUser_eq_ok_iff {s : Settings} {schema : String} :
    schemaOfUser s = .ok schema ↔ s.defaultSchema = some schema ∧ schema ≠ "" := by
  unfold schemaOfUser
  rw [← setText?_eq_some_iff]
  cases setText? s.defaultSchema <;> simp

theorem schema_heldIn_iff {given : Option String} {f : Findings} {source : Source}
    {schema : String} : (schemaReading given).HeldIn f source schema ↔
      SchemaHeld given f source schema := by
  cases source with
  | line => simp [Reading.HeldIn, SchemaHeld, schemaReading, setText?_eq_some_iff]
  | environment => simp [Reading.HeldIn, SchemaHeld, schemaReading]
  | project => simp [Reading.HeldIn, SchemaHeld, schemaReading]
  | user => simp only [Reading.HeldIn, SchemaHeld, schemaReading, schemaOfUser_eq_ok_iff]

theorem depth_foreseen (given : Option Int) : (depthReading given).Foreseen := by
  refine ⟨fun failure h => ?_, fun text failure h => ?_, fun v failure h => ?_, fun s failure h => ?_⟩
  · obtain ⟨depth, _, hdepth⟩ := Option.map_eq_some_iff.mp h
    exact exists_setting_of_checkDepth hdepth
  · dsimp only [depthReading] at h
    split at h
    · exact exists_setting_of_checkDepth h
    · exact ⟨_, (Except.error.inj h).symm⟩
  · dsimp only [depthReading] at h
    split at h
    · exact exists_setting_of_checkDepth h
    · exact ⟨_, (Except.error.inj h).symm⟩
  · cases h

theorem schema_foreseen (given : Option String) : (schemaReading given).Foreseen := by
  refine ⟨fun failure h => ?_, fun text failure h => ?_, fun v failure h => ?_, fun s failure h => ?_⟩
  · obtain ⟨schema, _, hschema⟩ := Option.map_eq_some_iff.mp h
    cases hschema
  · cases h
  · cases h
  · have hfailure : schemaOfUser s = .error failure := h
    unfold schemaOfUser at hfailure
    split at hfailure
    · cases hfailure
    · exact ⟨_, (Except.error.inj hfailure).symm⟩

end CsdlRoutes.Settings
