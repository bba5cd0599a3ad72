import CsdlRoutes.Proofs.Host.KeptSettings
import CsdlRoutes.Proofs.Settings.DecidingSource

/-!
# Precedence of the sources of settings

The greatest number of segments and the schema are those of the strongest source that is set. What
weaker sources hold makes no difference, be they wrong, missing or not even readable. If the source
that decides holds no value, the setting is refused, and no weaker source takes its place.

Nothing is assumed of the bytes of the two settings files. Only for the kind of a refusal their
collections must not stand in more others than are read.

* `Host.Finds`: what is found on a host; `Host.AgreeOn`: what two hosts have in common.
* `Host.Decided`: one source decides a setting.
* `Host.strongest_source_decides`: both settings.
-/

namespace CsdlRoutes.Host

open Settings (DepthHeld Findings IsRecord Reading SchemaHeld Source depthReading projectFileName
  schemaReading)

variable {α : Type} {host host' : Host} {f : Findings} {source : Source}

/-! ## Sources of a host -/

/-- What is found on a host. -/
structure Finds (host : Host) (f : Findings) : Prop where
  environment : host.environmentValue? = f.environment
  project : host.file? (host.workingDirectory.child projectFileName) = .ok f.project
  user : host.settingsBytes = .ok f.user

/-- Two hosts agree on a source of a setting: a variable has the same value, or a settings file is at
the same place and holds the same. -/
def AgreeOn (name : String) (host host' : Host) : Source → Prop
  | .line => True
  | .environment => host'.environmentValue? name = host.environmentValue? name
  | .project => host'.workingDirectory = host.workingDirectory ∧
      host'.file? (host'.workingDirectory.child projectFileName) =
        host.file? (host.workingDirectory.child projectFileName)
  | .user => host'.configPath = host.configPath ∧ host'.settingsBytes = host.settingsBytes

theorem globalSettings_of_settingsBytes {file? : Option ByteArray}
    (h : host.settingsBytes = .ok file?) : ∃ directory, host.configPath = .ok directory ∧
      host.globalSettings.2 = Settings.ofFile (settingsFile directory).text file? := by
  rw [settingsBytes] at h
  cases hmade : host.configDirectory with
  | mk made result =>
    rw [hmade] at h
    cases result with
    | error failure => cases h
    | ok directory =>
      exact ⟨directory, (configDirectory_eq_ok hmade).1,
        congrArg Prod.snd (globalSettings_of_file hmade h)⟩

theorem Finds.shows (h : host.Finds f) : host.sources.Shows f where
  environment := h.environment
  project := by
    refine ⟨(host.workingDirectory.child projectFileName).text, ?_⟩
    dsimp only [sources]
    rw [projectSettings, h.project, ok_bind]
  user := by
    obtain ⟨directory, _, huser⟩ := globalSettings_of_settingsBytes h.user
    exact ⟨_, huser⟩

theorem AgreeOn.sources (hfinds : host.Finds f) {name : String} (h : AgreeOn name host host' source) :
    host.sources.AgreeOn name host'.sources source := by
  cases source with
  | line => trivial
  | environment => exact h
  | project =>
    obtain ⟨hdirectory, hfile⟩ := h
    have hproject : host'.projectSettings = host.projectSettings := by
      rw [projectSettings, projectSettings, hfile, hdirectory]
    exact hproject
  | user =>
    obtain ⟨hpath, hbytes⟩ := h
    obtain ⟨directory, hdirectory, huser⟩ := globalSettings_of_settingsBytes hfinds.user
    obtain ⟨directory', hdirectory', huser'⟩ :=
      globalSettings_of_settingsBytes (hbytes.trans hfinds.user)
    obtain rfl : directory' = directory :=
      Except.ok.inj (hdirectory'.symm.trans (hpath.trans hdirectory))
    exact huser'.trans huser.symm

/-! ## Settings of a host -/

/-- What comes of a setting on a host is what counts of its sources. -/
theorem orOfUser_eq (host : Host) (r : Reading α) :
    (host.orOfUser (r.above? host.sources) r.ofUser).2 = r.settle host.sources := by
  rw [orOfUser, Reading.settle]
  cases r.above? host.sources with
  | error failure => rfl
  | ok value? =>
    cases value? with
    | some a => rfl
    | none =>
      have huser : host.sources.user = host.globalSettings.2 := rfl
      rw [ok_bind, huser]
      dsimp only [andThen]
      obtain ⟨made, result⟩ := host.globalSettings
      cases result <;> rfl

theorem resolveDepth_eq (host : Host) (given : Option Int) :
    (host.resolveDepth given).2 = (depthReading given).settle host.sources := by
  rw [resolveDepth, Settings.depthAboveUser?_eq]
  exact host.orOfUser_eq (depthReading given)

theorem resolveSchema_eq (host : Host) (given : Option String) :
    (host.resolveSchema given).2 = (schemaReading given).settle host.sources := by
  rw [resolveSchema, Settings.schemaAboveUser?_eq]
  exact host.orOfUser_eq (schemaReading given)

/-- A source decides what comes of a setting: it is the strongest that is set, its value counts, the
setting is refused if it holds none, and nothing else makes a difference than what is found up to it. -/
structure Decided (r : Reading α) (held : Source → α → Prop) (resolve : Host → Except Failure α)
    (host : Host) (f : Findings) (source : Source) : Prop where
  decides : r.Decides f source
  value : ∀ a, resolve host = .ok a ↔ held source a
  refused : f.Shallow → (∀ a, ¬ held source a) → ∃ why, resolve host = .error (.setting why)
  independent : ∀ host', (∀ other : Source, other.rank ≤ source.rank →
    AgreeOn r.variableName host host' other) → resolve host' = resolve host

theorem exists_decided {r : Reading α} {held : Source → α → Prop}
    {resolve : Host → Except Failure α} (hfinds : host.Finds f) (hr : r.Foreseen)
    (hheld : ∀ source a, r.HeldIn f source a ↔ held source a)
    (hresolve : ∀ host : Host, resolve host = r.settle host.sources) :
    ∃ source, Decided r held resolve host f source := by
  obtain ⟨source, hdecides⟩ := r.exists_decides f
  have hvalue : ∀ a, resolve host = .ok a ↔ held source a := by
    intro a
    rw [hresolve, Reading.settle_eq_ok_iff hfinds.shows hdecides, hheld]
  refine ⟨source, hdecides, hvalue, fun hshallow hnone => ?_, fun host' hagree => ?_⟩
  · cases hresult : resolve host with
    | ok a => exact absurd ((hvalue a).mp hresult) (hnone a)
    | error failure =>
      rw [hresolve] at hresult
      obtain ⟨why, rfl⟩ := Reading.exists_setting_of_settle hr hfinds.shows hshallow hresult
      exact ⟨why, rfl⟩
  · rw [hresolve, hresolve]
    exact Reading.settle_congr hfinds.shows hdecides fun other hrank =>
      (hagree other hrank).sources hfinds

/-- **The strongest source that is set decides.** Whatever is given on the command line, whatever the
variables are and whatever bytes the settings files of the project and the user hold, if they are
there, the greatest number of segments and the schema are those of the strongest source that is set.
A schema that is missing everywhere is a wrong setting. -/
theorem strongest_source_decides (hfinds : host.Finds f) :
    (∀ given : Option Int, ∃ source,
      Decided (depthReading given) (DepthHeld given f) (fun host => (host.resolveDepth given).2)
        host f source) ∧
    ∀ given : Option String, ∃ source,
      Decided (schemaReading given) (SchemaHeld given f) (fun host => (host.resolveSchema given).2)
        host f source ∧
      (source = .user → ∀ s, IsRecord f.user s → Settings.setText? s.defaultSchema = none →
        (host.resolveSchema given).2 = .error (.setting .noSchema)) := by
  constructor
  · intro given
    exact exists_decided hfinds (Settings.depth_foreseen given)
      (fun _ _ => Settings.depth_heldIn_iff) (resolveDepth_eq · given)
  · intro given
    obtain ⟨source, hdecided⟩ := exists_decided hfinds (Settings.schema_foreseen given)
      (fun _ _ => Settings.schema_heldIn_iff) (resolveSchema_eq · given)
    refine ⟨source, hdecided, ?_⟩
    rintro rfl s hrecord hmissing
    obtain ⟨path, hpath⟩ := hfinds.shows.user
    have hreaches := Reading.reaches_of_decides hfinds.shows hdecided.decides
    rw [resolveSchema_eq, Reading.settle_of_comes hreaches .user, hpath,
      Settings.ofFile_eq_ok_iff.mpr hrecord]
    have hrefused : Settings.schemaOfUser s = .error (.setting .noSchema) := by
      rw [Settings.schemaOfUser, hmissing]
    exact hrefused

/-- What is found on a host where a variable gives the depth, the settings file of the project holds
nothing but an opening brace, and that of the user names a schema. -/
def contested : Findings where
  environment name :=
    Table.get? name [("XDG_CONFIG_HOME", "/etc"), ("ROUTETREE_MAX_DEPTH", " 7 ")]
  project := some "\x7b".toUTF8
  user := some ({ defaultSchema := some "a.json" } : Settings).fileText.toUTF8

/-- A host with these files. -/
def contestedHost : Host :=
  ⟨⟨"/", []⟩, [("XDG_CONFIG_HOME", "/etc"), ("ROUTETREE_MAX_DEPTH", " 7 ")], "Linux", "/root",
    "20240101-000000",
    [("/etc", .directory), ("/etc/routetree", .directory),
      ("/etc/routetree/config.json",
        .file ({ defaultSchema := some "a.json" } : Settings).fileText.toUTF8),
      ("/routetree.json", .file "\x7b".toUTF8)], .standard⟩

theorem contestedHost_finds : contestedHost.Finds contested where
  environment := rfl
  project := by rfl
  user := by
    have htext : Settings.setText? (contestedHost.environmentValue? "XDG_CONFIG_HOME") =
        some "/etc" := by decide
    have hpath : contestedHost.configPath = .ok ⟨"/", ["etc", "routetree"]⟩ := by
      rw [configPath_of_variable (by decide) htext]
      exact congrArg Except.ok (by decide)
    rw [settingsBytes, configDirectory_of_hasDirectory hpath (by decide)]
    rfl

theorem contested_shallow : contested.Shallow := by
  rintro bytes (hbytes | hbytes) place
  · obtain rfl := Option.some.inj hbytes
    rw [Settings.readBytes_brace]
    simp
  · obtain rfl := Option.some.inj hbytes
    have hstorable : ({ defaultSchema := some "a.json" } : Settings).Storable :=
      ⟨Settings.storable_defaults.small⟩
    rw [Settings.readBytes_fileText hstorable]
    simp

/-- The variable counts though the file of the project is wrong. The schema is refused, for no
variable gives one, and that of the user does not take its place. -/
theorem contestedHost_decided : (contestedHost.resolveDepth none).2 = .ok 7 ∧
    ∃ why, (contestedHost.resolveSchema none).2 = .error (.setting why) := by
  obtain ⟨hdepths, hschemas⟩ := strongest_source_decides contestedHost_finds
  constructor
  · obtain ⟨source, hdecided⟩ := hdepths none
    have henvironment : (depthReading none).Decides contested .environment := by
      refine ⟨⟨" 7 ", by decide, by decide⟩, fun stronger hlt => ?_⟩
      cases stronger with
      | line => simp [Reading.Sets, depthReading]
      | environment | project | user => simp [Source.rank] at hlt
    obtain rfl := Reading.decides_unique henvironment hdecided.decides
    exact (hdecided.value 7).mpr ⟨" 7 ", by decide, by decide⟩
  · obtain ⟨source, hdecided, _⟩ := hschemas none
    have hbroken : ∀ bytes members, contested.project = some bytes →
        Settings.readBytes bytes ≠ .ok (.object members) := by
      intro bytes members hbytes
      obtain rfl := Option.some.inj hbytes
      rw [Settings.readBytes_brace]
      simp
    have hproject : (schemaReading none).Decides contested .project := by
      refine ⟨⟨_, rfl, fun members hread => absurd hread (hbroken _ _ rfl)⟩, fun stronger hlt => ?_⟩
      cases stronger with
      | line => simp [Reading.Sets, schemaReading, Settings.setText?]
      | environment =>
        have hnone : contested.environment Settings.schemaVariable = none := by decide
        rintro ⟨text, htext, _⟩
        exact Option.some_ne_none text (htext.symm.trans hnone)
      | project | user => simp [Source.rank] at hlt
    obtain rfl := Reading.decides_unique hproject hdecided.decides
    refine hdecided.refused contested_shallow ?_
    rintro schema ⟨bytes, members, v, hbytes, hread, _⟩
    exact hbroken bytes members hbytes hread

end CsdlRoutes.Host
