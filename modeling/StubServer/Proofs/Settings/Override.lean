import StubServer.Launch

/-!
# Arguments take the place of settings

What is asked for when the server is started takes the place of what is in the file with settings. Two files
that differ only where arguments take the place of what they say lead to the same settings
(`Arguments.override_eq_iff`).

They need not have the same outcome. What is in a file is checked before anything takes its place, so a file with
a blank host is refused also where another host is asked for. Unless the settings are refused in the end, that is
how two such files can differ, and there is no other way.

## Main statements

* `Arguments.override_eq_iff`: when two settings become the same.
* `Launch.toOption_settings`: the settings of a server, from those that its file holds.
* `Launch.settings_alike_iff`: when two files that differ only in what is overridden have the same outcome.
-/

namespace StubServer

/-! ### What is overridden -/

/-- Two settings differ at most where arguments take the place of what they say. -/
structure Arguments.Hides (arguments : Arguments) (a b : Settings) : Prop where
  host : arguments.host = none → a.listen.host = b.listen.host
  port : arguments.port = none → a.listen.port = b.listen.port
  storage : arguments.storagePath = none → a.storage = b.storage
  maxPatterns : a.maxPatterns = b.maxPatterns
  level : arguments.logLevel = none → a.logging.level = b.logging.level
  json : arguments.jsonLogs ≠ some true → a.logging.json = b.logging.json
  seed : arguments.seed = none → a.seed = b.seed

/-- Two values become the same exactly if something takes their place or they are the same. -/
theorem getD_eq_getD_iff {α : Type} {asked : Option α} {a b : α} :
    asked.getD a = asked.getD b ↔ (asked = none → a = b) := by
  cases asked <;> simp

/-- **Two settings become the same** exactly if they differ at most where arguments take the place of what they
say. -/
theorem Arguments.override_eq_iff (arguments : Arguments) (a b : Settings) :
    arguments.override a = arguments.override b ↔ arguments.Hides a b := by
  simp only [override, Settings.mk.injEq, Settings.Listen.mk.injEq, Settings.Logging.mk.injEq,
    getD_eq_getD_iff]
  constructor
  · rintro ⟨⟨hhost, hport⟩, hstorage, hpatterns, ⟨hlevel, hjson⟩, hseed⟩
    refine ⟨hhost, hport, fun hnone => ?_, hpatterns, hlevel, fun hfalse => ?_, fun hnone => ?_⟩
    · simpa only [hnone] using hstorage
    · have hoff : arguments.jsonLogs.getD false = false := by
        cases hlogs : arguments.jsonLogs with
        | none => rfl
        | some on => exact eq_false_of_ne_true fun hon => hfalse (hlogs.trans (congrArg some hon))
      simpa only [hoff, Bool.false_or] using hjson
    · rw [hnone] at hseed
      exact hseed
  · rintro ⟨hhost, hport, hstorage, hpatterns, hlevel, hjson, hseed⟩
    refine ⟨⟨hhost, hport⟩, ?_, hpatterns, ⟨hlevel, ?_⟩, ?_⟩
    · cases hpath : arguments.storagePath with
      | none => exact hstorage hpath
      | some path => rfl
    · by_cases hon : arguments.jsonLogs = some true
      · simp [hon]
      · rw [hjson hon]
    · cases hpath : arguments.seed with
      | none => exact hseed hpath
      | some path => rfl

/-! ### The settings of a server -/

/-- The same arguments, but with another file with settings. -/
def Arguments.withConfig (arguments : Arguments) (path : String) : Arguments :=
  { arguments with config := some path }

/-- A file holds settings, which need not be in order. -/
def Files.Holds (files : Files) (path : String) (settings : Settings) : Prop :=
  (files.read? path).bind Settings.ofFileText? = some settings

instance (files : Files) (path : String) (settings : Settings) : Decidable (files.Holds path settings) :=
  inferInstanceAs (Decidable (_ = _))

namespace Launch

variable {files others : Files} {arguments : Arguments} {path other : String} {base changed : Settings}

/-- The settings in a file are checked as they are. -/
theorem fileSettings_eq (hfile : files.Holds path base) (arguments : Arguments) :
    fileSettings files (arguments.withConfig path) =
      ((base.validate files.exists?).map fun _ => base).mapError fun problem =>
        .config path (.invalid problem) := by
  obtain ⟨text, hread, hparse⟩ := Option.bind_eq_some_iff.mp hfile
  simp only [fileSettings, Arguments.withConfig, hread, Settings.ofFile, hparse]
  cases base.validate files.exists? <;> rfl

/-- What arguments ask for takes the place of what was read, and is checked again. -/
theorem toOption_settings_of_ok (hread : fileSettings files arguments = .ok base) :
    (settings files arguments).toOption =
      if ((arguments.override base).validate files.exists?).isOk then some (arguments.override base) else none := by
  simp only [settings, hread]
  cases (arguments.override base).validate files.exists? <;> rfl

/-- **The settings of a server** are those that its file holds, with what arguments ask for in their place. Both
have to be in order. -/
theorem toOption_settings (hfile : files.Holds path base) (arguments : Arguments) :
    (settings files (arguments.withConfig path)).toOption =
      if (base.validate files.exists?).isOk && ((arguments.override base).validate files.exists?).isOk then
        some (arguments.override base)
      else none := by
  have hsettings := fileSettings_eq hfile arguments
  cases hbase : base.validate files.exists? with
  | error problem =>
      rw [hbase] at hsettings
      rw [settings, hsettings]
      rfl
  | ok _ =>
      rw [hbase] at hsettings
      exact toOption_settings_of_ok hsettings

/-- **Two files that differ only in what is overridden** have the same outcome, the same settings or none, exactly
if both are in order as they are or neither is, or what becomes of them is not. -/
theorem settings_alike_iff (arguments : Arguments) (hfile : files.Holds path base)
    (hother : others.Holds other changed) (hexists : others.exists? = files.exists?)
    (hhides : arguments.Hides base changed) :
    (settings files (arguments.withConfig path)).toOption =
        (settings others (arguments.withConfig other)).toOption ↔
      (base.validate files.exists?).isOk = (changed.validate files.exists?).isOk ∨
        ((arguments.override base).validate files.exists?).isOk = false := by
  rw [toOption_settings hfile, toOption_settings hother, hexists,
    ← (arguments.override_eq_iff base changed).mpr hhides]
  cases (base.validate files.exists?).isOk <;> cases (changed.validate files.exists?).isOk <;>
    cases ((arguments.override base).validate files.exists?).isOk <;> simp

/-- Arguments that ask for everything that can be asked for. -/
def asking : Arguments where
  port := some 0
  host := some "127.0.0.1"
  storagePath := some "rules.json"
  seed := some "plain.yaml"
  logLevel := some "warn"
  jsonLogs := some true

/-- They leave nothing of a file but how many compiled patterns are kept. -/
theorem hides_asking (h : base.maxPatterns = changed.maxPatterns) : asking.Hides base changed :=
  ⟨nofun, nofun, nofun, h, nofun, fun hfalse => absurd rfl hfalse, nofun⟩

/-- Files with settings: the default ones, some others, and a blank host. -/
def threeFiles : Files where
  entries := [(["plain.yaml"], ""),
    (["full.yaml"],
      "listen:\n  host: first\n  port: 9000\nstorage:\n  backend: file\nlogging:\n  json: true\nseed: .\n"),
    (["blank.yaml"], "listen:\n  host: ''\n")]

/-- The settings in the second of them. -/
def fullSettings : Settings where
  listen := { host := "first", port := 9000 }
  storage := { backend := .file }
  logging := { json := true }
  seed := some "."

/-- The two that are in order have the same outcome. -/
theorem settings_alike_iff_inOrder :
    threeFiles.Holds "plain.yaml" {} ∧ threeFiles.Holds "full.yaml" fullSettings ∧
      asking.Hides {} fullSettings ∧
      (settings threeFiles (asking.withConfig "plain.yaml")).toOption =
        (settings threeFiles (asking.withConfig "full.yaml")).toOption := by
  have hplain : threeFiles.Holds "plain.yaml" {} := by decide +kernel
  have hfull : threeFiles.Holds "full.yaml" fullSettings := by decide +kernel
  have hhides : asking.Hides {} fullSettings := hides_asking rfl
  have horder : (({} : Settings).validate threeFiles.exists?).isOk =
      (fullSettings.validate threeFiles.exists?).isOk := by decide +kernel
  exact ⟨hplain, hfull, hhides, (settings_alike_iff asking hplain hfull rfl hhides).mpr (.inl horder)⟩

/-- **What is overridden may matter.** A blank host in a file is refused, although another host is asked for. -/
theorem not_forall_settings_alike :
    ¬ ∀ (arguments : Arguments) (files others : Files) (path other : String) (base changed : Settings),
      files.Holds path base → others.Holds other changed → others.exists? = files.exists? →
      arguments.Hides base changed →
      (settings files (arguments.withConfig path)).toOption =
        (settings others (arguments.withConfig other)).toOption := by
  intro hall
  have halike := hall asking threeFiles threeFiles "blank.yaml" "plain.yaml" { listen := { host := "" } } {}
    (by decide +kernel) (by decide +kernel) rfl (hides_asking rfl)
  have hblank : (settings threeFiles (asking.withConfig "blank.yaml")).toOption = none := by decide +kernel
  have hplain : (settings threeFiles (asking.withConfig "plain.yaml")).toOption =
      some (asking.override {}) := by decide +kernel
  rw [hblank, hplain] at halike
  cases halike

end Launch

end StubServer
