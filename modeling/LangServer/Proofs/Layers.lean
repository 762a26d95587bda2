import LangServer.Loader
import LangServer.Proofs.Except

/-!
# Loading in Closed Form

What a load gives is said here without the steps of loading. A load reads five sources, each of
which holds a value or an error: the settings file of the project, the user's own settings file,
and three environment variables (`Sources`). The first source with an error, in this order, decides
the error of the load. If there is none, every effective value is the environment's, else that of
its section, else the default, where a section is taken whole from the project if the project has
it and from the user's own settings if not (`Settings.Effective`).

## Conventions

The nearest settings file is the first one among the ancestors of the directory; where there is
none, the project has no settings at all, and so has a user without a file. A variable is a source
if it is set to text, also to an empty one; otherwise it holds no value and no error.

## Main statements

* `World.searchUp_eq_find?`: the search finds the first ancestor with a settings file.
* `Settings.effective_override`: the effective values of laid-over and overridden settings.
* `Loader.load_closed_form`: what the two ways of loading give.
-/

namespace LangServer

/-- The error of a source, if it holds one. -/
def SettingsError.of? {α : Type} : Except SettingsError α → Option SettingsError
  | .error e => some e
  | .ok _ => none

/-- A failure is known by its error. -/
theorem SettingsError.eq_error_of_of? {α : Type} {x : Except SettingsError α} {e : SettingsError}
    (h : of? x = some e) : x = .error e := by
  cases x with
  | error e' => exact congrArg Except.error (Option.some.inj h)
  | ok a => cases h

/-! ### Sources -/

/-- The **sources** of a load, each with a value or an error: the settings of the project, the
user's own settings, and the log level and the two policies of the environment. -/
structure Sources where
  project : Except SettingsError Settings
  own : Except SettingsError Settings
  level : Except SettingsError (Option String)
  report : Except SettingsError (Option Report)
  span : Except SettingsError (Option Span)

/-- The error of the first source that holds one. -/
def Sources.failure? (s : Sources) : Option SettingsError :=
  [SettingsError.of? s.project, SettingsError.of? s.own, SettingsError.of? s.level,
    SettingsError.of? s.report, SettingsError.of? s.span].findSome? id

namespace World

/-- The nearest directory with a settings file, among a path and those above it. -/
def nearest? (w : World) (start : Path) : Option Path :=
  start.ancestors.find? fun p => w.isThere (p.join projectFile)

/-- The settings of the nearest project; none at all if there is no project. -/
def nearestSettings (w : World) (start : Path) : Except SettingsError Settings :=
  match w.nearest? start with
  | none => .ok {}
  | some root => w.readSettings (root.join projectFile)

/-- The settings of a file that may be missing. -/
def settingsIfThere (w : World) (file : Option Path) : Except SettingsError Settings :=
  match file.filter w.isThere with
  | none => .ok {}
  | some p => w.readSettings p

/-- What is read from an environment variable that is set to text. -/
def readVariable {α : Type} (w : World) (name : String) (read : String → Except SettingsError α) :
    Except SettingsError (Option α) :=
  match (w.environment name).bind String.fromUTF8? with
  | none => .ok none
  | some value => (read value).map some

/-- The log level of a name, blanks around it and the case of its letters aside. -/
def levelOfName (name : String) : Except SettingsError String :=
  (checkLogLevel (plainName name)).map fun _ => plainName name

/-- The sources of a load over some settings of a project. -/
def sources (w : World) (l : Loader) (project : Except SettingsError Settings) : Sources where
  project := project
  own := w.settingsIfThere (l.globalPath.or (w.home.map Path.ownSettings))
  level := w.readVariable "BUGLANG_LOG" levelOfName
  report := w.readVariable "BUGLANG_DIAGNOSTICS_REPORT" Report.ofName
  span := w.readVariable "BUGLANG_HOVER_SPAN" Span.ofName

end World

/-! ### Effective values -/

/-- The **effective values** of settings that come from five sources without an error: each is the
environment's, if the environment has a say in it, or else that of its section. -/
structure Settings.Effective (s project own : Settings) (level : Option String)
    (report : Option Report) (span : Option Span) : Prop where
  logLevel : s.logLevel = (level.or ((project.log.or own.log).bind (·.level))).getD "info"
  diagnosticReport : s.diagnosticReport =
    (report.or ((project.diagnostics.or own.diagnostics).bind (·.report))).getD .first
  hoverSpan : s.hoverSpan =
    (span.or ((project.hover.or own.hover).bind (·.span))).getD .firstOccurrence
  source : s.source = ((project.server.or own.server).bind (·.source)).getD "Buglang LSP"
  languageId : s.languageId =
    ((project.server.or own.server).bind (·.languageId)).getD "buglang"
  diagnosticsEnabled : s.diagnosticsEnabled =
    ((project.diagnostics.or own.diagnostics).bind (·.enabled)).getD true
  completionEnabled : s.completionEnabled =
    ((project.completion.or own.completion).bind (·.enabled)).getD true
  hoverEnabled : s.hoverEnabled =
    ((project.hover.or own.hover).bind (·.enabled)).getD true

/-- What a load **gives**: the error of the first source that holds one, or else a project root and
settings with the effective values of the sources. -/
def Sources.Give (sources : Sources) (root : Option Path) (result : Except SettingsError Config) :
    Prop :=
  match sources.failure? with
  | some e => result = .error e
  | none => ∃ config project own level report span,
      result = .ok config ∧
      sources = ⟨.ok project, .ok own, .ok level, .ok report, .ok span⟩ ∧
      config.projectRoot = root ∧ config.settings.Effective project own level report span

namespace World

variable (w : World)

/-- The search **finds the first ancestor** with a settings file. -/
theorem searchUp_eq_find? (start : Path) : w.searchUp start = w.nearest? start := by
  rw [nearest?]
  fun_induction w.searchUp start with
  | case1 p hthere =>
      rw [Path.ancestors]
      split <;> simp [hthere]
  | case2 p hthere q hq ih =>
      rw [Path.ancestors]
      split
      next q' hq' =>
        obtain rfl : q = q' := Option.some.inj (hq.symm.trans hq')
        rw [ih, List.find?_cons_of_neg]
        exact hthere
      next hnone => cases hq.symm.trans hnone
  | case3 p hthere hp =>
      rw [Path.ancestors]
      split
      next q hq => cases hp.symm.trans hq
      next => simp [hthere]

/-- The settings of a project come from the nearest directory. -/
theorem projectSettings_eq (start : Path) :
    w.projectSettings start = (w.nearestSettings start).map fun s => (w.nearest? start, s) := by
  rw [projectSettings, nearestSettings, searchUp_eq_find?]
  cases w.nearest? start <;> rfl

/-- The log level of the environment is read from its variable. -/
theorem levelOverride_eq : w.levelOverride = w.readVariable "BUGLANG_LOG" levelOfName := by
  rw [levelOverride, readVariable, text?]
  cases (w.environment "BUGLANG_LOG").bind String.fromUTF8? with
  | none => rfl
  | some value =>
      simp only [levelOfName]
      cases checkLogLevel (plainName value) <;> rfl

end World

/-! ### Laying over and overriding -/

namespace Settings

section

variable (s : Settings) (level : Option String) (report : Option Report) (span : Option Span)

/-- The environment has no say in the section `server`. -/
theorem server_override :
    (((s.withLevel level).withReport report).withSpan span).server = s.server := by
  cases level <;> cases report <;> cases span <;> rfl

/-- Nor has it in the section `completion`. -/
theorem completion_override :
    (((s.withLevel level).withReport report).withSpan span).completion = s.completion := by
  cases level <;> cases report <;> cases span <;> rfl

/-- The environment's log level stands for the whole section `log`. -/
theorem log_override :
    (((s.withLevel level).withReport report).withSpan span).log =
      (level.map fun l => { level := some l }).or s.log := by
  cases level <;> cases report <;> cases span <;> rfl

/-- The environment's report policy goes into the section `diagnostics`, which is made for it if
there is none. -/
theorem diagnostics_override :
    (((s.withLevel level).withReport report).withSpan span).diagnostics =
      (report.map fun r => { s.diagnostics.getD {} with report := some r }).or s.diagnostics := by
  cases level <;> cases report <;> cases span <;> rfl

/-- The environment's span policy goes into the section `hover`, which is made for it if there is
none. -/
theorem hover_override :
    (((s.withLevel level).withReport report).withSpan span).hover =
      (span.map fun r => { s.hover.getD {} with span := some r }).or s.hover := by
  cases level <;> cases report <;> cases span <;> rfl

end

/-- **The effective values** of settings laid over others and then overridden. -/
theorem effective_override (project own : Settings) (level : Option String)
    (report : Option Report) (span : Option Span) :
    ((((project.layOver own).withLevel level).withReport report).withSpan span).Effective
      project own level report span := by
  refine ⟨?_, ?_, ?_, ?_, ?_, ?_, ?_, ?_⟩
  · rw [logLevel, log_override]
    cases level <;> rfl
  · rw [diagnosticReport, diagnostics_override]
    cases report <;> rfl
  · rw [hoverSpan, hover_override]
    cases span <;> rfl
  · rw [source, server_override]
    rfl
  · rw [languageId, server_override]
    rfl
  · rw [diagnosticsEnabled, diagnostics_override, layOver]
    cases report <;> cases project.diagnostics.or own.diagnostics <;> rfl
  · rw [completionEnabled, completion_override]
    rfl
  · rw [hoverEnabled, hover_override, layOver]
    cases span <;> cases project.hover.or own.hover <;> rfl

end Settings

namespace Loader

/-- The user's own settings come from a file that may be missing. -/
theorem globalSettings_eq (l : Loader) (w : World) (project : Except SettingsError Settings) :
    l.globalSettings w = (w.sources l project).own := by
  have hown : (w.sources l project).own = w.settingsIfThere (l.globalFile? w) := rfl
  rw [globalSettings, hown, World.settingsIfThere]
  cases l.globalFile? w with
  | none => rfl
  | some p => cases h : w.isThere p <;> simp [Option.filter, h]

/-- The layers over a project's settings, source by source. -/
theorem layer_eq (l : Loader) (w : World) (project : Settings) :
    l.layer w project = (do
      let own ← (w.sources l (.ok project)).own
      let level ← (w.sources l (.ok project)).level
      let report ← (w.sources l (.ok project)).report
      let span ← (w.sources l (.ok project)).span
      return (((project.layOver own).withLevel level).withReport report).withSpan span) := by
  have hreport : w.reportOverride =
      w.readVariable "BUGLANG_DIAGNOSTICS_REPORT" Report.ofName := rfl
  have hspan : w.spanOverride = w.readVariable "BUGLANG_HOVER_SPAN" Span.ofName := rfl
  rw [layer, globalSettings_eq l w (.ok project)]
  simp only [World.override, World.levelOverride_eq, hreport, hspan]
  rfl

/-- What the layers over a project's settings come to: the sources are asked in order, and the
first error ends it. -/
theorem give_layer (l : Loader) (w : World) (project : Settings) (root : Option Path) :
    (w.sources l (.ok project)).Give root
      ((l.layer w project).map fun settings => ⟨settings, root⟩) := by
  rw [layer_eq]
  obtain ⟨own, level, report, span, hsources⟩ : ∃ own level report span,
      w.sources l (.ok project) = ⟨.ok project, own, level, report, span⟩ := ⟨_, _, _, _, rfl⟩
  rw [hsources]
  rcases own with e | own
  · rfl
  rcases level with e | level
  · rfl
  rcases report with e | report
  · rfl
  rcases span with e | span
  · rfl
  exact ⟨_, project, own, level, report, span, rfl, rfl, rfl,
    Settings.effective_override project own level report span⟩

/-- **Loading in closed form.** What is loaded for a directory comes from the sources with the
settings of the nearest project, and what is loaded for a file from those with the settings of the
file: the error of the first source that holds one, or else a configuration with the effective
values of the sources. -/
theorem load_closed_form (l : Loader) (w : World) (path : Path) :
    (w.sources l (w.nearestSettings path)).Give (w.nearest? path) (l.loadDirectory w path).2 ∧
      (w.sources l (w.readSettings path)).Give path.parent? (l.loadFile w path).2 := by
  constructor
  · rw [loadDirectory, World.projectSettings_eq]
    cases w.nearestSettings path with
    | error e => rfl
    | ok project => exact give_layer l w project (w.nearest? path)
  · rw [loadFile]
    cases w.readSettings path with
    | error e => rfl
    | ok project => exact give_layer l w project path.parent?

end Loader

end LangServer
