import Mathlib.Data.List.DropRight
import LangServer.Proofs.Histories

/-!
# Validity of Loaded Settings

Settings files are checked one by one, and so is each variable of the environment; what comes of
laying them over one another is not checked again. This module shows that it need not be: layers
that keep to the restrictions on values give settings that do, because laying over takes sections
whole, and what the environment puts in is either checked or free of restrictions.

The restrictions are said here value by value (`Settings.Valid`), without the order in which they
are checked.

## Main statements

* `Settings.validate_eq_ok_iff`: the check accepts exactly the valid settings.
* `Settings.Valid.layOver`, `Settings.Valid.override`: validity is kept by every layer.
* `Loader.loaded_valid`: whatever is loaded is valid.
-/

namespace LangServer

namespace Text

/-- Trimming leaves nothing of a text exactly if it is all blank. -/
theorem trim_eq_nil_iff (t : Text) : trim t = [] ↔ ∀ c ∈ t, isBlank c := by
  have hright : trim t = (t.dropWhile isBlank).rdropWhile isBlank := rfl
  rw [hright, List.rdropWhile_eq_nil_iff, ← List.dropWhile_eq_nil_iff, List.dropWhile_idempotent,
    List.dropWhile_eq_nil_iff]

end Text

namespace Settings

/-- The **restrictions on values**, for those that are set. -/
structure Valid (s : Settings) : Prop where
  source : ∀ v, s.server.bind (·.source) = some v → ∃ c ∈ v.toList, Text.isBlank c = false
  languageId : ∀ v, s.server.bind (·.languageId) = some v →
    v.toList ≠ [] ∧ ∀ c ∈ v.toList, c.isAlpha ∨ c.isDigit ∨ c = '-' ∨ c = '_'
  level : ∀ v, s.log.bind (·.level) = some v → v ∈ ["trace", "debug", "info", "warn", "error"]

/-- A source is accepted exactly if it is not all blank. -/
theorem checkSource_eq_ok_iff (v : String) :
    checkSource v = .ok () ↔ ∃ c ∈ v.toList, Text.isBlank c = false := by
  rw [checkSource]
  split
  next h =>
    rw [Text.trim_eq_nil_iff] at h
    simp only [reduceCtorEq, false_iff, not_exists, not_and, Bool.not_eq_false]
    exact h
  next h =>
    rw [Text.trim_eq_nil_iff] at h
    simpa using h

/-- A language id is accepted exactly if it is made of the right characters. -/
theorem checkLanguageId_eq_ok_iff (v : String) :
    checkLanguageId v = .ok () ↔
      v.toList ≠ [] ∧ ∀ c ∈ v.toList, c.isAlpha ∨ c.isDigit ∨ c = '-' ∨ c = '_' := by
  rw [checkLanguageId]
  split
  next h => simpa [isLanguageId, Char.isAlphanum, or_assoc] using h
  next h => simpa [isLanguageId, Char.isAlphanum, or_assoc] using h

/-- A log level is accepted exactly if it is one of the names. -/
theorem checkLogLevel_eq_ok_iff (v : String) :
    checkLogLevel v = .ok () ↔ v ∈ ["trace", "debug", "info", "warn", "error"] := by
  rw [checkLogLevel, logLevelNames]
  split
  next h => simpa using h
  next h => simpa using h

/-- A value that may be absent is accepted exactly if it is accepted where it is set. -/
theorem checkIfSet_eq_ok_iff (check : String → Except SettingsError Unit) (v : Option String) :
    checkIfSet check v = .ok () ↔ ∀ x, v = some x → check x = .ok () := by
  cases v <;> simp [checkIfSet]

/-- **The check accepts exactly the valid settings.** -/
theorem validate_eq_ok_iff (s : Settings) : s.validate = .ok () ↔ s.Valid := by
  have hsteps : s.validate = .ok () ↔
      checkIfSet checkSource (s.server.bind (·.source)) = .ok () ∧
      checkIfSet checkLanguageId (s.server.bind (·.languageId)) = .ok () ∧
      checkIfSet checkLogLevel (s.log.bind (·.level)) = .ok () := by
    rw [validate]
    cases checkIfSet checkSource (s.server.bind (·.source)) with
    | error e => simp [bind, Except.bind]
    | ok _ =>
        cases checkIfSet checkLanguageId (s.server.bind (·.languageId)) with
        | error e => simp [bind, Except.bind]
        | ok _ => simp [bind, Except.bind]
  simp only [hsteps, checkIfSet_eq_ok_iff, checkSource_eq_ok_iff, checkLanguageId_eq_ok_iff,
    checkLogLevel_eq_ok_iff]
  exact ⟨fun ⟨h₁, h₂, h₃⟩ => ⟨h₁, h₂, h₃⟩, fun ⟨h₁, h₂, h₃⟩ => ⟨h₁, h₂, h₃⟩⟩

/-- A field of a section that is taken whole comes from one of the two layers. -/
theorem bind_or_eq_some {α β : Type} {upper lower : Option α} {field : α → Option β} {v : β}
    (h : (upper.or lower).bind field = some v) :
    upper.bind field = some v ∨ lower.bind field = some v := by
  cases upper with
  | none => exact Or.inr h
  | some _ => exact Or.inl h

/-- Two layers that are valid are valid **laid over one another**. -/
theorem Valid.layOver {upper lower : Settings} (hupper : upper.Valid) (hlower : lower.Valid) :
    (upper.layOver lower).Valid := by
  refine ⟨?_, ?_, ?_⟩
  · intro v hv
    exact (bind_or_eq_some hv).elim (hupper.source v) (hlower.source v)
  · intro v hv
    exact (bind_or_eq_some hv).elim (hupper.languageId v) (hlower.languageId v)
  · intro v hv
    exact (bind_or_eq_some hv).elim (hupper.level v) (hlower.level v)

/-- Valid settings stay valid **under the environment**: it has no say in the section `server`, and
a log level that it sets has been checked. -/
theorem Valid.override {s : Settings} (hs : s.Valid) {level : Option String}
    (hlevel : ∀ v, level = some v → checkLogLevel v = .ok ()) (report : Option Report)
    (span : Option Span) : (((s.withLevel level).withReport report).withSpan span).Valid := by
  refine ⟨?_, ?_, ?_⟩
  · rw [server_override]
    exact hs.source
  · rw [server_override]
    exact hs.languageId
  · rw [log_override]
    intro v hv
    cases level with
    | none => exact hs.level v hv
    | some l =>
        obtain rfl : l = v := Option.some.inj hv
        exact (checkLogLevel_eq_ok_iff l).mp (hlevel l rfl)

/-- No settings at all are valid. -/
theorem valid_empty : ({} : Settings).Valid :=
  ⟨nofun, nofun, nofun⟩

/-- Settings that a text describes have been checked. -/
theorem valid_of_parse {path : String} {text : Text} {s : Settings}
    (h : parse path text = .ok s) : s.Valid := by
  rw [parse] at h
  split at h
  · cases h
  split at h
  · cases h
  obtain ⟨_, hvalidate, rfl⟩ := Except.exists_of_map_eq_ok h
  exact (validate_eq_ok_iff _).mp hvalidate

end Settings

/-! ### Sources -/

namespace World

variable {w : World}

/-- A file is **checked by itself**. -/
theorem valid_of_readSettings {p : Path} {s : Settings} (h : w.readSettings p = .ok s) :
    s.Valid := by
  rw [readSettings] at h
  cases hlook : w.look p with
  | file contents =>
      simp only [hlook] at h
      split at h
      · cases h
      · exact Settings.valid_of_parse h
  | _ => simp [hlook] at h

/-- The settings of a project are valid. -/
theorem valid_of_nearestSettings {start : Path} {s : Settings}
    (h : w.nearestSettings start = .ok s) : s.Valid := by
  rw [nearestSettings] at h
  split at h
  · obtain rfl := Except.ok.inj h
    exact Settings.valid_empty
  · exact valid_of_readSettings h

/-- The user's own settings are valid. -/
theorem valid_of_settingsIfThere {file : Option Path} {s : Settings}
    (h : w.settingsIfThere file = .ok s) : s.Valid := by
  rw [settingsIfThere] at h
  split at h
  · obtain rfl := Except.ok.inj h
    exact Settings.valid_empty
  · exact valid_of_readSettings h

/-- The log level of the environment is **checked by itself**. -/
theorem checkLogLevel_of_readVariable {level : Option String}
    (h : w.readVariable "BUGLANG_LOG" levelOfName = .ok level) (v : String) (hv : level = some v) :
    checkLogLevel v = .ok () := by
  subst hv
  rw [readVariable] at h
  split at h
  · cases h
  · obtain ⟨_, hread, hv⟩ := Except.exists_of_map_eq_ok h
    obtain ⟨_, hcheck, rfl⟩ := Except.exists_of_map_eq_ok hread
    exact Option.some.inj hv ▸ hcheck

end World

namespace Occasion

/-- The settings of the project that a call is about are valid. -/
theorem valid_of_project {o : Occasion} {s : Settings} (h : o.project = .ok s) : s.Valid := by
  rw [project] at h
  split at h
  · exact World.valid_of_nearestSettings h
  · exact World.valid_of_readSettings h

end Occasion

/-! ### Loading -/

namespace Loader

/-- The layers over **valid settings of a project** are valid. -/
theorem valid_of_layer {l : Loader} {w : World} {project s : Settings} (hproject : project.Valid)
    (h : l.layer w project = .ok s) : s.Valid := by
  rw [layer_eq] at h
  obtain ⟨own, hown, h⟩ := Except.exists_of_bind_eq_ok h
  obtain ⟨level, hlevel, h⟩ := Except.exists_of_bind_eq_ok h
  obtain ⟨report, -, h⟩ := Except.exists_of_bind_eq_ok h
  obtain ⟨span, -, h⟩ := Except.exists_of_bind_eq_ok h
  obtain rfl := Except.ok.inj h
  have hlaid : (project.layOver own).Valid :=
    hproject.layOver (World.valid_of_settingsIfThere hown)
  exact hlaid.override (World.checkLogLevel_of_readVariable hlevel) report span

/-- **One call** gives valid settings if it gives any. -/
theorem valid_of_load {l : Loader} {o : Occasion} {config : Config}
    (h : (l.load o).2 = .ok config) : config.settings.Valid := by
  rw [load_eq] at h
  split at h
  · cases h
  next project hproject =>
    obtain ⟨s, hlayer, rfl⟩ := Except.exists_of_map_eq_ok h
    exact valid_of_layer (Occasion.valid_of_project hproject) hlayer

/-- **Many calls** give valid settings if they give any. -/
theorem valid_of_mem_results {l : Loader} {os : List Occasion} {config : Config}
    (h : .ok config ∈ l.results os) : config.settings.Valid := by
  induction os generalizing l with
  | nil => cases h
  | cons o os ih =>
      rw [results] at h
      rcases List.mem_cons.mp h with h | h
      · exact valid_of_load h.symm
      · exact ih h

/-- A call gives what its sources give. -/
theorem give_load (l : Loader) (o : Occasion) :
    (o.world.sources l o.project).Give o.root? (l.load o).2 := by
  rw [load_eq]
  cases o.project with
  | error e => rfl
  | ok project => exact give_layer l o.world project o.root?

/-- A call succeeds exactly if **none of its sources fails**. -/
theorem load_eq_ok_iff (l : Loader) (o : Occasion) :
    (∃ config, (l.load o).2 = .ok config) ↔ (o.world.sources l o.project).failure? = none := by
  have hgive := give_load l o
  rw [Sources.Give] at hgive
  split at hgive
  next e he => simp [hgive, he]
  next hnone =>
    obtain ⟨config, -, -, -, -, -, hload, -⟩ := hgive
    simp [hload, hnone]

/-- **Whatever is loaded is valid.** Every configuration that any calls of a loader give passes the
check and keeps to the restrictions. What is checked is each file and each variable, by itself: the
settings of a file that can be read are valid, a log level of the environment that can be read is
one of the names, and a call fails over one of its sources and never over what they come to
together. -/
theorem loaded_valid (l : Loader) (os : List Occasion) :
    (∀ config, .ok config ∈ l.results os →
      config.settings.validate = .ok () ∧ config.settings.Valid) ∧
    (∀ (w : World) (p : Path) (s : Settings), w.readSettings p = .ok s → s.Valid) ∧
    (∀ (w : World) (v : String),
      w.readVariable "BUGLANG_LOG" World.levelOfName = .ok (some v) →
        v ∈ ["trace", "debug", "info", "warn", "error"]) ∧
    ∀ o : Occasion,
      (∃ config, (l.load o).2 = .ok config) ↔ (o.world.sources l o.project).failure? = none := by
  refine ⟨?_, ?_, ?_, ?_⟩
  · intro config h
    have hvalid := valid_of_mem_results h
    exact ⟨(Settings.validate_eq_ok_iff config.settings).mpr hvalid, hvalid⟩
  · intro w p s h
    exact World.valid_of_readSettings h
  · intro w v h
    exact (Settings.checkLogLevel_eq_ok_iff v).mp (World.checkLogLevel_of_readVariable h v rfl)
  · exact load_eq_ok_iff l

/-- A call with the settings file of a project, over a file of the user's own and under a log level
of the environment. -/
def layeredCall : Occasion where
  world :=
    { look := fun p =>
        if p = .ofString "/work/buglang.toml" then
          .file "[server]\nlanguage_id = \"bug-2\"\n".toUTF8
        else if p = .ofString "/home/a/.buglang/config.toml" then
          .file "[server]\nsource = \"me\"\n[log]\nlevel = \"info\"\n".toUTF8
        else .absent
      environment := fun name => if name = "BUGLANG_LOG" then some " Warn ".toUTF8 else none
      home := some (.ofString "/home/a") }
  call := .file (.ofString "/work/buglang.toml")

/-- What it gives. -/
def layeredConfig : Config where
  settings :=
    { server := some { languageId := some "bug-2" }
      log := some { level := some "warn" } }
  projectRoot := some (.ofString "/work")

/-- It is valid, and so is what each of its sources holds. -/
theorem layeredConfig_valid :
    layeredConfig.settings.validate = .ok () ∧
      ({ server := some { languageId := some "bug-2" } } : Settings).Valid ∧
      "warn" ∈ ["trace", "debug", "info", "warn", "error"] := by
  obtain ⟨hresults, hfiles, hlevel, -⟩ := loaded_valid {} [layeredCall]
  refine ⟨(hresults layeredConfig ?_).1,
    hfiles layeredCall.world (.ofString "/work/buglang.toml") _ ?_,
    hlevel layeredCall.world "warn" ?_⟩
  · have hload : (({} : Loader).load layeredCall).2 = .ok layeredConfig :=
      Except.eq_ok_of_toOption (by decide +kernel)
    rw [results, hload]
    exact List.mem_cons_self
  · exact Except.eq_ok_of_toOption (by decide +kernel)
  · exact Except.eq_ok_of_toOption (by decide +kernel)

end Loader

end LangServer
