import LangServer.Proofs.SettingsGrammar
import LangServer.Proofs.Validity

/-!
# Settings Files by the Grammar

The reader of settings refuses exactly the documents that are at fault against the grammar, and of
all others it takes what is there and nothing else, in whatever order it is written. What is taken
is then checked, and the first value that does not keep to the restrictions decides the error. So
what reading a settings file gives is said here without the reader: by the faults of the document,
by the sections and fields in it, and by the restrictions on values.

## Main statements

* `Settings.ofToml?_eq_some_iff`: what the reader of settings takes.
* `Settings.exists_same_iff`: the documents without a fault.
* `Settings.validate_of_firstInvalid`: the first value that is not valid decides the error.
* `World.grammar_exact`: what reading a settings file gives.
-/

namespace LangServer

open Toml (Value names)

namespace Settings

/-! ### Documents -/

/-- What a document **holds of a section**: nothing if the section is absent, and its fields in
whatever order if it is a table. -/
inductive Holds {σ : Type} (write : σ → List (String × Value)) : Option Value → Option σ → Prop
  | absent : Holds write none none
  | present {entries : List (String × Value)} {s : σ} (h : ∀ e, e ∈ entries ↔ e ∈ write s) :
      Holds write (some (.table entries)) (some s)

/-- A document in which **look-ups go by what is there**: its names are distinct, those of its
sections are, and it is plain. -/
structure Orderly (root : List (String × Value)) : Prop extends Plain root where
  nodup : (names root).Nodup
  fieldsNodup : ∀ name entries, (name, .table entries) ∈ root → (names entries).Nodup

/-- A document that was read is orderly if it is plain. -/
theorem orderly_of_parse? {t : Text} {root : List (String × Value)}
    (h : Toml.parse? t = some (.table root)) (hplain : Plain root) : Orderly root := by
  obtain ⟨root', heq, hnodup, hdistinct⟩ := Toml.distinct_of_parse? h
  obtain rfl := Value.table.inj heq
  refine ⟨hplain, hnodup, fun name entries hsection => ?_⟩
  cases hdistinct _ hsection with
  | table hnames _ => exact hnames

section Sections

variable {σ : Type} {name : String} {fields : List (String × FieldType)}
  {read : Value → Option σ} {write : σ → List (String × Value)} {root : List (String × Value)}

/-- What a known section of an orderly document is looked up as: nothing, or a table. -/
theorem Orderly.lookup_cases (h : Orderly root) (hname : name ∈ names grammar) :
    (root.lookup name = none ∧ name ∉ names root) ∨
      ∃ entries, root.lookup name = some (.table entries) ∧ (name, .table entries) ∈ root := by
  cases hv : root.lookup name with
  | none => exact Or.inl ⟨rfl, lookup_eq_none_iff.mp hv⟩
  | some v =>
      have hmem := (lookup_eq_some_iff h.nodup).mp hv
      obtain ⟨entries, rfl⟩ := h.tables name v hmem hname
      exact Or.inr ⟨entries, rfl, hmem⟩

/-- **Reading a section** takes what the document holds of it. -/
theorem Fits.readField_eq_some_iff (hfits : Fits fields read write)
    (hfields : (name, fields) ∈ grammar) (h : Orderly root) {o : Option σ} :
    readField root name read = some o ↔ Holds write (root.lookup name) o := by
  rw [readField]
  rcases h.lookup_cases (List.mem_map_of_mem hfields) with ⟨hnone, -⟩ | ⟨entries, hsome, hmem⟩
  · rw [hnone]
    constructor
    · intro ho
      obtain rfl := Option.some.inj ho
      exact .absent
    · rintro ⟨⟩
      rfl
  · rw [hsome]
    have hread := hfits.read_eq entries (h.fieldsNodup name entries hmem)
      (h.choices name entries fields hmem hfields)
    constructor
    · intro ho
      obtain ⟨s, hs, rfl⟩ := Option.map_eq_some_iff.mp ho
      exact .present ((hread s).mp hs)
    · rintro ⟨⟩
      next s hs => exact Option.map_eq_some_iff.mpr ⟨s, (hread s).mpr hs, rfl⟩

/-- A section of a document without a fault is held by **some section**. -/
theorem Fits.exists_holds (hfits : Fits fields read write) (hfields : (name, fields) ∈ grammar)
    (h : Orderly root) (hfault : ¬ Fault root) : ∃ o, Holds write (root.lookup name) o := by
  rcases h.lookup_cases (List.mem_map_of_mem hfields) with ⟨hnone, -⟩ | ⟨entries, hsome, hmem⟩
  · rw [hnone]
    exact ⟨none, .absent⟩
  · rw [hsome]
    have hadmits := hfits.admits entries (h.fieldsNodup name entries hmem)
    obtain ⟨s, hs⟩ := hadmits.mpr fun e he => by
      have hknown : e.1 ∈ names fields :=
        by_contra fun hunknown =>
          hfault (.unknownField hmem hfields (List.mem_map_of_mem he) hunknown)
      obtain ⟨⟨_, type⟩, htype, rfl⟩ := List.mem_map.mp hknown
      refine ⟨type, htype, by_contra fun hv => ?_⟩
      exact hfault (.wrongType hmem hfields he htype hv)
    exact ⟨some s, .present hs⟩

/-- A section that a document holds has **no fault**. -/
theorem Fits.admits_of_holds (hfits : Fits fields read write) (h : Orderly root) {o : Option σ}
    (ho : Holds write (root.lookup name) o) {entries : List (String × Value)}
    (hmem : (name, .table entries) ∈ root) :
    ∀ e ∈ entries, ∃ type, (e.1, type) ∈ fields ∧ type.Admits e.2 := by
  rw [(lookup_eq_some_iff h.nodup).mpr hmem] at ho
  cases ho with
  | present hs => exact (hfits.admits entries (h.fieldsNodup name entries hmem)).mp ⟨_, hs⟩

/-- A document holds of a section what it holds of **its fields**. -/
theorem holds_map_iff {v : Option Value} {o : Option σ} :
    Holds id v (o.map write) ↔ Holds write v o := by
  constructor
  · intro h
    cases o with
    | none =>
        cases h
        exact .absent
    | some s =>
        cases h with
        | present hs => exact .present hs
  · rintro (_ | hs)
    · exact .absent
    · exact .present hs

end Sections

section Documents

variable {root root' : List (String × Value)} {s : Settings}

/-- The tree of settings has the names of their sections. -/
theorem names_tree (s : Settings) : names s.tree = names s.sections := by
  rw [tree, names, List.map_map]
  rfl

/-- It has the tables of their fields. -/
theorem mem_tree_iff {name : String} {entries : List (String × Value)} :
    (name, .table entries) ∈ s.tree ↔ (name, entries) ∈ s.sections := by
  rw [tree, List.mem_map]
  constructor
  · rintro ⟨⟨n, es⟩, he, heq⟩
    obtain ⟨rfl, htable⟩ := Prod.mk.inj heq
    obtain rfl := Value.table.inj htable
    exact he
  · intro h
    exact ⟨_, h, rfl⟩

/-- A document has the sections and fields of settings exactly if it **holds each section** of the
grammar as the settings have it, and no others. -/
theorem sameDocument_tree_iff (h : Orderly root) :
    SameDocument root s.tree ↔ (∀ n ∈ names root, n ∈ names grammar) ∧
      ∀ n ∈ names grammar, Holds id (root.lookup n) (s.sections.lookup n) := by
  have hknown : ∀ n ∈ names s.sections, n ∈ names grammar := fun _ hn =>
    (names_sections s).subset hn
  have hnodup : (names s.sections).Nodup := (names_sections s).nodup (by decide)
  constructor
  · intro hsame
    have hnames (n : String) : n ∈ names root ↔ n ∈ names s.sections := by
      rw [hsame.sections, names_tree]
    refine ⟨fun n hn => hknown n ((hnames n).mp hn), fun n hn => ?_⟩
    rcases h.lookup_cases hn with ⟨hnone, habsent⟩ | ⟨entries, hsome, hmem⟩
    · rw [hnone, lookup_eq_none_iff.mpr (mt (hnames n).mpr habsent)]
      exact .absent
    · obtain ⟨⟨_, fields⟩, hfields, rfl⟩ :=
        List.mem_map.mp ((hnames n).mp (List.mem_map_of_mem hmem))
      rw [hsome, (lookup_eq_some_iff hnodup).mpr hfields]
      refine .present fun e => ⟨fun he => ?_, fun he => ?_⟩
      · obtain ⟨fields', hfields', he'⟩ := (hsame.fields _ e).mp ⟨entries, hmem, he⟩
        have heq := (lookup_eq_some_iff hnodup).mpr (mem_tree_iff.mp hfields')
        rw [(lookup_eq_some_iff hnodup).mpr hfields] at heq
        rw [Option.some.inj heq]
        exact he'
      · obtain ⟨entries', hentries', he'⟩ :=
          (hsame.fields _ e).mpr ⟨fields, mem_tree_iff.mpr hfields, he⟩
        have heq := (lookup_eq_some_iff h.nodup).mpr hentries'
        rw [hsome] at heq
        rw [Value.table.inj (Option.some.inj heq)]
        exact he'
  · rintro ⟨hall, hholds⟩
    constructor
    · intro n
      rw [names_tree]
      constructor
      · intro hn
        have hn' := hholds n (hall n hn)
        by_contra hnone
        rw [lookup_eq_none_iff.mpr hnone] at hn'
        generalize hv : root.lookup n = v at hn'
        cases hn'
        exact lookup_eq_none_iff.mp hv hn
      · intro hn
        have hn' := hholds n (hknown n hn)
        by_contra hnone
        rw [lookup_eq_none_iff.mpr hnone] at hn'
        generalize hv : s.sections.lookup n = v at hn'
        cases hn'
        exact lookup_eq_none_iff.mp hv hn
    · intro n e
      constructor
      · rintro ⟨entries, hmem, he⟩
        have hn := hholds n (hall n (List.mem_map_of_mem hmem))
        rw [(lookup_eq_some_iff h.nodup).mpr hmem] at hn
        generalize hv : s.sections.lookup n = v at hn
        cases hn with
        | present hs =>
            exact ⟨_, mem_tree_iff.mpr ((lookup_eq_some_iff hnodup).mp hv), (hs e).mp he⟩
      · rintro ⟨fields, hmem, he⟩
        have hmem := mem_tree_iff.mp hmem
        have hn := hholds n (hknown n (List.mem_map_of_mem hmem))
        rw [(lookup_eq_some_iff hnodup).mpr hmem] at hn
        generalize hv : root.lookup n = v at hn
        cases hn with
        | present hs => exact ⟨_, (lookup_eq_some_iff h.nodup).mp hv, (hs e).mpr he⟩

/-- What the sections of settings are, by name. -/
theorem holds_sections_iff (root : List (String × Value)) (s : Settings) :
    (∀ n ∈ names grammar, Holds id (root.lookup n) (s.sections.lookup n)) ↔
      Holds serverFields (root.lookup "server") s.server ∧
      Holds diagnosticsFields (root.lookup "diagnostics") s.diagnostics ∧
      Holds completionFields (root.lookup "completion") s.completion ∧
      Holds hoverFields (root.lookup "hover") s.hover ∧
      Holds logFields (root.lookup "log") s.log := by
  have hserver : s.sections.lookup "server" = s.server.map serverFields := by simp [sections]
  have hdiagnostics : s.sections.lookup "diagnostics" = s.diagnostics.map diagnosticsFields := by
    simp [sections]
  have hcompletion : s.sections.lookup "completion" = s.completion.map completionFields := by
    simp [sections]
  have hhover : s.sections.lookup "hover" = s.hover.map hoverFields := by simp [sections]
  have hlog : s.sections.lookup "log" = s.log.map logFields := by simp [sections]
  have hnames : names grammar = ["server", "diagnostics", "completion", "hover", "log"] := rfl
  simp only [hnames, List.forall_mem_cons, hserver, hdiagnostics, hcompletion, hhover, hlog,
    holds_map_iff]
  simp

/-- **What the reader of settings takes**: the sections and fields of the document, and nothing
else. -/
theorem ofToml?_eq_some_iff (h : Orderly root) :
    ofToml? (.table root) = some s ↔ SameDocument root s.tree := by
  have hserver {o : Option ServerSection} := fits_server.readField_eq_some_iff (o := o)
    (by decide : ("server", _) ∈ grammar) h
  have hdiagnostics {o : Option DiagnosticsSection} := fits_diagnostics.readField_eq_some_iff
    (o := o) (by decide : ("diagnostics", _) ∈ grammar) h
  have hcompletion {o : Option CompletionSection} := fits_completion.readField_eq_some_iff
    (o := o) (by decide : ("completion", _) ∈ grammar) h
  have hhover {o : Option HoverSection} := fits_hover.readField_eq_some_iff (o := o)
    (by decide : ("hover", _) ∈ grammar) h
  have hlog {o : Option LogSection} := fits_log.readField_eq_some_iff (o := o)
    (by decide : ("log", _) ∈ grammar) h
  rw [sameDocument_tree_iff h, holds_sections_iff, names, List.forall_mem_map]
  constructor
  · intro hs
    obtain ⟨sections, hsections, hs⟩ := Option.bind_eq_some_iff.mp hs
    obtain ⟨hknown, rfl⟩ := fields?_eq_some_iff.mp hsections
    obtain ⟨server, hserver', hs⟩ := Option.bind_eq_some_iff.mp hs
    obtain ⟨diagnostics, hdiagnostics', hs⟩ := Option.bind_eq_some_iff.mp hs
    obtain ⟨completion, hcompletion', hs⟩ := Option.bind_eq_some_iff.mp hs
    obtain ⟨hover, hhover', hs⟩ := Option.bind_eq_some_iff.mp hs
    obtain ⟨log, hlog', hs⟩ := Option.bind_eq_some_iff.mp hs
    obtain rfl := Option.some.inj hs
    exact ⟨hknown, hserver.mp hserver', hdiagnostics.mp hdiagnostics', hcompletion.mp hcompletion',
      hhover.mp hhover', hlog.mp hlog'⟩
  · rintro ⟨hknown, hserver', hdiagnostics', hcompletion', hhover', hlog'⟩
    refine Option.bind_eq_some_iff.mpr ⟨root, fields?_eq_some_iff.mpr ⟨hknown, rfl⟩, ?_⟩
    refine Option.bind_eq_some_iff.mpr ⟨_, hserver.mpr hserver', ?_⟩
    refine Option.bind_eq_some_iff.mpr ⟨_, hdiagnostics.mpr hdiagnostics', ?_⟩
    refine Option.bind_eq_some_iff.mpr ⟨_, hcompletion.mpr hcompletion', ?_⟩
    refine Option.bind_eq_some_iff.mpr ⟨_, hhover.mpr hhover', ?_⟩
    exact Option.bind_eq_some_iff.mpr ⟨_, hlog.mpr hlog', rfl⟩

/-- A field of a section has one type. -/
theorem nodup_of_mem_grammar {name : String} {fields : List (String × FieldType)}
    (h : (name, fields) ∈ grammar) : (names fields).Nodup := by
  have hall : grammar.all fun g => decide (names g.2).Nodup := by decide
  exact of_decide_eq_true (List.all_eq_true.mp hall _ h)

/-- **The documents without a fault** are those that have the sections and fields of some
settings. -/
theorem exists_same_iff (h : Orderly root) :
    (∃ s : Settings, SameDocument root s.tree) ↔ ¬ Fault root := by
  constructor
  · rintro ⟨s, hsame⟩
    obtain ⟨hknown, hholds⟩ := (sameDocument_tree_iff h).mp hsame
    obtain ⟨hserver, hdiagnostics, hcompletion, hhover, hlog⟩ :=
      (holds_sections_iff root s).mp hholds
    have hadmits : ∀ g ∈ grammar, ∀ entries, (g.1, .table entries) ∈ root →
        ∀ e ∈ entries, ∃ type, (e.1, type) ∈ g.2 ∧ type.Admits e.2 := by
      refine List.forall_mem_cons.mpr ⟨fun _ => fits_server.admits_of_holds h hserver, ?_⟩
      refine List.forall_mem_cons.mpr ⟨fun _ => fits_diagnostics.admits_of_holds h hdiagnostics, ?_⟩
      refine List.forall_mem_cons.mpr ⟨fun _ => fits_completion.admits_of_holds h hcompletion, ?_⟩
      refine List.forall_mem_cons.mpr ⟨fun _ => fits_hover.admits_of_holds h hhover, ?_⟩
      exact List.forall_mem_singleton.mpr fun _ => fits_log.admits_of_holds h hlog
    rintro (⟨hname, hunknown⟩ | ⟨hsection, hfields, hfield, hunknown⟩ |
      ⟨hsection, hfields, hfield, htype, hv⟩)
    · exact hunknown (hknown _ hname)
    · obtain ⟨e, he, rfl⟩ := List.mem_map.mp hfield
      obtain ⟨type, htype, -⟩ := hadmits _ hfields _ hsection e he
      exact hunknown (List.mem_map_of_mem htype)
    · obtain ⟨type, htype', hv'⟩ := hadmits _ hfields _ hsection _ hfield
      have hnodup := nodup_of_mem_grammar hfields
      have heq := (lookup_eq_some_iff hnodup).mpr htype'
      rw [(lookup_eq_some_iff hnodup).mpr htype] at heq
      exact hv (Option.some.inj heq ▸ hv')
  · intro hfault
    obtain ⟨server, hserver⟩ :=
      fits_server.exists_holds (by decide : ("server", _) ∈ grammar) h hfault
    obtain ⟨diagnostics, hdiagnostics⟩ :=
      fits_diagnostics.exists_holds (by decide : ("diagnostics", _) ∈ grammar) h hfault
    obtain ⟨completion, hcompletion⟩ :=
      fits_completion.exists_holds (by decide : ("completion", _) ∈ grammar) h hfault
    obtain ⟨hover, hhover⟩ := fits_hover.exists_holds (by decide : ("hover", _) ∈ grammar) h hfault
    obtain ⟨log, hlog⟩ := fits_log.exists_holds (by decide : ("log", _) ∈ grammar) h hfault
    refine ⟨⟨server, diagnostics, completion, hover, log⟩, (sameDocument_tree_iff h).mpr ⟨?_, ?_⟩⟩
    · intro n hn
      exact by_contra fun hunknown => hfault (.unknownSection hn hunknown)
    · exact (holds_sections_iff root _).mpr ⟨hserver, hdiagnostics, hcompletion, hhover, hlog⟩

/-- What is the same in two documents has the same faults. -/
theorem SameDocument.fault (h : SameDocument root root') (hfault : Fault root) : Fault root' := by
  rcases hfault with ⟨hname, hunknown⟩ | ⟨hsection, hfields, hfield, hunknown⟩ |
      ⟨hsection, hfields, hfield, htype, hv⟩
  · exact .unknownSection ((h.sections _).mp hname) hunknown
  · obtain ⟨e, he, rfl⟩ := List.mem_map.mp hfield
    obtain ⟨entries, hentries, he⟩ := (h.fields _ e).mp ⟨_, hsection, he⟩
    exact .unknownField hentries hfields (List.mem_map_of_mem he) hunknown
  · obtain ⟨entries, hentries, he⟩ := (h.fields _ _).mp ⟨_, hsection, hfield⟩
    exact .wrongType hentries hfields he htype hv

/-- A document keeps its sections and fields in **another order** of the sections. -/
theorem SameDocument.of_perm (h : root.Perm root') : SameDocument root root' :=
  ⟨fun _ => (h.map _).mem_iff, fun _ _ => exists_congr fun _ => and_congr_left fun _ => h.mem_iff⟩

theorem SameDocument.symm (h : SameDocument root root') : SameDocument root' root :=
  ⟨fun n => (h.sections n).symm, fun n e => (h.fields n e).symm⟩

theorem SameDocument.trans {root'' : List (String × Value)} (h : SameDocument root root')
    (h' : SameDocument root' root'') : SameDocument root root'' :=
  ⟨fun n => (h.sections n).trans (h'.sections n), fun n e => (h.fields n e).trans (h'.fields n e)⟩

end Documents

/-! ### The first value at fault -/

/-- The **first value** that does not keep to the restrictions, in the order source, language id,
log level, and why. -/
inductive FirstInvalid (s : Settings) : SettingsField → String → Prop
  | source {v : String} (hv : s.server.bind (·.source) = some v)
      (hinvalid : ¬ ∃ c ∈ v.toList, Text.isBlank c = false) :
      FirstInvalid s .serverSource "must not be empty"
  /-- The source is none or right, and the language id is empty or has another character. -/
  | languageId {v : String}
      (hsource : ∀ v, s.server.bind (·.source) = some v → ∃ c ∈ v.toList, Text.isBlank c = false)
      (hv : s.server.bind (·.languageId) = some v)
      (hinvalid : ¬ (v.toList ≠ [] ∧ ∀ c ∈ v.toList, c.isAlpha ∨ c.isDigit ∨ c = '-' ∨ c = '_')) :
      FirstInvalid s .serverLanguageId ("'" ++ v ++ "' is not a valid language id")
  /-- The two are none or right, and the log level is not one of the five. -/
  | level {v : String}
      (hsource : ∀ v, s.server.bind (·.source) = some v → ∃ c ∈ v.toList, Text.isBlank c = false)
      (hlanguageId : ∀ v, s.server.bind (·.languageId) = some v →
        v.toList ≠ [] ∧ ∀ c ∈ v.toList, c.isAlpha ∨ c.isDigit ∨ c = '-' ∨ c = '_')
      (hv : s.log.bind (·.level) = some v)
      (hinvalid : v ∉ ["trace", "debug", "info", "warn", "error"]) :
      FirstInvalid s .logLevel ("must be one of trace, debug, info, warn, error, got '" ++ v ++ "'")

/-- The check of a source fails in one way. -/
theorem checkSource_of_not {v : String} (h : ¬ ∃ c ∈ v.toList, Text.isBlank c = false) :
    checkSource v = .error (.invalidValue .serverSource "must not be empty") := by
  have hnot := mt (checkSource_eq_ok_iff v).mp h
  unfold checkSource at hnot ⊢
  split at hnot
  next htrim => rw [if_pos htrim]
  next => exact absurd rfl hnot

/-- So does that of a language id. -/
theorem checkLanguageId_of_not {v : String}
    (h : ¬ (v.toList ≠ [] ∧ ∀ c ∈ v.toList, c.isAlpha ∨ c.isDigit ∨ c = '-' ∨ c = '_')) :
    checkLanguageId v =
      .error (.invalidValue .serverLanguageId ("'" ++ v ++ "' is not a valid language id")) := by
  have hnot := mt (checkLanguageId_eq_ok_iff v).mp h
  unfold checkLanguageId at hnot ⊢
  split at hnot
  next => exact absurd rfl hnot
  next hid => rw [if_neg hid]

/-- So does that of a log level. -/
theorem checkLogLevel_of_not {v : String} (h : v ∉ ["trace", "debug", "info", "warn", "error"]) :
    checkLogLevel v = .error (.invalidValue .logLevel
      ("must be one of trace, debug, info, warn, error, got '" ++ v ++ "'")) := by
  have hlist : "must be one of " ++ ", ".intercalate logLevelNames ++ ", got '" =
      "must be one of trace, debug, info, warn, error, got '" := by decide
  have hunknown : v ∉ logLevelNames := h
  rw [checkLogLevel, if_neg hunknown, hlist]

/-- The check fails with the **first value** that does not keep to the restrictions. -/
theorem validate_of_firstInvalid {s : Settings} {field : SettingsField} {reason : String}
    (h : s.FirstInvalid field reason) : s.validate = .error (.invalidValue field reason) := by
  have hsourceOk (hs : ∀ v, s.server.bind (·.source) = some v →
      ∃ c ∈ v.toList, Text.isBlank c = false) :
      checkIfSet checkSource (s.server.bind (·.source)) = .ok () := by
    rw [checkIfSet_eq_ok_iff]
    exact fun v hv => (checkSource_eq_ok_iff v).mpr (hs v hv)
  rw [validate]
  cases h with
  | source hv hinvalid =>
      rw [hv, checkIfSet, checkSource_of_not hinvalid]
      rfl
  | languageId hsource hv hinvalid =>
      rw [hsourceOk hsource, hv, checkIfSet, checkLanguageId_of_not hinvalid]
      rfl
  | level hsource hlanguageId hv hinvalid =>
      have hlanguageIdOk : checkIfSet checkLanguageId (s.server.bind (·.languageId)) = .ok () := by
        rw [checkIfSet_eq_ok_iff]
        exact fun v hv => (checkLanguageId_eq_ok_iff v).mpr (hlanguageId v hv)
      rw [hsourceOk hsource, hlanguageIdOk, hv, checkIfSet, checkLogLevel_of_not hinvalid]
      rfl

/-- Settings are valid, or there is a first value that is not. -/
theorem valid_or_firstInvalid (s : Settings) :
    s.Valid ∨ ∃ field reason, s.FirstInvalid field reason := by
  by_cases hsource : ∀ v, s.server.bind (·.source) = some v →
      ∃ c ∈ v.toList, Text.isBlank c = false
  · by_cases hlanguageId : ∀ v, s.server.bind (·.languageId) = some v →
        v.toList ≠ [] ∧ ∀ c ∈ v.toList, c.isAlpha ∨ c.isDigit ∨ c = '-' ∨ c = '_'
    · by_cases hlevel : ∀ v, s.log.bind (·.level) = some v →
          v ∈ ["trace", "debug", "info", "warn", "error"]
      · exact Or.inl ⟨hsource, hlanguageId, hlevel⟩
      · obtain ⟨v, hv⟩ := not_forall.mp hlevel
        obtain ⟨hv, hinvalid⟩ := Classical.not_imp.mp hv
        exact Or.inr ⟨_, _, .level hsource hlanguageId hv hinvalid⟩
    · obtain ⟨v, hv⟩ := not_forall.mp hlanguageId
      obtain ⟨hv, hinvalid⟩ := Classical.not_imp.mp hv
      exact Or.inr ⟨_, _, .languageId hsource hv hinvalid⟩
  · obtain ⟨v, hv⟩ := not_forall.mp hsource
    obtain ⟨hv, hinvalid⟩ := Classical.not_imp.mp hv
    exact Or.inr ⟨_, _, .source hv hinvalid⟩

end Settings

/-! ### Files -/

namespace World

open Settings

section

variable {w : World} {p : Path} {text : String} {root : List (String × Value)} {s : Settings}

/-- A file that holds a text is read as the text is. -/
theorem readSettings_of_file (hfile : w.look p = .file text.toUTF8) :
    w.readSettings p = Settings.parse p.toString text.toList := by
  rw [readSettings, hfile]
  simp only [fromUTF8?_toUTF8]

/-- A document **at fault** is malformed. -/
theorem readSettings_of_fault (hfile : w.look p = .file text.toUTF8)
    (hparse : Toml.parse? text.toList = some (.table root)) (hplain : Plain root)
    (hfault : Fault root) : w.readSettings p = .error (.malformed p.toString .notSettings) := by
  have horderly := orderly_of_parse? hparse hplain
  have hnone : ofToml? (.table root) = none := by
    refine Option.eq_none_iff_forall_ne_some.mpr fun s hs => ?_
    exact (exists_same_iff horderly).mp ⟨s, (ofToml?_eq_some_iff horderly).mp hs⟩ hfault
  simp only [readSettings_of_file hfile, Settings.parse, hparse, hnone]

/-- A document with the sections and fields of some settings is read by **checking** these. -/
theorem readSettings_of_same (hfile : w.look p = .file text.toUTF8)
    (hparse : Toml.parse? text.toList = some (.table root)) (hplain : Plain root)
    (hsame : SameDocument root s.tree) : w.readSettings p = s.validate.map fun _ => s := by
  have hsome := (ofToml?_eq_some_iff (orderly_of_parse? hparse hplain)).mpr hsame
  simp only [readSettings_of_file hfile, Settings.parse, hparse, hsome]

end

/-- **Settings files by the grammar.** Let a file hold a document whose sections are tables, with
policies as strings. Reading it fails with a malformed file exactly if the document is at fault.
Otherwise there are settings with the same sections and fields, no others have them, and the file is
read as these settings if they are valid, and refused for the first value that is not if they are
not. Any other such document with the same sections and fields is read in the same way. -/
theorem grammar_exact (w : World) (p : Path) (text : String) (root : List (String × Value))
    (hfile : w.look p = .file text.toUTF8) (hparse : Toml.parse? text.toList = some (.table root))
    (hplain : Plain root) :
    (w.readSettings p = .error (.malformed p.toString .notSettings) ↔ Fault root) ∧
      (¬ Fault root → ∃ s : Settings, SameDocument root s.tree ∧
        (∀ s' : Settings, SameDocument root s'.tree → s' = s) ∧
        (s.Valid ∨ ∃ field reason, s.FirstInvalid field reason) ∧
        (s.Valid → w.readSettings p = .ok s) ∧
        ∀ field reason, s.FirstInvalid field reason →
          w.readSettings p = .error (.invalidValue field reason)) ∧
      ∀ (w' : World) (text' : String) (root' : List (String × Value)),
        w'.look p = .file text'.toUTF8 → Toml.parse? text'.toList = some (.table root') →
        Plain root' → SameDocument root root' → w'.readSettings p = w.readSettings p := by
  have horderly := orderly_of_parse? hparse hplain
  refine ⟨⟨fun herror => ?_, readSettings_of_fault hfile hparse hplain⟩, fun hfault => ?_, ?_⟩
  · by_contra hfault
    obtain ⟨s, hsame⟩ := (exists_same_iff horderly).mpr hfault
    rw [readSettings_of_same hfile hparse hplain hsame] at herror
    obtain ⟨field, reason, heq⟩ := invalidValue_of_validate (Except.eq_error_of_map_eq_error herror)
    cases heq
  · obtain ⟨s, hsame⟩ := (exists_same_iff horderly).mpr hfault
    have hread := readSettings_of_same hfile hparse hplain hsame
    refine ⟨s, hsame, fun s' hsame' => ?_, s.valid_or_firstInvalid, fun hvalid => ?_, ?_⟩
    · have hs := (ofToml?_eq_some_iff horderly).mpr hsame
      have hs' := (ofToml?_eq_some_iff horderly).mpr hsame'
      exact Option.some.inj (hs'.symm.trans hs)
    · rw [hread, (validate_eq_ok_iff s).mpr hvalid]
      rfl
    · intro field reason hinvalid
      rw [hread, validate_of_firstInvalid hinvalid]
      rfl
  · intro w' text' root' hfile' hparse' hplain' hsame
    by_cases hfault : Fault root
    · rw [readSettings_of_fault hfile' hparse' hplain' (hsame.fault hfault),
        readSettings_of_fault hfile hparse hplain hfault]
    · obtain ⟨s, hs⟩ := (exists_same_iff horderly).mpr hfault
      rw [readSettings_of_same hfile' hparse' hplain' (hsame.symm.trans hs),
        readSettings_of_same hfile hparse hplain hs]

/-- A world in which every path leads to a text. -/
def worldOfText (text : String) : World where
  look _ := .file text.toUTF8
  environment _ := none
  home := none

/-- A document with strings alone. -/
def strings (sections : List (String × List (String × String))) : List (String × Value) :=
  sections.map fun e => (e.1, .table (e.2.map fun f => (f.1, .string f.2)))

/-- It is plain. -/
theorem plain_strings (sections : List (String × List (String × String))) :
    Plain (strings sections) := by
  constructor
  · intro name v hmem _
    obtain ⟨e, -, heq⟩ := List.mem_map.mp hmem
    exact ⟨_, (Prod.mk.inj heq).2.symm⟩
  · intro name entries fields hmem _ e he type _
    obtain ⟨_, -, heq⟩ := List.mem_map.mp hmem
    obtain rfl := Value.table.inj (Prod.mk.inj heq).2
    obtain ⟨f, -, rfl⟩ := List.mem_map.mp he
    cases type with
    | choice options => exact ⟨f.2, rfl⟩
    | text => exact trivial
    | flag => exact trivial

/-- Settings with two values that are not valid. -/
def spacedSettings : Settings where
  server := some { languageId := some "a b" }
  log := some { level := some "loud" }

/-- A text for these settings, the last section first. -/
def backwardsText : String :=
  "[log]\nlevel = \"loud\"\n[server]\nlanguage_id = \"a b\"\n"

/-- A text for them with the sections in their order. -/
def forwardsText : String :=
  "[server]\nlanguage_id = \"a b\"\n\n[log]\nlevel = \"loud\"\n"

/-- A text with a policy that has a capital letter. -/
def capitalText : String :=
  "[hover]\nspan = \"Cursor\"\n"

/-- A table with one entry has distinct names. -/
theorem nodup_names_singleton (e : String × Value) : (names [e]).Nodup :=
  List.nodup_singleton e.1

theorem parse?_backwardsText : Toml.parse? backwardsText.toList = some (.table (strings
    [("log", [("level", "loud")]), ("server", [("language_id", "a b")])])) := by
  have hspells : Toml.SpellsDocument (Toml.listing
      [("log", [("level", .string "loud")]), ("server", [("language_id", .string "a b")])])
      backwardsText.toList :=
    .line (.header (by decide)) <| .line (.assignment (by decide) (spells_renderString "loud")) <|
    .line (.header (by decide)) <| .line (.assignment (by decide) (spells_renderString "a b")) .nil
  exact Toml.parse?_of_listing hspells (by decide) (List.forall_mem_cons.mpr
    ⟨nodup_names_singleton _, List.forall_mem_singleton.mpr (nodup_names_singleton _)⟩)

theorem parse?_forwardsText : Toml.parse? forwardsText.toList = some (.table (strings
    [("server", [("language_id", "a b")]), ("log", [("level", "loud")])])) := by
  have hspells : Toml.SpellsDocument (Toml.listing
      [("server", [("language_id", .string "a b")]), ("log", [("level", .string "loud")])])
      forwardsText.toList :=
    .line (.header (by decide)) <| .line (.assignment (by decide) (spells_renderString "a b")) <|
    .blank <|
    .line (.header (by decide)) <| .line (.assignment (by decide) (spells_renderString "loud")) .nil
  exact Toml.parse?_of_listing hspells (by decide) (List.forall_mem_cons.mpr
    ⟨nodup_names_singleton _, List.forall_mem_singleton.mpr (nodup_names_singleton _)⟩)

theorem parse?_capitalText : Toml.parse? capitalText.toList =
    some (.table (strings [("hover", [("span", "Cursor")])])) := by
  have hspells : Toml.SpellsDocument (Toml.listing [("hover", [("span", .string "Cursor")])])
      capitalText.toList :=
    .line (.header (by decide)) <|
    .line (.assignment (by decide) (spells_renderString "Cursor")) .nil
  exact Toml.parse?_of_listing hspells (List.nodup_singleton _)
    (List.forall_mem_singleton.mpr (nodup_names_singleton _))

/-- With two values that are not valid a file is refused for the language id, whichever section is
written first. A policy with a capital letter is at fault. -/
theorem grammar_exact_spaced :
    (worldOfText backwardsText).readSettings projectFile =
        .error (.invalidValue .serverLanguageId "'a b' is not a valid language id") ∧
      (worldOfText forwardsText).readSettings projectFile =
        .error (.invalidValue .serverLanguageId "'a b' is not a valid language id") ∧
      (worldOfText capitalText).readSettings projectFile =
        .error (.malformed "buglang.toml" .notSettings) := by
  obtain ⟨-, hread, hagree⟩ := grammar_exact (worldOfText backwardsText) projectFile _ _ rfl
    parse?_backwardsText (plain_strings _)
  obtain ⟨hmalformed, -, -⟩ := grammar_exact (worldOfText capitalText) projectFile _ _ rfl
    parse?_capitalText (plain_strings _)
  have hsame : SameDocument
      (strings [("log", [("level", "loud")]), ("server", [("language_id", "a b")])])
      (strings [("server", [("language_id", "a b")]), ("log", [("level", "loud")])]) :=
    .of_perm (.swap _ _ _)
  have hsettings : SameDocument
      (strings [("log", [("level", "loud")]), ("server", [("language_id", "a b")])])
      spacedSettings.tree := hsame
  have hinvalid : spacedSettings.FirstInvalid .serverLanguageId
      "'a b' is not a valid language id" :=
    .languageId (v := "a b") (fun v hv => absurd hv.symm (Option.some_ne_none v)) rfl
      fun hid => absurd (hid.2 ' ' (by decide)) (by decide)
  have hfault : Fault (strings [("hover", [("span", "Cursor")])]) := by
    have htype : ("span", .choice ["first-occurrence", "cursor"]) ∈
        [("enabled", .flag), ("span", FieldType.choice ["first-occurrence", "cursor"])] := by
      decide
    have hcase : "Cursor" ∉ ["first-occurrence", "cursor"] := by decide
    exact .wrongType List.mem_cons_self (by decide : ("hover", _) ∈ grammar) List.mem_cons_self
      htype hcase
  have horderly := orderly_of_parse? parse?_backwardsText (plain_strings _)
  obtain ⟨s, -, hunique, -, -, hfirst⟩ :=
    hread ((exists_same_iff horderly).mp ⟨spacedSettings, hsettings⟩)
  obtain rfl := hunique spacedSettings hsettings
  have hbackwards := hfirst _ _ hinvalid
  refine ⟨hbackwards, ?_, hmalformed.mpr hfault⟩
  rw [hagree (worldOfText forwardsText) _ _ rfl parse?_forwardsText (plain_strings _) hsame]
  exact hbackwards

end World

end LangServer
