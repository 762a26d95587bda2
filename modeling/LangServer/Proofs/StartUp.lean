import LangServer.Proofs.Invocations
import LangServer.Proofs.Transcripts
import LangServer.Proofs.Validity

/-!
# Starting with All Settings or None

A start loads settings from five sources, any of which may be at fault. This module says what
comes of it for a server on the standard streams: it always serves, and it works either with the
settings that all five sources make together or with none at all, never with those of some of them.
What it works with shows in its answers, in what is logged, and in what is reported of the loading.

## Conventions

The sources are those of a load (`Sources`): the settings file of the project, which may be given or
is the nearest one, the user's own settings file, and three environment variables. A project that
cannot even be looked for, because there is no working directory, is a source at fault like any
other. What the start itself has to say is logged under a name of its own, so it cannot be taken for
anything that the running server logs.

## Main statements

* `Surroundings.make_load`: what a start loads, from all its sources.
* `chooseFilter_eq`: the log level of valid settings is one that the log knows.
* `Start.settings_whole`: a start takes the settings whole or not at all.
-/

namespace LangServer

/-! ### Loading -/

/-- Some settings are **what all sources make together**: no source holds an error, the project's
sections lie over the user's own, and the environment's values over both. -/
def Sources.Make (sources : Sources) (s : Settings) : Prop :=
  ∃ project own level report span,
    sources = ⟨.ok project, .ok own, .ok level, .ok report, .ok span⟩ ∧
    s = (((project.layOver own).withLevel level).withReport report).withSpan span

namespace Loader

/-- The layers over the settings of a project: the first error, or what all sources make. -/
theorem make_layer (l : Loader) (w : World) (project : Settings) :
    (∃ e, (w.sources l (.ok project)).failure? = some e ∧ l.layer w project = .error e) ∨
      ∃ s, (w.sources l (.ok project)).Make s ∧ l.layer w project = .ok s := by
  rw [layer_eq]
  obtain ⟨own, level, report, span, hsources⟩ : ∃ own level report span,
      w.sources l (.ok project) = ⟨.ok project, own, level, report, span⟩ := ⟨_, _, _, _, rfl⟩
  rw [hsources]
  rcases own with e | own
  · exact Or.inl ⟨e, rfl, rfl⟩
  rcases level with e | level
  · exact Or.inl ⟨e, rfl, rfl⟩
  rcases report with e | report
  · exact Or.inl ⟨e, rfl, rfl⟩
  rcases span with e | span
  · exact Or.inl ⟨e, rfl, rfl⟩
  exact Or.inr ⟨_, ⟨project, own, level, report, span, rfl, rfl⟩, rfl⟩

/-- **What a load gives**: the first error of a source, or what all sources make. -/
theorem make_load (l : Loader) (o : Occasion) :
    (∃ e, (o.world.sources l o.project).failure? = some e ∧ (l.load o).2 = .error e) ∨
      ∃ s, (o.world.sources l o.project).Make s ∧ (l.load o).2 = .ok ⟨s, o.root?⟩ := by
  rw [load_eq]
  cases o.project with
  | error e => exact Or.inl ⟨e, rfl, rfl⟩
  | ok project =>
      rcases make_layer l o.world project with ⟨e, he, hlayer⟩ | ⟨s, hmake, hlayer⟩
      · exact Or.inl ⟨e, he, by simp [hlayer, Except.map]⟩
      · exact Or.inr ⟨s, hmake, by simp [hlayer, Except.map]⟩

end Loader

/-! ### The log level -/

/-- Every **name of a log level** means this level. -/
theorem LogFilter.ofName?_of_mem {name : String} (h : name ∈ logLevelNames) :
    ∃ level : LogLevel, ofName? name = some (some level) ∧
      logLevelNames[level.rank]? = some name := by
  simp only [logLevelNames, List.mem_cons, List.not_mem_nil, or_false] at h
  rcases h with rfl | rfl | rfl | rfl | rfl
  · exact ⟨.trace, rfl, rfl⟩
  · exact ⟨.debug, rfl, rfl⟩
  · exact ⟨.info, rfl, rfl⟩
  · exact ⟨.warn, rfl, rfl⟩
  · exact ⟨.error, rfl, rfl⟩

/-- The log level of valid settings is **one of the names**. -/
theorem Settings.Valid.logLevel_mem {s : Settings} (h : s.Valid) : s.logLevel ∈ logLevelNames := by
  rw [logLevel]
  cases hlevel : s.log.bind (·.level) with
  | none => decide
  | some v => exact h.level v hlevel

/-- If nothing else is wanted, the filter is that of the **log level of the settings**. -/
theorem chooseFilter_eq {s : Settings} (h : s.Valid) :
    ∃ level : LogLevel, chooseFilter false none s = some level ∧
      logLevelNames[level.rank]? = some s.logLevel := by
  obtain ⟨level, hname, hrank⟩ := LogFilter.ofName?_of_mem h.logLevel_mem
  refine ⟨level, ?_, hrank⟩
  simp [chooseFilter, hname]

/-! ### What a start chooses and reports -/

namespace Surroundings

/-- The **settings file of a start**: the one that the arguments give, or else the one of the
environment. -/
def Chooses (s : Surroundings) (arguments : List String) (file : Option String) : Prop :=
  ∀ f, file = some f ↔
    Gives arguments .config f ∨ (∀ g, ¬ Gives arguments .config g) ∧ s.configFile = some f

/-- The settings of the project of a start; an error if no call can be made for them. -/
def project (s : Surroundings) (file : Option String) : Except SettingsError Settings :=
  (s.call file).bind fun call => Occasion.project ⟨s.world, call⟩

/-- The directory of the project of a start. -/
def root? (s : Surroundings) (file : Option String) : Option Path :=
  (s.call file).toOption.bind fun call => Occasion.root? ⟨s.world, call⟩

/-- The sources of a start. -/
def sources (s : Surroundings) (file : Option String) : Sources :=
  s.world.sources {} (s.project file)

/-- A start calls a new loader once, if it can. -/
theorem load_eq (s : Surroundings) (file : Option String) :
    s.load file = (s.call file).bind fun call => (({} : Loader).load ⟨s.world, call⟩).2 := by
  rw [load]
  rcases s.call file with e | call
  · rfl
  · cases call <;> rfl

/-- **What a start loads**: the first error of a source, or what all sources make. -/
theorem make_load (s : Surroundings) (file : Option String) :
    (∃ e, (s.sources file).failure? = some e ∧ s.load file = .error e) ∨
      ∃ t, (s.sources file).Make t ∧ s.load file = .ok ⟨t, s.root? file⟩ := by
  rw [load_eq, sources, project, root?]
  cases s.call file with
  | error e => exact Or.inl ⟨e, rfl, rfl⟩
  | ok call => exact Loader.make_load {} ⟨s.world, call⟩

end Surroundings

/-- The line that reports the settings of a project. -/
def loadedLine (root : Path) : LogLine :=
  ⟨.info, "buglang_lsp", "loaded project settings root=" ++ root.toString⟩

/-- The line that reports that there are no settings, and why. -/
def fallbackLine (e : SettingsError) : LogLine :=
  ⟨.warn, "buglang_lsp", "failed to load configuration, using defaults error=" ++ e.message⟩

namespace Ready

/-- The conversation with a server that is ready, from its beginning. -/
def transcript (r : Ready) : Transcript where
  conversation := .ofReady r

/-- What is **reported of the start** in the course of a conversation: all that is logged under the
name of the start. -/
def reports (r : Ready) (acts : List Act) : List LogLine :=
  (r.transcript.after acts).logged.filter (·.target = "buglang_lsp")

/-- What is logged in the course of a conversation. -/
theorem logged_transcript (r : Ready) (acts : List Act) :
    (r.transcript.after acts).logged =
      (r.log ++ Session.lines { server := r.server } (acts.filterMap Act.input?)).filter
        r.filter.passes := by
  rw [Transcript.logged_after, List.filter_append]
  rfl

/-- The running server has **nothing to report** of the start. -/
theorem reports_eq (r : Ready) (acts : List Act) :
    r.reports acts = (r.log.filter (·.target = "buglang_lsp")).filter r.filter.passes := by
  rw [reports, logged_transcript, List.filter_comm, List.filter_append]
  have hlines : (Session.lines { server := r.server } (acts.filterMap Act.input?)).filter
      (·.target = "buglang_lsp") = [] := by
    rw [List.filter_eq_nil_iff]
    intro l hl
    rw [Session.target_of_mem_lines hl]
    decide
  rw [hlines, List.append_nil]

/-- A server that is ready **serves with all settings or none**. -/
structure Serves (r : Ready) (s : Surroundings) (arguments : List String) (file : Option String) :
    Prop where
  /-- Either no source is at fault: then the settings are what all sources make together, and the
  project is reported if there is one. Or some source is: then nothing is set, and the error is
  reported. -/
  settings :
    ((s.sources file).Make r.server.settings ∧
      s.load file = .ok ⟨r.server.settings, s.root? file⟩ ∧
      ∀ acts, r.reports acts =
        ((s.root? file).toList.map loadedLine).filter r.filter.passes) ∨
    ∃ e, (s.sources file).failure? = some e ∧ s.load file = .error e ∧ r.server.settings = {} ∧
      ∀ acts, r.reports acts = [fallbackLine e].filter r.filter.passes
  valid : r.server.settings.validate = .ok ()
  /-- A client that introduces itself hears what the settings offer. -/
  introduction : ∀ (m : Message) (id : Json), m.method = "initialize" → m.id = some id →
    Method.start.call? m.params = some .start →
      (r.transcript.after [.send m]).sent = [.result id
        (.capabilities r.server.settings.completionEnabled r.server.settings.hoverEnabled)]
  /-- All that is sent, whenever it is taken, is what a session with these settings replies. -/
  answers : ∀ acts, (r.transcript.after acts).sent =
    ((Session.fresh r.server.settings .standard).replies (acts.filterMap Act.input?)).flatMap
      Reply.outgoing
  /-- If nothing else is wanted, all from the log level of the settings on is logged, and nothing
  below it. -/
  level : "--verbose" ∉ arguments → "-v" ∉ arguments → s.world.text? "RUST_LOG" = none →
    ∃ level : LogLevel, logLevelNames[level.rank]? = some r.server.settings.logLevel ∧
      ∀ acts, (r.transcript.after acts).logged =
        (r.log ++ (Session.fresh r.server.settings .standard).lines
          (acts.filterMap Act.input?)).filter (level.rank ≤ ·.level.rank)

/-- What is sent in the course of a conversation. -/
theorem sent_transcript (r : Ready) (acts : List Act) :
    (r.transcript.after acts).sent =
      (Session.replies { server := r.server } (acts.filterMap Act.input?)).flatMap
        Reply.outgoing := by
  rw [Transcript.sent_after]
  rfl

end Ready

/-- The **answer to a client that introduces itself** to a fresh session. -/
theorem Session.reply_introduction (settings : Settings) (symbols : Symbols) {m : Message}
    {id : Json} (hmethod : m.method = "initialize") (hid : m.id = some id)
    (hcall : Method.start.call? m.params = some .start) :
    (Session.fresh settings symbols).reply (.message m) =
      .message (.result id (.capabilities settings.completionEnabled settings.hoverEnabled))
        [] := by
  have hname : Method.ofName? m.method = some .start := hmethod ▸ rfl
  simp [reply, step, fresh, hname, Phase.objection?, enter, handle, Method.kind, hid, hcall,
    perform, Response.of, Server.capabilities]

/-! ### Starting -/

/-- What is logged of a successful load. -/
theorem loadLog_ok (s : Settings) (root : Option Path) :
    loadLog (.ok ⟨s, root⟩) = root.toList.map loadedLine := by
  cases root <;> rfl

/-- What is logged of a load goes **by the name of the start**. -/
theorem filter_loadLog (loaded : Except SettingsError Config) :
    (loadLog loaded ++ [Start.streamingLine]).filter (·.target = "buglang_lsp") =
      loadLog loaded := by
  rcases loaded with e | ⟨s, root | root⟩
  · rfl
  · rfl
  · rfl

namespace Start

/-- The server of accepted arguments on the standard streams. -/
def streamingReady (s : Surroundings) (a : Arguments) : Ready :=
  { ready s a with log := (ready s a).log ++ [streamingLine] }

/-- Whatever is loaded or not, the settings of a start are **valid**. -/
theorem valid_settingsOf (s : Surroundings) (file : Option String) :
    (settingsOf (s.load file)).Valid := by
  cases hload : s.load file with
  | error e => exact Settings.valid_empty
  | ok config =>
      rw [s.load_eq] at hload
      obtain ⟨call, -, hload⟩ := Except.exists_of_bind_eq_ok hload
      exact Loader.valid_of_load hload

/-- What is reported of a start is what is logged of the load. -/
theorem reports_streamingReady (s : Surroundings) (a : Arguments) (acts : List Act) :
    (streamingReady s a).reports acts =
      (loadLog (s.load a.config)).filter (streamingReady s a).filter.passes := by
  have hlog : (streamingReady s a).log = loadLog (s.load a.config) ++ [streamingLine] := rfl
  rw [Ready.reports_eq, hlog, filter_loadLog]

/-- The filter of a start without further wishes is that of the **log level of its settings**. -/
theorem filter_streamingReady {s : Surroundings} {a : Arguments} (hverbose : a.verbose = false)
    (henvironment : s.world.text? "RUST_LOG" = none) :
    ∃ level : LogLevel, (streamingReady s a).filter = some level ∧
      logLevelNames[level.rank]? = some (streamingReady s a).server.settings.logLevel := by
  have hfilter : (streamingReady s a).filter =
      chooseFilter a.verbose (s.world.text? "RUST_LOG") (settingsOf (s.load a.config)) := rfl
  rw [hfilter, hverbose, henvironment]
  exact chooseFilter_eq (valid_settingsOf s a.config)

/-- A start on the standard streams leads to a server that **serves with all settings or none**. -/
theorem serves_streamingReady {s : Surroundings} {arguments : List String} {a : Arguments}
    (haccepted : Invocation.ofArguments arguments s.configFile = .serve a) :
    (streamingReady s a).Serves s arguments a.config := by
  have hsettings : (streamingReady s a).server.settings = settingsOf (s.load a.config) := rfl
  have hfresh : ({ server := (streamingReady s a).server } : Session) =
      Session.fresh (streamingReady s a).server.settings .standard := rfl
  refine ⟨?_, ?_, ?_, ?_, ?_⟩
  · -- the load decides both what the settings are and what is reported
    rcases s.make_load a.config with ⟨e, he, hload⟩ | ⟨t, hmake, hload⟩
    · refine Or.inr ⟨e, he, hload, by rw [hsettings, hload]; rfl, fun acts => ?_⟩
      rw [reports_streamingReady, hload]
      rfl
    · have ht : (streamingReady s a).server.settings = t := by
        rw [hsettings, hload]
        rfl
      refine Or.inl ⟨ht ▸ hmake, ht ▸ hload, fun acts => ?_⟩
      rw [reports_streamingReady, hload, loadLog_ok]
  · exact (Settings.validate_eq_ok_iff _).mpr (valid_settingsOf s a.config)
  · intro m id hmethod hid hcall
    rw [Ready.sent_transcript, hfresh]
    simp [Act.input?, Session.replies, Session.reply_introduction _ _ hmethod hid hcall,
      Reply.outgoing, Response.outgoing]
  · intro acts
    rw [Ready.sent_transcript, hfresh]
  · intro hlong hshort henvironment
    have hverbose : a.verbose = false := by
      rw [Bool.eq_false_iff, Ne, (Invocation.says_of_serve haccepted).2.1, not_or]
      exact ⟨hlong, hshort⟩
    obtain ⟨level, hfilter, hrank⟩ := filter_streamingReady hverbose henvironment
    refine ⟨level, hrank, fun acts => ?_⟩
    rw [Ready.logged_transcript, hfresh, hfilter]
    rfl

/-- **A start takes the settings whole or not at all.** Whatever the files, the working directory
and the environment hold, accepted arguments without `--tcp` lead to a server on the standard
streams. Its settings file is the one that the arguments give or else the one of the environment,
and the server works with all settings or none. -/
theorem settings_whole {s : Surroundings} {arguments : List String} {a : Arguments}
    (haccepted : Invocation.ofArguments arguments s.configFile = .serve a)
    (hstreams : "--tcp" ∉ arguments) :
    ∃ (file : Option String) (r : Ready),
      s.Chooses arguments file ∧ Start.of s arguments = .streaming r ∧
        r.Serves s arguments file := by
  obtain ⟨htcp, -, hconfig⟩ := Invocation.says_of_serve haccepted
  have hstreaming : a.tcp = false := by
    rw [Bool.eq_false_iff, Ne, htcp]
    exact hstreams
  refine ⟨a.config, streamingReady s a, hconfig, ?_, serves_streamingReady haccepted⟩
  rw [Start.of, haccepted]
  simp [hstreaming, streamingReady]

/-- Surroundings with a settings file of a project, a file of the user's own, and a span policy of
the environment. -/
def surroundings (span : String) : Surroundings where
  world :=
    { look := fun p =>
        if p = .ofString "/work/buglang.toml" then
          .file "[server]\nlanguage_id = \"bug-2\"\n".toUTF8
        else if p = .ofString "/home/a/.buglang/config.toml" then
          .file "[completion]\nenabled = false\n[log]\nlevel = \"warn\"\n".toUTF8
        else .absent
      environment := fun name => if name = "BUGLANG_HOVER_SPAN" then some span.toUTF8 else none
      home := some (.ofString "/home/a") }
  here := .ok (.ofString "/work/src")

/-- The same surroundings after the working directory has been removed. -/
def removed : Surroundings :=
  { surroundings " Cursor" with here := .error (.other "No such file or directory (os error 2)") }

/-- Some accepted arguments. -/
def streamArguments : List String :=
  ["--host", "-", "--config=/work/buglang.toml", "--"]

/-- A good value of the environment keeps all settings, and a bad one none. Nor is there anything to
keep without a working directory, if no settings file is given. -/
theorem settings_whole_surroundings :
    (Invocation.ofArguments streamArguments none =
        .serve ⟨false, false, 9257, "-", some "/work/buglang.toml"⟩ ∧
      "--tcp" ∉ streamArguments) ∧
    (settingsOf ((surroundings " Cursor").load (some "/work/buglang.toml")) =
        { server := some { languageId := some "bug-2" }
          completion := some { enabled := some false }
          hover := some { span := some .cursor }
          log := some { level := some "warn" } } ∧
      settingsOf ((surroundings "cursory").load (some "/work/buglang.toml")) = {} ∧
      loadLog (removed.load none) = [⟨.warn, "buglang_lsp",
        "failed to load configuration, using defaults error=" ++
          "Failed to read configuration file: No such file or directory (os error 2)"⟩]) ∧
    (∃ file r, (surroundings " Cursor").Chooses streamArguments file ∧
      Start.of (surroundings " Cursor") streamArguments = .streaming r ∧
      r.Serves (surroundings " Cursor") streamArguments file) ∧
    (∃ file r, (surroundings "cursory").Chooses streamArguments file ∧
      Start.of (surroundings "cursory") streamArguments = .streaming r ∧
      r.Serves (surroundings "cursory") streamArguments file) ∧
    ∃ file r, removed.Chooses [] file ∧ Start.of removed [] = .streaming r ∧
      r.Serves removed [] file := by
  have haccepted : Invocation.ofArguments streamArguments none =
      .serve ⟨false, false, 9257, "-", some "/work/buglang.toml"⟩ := rfl
  have hstreams : "--tcp" ∉ streamArguments := by decide
  have hempty : Invocation.ofArguments [] none =
      .serve ⟨false, false, 9257, "127.0.0.1", none⟩ := rfl
  refine ⟨⟨haccepted, hstreams⟩, ⟨by decide +kernel, by decide +kernel, rfl⟩, ?_, ?_, ?_⟩
  · exact settings_whole haccepted hstreams
  · exact settings_whole haccepted hstreams
  · exact settings_whole hempty List.not_mem_nil

end Start

end LangServer
