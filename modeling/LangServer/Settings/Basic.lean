import LangServer.Settings.Policy

/-!
# Settings

What a user may set, in five sections. Every section and every field of it may be absent; the
accessors give the value that the server works with, which is the default where nothing is set.

Settings come in layers. Laying one over another takes each section whole: a section that the
upper layer has hides the lower one entirely, also for the fields that it leaves out.

## Main definitions

* `Settings.layOver`: one layer over another.
* `Settings.validate`: the restrictions on values, with the first one that is broken.
-/

namespace LangServer

/-- How the server presents itself: the name under which diagnostics are published, and the language
of code fragments. -/
structure ServerSection where
  source : Option String := none
  languageId : Option String := none
  deriving DecidableEq, Repr

/-- Settings of diagnostics. -/
structure DiagnosticsSection where
  enabled : Option Bool := none
  report : Option Report := none
  deriving DecidableEq, Repr

/-- Settings of completion. -/
structure CompletionSection where
  enabled : Option Bool := none
  deriving DecidableEq, Repr

/-- Settings of hover cards. -/
structure HoverSection where
  enabled : Option Bool := none
  span : Option Span := none
  deriving DecidableEq, Repr

/-- Settings of the log: the name of the least level that is logged. -/
structure LogSection where
  level : Option String := none
  deriving DecidableEq, Repr

/-- Everything that may be set. -/
structure Settings where
  server : Option ServerSection := none
  diagnostics : Option DiagnosticsSection := none
  completion : Option CompletionSection := none
  hover : Option HoverSection := none
  log : Option LogSection := none
  deriving DecidableEq, Repr

namespace Settings

/-! ### Effective values -/

/-- The log level when none is set. -/
def defaultLogLevel : String := "info"

/-- The name under which diagnostics are published. -/
def source (s : Settings) : String :=
  (s.server.bind (·.source)).getD "Buglang LSP"

/-- The language of code fragments. -/
def languageId (s : Settings) : String :=
  (s.server.bind (·.languageId)).getD "buglang"

/-- Whether diagnostics are published. -/
def diagnosticsEnabled (s : Settings) : Bool :=
  (s.diagnostics.bind (·.enabled)).getD true

/-- Which misspellings of a line are reported. -/
def diagnosticReport (s : Settings) : Report :=
  (s.diagnostics.bind (·.report)).getD .first

/-- Whether completion is offered. -/
def completionEnabled (s : Settings) : Bool :=
  (s.completion.bind (·.enabled)).getD true

/-- Whether hover cards are offered. -/
def hoverEnabled (s : Settings) : Bool :=
  (s.hover.bind (·.enabled)).getD true

/-- Where a hovered word is looked for. -/
def hoverSpan (s : Settings) : Span :=
  (s.hover.bind (·.span)).getD .firstOccurrence

/-- The name of the least level that is logged. -/
def logLevel (s : Settings) : String :=
  (s.log.bind (·.level)).getD defaultLogLevel

/-! ### Layers -/

/-- One layer over another: each section is the upper one's if it has it. -/
def layOver (upper lower : Settings) : Settings where
  server := upper.server.or lower.server
  diagnostics := upper.diagnostics.or lower.diagnostics
  completion := upper.completion.or lower.completion
  hover := upper.hover.or lower.hover
  log := upper.log.or lower.log

/-- Some layers laid one over another, the first one lowest, over no settings at all. -/
def ofLayers (layers : List Settings) : Settings :=
  layers.foldl (fun lower upper => upper.layOver lower) {}

/-! ### Restrictions -/

/-- Whether a text is a language id: ASCII letters, digits, hyphens and underscores, at least
one of them. -/
def isLanguageId (id : String) : Bool :=
  !id.toList.isEmpty && id.toList.all fun c => c.isAlphanum || c = '-' || c = '_'

/-- A source has a character that is no blank. -/
def checkSource (source : String) : Except SettingsError Unit :=
  if Text.trim source.toList = [] then .error (.invalidValue .serverSource "must not be empty")
  else .ok ()

/-- A language id is made of the characters of language ids. -/
def checkLanguageId (id : String) : Except SettingsError Unit :=
  if isLanguageId id then .ok ()
  else .error (.invalidValue .serverLanguageId ("'" ++ id ++ "' is not a valid language id"))

/-- Checks a value that may be absent. -/
def checkIfSet (check : String → Except SettingsError Unit) :
    Option String → Except SettingsError Unit
  | none => .ok ()
  | some v => check v

/-- Checks the values that are set: the source, then the language id, then the log level. -/
def validate (s : Settings) : Except SettingsError Unit := do
  checkIfSet checkSource (s.server.bind (·.source))
  checkIfSet checkLanguageId (s.server.bind (·.languageId))
  checkIfSet checkLogLevel (s.log.bind (·.level))

end Settings

end LangServer
