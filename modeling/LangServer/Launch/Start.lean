import LangServer.Address
import LangServer.Launch.Arguments
import LangServer.Loader
import LangServer.Session.Server
import LangServer.Text.Lossy

/-!
# Starting

What the server does before it serves: it reads the arguments, loads the settings, chooses what to
log, and finds out where to serve. Settings are taken whole or not at all: if any layer of them is
at fault, a warning is logged and the server works without settings.

## Main definitions

* `Start.of`: what some arguments lead to in some surroundings.
-/

namespace LangServer

/-- The surroundings of a start: the world and the working directory, or why it cannot be had. -/
structure Surroundings where
  world : World
  here : Except ReadFailure Path

/-- A server that is ready to serve, with what was logged on the way and the filter for what is to
be logged. -/
structure Ready where
  server : Server
  filter : LogFilter
  log : List LogLine

/-- Where a start leads: to nothing but a text, to an address that is none, or to a server on the
network or on the standard streams. -/
inductive Start where
  | ended (ending : Ending)
  | badAddress (ready : Ready)
  | listening (ready : Ready) (address : SocketAddress)
  | streaming (ready : Ready)

namespace Surroundings

/-- The settings file that the environment names, if its path is text. -/
def configFile (s : Surroundings) : Option String :=
  s.world.text? "BUGLANG_CONFIG"

/-- The settings file that the environment names by a path that is not text, as it is shown. -/
def strayFile? (s : Surroundings) : Option String :=
  if s.configFile.isSome then none
  else (s.world.environment "BUGLANG_CONFIG").map fun bytes =>
    String.ofList (Text.ofBytes bytes.data.toList)

/-- The call of a loader that a start makes: with a given settings file, or for the working
directory. All files have paths that are text here, so no other path leads to one, and without a
working directory there is nothing to search. -/
def call (s : Surroundings) (config : Option String) : Except SettingsError LoadCall :=
  match config, s.strayFile?, s.here with
  | some file, _, _ => .ok (.file (.ofString file))
  | none, some shown, _ => .error (.notFound shown)
  | none, none, .error cause => .error (.unreadable cause)
  | none, none, .ok here => .ok (.directory here)

/-- Loads the settings: those of a given file, or those of the working directory. -/
def load (s : Surroundings) (config : Option String) : Except SettingsError Config :=
  match s.call config with
  | .error e => .error e
  | .ok (.file path) => (({} : Loader).loadFile s.world path).2
  | .ok (.directory start) => (({} : Loader).loadDirectory s.world start).2

end Surroundings

/-- The settings that a server works with: all that were loaded, or none. -/
def settingsOf : Except SettingsError Config → Settings
  | .ok config => config.settings
  | .error _ => {}

/-- What is logged about the settings. -/
def loadLog : Except SettingsError Config → List LogLine
  | .ok config =>
    match config.projectRoot with
    | some root => [⟨.info, "buglang_lsp", "loaded project settings root=" ++ root.toString⟩]
    | none => []
  | .error e =>
    [⟨.warn, "buglang_lsp",
      "failed to load configuration, using defaults error=" ++ e.message⟩]

/-- Which lines are logged: with `verbose` all but the least; otherwise what the environment wants,
if that is understood; otherwise what the settings say. What the environment wants is understood if
it is a single level for all parts of the server. -/
def chooseFilter (verbose : Bool) (wanted : Option String) (settings : Settings) : LogFilter :=
  if verbose then some .debug
  else match wanted.bind LogFilter.ofName? with
    | some f => f
    | none => (LogFilter.ofName? settings.logLevel).getD none

namespace Start

/-- The environment variables that a start looks at. -/
def variableNames : List String :=
  ["HOME", "BUGLANG_CONFIG", "BUGLANG_LOG", "BUGLANG_DIAGNOSTICS_REPORT", "BUGLANG_HOVER_SPAN",
   "RUST_LOG"]

/-- The paths that a start may look at: the given settings file, or one in each directory from the
working directory up, and the user's own one. -/
def paths (s : Surroundings) (config : Option String) : List Path :=
  let project := match s.call config with
    | .ok (.file path) => [path]
    | .ok (.directory start) => start.ancestors.map (·.join projectFile)
    | .error _ => []
  project ++ s.world.home.toList.map Path.ownSettings

/-- The line with which a server on the standard streams starts. -/
def streamingLine : LogLine :=
  ⟨.info, "buglang_lsp::transport", "starting Buglang LSP server (stdio mode)"⟩

/-- The server of some arguments. -/
def ready (s : Surroundings) (a : Arguments) : Ready :=
  let loaded := s.load a.config
  let settings := settingsOf loaded
  { server := { settings, symbols := .standard }
    filter := chooseFilter a.verbose (s.world.text? "RUST_LOG") settings
    log := loadLog loaded }

/-- What some arguments lead to. -/
def of (s : Surroundings) (arguments : List String) : Start :=
  match Invocation.ofArguments arguments s.configFile with
  | .ended ending => .ended ending
  | .serve a =>
    let r := ready s a
    if a.tcp then
      match socketAddress? a.host a.port with
      | some address => .listening r address
      | none => .badAddress r
    else .streaming { r with log := r.log ++ [streamingLine] }

end Start

end LangServer
