import LangServer.Settings.Schema
import LangServer.Storage.Disk
import LangServer.Text.Lossy

/-!
# Loading Settings

Settings come from three layers. The lowest is the user's own file in the home directory. Over it
lies the file of the project: the nearest one found on the way up from a directory, or one given
by its path. Over both lie three environment variables.

Going up takes the path as it is written: from a path to its parent, up to the root or to the
empty path. The first settings file on the way is the one that counts, also when it is at fault.

A loader remembers where the user's own file is once it has looked for it, so a home directory
that changes later is not noticed.

## Main definitions

* `World`: what loading depends on from outside.
* `World.readSettings`: the settings of one file.
* `World.searchUp`: the nearest settings file.
* `Loader.loadDirectory`, `Loader.loadFile`: all layers together.
-/

namespace LangServer

/-- What loading depends on from outside: storage, environment and home directory. -/
structure World where
  look : Path → Sight
  environment : String → Option ByteArray
  home : Option Path

/-- The settings of all layers, with the directory of the project's settings file. -/
structure Config where
  settings : Settings
  projectRoot : Option Path
  deriving DecidableEq, Repr

/-- Whether there is a settings file of a project. -/
def Config.isProject (c : Config) : Bool :=
  c.projectRoot.isSome

/-- The name of a project's settings file. -/
def projectFile : Path := .ofString "buglang.toml"

/-- The directory of the user's own settings in a home directory. -/
def Path.ownDirectory (home : Path) : Path :=
  home.join (.ofString ".buglang")

/-- The user's own settings file in a home directory. -/
def Path.ownSettings (home : Path) : Path :=
  home.ownDirectory.join (.ofString "config.toml")

namespace World

/-- The home directory: the one that the environment names, or else the one that the user database
has for the account. A path is a text, so a name that is not UTF-8 is read with replacement
characters. -/
def homeOf (vars : List (String × ByteArray)) (account : Option Path) : Option Path :=
  match (vars.lookup "HOME").map fun bytes => Text.ofBytes bytes.data.toList with
  | none | some [] => account
  | some home => some ⟨home⟩

/-- The world of a disk, a working directory, some environment variables and the home directory of
the account. -/
def ofDisk (d : Disk) (here : Place) (vars : List (String × ByteArray)) (account : Option Path) :
    World where
  look := d.look here
  environment := fun name => vars.lookup name
  home := homeOf vars account

/-- Whether a path leads to a file or a directory. -/
def isThere (w : World) (p : Path) : Bool :=
  (w.look p).isThere

/-- The settings of a file. -/
def readSettings (w : World) (p : Path) : Except SettingsError Settings :=
  match w.look p with
  | .absent => .error (.notFound p.toString)
  | .directory => .error (.unreadable .isDirectory)
  | .notDirectory => .error (.unreadable .notDirectory)
  | .tooLong => .error (.unreadable .nameTooLong)
  | .zeroInPath => .error (.unreadable .zeroInPath)
  | .closed words | .outOfReach words => .error (.unreadable (.other words))
  | .file contents =>
    match String.fromUTF8? contents with
    | none => .error (.unreadable .notUtf8)
    | some text => Settings.parse p.toString text.toList

/-- The first path on the way up that has a settings file in it. -/
def searchUp (w : World) (p : Path) : Option Path :=
  if w.isThere (p.join projectFile) then some p
  else match _h : p.parent? with
    | some q => searchUp w q
    | none => none
termination_by p.text.length
decreasing_by exact Path.length_parent?_lt _h

/-- The settings of the nearest project file and its directory; none at all if there is no such
file. -/
def projectSettings (w : World) (start : Path) : Except SettingsError (Option Path × Settings) :=
  match w.searchUp start with
  | none => .ok (none, {})
  | some root => (w.readSettings (root.join projectFile)).map fun s => (some root, s)

/-- The value of an environment variable, if it is set to text. -/
def text? (w : World) (name : String) : Option String :=
  (w.environment name).bind String.fromUTF8?

/-- The directory of the user's own settings. -/
def globalDirectory (w : World) : Except SettingsError Path :=
  match w.home with
  | some home => .ok home.ownDirectory
  | none => .error .homeNotFound

/-- The log level that the environment sets. -/
def levelOverride (w : World) : Except SettingsError (Option String) :=
  match w.text? "BUGLANG_LOG" with
  | none => .ok none
  | some value =>
    let level := plainName value
    (checkLogLevel level).map fun _ => some level

/-- The report policy that the environment sets. -/
def reportOverride (w : World) : Except SettingsError (Option Report) :=
  match w.text? "BUGLANG_DIAGNOSTICS_REPORT" with
  | none => .ok none
  | some value => (Report.ofName value).map some

/-- The span policy that the environment sets. -/
def spanOverride (w : World) : Except SettingsError (Option Span) :=
  match w.text? "BUGLANG_HOVER_SPAN" with
  | none => .ok none
  | some value => (Span.ofName value).map some

end World

namespace Settings

/-- The settings with another log level; the rest of the section gives way. -/
def withLevel (s : Settings) : Option String → Settings
  | none => s
  | some level => { s with log := some { level := some level } }

/-- The settings with another report policy. -/
def withReport (s : Settings) : Option Report → Settings
  | none => s
  | some report =>
    { s with diagnostics := some { s.diagnostics.getD {} with report := some report } }

/-- The settings with another span policy. -/
def withSpan (s : Settings) : Option Span → Settings
  | none => s
  | some span => { s with hover := some { s.hover.getD {} with span := some span } }

end Settings

/-- The settings under the environment's values: the log level, then the report policy, then the
span policy. -/
def World.override (w : World) (s : Settings) : Except SettingsError Settings := do
  let level ← w.levelOverride
  let report ← w.reportOverride
  let span ← w.spanOverride
  return ((s.withLevel level).withReport report).withSpan span

/-- A call of a loader: for a directory, whose nearest project counts, or with a settings file. -/
inductive LoadCall where
  | directory (start : Path)
  | file (path : Path)

/-- A loader of settings. It remembers the path of the user's own settings file once it is known. -/
structure Loader where
  globalPath : Option Path := none
  deriving DecidableEq, Repr

namespace Loader

/-- The path of the user's own settings file, if there is a home directory. -/
def globalFile? (l : Loader) (w : World) : Option Path :=
  l.globalPath.or (w.home.map Path.ownSettings)

/-- The user's own settings; none at all if there is no such file. -/
def globalSettings (l : Loader) (w : World) : Except SettingsError Settings :=
  match l.globalFile? w with
  | none => .ok {}
  | some p => if w.isThere p then w.readSettings p else .ok {}

/-- The loader once it has looked for the user's own file. -/
def remember (l : Loader) (w : World) : Loader :=
  ⟨l.globalFile? w⟩

/-- Lays the settings of a project over the user's own ones, and the environment over both. -/
def layer (l : Loader) (w : World) (project : Settings) : Except SettingsError Settings := do
  let own ← l.globalSettings w
  w.override (project.layOver own)

/-- Loads settings for a directory. -/
def loadDirectory (l : Loader) (w : World) (start : Path) :
    Loader × Except SettingsError Config :=
  match w.projectSettings start with
  | .error e => (l, .error e)
  | .ok (root, project) =>
    (l.remember w, (l.layer w project).map fun settings => ⟨settings, root⟩)

/-- Loads settings with a given settings file. -/
def loadFile (l : Loader) (w : World) (file : Path) : Loader × Except SettingsError Config :=
  match w.readSettings file with
  | .error e => (l, .error e)
  | .ok project =>
    (l.remember w, (l.layer w project).map fun settings => ⟨settings, file.parent?⟩)

end Loader

end LangServer
