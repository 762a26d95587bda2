import LangServer.Settings.Error
import LangServer.Text.Blank
import LangServer.Text.LowerCase

/-!
# Policies

The settings that choose between ways of working: how many misspellings of a line are reported,
and where a hovered word is looked for. Each value has one canonical name.

Names from the environment or from requests are read by `ofName`, which does not mind blanks
around the name or the case of its letters. Names in settings files are read by `ofCanonical?`,
which minds both.
-/

namespace LangServer

/-- A name without the blanks around it and in lower case. -/
def plainName (s : String) : String :=
  String.ofList (Text.lower (Text.trim s.toList))

/-- Which misspellings of a line are reported. -/
inductive Report where
  | first
  | all
  deriving DecidableEq, Repr, Inhabited

namespace Report

/-- The canonical name. -/
def name : Report → String
  | .first => "first"
  | .all => "all"

/-- The policy with this canonical name. -/
def ofCanonical? (s : String) : Option Report :=
  if s = "first" then some .first
  else if s = "all" then some .all
  else none

/-- The policy with this name, blanks around it and the case of its letters aside. -/
def ofName (s : String) : Except SettingsError Report :=
  let plain := plainName s
  match ofCanonical? plain with
  | some report => .ok report
  | none => .error (.invalidValue .diagnosticsReport
      ("must be 'first' or 'all', got '" ++ plain ++ "'"))

/-- A canonical name belongs to its policy. -/
theorem ofCanonical?_name (r : Report) : ofCanonical? r.name = some r := by
  cases r <;> decide

end Report

/-- Where a hovered word is looked for. -/
inductive Span where
  /-- At the first place of the line where the text of the word stands. -/
  | firstOccurrence
  /-- Where the word itself stands. -/
  | cursor
  deriving DecidableEq, Repr, Inhabited

namespace Span

/-- The canonical name. -/
def name : Span → String
  | .firstOccurrence => "first-occurrence"
  | .cursor => "cursor"

/-- The policy with this canonical name. -/
def ofCanonical? (s : String) : Option Span :=
  if s = "first-occurrence" then some .firstOccurrence
  else if s = "cursor" then some .cursor
  else none

/-- The policy with this name, blanks around it and the case of its letters aside. -/
def ofName (s : String) : Except SettingsError Span :=
  let plain := plainName s
  match ofCanonical? plain with
  | some span => .ok span
  | none => .error (.invalidValue .hoverSpan
      ("must be 'first-occurrence' or 'cursor', got '" ++ plain ++ "'"))

/-- A canonical name belongs to its policy. -/
theorem ofCanonical?_name (s : Span) : ofCanonical? s.name = some s := by
  cases s <;> decide

end Span

/-- The names of the log levels, from the most to the least talkative. -/
def logLevelNames : List String :=
  ["trace", "debug", "info", "warn", "error"]

/-- Accepts exactly the names of the log levels. -/
def checkLogLevel (level : String) : Except SettingsError Unit :=
  if level ∈ logLevelNames then .ok ()
  else .error (.invalidValue .logLevel
    ("must be one of " ++ ", ".intercalate logLevelNames ++ ", got '" ++ level ++ "'"))

end LangServer
