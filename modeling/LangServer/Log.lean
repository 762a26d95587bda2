/-!
# The Log

What the server tells its operator. A line has a level, the part of the server that writes it, and
a text. A filter lets through the lines from some level on, or none, whichever part of the server
writes them: filters that tell the parts apart, such as `buglang_lsp::server=debug` or a list of
these, are not understood here.
-/

namespace LangServer

/-- How important a line is, from the least to the most. -/
inductive LogLevel where
  | trace
  | debug
  | info
  | warn
  | error
  deriving DecidableEq, Repr

namespace LogLevel

/-- The name of a level as it is written in a line. -/
def name : LogLevel → String
  | .trace => "TRACE"
  | .debug => "DEBUG"
  | .info => "INFO"
  | .warn => "WARN"
  | .error => "ERROR"

/-- The place of a level in the order of importance. -/
def rank : LogLevel → Nat
  | .trace => 0
  | .debug => 1
  | .info => 2
  | .warn => 3
  | .error => 4

end LogLevel

/-- A line of the log: how important it is, which part of the server writes it, and what it says. -/
structure LogLine where
  level : LogLevel
  target : String
  text : String
  deriving DecidableEq, Repr

/-- The line as it is written. -/
def LogLine.render (l : LogLine) : String :=
  l.level.name ++ " " ++ l.target ++ ": " ++ l.text

/-- The least level that is let through, or none if nothing is. -/
abbrev LogFilter := Option LogLevel

/-- Whether a filter lets a line through. -/
def LogFilter.passes (f : LogFilter) (l : LogLine) : Bool :=
  f.any fun least => least.rank ≤ l.level.rank

/-- The filter that a name or a digit means, letters of either case; no name at all means errors
only. Anything else is not understood, also if it names parts of the server. -/
def LogFilter.ofName? (s : String) : Option LogFilter :=
  match String.ofList (s.toList.map Char.toLower) with
  | "trace" | "5" => some (some .trace)
  | "debug" | "4" => some (some .debug)
  | "info" | "3" => some (some .info)
  | "warn" | "2" => some (some .warn)
  | "error" | "1" | "" => some (some .error)
  | "off" | "0" => some none
  | _ => none

end LangServer
