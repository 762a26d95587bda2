import LangServer.Settings.Policy
import LangServer.Text.Lines
import LangServer.Text.Words

/-!
# Diagnostics

The one mistake that the server reports: the word `funct` where `func` is meant. Each diagnostic
covers one such word by its line and its first and last column.

A word is a whole run of word characters, so neither `functor` nor `defunct` is reported, while
`éfunct` is, because `é` is no word character. Under `Report.first` only the first misspelling
of each line is kept.
-/

namespace LangServer

/-- How grave a diagnostic is. -/
inductive Severity where
  | error
  deriving DecidableEq, Repr

/-- The number by which clients know a severity. -/
def Severity.code : Severity → Nat
  | .error => 1

/-- The name of a severity. -/
def Severity.name : Severity → String
  | .error => "error"

/-- A report on the part of one line from the column `start` up to the column `stop`. Lines and
columns are counted from zero, columns in 16-bit units. -/
structure Diagnostic where
  line : Nat
  start : Nat
  stop : Nat
  severity : Severity
  message : String
  deriving DecidableEq, Repr

namespace Diagnostic

/-- The misspelled keyword. -/
def misspelled : Text := "funct".toList

/-- What is said about the misspelled keyword. -/
def misspelledMessage : String := "\"funct\" is incorrect. Use \"func\" instead."

/-- The diagnostic for a misspelled word of a line. -/
def ofRun (line : Nat) (r : Text.Run) : Diagnostic where
  line := line
  start := r.start
  stop := r.stop
  severity := .error
  message := misspelledMessage

/-- The diagnostics that a policy keeps of those of one line. -/
def keep {α : Type} (report : Report) (found : List α) : List α :=
  match report with
  | .first => found.take 1
  | .all => found

/-- The diagnostics of one line. -/
def scanLine (report : Report) (index : Nat) (line : Text) : List Diagnostic :=
  (keep report ((Text.runs line).filter (·.word = misspelled))).map (ofRun index)

/-- The diagnostics of some lines, the first of which has number `index`. -/
def scanFrom (report : Report) (index : Nat) : List Text → List Diagnostic
  | [] => []
  | line :: rest => scanLine report index line ++ scanFrom report (index + 1) rest

/-- The diagnostics of a text, by line and column. -/
def scan (text : Text) (report : Report) : List Diagnostic :=
  scanFrom report 0 (Text.pieces text)

end Diagnostic

end LangServer
