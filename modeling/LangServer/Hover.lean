import LangServer.Settings.Policy
import LangServer.Symbols
import LangServer.Text.Words

/-!
# Hover Cards

What is shown for the word under the cursor: the word as a code fragment, and a line on what
kind of name it is.

A word is under the cursor when the column lies between its ends, both included. Words are tried
from left to right. Under `Span.firstOccurrence` a word is taken to stand at the first place of
the line where its characters appear, so a word whose text occurs earlier in the line is found
at that place and not where it stands.
-/

namespace LangServer

namespace Text

/-- The column where a word of a line is taken to start. -/
def spanStart (span : Span) (line : Text) (r : Run) : Nat :=
  match span with
  | .firstOccurrence => (firstColumn? r.word line).getD r.start
  | .cursor => r.start

/-- Whether a column lies between the ends of a word, both included. -/
def touches (span : Span) (line : Text) (column : Nat) (r : Run) : Bool :=
  let start := spanStart span line r
  start ≤ column && column ≤ start + r.word.length

/-- The word under the cursor. -/
def wordAt (line : Text) (column : Nat) (span : Span) : Option Text :=
  ((runs line).find? (touches span line column)).map Run.word

end Text

/-- The line on a name: what its description says, or what is said of its kind in general. -/
def Symbols.describe (s : Symbols) (word : String) : String :=
  match s.classify word with
  | .keyword =>
    "Buglang keyword: " ++ (s.description? word).getD "Used for control flow or structure."
  | .builtin =>
    "Buglang built-in function: " ++ (s.description? word).getD "Built-in function."
  | .identifier => "Identifier in Buglang code."

/-- What is shown for a word: the word as a code fragment of a language, and a line on it. -/
structure Hover where
  language : String
  word : String
  description : String
  deriving DecidableEq, Repr

/-- The card for the word at a column of a line, if there is one. -/
def hoverAt (symbols : Symbols) (languageId : String) (span : Span) (line : Text)
    (column : Nat) : Option Hover :=
  (line.wordAt column span).map fun word =>
    let word := String.ofList word
    { language := languageId, word := word, description := symbols.describe word }

end LangServer
