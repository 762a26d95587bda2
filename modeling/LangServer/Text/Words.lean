import LangServer.Text.Units

/-!
# Words of a Line

A word is a run of ASCII letters, digits and underscores that cannot be made longer on either
side. `runs` lists the words of a line from left to right with the column where each starts.
Word characters take one 16-bit unit each, so a word ends as many columns further as it has
characters.

`firstColumn?` looks for a word as plain text instead: it gives the column of the first place
where the characters of the word stand in the line, also inside a longer word.
-/

namespace LangServer.Text

/-- ASCII letters, digits and the underscore. -/
def isWordChar (c : Char) : Bool :=
  c.isAlphanum || c = '_'

/-- A word of a line and the column where it starts. -/
structure Run where
  start : Nat
  word : Text
  deriving DecidableEq, Repr

/-- The column after the last character of a word. -/
def Run.stop (r : Run) : Nat :=
  r.start + r.word.length

/-- The words of a line whose first character stands at column `col`, left to right. -/
def runsFrom (col : Nat) : Text → List Run
  | [] => []
  | c :: t =>
    if isWordChar c then
      let word := c :: t.takeWhile isWordChar
      ⟨col, word⟩ :: runsFrom (col + word.length) (t.dropWhile isWordChar)
    else
      runsFrom (col + unitWidth c) t
termination_by t => t.length
decreasing_by
  · exact Nat.lt_succ_of_le ((List.dropWhile_suffix _).length_le)
  · exact Nat.lt_succ_self _

/-- The words of a line, left to right. -/
def runs (line : Text) : List Run :=
  runsFrom 0 line

/-- The column of the first place in a line where the characters of `word` stand, when the
line's first character has column `col`. -/
def firstColumnFrom (col : Nat) (word : Text) : Text → Option Nat
  | [] => if word.isEmpty then some col else none
  | c :: t =>
    if word.isPrefixOf (c :: t) then some col
    else firstColumnFrom (col + unitWidth c) word t

/-- The column of the first place in a line where the characters of `word` stand. -/
def firstColumn? (word line : Text) : Option Nat :=
  firstColumnFrom 0 word line

end LangServer.Text
