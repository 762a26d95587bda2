import LangServer.Text.Split

/-!
# Lines of a Text

Two views of the lines of a text. `pieces` cuts the text at its line feeds and drops them: a
text with `k` line feeds has `k + 1` pieces, the last of which may be empty. `lines` keeps each
line feed at the end of its line and has no empty last line.

A carriage return is an ordinary character of its line in both views.

## Main statements

* `Text.flatten_lines`: the lines, put together, are the text.
-/

namespace LangServer.Text

/-- The parts of a text between its line feeds. -/
def pieces (t : Text) : List Text :=
  List.splitOn '\n' t

/-- The lines of a text, each with its line feed; only the last may lack one. -/
def lines : Text → List Text
  | [] => []
  | c :: t =>
    if c = '\n' then [c] :: lines t
    else match lines t with
      | [] => [[c]]
      | l :: ls => (c :: l) :: ls

/-- A line without the line feed at its end. -/
def content (line : Text) : Text :=
  if line.getLast? = some '\n' then line.dropLast else line

/-- The lines of a text, put together, are the text. -/
theorem flatten_lines (t : Text) : (lines t).flatten = t := by
  induction t with
  | nil => rfl
  | cons c t ih =>
    unfold lines
    split
    · simp [ih]
    · split <;> simp_all

end LangServer.Text
