import Mathlib.Algebra.Ring.Nat
import LangServer.Proofs.Boundaries
import LangServer.Proofs.LineByLine

/-!
# Views of the Lines of a Text

Three parts of the server take a text line by line, each in its own way. A hover card looks at one
line (`Text.line?`), an edit adds up the sizes of the lines before a position (`Text.offsetAt`), and
a scan cuts the text at its line feeds (`Text.pieces`). This module shows that they mean the same
lines, and where they differ: the lines of a text end with it, and a scan sees one more piece, which
is empty, if the text is empty or has just ended a line.

## What the lines are

The lines of a text are those texts that make it up, none of them empty, in which a line feed is
always the end of its line and only the end of the text may be an end without one (`LinesOf`). There
is one way only to cut a text like that.

## Main statements

* `Text.linesOf_iff`: the lines of a text are determined by what they are.
* `Text.offsetAt_line_start`: a line starts after those before it.
* `Text.line_views_agree`: cards, edits and scans mean the same lines.
-/

namespace LangServer.Text

/-! ### What the lines are -/

/-- Some texts are **the lines** of a text: each ends with its only line feed, and the last one with
that or with the text. -/
structure LinesOf (ls : List Text) (t : Text) : Prop where
  flatten : ls.flatten = t
  ne_nil : ∀ l ∈ ls, l ≠ []
  not_mem : ∀ l ∈ ls, '\n' ∉ l.dropLast
  ended : ∀ l ∈ ls.dropLast, l.getLast? = some '\n'

/-- An empty text has no lines. -/
theorem linesOf_nil : LinesOf [] [] :=
  ⟨rfl, List.forall_mem_nil _, List.forall_mem_nil _, List.forall_mem_nil _⟩

/-- A text without line feeds is a line. -/
theorem linesOf_singleton {line : Text} (h : '\n' ∉ line) (hne : line ≠ []) :
    LinesOf [line] line := by
  refine ⟨List.flatten_singleton, ?_, ?_, List.forall_mem_nil _⟩
  · intro l hl
    rwa [List.mem_singleton.mp hl]
  · intro l hl
    rw [List.mem_singleton.mp hl]
    exact fun hmem => h (List.dropLast_subset line hmem)

/-- A line that ends with a line feed comes **before** other lines. -/
theorem LinesOf.cons {ls : List Text} {line t : Text} (h : '\n' ∉ line) (ht : LinesOf ls t) :
    LinesOf ((line ++ ['\n']) :: ls) (line ++ '\n' :: t) := by
  refine ⟨?_, ?_, ?_, ?_⟩
  · rw [List.flatten_cons, ht.flatten, List.append_assoc, List.singleton_append]
  · exact List.forall_mem_cons.mpr ⟨List.concat_ne_nil _ _, ht.ne_nil⟩
  · refine List.forall_mem_cons.mpr ⟨?_, ht.not_mem⟩
    rwa [List.dropLast_concat]
  · cases ls with
    | nil => exact List.forall_mem_nil _
    | cons l ls =>
        rw [List.dropLast_cons_cons]
        exact List.forall_mem_cons.mpr ⟨List.getLast?_concat, ht.ended⟩

/-- What a text is **cut into** are its lines. -/
theorem linesOf_lines (t : Text) : LinesOf (lines t) t := by
  induction t using lineInduction with
  | last line h =>
      by_cases hne : line = []
      · subst hne
        exact linesOf_nil
      · rw [lines_of_not_mem h hne]
        exact linesOf_singleton h hne
  | more line t h ih =>
      rw [lines_append_newline h]
      exact ih.cons h

/-- The lines after the first one are lines. -/
theorem LinesOf.tail {ls : List Text} {l t : Text} (h : LinesOf (l :: ls) t) :
    LinesOf ls ls.flatten := by
  refine ⟨rfl, (List.forall_mem_cons.mp h.ne_nil).2, (List.forall_mem_cons.mp h.not_mem).2, ?_⟩
  cases ls with
  | nil => exact List.forall_mem_nil _
  | cons l' ls => exact (List.forall_mem_cons.mp h.ended).2

/-- The first line ends with a line feed and has lines after it, or it is **all there is**. -/
theorem LinesOf.uncons {ls : List Text} {l t : Text} (h : LinesOf (l :: ls) t) :
    (∃ line t', '\n' ∉ line ∧ l = line ++ ['\n'] ∧ t = line ++ '\n' :: t' ∧ LinesOf ls t') ∨
      '\n' ∉ l ∧ l ≠ [] ∧ ls = [] ∧ t = l := by
  have hnot := h.not_mem l List.mem_cons_self
  have htext : l ++ ls.flatten = t := h.flatten
  obtain ⟨body, c, rfl⟩ : ∃ body c, l = body ++ [c] :=
    (List.eq_nil_or_concat' l).resolve_left (h.ne_nil l List.mem_cons_self)
  rw [List.dropLast_concat] at hnot
  -- Only the last character can be a line feed, and without one there is no room for more lines.
  by_cases hc : c = '\n'
  · subst hc
    refine Or.inl ⟨body, ls.flatten, hnot, rfl, ?_, h.tail⟩
    rw [← htext, List.append_assoc, List.singleton_append]
  · have hlast : ls = [] := by
      cases ls with
      | nil => rfl
      | cons l' ls =>
          have hend := h.ended (body ++ [c]) List.mem_cons_self
          rw [List.getLast?_concat] at hend
          exact absurd (Option.some.inj hend) hc
    refine Or.inr ⟨?_, List.concat_ne_nil _ _, hlast, ?_⟩
    · rw [List.mem_append, List.mem_singleton, not_or]
      exact ⟨hnot, Ne.symm hc⟩
    · rw [← htext, hlast, List.flatten_nil, List.append_nil]

/-- The lines of a text are **determined** by what they are. -/
theorem linesOf_iff {ls : List Text} {t : Text} : LinesOf ls t ↔ ls = lines t := by
  constructor
  · intro h
    induction ls generalizing t with
    | nil =>
        rw [← h.flatten]
        rfl
    | cons l ls ih =>
        rcases h.uncons with ⟨line, t', hline, rfl, rfl, ht'⟩ | ⟨hl, hne, rfl, rfl⟩
        · rw [lines_append_newline hline, ih ht']
        · rw [lines_of_not_mem hl hne]
  · rintro rfl
    exact linesOf_lines t

/-! ### Lines by their numbers -/

/-- There is a line of each number below that of the lines. -/
theorem isSome_line?_iff (text : Text) (i : Nat) :
    (text.line? i).isSome ↔ i < text.lines.length := by
  simp [line?]

/-- The lines with the first numbers are the first lines. -/
theorem filterMap_line?_range (text : Text) (n : Nat) :
    (List.range n).filterMap text.line? = text.lines.take n := by
  induction n with
  | zero => rfl
  | succ n ih =>
      have hlast : [n].filterMap text.line? = text.lines[n]?.toList := by
        cases h : text.lines[n]? <;> simp [line?, h]
      rw [List.range_succ, List.filterMap_append, ih, hlast, List.take_add_one]

/-! ### Where a line starts -/

/-- The size of several texts is the sum of theirs. -/
theorem byteSize_flatten (ls : List Text) : byteSize ls.flatten = (ls.map byteSize).sum := by
  induction ls with
  | nil => rfl
  | cons l ls ih => rw [List.flatten_cons, byteSize_append, ih, List.map_cons, List.sum_cons]

/-- The offset at which a line **starts**, and that of the end of the text for a line that is not
there. -/
def lineStart (text : Text) (i : Nat) : Nat :=
  byteSize (text.lines.take i).flatten

/-- Beyond the last line is the end of the text. -/
theorem lineStart_of_line?_eq_none {text : Text} {i : Nat} (h : text.line? i = none) :
    text.lineStart i = byteSize text := by
  rw [lineStart, List.take_of_length_le (List.getElem?_eq_none_iff.mp h), flatten_lines]

/-- The first position of a line is **where it starts**. -/
theorem offsetAt_line_start (text : Text) (i : Nat) :
    text.offsetAt ⟨i, 0⟩ = text.lineStart i := by
  cases h : text.line? i with
  | none => rw [offsetAt_of_line?_eq_none h, lineStart_of_line?_eq_none h]
  | some line =>
      rw [offsetAt_of_line? h, byteOffset, takeUnits_zero, byteSize_nil, Nat.add_zero]
      rfl

/-! ### The result -/

/-- **Cards, edits and scans mean the same lines.** The text is made up of lines in one way only.
There is a line of each number below theirs and of no other; one after the other they are the text
again, and a line feed is the last character of its line. The piece that a scan takes for a line is
the content of that line, and after the lines it takes one more piece, an empty one, if the text is
empty or ends with a line feed, and none otherwise. The first position of a line, and that after the
last one, is as far into the text as the lines before it are long. -/
theorem line_views_agree (text : Text) :
    (∀ ls, LinesOf ls text ↔ ls = text.lines) ∧
    (∀ i, (text.line? i).isSome ↔ i < text.lines.length) ∧
    ((List.range text.lines.length).filterMap text.line?).flatten = text ∧
    (∀ i line, text.line? i = some line → '\n' ∉ line.dropLast) ∧
    (∀ i < text.lines.length, text.pieces[i]? = (text.line? i).map content) ∧
    text.pieces.drop text.lines.length =
      (if text = [] ∨ text.getLast? = some '\n' then [[]] else []) ∧
    ∀ i ≤ text.lines.length,
      text.offsetAt ⟨i, 0⟩ = (((List.range i).filterMap text.line?).map byteSize).sum := by
  have hlength : (text.lines.map content).length = text.lines.length := List.length_map _
  refine ⟨fun ls => linesOf_iff, isSome_line?_iff text, ?_, ?_, ?_, ?_, ?_⟩
  · rw [filterMap_line?_range, List.take_length, flatten_lines]
  · intro i line h
    exact (linesOf_lines text).not_mem line (List.mem_of_getElem? h)
  · intro i hi
    rw [pieces_eq, List.getElem?_append_left (hlength.symm ▸ hi), List.getElem?_map]
    rfl
  · rw [pieces_eq, ← hlength, List.drop_left]
  · intro i _
    rw [offsetAt_line_start, filterMap_line?_range, lineStart, byteSize_flatten]

end LangServer.Text
