import LangServer.Proofs.Misspellings
import LangServer.Proofs.Positions

/-!
# Texts Line by Line

A text is a line without line feeds, or such a line, a line feed and a text (`Text.lineInduction`).
Both views of the lines of a text and the position after it follow that cut, which is how they are
compared here. The two views differ in two ways: lines keep their line feeds and pieces do not, and
after a last line feed there is one more piece, which is empty.

## Main statements

* `Text.pieces_eq`: the pieces of a text in terms of its lines.
* `Text.endOf_append`: the position after two texts.
-/

namespace LangServer

namespace Text

/-- A text is a line without line feeds, or such a line **before** a line feed and a text. -/
@[elab_as_elim] theorem lineInduction {motive : Text → Prop}
    (last : ∀ line, '\n' ∉ line → motive line)
    (more : ∀ line t, '\n' ∉ line → motive t → motive (line ++ '\n' :: t)) (t : Text) :
    motive t := by
  induction hn : t.length using Nat.strongRecOn generalizing t with
  | ind n ih =>
      subst hn
      by_cases ht : '\n' ∈ t
      · obtain ⟨line, rest, rfl, hline⟩ := List.eq_append_cons_of_mem ht
        refine more line rest hline (ih _ ?_ rest rfl)
        simp only [List.length_append, List.length_cons]
        omega
      · exact last t ht

/-! ### Pieces and lines -/

/-- A text without line feeds is one piece. -/
theorem pieces_of_not_mem {t : Text} (h : '\n' ∉ t) : pieces t = [t] := by
  rw [pieces, List.splitOn_eq_singleton h]

/-- A line feed **separates** pieces. -/
theorem pieces_append_newline (s t : Text) : pieces (s ++ '\n' :: t) = pieces s ++ pieces t := by
  rw [pieces, pieces, pieces, List.splitOn_append_cons_self]

/-- There is one piece more than there are line feeds. -/
theorem length_pieces (t : Text) : (pieces t).length = t.count '\n' + 1 :=
  length_splitOn '\n' t

/-- A text without line feeds is one line, if there is anything in it. -/
theorem lines_of_not_mem {t : Text} (h : '\n' ∉ t) (hne : t ≠ []) : lines t = [t] := by
  induction t with
  | nil => exact absurd rfl hne
  | cons c t ih =>
      obtain ⟨hc, ht⟩ := not_or.mp (mt List.mem_cons.mpr h)
      rw [lines_cons_of_ne (Ne.symm hc)]
      cases t with
      | nil => rfl
      | cons d t => rw [ih ht (List.cons_ne_nil d t)]; rfl

/-- A line feed **ends** a line. -/
theorem lines_append_newline {line : Text} (h : '\n' ∉ line) (t : Text) :
    lines (line ++ '\n' :: t) = (line ++ ['\n']) :: lines t := by
  induction line with
  | nil => exact lines_newline_cons t
  | cons c line ih =>
      obtain ⟨hc, hline⟩ := not_or.mp (mt List.mem_cons.mpr h)
      rw [List.cons_append, lines_cons_of_ne (Ne.symm hc), ih hline]
      rfl

/-- A line without a line feed is its own content. -/
theorem content_of_not_mem {line : Text} (h : '\n' ∉ line) : content line = line :=
  if_neg fun hlast => h (List.mem_of_getLast? hlast)

/-- The line feed at the end of a line is not part of its content. -/
theorem content_append_newline (line : Text) : content (line ++ ['\n']) = line := by
  rw [content, List.getLast?_concat, if_pos rfl, List.dropLast_concat]

/-- **The two views of lines**: pieces are contents of lines, and there is an empty one after them
if the text is empty or ends with a line feed. -/
theorem pieces_eq (t : Text) : pieces t = (lines t).map content ++
    if t = [] ∨ t.getLast? = some '\n' then [[]] else [] := by
  induction t using lineInduction with
  | last line h =>
      rw [pieces_of_not_mem h]
      by_cases hne : line = []
      · subst hne
        rfl
      · have hlast : line.getLast? ≠ some '\n' := fun hlast => h (List.mem_of_getLast? hlast)
        rw [lines_of_not_mem h hne, if_neg (not_or.mpr ⟨hne, hlast⟩), List.map_singleton,
          content_of_not_mem h, List.append_nil]
  | more line t h ih =>
      have hlast : (line ++ '\n' :: t = [] ∨ (line ++ '\n' :: t).getLast? = some '\n') ↔
          (t = [] ∨ t.getLast? = some '\n') := by
        cases t with
        | nil => simp
        | cons c t => simp [List.getLast?_append]
      rw [pieces_append_newline, pieces_of_not_mem h, lines_append_newline h, ih, List.map_cons,
        content_append_newline]
      simp only [hlast, List.cons_append, List.nil_append]

/-- The content of a line is the piece with its number. -/
theorem getElem?_pieces_of_line? {t line : Text} {i : Nat} (h : t.line? i = some line) :
    (pieces t)[i]? = some (content line) := by
  rw [pieces_eq, List.getElem?_append_left, List.getElem?_map, show t.lines[i]? = some line from h,
    Option.map_some]
  obtain ⟨hlt, -⟩ := List.getElem?_eq_some_iff.mp h
  rwa [List.length_map]

/-- A piece that is **not empty** is the content of the line with its number. -/
theorem exists_line?_of_getElem?_pieces {t piece : Text} {i : Nat}
    (h : (pieces t)[i]? = some piece) (hne : piece ≠ []) :
    ∃ line, t.line? i = some line ∧ content line = piece := by
  rw [pieces_eq, List.getElem?_append] at h
  split at h
  next =>
    rw [List.getElem?_map, Option.map_eq_some_iff] at h
    exact h
  next =>
    split at h
    next =>
      obtain rfl := List.mem_singleton.mp (List.mem_of_getElem? h)
      exact absurd rfl hne
    next => cases h

end Text

/-! ### The position after two texts -/

/-- A position of a text that starts at another position. -/
def Position.after (q p : Position) : Position where
  line := p.line + q.line
  column := if q.line = 0 then p.column + q.column else q.column

namespace Text

/-- The position **after two texts** is the one after the second, which starts at the one after the
first. -/
theorem endOf_append (s t : Text) : endOf (s ++ t) = (endOf t).after (endOf s) := by
  induction s with
  | nil => simp [Position.after]
  | cons c s ih =>
      by_cases hc : c = '\n'
      · subst hc
        simp only [List.cons_append, endOf_newline_cons, ih, Position.after]
        rw [Nat.add_right_comm]
      by_cases hs : '\n' ∈ s
      · rw [List.cons_append, endOf_cons_of_mem hc (List.mem_append_left t hs),
          endOf_cons_of_mem hc hs, ih]
      have hcs : '\n' ∉ c :: s := by
        rw [List.mem_cons, not_or]
        exact ⟨Ne.symm hc, hs⟩
      by_cases ht : '\n' ∈ t
      -- The columns of the first text do not matter any more after a line feed in the second.
      · have hline : (endOf t).line ≠ 0 := Nat.pos_iff_ne_zero.mp (List.count_pos_iff.mpr ht)
        rw [List.cons_append, endOf_cons_of_mem hc (List.mem_append_right s ht), ih,
          endOf_of_not_mem hs, endOf_of_not_mem hcs]
        simp only [Position.after, if_neg hline]
      · have hall : '\n' ∉ c :: s ++ t := by
          rw [List.mem_append, not_or]
          exact ⟨hcs, ht⟩
        rw [endOf_of_not_mem hall, endOf_of_not_mem hcs, endOf_of_not_mem ht, units_append]
        rfl

/-- After a line feed columns are counted anew. -/
theorem endOf_append_newline (s t : Text) :
    endOf (s ++ '\n' :: t) = (endOf t).after ⟨s.count '\n' + 1, 0⟩ := by
  rw [endOf_append, endOf_newline_cons]
  simp only [Position.after, endOf, Nat.succ_ne_zero, if_false, Nat.zero_add, ite_self]
  rw [Nat.add_assoc, Nat.add_comm 1]

end Text

end LangServer
