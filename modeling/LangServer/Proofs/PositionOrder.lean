import Mathlib.Data.Prod.Lex
import LangServer.Proofs.Columns
import LangServer.Proofs.LineViews

/-!
# Positions and Offsets in Order

Positions are ordered by their lines and, on one line, by their columns. This module shows that
their offsets are in the same order, also if there are no such positions: a column may lie inside a
character or behind the content of its line, and a line beyond the last one. So the ends of a range
that come in order are never swapped.

## The argument

All offsets of one line lie between the start of the line and that of the next one, which is how
different lines are compared (`lineStart_le_offsetAt`, `offsetAt_le_lineStart_succ`). A line that
ends with a line feed is longer than its content, so that no offset of it reaches the start of the
next line. On one line a larger column has more of the line before it.

## Main statements

* `Text.monotone_offsetAt`: offsets are in the order of their positions.
* `Text.offsetAt_lt_of_line_lt`: offsets of different lines are different.
* `Text.countedOffsetAt?_eq`: counting columns in 32 bits gives the offset of a position.
* `Text.offsets_in_order`: all of this, and what it means for an edit.
-/

namespace LangServer

namespace Position

/-- The line, then the column. -/
def key (p : Position) : ℕ ×ₗ ℕ :=
  toLex (p.line, p.column)

/-- A position is known by its line and its column. -/
theorem key_injective : Function.Injective key := by
  rintro ⟨line, column⟩ ⟨line', column'⟩ h
  obtain ⟨rfl, rfl⟩ := Prod.mk.inj (toLex_inj.mp h)
  rfl

/-- Positions are in the **order** of their lines and, on one line, of their columns. -/
instance : LinearOrder Position :=
  LinearOrder.lift' key key_injective

/-- Two positions are in order if their lines are, or else their columns on the same line. -/
theorem le_iff {p q : Position} :
    p ≤ q ↔ p.line < q.line ∨ p.line = q.line ∧ p.column ≤ q.column :=
  Prod.Lex.toLex_le_toLex

end Position

namespace Text

/-! ### The starts of lines -/

/-- Lines start **one after the other**. -/
theorem lineStart_mono (text : Text) : Monotone text.lineStart := by
  intro i j hij
  obtain ⟨rest, hrest⟩ := List.take_prefix_take_left (l := text.lines) hij
  refine byteSize_le_of_isPrefix ⟨rest.flatten, ?_⟩
  rw [← List.flatten_append, hrest]

/-- The next line starts after the whole of this one. -/
theorem lineStart_succ {text line : Text} {i : Nat} (h : text.line? i = some line) :
    text.lineStart (i + 1) = text.lineStart i + byteSize line := by
  have htake : text.lines.take (i + 1) = text.lines.take i ++ [line] := by
    rw [List.take_add_one, show text.lines[i]? = some line from h]
    rfl
  rw [lineStart, htake, List.flatten_append, byteSize_append, List.flatten_singleton]
  rfl

/-! ### Offsets on one line -/

/-- A larger column has **no smaller offset**. -/
theorem byteOffset_mono (line : Text) : Monotone (byteOffset line) := by
  intro k k' hk
  refine byteSize_le_of_isPrefix ?_
  rcases Nat.le_total k' (units line) with hle | hge
  · exact takeUnits_isPrefix_of_le (takeUnits_isPrefix k' line)
      (hk.trans (le_units_takeUnits hle))
  · rw [takeUnits_of_units_le hge]
    exact takeUnits_isPrefix k line

/-- So it is for the positions of one line, **whether or not** there is such a line. -/
theorem offsetAt_le_of_column_le (text : Text) (i : Nat) {k k' : Nat} (hk : k ≤ k') :
    text.offsetAt ⟨i, k⟩ ≤ text.offsetAt ⟨i, k'⟩ := by
  cases h : text.line? i with
  | none => rw [offsetAt_of_line?_eq_none h, offsetAt_of_line?_eq_none h]
  | some line =>
      rw [offsetAt_of_line? h, offsetAt_of_line? h]
      exact Nat.add_le_add_left (byteOffset_mono (content line) hk) _

/-- A position is not before the start of its line. -/
theorem lineStart_le_offsetAt (text : Text) (p : Position) :
    text.lineStart p.line ≤ text.offsetAt p := by
  rw [← offsetAt_line_start]
  exact offsetAt_le_of_column_le text p.line (Nat.zero_le p.column)

/-- A position is not behind the content of its line. -/
theorem offsetAt_le_content {text line : Text} {p : Position} (h : text.line? p.line = some line) :
    text.offsetAt p ≤ text.lineStart p.line + byteSize (content line) := by
  rw [offsetAt_of_line? h]
  exact Nat.add_le_add_left (byteSize_le_of_isPrefix (takeUnits_isPrefix p.column _)) _

/-! ### Offsets on different lines -/

/-- A position is not behind the start of the **next line**. -/
theorem offsetAt_le_lineStart_succ (text : Text) (p : Position) :
    text.offsetAt p ≤ text.lineStart (p.line + 1) := by
  cases h : text.line? p.line with
  | none =>
      rw [offsetAt_of_line?_eq_none h, ← lineStart_of_line?_eq_none h]
      exact lineStart_mono text (Nat.le_succ p.line)
  | some line =>
      have hcontent := byteSize_le_of_isPrefix (content_isPrefix line)
      have hle := offsetAt_le_content h
      rw [lineStart_succ h]
      omega

/-- A line with a line feed at its end is **longer than its content**. -/
theorem byteSize_content_lt {line : Text} (h : line.getLast? = some '\n') :
    byteSize (content line) < byteSize line := by
  obtain ⟨body, rfl⟩ := List.getLast?_eq_some_iff.mp h
  have hpos := Char.utf8Size_pos '\n'
  rw [content_append_newline, byteSize_append, byteSize_cons]
  omega

/-- A line with another one after it ends with a line feed. -/
theorem getLast?_of_line? {text line : Text} {i : Nat} (h : text.line? i = some line)
    (hi : i + 1 < text.lines.length) : line.getLast? = some '\n' := by
  refine (linesOf_lines text).ended line (List.mem_of_getElem? (i := i) ?_)
  rw [List.getElem?_dropLast, if_pos (by omega)]
  exact h

/-- Offsets are **in the order** of their positions. -/
theorem monotone_offsetAt (text : Text) : Monotone text.offsetAt := by
  intro p q hpq
  rcases Position.le_iff.mp hpq with hline | ⟨hline, hcolumn⟩
  -- On different lines the columns do not matter: the start of the next line is in between.
  · calc text.offsetAt p
      _ ≤ text.lineStart (p.line + 1) := offsetAt_le_lineStart_succ text p
      _ ≤ text.lineStart q.line := lineStart_mono text hline
      _ ≤ text.offsetAt q := lineStart_le_offsetAt text q
  · obtain ⟨line, column⟩ := p
    obtain rfl : line = q.line := hline
    exact offsetAt_le_of_column_le text q.line hcolumn

/-- Offsets of **different lines** are different, however large the column on the first one is. -/
theorem offsetAt_lt_of_line_lt {text : Text} {p q : Position} (hline : p.line < q.line)
    (hq : q.line < text.lines.length) : text.offsetAt p < text.offsetAt q := by
  obtain ⟨line, hp⟩ : ∃ line, text.line? p.line = some line :=
    Option.isSome_iff_exists.mp ((isSome_line?_iff text p.line).mpr (by omega))
  have hended : line.getLast? = some '\n' := getLast?_of_line? hp (by omega)
  calc text.offsetAt p
    _ ≤ text.lineStart p.line + byteSize (content line) := offsetAt_le_content hp
    _ < text.lineStart p.line + byteSize line := Nat.add_lt_add_left (byteSize_content_lt hended) _
    _ = text.lineStart (p.line + 1) := (lineStart_succ hp).symm
    _ ≤ text.lineStart q.line := lineStart_mono text hline
    _ ≤ text.offsetAt q := lineStart_le_offsetAt text q

/-! ### Counting in 32 bits -/

/-- The offset of a column in a line of the given lines by counting in 32 bits, or nothing if the
counter overflows. -/
def countedOffsetIn? (line : Nat) (column : UInt32) : List Text → Option Nat
  | [] => some 0
  | l :: ls =>
    match line with
    | 0 => countedOffset? (content l) column
    | line + 1 => (countedOffsetIn? line column ls).map (byteSize l + ·)

/-- The offset of a position of two numbers of 32 bits, with its column **counted in 32 bits**, or
nothing if the counter overflows. -/
def countedOffsetAt? (text : Text) (line column : UInt32) : Option Nat :=
  countedOffsetIn? line.toNat column text.lines

/-- Counting gives the offset among lines in which the counter does not overflow. -/
theorem countedOffsetIn?_eq {ls : List Text} (h : ∀ l ∈ ls, units l < UInt32.size) (line : Nat)
    (column : UInt32) :
    countedOffsetIn? line column ls = some (offsetIn line column.toNat ls) := by
  induction ls generalizing line with
  | nil => rw [countedOffsetIn?, offsetIn]
  | cons l ls ih =>
      obtain ⟨hl, hls⟩ := List.forall_mem_cons.mp h
      cases line with
      | zero =>
          have hcontent := units_le_of_isPrefix (content_isPrefix l)
          exact countedOffset?_eq (Nat.lt_of_le_of_lt hcontent hl) column
      | succ line =>
          rw [countedOffsetIn?, ih hls line]
          rfl

/-- **Counting in 32 bits** gives the offset of a position, if no line has as many units as the
counter has values. -/
theorem countedOffsetAt?_eq {text : Text} (h : ∀ line ∈ text.lines, units line < UInt32.size)
    (line column : UInt32) :
    text.countedOffsetAt? line column = some (text.offsetAt ⟨line.toNat, column.toNat⟩) :=
  countedOffsetIn?_eq h line.toNat column

/-! ### The result -/

/-- **Offsets are in the order of their positions**, whether or not there are such positions, and
those of different lines of the text are different. So if the ends of a range are in order, an edit
replaces what is between their offsets as they stand. The offsets are those that come of counting
columns in 32 bits, in a text no line of which overflows the counter. -/
theorem offsets_in_order (text : Text) :
    (∀ p q : Position, p ≤ q → text.offsetAt p ≤ text.offsetAt q) ∧
    (∀ p q : Position, p.line < q.line → q.line < text.lines.length →
      text.offsetAt p < text.offsetAt q) ∧
    (∀ (p q : Position) (new : Text), p ≤ q →
      text.applyChange ⟨some ⟨p, q⟩, new⟩ =
        text.splice (text.offsetAt p) (text.offsetAt q) new) ∧
    ((∀ line ∈ text.lines, units line < UInt32.size) → ∀ line column : UInt32,
      text.countedOffsetAt? line column = some (text.offsetAt ⟨line.toNat, column.toNat⟩)) := by
  refine ⟨fun p q hpq => monotone_offsetAt text hpq, fun p q => offsetAt_lt_of_line_lt, ?_,
    fun h => countedOffsetAt?_eq h⟩
  intro p q new hpq
  have hle := monotone_offsetAt text hpq
  rw [applyChange_eq_splice, Nat.min_eq_left hle, Nat.max_eq_right hle]

/-- Two lines, the first of which has a character of two units. The column inside of it and one far
behind the line come before the first one of the next line, and that one comes before a line that is
not there. -/
theorem offsets_in_order_clamped :
    offsetAt "a😀\nb".toList ⟨0, 2⟩ ≤ offsetAt "a😀\nb".toList ⟨0, 9⟩ ∧
      offsetAt "a😀\nb".toList ⟨0, 9⟩ < offsetAt "a😀\nb".toList ⟨1, 0⟩ ∧
      offsetAt "a😀\nb".toList ⟨1, 0⟩ ≤ offsetAt "a😀\nb".toList ⟨7, 0⟩ ∧
      applyChange "a😀\nb".toList ⟨some ⟨⟨0, 9⟩, ⟨7, 0⟩⟩, []⟩ =
        splice "a😀\nb".toList 5 7 [] ∧
      countedOffsetAt? "a😀\nb".toList 0 9 = some 5 := by
  obtain ⟨hle, hlt, hedit, hcount⟩ := offsets_in_order "a😀\nb".toList
  have hlines : ∀ line ∈ lines "a😀\nb".toList, units line < UInt32.size := by decide
  exact ⟨hle _ _ (Position.le_iff.mpr (by decide)), hlt _ _ (by decide) (by decide),
    hle _ _ (Position.le_iff.mpr (by decide)), hedit _ _ [] (Position.le_iff.mpr (by decide)),
    hcount hlines 0 9⟩

end Text

end LangServer
