import Mathlib.Order.Bounds.Defs
import LangServer.Proofs.Hovering
import LangServer.Proofs.Positions

/-!
# Edits at any Positions

A client sends positions, and an edit is made between byte offsets. A position need not exist: its
line or its column may be too large, or its column may lie inside a character of two units. This
module says which offset is taken for it, and that an edit between the offsets of any two positions
can be carried out.

## Boundaries

An offset is a boundary of a text if it does not lie inside a character or beyond the end
(`IsBoundary`). Text can be taken out and put in at boundaries only. `replace?` is the replacement
that insists on them: it is refused if one of its offsets is no boundary, or if the two come in the
wrong order.

## Main statements

* `Text.placeOf_byteOffset`: which boundary of a line is taken for a column.
* `Text.isBoundary_offsetAt`: the offset of a position is a boundary.
* `Text.exists_parts_of_edit`: what an edit between two positions does.
* `Text.edit_anywhere`: offsets and edits for any positions.
-/

namespace LangServer.Text

/-! ### Boundaries -/

/-- A byte offset is a **boundary** of a text if it is where some part at the start of it ends. -/
def IsBoundary (t : Text) (n : Nat) : Prop :=
  ∃ s, s <+: t ∧ byteSize s = n

/-- A part at the start of a text is no longer than the text. -/
theorem byteSize_le_of_isPrefix {s t : Text} (h : s <+: t) : byteSize s ≤ byteSize t := by
  obtain ⟨u, rfl⟩ := h
  rw [byteSize_append]
  exact Nat.le_add_right _ _

/-- A boundary is not beyond the end. -/
theorem IsBoundary.le_byteSize {t : Text} {n : Nat} (h : t.IsBoundary n) : n ≤ byteSize t := by
  obtain ⟨s, hs, rfl⟩ := h
  exact byteSize_le_of_isPrefix hs

/-- The column of a boundary is the units of the part before it. -/
theorem column_of_isPrefix {s t : Text} (h : s <+: t) : t.column (byteSize s) = units s := by
  obtain ⟨u, rfl⟩ := h
  exact column_byteSize s u

/-- Two boundaries cut a text into **three parts**. -/
theorem IsBoundary.exists_parts {t : Text} {a b : Nat} (ha : t.IsBoundary a) (hb : t.IsBoundary b)
    (hab : a ≤ b) : ∃ before middle after, t = before ++ middle ++ after ∧ byteSize before = a ∧
      byteSize (before ++ middle) = b := by
  obtain ⟨s, hs, rfl⟩ := ha
  obtain ⟨u, hu, rfl⟩ := hb
  have hsu : s <+: u := prefix_of_units_le hs hu ((byteSize_le_iff hs hu).mp hab)
  obtain ⟨middle, rfl⟩ := hsu
  obtain ⟨after, rfl⟩ := hu
  exact ⟨s, middle, after, rfl, rfl, rfl⟩

/-! ### Columns -/

/-- What is before a column is a part at the start of the line. -/
theorem takeUnits_isPrefix (k : Nat) (t : Text) : takeUnits k t <+: t :=
  ⟨dropUnits k t, takeUnits_append_dropUnits k t⟩

/-- What is before a column of a line has at least as many units. -/
theorem le_units_takeUnits {k : Nat} {t : Text} (h : k ≤ units t) : k ≤ units (takeUnits k t) := by
  induction t generalizing k with
  | nil => exact h
  | cons c t ih =>
      rw [takeUnits]
      split
      next hk => omega
      next =>
        rw [units_cons] at h ⊢
        have hrest := ih (k := k - unitWidth c) (by omega)
        omega

/-- What is before a column of a line is the **shortest part** with that many units. -/
theorem takeUnits_isPrefix_of_le {k : Nat} {s t : Text} (hs : s <+: t) (h : k ≤ units s) :
    takeUnits k t <+: s := by
  induction t generalizing k s with
  | nil => exact List.nil_prefix
  | cons c t ih =>
      rw [takeUnits]
      split
      next => exact List.nil_prefix
      next hk =>
        cases s with
        | nil => exact absurd (Nat.le_zero.mp h) hk
        | cons d s =>
            obtain ⟨rfl, hst⟩ := List.cons_prefix_cons.mp hs
            rw [units_cons] at h
            exact List.cons_prefix_cons.mpr ⟨rfl, ih hst (by omega)⟩

/-- What is before a column beyond the end is the whole line. -/
theorem takeUnits_of_units_le {k : Nat} {t : Text} (h : units t ≤ k) : takeUnits k t = t := by
  induction t generalizing k with
  | nil => rfl
  | cons c t ih =>
      have hpos := unitWidth_pos c
      rw [units_cons] at h
      rw [takeUnits, if_neg (by omega), ih (by omega)]

/-- The **place of a column** in a line is the least boundary whose column is no smaller, and the
end of the line if there is none. -/
def PlaceOf (line : Text) (column n : Nat) : Prop :=
  IsLeast {m | line.IsBoundary m ∧ column ≤ line.column m} n ∨
    (∀ m, line.IsBoundary m → line.column m < column) ∧ n = byteSize line

/-- **The offset of a column** is its place. -/
theorem placeOf_byteOffset (line : Text) (column : Nat) :
    line.PlaceOf column (byteOffset line column) := by
  have htake := takeUnits_isPrefix column line
  rcases Nat.lt_or_ge (units line) column with hlt | hge
  · right
    constructor
    · rintro m ⟨s, ⟨u, rfl⟩, rfl⟩
      rw [column_byteSize]
      rw [units_append] at hlt
      omega
    · rw [byteOffset, takeUnits_of_units_le (Nat.le_of_lt hlt)]
  · left
    refine ⟨⟨⟨takeUnits column line, htake, rfl⟩, ?_⟩, ?_⟩
    · rw [byteOffset, column_of_isPrefix htake]
      exact le_units_takeUnits hge
    · rintro m ⟨⟨s, hs, rfl⟩, hm⟩
      rw [column_of_isPrefix hs] at hm
      exact byteSize_le_of_isPrefix (takeUnits_isPrefix_of_le hs hm)

/-! ### Positions -/

/-- A line has its content at its start. -/
theorem content_isPrefix (line : Text) : content line <+: line := by
  rw [content]
  split
  next => exact List.dropLast_prefix line
  next => exact List.prefix_refl line

/-- A column of a line is counted after the lines before it. -/
theorem offsetIn_of_getElem?_eq_some {ls : List Text} {i : Nat} {line : Text}
    (h : ls[i]? = some line) (column : Nat) :
    offsetIn i column ls = byteSize (ls.take i).flatten + byteOffset (content line) column := by
  induction ls generalizing i with
  | nil => cases h
  | cons l ls ih =>
      cases i with
      | zero =>
          obtain rfl : l = line := Option.some.inj h
          simp [offsetIn]
      | succ i =>
          have hrest := ih (i := i) h
          simp only [offsetIn, hrest, List.take_succ_cons, List.flatten_cons, byteSize_append,
            Nat.add_assoc]

/-- Beyond the last line is the end. -/
theorem offsetIn_of_getElem?_eq_none {ls : List Text} {i : Nat} (h : ls[i]? = none)
    (column : Nat) : offsetIn i column ls = byteSize ls.flatten := by
  induction ls generalizing i with
  | nil => simp [offsetIn]
  | cons l ls ih =>
      cases i with
      | zero => cases h
      | succ i =>
          have hrest := ih (i := i) h
          simp only [offsetIn, hrest, List.flatten_cons, byteSize_append]

/-- The offset of a position on a line. -/
theorem offsetAt_of_line? {text line : Text} {p : Position} (h : text.line? p.line = some line) :
    text.offsetAt p =
      byteSize (text.lines.take p.line).flatten + byteOffset (content line) p.column :=
  offsetIn_of_getElem?_eq_some h p.column

/-- The offset of a position beyond the last line. -/
theorem offsetAt_of_line?_eq_none {text : Text} {p : Position} (h : text.line? p.line = none) :
    text.offsetAt p = byteSize text := by
  rw [offsetAt, offsetIn_of_getElem?_eq_none h, flatten_lines]

/-- A line of a text with what comes before and after it. -/
theorem eq_append_line {text line : Text} {i : Nat} (h : text.line? i = some line) :
    text = (text.lines.take i).flatten ++ line ++ (text.lines.drop (i + 1)).flatten := by
  obtain ⟨hlt, rfl⟩ := List.getElem?_eq_some_iff.mp h
  have hdrop : text.lines[i] ++ (text.lines.drop (i + 1)).flatten =
      (text.lines.drop i).flatten := by
    rw [← List.flatten_cons, List.getElem_cons_drop]
  rw [List.append_assoc, hdrop, ← List.flatten_append, List.take_append_drop, flatten_lines]

/-- **The offset of a position is a boundary**, whether or not there is such a position. -/
theorem isBoundary_offsetAt (text : Text) (p : Position) :
    text.IsBoundary (text.offsetAt p) := by
  cases h : text.line? p.line with
  | none => exact ⟨text, List.prefix_refl text, (offsetAt_of_line?_eq_none h).symm⟩
  | some line =>
      obtain ⟨rest, hrest⟩ :=
        (takeUnits_isPrefix p.column (content line)).trans (content_isPrefix line)
      refine ⟨(text.lines.take p.line).flatten ++ takeUnits p.column (content line), ?_, ?_⟩
      · refine ⟨rest ++ (text.lines.drop (p.line + 1)).flatten, ?_⟩
        conv_rhs => rw [eq_append_line h, ← hrest]
        simp only [List.append_assoc]
      · rw [byteSize_append, offsetAt_of_line? h]
        rfl

/-! ### Edits -/

/-- The text with the part between two byte offsets replaced, or nothing if the offsets are **out of
order**, if they are beyond the end of the text, or if one of them is inside a character. -/
def replace? (text : Text) (a b : Nat) (new : Text) : Option Text :=
  if a ≤ b ∧ b ≤ byteSize text then
    (takeBytes? a text).bind fun before =>
      (takeBytes? b text).map fun upTo => before ++ new ++ text.drop upTo.length
  else none

/-- The middle one of three parts of a text can be replaced. -/
theorem replace?_append (before middle after new : Text) :
    replace? (before ++ middle ++ after) (byteSize before) (byteSize (before ++ middle)) new =
      some (before ++ new ++ after) := by
  have hstart : takeBytes? (byteSize before) (before ++ middle ++ after) = some before := by
    rw [List.append_assoc, takeBytes?_byteSize_append]
  have hstop := takeBytes?_byteSize_append (before ++ middle) after
  have hle : byteSize before ≤ byteSize (before ++ middle) ∧
      byteSize (before ++ middle) ≤ byteSize (before ++ middle ++ after) := by
    rw [byteSize_append _ after, byteSize_append before middle]
    exact ⟨Nat.le_add_right _ _, Nat.le_add_right _ _⟩
  rw [replace?, if_pos hle, hstart, hstop, Option.bind_some, Option.map_some, List.drop_left]

/-- An edit between two positions replaces what is between their offsets, **the smaller one**
first. -/
theorem applyChange_eq_splice (text : Text) (p q : Position) (new : Text) :
    text.applyChange ⟨some ⟨p, q⟩, new⟩ =
      text.splice (min (text.offsetAt p) (text.offsetAt q))
        (max (text.offsetAt p) (text.offsetAt q)) new := by
  simp only [applyChange]
  split
  next hle => rw [Nat.min_eq_left hle, Nat.max_eq_right hle]
  next hnot =>
    have hge := Nat.le_of_not_le hnot
    rw [Nat.min_eq_right hge, Nat.max_eq_left hge]

/-- **What an edit between two positions does**: the text is cut into three parts at the offsets of
the positions, and the middle one is replaced. -/
theorem exists_parts_of_edit (text : Text) (p q : Position) (new : Text) :
    ∃ before middle after, text = before ++ middle ++ after ∧
      byteSize before = min (text.offsetAt p) (text.offsetAt q) ∧
      byteSize (before ++ middle) = max (text.offsetAt p) (text.offsetAt q) ∧
      text.applyChange ⟨some ⟨p, q⟩, new⟩ = before ++ new ++ after := by
  have hp := isBoundary_offsetAt text p
  have hq := isBoundary_offsetAt text q
  have ha : text.IsBoundary (min (text.offsetAt p) (text.offsetAt q)) := by
    rcases Nat.le_or_ge (text.offsetAt p) (text.offsetAt q) with hle | hge
    · rwa [Nat.min_eq_left hle]
    · rwa [Nat.min_eq_right hge]
  have hb : text.IsBoundary (max (text.offsetAt p) (text.offsetAt q)) := by
    rcases Nat.le_or_ge (text.offsetAt p) (text.offsetAt q) with hle | hge
    · rwa [Nat.max_eq_right hle]
    · rwa [Nat.max_eq_left hge]
  obtain ⟨before, middle, after, htext, hbefore, hmiddle⟩ := ha.exists_parts hb (by omega)
  refine ⟨before, middle, after, htext, hbefore, hmiddle, ?_⟩
  rw [applyChange_eq_splice, ← hbefore, ← hmiddle, htext, splice_append]

/-- **Any positions will do for an edit.** The offset of a position is a boundary of the text. On a
line that exists it is the place of the column in the content of the line, after the lines before
it, and it is the end of the text otherwise. So an edit between any two positions can be carried
out: it is never refused, it keeps what is before the smaller one and after the larger one of the
two offsets, and it does not matter which position comes first. -/
theorem edit_anywhere (text : Text) (p q : Position) (new : Text) :
    (text.IsBoundary (text.offsetAt p) ∧ text.offsetAt p ≤ byteSize text ∧
      match text.line? p.line with
      | some line => ∃ n, text.offsetAt p = byteSize (text.lines.take p.line).flatten + n ∧
          (content line).PlaceOf p.column n
      | none => text.offsetAt p = byteSize text) ∧
    (∃ before middle after, text = before ++ middle ++ after ∧
      byteSize before = min (text.offsetAt p) (text.offsetAt q) ∧
      byteSize (before ++ middle) = max (text.offsetAt p) (text.offsetAt q) ∧
      text.applyChange ⟨some ⟨p, q⟩, new⟩ = before ++ new ++ after) ∧
    text.replace? (min (text.offsetAt p) (text.offsetAt q))
      (max (text.offsetAt p) (text.offsetAt q)) new =
        some (text.applyChange ⟨some ⟨p, q⟩, new⟩) ∧
    text.applyChange ⟨some ⟨q, p⟩, new⟩ = text.applyChange ⟨some ⟨p, q⟩, new⟩ := by
  have hboundary := isBoundary_offsetAt text p
  refine ⟨⟨hboundary, hboundary.le_byteSize, ?_⟩, exists_parts_of_edit text p q new, ?_, ?_⟩
  · cases h : text.line? p.line with
    | none => exact offsetAt_of_line?_eq_none h
    | some line => exact ⟨_, offsetAt_of_line? h, placeOf_byteOffset (content line) p.column⟩
  · obtain ⟨before, middle, after, htext, hbefore, hmiddle, hedit⟩ :=
      exists_parts_of_edit text p q new
    rw [hedit, ← hbefore, ← hmiddle]
    conv_lhs => rw [htext]
    exact replace?_append before middle after new
  · rw [applyChange_eq_splice, applyChange_eq_splice, Nat.min_comm, Nat.max_comm]

/-- A column inside a character of two units, and a line too far down. -/
example : offsetAt "a😀b\n".toList ⟨0, 2⟩ = 5 ∧ offsetAt "a😀b\n".toList ⟨7, 3⟩ = 7 ∧
    replace? "a😀b\n".toList 2 7 [] = none := by
  decide

end LangServer.Text
