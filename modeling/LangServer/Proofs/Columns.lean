import LangServer.Proofs.Boundaries

/-!
# Columns and Offsets

A place of a line has a column, by which a client knows it, and an offset, by which the text is cut.
Reports go from offsets to columns, edits from columns to offsets. This module shows how the two
ways fit together: on the boundaries of a line they undo each other, and for a column that is no
boundary's the offset is the nearest one from above.

## Inside a character

A number is inside a character of a text by some measure if it is more than the text before the
character has and less than the text up to and with it (`Inside`). By units only characters beyond
the basic plane have an inside, and it is a single column.

## Counting in 32 bits

The offset of a column is found by counting units from left to right. `countedOffset?` does that in
a counter of 32 bits and gives nothing if the counter overflows, which it does for no line with
fewer units than such a counter has values.

## Main statements

* `Text.countedOffset?_eq`: counting in 32 bits gives the offset of a column.
* `Text.byteOffset_le_iff`: the offset of a column compared with a boundary.
* `Text.column_offset_adjoint`: columns and offsets of a line.
-/

namespace LangServer.Text

/-! ### Inside a character -/

/-- A number is **inside a character** of a text by a measure of texts. -/
def Inside (size : Text → Nat) (t : Text) (n : Nat) : Prop :=
  ∃ s c, s ++ [c] <+: t ∧ size s < n ∧ n < size (s ++ [c])

/-- A character takes two units at most. -/
theorem unitWidth_le_two (c : Char) : unitWidth c ≤ 2 := by
  rw [unitWidth]
  split <;> decide

/-- A character ends **one column after** the column inside it. -/
theorem units_concat_of_inside {s : Text} {c : Char} {k : Nat} (hlt : units s < k)
    (hgt : k < units (s ++ [c])) : units (s ++ [c]) = k + 1 := by
  have hwidth := unitWidth_le_two c
  rw [units_append, units_cons, units_nil] at hgt ⊢
  omega

/-- A part at the start of a line has no more units than the line. -/
theorem units_le_of_isPrefix {s t : Text} (h : s <+: t) : units s ≤ units t := by
  obtain ⟨u, rfl⟩ := h
  rw [units_append]
  exact Nat.le_add_right _ _

/-- The end of a part at the start of a line is **not inside** a character. -/
theorem not_inside_units_of_isPrefix {s line : Text} (hs : s <+: line) :
    ¬ line.Inside units (units s) := by
  rintro ⟨u, c, huc, hlt, hgt⟩
  have hsuc : s <+: u ++ [c] := prefix_of_units_le hs huc hgt.le
  rcases List.prefix_concat_iff.mp hsuc with rfl | hsu
  · exact Nat.lt_irrefl _ hgt
  · exact Nat.not_le_of_lt hlt (units_le_of_isPrefix hsu)

/-! ### From offsets to columns -/

/-- There is **no cut** inside a character. -/
theorem takeBytes?_of_inside {t : Text} {n : Nat} (h : t.Inside byteSize n) :
    takeBytes? n t = none := by
  obtain ⟨s, c, hsc, hlt, hgt⟩ := h
  induction s generalizing t n with
  | nil =>
      obtain ⟨u, rfl⟩ := hsc
      rw [byteSize_nil] at hlt
      rw [List.nil_append, byteSize_cons, byteSize_nil] at hgt
      rw [List.nil_append, List.singleton_append, takeBytes?, if_neg (by omega), if_neg (by omega)]
  | cons d s ih =>
      obtain ⟨u, rfl⟩ := hsc
      rw [byteSize_cons] at hlt
      rw [List.cons_append, byteSize_cons] at hgt
      have hrest : takeBytes? (n - d.utf8Size) (s ++ [c] ++ u) = none :=
        ih (List.prefix_append _ u) (by omega) (by omega)
      rw [List.cons_append, List.cons_append, takeBytes?, if_neg (by omega), if_pos (by omega),
        hrest, Option.map_none]

/-- What is before an offset beyond the end is the whole text. -/
theorem takeBytes?_of_byteSize_le {t : Text} {n : Nat} (h : byteSize t ≤ n) :
    takeBytes? n t = some t := by
  induction t generalizing n with
  | nil => rfl
  | cons c t ih =>
      have hpos := c.utf8Size_pos
      rw [byteSize_cons] at h
      rw [takeBytes?, if_neg (by omega), if_pos (by omega), ih (by omega), Option.map_some]

/-- An offset inside a character has the column of the **line's end**. -/
theorem column_of_inside {line : Text} {n : Nat} (h : line.Inside byteSize n) :
    line.column n = units line := by
  rw [column, takeBytes?_of_inside h, Option.getD_none]

/-- So has an offset beyond the end. -/
theorem column_of_byteSize_le {line : Text} {n : Nat} (h : byteSize line ≤ n) :
    line.column n = units line := by
  rw [column, takeBytes?_of_byteSize_le h, Option.getD_some]

/-! ### From columns to offsets -/

/-- What is before the column of a boundary is the part that ends there. -/
theorem takeUnits_units {s line : Text} (hs : s <+: line) : takeUnits (units s) line = s := by
  have hshort : takeUnits (units s) line <+: s := takeUnits_isPrefix_of_le hs (Nat.le_refl _)
  have hlong : s <+: takeUnits (units s) line :=
    prefix_of_units_le hs (takeUnits_isPrefix _ line)
      (le_units_takeUnits (units_le_of_isPrefix hs))
  exact hshort.eq_of_length_le hlong.length_le

/-- The offset of the column of a boundary **is that boundary**. -/
theorem byteOffset_units {s line : Text} (hs : s <+: line) :
    byteOffset line (units s) = byteSize s := by
  rw [byteOffset, takeUnits_units hs]

/-- What is before a column inside a character goes **up to and with** the character. -/
theorem takeUnits_of_inside {s line : Text} {c : Char} {k : Nat} (hsc : s ++ [c] <+: line)
    (hlt : units s < k) (hgt : k < units (s ++ [c])) : takeUnits k line = s ++ [c] := by
  have hshort : takeUnits k line <+: s ++ [c] := takeUnits_isPrefix_of_le hsc hgt.le
  have hle : k ≤ units (takeUnits k line) :=
    le_units_takeUnits (hgt.le.trans (units_le_of_isPrefix hsc))
  rcases List.prefix_concat_iff.mp hshort with heq | hs
  · exact heq
  · -- The part before the character has too few units.
    have hunits := units_le_of_isPrefix hs
    omega

/-- The column of the offset of a column counts what is before the column. -/
theorem column_byteOffset (line : Text) (k : Nat) :
    line.column (byteOffset line k) = units (takeUnits k line) :=
  column_of_isPrefix (takeUnits_isPrefix k line)

/-- The offset of a column of a line is **no larger than a boundary** if and only if the column is
no larger than that of the boundary. -/
theorem byteOffset_le_iff {line : Text} {k n : Nat} (hk : k ≤ units line) (hn : line.IsBoundary n) :
    byteOffset line k ≤ n ↔ k ≤ line.column n := by
  obtain ⟨s, hs, rfl⟩ := hn
  rw [column_of_isPrefix hs]
  constructor
  · intro h
    have hunits := (byteSize_le_iff (takeUnits_isPrefix k line) hs).mp h
    exact (le_units_takeUnits hk).trans hunits
  · intro h
    exact byteSize_le_of_isPrefix (takeUnits_isPrefix_of_le hs h)

/-! ### Counting in 32 bits -/

/-- A counter of 32 bits moved on, or nothing if it **overflows**. -/
def advance? (count : UInt32) (width : Nat) : Option UInt32 :=
  if count.toNat + width < UInt32.size then some (count + UInt32.ofNat width) else none

/-- The offset of a column by counting on, when `count` units and `offset` bytes have been
passed. -/
def countOffset? (column count : UInt32) (offset : Nat) : Text → Option Nat
  | [] => some offset
  | c :: t =>
    if column ≤ count then some offset
    else (advance? count (unitWidth c)).bind fun count =>
      countOffset? column count (offset + c.utf8Size) t

/-- The offset of a column of a line by **counting in 32 bits**, or nothing if the counter
overflows. -/
def countedOffset? (line : Text) (column : UInt32) : Option Nat :=
  countOffset? column 0 0 line

/-- A counter with room left does not overflow. -/
theorem advance?_of_lt {count : UInt32} {width : Nat} (h : count.toNat + width < UInt32.size) :
    ∃ count', advance? count width = some count' ∧ count'.toNat = count.toNat + width := by
  refine ⟨count + UInt32.ofNat width, if_pos h, ?_⟩
  rw [UInt32.toNat_add, UInt32.toNat_ofNat_of_lt' (by omega)]
  exact Nat.mod_eq_of_lt h

/-- Counting on gives the offset of what is left of the column in what is left of the line. -/
theorem countOffset?_eq {column count : UInt32} {t : Text}
    (h : count.toNat + units t < UInt32.size) (offset : Nat) :
    countOffset? column count offset t =
      some (offset + byteOffset t (column.toNat - count.toNat)) := by
  induction t generalizing count offset with
  | nil => rfl
  | cons c t ih =>
      rw [units_cons] at h
      rw [countOffset?, byteOffset, takeUnits]
      split
      next hle =>
        have hzero : column.toNat - count.toNat = 0 :=
          Nat.sub_eq_zero_of_le (UInt32.le_iff_toNat_le.mp hle)
        rw [if_pos hzero, byteSize_nil, Nat.add_zero]
      next hgt =>
        have hlt : count.toNat < column.toNat := by
          rw [UInt32.le_iff_toNat_le] at hgt
          omega
        have hroom : count.toNat + unitWidth c < UInt32.size := by omega
        obtain ⟨count', hadvance, hcount⟩ := advance?_of_lt hroom
        have hfits : count'.toNat + units t < UInt32.size := by omega
        have hrest := ih hfits (offset + c.utf8Size)
        rw [hadvance, Option.bind_some, hrest, if_neg (by omega), byteSize_cons, byteOffset, hcount,
          Nat.sub_add_eq, Nat.add_assoc]

/-- **Counting in 32 bits** gives the offset of a column, if the line has fewer units than the
counter has values. -/
theorem countedOffset?_eq {line : Text} (h : units line < UInt32.size) (column : UInt32) :
    countedOffset? line column = some (byteOffset line column.toNat) := by
  have hcount : (0 : UInt32).toNat + units line < UInt32.size := by
    rwa [UInt32.toNat_zero, Nat.zero_add]
  rw [countedOffset?, countOffset?_eq hcount, UInt32.toNat_zero, Nat.sub_zero, Nat.zero_add]

/-! ### Both ways -/

/-- **Columns and offsets of a line are adjoint.** The counter for the offset of a column does not
overflow, and the offset is a boundary. From a boundary to its column and back is the same boundary,
also if the column is put into 32 bits. From a column to its offset and back is the same column if
it is the column of a boundary, the next one if it is inside a character, and the line's end if it
is there or beyond. Offsets of columns compare with boundaries as the columns do. Offsets inside a
character and beyond the end have the column of the line's end. -/
theorem column_offset_adjoint (line : Text) (hline : units line < UInt32.size) (k : UInt32) :
    countedOffset? line k = some (byteOffset line k.toNat) ∧
    line.IsBoundary (byteOffset line k.toNat) ∧
    (∀ n, line.IsBoundary n → byteOffset line (line.column n) = n ∧
      countedOffset? line (UInt32.ofNat (line.column n)) = some n) ∧
    (∀ n, line.IsBoundary n → line.column n = k.toNat →
      line.column (byteOffset line k.toNat) = k.toNat) ∧
    (line.Inside units k.toNat → line.column (byteOffset line k.toNat) = k.toNat + 1) ∧
    (units line ≤ k.toNat → line.column (byteOffset line k.toNat) = units line) ∧
    (k.toNat ≤ units line → ∀ n, line.IsBoundary n →
      (byteOffset line k.toNat ≤ n ↔ k.toNat ≤ line.column n)) ∧
    (∀ n, line.Inside byteSize n → line.column n = units line) ∧
    ∀ n, byteSize line ≤ n → line.column n = units line := by
  refine ⟨countedOffset?_eq hline k, ?_, ?_, ?_, ?_, ?_, ?_, ?_, ?_⟩
  · exact ⟨takeUnits k.toNat line, takeUnits_isPrefix _ line, rfl⟩
  · rintro n ⟨s, hs, rfl⟩
    have hfits : units s < UInt32.size := Nat.lt_of_le_of_lt (units_le_of_isPrefix hs) hline
    rw [column_of_isPrefix hs]
    refine ⟨byteOffset_units hs, ?_⟩
    rw [countedOffset?_eq hline, UInt32.toNat_ofNat_of_lt' hfits, byteOffset_units hs]
  · rintro n ⟨s, hs, rfl⟩ hk
    rw [column_of_isPrefix hs] at hk
    rw [← hk, byteOffset_units hs, column_of_isPrefix hs]
  · rintro ⟨s, c, hsc, hlt, hgt⟩
    rw [column_byteOffset, takeUnits_of_inside hsc hlt hgt]
    exact units_concat_of_inside hlt hgt
  · intro hk
    rw [column_byteOffset, takeUnits_of_units_le hk]
  · intro hk n hn
    exact byteOffset_le_iff hk hn
  · exact fun n => column_of_inside
  · exact fun n => column_of_byteSize_le

/-- A line with a character of two bytes, one of four bytes and two units, and one of one byte. The
column between the two units, that of a boundary and one beyond the end; the offset of a boundary,
one inside a character and one beyond the end. -/
theorem column_offset_adjoint_pair :
    units "é😀x".toList < UInt32.size ∧
      countedOffset? "é😀x".toList 2 = some 6 ∧
      column "é😀x".toList (byteOffset "é😀x".toList 2) = 3 ∧
      (byteOffset "é😀x".toList 2 ≤ 2 ↔ 2 ≤ column "é😀x".toList 2) ∧
      column "é😀x".toList (byteOffset "é😀x".toList 3) = 3 ∧
      column "é😀x".toList (byteOffset "é😀x".toList 9) = 4 ∧
      byteOffset "é😀x".toList (column "é😀x".toList 6) = 6 ∧
      countedOffset? "é😀x".toList (UInt32.ofNat (column "é😀x".toList 6)) = some 6 ∧
      column "é😀x".toList 4 = 4 ∧
      column "é😀x".toList 9 = 4 := by
  have hline : units "é😀x".toList < UInt32.size := by decide
  have hpair : Inside units "é😀x".toList 2 := ⟨['é'], '😀', ⟨['x'], rfl⟩, by decide, by decide⟩
  have hbytes : Inside byteSize "é😀x".toList 4 :=
    ⟨['é'], '😀', ⟨['x'], rfl⟩, by decide, by decide⟩
  have htwo : IsBoundary "é😀x".toList 2 := ⟨['é'], ⟨['😀', 'x'], rfl⟩, by decide⟩
  have hsix : IsBoundary "é😀x".toList 6 := ⟨['é', '😀'], ⟨['x'], rfl⟩, by decide⟩
  obtain ⟨hcounted, -, hback, -, hinside, -, hadjoint, hsplit, hbeyond⟩ :=
    column_offset_adjoint "é😀x".toList hline 2
  obtain ⟨-, -, -, hsame, -⟩ := column_offset_adjoint "é😀x".toList hline 3
  obtain ⟨-, -, -, -, -, hclamped, -⟩ := column_offset_adjoint "é😀x".toList hline 9
  exact ⟨hline, hcounted, hinside hpair, hadjoint (by decide) 2 htwo, hsame 6 hsix (by decide),
    hclamped (by decide), (hback 6 hsix).1, (hback 6 hsix).2, hsplit 4 hbytes,
    hbeyond 9 (by decide)⟩

end LangServer.Text
