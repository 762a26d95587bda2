import LangServer.Proofs.Words

/-!
# The Word under the Cursor

Which word a hover card is about, said in terms of the line alone. A word of the line is under the
cursor if the column lies between its ends, both included; there is at most one, because words keep
a column apart. Looking for words where they stand finds it. Looking for words at the first places
of their texts finds it if the line does not have its text any earlier, be it inside another word,
and finds nothing otherwise.

## Coordinates

A part of a line starts at an offset in bytes, and a client points at a column. The column of a part
is that of its offset, and offsets of parts are in the order of their columns.

## Main statements

* `Text.find?_touches_cursor_iff`: looking for words where they stand finds the one under the
  cursor.
* `Text.firstOccurrence_exact`: what looking for words at their first places finds.
-/

namespace LangServer.Text

/-! ### Offsets and columns -/

/-- The column of a part of a line is the units of what stands before it. -/
theorem column_byteSize (before rest : Text) :
    column (before ++ rest) (byteSize before) = units before := by
  rw [column, takeBytes?_byteSize_append, Option.getD_some]

/-- A text without bytes is empty. -/
theorem eq_nil_of_byteSize_eq_zero {t : Text} (h : byteSize t = 0) : t = [] := by
  cases t with
  | nil => rfl
  | cons c t =>
      have hpos := c.utf8Size_pos
      rw [byteSize_cons] at h
      omega

/-- Parts at the start of a line have their offsets **in the order of their columns**. -/
theorem byteSize_le_iff {s t line : Text} (hs : s <+: line) (ht : t <+: line) :
    byteSize s ≤ byteSize t ↔ units s ≤ units t := by
  rcases List.prefix_or_prefix_of_prefix hs ht with ⟨u, rfl⟩ | ⟨u, rfl⟩
  · rw [byteSize_append, units_append]
    omega
  · rw [byteSize_append, units_append]
    constructor
    · intro h
      obtain rfl : u = [] := eq_nil_of_byteSize_eq_zero (by omega)
      rw [units_nil, Nat.add_zero]
    · intro h
      obtain rfl : u = [] := eq_nil_of_units_eq_zero (by omega)
      rw [byteSize_nil, Nat.add_zero]

/-! ### The word under the cursor -/

/-- A word of a line is **under the cursor** if the column lies between its ends, both included. -/
structure UnderCursor (line : Text) (column : Nat) (before word after : Text) : Prop where
  parts : line = before ++ word ++ after
  isWord : IsWord before word after
  start_le : line.column (byteSize before) ≤ column
  le_stop : column ≤ line.column (byteSize before) + units word

/-- **Looking for words where they stand** finds the one under the cursor. -/
theorem find?_touches_cursor_iff {line : Text} {column : Nat} {r : Run} :
    (runs line).find? (touches .cursor line column) = some r ↔
      ∃ before after, line.UnderCursor column before r.word after ∧ r.start = units before := by
  rw [find?_touches_cursor_eq_some_iff, mem_runs_iff]
  constructor
  · rintro ⟨⟨before, after, hline, hstart, hword⟩, hle, hge⟩
    have hcolumn : line.column (byteSize before) = r.start := by
      rw [hline, List.append_assoc, column_byteSize, hstart]
    refine ⟨before, after, ⟨hline, hword, ?_, ?_⟩, hstart⟩
    · rwa [hcolumn]
    · rwa [hcolumn, units_of_isWordChar hword.chars]
  · rintro ⟨before, after, hunder, hstart⟩
    have hcolumn : line.column (byteSize before) = r.start := by
      rw [hunder.parts, List.append_assoc, column_byteSize, hstart]
    have hge := hunder.le_stop
    rw [hcolumn, units_of_isWordChar hunder.isWord.chars] at hge
    exact ⟨⟨before, after, hunder.parts, hstart, hunder.isWord⟩, hcolumn ▸ hunder.start_le, hge⟩

/-- At most **one word** is under the cursor. -/
theorem UnderCursor.unique {line : Text} {column : Nat}
    {before word after before' word' after' : Text}
    (h : line.UnderCursor column before word after)
    (h' : line.UnderCursor column before' word' after') :
    before = before' ∧ word = word' ∧ after = after' := by
  have hfind := (find?_touches_cursor_iff (r := ⟨units before, word⟩)).mpr ⟨before, after, h, rfl⟩
  have hfind' :=
    (find?_touches_cursor_iff (r := ⟨units before', word'⟩)).mpr ⟨before', after', h', rfl⟩
  obtain ⟨hunits, rfl⟩ := Run.mk.inj (Option.some.inj (hfind.symm.trans hfind'))
  have hbegin : before <+: line := ⟨word ++ after, by rw [h.parts, List.append_assoc]⟩
  have hbegin' : before' <+: line := ⟨word ++ after', by rw [h'.parts, List.append_assoc]⟩
  obtain rfl := eq_of_units_eq hbegin hbegin' hunits
  exact ⟨rfl, rfl, List.append_cancel_left (h.parts.symm.trans h'.parts)⟩

/-! ### First places -/

/-- A text stands in a line **for the first time** after a part of it: wherever else it stands, also
inside a longer word, is no earlier. -/
def FirstPlace (line word before : Text) : Prop :=
  ∀ before' after', line = before' ++ word ++ after' → byteSize before ≤ byteSize before'

/-- The first column of a text is where it stands for the first time. -/
theorem firstColumn?_eq_some_iff {line before word after : Text}
    (hline : line = before ++ word ++ after) :
    firstColumn? word line = some (units before) ↔ line.FirstPlace word before := by
  have hbegin {before after : Text} (h : line = before ++ word ++ after) : before <+: line :=
    ⟨word ++ after, by rw [h, List.append_assoc]⟩
  obtain ⟨n, hn, ⟨first, rest, hfirst, rfl⟩, hleast⟩ :=
    firstColumn?_of_standsAt ⟨before, after, hline, rfl⟩
  rw [hn, Option.some.injEq]
  constructor
  · intro h before' after' hline'
    rw [byteSize_le_iff (hbegin hline) (hbegin hline'), ← h]
    exact hleast _ ⟨before', after', hline', rfl⟩
  · intro h
    have hle := hleast _ ⟨before, after, hline, rfl⟩
    have hge := (byteSize_le_iff (hbegin hline) (hbegin hfirst)).mp (h first rest hfirst)
    omega

/-- Looking for words at their first places finds the word under the cursor or **none**. -/
theorem wordAt_firstOccurrence (line : Text) (column : Nat) :
    line.wordAt column .firstOccurrence = line.wordAt column .cursor ∨
      line.wordAt column .firstOccurrence = none := by
  rw [wordAt, wordAt, find?_touches_firstOccurrence]
  cases (runs line).find? (touches .cursor line column) with
  | none => exact Or.inl rfl
  | some r =>
      rw [Option.filter_some]
      split
      · exact Or.inl rfl
      · exact Or.inr rfl

/-- **Looking for words at their first places is exact.** It finds a word if and only if that is the
word under the cursor, which is what looking for words where they stand finds, and its text stands
there for the first time in the line. So it never finds any other word than the one under the
cursor. -/
theorem firstOccurrence_exact (line : Text) (column : Nat) (word : Text) :
    (line.wordAt column .cursor = some word ↔
      ∃! place : Text × Text, line.UnderCursor column place.1 word place.2) ∧
    (line.wordAt column .firstOccurrence = some word ↔
      ∃ before after, line.UnderCursor column before word after ∧ line.FirstPlace word before) ∧
    (line.wordAt column .firstOccurrence = line.wordAt column .cursor ∨
      line.wordAt column .firstOccurrence = none) := by
  refine ⟨?_, ?_, ?_⟩
  · rw [wordAt, Option.map_eq_some_iff]
    constructor
    · rintro ⟨r, hfind, rfl⟩
      obtain ⟨before, after, hunder, -⟩ := find?_touches_cursor_iff.mp hfind
      refine ⟨(before, after), hunder, ?_⟩
      rintro ⟨before', after'⟩ hunder'
      obtain ⟨rfl, -, rfl⟩ := hunder'.unique hunder
      rfl
    · rintro ⟨⟨before, after⟩, hunder, -⟩
      exact ⟨⟨units before, word⟩, find?_touches_cursor_iff.mpr ⟨before, after, hunder, rfl⟩, rfl⟩
  · simp only [wordAt, find?_touches_firstOccurrence, Option.map_eq_some_iff,
      Option.filter_eq_some_iff, find?_touches_cursor_iff, decide_eq_true_eq]
    constructor
    · rintro ⟨r, ⟨⟨before, after, hunder, hstart⟩, hplace⟩, rfl⟩
      rw [hstart, firstColumn?_eq_some_iff hunder.parts] at hplace
      exact ⟨before, after, hunder, hplace⟩
    · rintro ⟨before, after, hunder, hplace⟩
      rw [← firstColumn?_eq_some_iff hunder.parts] at hplace
      exact ⟨⟨units before, word⟩, ⟨⟨before, after, hunder, rfl⟩, hplace⟩, rfl⟩
  · exact line.wordAt_firstOccurrence column

/-- The text of the second word appears inside the first one. -/
example : wordAt "format for".toList 8 .firstOccurrence = none ∧
    wordAt "format for".toList 8 .cursor = some "for".toList := by
  decide +kernel

end LangServer.Text
