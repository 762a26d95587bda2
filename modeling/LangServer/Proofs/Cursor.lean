import LangServer.Proofs.Agreement
import LangServer.Proofs.Columns

/-!
# Which Word Touches the Cursor

A cursor stands between characters. This module says which word is found there by a look at the two
characters next to it: there is a word under the cursor if and only if one of them is a word
character. So there is none beyond the end of a line or between the two units of a character.

Lines come with or without a line break at the end. What has no word characters makes no difference
at the end of a line, neither to the words nor to the first places of their texts.

## Main statements

* `Text.isSome_wordAt_cursor_iff`: the characters next to the cursor.
* `Text.wordAt_append`: the end of a line does not matter.
* `Text.cursor_exact`: which word is under the cursor.
-/

namespace LangServer.Text

/-! ### The characters next to the cursor -/

/-- A character **ends at** a column of a line. -/
def EndsAt (line : Text) (c : Char) (column : Nat) : Prop :=
  ∃ k, StandsAt [c] line k ∧ k + unitWidth c = column

variable {line : Text} {column : Nat}

/-- A character that ends or starts at a column makes that the column of a boundary. -/
theorem exists_isPrefix_of_endsAt_or_standsAt {c : Char}
    (h : line.EndsAt c column ∨ StandsAt [c] line column) : ∃ s, s <+: line ∧ units s = column := by
  rcases h with ⟨k, ⟨before, after, rfl, rfl⟩, rfl⟩ | ⟨before, after, rfl, rfl⟩
  · refine ⟨before ++ [c], List.prefix_append _ after, ?_⟩
    rw [units_append, units_cons, units_nil, Nat.add_zero]
  · refine ⟨before, ?_, rfl⟩
    rw [List.append_assoc]
    exact List.prefix_append before _

/-- A word character **belongs to a word**. -/
theorem exists_run_of_standsAt {c : Char} (hc : isWordChar c) {k : Nat}
    (h : StandsAt [c] line k) : ∃ r ∈ runs line, r.start ≤ k ∧ k < r.stop := by
  obtain ⟨before, after, hline, rfl⟩ := h
  have hchars : ∀ d ∈ [c], isWordChar d := by
    rwa [List.forall_mem_singleton]
  obtain ⟨r, hr, a, b, hword, hcol⟩ :=
    exists_run_of_append (List.cons_ne_nil c []) hchars 0 line before hline
  have hlength : r.word.length = a.length + 1 + b.length := by
    rw [hword, List.length_append, List.length_append, List.length_singleton]
  refine ⟨r, hr, ?_, ?_⟩
  · omega
  · rw [Run.stop]
    omega

/-- Between the ends of a word, a character of it **starts at** every column but the last. -/
theorem exists_standsAt_of_run {r : Run} (hr : r ∈ runs line) (hstart : r.start ≤ column)
    (hstop : column < r.stop) : ∃ c, isWordChar c ∧ StandsAt [c] line column := by
  obtain ⟨-, hchars, k, hk, hstands⟩ := standsAt_of_mem_runsFrom hr
  rw [Run.stop] at hstop
  have hlt : column - r.start < r.word.length := by omega
  have hsplit : r.word = r.word.take (column - r.start) ++ [r.word[column - r.start]] ++
      r.word.drop (column - r.start + 1) := by
    rw [List.append_assoc, List.singleton_append, List.getElem_cons_drop, List.take_append_drop]
  rw [hsplit] at hstands
  have hpart := hstands.part fun c hc => hchars c (List.mem_of_mem_take hc)
  have hcolumn : k + (column - r.start) = column := by omega
  rw [List.length_take, Nat.min_eq_left hlt.le, hcolumn] at hpart
  exact ⟨_, hchars _ (List.getElem_mem hlt), hpart⟩

/-- At the column after a word, its last character **ends**. -/
theorem exists_endsAt_of_run {r : Run} (hr : r ∈ runs line) :
    ∃ c, isWordChar c ∧ line.EndsAt c r.stop := by
  obtain ⟨hne, hchars, k, hk, hstands⟩ := standsAt_of_mem_runsFrom hr
  obtain ⟨a, c, hword⟩ := (List.eq_nil_or_concat r.word).resolve_left hne
  rw [List.concat_eq_append] at hword
  have hc : isWordChar c := hchars c (by simp [hword])
  have ha : ∀ d ∈ a, isWordChar d := fun d hd => hchars d (by simp [hword, hd])
  rw [hword, ← List.append_nil (a ++ [c])] at hstands
  refine ⟨c, hc, k + a.length, hstands.part ha, ?_⟩
  rw [unitWidth_of_isWordChar hc, Run.stop, hword, List.length_append, List.length_singleton]
  omega

/-- There is **a word under the cursor** if and only if the character that ends there or the one
that starts there is a word character. -/
theorem isSome_wordAt_cursor_iff : (line.wordAt column .cursor).isSome ↔
    ∃ c, isWordChar c ∧ (line.EndsAt c column ∨ StandsAt [c] line column) := by
  rw [Option.isSome_iff_exists]
  simp only [wordAt_cursor_iff]
  constructor
  · rintro ⟨word, r, hr, -, hstart, hstop⟩
    rcases Nat.lt_or_eq_of_le hstop with hlt | rfl
    · obtain ⟨c, hc, hstands⟩ := exists_standsAt_of_run hr hstart hlt
      exact ⟨c, hc, Or.inr hstands⟩
    · obtain ⟨c, hc, hends⟩ := exists_endsAt_of_run hr
      exact ⟨c, hc, Or.inl hends⟩
  · rintro ⟨c, hc, ⟨k, hstands, rfl⟩ | hstands⟩
    · obtain ⟨r, hr, hstart, hstop⟩ := exists_run_of_standsAt hc hstands
      rw [unitWidth_of_isWordChar hc]
      exact ⟨r.word, r, hr, rfl, hstart.trans (Nat.le_succ k), hstop⟩
    · obtain ⟨r, hr, hstart, hstop⟩ := exists_run_of_standsAt hc hstands
      exact ⟨r.word, r, hr, rfl, hstart, hstop.le⟩

/-- A column that is no boundary's has **no word** under it. -/
theorem wordAt_cursor_eq_none (h : ∀ s, s <+: line → units s ≠ column) :
    line.wordAt column .cursor = none := by
  rw [← Option.not_isSome_iff_eq_none, isSome_wordAt_cursor_iff]
  rintro ⟨c, -, hc⟩
  obtain ⟨s, hs, hunits⟩ := exists_isPrefix_of_endsAt_or_standsAt hc
  exact h s hs hunits

/-! ### The end of a line -/

section End

variable {t : Text} (ht : ∀ c ∈ t, ¬ isWordChar c)

include ht

/-- What is made of word characters stands in a line **where it did before** something without word
characters was put at its end. -/
theorem standsAt_append_iff {word : Text} (hne : word ≠ []) (hword : ∀ c ∈ word, isWordChar c)
    {k : Nat} : StandsAt word (line ++ t) k ↔ StandsAt word line k := by
  constructor
  · rintro ⟨before, after, hline, rfl⟩
    -- It lies inside a word, and the words are those of the line.
    obtain ⟨r, hr, a, b, hrword, hcol⟩ := exists_run_of_append hne hword 0 (line ++ t) before hline
    rw [← runs, runs_append_of_forall_not ht] at hr
    obtain ⟨-, hchars, k, hk, hstands⟩ := standsAt_of_mem_runsFrom hr
    rw [hrword] at hstands hchars
    have hpart := hstands.part fun c hc =>
      hchars c (List.mem_append_left _ (List.mem_append_left _ hc))
    have hcolumn : k + a.length = units before := by omega
    exact hcolumn ▸ hpart
  · rintro ⟨before, after, rfl, rfl⟩
    exact ⟨before, after ++ t, by simp only [List.append_assoc], rfl⟩

/-- A word of a line has the same **first place**. -/
theorem firstColumn?_append {r : Run} (hr : r ∈ runs line) :
    firstColumn? r.word (line ++ t) = firstColumn? r.word line := by
  obtain ⟨hne, hchars, k, -, hstands⟩ := standsAt_of_mem_runsFrom hr
  obtain ⟨n, hn, hplace, hleast⟩ := firstColumn?_of_standsAt hstands
  obtain ⟨m, hm, hplace', hleast'⟩ :=
    firstColumn?_of_standsAt ((standsAt_append_iff ht hne hchars).mpr hstands)
  have hnm : n ≤ m := hleast m ((standsAt_append_iff ht hne hchars).mp hplace')
  have hmn : m ≤ n := hleast' n ((standsAt_append_iff ht hne hchars).mpr hplace)
  rw [hn, hm, Nat.le_antisymm hmn hnm]

/-- **The end of a line does not matter** for the word at a column, if it has no word characters. -/
theorem wordAt_append (line : Text) (column : Nat) (span : Span) :
    (line ++ t).wordAt column span = line.wordAt column span := by
  rw [wordAt, wordAt, runs_append_of_forall_not ht]
  congr 1
  cases span with
  | cursor => rfl
  | firstOccurrence =>
      have hfirst := find?_touches_firstOccurrence (line ++ t) column
      rw [runs_append_of_forall_not ht] at hfirst
      rw [hfirst, find?_touches_firstOccurrence]
      -- Both look for the word under the cursor first, and that is the same word.
      change ((runs line).find? (touches .cursor line column)).filter _ = _
      cases hfind : (runs line).find? (touches .cursor line column) with
      | none => rfl
      | some r =>
          have hplace := firstColumn?_append ht (List.mem_of_find?_eq_some hfind)
          rw [Option.filter_some, Option.filter_some, hplace]

end End

/-! ### The word under the cursor -/

/-- **What is found** where words stand is the word under the cursor. -/
theorem wordAt_cursor_eq_some_iff {word : Text} : line.wordAt column .cursor = some word ↔
    ∃ before after, line.UnderCursor column before word after := by
  rw [wordAt, Option.map_eq_some_iff]
  constructor
  · rintro ⟨r, hfind, rfl⟩
    obtain ⟨before, after, hunder, -⟩ := find?_touches_cursor_iff.mp hfind
    exact ⟨before, after, hunder⟩
  · rintro ⟨before, after, hunder⟩
    exact ⟨⟨units before, word⟩, find?_touches_cursor_iff.mpr ⟨before, after, hunder, rfl⟩, rfl⟩

/-- **The word under the cursor.** At most one word has the column between its ends, both included,
and it is the one that is found; nothing is found if there is none. Something is found if and only
if the character that ends at the column or the one that starts there is a word character, so
nothing beyond the end of the line and nothing inside a character. Wherever words are taken to
stand, a line break at the end of the line makes no difference. -/
theorem cursor_exact (line : Text) (column : Nat) :
    (∀ before word after before' word' after', line.UnderCursor column before word after →
      line.UnderCursor column before' word' after' →
        before = before' ∧ word = word' ∧ after = after') ∧
    (∀ word, line.wordAt column .cursor = some word ↔
      ∃ before after, line.UnderCursor column before word after) ∧
    (line.wordAt column .cursor = none ↔
      ∀ before word after, ¬ line.UnderCursor column before word after) ∧
    ((line.wordAt column .cursor).isSome ↔
      ∃ c, isWordChar c ∧ (line.EndsAt c column ∨ StandsAt [c] line column)) ∧
    (units line < column → line.wordAt column .cursor = none) ∧
    (line.Inside units column → line.wordAt column .cursor = none) ∧
    ∀ span, (line ++ "\n".toList).wordAt column span = line.wordAt column span ∧
      (line ++ "\r\n".toList).wordAt column span = line.wordAt column span := by
  refine ⟨?_, fun word => wordAt_cursor_eq_some_iff, ?_, isSome_wordAt_cursor_iff, ?_, ?_, ?_⟩
  · intro before word after before' word' after' h h'
    exact h.unique h'
  · rw [Option.eq_none_iff_forall_ne_some]
    constructor
    · intro hnone before word after hunder
      exact hnone word (wordAt_cursor_eq_some_iff.mpr ⟨before, after, hunder⟩)
    · intro hnone word hword
      obtain ⟨before, after, hunder⟩ := wordAt_cursor_eq_some_iff.mp hword
      exact hnone before word after hunder
  · intro hbeyond
    refine wordAt_cursor_eq_none fun s hs hunits => ?_
    have hle := units_le_of_isPrefix hs
    omega
  · intro hinside
    refine wordAt_cursor_eq_none fun s hs hunits => ?_
    exact not_inside_units_of_isPrefix hs (hunits ▸ hinside)
  · intro span
    have hnewline : ∀ c ∈ "\n".toList, ¬ isWordChar c := by simp [isWordChar]
    have hreturn : ∀ c ∈ "\r\n".toList, ¬ isWordChar c := by simp [isWordChar]
    exact ⟨wordAt_append hnewline line column span, wordAt_append hreturn line column span⟩

/-- A line with a word that ends where a space starts, and with a character of two units: at the end
of the word, between the two units and beyond the end of the line. -/
theorem cursor_exact_three :
    UnderCursor "ab 😀 c".toList 2 [] "ab".toList " 😀 c".toList ∧
      (∀ before word after, UnderCursor "ab 😀 c".toList 2 before word after →
        [] = before ∧ "ab".toList = word ∧ " 😀 c".toList = after) ∧
      wordAt "ab 😀 c".toList 2 .cursor = some "ab".toList ∧
      wordAt "ab 😀 c".toList 4 .cursor = none ∧
      wordAt "ab 😀 c".toList 8 .cursor = none := by
  have hword : IsWord [] "ab".toList " 😀 c".toList := by
    refine ⟨by decide, ?_, by simp, ?_⟩ <;> simp [isWordChar]
  have hunder : UnderCursor "ab 😀 c".toList 2 [] "ab".toList " 😀 c".toList :=
    ⟨rfl, hword, by decide, by decide⟩
  have hinside : Inside units "ab 😀 c".toList 4 :=
    ⟨"ab ".toList, '😀', ⟨" c".toList, rfl⟩, by decide, by decide⟩
  obtain ⟨honly, hfound, -⟩ := cursor_exact "ab 😀 c".toList 2
  obtain ⟨-, -, -, -, -, hpair, -⟩ := cursor_exact "ab 😀 c".toList 4
  obtain ⟨-, -, -, -, hbeyond, -⟩ := cursor_exact "ab 😀 c".toList 8
  refine ⟨hunder, ?_, (hfound _).mpr ⟨_, _, hunder⟩, hpair hinside, hbeyond (by decide)⟩
  exact fun before word after h => honly _ _ _ before word after hunder h

end LangServer.Text
