import LangServer.Proofs.Concatenation
import LangServer.Proofs.Hovering

/-!
# Hover Cards and Diagnostics Agree

A client shows two things at a place of a document: what is reported there, and the card for the
word under the cursor. They are computed apart. The scanner looks at the words of pieces, without
line feeds; a hover looks at the words of a line with its line feed. This module shows that the
misspelled keyword is reported at a place if and only if it is the word under the cursor there.

## Main statements

* `Text.runs_content`: a line and its content have the same words.
* `Text.wordAt_cursor_iff`: the word under the cursor among the words of a line.
* `Diagnostic.reported_iff_hovered`: reports and words under the cursor.
-/

namespace LangServer

namespace Text

/-- A line and its content have the **same words**, since a line feed is no word character. -/
theorem runs_content (line : Text) : runs (content line) = runs line := by
  rw [content]
  split
  next h =>
    obtain ⟨before, rfl⟩ := List.getLast?_eq_some_iff.mp h
    have hbreak : ∀ c ∈ ['\n'], ¬ isWordChar c := by
      rw [List.forall_mem_singleton]
      decide
    rw [List.dropLast_concat, runs_append_of_forall_not hbreak]
  next => rfl

/-- A text is the **word under the cursor** if a word with these characters has the column between
its ends. -/
theorem wordAt_cursor_iff {line word : Text} {column : Nat} :
    line.wordAt column .cursor = some word ↔
      ∃ r ∈ runs line, r.word = word ∧ r.start ≤ column ∧ column ≤ r.stop := by
  simp only [wordAt, Option.map_eq_some_iff, find?_touches_cursor_eq_some_iff]
  constructor
  · rintro ⟨r, ⟨hr, hends⟩, hword⟩
    exact ⟨r, hr, hword, hends⟩
  · rintro ⟨r, hr, hword, hends⟩
    exact ⟨r, ⟨hr, hends⟩, hword⟩

/-- The words of a line with some number are those of the piece with the same number. -/
theorem exists_run_line?_iff (t : Text) (i : Nat) (p : Run → Prop) :
    (∃ line, t.line? i = some line ∧ ∃ r ∈ runs line, p r) ↔
      ∃ piece, (pieces t)[i]? = some piece ∧ ∃ r ∈ runs piece, p r := by
  constructor
  · rintro ⟨line, hline, r, hr, hp⟩
    refine ⟨content line, getElem?_pieces_of_line? hline, r, ?_, hp⟩
    rwa [runs_content]
  · rintro ⟨piece, hpiece, r, hr, hp⟩
    have hne : piece ≠ [] := by
      rintro rfl
      simp [runs, runsFrom] at hr
    obtain ⟨line, hline, rfl⟩ := exists_line?_of_getElem?_pieces hpiece hne
    refine ⟨line, hline, r, ?_, hp⟩
    rwa [← runs_content]

end Text

namespace Diagnostic

/-- A report is **at a place** if it is on its line and has the column between its ends, both
included. -/
def Covers (d : Diagnostic) (index column : Nat) : Prop :=
  d.line = index ∧ d.start ≤ column ∧ column ≤ d.stop

instance (d : Diagnostic) (index column : Nat) : Decidable (d.Covers index column) :=
  inferInstanceAs (Decidable (_ ∧ _))

/-- What is reported at a place, in terms of the words of its piece. -/
theorem mem_scan_and_covers_iff {text : Text} {index column : Nat} {d : Diagnostic} :
    d ∈ scan text .all ∧ d.Covers index column ↔
      ∃ piece, text.pieces[index]? = some piece ∧ ∃ r ∈ Text.runs piece,
        (r.word = misspelled ∧ r.start ≤ column ∧ column ≤ r.stop) ∧ d = ofRun index r := by
  rw [scan, mem_scanFrom_iff]
  constructor
  · rintro ⟨⟨k, piece, hpiece, hd⟩, hline, hends⟩
    obtain ⟨r, hr, rfl⟩ := List.mem_map.mp hd
    obtain ⟨hr, hword⟩ := List.mem_filter.mp hr
    obtain rfl : k = index := by rw [← hline]; exact (Nat.zero_add k).symm
    refine ⟨piece, hpiece, r, hr, ⟨of_decide_eq_true hword, hends⟩, ?_⟩
    rw [Nat.zero_add]
  · rintro ⟨piece, hpiece, r, hr, ⟨hword, hends⟩, rfl⟩
    refine ⟨⟨index, piece, hpiece, ?_⟩, rfl, hends⟩
    rw [Nat.zero_add]
    exact List.mem_map_of_mem (List.mem_filter.mpr ⟨hr, decide_eq_true hword⟩)

/-- Two reports at a place are the same. -/
theorem eq_of_covers {text : Text} {index column : Nat} {d e : Diagnostic}
    (hd : d ∈ scan text .all ∧ d.Covers index column)
    (he : e ∈ scan text .all ∧ e.Covers index column) : d = e := by
  obtain ⟨piece, hpiece, q, hq, ⟨-, hqends⟩, rfl⟩ := mem_scan_and_covers_iff.mp hd
  obtain ⟨piece', hpiece', r, hr, ⟨-, hrends⟩, rfl⟩ := mem_scan_and_covers_iff.mp he
  obtain rfl := Option.some.inj (hpiece.symm.trans hpiece')
  rw [Text.eq_of_touches_cursor hq hr (Text.touches_cursor.mpr hqends)
    (Text.touches_cursor.mpr hrends)]

/-- At most **one report** is at a place. -/
theorem countP_covers_le_one (text : Text) (index column : Nat) :
    (scan text .all).countP (·.Covers index column) ≤ 1 := by
  by_cases hsome : ∃ d ∈ scan text .all, d.Covers index column
  · obtain ⟨d, hd, hcovers⟩ := hsome
    have hcount : (scan text .all).countP (·.Covers index column) = (scan text .all).count d := by
      refine List.countP_congr fun e he => ?_
      rw [decide_eq_true_eq, beq_iff_eq]
      constructor
      · exact fun hcovers' => eq_of_covers ⟨he, hcovers'⟩ ⟨hd, hcovers⟩
      · rintro rfl
        exact hcovers
    have hone : (scan text .all).count d = 1 := by
      rw [(nodup_scan text).count, if_pos hd]
    exact (hcount.trans hone).le
  · have hzero : (scan text .all).countP (·.Covers index column) = 0 :=
      List.countP_eq_zero.mpr fun d hd hcovers => hsome ⟨d, hd, of_decide_eq_true hcovers⟩
    exact hzero.le.trans (Nat.zero_le 1)

/-- **Reports and words under the cursor agree.** Something is reported at a place if and only if
there is such a line and the misspelled keyword is the word under the cursor, and then there is only
one report. -/
theorem reported_iff_hovered (text : Text) (index column : Nat) :
    ((∃ d ∈ scan text .all, d.Covers index column) ↔
      ∃ line, text.line? index = some line ∧
        line.wordAt column .cursor = some "funct".toList) ∧
    (scan text .all).countP (·.Covers index column) ≤ 1 := by
  refine ⟨⟨?_, ?_⟩, countP_covers_le_one text index column⟩
  · rintro ⟨d, hd, hcovers⟩
    obtain ⟨piece, hpiece, r, hr, hword, -⟩ := mem_scan_and_covers_iff.mp ⟨hd, hcovers⟩
    obtain ⟨line, hline, hrun⟩ := (Text.exists_run_line?_iff text index fun r =>
      r.word = misspelled ∧ r.start ≤ column ∧ column ≤ r.stop).mpr ⟨piece, hpiece, r, hr, hword⟩
    exact ⟨line, hline, Text.wordAt_cursor_iff.mpr hrun⟩
  · rintro ⟨line, hline, hwordAt⟩
    obtain ⟨piece, hpiece, r, hr, hword⟩ := (Text.exists_run_line?_iff text index _).mp
      ⟨line, hline, Text.wordAt_cursor_iff.mp hwordAt⟩
    obtain ⟨hd, hcovers⟩ := mem_scan_and_covers_iff.mpr ⟨piece, hpiece, r, hr, hword, rfl⟩
    exact ⟨ofRun index r, hd, hcovers⟩

end Diagnostic

end LangServer
