import LangServer.Diagnostic
import LangServer.Proofs.Words

/-!
# Which Misspellings are Reported

The scanner goes through the words of each line and keeps those that are the misspelled keyword.
This module says what it reports in terms of the text alone: the places of a line where the
characters of the misspelled keyword stand with no word character next to them
(`Diagnostic.MisspelledAt`). Every such place is reported once, line by line and from left to right,
and under the policy that reports first misspellings only, the leftmost one of each line is.

## Main statements

* `Diagnostic.mem_scanFrom_iff`: a report belongs to a line and to a word of it.
* `Diagnostic.pairwise_scanFrom`: reports are in order and do not overlap.
* `Diagnostic.scanFrom_first_eq_filter`: the first reports of lines are the leftmost ones.
* `Diagnostic.scan_exact`: what is reported of a text.
-/

namespace LangServer

namespace Diagnostic

open Text (units isWordChar)

/-- The misspelled keyword **stands as a word** at a column of a line of a text: its characters
stand there, and those next to them on either side are no word characters. -/
def MisspelledAt (text : Text) (index column : Nat) : Prop :=
  ∃ line before after, (List.splitOn '\n' text)[index]? = some line ∧
    line = before ++ "funct".toList ++ after ∧ units before = column ∧
    (∀ c ∈ before.getLast?, ¬ isWordChar c) ∧ ∀ c ∈ after.head?, ¬ isWordChar c

/-! ### One line -/

/-- What is reported of a line: the words that are misspelled. -/
theorem mem_scanLine_all_iff {index : Nat} {line : Text} {d : Diagnostic} :
    d ∈ scanLine .all index line ↔ ∃ before after, line = before ++ misspelled ++ after ∧
      Text.IsWord before misspelled after ∧ d = ofRun index ⟨units before, misspelled⟩ := by
  rw [scanLine, keep, List.mem_map]
  constructor
  · rintro ⟨⟨start, word⟩, hr, rfl⟩
    obtain ⟨hr, hword⟩ := List.mem_filter.mp hr
    obtain rfl : word = misspelled := of_decide_eq_true hword
    obtain ⟨before, after, hline, hstart, hisWord⟩ := Text.mem_runs_iff.mp hr
    obtain rfl : start = units before := hstart
    exact ⟨before, after, hline, hisWord, rfl⟩
  · rintro ⟨before, after, hline, hisWord, rfl⟩
    refine ⟨⟨units before, misspelled⟩, List.mem_filter.mpr ⟨?_, decide_eq_true rfl⟩, rfl⟩
    exact Text.mem_runs_iff.mpr ⟨before, after, hline, rfl, hisWord⟩

/-- What is reported of a line has the number of the line. -/
theorem line_of_mem_scanLine {report : Report} {index : Nat} {line : Text} {d : Diagnostic}
    (h : d ∈ scanLine report index line) : d.line = index := by
  obtain ⟨r, -, rfl⟩ := List.mem_map.mp h
  rfl

/-- The order of reports: by lines, and on one line **from left to right without overlaps**. -/
def Precedes (d e : Diagnostic) : Prop :=
  d.line < e.line ∨ d.line = e.line ∧ d.start < e.start ∧ d.stop ≤ e.start

/-- A report does not come before itself. -/
theorem Precedes.ne {d e : Diagnostic} (h : Precedes d e) : d ≠ e := by
  rintro rfl
  rcases h with h | ⟨-, h, -⟩ <;> exact Nat.lt_irrefl _ h

/-- The reports of a line are in order. -/
theorem pairwise_scanLine (index : Nat) (line : Text) :
    (scanLine .all index line).Pairwise Precedes := by
  rw [scanLine, keep, List.pairwise_map]
  refine ((Text.pairwise_runsFrom 0 line).filter _).imp ?_
  intro q r hqr
  have hstop : q.start ≤ q.stop := Nat.le_add_right _ _
  exact Or.inr ⟨rfl, Nat.lt_of_le_of_lt hstop hqr, Nat.le_of_lt hqr⟩

/-- Of the reports of a line, the **first** one is the leftmost one. -/
theorem scanLine_first_eq_filter (index : Nat) (line : Text) :
    scanLine .first index line = (scanLine .all index line).filter fun d =>
      ∀ e ∈ scanLine .all index line, d.start ≤ e.start := by
  have hfirst : scanLine .first index line = (scanLine .all index line).take 1 := by
    rw [scanLine, scanLine, keep, keep, List.map_take]
  have hline : ∀ d ∈ scanLine .all index line, d.line = index := fun d => line_of_mem_scanLine
  have hpairwise := pairwise_scanLine index line
  rw [hfirst]
  cases hall : scanLine .all index line with
  | nil => rfl
  | cons d ds =>
      rw [hall] at hline hpairwise
      have hlt : ∀ e ∈ ds, d.start < e.start := by
        intro e he
        have hlines : d.line = e.line :=
          (hline d List.mem_cons_self).trans (hline e (List.mem_cons_of_mem d he)).symm
        rcases List.rel_of_pairwise_cons hpairwise he with h | ⟨-, h, -⟩
        · omega
        · exact h
      rw [List.filter_cons_of_pos, List.filter_eq_nil_iff.mpr]
      · rfl
      · intro e he hleast
        have hle : e.start ≤ d.start := of_decide_eq_true hleast d List.mem_cons_self
        have hde := hlt e he
        omega
      · refine decide_eq_true fun e he => ?_
        rcases List.mem_cons.mp he with rfl | he
        · exact Nat.le_refl _
        · exact Nat.le_of_lt (hlt e he)

/-! ### Many lines -/

/-- Diagnostics of some lines lie in these lines. -/
theorem le_line_of_mem_scanFrom {report : Report} {index : Nat} {lines : List Text}
    {d : Diagnostic} (h : d ∈ scanFrom report index lines) : index ≤ d.line := by
  induction lines generalizing index with
  | nil => cases h
  | cons line rest ih =>
      rcases List.mem_append.mp h with h | h
      · exact (line_of_mem_scanLine h).ge
      · exact Nat.le_of_succ_le (ih h)

/-- What is reported of some lines is reported of **one of them**, under its number. -/
theorem mem_scanFrom_iff {report : Report} {index : Nat} {lines : List Text} {d : Diagnostic} :
    d ∈ scanFrom report index lines ↔
      ∃ k line, lines[k]? = some line ∧ d ∈ scanLine report (index + k) line := by
  induction lines generalizing index with
  | nil => simp [scanFrom]
  | cons line rest ih =>
      rw [scanFrom, List.mem_append, ih]
      constructor
      · rintro (h | ⟨k, line', hk, h⟩)
        · exact ⟨0, line, rfl, h⟩
        · refine ⟨k + 1, line', hk, ?_⟩
          rwa [Nat.add_right_comm, Nat.add_assoc] at h
      · rintro ⟨k, line', hk, h⟩
        cases k with
        | zero =>
            obtain rfl : line = line' := Option.some.inj hk
            exact Or.inl h
        | succ k =>
            refine Or.inr ⟨k, line', hk, ?_⟩
            rwa [Nat.add_right_comm, Nat.add_assoc]

/-- Reports are **in order and do not overlap**. -/
theorem pairwise_scanFrom (index : Nat) (lines : List Text) :
    (scanFrom .all index lines).Pairwise Precedes := by
  induction lines generalizing index with
  | nil => exact List.Pairwise.nil
  | cons line rest ih =>
      refine List.pairwise_append.mpr ⟨pairwise_scanLine index line, ih (index + 1), ?_⟩
      intro d hd e he
      left
      rw [line_of_mem_scanLine hd]
      exact le_line_of_mem_scanFrom he

/-- The first reports of lines are the **leftmost** ones: those of other lines do not matter. -/
theorem scanFrom_first_eq_filter (index : Nat) (lines : List Text) :
    scanFrom .first index lines = (scanFrom .all index lines).filter fun d =>
      ∀ e ∈ scanFrom .all index lines, e.line = d.line → d.start ≤ e.start := by
  induction lines generalizing index with
  | nil => rfl
  | cons line rest ih =>
      have hhere : ∀ d ∈ scanLine .all index line, d.line = index := fun d => line_of_mem_scanLine
      have hlater : ∀ d ∈ scanFrom .all (index + 1) rest, index < d.line :=
        fun d => le_line_of_mem_scanFrom
      rw [scanFrom, scanFrom, List.filter_append, scanLine_first_eq_filter, ih]
      congr 1
      · refine List.filter_congr fun d hd => ?_
        rw [decide_eq_decide]
        constructor
        · intro h e he hline
          rcases List.mem_append.mp he with he | he
          · exact h e he
          · have := hlater e he
            have := hhere d hd
            omega
        · intro h e he
          exact h e (List.mem_append_left _ he) ((hhere e he).trans (hhere d hd).symm)
      · refine List.filter_congr fun d hd => ?_
        rw [decide_eq_decide]
        constructor
        · intro h e he hline
          rcases List.mem_append.mp he with he | he
          · have := hlater d hd
            have := hhere e he
            omega
          · exact h e he hline
        · intro h e he hline
          exact h e (List.mem_append_right _ he) hline

/-! ### Texts -/

/-- A report is not repeated. -/
theorem nodup_scan (text : Text) : (scan text .all).Nodup :=
  (pairwise_scanFrom 0 text.pieces).imp Precedes.ne

/-- What is reported before a report **precedes** it. -/
theorem precedes_of_scan_eq {text : Text} {d : Diagnostic} {es fs : List Diagnostic}
    (h : scan text .all = es ++ d :: fs) : ∀ e ∈ es, Precedes e d := by
  have hpairwise := pairwise_scanFrom 0 text.pieces
  rw [← scan, h, List.pairwise_append] at hpairwise
  exact fun e he => hpairwise.2.2 e he d List.mem_cons_self

/-- **What is reported** of a text: the places where the misspelled keyword stands as a word. -/
theorem mem_scan_all_iff (text : Text) (d : Diagnostic) :
    d ∈ scan text .all ↔ MisspelledAt text d.line d.start ∧ d.stop = d.start + 5 ∧
      d.severity = .error ∧ d.message = "\"funct\" is incorrect. Use \"func\" instead." := by
  have hchars : ∀ c ∈ misspelled, isWordChar c := List.all_eq_true.mp (by decide)
  rw [scan, mem_scanFrom_iff]
  constructor
  · rintro ⟨k, line, hk, h⟩
    obtain ⟨before, after, hline, hword, rfl⟩ := mem_scanLine_all_iff.mp h
    rw [Text.pieces] at hk
    refine ⟨⟨line, before, after, ?_, hline, rfl, hword.left, hword.right⟩, rfl, rfl, rfl⟩
    rwa [← Nat.zero_add k] at hk
  · rintro ⟨⟨line, before, after, hk, hline, hstart, hleft, hright⟩, hstop, hseverity, hmessage⟩
    refine ⟨d.line, line, by rwa [Text.pieces], ?_⟩
    refine mem_scanLine_all_iff.mpr ⟨before, after, hline, ⟨by decide, hchars, hleft, hright⟩, ?_⟩
    obtain ⟨index, start, stop, severity, message⟩ := d
    obtain rfl : units before = start := hstart
    obtain rfl : stop = units before + 5 := hstop
    obtain rfl : severity = .error := hseverity
    obtain rfl : message = misspelledMessage := hmessage
    rw [Nat.zero_add]
    rfl

/-- **The scanner is exact.** Where the misspelled keyword stands as a word, and nowhere else, it is
reported, with the five columns that it takes up, and each place is reported once. Reports are
ordered by line and start, and those of one line do not overlap. Reporting first misspellings only
keeps of these reports the leftmost one of each line. -/
theorem scan_exact (text : Text) :
    (∀ d : Diagnostic, d ∈ scan text .all ↔
      MisspelledAt text d.line d.start ∧ d.stop = d.start + 5 ∧ d.severity = .error ∧
        d.message = "\"funct\" is incorrect. Use \"func\" instead.") ∧
    (∀ index column, ((scan text .all).map fun d => (d.line, d.start)).count (index, column) = 1 ↔
      MisspelledAt text index column) ∧
    (scan text .all).Pairwise (fun d e =>
      d.line < e.line ∨ d.line = e.line ∧ d.start < e.start ∧ d.stop ≤ e.start) ∧
    scan text .first = (scan text .all).filter fun d =>
      ∀ e ∈ scan text .all, e.line = d.line → d.start ≤ e.start := by
  have hpairwise : (scan text .all).Pairwise Precedes := pairwise_scanFrom 0 text.pieces
  have hnodup : ((scan text .all).map fun d => (d.line, d.start)).Nodup := by
    rw [List.Nodup, List.pairwise_map]
    refine hpairwise.imp fun {d e} hde heq => ?_
    obtain ⟨hline, hstart⟩ := Prod.mk.inj heq
    rcases hde with h | ⟨-, h, -⟩ <;> omega
  refine ⟨mem_scan_all_iff text, ?_, hpairwise, scanFrom_first_eq_filter 0 text.pieces⟩
  intro index column
  have hmem : (index, column) ∈ (scan text .all).map (fun d => (d.line, d.start)) ↔
      MisspelledAt text index column := by
    rw [List.mem_map]
    constructor
    · rintro ⟨d, hd, heq⟩
      obtain ⟨rfl, rfl⟩ := Prod.mk.inj heq
      exact ((mem_scan_all_iff text d).mp hd).1
    · intro hmisspelled
      exact ⟨⟨index, column, column + 5, .error, misspelledMessage⟩,
        (mem_scan_all_iff text _).mpr ⟨hmisspelled, rfl, rfl, rfl⟩, rfl⟩
  rw [hnodup.count, ← hmem]
  split
  next h => simp only [h]
  next h => simp only [h, Nat.zero_ne_one]

end Diagnostic

end LangServer
