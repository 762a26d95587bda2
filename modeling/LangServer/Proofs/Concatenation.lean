import LangServer.Proofs.LineByLine

/-!
# Scanning Texts that are Put Together

What is reported of two texts in a row is what is reported of the first one and then what is
reported of the second one, counted from where the first one ends. That holds if the two meet at a
line feed, and, if all misspellings are reported, wherever no word goes on from one to the other
(`Text.Breaks`). All that is said elsewhere about scanning a text again after a change comes from
these two equations.

## Main statements

* `Text.runsFrom_append`: the words of two parts of a line.
* `Diagnostic.scan_append_newline`: two texts with a line feed between them.
* `Diagnostic.scan_append`: two texts between which no word goes on.
-/

namespace LangServer

/-! ### Words of two parts -/

namespace Text

/-- **No word goes on** from one text to the next: there is no word character on one side of the
place where they meet. -/
def Breaks (s t : Text) : Prop :=
  (∀ c ∈ s.getLast?, ¬ isWordChar c) ∨ ∀ c ∈ t.head?, ¬ isWordChar c

/-- Only the end of the first text matters. -/
theorem Breaks.of_append_left {u s t : Text} (h : Breaks (u ++ s) t) : Breaks s t := by
  refine h.imp_left fun hlast c hc => hlast c ?_
  rw [List.getLast?_append, Option.mem_def.mp hc, Option.some_or]
  rfl

/-- Only the start of the second text matters. -/
theorem Breaks.of_append_right {s t u : Text} (h : Breaks s (t ++ u)) : Breaks s t := by
  refine h.imp_right fun hhead c hc => hhead c ?_
  rw [List.head?_append, Option.mem_def.mp hc, Option.some_or]
  rfl

/-- What follows a word does not start with a word character. -/
theorem Breaks.head {word t : Text} (h : Breaks word t) (hne : word ≠ [])
    (hword : ∀ c ∈ word, isWordChar c) : ∀ c ∈ t.head?, ¬ isWordChar c := by
  refine h.resolve_left fun hlast => ?_
  have hmem : word.getLast hne ∈ word.getLast? := List.getLast_mem_getLast? hne
  exact hlast _ hmem (hword _ (List.getLast_mem hne))

/-- A word at the start of a line comes first. -/
theorem runsFrom_word_append {word rest : Text} (hne : word ≠ []) (hword : ∀ c ∈ word, isWordChar c)
    (hrest : ∀ c ∈ rest.head?, ¬ isWordChar c) (col : Nat) :
    runsFrom col (word ++ rest) = ⟨col, word⟩ :: runsFrom (col + word.length) rest := by
  obtain ⟨c, w, rfl⟩ := List.exists_cons_of_ne_nil hne
  obtain ⟨hc, hw⟩ := List.forall_mem_cons.mp hword
  have htake : (w ++ rest).takeWhile isWordChar = w := by
    rw [List.takeWhile_append_of_pos hw]
    cases rest with
    | nil => exact List.append_nil w
    | cons d rest => rw [List.takeWhile_cons_of_neg (hrest d rfl), List.append_nil]
  have hdrop : (w ++ rest).dropWhile isWordChar = rest := by
    rw [List.dropWhile_append_of_pos hw]
    cases rest with
    | nil => rfl
    | cons d rest => exact List.dropWhile_cons_of_neg (hrest d rfl)
  rw [List.cons_append, runsFrom, if_pos hc, htake, hdrop]

/-- **The words of two parts of a line** are those of the first and those of the second, if no word
goes on from one to the other. -/
theorem runsFrom_append {s t : Text} (h : Breaks s t) (col : Nat) :
    runsFrom col (s ++ t) = runsFrom col s ++ runsFrom (col + units s) t := by
  fun_induction runsFrom col s with
  | case1 col => rfl
  | case2 col c s hc word ih =>
      have hword : ∀ d ∈ word, isWordChar d := fun d => isWordChar_of_mem_run hc
      have hs : c :: s = word ++ s.dropWhile isWordChar := by
        rw [List.cons_append, List.takeWhile_append_dropWhile]
      rw [hs] at h
      have hrest : ∀ d ∈ (s.dropWhile isWordChar ++ t).head?, ¬ isWordChar d := by
        cases hdrop : s.dropWhile isWordChar with
        | nil =>
            rw [hdrop, List.append_nil] at h
            exact h.head (List.cons_ne_nil _ _) hword
        | cons e rest =>
            intro d hd
            exact not_isWordChar_of_head? (t := s) (hdrop ▸ hd)
      rw [hs, List.append_assoc, runsFrom_word_append (List.cons_ne_nil _ _) hword hrest,
        ih h.of_append_left, units_append, units_of_isWordChar hword, Nat.add_assoc]
      rfl
  | case3 col c s hc ih =>
      have hbreaks : Breaks s t := Breaks.of_append_left (u := [c]) h
      rw [List.cons_append, runsFrom_cons_of_neg hc, ih hbreaks, units_cons, Nat.add_assoc]

/-- A text without word characters has no words. -/
theorem runsFrom_of_forall_not {t : Text} (h : ∀ c ∈ t, ¬ isWordChar c) (col : Nat) :
    runsFrom col t = [] := by
  induction t generalizing col with
  | nil => rw [runsFrom]
  | cons c t ih =>
      obtain ⟨hc, ht⟩ := List.forall_mem_cons.mp h
      rw [runsFrom_cons_of_neg hc, ih ht]

/-- What has no word characters **adds no words** at the end of a line. -/
theorem runs_append_of_forall_not {t : Text} (h : ∀ c ∈ t, ¬ isWordChar c) (line : Text) :
    runs (line ++ t) = runs line := by
  have hbreaks : Breaks line t := Or.inr fun c hc => h c (List.mem_of_head? hc)
  rw [runs, runs, runsFrom_append hbreaks, runsFrom_of_forall_not h, List.append_nil]

/-- Words stand further right by as much as their line does. -/
theorem runsFrom_add (k col : Nat) (t : Text) :
    runsFrom (k + col) t = (runsFrom col t).map fun r => ⟨k + r.start, r.word⟩ := by
  fun_induction runsFrom col t with
  | case1 col => rw [runsFrom]; rfl
  | case2 col c t hc word ih =>
      rw [runsFrom, if_pos hc, List.map_cons, ← ih, ← Nat.add_assoc]
  | case3 col c t hc ih => rw [runsFrom_cons_of_neg hc, ← ih, Nat.add_assoc]

end Text

/-! ### Reports that are counted from elsewhere -/

namespace Diagnostic

open Text (units endOf pieces)

/-- A report on a text that **starts at a position**. -/
def after (d : Diagnostic) (p : Position) : Diagnostic :=
  { d with
    line := p.line + d.line
    start := if d.line = 0 then p.column + d.start else d.start
    stop := if d.line = 0 then p.column + d.stop else d.stop }

/-- A report on a text that starts after another one, which starts at a position. -/
theorem after_after (d : Diagnostic) (q p : Position) :
    (d.after q).after p = d.after (q.after p) := by
  by_cases hd : d.line = 0
  · by_cases hq : q.line = 0 <;> simp [after, Position.after, hd, hq, Nat.add_assoc]
  · simp [after, Position.after, hd, Nat.add_assoc]

/-- What is reported of a line that has another number. -/
theorem scanLine_add (report : Report) (n index : Nat) (line : Text) :
    scanLine report (n + index) line = (scanLine report index line).map (·.after ⟨n, 0⟩) := by
  rw [scanLine, scanLine, List.map_map]
  refine List.map_congr_left fun r _ => ?_
  simp [ofRun, after]

/-- What is reported of lines that have other numbers. -/
theorem scanFrom_add (report : Report) (n index : Nat) (lines : List Text) :
    scanFrom report (n + index) lines =
      (scanFrom report index lines).map (·.after ⟨n, 0⟩) := by
  induction lines generalizing index with
  | nil => rfl
  | cons line rest ih => rw [scanFrom, scanFrom, List.map_append, scanLine_add, Nat.add_assoc, ih]

/-- What is reported of some lines and of those that follow them. -/
theorem scanFrom_append (report : Report) (index : Nat) (ls ms : List Text) :
    scanFrom report index (ls ++ ms) =
      scanFrom report index ls ++ scanFrom report (index + ls.length) ms := by
  induction ls generalizing index with
  | nil => rfl
  | cons line rest ih =>
      rw [List.cons_append, scanFrom, scanFrom, ih, List.append_assoc, List.length_cons,
        Nat.add_right_comm, Nat.add_assoc]

/-! ### Reports of two texts -/

/-- What is reported of a text lies in its lines. -/
theorem line_le_of_mem_scan {report : Report} {text : Text} {d : Diagnostic}
    (h : d ∈ scan text report) : d.line ≤ text.count '\n' := by
  obtain ⟨k, line, hk, hd⟩ := mem_scanFrom_iff.mp h
  obtain ⟨hlt, -⟩ := List.getElem?_eq_some_iff.mp hk
  rw [Text.length_pieces] at hlt
  rw [line_of_mem_scanLine hd]
  omega

/-- **Two texts with a line feed between them** are reported of one after the other. -/
theorem scan_append_newline (report : Report) (s t : Text) :
    scan (s ++ '\n' :: t) report =
      scan s report ++ (scan t report).map (·.after ⟨s.count '\n' + 1, 0⟩) := by
  rw [scan, Text.pieces_append_newline, scanFrom_append, Text.length_pieces, Nat.zero_add]
  exact congrArg _ (scanFrom_add report (s.count '\n' + 1) 0 (pieces t))

/-- What is reported of a text of one line. -/
theorem scan_of_not_mem (report : Report) {line : Text} (h : '\n' ∉ line) :
    scan line report = scanLine report 0 line := by
  rw [scan, Text.pieces_of_not_mem h, scanFrom, scanFrom, List.append_nil]

/-- Two parts of a line between which no word goes on. -/
theorem scanLine_append {s t : Text} (h : Text.Breaks s t) :
    scanLine .all 0 (s ++ t) =
      scanLine .all 0 s ++ (scanLine .all 0 t).map (·.after ⟨0, units s⟩) := by
  have hruns : Text.runs (s ++ t) =
      Text.runs s ++ (Text.runs t).map fun r => ⟨units s + r.start, r.word⟩ := by
    rw [Text.runs, Text.runsFrom_append h, Nat.zero_add, Text.runs, Text.runs, ← Text.runsFrom_add]
    rfl
  rw [scanLine, scanLine, scanLine, hruns]
  simp only [keep, List.filter_append, List.filter_map, List.map_append, List.map_map]
  congr 1
  refine List.map_congr_left fun r _ => ?_
  simp [ofRun, after, Text.Run.stop, Nat.add_assoc]

/-- Two texts of one line between which no word goes on. -/
theorem scan_append_of_not_mem {s t : Text} (hs : '\n' ∉ s) (ht : '\n' ∉ t)
    (h : Text.Breaks s t) :
    scan (s ++ t) .all = scan s .all ++ (scan t .all).map (·.after (endOf s)) := by
  have hall : '\n' ∉ s ++ t := by
    rw [List.mem_append, not_or]
    exact ⟨hs, ht⟩
  rw [scan_of_not_mem .all hall, scan_of_not_mem .all hs, scan_of_not_mem .all ht,
    scanLine_append h, Text.endOf_of_not_mem hs]

/-- **Two texts between which no word goes on** are reported of one after the other, if all
misspellings are reported. -/
theorem scan_append {s t : Text} (h : Text.Breaks s t) :
    scan (s ++ t) .all = scan s .all ++ (scan t .all).map (·.after (endOf s)) := by
  induction s using Text.lineInduction with
  | last s hs =>
      induction t using Text.lineInduction with
      | last t ht => exact scan_append_of_not_mem hs ht h
      | more line t hline _ =>
          have hcount : (s ++ line).count '\n' = line.count '\n' := by
            rw [List.count_append, List.count_eq_zero_of_not_mem hs, Nat.zero_add]
          rw [← List.append_assoc, scan_append_newline, scan_append_newline,
            scan_append_of_not_mem hs hline h.of_append_right, hcount, List.map_append,
            List.append_assoc, List.map_map]
          congr 2
          -- Columns are counted anew after the line feed, so those of the first text do not matter.
          refine List.map_congr_left fun d _ => ?_
          rw [Function.comp_apply, after_after, Text.endOf_of_not_mem hs]
          simp [Position.after]
  | more line s hline ih =>
      have hbreaks : Text.Breaks s t := by
        rw [List.append_cons] at h
        exact h.of_append_left
      rw [List.append_assoc, List.cons_append, scan_append_newline, scan_append_newline,
        ih hbreaks, List.map_append, List.append_assoc, List.map_map, Text.endOf_append_newline]
      congr 2
      refine List.map_congr_left fun d _ => ?_
      rw [Function.comp_apply, after_after]

end Diagnostic

end LangServer
