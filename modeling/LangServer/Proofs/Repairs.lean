import Mathlib.Data.List.Induction
import Mathlib.Data.List.SplitBy
import LangServer.Proofs.Concatenation

/-!
# Mending what is Reported

A client mends what a report is about by a change between the two ends of the report. The ends are
columns of a piece, as the scanner counts them, and the change looks them up as columns of a line.
This module shows that the change replaces exactly the misspelled keyword, that nothing else is
reported afterwards or no longer reported, and that one batch of such changes, the last report
first, leaves a text with nothing to report. Lines and columns are numbers without bound here; that
those of reports fit into 32 bits is said in `LangServer.Proofs.CountedReports`.

## Spelling

`respelled` is the text as it is meant: it is cut where word characters meet other characters
(`cuts`), and each part that is the misspelled keyword is replaced.

## Main statements

* `Diagnostic.exists_parts_of_mem_scan`: where in the text the word stands that a report is about.
* `Diagnostic.scan_fix`: what is reported after one repair.
* `Diagnostic.applyChanges_fixes`: what many repairs do.
* `Document.repairs_exact`: one repair, and all of them in one batch.
-/

namespace LangServer

/-! ### Words in a text -/

namespace Text

/-- A word at the end of a line stays a word **before a line feed**. -/
theorem IsWord.append_newline {before word after : Text} (h : IsWord before word after)
    (t : Text) : IsWord before word (after ++ '\n' :: t) := by
  refine ⟨h.nonempty, h.chars, h.left, fun c hc => ?_⟩
  cases after with
  | nil =>
      obtain rfl : '\n' = c := Option.some.inj hc
      decide
  | cons d after => exact h.right c hc

/-- A word at the start of a line stays a word **after a line feed**. -/
theorem IsWord.newline_append {before word after : Text} (h : IsWord before word after)
    (line : Text) : IsWord (line ++ '\n' :: before) word after := by
  refine ⟨h.nonempty, h.chars, fun c hc => ?_, h.right⟩
  rw [List.getLast?_append_cons] at hc
  cases before with
  | nil =>
      obtain rfl : '\n' = c := Option.some.inj hc
      decide
  | cons d before =>
      rw [List.getLast?_cons_cons] at hc
      exact h.left c hc

end Text

namespace Diagnostic

open Text (isWordChar endOf IsWord)

/-- A text around a word is reported of in three parts. -/
theorem scan_around_word {before word after : Text} (h : IsWord before word after) :
    scan (before ++ word ++ after) .all =
      scan before .all ++ (scan word .all).map (·.after (endOf before)) ++
        (scan after .all).map (·.after (endOf (before ++ word))) := by
  rw [scan_append (Or.inr h.right), scan_append (Or.inl h.left)]

/-- The report on the misspelled keyword by itself. -/
def lone : Diagnostic where
  line := 0
  start := 0
  stop := 5
  severity := .error
  message := misspelledMessage

/-- The misspelled keyword is reported. -/
theorem scan_misspelled : scan misspelled .all = [lone] := by
  decide +kernel

/-- The keyword that is meant is not reported. -/
theorem scan_keyword : scan "func".toList .all = [] := by
  decide +kernel

/-- A report on a text of one line, and where its word stands. -/
theorem exists_parts_of_not_mem {line : Text} (hline : '\n' ∉ line) {d : Diagnostic}
    (hd : d ∈ scan line .all) : ∃ before after, line = before ++ misspelled ++ after ∧
      IsWord before misspelled after ∧ d = lone.after (endOf before) := by
  rw [scan_of_not_mem .all hline] at hd
  obtain ⟨before, after, rfl, hword, rfl⟩ := mem_scanLine_all_iff.mp hd
  have hbefore : '\n' ∉ before := fun h =>
    hline (List.mem_append_left _ (List.mem_append_left _ h))
  refine ⟨before, after, rfl, hword, ?_⟩
  rw [Text.endOf_of_not_mem hbefore]
  rfl

/-- A report, and **where its word stands** in the text. -/
theorem exists_parts_of_mem_scan {text : Text} {d : Diagnostic} (hd : d ∈ scan text .all) :
    ∃ before after, text = before ++ misspelled ++ after ∧ IsWord before misspelled after ∧
      d = lone.after (endOf before) := by
  induction text using Text.lineInduction generalizing d with
  | last line h => exact exists_parts_of_not_mem h hd
  | more line t h ih =>
      rw [scan_append_newline, List.mem_append] at hd
      rcases hd with hd | hd
      · obtain ⟨before, after, rfl, hword, rfl⟩ := exists_parts_of_not_mem h hd
        exact ⟨before, after ++ '\n' :: t, by simp, hword.append_newline t, rfl⟩
      · obtain ⟨e, he, rfl⟩ := List.mem_map.mp hd
        obtain ⟨before, after, rfl, hword, rfl⟩ := ih he
        refine ⟨line ++ '\n' :: before, after, by simp, hword.newline_append line, ?_⟩
        rw [after_after, Text.endOf_append_newline]

/-! ### One repair -/

/-- The change that **mends** what a report is about. -/
def fix (d : Diagnostic) : Change :=
  ⟨some ⟨⟨d.line, d.start⟩, ⟨d.line, d.stop⟩⟩, "func".toList⟩

/-- Where a report is once another one is mended: a column further left if it comes after that one
on the same line. -/
def closeUp (d e : Diagnostic) : Diagnostic :=
  if e.line = d.line ∧ d.start < e.start then { e with start := e.start - 1, stop := e.stop - 1 }
  else e

/-- A report that comes before the one that is mended stays where it is. -/
theorem closeUp_of_precedes {d e : Diagnostic} (h : Precedes e d) : d.closeUp e = e := by
  refine if_neg ?_
  rintro ⟨hline, hstart⟩
  rcases h with h | ⟨-, h, -⟩ <;> omega

/-- Mending a report **after some others** takes only that one away from them. -/
theorem map_closeUp_erase {d : Diagnostic} {es fs : List Diagnostic}
    (h : ∀ e ∈ es, Precedes e d) :
    ((es ++ d :: fs).erase d).map d.closeUp = es ++ fs.map d.closeUp := by
  have hnew : d ∉ es := fun hd => (h d hd).ne rfl
  have hsame : es.map d.closeUp = es :=
    (List.map_congr_left fun e he => closeUp_of_precedes (h e he)).trans (List.map_id es)
  rw [List.erase_append_right _ hnew, List.erase_cons_head, List.map_append, hsame]

/-- A report that comes after the one that is mended is counted from a column further left. -/
theorem closeUp_after (p : Position) (e : Diagnostic) :
    (lone.after p).closeUp (e.after ⟨p.line, p.column + 5⟩) = e.after ⟨p.line, p.column + 4⟩ := by
  by_cases he : e.line = 0
  · have hafter : p.column < p.column + 5 + e.start := by omega
    simp only [closeUp, after, lone, he, if_true, Nat.add_zero, hafter, and_self]
    congr 1 <;> omega
  · simp [closeUp, after, lone, he]

/-- The change mends the word that the report is about. -/
theorem applyChange_fix (before after : Text) :
    (before ++ misspelled ++ after).applyChange (lone.after (endOf before)).fix =
      before ++ "func".toList ++ after := by
  have hstop : endOf (before ++ misspelled) =
      ⟨(endOf before).line, (endOf before).column + 5⟩ := Text.endOf_append before misspelled
  have hfix : (lone.after (endOf before)).fix =
      ⟨some ⟨endOf before, endOf (before ++ misspelled)⟩, "func".toList⟩ := by
    rw [hstop]
    rfl
  rw [hfix, Text.applyChange_between]

/-- The keyword that is meant is a word where the misspelled one is. -/
theorem isWord_keyword {before after : Text} (h : IsWord before misspelled after) :
    IsWord before "func".toList after :=
  ⟨by decide, List.all_eq_true.mp (by decide), h.left, h.right⟩

/-- What is reported of a text **with a misspelled keyword** in it. -/
theorem scan_around_misspelled {before after : Text} (h : IsWord before misspelled after) :
    scan (before ++ misspelled ++ after) .all = scan before .all ++ lone.after (endOf before) ::
      (scan after .all).map (·.after ⟨(endOf before).line, (endOf before).column + 5⟩) := by
  rw [scan_around_word h, scan_misspelled, Text.endOf_append, List.append_assoc]
  rfl

/-- What is reported of the text after **the keyword is mended**. -/
theorem scan_around_keyword {before after : Text} (h : IsWord before misspelled after) :
    scan (before ++ "func".toList ++ after) .all = scan before .all ++
      (scan after .all).map (·.after ⟨(endOf before).line, (endOf before).column + 4⟩) := by
  rw [scan_around_word (isWord_keyword h), scan_keyword, Text.endOf_append, List.map_nil,
    List.append_nil]
  rfl

/-- **What is reported after one repair**: the other reports, those after it on its line a column
further left. -/
theorem scan_fix {text : Text} {d : Diagnostic} (hd : d ∈ scan text .all) :
    scan (text.applyChange d.fix) .all = ((scan text .all).erase d).map d.closeUp := by
  obtain ⟨before, after, rfl, hword, rfl⟩ := exists_parts_of_mem_scan hd
  have hscan := scan_around_misspelled hword
  rw [applyChange_fix, scan_around_keyword hword, hscan,
    map_closeUp_erase (precedes_of_scan_eq hscan), List.map_map]
  congr 1
  exact List.map_congr_left fun e _ => (closeUp_after (endOf before) e).symm

/-! ### Many repairs -/

/-- The text **cut** where word characters meet others. -/
def cuts (text : Text) : List Text :=
  text.splitBy fun c d => isWordChar c == isWordChar d

/-- The text **as it is meant**: each part that is the misspelled keyword is replaced. -/
def respelled (text : Text) : Text :=
  ((cuts text).map fun part =>
    if part = "funct".toList then "func".toList else part).flatten

/-- Texts that meet where a word begins or ends are spelled one after the other. -/
theorem respelled_append {s t : Text}
    (h : ∀ c ∈ s.getLast?, ∀ d ∈ t.head?, (isWordChar c == isWordChar d) = false) :
    respelled (s ++ t) = respelled s ++ respelled t := by
  rw [respelled, cuts, List.splitBy_append h, List.map_append, List.flatten_append]
  rfl

/-- A text around a word is spelled in three parts. -/
theorem respelled_around_word {before word after : Text} (h : IsWord before word after) :
    respelled (before ++ word ++ after) =
      respelled before ++ respelled word ++ respelled after := by
  rw [respelled_append, respelled_append]
  · intro c hc d hd
    have hd : isWordChar d := h.chars d (List.mem_of_head? hd)
    simp [h.left c hc, hd]
  · intro c hc d hd
    rw [List.getLast?_append, List.getLast?_eq_some_getLast h.nonempty, Option.some_or] at hc
    obtain rfl : word.getLast h.nonempty = c := Option.some.inj hc
    have hc : isWordChar (word.getLast h.nonempty) := h.chars _ (List.getLast_mem h.nonempty)
    simp [h.right d hd, hc]

/-- A part of the cut text that is made of word characters is a **word** of the text. -/
theorem isWord_of_cuts {text part : Text} {parts rest : List Text}
    (h : cuts text = parts ++ part :: rest) (hne : part ≠ [])
    (hchars : ∀ c ∈ part, isWordChar c) : IsWord parts.flatten part rest.flatten := by
  have hchain := List.isChain_getLast_head_splitBy (fun c d => isWordChar c == isWordChar d) text
  rw [← cuts, h, List.isChain_append] at hchain
  obtain ⟨-, hright, hleft⟩ := hchain
  refine ⟨hne, hchars, ?_, ?_⟩
  · rcases List.eq_nil_or_concat parts with rfl | ⟨parts, last, rfl⟩
    · exact nofun
    · obtain ⟨hlast, _, hdiffer⟩ := hleft last (by simp) part rfl
      have hhead : isWordChar (part.head hne) := hchars _ (List.head_mem hne)
      intro c hc
      rw [List.concat_eq_append, List.flatten_append, List.flatten_singleton, List.getLast?_append,
        List.getLast?_eq_some_getLast hlast, Option.some_or] at hc
      obtain rfl : last.getLast hlast = c := Option.some.inj hc
      simpa [hhead] using hdiffer
  · cases rest with
    | nil => exact nofun
    | cons next rest =>
        obtain ⟨_, hnext, hdiffer⟩ := (List.isChain_cons_cons.mp hright).1
        have hlast : isWordChar (part.getLast hne) := hchars _ (List.getLast_mem hne)
        intro c hc
        rw [List.flatten_cons, List.head?_append, List.head?_eq_some_head hnext,
          Option.some_or] at hc
        obtain rfl : next.head hnext = c := Option.some.inj hc
        simpa [hlast] using hdiffer

/-- A text of which **nothing is reported** is spelled as it is meant. -/
theorem respelled_of_scan_eq_nil {text : Text} (h : scan text .all = []) :
    respelled text = text := by
  have hflatten : (cuts text).flatten = text := List.flatten_splitBy _ text
  have hkept : ∀ part ∈ cuts text,
      (if part = "funct".toList then "func".toList else part) = part := by
    intro part hpart
    refine if_neg ?_
    rintro rfl
    obtain ⟨parts, rest, hparts⟩ := List.append_of_mem hpart
    have hword : IsWord parts.flatten misspelled rest.flatten :=
      isWord_of_cuts hparts (by decide) (List.all_eq_true.mp (by decide))
    have htext : text = parts.flatten ++ misspelled ++ rest.flatten := by
      rw [← hflatten, hparts]
      simp [misspelled]
    rw [htext, scan_around_misspelled hword] at h
    exact List.append_ne_nil_of_right_ne_nil _ (List.cons_ne_nil _ _) h
  rw [respelled, List.map_congr_left hkept, List.map_id', hflatten]

/-- A repair does not change how a text is meant. -/
theorem respelled_fix {text : Text} {d : Diagnostic} (hd : d ∈ scan text .all) :
    respelled (text.applyChange d.fix) = respelled text := by
  obtain ⟨before, after, rfl, hword, rfl⟩ := exists_parts_of_mem_scan hd
  rw [applyChange_fix, respelled_around_word hword, respelled_around_word (isWord_keyword hword)]
  rfl

/-- **Many repairs**, the last report first, leave a text that is spelled as it is meant. -/
theorem applyChanges_fixes {text : Text} {ds : List Diagnostic} (h : scan text .all = ds) :
    scan (text.applyChanges (ds.reverse.map fix)) .all = [] ∧
      text.applyChanges (ds.reverse.map fix) = respelled text := by
  induction ds using List.reverseRecOn generalizing text with
  | nil => exact ⟨h, (respelled_of_scan_eq_nil h).symm⟩
  | append_singleton ds d ih =>
      have hd : d ∈ scan text .all := by
        rw [h]
        simp
      -- No report comes after the last one, so the others stay where they are.
      have hrest : scan (text.applyChange d.fix) .all = ds := by
        rw [scan_fix hd, h, map_closeUp_erase (precedes_of_scan_eq h), List.map_nil,
          List.append_nil]
      rw [List.reverse_append, List.reverse_singleton, List.singleton_append, List.map_cons,
        Text.applyChanges, List.foldl_cons, ← Text.applyChanges, ← respelled_fix hd]
      exact ih hrest

end Diagnostic

/-- **Repairs are exact.** The change that mends what a report is about replaces the misspelled
keyword between the ends of the report and nothing else. What is reported afterwards is all the
rest, with the reports after it on its line a column further left. The changes for all reports in
one batch, the last one first, leave a document with nothing to report, in which each word that is
the misspelled keyword is replaced and nothing else is changed. -/
theorem Document.repairs_exact (text : Text) (version version' : Int) :
    let old := Document.ofText text version .all
    (∀ d ∈ old.diagnostics, ∃ before after, text = before ++ "funct".toList ++ after ∧
      Text.endOf before = ⟨d.line, d.start⟩ ∧
      Text.endOf (before ++ "funct".toList) = ⟨d.line, d.stop⟩ ∧
      (old.update [d.fix] version' .all).text = before ++ "func".toList ++ after ∧
      (old.update [d.fix] version' .all).diagnostics = (old.diagnostics.erase d).map d.closeUp) ∧
    (old.update (old.diagnostics.reverse.map Diagnostic.fix) version' .all).diagnostics = [] ∧
    (old.update (old.diagnostics.reverse.map Diagnostic.fix) version' .all).text =
      Diagnostic.respelled text := by
  intro old
  refine ⟨?_, Diagnostic.applyChanges_fixes rfl⟩
  intro d hd
  obtain ⟨before, after, htext, -, hplace⟩ := Diagnostic.exists_parts_of_mem_scan hd
  refine ⟨before, after, htext, ?_, ?_, ?_, Diagnostic.scan_fix hd⟩
  · rw [hplace]
    rfl
  · rw [hplace, Text.endOf_append]
    rfl
  · rw [hplace]
    subst htext
    exact Diagnostic.applyChange_fix before after

/-- Two misspellings after a character of two units, and one on the next line. -/
def Document.misspelledThrice : Document :=
  .ofText "😀 funct(funct)\nfunct".toList 1 .all

/-- The first of three reports is mended, and then all of them are. -/
theorem Document.repairs_exact_thrice :
    (⟨0, 3, 8, .error, Diagnostic.misspelledMessage⟩ ∈ misspelledThrice.diagnostics ∧
      (misspelledThrice.update [⟨some ⟨⟨0, 3⟩, ⟨0, 8⟩⟩, "func".toList⟩] 2 .all).diagnostics =
        [⟨0, 8, 13, .error, Diagnostic.misspelledMessage⟩,
         ⟨1, 0, 5, .error, Diagnostic.misspelledMessage⟩]) ∧
    (misspelledThrice.update
      (misspelledThrice.diagnostics.reverse.map Diagnostic.fix) 2 .all).text =
        "😀 func(func)\nfunc".toList := by
  have hmem : ⟨0, 3, 8, .error, Diagnostic.misspelledMessage⟩ ∈ misspelledThrice.diagnostics := by
    decide +kernel
  obtain ⟨hone, -, hall⟩ := repairs_exact "😀 funct(funct)\nfunct".toList 1 2
  obtain ⟨before, after, -, -, -, -, hdiagnostics⟩ := hone _ hmem
  refine ⟨⟨hmem, hdiagnostics.trans ?_⟩, hall.trans ?_⟩
  · decide +kernel
  · decide +kernel

end LangServer
