import LangServer.Proofs.Boundaries
import LangServer.Proofs.Concatenation

/-!
# Changes are Local

After a change the whole text is scanned again. This module shows that only the lines that the
change touches can have other reports then: those of the lines above it stay as they are, and those
of the lines below it move with their lines.

## Touched lines

A change cuts the text into what is before it, what it replaces and what is after it. The first line
that it touches has as its number the line feeds before the cut, and the last one the line feeds
before the second cut. Line feeds in the new characters make more lines of these.

## Main statements

* `Diagnostic.filter_scan_above`: reports above a place do not depend on what comes after it.
* `Diagnostic.filter_scan_below`: reports below a place move with it.
* `Document.update_local`: reports before and after a change.
-/

namespace LangServer

namespace Diagnostic

/-- Reports on lines **above** the end of a text do not depend on what comes after it. -/
theorem filter_scan_above (report : Report) (s t : Text) :
    (scan (s ++ t) report).filter (·.line < s.count '\n') =
      (scan s report).filter (·.line < s.count '\n') := by
  induction s using Text.lineInduction with
  | last line h => simp [List.count_eq_zero_of_not_mem h]
  | more line s h ih =>
      have hcount : (line ++ '\n' :: s).count '\n' = line.count '\n' + 1 + s.count '\n' := by
        rw [List.count_append, List.count_cons_self]
        omega
      -- The first line is above in both texts, and the others are so as they are by themselves.
      have hrest : ∀ ds : List Diagnostic,
          (ds.map (·.after ⟨line.count '\n' + 1, 0⟩)).filter
              (·.line < line.count '\n' + 1 + s.count '\n') =
            (ds.filter (·.line < s.count '\n')).map (·.after ⟨line.count '\n' + 1, 0⟩) := by
        intro ds
        rw [List.filter_map]
        congr 1
        refine List.filter_congr fun d _ => ?_
        simp only [Function.comp_apply, after, Nat.add_lt_add_iff_left]
      rw [List.append_assoc, List.cons_append, scan_append_newline, scan_append_newline, hcount,
        List.filter_append, List.filter_append, hrest, hrest, ih]

/-- There is nothing to report below the last line. -/
theorem filter_scan_below_last (report : Report) (s : Text) {line : Text} (h : '\n' ∉ line) :
    (scan (s ++ line) report).filter (s.count '\n' < ·.line) = [] := by
  refine List.filter_eq_nil_iff.mpr fun d hd hlt => ?_
  have hle := line_le_of_mem_scan hd
  rw [List.count_append, List.count_eq_zero_of_not_mem h] at hle
  have hlt := of_decide_eq_true hlt
  omega

/-- Reports on lines **below** the start of a text are those that it has by itself, as much further
down as it starts. -/
theorem filter_scan_below (report : Report) (s t : Text) :
    (scan (s ++ t) report).filter (s.count '\n' < ·.line) =
      ((scan t report).filter (0 < ·.line)).map (·.after ⟨s.count '\n', 0⟩) := by
  have hlast {line : Text} (h : '\n' ∉ line) : (scan line report).filter (0 < ·.line) = [] :=
    filter_scan_below_last report [] h
  induction t using Text.lineInduction with
  | last line h => rw [filter_scan_below_last report s h, hlast h, List.map_nil]
  | more line t h _ =>
      have hcount : (s ++ line).count '\n' = s.count '\n' := by
        rw [List.count_append, List.count_eq_zero_of_not_mem h, Nat.add_zero]
      -- All lines after the first line feed of the second text are below its start.
      have hall : ∀ n k, n < k → ∀ ds : List Diagnostic,
          (ds.map (·.after ⟨k, 0⟩)).filter (n < ·.line) = ds.map (·.after ⟨k, 0⟩) := by
        intro n k hnk ds
        refine List.filter_eq_self.mpr fun d hd => ?_
        obtain ⟨e, -, rfl⟩ := List.mem_map.mp hd
        exact decide_eq_true (Nat.lt_add_right e.line hnk)
      rw [← List.append_assoc, scan_append_newline, scan_append_newline, List.filter_append,
        List.filter_append, filter_scan_below_last report s h, hlast h, hcount,
        hall _ _ (Nat.lt_succ_self _), hall _ _ (Nat.succ_pos _), List.count_eq_zero_of_not_mem h,
        List.nil_append, List.nil_append, List.map_map]
      refine List.map_congr_left fun d _ => ?_
      rw [Function.comp_apply, after_after]
      rfl

end Diagnostic

/-- **A change is local.** A change between any two positions cuts a text at their offsets. After
it, what is reported above the line of the first cut is what was reported there before, and what is
reported below the line where the new characters end is what was reported below the line of the
second cut, at the same columns and as much further down as the lines have moved. -/
theorem Document.update_local (text : Text) (version version' : Int) (report : Report)
    (p q : Position) (new : Text) :
    ∃ before middle after, text = before ++ middle ++ after ∧
      Text.byteSize before = min (text.offsetAt p) (text.offsetAt q) ∧
      Text.byteSize (before ++ middle) = max (text.offsetAt p) (text.offsetAt q) ∧
      let old := Document.ofText text version report
      let changed := old.update [⟨some ⟨p, q⟩, new⟩] version' report
      let first := before.count '\n'
      let last := (before ++ middle).count '\n'
      let added := new.count '\n'
      changed.diagnostics.filter (·.line < first) = old.diagnostics.filter (·.line < first) ∧
      changed.diagnostics.filter (first + added < ·.line) =
        (old.diagnostics.filter (last < ·.line)).map fun d =>
          { d with line := d.line - last + (first + added) } := by
  obtain ⟨before, middle, after, htext, hbefore, hmiddle, hedit⟩ :=
    Text.exists_parts_of_edit text p q new
  refine ⟨before, middle, after, htext, hbefore, hmiddle, ?_⟩
  intro old changed first last added
  have hold : old.diagnostics = Diagnostic.scan text report := rfl
  have hchanged : changed.diagnostics = Diagnostic.scan (before ++ new ++ after) report :=
    congrArg (Diagnostic.scan · report) hedit
  have hcount : first + added = (before ++ new).count '\n' := List.count_append.symm
  rw [hold, hchanged, htext]
  constructor
  · rw [List.append_assoc, List.append_assoc, Diagnostic.filter_scan_above,
      Diagnostic.filter_scan_above]
  · rw [hcount, Diagnostic.filter_scan_below, Diagnostic.filter_scan_below, List.map_map]
    refine List.map_congr_left fun d _ => ?_
    have hline : (before ++ middle).count '\n' + d.line - last + (before ++ new).count '\n' =
        (before ++ new).count '\n' + d.line := by omega
    simp only [Function.comp_apply, Diagnostic.after, hline]

end LangServer
