import LangServer.Proofs.Misspellings
import LangServer.Proofs.PositionOrder

/-!
# Reports in 32 Bits

The lines and columns of a report are numbers without bound here, and a client is told them in 32
bits. This module goes through the scanner once more with numbers of 32 bits: the number of a line
and the column of a word are cut to 32 bits, and the column after the word is counted on from there
(`Diagnostic.countedScan?`). In a text whose lines can be numbered in 32 bits, and their columns
too, nothing is cut off and no counter overflows. So all that is said elsewhere of reports, and of
changes between the ends of reports, is said of what a client is told.

## Main statements

* `Diagnostic.countedScan?_eq`: the reports in 32 bits are the reports.
* `Diagnostic.countedOffsetAt?_of_mem_scan`: the ends of a report are looked up in 32 bits.
-/

namespace LangServer

/-- A word ends no later than its line. -/
theorem Text.stop_le_units {line : Text} {r : Run} (h : r ∈ runs line) :
    r.stop ≤ units line ∧ r.stop = r.start + units r.word := by
  obtain ⟨before, after, rfl, hstart, hword⟩ := mem_runs_iff.mp h
  have hlength : units r.word = r.word.length := units_of_isWordChar hword.chars
  rw [Run.stop, units_append, units_append]
  omega

namespace Diagnostic

open Text (units advance?)

/-! ### The scanner in 32 bits -/

/-- The report on a word of a line **in 32 bits**, or nothing if the column after it overflows. -/
def countedOfRun? (line : Nat) (r : Text.Run) : Option Diagnostic :=
  (advance? (UInt32.ofNat r.start) (units r.word)).map fun stop =>
    { line := (UInt32.ofNat line).toNat
      start := (UInt32.ofNat r.start).toNat
      stop := stop.toNat
      severity := .error
      message := misspelledMessage }

/-- The reports on one line in 32 bits. -/
def countedScanLine? (report : Report) (index : Nat) (line : Text) : Option (List Diagnostic) :=
  (keep report ((Text.runs line).filter (·.word = misspelled))).mapM (countedOfRun? index)

/-- The reports on some lines in 32 bits, the first of which has number `index`. -/
def countedScanFrom? (report : Report) (index : Nat) : List Text → Option (List Diagnostic)
  | [] => some []
  | line :: rest => do
    let here ← countedScanLine? report index line
    let below ← countedScanFrom? report (index + 1) rest
    return here ++ below

/-- The reports on a text **in 32 bits**, or nothing if a column overflows. -/
def countedScan? (text : Text) (report : Report) : Option (List Diagnostic) :=
  countedScanFrom? report 0 text.pieces

/-! ### Agreement -/

/-- A word that ends in 32 bits is reported as it is. -/
theorem countedOfRun?_eq {index : Nat} {line : Text} {r : Text.Run} (hr : r ∈ Text.runs line)
    (hindex : index < UInt32.size) (hline : units line < UInt32.size) :
    countedOfRun? index r = some (ofRun index r) := by
  obtain ⟨hle, hstop⟩ := Text.stop_le_units hr
  have hstart : (UInt32.ofNat r.start).toNat = r.start := UInt32.toNat_ofNat_of_lt' (by omega)
  have hroom : (UInt32.ofNat r.start).toNat + units r.word < UInt32.size := by omega
  obtain ⟨stop, hadvance, hcount⟩ := Text.advance?_of_lt hroom
  rw [countedOfRun?, hadvance, Option.map_some, hcount, hstart, ← hstop,
    UInt32.toNat_ofNat_of_lt' hindex]
  rfl

/-- What is kept of a list is in it. -/
theorem mem_of_mem_keep {α : Type} {report : Report} {l : List α} {a : α} (h : a ∈ keep report l) :
    a ∈ l := by
  cases report with
  | first => exact List.mem_of_mem_take h
  | all => exact h

/-- The reports on a line whose columns fit are its reports. -/
theorem countedScanLine?_eq {index : Nat} {line : Text} (hindex : index < UInt32.size)
    (hline : units line < UInt32.size) (report : Report) :
    countedScanLine? report index line = some (scanLine report index line) := by
  rw [countedScanLine?, scanLine]
  have hruns : ∀ r ∈ keep report ((Text.runs line).filter (·.word = misspelled)),
      countedOfRun? index r = some (ofRun index r) := fun r hr =>
    countedOfRun?_eq (List.mem_filter.mp (mem_of_mem_keep hr)).1 hindex hline
  generalize keep report ((Text.runs line).filter (·.word = misspelled)) = kept at hruns ⊢
  induction kept with
  | nil => rfl
  | cons r rs ih =>
      obtain ⟨hr, hrs⟩ := List.forall_mem_cons.mp hruns
      rw [List.mapM_cons, hr, ih hrs]
      rfl

/-- So are those on many lines whose numbers fit. -/
theorem countedScanFrom?_eq {index : Nat} {lines : List Text}
    (hindex : index + lines.length ≤ UInt32.size)
    (hlines : ∀ line ∈ lines, units line < UInt32.size) (report : Report) :
    countedScanFrom? report index lines = some (scanFrom report index lines) := by
  induction lines generalizing index with
  | nil => rfl
  | cons line rest ih =>
      obtain ⟨hline, hrest⟩ := List.forall_mem_cons.mp hlines
      rw [List.length_cons] at hindex
      rw [countedScanFrom?, countedScanLine?_eq (by omega) hline, ih (by omega) hrest]
      rfl

/-- The pieces of a text have no more units than its lines. -/
theorem units_piece_lt {text : Text} (h : ∀ line ∈ text.lines, units line < UInt32.size) :
    ∀ piece ∈ text.pieces, units piece < UInt32.size := by
  intro piece hpiece
  by_cases hne : piece = []
  · subst hne
    decide
  · obtain ⟨i, hi⟩ := List.mem_iff_getElem?.mp hpiece
    obtain ⟨line, hline, rfl⟩ := Text.exists_line?_of_getElem?_pieces hi hne
    have hle := Text.units_le_of_isPrefix (Text.content_isPrefix line)
    exact Nat.lt_of_le_of_lt hle (h line (List.mem_of_getElem? hline))

variable {text : Text}

/-- **The reports in 32 bits are the reports**, if the lines of the text can be numbered in 32 bits
and no line has as many units as there are such numbers. -/
theorem countedScan?_eq (hcount : text.count '\n' < UInt32.size)
    (hlines : ∀ line ∈ text.lines, units line < UInt32.size) (report : Report) :
    countedScan? text report = some (scan text report) := by
  refine countedScanFrom?_eq ?_ (units_piece_lt hlines) report
  rw [Nat.zero_add, Text.length_pieces]
  exact hcount

/-- A report of such a text **fits into 32 bits**. -/
theorem lt_size_of_mem_scan (hcount : text.count '\n' < UInt32.size)
    (hlines : ∀ line ∈ text.lines, units line < UInt32.size) {report : Report} {d : Diagnostic}
    (hd : d ∈ scan text report) :
    d.line < UInt32.size ∧ d.start < UInt32.size ∧ d.stop < UInt32.size := by
  obtain ⟨k, line, hk, hd⟩ := mem_scanFrom_iff.mp hd
  obtain ⟨r, hr, rfl⟩ := List.mem_map.mp hd
  have hline := units_piece_lt hlines line (List.mem_of_getElem? hk)
  obtain ⟨hle, hstop⟩ := Text.stop_le_units (List.mem_filter.mp (mem_of_mem_keep hr)).1
  obtain ⟨hlt, -⟩ := List.getElem?_eq_some_iff.mp hk
  rw [Text.length_pieces] at hlt
  simp only [ofRun]
  omega

/-- The **ends of a report** are looked up in 32 bits at their offsets. -/
theorem countedOffsetAt?_of_mem_scan (hcount : text.count '\n' < UInt32.size)
    (hlines : ∀ line ∈ text.lines, units line < UInt32.size) {report : Report} {d : Diagnostic}
    (hd : d ∈ scan text report) :
    text.countedOffsetAt? (.ofNat d.line) (.ofNat d.start) =
        some (text.offsetAt ⟨d.line, d.start⟩) ∧
      text.countedOffsetAt? (.ofNat d.line) (.ofNat d.stop) =
        some (text.offsetAt ⟨d.line, d.stop⟩) := by
  obtain ⟨hline, hstart, hstop⟩ := lt_size_of_mem_scan hcount hlines hd
  rw [Text.countedOffsetAt?_eq hlines, Text.countedOffsetAt?_eq hlines,
    UInt32.toNat_ofNat_of_lt' hline, UInt32.toNat_ofNat_of_lt' hstart,
    UInt32.toNat_ofNat_of_lt' hstop]
  exact ⟨rfl, rfl⟩

end Diagnostic

end LangServer
