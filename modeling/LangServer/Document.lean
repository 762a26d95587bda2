import LangServer.Diagnostic

/-!
# Documents

A text under edit, with its version and the diagnostics of its last scan. A change replaces
either the whole text or the part between two positions; positions count lines and 16-bit
columns, and positions that do not exist mean the nearest place after them: the end of the line,
or the end of the text. The two ends of a range may come in any order.

## Main definitions

* `Text.offsetAt`: the byte offset of a position.
* `Text.splice`: the text with the part between two offsets replaced.
* `Document.update`: a batch of changes, then a scan.
-/

namespace LangServer

/-- A place in a text: a line and a column in 16-bit units, both counted from zero. -/
structure Position where
  line : Nat
  column : Nat
  deriving DecidableEq, Repr

/-- The part of a text between two places. -/
structure Range where
  start : Position
  stop : Position
  deriving DecidableEq, Repr

/-- A change of a text: new characters for a range, or for all of it. -/
structure Change where
  range : Option Range
  text : Text
  deriving DecidableEq, Repr

namespace Text

/-- The byte offset of a column in a line of the given lines, or their whole size when there is
no such line. -/
def offsetIn (line column : Nat) : List Text → Nat
  | [] => 0
  | l :: ls =>
    match line with
    | 0 => byteOffset (content l) column
    | line + 1 => byteSize l + offsetIn line column ls

/-- The byte offset of a position. A column past the end of its line means the end of the line,
before the line feed; a line past the last one means the end of the text. -/
def offsetAt (text : Text) (p : Position) : Nat :=
  offsetIn p.line p.column (lines text)

/-- The part of a text from byte offset `n` on; an offset inside a character belongs before
that character. -/
def dropBytes : Nat → Text → Text
  | _, [] => []
  | n, c :: t =>
    if n = 0 then c :: t
    else if c.utf8Size ≤ n then dropBytes (n - c.utf8Size) t
    else c :: t

/-- The part of a text before byte offset `n`; an offset inside a character belongs before that
character. -/
def takeBytes : Nat → Text → Text
  | _, [] => []
  | n, c :: t =>
    if n = 0 then []
    else if c.utf8Size ≤ n then c :: takeBytes (n - c.utf8Size) t
    else []

/-- The text with the part between byte offsets `a` and `b` replaced. -/
def splice (text : Text) (a b : Nat) (new : Text) : Text :=
  takeBytes a text ++ new ++ dropBytes b text

/-- The parts before and from an offset make up the text. -/
theorem takeBytes_append_dropBytes (n : Nat) (t : Text) :
    takeBytes n t ++ dropBytes n t = t := by
  induction t generalizing n with
  | nil => rfl
  | cons c t ih =>
    by_cases h : n = 0
    · simp [takeBytes, dropBytes, h]
    · by_cases hc : c.utf8Size ≤ n <;> simp [takeBytes, dropBytes, h, hc, ih]

/-- The text after one change. -/
def applyChange (text : Text) (c : Change) : Text :=
  match c.range with
  | none => c.text
  | some r =>
    let a := text.offsetAt r.start
    let b := text.offsetAt r.stop
    if a ≤ b then text.splice a b c.text else text.splice b a c.text

/-- The text after some changes, each made to the result of those before it. -/
def applyChanges (text : Text) (changes : List Change) : Text :=
  changes.foldl applyChange text

/-- A line with its line feed, if there is such a line. -/
def line? (text : Text) (index : Nat) : Option Text :=
  (lines text)[index]?

end Text

/-- A text under edit, with the version that the client gave it and the diagnostics of its last
scan. -/
structure Document where
  text : Text
  version : Int
  diagnostics : List Diagnostic
  deriving DecidableEq, Repr

namespace Document

/-- A new document with its diagnostics. -/
def ofText (text : Text) (version : Int) (report : Report) : Document where
  text := text
  version := version
  diagnostics := Diagnostic.scan text report

/-- The document after one change, not scanned again. -/
def apply (d : Document) (c : Change) : Document :=
  { d with text := d.text.applyChange c }

/-- The document after a batch of changes under a new version, scanned again. -/
def update (d : Document) (changes : List Change) (version : Int) (report : Report) : Document :=
  ofText (d.text.applyChanges changes) version report

end Document

end LangServer
