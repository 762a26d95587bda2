import LangServer.Text.Numeral

/-!
# Tables of Code Points

A table gives values to stretches of code points, which are listed in order and do not overlap.
Properties of characters that a standard lists are kept in such tables.

A table is written as a text of entries with blanks between them. An entry is a stretch, as its
first and last code point in hexadecimal with a hyphen between them or as its only one, and then
an equals sign and the value, if the values of the table are worth writing.

## Main definitions

* `CodeTable.stretch?`: the stretch that a code point lies in.
* `CodeTable.read`: the table that a text writes.
-/

namespace LangServer.Text

/-- A stretch of code points with a value. -/
structure Stretch (α : Type) where
  first : Nat
  last : Nat
  value : α

/-- Stretches of code points in order. -/
structure CodeTable (α : Type) where
  stretches : Array (Stretch α)

namespace CodeTable

variable {α : Type}

/-! ### Looking up -/

/-- The stretch that a code point lies in, among those from `lo` up to `hi`: the one in the middle,
or one of the half on the side of the code point. -/
def search (t : CodeTable α) (n lo hi : Nat) (h : hi ≤ t.stretches.size) : Option (Stretch α) :=
  if hlt : lo < hi then
    let mid := (lo + hi) / 2
    have hmid : mid < t.stretches.size := by omega
    let s := t.stretches[mid]
    if n < s.first then t.search n lo mid (by omega)
    else if s.last < n then t.search n (mid + 1) hi h
    else some s
  else none
termination_by hi - lo

/-- The stretch that a code point lies in. -/
def stretch? (t : CodeTable α) (n : Nat) : Option (Stretch α) :=
  t.search n 0 t.stretches.size (Nat.le_refl _)

/-- The value of a character. -/
def get? (t : CodeTable α) (c : Char) : Option α :=
  (t.stretch? c.toNat).map (·.value)

/-- Whether a character lies in a stretch. -/
def contains (t : CodeTable α) (c : Char) : Bool :=
  (t.stretch? c.toNat).isSome

/-! ### Reading -/

/-- The words between blanks and line breaks. -/
def words (s : Text) : List Text :=
  (List.splitOn ' ' (s.map fun c => if c = '\n' then ' ' else c)).filter (· ≠ [])

/-- Reads an entry. -/
def readStretch (value : Text → α) (entry : Text) : Stretch α :=
  let ends := List.splitOn '-' (entry.takeWhile (· ≠ '='))
  { first := numeral 16 (ends.headD [])
    last := numeral 16 (ends.getLastD [])
    value := value ((entry.dropWhile (· ≠ '=')).drop 1) }

/-- Reads a table whose values are read by `value`. -/
def read (value : Text → α) (table : String) : CodeTable α :=
  ⟨((words table.toList).map (readStretch value)).toArray⟩

end CodeTable

/-- Reads code points with commas between them. -/
def readCodes (s : Text) : List Nat :=
  ((List.splitOn ',' s).filter (· ≠ [])).map (numeral 16)

end LangServer.Text
