/-!
# Text and its Two Measures

A text is the list of its characters. Two measures are taken of it: the number of bytes of
its UTF-8 form (`byteSize`), by which offsets count, and the number of 16-bit units of its
UTF-16 form (`units`), by which the columns of a line count.

The cuts `takeUnits` and `takeBytes?` turn a column or an offset into the part of the text
before it. A column inside a character that takes two units belongs to the cut after that
character; an offset inside a character belongs to no cut at all. Offsets and columns beyond
the end mean the end.

## Main definitions

* `Text.byteSize`, `Text.units`: the two measures.
* `Text.byteOffset`: the offset of a column.
* `Text.column`: the column of an offset.

## Main statements

* `Text.takeUnits_append_dropUnits`: a cut by columns loses nothing.
* `Text.takeBytes?_byteSize_append`: cutting at the size of a leading part gives that part.
-/

namespace LangServer

/-- A text is the list of its characters. -/
abbrev Text := List Char

namespace Text

/-! ### Measures -/

/-- The number of 16-bit units of a character: two beyond the basic plane, else one. -/
def unitWidth (c : Char) : Nat :=
  if c.toNat < 0x10000 then 1 else 2

/-- The number of 16-bit units of a text. -/
def units : Text → Nat
  | [] => 0
  | c :: t => unitWidth c + units t

/-- The number of bytes of a text in UTF-8. -/
def byteSize : Text → Nat
  | [] => 0
  | c :: t => c.utf8Size + byteSize t

@[simp] theorem units_nil : units [] = 0 := rfl

@[simp] theorem units_cons (c : Char) (t : Text) : units (c :: t) = unitWidth c + units t := rfl

@[simp] theorem byteSize_nil : byteSize [] = 0 := rfl

@[simp] theorem byteSize_cons (c : Char) (t : Text) :
    byteSize (c :: t) = c.utf8Size + byteSize t := rfl

/-- A character takes one or two units. -/
theorem unitWidth_pos (c : Char) : 0 < unitWidth c := by
  unfold unitWidth
  split <;> decide

/-- Units add up over an append. -/
@[simp] theorem units_append (s t : Text) : units (s ++ t) = units s + units t := by
  induction s with
  | nil => simp
  | cons c s ih => simp [ih, Nat.add_assoc]

/-- Bytes add up over an append. -/
@[simp] theorem byteSize_append (s t : Text) : byteSize (s ++ t) = byteSize s + byteSize t := by
  induction s with
  | nil => simp
  | cons c s ih => simp [ih, Nat.add_assoc]

/-! ### Cuts by columns -/

/-- The part of a line before column `n`: the shortest leading part with at least `n` units,
or the whole line when it has fewer. -/
def takeUnits : Nat → Text → Text
  | _, [] => []
  | n, c :: t => if n = 0 then [] else c :: takeUnits (n - unitWidth c) t

/-- The part of a line from column `n` on. -/
def dropUnits : Nat → Text → Text
  | _, [] => []
  | n, c :: t => if n = 0 then c :: t else dropUnits (n - unitWidth c) t

/-- The parts before and from a column make up the line. -/
theorem takeUnits_append_dropUnits (n : Nat) (t : Text) :
    takeUnits n t ++ dropUnits n t = t := by
  induction t generalizing n with
  | nil => rfl
  | cons c t ih =>
    by_cases h : n = 0
    · simp [takeUnits, dropUnits, h]
    · simp [takeUnits, dropUnits, h, ih]

/-- The byte offset of a column of a line; a column past the end gives the line's end. -/
def byteOffset (line : Text) (column : Nat) : Nat :=
  byteSize (takeUnits column line)

/-! ### Cuts by offsets -/

/-- The part of a text before byte offset `n`, or nothing when `n` is inside a character.
An offset past the end gives the whole text. -/
def takeBytes? : Nat → Text → Option Text
  | _, [] => some []
  | n, c :: t =>
    if n = 0 then some []
    else if c.utf8Size ≤ n then (takeBytes? (n - c.utf8Size) t).map (c :: ·)
    else none

/-- Cutting at the size of a leading part gives that part. -/
theorem takeBytes?_byteSize_append (s t : Text) :
    takeBytes? (byteSize s) (s ++ t) = some s := by
  induction s with
  | nil => cases t <;> simp [takeBytes?]
  | cons c s ih =>
    have hpos : 0 < c.utf8Size := c.utf8Size_pos
    have hne : c.utf8Size + byteSize s ≠ 0 := by omega
    have hsub : c.utf8Size + byteSize s - c.utf8Size = byteSize s := by omega
    simp only [List.cons_append, byteSize_cons, takeBytes?, hne, hsub, ih, if_false,
      Nat.le_add_right, if_true, Option.map_some]

/-- The column of a byte offset of a line. An offset inside a character counts the whole line,
and so does one past the end. -/
def column (line : Text) (offset : Nat) : Nat :=
  units ((takeBytes? offset line).getD line)

end Text

end LangServer
