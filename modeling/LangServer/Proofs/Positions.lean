import Mathlib.Data.List.DropRight
import LangServer.Document

/-!
# Positions of Places in a Text

A place in a text is known by the characters before it. Its position has as its line the number of
line feeds among them, and as its column the number of units after the last one (`endOf`). This
module shows that the byte offset of such a position is the size of the characters before the
place, so that the two ways of naming a place agree, and that replacing a part of the text between
two such positions replaces exactly the characters of that part.

A position is looked up line by line; the equations of `offsetAt` here take it character by
character instead, which is how a place moves when a character is put before it.

## Main statements

* `Text.offsetAt_endOf`: the offset of the position of a place.
* `Text.applyChange_between`: a change of the part between two places.
-/

namespace LangServer.Text

/-! ### Lines character by character -/

/-- A line feed at the start of a text is a line of its own. -/
theorem lines_newline_cons (t : Text) : lines ('\n' :: t) = ['\n'] :: lines t := by
  simp [lines]

/-- Any other character at the start of a text belongs to the first line. -/
theorem lines_cons_of_ne {c : Char} (hc : c ≠ '\n') (t : Text) :
    lines (c :: t) = (c :: (lines t).headD []) :: (lines t).tail := by
  rw [lines, if_neg hc]
  cases lines t <;> rfl

/-- An empty line has no content. -/
@[simp] theorem content_nil : content [] = [] := rfl

/-- Only the last character of a line can be outside of its content. -/
theorem content_cons_of_ne {c : Char} (hc : c ≠ '\n') (l : Text) :
    content (c :: l) = c :: content l := by
  cases l with
  | nil => simp [content, hc]
  | cons d l =>
      rw [content, content, List.getLast?_cons_cons, List.dropLast_cons_cons]
      split <;> rfl

/-! ### Cuts at the end of a leading part -/

/-- The cut at column zero is empty. -/
@[simp] theorem takeUnits_zero (t : Text) : takeUnits 0 t = [] := by
  cases t <;> simp [takeUnits]

/-- There is nothing to cut off from an empty text. -/
@[simp] theorem takeUnits_nil (k : Nat) : takeUnits k [] = [] := rfl

/-- A cut further than a character takes the character. -/
theorem takeUnits_cons_add (c : Char) (t : Text) (k : Nat) :
    takeUnits (unitWidth c + k) (c :: t) = c :: takeUnits k t := by
  have hpos := unitWidth_pos c
  rw [takeUnits, if_neg (by omega), Nat.add_sub_cancel_left]

/-- Cutting off as many bytes as a leading part has leaves that part. -/
theorem takeBytes_byteSize_append (s t : Text) : takeBytes (byteSize s) (s ++ t) = s := by
  induction s with
  | nil => cases t <;> simp [takeBytes]
  | cons c s ih =>
      have hpos := c.utf8Size_pos
      rw [List.cons_append, byteSize_cons, takeBytes, if_neg (by omega),
        if_pos (Nat.le_add_right _ _), Nat.add_sub_cancel_left, ih]

/-- Dropping as many bytes as a leading part has leaves the rest. -/
theorem dropBytes_byteSize_append (s t : Text) : dropBytes (byteSize s) (s ++ t) = t := by
  have h := takeBytes_append_dropBytes (byteSize s) (s ++ t)
  rw [takeBytes_byteSize_append] at h
  exact List.append_cancel_left h

/-! ### Offsets character by character -/

/-- The first place of a text has offset zero. -/
@[simp] theorem offsetAt_origin (t : Text) : offsetAt t ⟨0, 0⟩ = 0 := by
  rw [offsetAt]
  cases lines t <;> simp [offsetIn, byteOffset]

/-- After a line feed lines are counted anew. -/
theorem offsetAt_newline_cons (t : Text) (l k : Nat) :
    offsetAt ('\n' :: t) ⟨l + 1, k⟩ = Char.utf8Size '\n' + offsetAt t ⟨l, k⟩ := by
  simp [offsetAt, lines_newline_cons, offsetIn]

/-- A character of the first line does not matter for the columns of later lines. -/
theorem offsetAt_cons_succ {c : Char} (hc : c ≠ '\n') (t : Text) (l k : Nat) :
    offsetAt (c :: t) ⟨l + 1, k⟩ = c.utf8Size + offsetAt t ⟨l + 1, k⟩ := by
  rw [offsetAt, offsetAt, lines_cons_of_ne hc]
  cases lines t with
  | nil => simp [offsetIn]
  | cons first rest => simp [offsetIn, Nat.add_assoc]

/-- On the first line a character takes up its columns. -/
theorem offsetAt_cons_zero {c : Char} (hc : c ≠ '\n') (t : Text) (k : Nat) :
    offsetAt (c :: t) ⟨0, unitWidth c + k⟩ = c.utf8Size + offsetAt t ⟨0, k⟩ := by
  rw [offsetAt, offsetAt, lines_cons_of_ne hc]
  cases lines t <;>
    simp [offsetIn, byteOffset, content_cons_of_ne hc, takeUnits_cons_add]

/-! ### The position after a text -/

/-- The **position after a text**: its line feeds are the lines before it, and the units after the
last line feed are the columns before it. -/
def endOf (t : Text) : Position where
  line := t.count '\n'
  column := units (t.rtakeWhile (· ≠ '\n'))

/-- The position after no text is the first one. -/
@[simp] theorem endOf_nil : endOf [] = ⟨0, 0⟩ := rfl

/-- A character in front does not change the last line of a text that has more than one line
together with it. -/
theorem rtakeWhile_cons_of_exists {p : Char → Bool} {c : Char} {t : Text}
    (h : ∃ d ∈ c :: t, ¬ p d) : (c :: t).rtakeWhile p = t.rtakeWhile p := by
  rw [List.rtakeWhile, List.rtakeWhile, List.reverse_cons, List.takeWhile_append]
  split
  next hlen =>
    have hself : t.reverse.takeWhile p = t.reverse :=
      (List.takeWhile_prefix p).eq_of_length hlen
    have hall : ∀ d ∈ t, p d := fun d hd =>
      List.takeWhile_eq_self_iff.mp hself d (List.mem_reverse.mpr hd)
    have hc : ¬ p c := by
      obtain ⟨d, hd, hpd⟩ := h
      rcases List.mem_cons.mp hd with rfl | hd
      · exact hpd
      · exact absurd (hall d hd) hpd
    rw [hself, List.takeWhile_cons_of_neg hc, List.append_nil]
  next => rfl

/-- A line feed in front moves the end of a text down by a line. -/
theorem endOf_newline_cons (t : Text) :
    endOf ('\n' :: t) = ⟨(endOf t).line + 1, (endOf t).column⟩ := by
  rw [endOf, rtakeWhile_cons_of_exists ⟨'\n', List.mem_cons_self, by simp⟩,
    List.count_cons_self]
  rfl

/-- A character before the last line feed does not move the end of a text. -/
theorem endOf_cons_of_mem {c : Char} (hc : c ≠ '\n') {t : Text} (ht : '\n' ∈ t) :
    endOf (c :: t) = endOf t := by
  rw [endOf, rtakeWhile_cons_of_exists ⟨'\n', List.mem_cons_of_mem c ht, by simp⟩,
    List.count_cons_of_ne hc]
  rfl

/-- The end of a text without line feeds is on the first line. -/
theorem endOf_of_not_mem {t : Text} (ht : '\n' ∉ t) : endOf t = ⟨0, units t⟩ := by
  have hall : t.rtakeWhile (· ≠ '\n') = t := by
    rw [List.rtakeWhile_eq_self_iff]
    intro c hmem
    simpa using fun h : c = '\n' => ht (h ▸ hmem)
  rw [endOf, hall, List.count_eq_zero_of_not_mem ht]

/-- **A position gives back its place**: the offset of the position after a leading part of a text
is the size of that part, whatever follows it. -/
theorem offsetAt_endOf (s t : Text) : offsetAt (s ++ t) (endOf s) = byteSize s := by
  induction s with
  | nil => simp
  | cons c s ih =>
      rw [List.cons_append, byteSize_cons, ← ih]
      by_cases hc : c = '\n'
      · subst hc
        rw [endOf_newline_cons, offsetAt_newline_cons]
      by_cases hs : '\n' ∈ s
      · rw [endOf_cons_of_mem hc hs]
        obtain ⟨l, hl⟩ : ∃ l, (endOf s).line = l + 1 :=
          Nat.exists_eq_add_one.mpr (List.count_pos_iff.mpr hs)
        have hpos : endOf s = ⟨l + 1, (endOf s).column⟩ := by rw [← hl]
        rw [hpos, offsetAt_cons_succ hc]
      · have hcs : '\n' ∉ c :: s := by
          rw [List.mem_cons, not_or]
          exact ⟨Ne.symm hc, hs⟩
        rw [endOf_of_not_mem hcs, endOf_of_not_mem hs, units_cons, offsetAt_cons_zero hc]

/-! ### Changes between two places -/

/-- Replacing the bytes of a middle part replaces that part. -/
theorem splice_append (s m t new : Text) :
    splice (s ++ m ++ t) (byteSize s) (byteSize (s ++ m)) new = s ++ new ++ t := by
  rw [splice, dropBytes_byteSize_append, List.append_assoc s m t, takeBytes_byteSize_append]

/-- **A change between two places** replaces the characters between them and no others. -/
theorem applyChange_between (s m t new : Text) :
    applyChange (s ++ m ++ t) ⟨some ⟨endOf s, endOf (s ++ m)⟩, new⟩ = s ++ new ++ t := by
  have hstart : offsetAt (s ++ m ++ t) (endOf s) = byteSize s := by
    rw [List.append_assoc, offsetAt_endOf]
  have hstop : offsetAt (s ++ m ++ t) (endOf (s ++ m)) = byteSize (s ++ m) :=
    offsetAt_endOf (s ++ m) t
  have hle : byteSize s ≤ byteSize (s ++ m) := by
    rw [byteSize_append]
    exact Nat.le_add_right _ _
  simp only [applyChange]
  rw [hstart, hstop, if_pos hle, splice_append]

end LangServer.Text
