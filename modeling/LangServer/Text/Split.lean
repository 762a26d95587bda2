import LangServer.Text.Units

/-!
# Parts of a Text

A text with `k` separators has `k + 1` parts between them, some of which may be empty. `expect`
takes a character off the front of a text.

## Main statements

* `Text.length_splitOn`: there is one part more than there are separators.
-/

namespace LangServer.Text

/-- The text after a character that has to come first. -/
def expect (c : Char) : Text → Option Text
  | d :: r => if c = d then some r else none
  | [] => none

/-- There is one part more than there are separators. -/
theorem length_splitOn (sep : Char) (t : Text) :
    (List.splitOn sep t).length = t.count sep + 1 := by
  induction t with
  | nil => rfl
  | cons c t ih =>
    rw [List.splitOn_cons_eq_if_modifyHead, List.count_cons]
    split
    · rw [List.length_cons, ih]
    · rw [List.length_modifyHead, ih, Nat.add_zero]

end LangServer.Text
