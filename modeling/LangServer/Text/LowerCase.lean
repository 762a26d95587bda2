import LangServer.Text.CaseTables
import LangServer.Text.Units

/-!
# Lower Case

The full lower-case form of a text. Each capital letter becomes its small letter, with two
exceptions: the dotted capital `İ` becomes two characters, and the capital sigma becomes the
final sigma where it ends a word.

A sigma ends a word when a character with case stands before it and none stands after it,
other characters of the class passed over lying between them or not.
-/

namespace LangServer.Text

/-- Whether a code point lies in one of some ranges. -/
def inRanges (ranges : List (Nat × Nat)) (n : Nat) : Bool :=
  ranges.any fun r => r.1 ≤ n && n ≤ r.2

/-- Whether a capital letter of the stretch has this code point. -/
def CaseStretch.contains (s : CaseStretch) (n : Nat) : Bool :=
  s.first ≤ n && n ≤ s.last && (n - s.first) % s.step = 0

/-- The code point of the small letter, or the given one when there is none. -/
def lowerCode (n : Nat) : Nat :=
  match caseStretches.find? (·.contains n) with
  | some s => s.small + (n - s.first)
  | none => n

/-- The lower-case form of a character on its own. -/
def lowerChar (c : Char) : Text :=
  if c = '\u0130' then ['i', '\u0307'] else [Char.ofNat (lowerCode c.toNat)]

/-- Whether the first character that is not passed over has case. -/
def startsCased (t : Text) : Bool :=
  match t.dropWhile fun c => inRanges caseIgnorableRanges c.toNat with
  | [] => false
  | c :: _ => inRanges casedRanges c.toNat

/-- The lower-case form of the rest of a text, the characters before it being given in
reverse. -/
def lowerFrom (before : Text) : Text → Text
  | [] => []
  | c :: t =>
    let lower :=
      if c = 'Σ' then if startsCased before && !startsCased t then ['ς'] else ['σ']
      else lowerChar c
    lower ++ lowerFrom (c :: before) t

/-- The lower-case form of a text. -/
def lower (t : Text) : Text :=
  lowerFrom [] t

end LangServer.Text
