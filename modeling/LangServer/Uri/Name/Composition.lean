import LangServer.Uri.Name.CompositionTable

/-!
# The Composed Form

A letter with marks can be spelled in several ways: as one character, as a letter followed by
marks, and with marks of different classes in any order. The composed form of a text is the same
for all spellings. Every character is taken apart, the marks after each letter are put in the
order of their classes, and then each letter takes in the marks that make one character with it.

A mark is out of a letter's reach when one of its own or a higher class stands between them.

## Main definitions

* `composed`: the composed form of a text.
-/

namespace LangServer.Uri.Name

/-- The class of a mark; zero for all other characters. -/
def markClass (c : Char) : Nat :=
  (markClassTable.get? c).getD 0

/-! ### Syllables of Hangul -/

/-- The first syllable. -/
def syllableBase : Nat := 0xAC00

/-- The first leading consonant. -/
def leadBase : Nat := 0x1100

/-- The first vowel. -/
def vowelBase : Nat := 0x1161

/-- The code point before the first trailing consonant. -/
def trailBase : Nat := 0x11A7

/-- The number of leading consonants. -/
def leadCount : Nat := 19

/-- The number of vowels. -/
def vowelCount : Nat := 21

/-- The number of trailing consonants, none being one of them. -/
def trailCount : Nat := 28

/-- Whether a code point is that of a syllable. -/
def isSyllable (n : Nat) : Bool :=
  syllableBase ≤ n && n < syllableBase + leadCount * vowelCount * trailCount

/-- The parts of a syllable. -/
def syllableParts (n : Nat) : List Nat :=
  let k := n - syllableBase
  let lead := leadBase + k / (vowelCount * trailCount)
  let vowel := vowelBase + k / trailCount % vowelCount
  if k % trailCount = 0 then [lead, vowel] else [lead, vowel, trailBase + k % trailCount]

/-- The syllable that a consonant and a vowel, or a syllable and a consonant, make. -/
def syllableOf? (a b : Nat) : Option Nat :=
  if leadBase ≤ a ∧ a < leadBase + leadCount ∧ vowelBase ≤ b ∧ b < vowelBase + vowelCount then
    some (syllableBase + ((a - leadBase) * vowelCount + (b - vowelBase)) * trailCount)
  else if isSyllable a ∧ (a - syllableBase) % trailCount = 0 ∧
      trailBase < b ∧ b < trailBase + trailCount then
    some (a + (b - trailBase))
  else none

/-! ### Taking apart and putting together -/

/-- A character taken apart, before `rest`. Only the first part of a character may itself have
parts, and at most `fuel` levels of them are looked at. -/
def takeApart : Nat → Nat → Text → Text
  | 0, n, rest => Char.ofNat n :: rest
  | fuel + 1, n, rest =>
    if isSyllable n then (syllableParts n).map Char.ofNat ++ rest
    else match compositeTable.stretch? n with
      | some ⟨_, _, [a, b]⟩ => takeApart fuel a (Char.ofNat b :: rest)
      | _ => Char.ofNat n :: rest

/-- The levels of parts that characters have at most. -/
def maxLevels : Nat := 4

/-- A text taken apart. -/
def apart (t : Text) : Text :=
  t.flatMap fun c => takeApart maxLevels c.toNat []

/-- Puts a mark in its place among the last marks of a text in reverse. -/
def insertMark (c : Char) : Text → Text
  | [] => [c]
  | d :: r => if markClass c < markClass d then d :: insertMark c r else c :: d :: r

/-- A text with its marks in the order of their classes, in reverse. -/
def orderedReverse (t : Text) : Text :=
  t.foldl (fun r c => if markClass c = 0 then c :: r else insertMark c r) []

/-- The character that two make. -/
def composite? (a b : Char) : Option Char :=
  if b.toNat < 0x300 then none
  else
    ((syllableOf? a.toNat b.toNat).or
      ((compositeTable.stretches.find? (·.value = [a.toNat, b.toNat])).map (·.first))).map
        Char.ofNat

/-- A text put together so far. -/
structure Composing where
  /-- What is done, in reverse. -/
  done : Text := []
  letter : Option Char := none
  /-- The marks after it that it did not take in, in reverse. -/
  marks : Text := []

/-- All of the text, in reverse. -/
def Composing.all (s : Composing) : Text :=
  s.marks ++ s.letter.toList ++ s.done

/-- The text with one more character. -/
def Composing.add (s : Composing) (c : Char) : Composing :=
  let inReach := match s.marks with
    | [] => true
    | m :: _ => markClass m < markClass c
  let made := if inReach then s.letter.bind fun a => composite? a c else none
  match made with
  | some b => { s with letter := some b }
  | none =>
    if markClass c = 0 then { done := s.all, letter := some c }
    else { s with marks := c :: s.marks }

/-- The composed form of a text. -/
def composed (t : Text) : Text :=
  ((orderedReverse (apart t)).reverse.foldl Composing.add {}).all.reverse

end LangServer.Uri.Name
