import LangServer.Uri.Name.ClassTables
import LangServer.Uri.Name.Composition

/-!
# Joiners

Two characters that are not to be seen say whether their neighbours join. A label may have one
only where it makes a difference: after a mark that kills a vowel, and, for the one that parts its
neighbours, between letters that would join each other.
-/

namespace LangServer.Uri.Name

/-- The character that parts its neighbours. -/
def nonJoiner : Char := '\u200c'

/-- The character that joins its neighbours. -/
def joiner : Char := '\u200d'

/-- The class of the marks that kill a vowel. -/
def vowelKiller : Nat := 9

/-- Whether the first character that is not transparent joins in one of some ways. -/
def meets (ways : List Joining) : Text → Bool
  | [] => false
  | c :: r =>
    match joiningTable.get? c with
    | some .transparent => meets ways r
    | some j => ways.contains j
    | none => false

/-- Whether a character may stand between what comes before it, in reverse, and after it. -/
def mayJoin (before : Text) (c : Char) (after : Text) : Bool :=
  (c ≠ nonJoiner && c ≠ joiner) ||
    before.head?.any (markClass · = vowelKiller) ||
    (c = nonJoiner && meets [.left, .dual] before && meets [.right, .dual] after)

/-- Whether all characters of the rest of a label may stand where they do, the characters before
it being given in reverse. -/
def joinersFrom (before : Text) : Text → Bool
  | [] => true
  | c :: r => mayJoin before c r && joinersFrom (c :: before) r

/-- Whether the joiners of a label stand where they may. -/
def joinersFit (label : Text) : Bool :=
  joinersFrom [] label

end LangServer.Uri.Name
