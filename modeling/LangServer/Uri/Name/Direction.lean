import LangServer.Uri.Name.ClassTables

/-!
# Directions in Names

A name with characters written from right to left has to be readable in one way only. Each of its
labels starts with a letter, whose direction is that of the label, ends with a letter or a digit,
marks after it not counting, and has no letters of the other direction. A label from right to left
does not mix European and Arabic digits.
-/

namespace LangServer.Uri.Name

/-- The direction of a character. -/
def direction (c : Char) : Direction :=
  (directionTable.get? c).getD .leftToRight

/-- Whether a character makes a name one with labels from right to left. -/
def isRightToLeft (c : Char) : Bool :=
  [.rightToLeft, .arabicDigit].contains (direction c)

/-- Whether directions are all allowed in a label, and the last is one that ends it. -/
def runsIn (letter : Direction) (digits : List Direction) (ds : List Direction) : Bool :=
  ds.all ([letter, .neutral, .mark] ++ digits).contains &&
    ds.getLast?.all (letter :: digits).contains

/-- Whether a label has one direction from its first character to its last. -/
def directionsFit (label : Text) : Bool :=
  match label.map direction with
  | [] => true
  | first :: rest =>
    let rest := (rest.reverse.dropWhile (· = .mark)).reverse
    match first with
    | .leftToRight => runsIn .leftToRight [.europeanDigit] rest
    | .rightToLeft =>
      runsIn .rightToLeft [.europeanDigit, .arabicDigit] rest &&
        !(rest.contains .europeanDigit && rest.contains .arabicDigit)
    | _ => false

end LangServer.Uri.Name
