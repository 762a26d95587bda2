import LangServer.Uri.Name.MappingTable

/-!
# Replaced Characters

What becomes of each character of a name: it stays, or other characters or none at all stand for
it, or there is no such name.
-/

namespace LangServer.Uri.Name

/-- What stands for a character of a stretch, if it is one of those replaced. -/
def imageIn? (s : Text.Stretch Image) (n : Nat) : Option Text :=
  match s.value with
  | .fixed text => some text
  | .moving step first =>
    if (n - s.first) % step = 0 then some [Char.ofNat (first + (n - s.first))] else none

/-- What stands for a character, if it is replaced. -/
def replaced? (c : Char) : Option Text :=
  (mappingTable.stretch? c.toNat).bind fun s => imageIn? s c.toNat

/-- Whether a character stays as it is. -/
def isKept (c : Char) : Bool :=
  (replaced? c).isNone && !refusedTable.contains c

/-- What stands for a character in a name, if a name can have it. -/
def image? (c : Char) : Option Text :=
  match replaced? c with
  | some text => some text
  | none => if refusedTable.contains c then none else some [c]

/-- A text with all its characters replaced. -/
def map? (t : Text) : Option Text :=
  (t.mapM image?).map List.flatten

end LangServer.Uri.Name
