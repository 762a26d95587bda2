import LangServer.Uri.Name.Direction
import LangServer.Uri.Name.Joining
import LangServer.Uri.Name.Mapping
import LangServer.Uri.Punycode

/-!
# Domain Names

The form of a domain name in ASCII, the same for all spellings of the name. Characters are
replaced and composed, and the name is cut into labels at its full stops. A label with characters
beyond ASCII is written in Punycode after a mark; one that comes with the mark is read, and has to
be such a label. Then every label is checked: which characters it has, that it does not start with
a mark, where its joiners stand, and in which directions it runs.

## Main definitions

* `asciiName?`: the form of a name in ASCII.
-/

namespace LangServer.Uri

/-- Characters that cannot stand in a host of any scheme. -/
def forbiddenInHost (c : Char) : Bool :=
  "\x00\t\n\r #/:<>?@[\\]^|".toList.contains c

/-- Characters that cannot stand in a domain name. -/
def forbiddenInDomain (c : Char) : Bool :=
  c.toNat ≤ 0x20 || c.toNat = 0x7F || forbiddenInHost c || c = '%'

/-- Whether a text is in ASCII. -/
def isAscii (t : Text) : Bool :=
  t.all (·.toNat < 0x80)

/-- The mark before a label in Punycode. -/
def punycodeMark : Text := "xn--".toList

/-- The characters that a label has at most for it to be written in Punycode. -/
def maxEncoded : Nat := 1000

/-- The characters that a label in Punycode has at most after its mark. -/
def maxDecoded : Nat := 2000

/-- A label of a domain name, as it is meant and in ASCII. -/
structure Label where
  shown : Text
  ascii : Text

/-- Reads a label that comes in Punycode. -/
def Label.ofPunycode? (label : Text) : Option Label := do
  let code := label.drop punycodeMark.length
  if !isAscii label ∨ label.getLast? = some '-' ∨ maxDecoded < code.length then none
  else
    let shown ← Punycode.decode? code
    if shown.all Name.isKept ∧ Name.composed shown = shown then some ⟨shown, label⟩ else none

/-- Reads a label whose characters are replaced and composed. -/
def Label.ofText? (label : Text) : Option Label :=
  if punycodeMark.isPrefixOf label then ofPunycode? label
  else if isAscii label then some ⟨label, label⟩
  else if maxEncoded < label.length then none
  else some ⟨label, punycodeMark ++ Punycode.encode label⟩

/-- Whether a label may stand in a name, which has labels from right to left or has none. -/
def Label.fits (rightToLeft : Bool) (l : Label) : Bool :=
  !l.shown.any forbiddenInDomain &&
    !l.shown.head?.any Name.markTable.contains &&
    Name.joinersFit l.shown &&
    (!rightToLeft || Name.directionsFit l.shown)

/-- The form of a name in ASCII. -/
def asciiName? (name : Text) : Option Text := do
  let mapped ← Name.map? name
  let labels ← (List.splitOn '.' (Name.composed mapped)).mapM Label.ofText?
  let rightToLeft := labels.any fun l => l.shown.any Name.isRightToLeft
  if labels.all (Label.fits rightToLeft) then some (List.intercalate ['.'] (labels.map (·.ascii)))
  else none

end LangServer.Uri
