import LangServer.Text.Numeral

/-!
# Percent Encoding

In a URI, a byte may be written as a percent sign and two hexadecimal digits. Which characters
have to be written so depends on the part of the URI; characters beyond ASCII always have to.

The sets of this module say which ASCII characters are encoded where. Each part adds to the
control characters, which are encoded everywhere.
-/

namespace LangServer.Uri

/-! ### Which characters -/

/-- Control characters, and all characters beyond ASCII. -/
def encodedEverywhere (c : Char) : Bool :=
  c.toNat < 0x20 || 0x7F ≤ c.toNat

/-- Characters encoded after the number sign. -/
def encodedInFragment (c : Char) : Bool :=
  encodedEverywhere c || " \"<>`".toList.contains c

/-- Characters encoded after the question mark; a special scheme also has the apostrophe. -/
def encodedInQuery (special : Bool) (c : Char) : Bool :=
  encodedEverywhere c || " \"#<>".toList.contains c || (special && c = '\'')

/-- Characters encoded in a path. -/
def encodedInPath (c : Char) : Bool :=
  encodedInFragment c || "#?\x7b\x7d".toList.contains c

/-- Characters encoded in the name and password of a user. -/
def encodedInUserinfo (c : Char) : Bool :=
  encodedInPath c || "/:;=@[\\]^|".toList.contains c

/-! ### Encoding and decoding -/

/-- A byte as a percent sign and two digits. -/
def encodeByte (b : UInt8) : Text :=
  '%' :: (Text.padZeros 2 (Text.hexadecimal b.toNat)).map Char.toUpper

/-- A text with the bytes of some characters encoded. -/
def encode (mustEncode : Char → Bool) (t : Text) : Text :=
  t.flatMap fun c => if mustEncode c then (String.utf8EncodeChar c).flatMap encodeByte else [c]

/-- The bytes of a text in which some bytes are encoded. A percent sign that no two digits follow
stands for itself. -/
def decode : Text → List UInt8
  | '%' :: a :: b :: r =>
    if Text.isHexDigit a && Text.isHexDigit b then
      UInt8.ofNat (Text.numeral 16 [a, b]) :: decode r
    else String.utf8EncodeChar '%' ++ decode (a :: b :: r)
  | c :: r => String.utf8EncodeChar c ++ decode r
  | [] => []

end LangServer.Uri
