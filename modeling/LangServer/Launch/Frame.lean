import LangServer.Text.Numeral
import LangServer.Text.Split
import LangServer.Text.Blank

/-!
# Frames

Messages on a stream are framed: some header lines, an empty line, and the body. The only header
that matters gives the number of bytes of the body; header names are read in either case.
-/

namespace LangServer

namespace Frame

/-- The name of the header with the length of the body. -/
def lengthHeader : String := "Content-Length"

/-- A body with its header. -/
def encode (body : String) : String :=
  lengthHeader ++ ": " ++ toString body.utf8ByteSize ++ "\r\n\r\n" ++ body

/-- Whether two names are the same but for the case of ASCII letters. -/
def sameName (a b : Text) : Bool :=
  a.map Char.toLower = b.map Char.toLower

/-- The length that a header line gives. -/
def lengthOfLine? (line : Text) : Option Nat :=
  let name := line.takeWhile (· ≠ ':')
  let value := Text.trim (line.drop (name.length + 1))
  if sameName name lengthHeader.toList && !value.isEmpty && value.all Char.isDigit then
    some (Text.numeral 10 value)
  else none

/-- The length that some header lines give. -/
def length? (lines : List String) : Option Nat :=
  lines.findSome? fun line => lengthOfLine? line.toList

end Frame

end LangServer
