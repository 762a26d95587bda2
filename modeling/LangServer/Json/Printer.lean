import LangServer.Json.Value
import LangServer.Text.Numeral

/-!
# Writing JSON

`Json.render` writes a value without blanks. In strings, quotes, backslashes and control
characters are escaped and all other characters stand for themselves.
-/

namespace LangServer.Json

/-- A character of a string as it is written. -/
def escape (c : Char) : Text :=
  match c with
  | '"' => ['\\', '"']
  | '\\' => ['\\', '\\']
  | '\n' => ['\\', 'n']
  | '\r' => ['\\', 'r']
  | '\t' => ['\\', 't']
  | c =>
    if c.toNat < 0x20 then '\\' :: 'u' :: Text.padZeros 4 (Text.hexadecimal c.toNat) else [c]

/-- A string in quotes. -/
def quote (s : String) : String :=
  "\"" ++ String.ofList (s.toList.flatMap escape) ++ "\""

mutual

/-- The text of a value. -/
def render : Json → String
  | .null => "null"
  | .bool b => if b then "true" else "false"
  | .int n => if n < 0 then "-" ++ String.ofList (Text.decimal n.natAbs)
    else String.ofList (Text.decimal n.natAbs)
  | .decimal spelling => spelling
  | .str s => quote s
  | .arr items => "[" ++ ",".intercalate (renderItems items) ++ "]"
  | .obj fields => "\x7b" ++ ",".intercalate (renderFields fields) ++ "\x7d"

/-- The texts of the items of a list. -/
def renderItems : List Json → List String
  | [] => []
  | v :: vs => render v :: renderItems vs

/-- The texts of the fields of an object. -/
def renderFields : List (String × Json) → List String
  | [] => []
  | (name, v) :: fs => (quote name ++ ":" ++ render v) :: renderFields fs

end

end LangServer.Json
