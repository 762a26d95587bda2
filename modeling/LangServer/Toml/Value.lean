/-!
# TOML Values

The tree of values that a TOML document describes. Tables keep their entries in the order in
which they are first named, and no two entries of a table that was read have one name.

Numbers with a fraction and dates are told apart from everything else but not evaluated: they
keep their spelling.
-/

namespace LangServer.Toml

/-- A TOML value. -/
inductive Value where
  | string (s : String)
  | integer (n : Int)
  /-- A number with a fraction or an exponent, an infinity or "not a number". -/
  | float (spelling : String)
  | boolean (b : Bool)
  /-- A date, a time or both. -/
  | datetime (spelling : String)
  | array (items : List Value)
  | table (entries : List (String × Value))
  deriving Repr, Inhabited

end LangServer.Toml
