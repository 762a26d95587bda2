/-!
# JSON Values

The values that clients and the server exchange. An object keeps its fields in order, and no two
fields that the reader leaves have one name.

Whole numbers are exact. A number written with a point or an exponent is never a whole number
here, and keeps its spelling.
-/

namespace LangServer

/-- A JSON value. -/
inductive Json where
  | null
  | bool (b : Bool)
  | int (n : Int)
  /-- A number with a point or an exponent, as it is spelled. -/
  | decimal (spelling : String)
  | str (s : String)
  | arr (items : List Json)
  | obj (fields : List (String × Json))
  deriving Repr, Inhabited

namespace Json

/-- The value of a field, if this is an object that has it. -/
def field? (j : Json) (name : String) : Option Json :=
  match j with
  | .obj fields => fields.lookup name
  | _ => none

/-- The value of a field that is there and not `null`. -/
def present? (j : Json) (name : String) : Option Json :=
  match j.field? name with
  | some .null => none
  | other => other

/-- The text of a string. -/
def str? : Json → Option String
  | .str s => some s
  | _ => none

/-- A name: a string, or an object whose only field has that name and the value `null`. -/
def name? : Json → Option String
  | .str s => some s
  | .obj [(s, .null)] => some s
  | _ => none

/-- The truth value. -/
def bool? : Json → Option Bool
  | .bool b => some b
  | _ => none

/-- A whole number between two bounds, both included. -/
def intIn? (lo hi : Int) : Json → Option Int
  | .int n => if lo ≤ n ∧ n ≤ hi then some n else none
  | _ => none

/-- A whole number that fits an unsigned word of 32 bits. -/
def word32? (j : Json) : Option Nat :=
  (j.intIn? 0 4294967295).map Int.toNat

/-- A whole number that fits a signed word of 32 bits. -/
def int32? (j : Json) : Option Int :=
  j.intIn? (-2147483648) 2147483647

/-- The items of a list. -/
def arr? : Json → Option (List Json)
  | .arr items => some items
  | _ => none

/-- A number. -/
def nat (n : Nat) : Json := .int n

/-- A value if there is one, else `null`. -/
def ofOption : Option Json → Json
  | some j => j
  | none => .null

/-- The object of those fields that have a value. -/
def objOf (fields : List (String × Option Json)) : Json :=
  .obj (fields.filterMap fun f => f.2.map fun v => (f.1, v))

end Json

end LangServer
