import LangServer.Json.Value
import LangServer.Text.Numeral

/-!
# Reading JSON

`Json.parse?` reads a text that holds one JSON value and blanks around it. Each reader takes the
text in front of it and gives what it read and the text that follows, or nothing.

Strings may spell a character beyond the basic plane as a pair of escaped surrogates; a
surrogate on its own is refused. Lists and objects may be nested as deeply as the `depth` that
`value` is given, and their loops count down the characters that are left, so both end.
-/

namespace LangServer.Json

/-- The blanks of JSON. -/
def isSpace (c : Char) : Bool :=
  c = ' ' || c = '\t' || c = '\n' || c = '\r'

/-- The text after leading blanks. -/
def skipSpace (s : Text) : Text :=
  s.dropWhile isSpace

/-- The character of a one-letter escape. -/
def escaped? (c : Char) : Option Char :=
  match c with
  | '"' => some '"'
  | '\\' => some '\\'
  | '/' => some '/'
  | 'b' => some '\x08'
  | 'f' => some '\x0c'
  | 'n' => some '\n'
  | 'r' => some '\r'
  | 't' => some '\t'
  | _ => none

/-- The number spelled by four hexadecimal digits. -/
def unit16? (a b c d : Char) : Option Nat :=
  if [a, b, c, d].all Text.isHexDigit then some (Text.numeral 16 [a, b, c, d]) else none

/-- The character made of a high and a low surrogate. -/
def surrogatePair? (high low : Nat) : Option Char :=
  if 0xDC00 ≤ low ∧ low ≤ 0xDFFF then
    Text.char? (0x10000 + (high - 0xD800) * 0x400 + (low - 0xDC00))
  else none

/-- The rest of a string after its opening quote, with the characters read so far in reverse. -/
def stringBody (acc : Text) : Text → Option (String × Text)
  | [] => none
  | '"' :: r => some (String.ofList acc.reverse, r)
  | '\\' :: 'u' :: a :: b :: c :: d :: r =>
    match unit16? a b c d with
    | none => none
    | some high =>
      if 0xD800 ≤ high ∧ high ≤ 0xDBFF then
        match r with
        | '\\' :: 'u' :: e :: f :: g :: h :: r =>
          match (unit16? e f g h).bind (surrogatePair? high) with
          | some x => stringBody (x :: acc) r
          | none => none
        | _ => none
      else
        match Text.char? high with
        | some x => stringBody (x :: acc) r
        | none => none
  | '\\' :: e :: r =>
    match escaped? e with
    | some x => stringBody (x :: acc) r
    | none => none
  | c :: r => if c.toNat < 0x20 then none else stringBody (c :: acc) r

/-- A number: an optional sign, digits without needless zeros, then perhaps a point and digits,
and perhaps an exponent. -/
def number (s : Text) : Option (Json × Text) :=
  let negative := s.head? = some '-'
  let s := if negative then s.tail else s
  let digits := s.takeWhile Char.isDigit
  let r := s.dropWhile Char.isDigit
  if digits = [] ∨ (digits.length > 1 ∧ digits.head? = some '0') then none
  else
    let fraction := match r with
      | '.' :: f => '.' :: f.takeWhile Char.isDigit
      | _ => []
    let r := r.drop fraction.length
    let exponent := match r with
      | e :: t =>
        if e = 'e' ∨ e = 'E' then
          let sign := t.takeWhile fun c => c = '+' || c = '-'
          e :: sign.take 1 ++ (t.drop (sign.take 1).length).takeWhile Char.isDigit
        else []
      | [] => []
    let r := r.drop exponent.length
    let ends (part : Text) := part = [] ∨ (part.getLast?.any Char.isDigit) = true
    if ¬ (ends fraction ∧ ends exponent) then none
    else if fraction = [] ∧ exponent = [] then
      let n := Text.numeral 10 digits
      if negative ∧ n = 0 then some (.decimal "-0.0", r)
      else some (.int (if negative then -(n : Int) else n), r)
    else
      some (.decimal (String.ofList
        ((if negative then ['-'] else []) ++ digits ++ fraction ++ exponent)), r)

/-- The items of a list after the first opening bracket or comma. -/
def items (value : Text → Option (Json × Text)) :
    Nat → List Json → Text → Option (Json × Text)
  | 0, _, _ => none
  | n + 1, acc, s =>
    match value s with
    | none => none
    | some (v, r) =>
      match skipSpace r with
      | ',' :: r => items value n (v :: acc) r
      | ']' :: r => some (.arr (v :: acc).reverse, r)
      | _ => none

/-- The fields with one more; a field of the same name gives way. -/
def putField (fields : List (String × Json)) (name : String) (v : Json) :
    List (String × Json) :=
  fields.filter (·.1 ≠ name) ++ [(name, v)]

/-- The fields of an object after the opening brace or a comma. -/
def members (value : Text → Option (Json × Text)) :
    Nat → List (String × Json) → Text → Option (Json × Text)
  | 0, _, _ => none
  | n + 1, acc, s =>
    match skipSpace s with
    | '"' :: r =>
      match stringBody [] r with
      | none => none
      | some (name, r) =>
        match skipSpace r with
        | ':' :: r =>
          match value r with
          | none => none
          | some (v, r) =>
            match skipSpace r with
            | ',' :: r => members value n (putField acc name v) r
            | '\x7d' :: r => some (.obj (putField acc name v), r)
            | _ => none
        | _ => none
    | _ => none

/-- A value, with blanks before it, nested at most `depth` deep. -/
def value : Nat → Text → Option (Json × Text)
  | 0, _ => none
  | depth + 1, s =>
    match skipSpace s with
    | '\x7b' :: r =>
      match skipSpace r with
      | '\x7d' :: r => some (.obj [], r)
      | _ => members (value depth) r.length [] r
    | '[' :: r =>
      match skipSpace r with
      | ']' :: r => some (.arr [], r)
      | _ => items (value depth) r.length [] r
    | '"' :: r => (stringBody [] r).map fun (t, r) => (.str t, r)
    | 't' :: 'r' :: 'u' :: 'e' :: r => some (.bool true, r)
    | 'f' :: 'a' :: 'l' :: 's' :: 'e' :: r => some (.bool false, r)
    | 'n' :: 'u' :: 'l' :: 'l' :: r => some (.null, r)
    | s => number s

/-- The JSON value that a text holds. -/
def parse? (s : Text) : Option Json :=
  match value 128 s with
  | some (v, r) => if skipSpace r = [] then some v else none
  | none => none

end LangServer.Json
