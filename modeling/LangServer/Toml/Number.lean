import LangServer.Toml.Value
import LangServer.Text.Numeral

/-!
# Numbers of TOML

Whole numbers are written in base ten with an optional sign, or in base sixteen, eight or two
without one, and have to fit 64 bits with a sign. Decimal numerals have no needless zeros in
front. Single underscores may stand between digits.

A number with a fraction or an exponent is kept as it is spelled, but one too large for a double
is refused unless it is negative.
-/

namespace LangServer.Toml

/-- The digits that go on a numeral: digits, and underscores with a digit after each. -/
def moreDigits (isDigit : Char → Bool) : Text → Text × Text
  | '_' :: c :: r =>
    if isDigit c then
      let p := moreDigits isDigit r
      (c :: p.1, p.2)
    else ([], '_' :: c :: r)
  | c :: r =>
    if isDigit c then
      let p := moreDigits isDigit r
      (c :: p.1, p.2)
    else ([], c :: r)
  | [] => ([], [])

/-- The digits of a numeral that may start with zeros, and what follows them. -/
def digits (isDigit : Char → Bool) : Text → Option (Text × Text)
  | c :: r =>
    if isDigit c then
      let p := moreDigits isDigit r
      some (c :: p.1, p.2)
    else none
  | [] => none

/-- A sign that may be there: whether it is a minus, and what follows it. -/
def sign : Text → Bool × Text
  | '-' :: r => (true, r)
  | '+' :: r => (false, r)
  | r => (false, r)

/-- The digits of a decimal numeral without needless zeros, and what follows them. -/
def decimalDigits : Text → Option (Text × Text)
  | '0' :: r => some (['0'], r)
  | r => digits Char.isDigit r

/-- A whole number if it fits 64 bits with a sign. -/
def fit64 (n : Int) : Option Value :=
  if -9223372036854775808 ≤ n ∧ n ≤ 9223372036854775807 then some (.integer n) else none

/-- A whole number in the base of a two-character mark. -/
def basedInteger (base : Nat) (isDigit : Char → Bool) (s : Text) : Option (Value × Text) :=
  (digits isDigit s).bind fun p => (fit64 (Text.numeral base p.1)).map fun v => (v, p.2)

/-- A whole number. -/
def integer : Text → Option (Value × Text)
  | '0' :: 'x' :: r => basedInteger 16 Text.isHexDigit r
  | '0' :: 'o' :: r => basedInteger 8 (fun c => '0' ≤ c && c ≤ '7') r
  | '0' :: 'b' :: r => basedInteger 2 (fun c => c = '0' || c = '1') r
  | s =>
    let (negative, r) := sign s
    (decimalDigits r).bind fun p =>
      let n := Text.numeral 10 p.1
      (fit64 (if negative then -(n : Int) else n)).map fun v => (v, p.2)

/-! ### Fractions -/

/-- The digits after a decimal point that may be there. -/
def fraction : Text → Option (Text × Text)
  | '.' :: r => digits Char.isDigit r
  | r => some ([], r)

/-- The sign and digits of an exponent that may be there. -/
def exponent (s : Text) : Option (Option (Bool × Text) × Text) :=
  match s with
  | e :: r =>
    if e = 'e' || e = 'E' then
      let (negative, r) := sign r
      (digits Char.isDigit r).map fun p => (some (negative, p.1), p.2)
    else some (none, e :: r)
  | [] => some (none, [])

/-- Whether the number `m · 10 ^ e` is at least half-way between the largest double and the next
power of two, so that no double is near enough. -/
def exceedsDouble (m : Nat) (e : Int) : Bool :=
  let size := (Text.decimal m).length + e
  if m = 0 || size < 300 then false
  else if size > 310 then true
  else
    let bound := Nat.pow 2 1024 - Nat.pow 2 970
    if e < 0 then bound * Nat.pow 10 e.natAbs ≤ m else bound ≤ m * Nat.pow 10 e.natAbs

/-- The part of a text before the rest of it. -/
def consumed (s rest : Text) : String :=
  String.ofList (s.take (s.length - rest.length))

/-- An infinity or "not a number", with a sign or without. -/
def specialFloat (s : Text) : Option (Value × Text) :=
  match (sign s).2 with
  | 'i' :: 'n' :: 'f' :: r => some (.float (consumed s r), r)
  | 'n' :: 'a' :: 'n' :: r => some (.float (consumed s r), r)
  | _ => none

/-- A number with a fraction, an exponent or both. -/
def decimalFloat (s : Text) : Option (Value × Text) := do
  let (negative, r) := sign s
  let (whole, r) ← decimalDigits r
  let (part, r₁) ← fraction r
  let (power, r₂) ← exponent r₁
  if part = [] ∧ power = none then none
  else
    let e : Int := match power with
      | none => 0
      | some (true, d) => -(Text.numeral 10 d : Int)
      | some (false, d) => Text.numeral 10 d
    if !negative && exceedsDouble (Text.numeral 10 (whole ++ part)) (e - part.length) then none
    else some (.float (consumed s r₂), r₂)

/-- A number of any kind. -/
def number (s : Text) : Option (Value × Text) :=
  (specialFloat s).or ((decimalFloat s).or (integer s))

end LangServer.Toml
