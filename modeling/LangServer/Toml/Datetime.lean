import LangServer.Text.Split
import LangServer.Toml.Number

/-!
# Dates and Times of TOML

A date with a time and an offset, a date with a time, a date, or a time. Each part has a fixed
number of digits and stays in its range; a day exists in its month. Between date and time stands
a `T` of either case or a space.
-/

namespace LangServer.Toml

/-- A number of exactly `width` digits between two bounds, and what follows it. -/
def fixedNumber (width lo hi : Nat) (s : Text) : Option (Nat × Text) :=
  let digits := s.take width
  let n := Text.numeral 10 digits
  if digits.length = width ∧ digits.all Char.isDigit ∧ lo ≤ n ∧ n ≤ hi then
    some (n, s.drop width)
  else none

/-- The number of days of a month. -/
def daysIn (year month : Nat) : Nat :=
  if month = 2 then
    if year % 4 = 0 ∧ (year % 100 ≠ 0 ∨ year % 400 = 0) then 29 else 28
  else if month = 4 ∨ month = 6 ∨ month = 9 ∨ month = 11 then 30
  else 31

/-- The text after a date. -/
def date (s : Text) : Option Text := do
  let (year, r) ← fixedNumber 4 0 9999 s
  let r ← Text.expect '-' r
  let (month, r) ← fixedNumber 2 1 12 r
  let r ← Text.expect '-' r
  let (_, r) ← fixedNumber 2 1 (daysIn year month) r
  return r

/-- The text after a time of day, with a fraction of a second or without. -/
def time (s : Text) : Option Text := do
  let (_, r) ← fixedNumber 2 0 23 s
  let r ← Text.expect ':' r
  let (_, r) ← fixedNumber 2 0 59 r
  let r ← Text.expect ':' r
  let (_, r) ← fixedNumber 2 0 60 r
  match r with
  | '.' :: t =>
    let rest := t.dropWhile Char.isDigit
    if rest.length < t.length then some rest else none
  | r => some r

/-- The text after an offset that may be there. -/
def offset (s : Text) : Option Text :=
  match s with
  | c :: r =>
    if c = 'Z' || c = 'z' then some r
    else if c = '+' || c = '-' then do
      let (_, r) ← fixedNumber 2 0 23 r
      let r ← Text.expect ':' r
      let (_, r) ← fixedNumber 2 0 59 r
      return r
    else some s
  | [] => some s

/-- The text after a time and its offset that may follow a date. -/
def timeAfterDate (s : Text) : Text :=
  match s with
  | c :: r =>
    if c = 'T' || c = 't' || c = ' ' then ((time r).bind offset).getD s else s
  | [] => s

/-- A date, a time or both. -/
def datetime (s : Text) : Option (Value × Text) :=
  ((date s).map timeAfterDate |>.or (time s)).map fun r => (.datetime (consumed s r), r)

end LangServer.Toml
