import LangServer.Text.Units

/-!
# Punycode

How a label of a host name with characters beyond ASCII is written in ASCII. The ASCII characters
come first, in order; then, for each other character from the smallest code point up, how many
places a walk over all code points and positions goes on to reach it. These distances are numerals
to a variable base: the threshold of each digit depends on a bias, which is adapted after every
character.

## Main definitions

* `encode`: a label in ASCII.
* `decode?`: the label that a text in ASCII stands for.
-/

namespace LangServer.Uri.Punycode

/-! ### Encoding -/

/-- The digits: the letters for the first twenty-six, then the decimal digits. -/
def digit (d : Nat) : Char :=
  if d < 26 then Char.ofNat ('a'.toNat + d) else Char.ofNat ('0'.toNat + (d - 26))

/-- The threshold of the digit with weight index `k`. -/
def threshold (bias k : Nat) : Nat :=
  if k ≤ bias then 1 else if bias + 26 ≤ k then 26 else k - bias

/-- The digits of a distance, the least significant first, at most `fuel` of them. -/
def distance (bias : Nat) : Nat → Nat → Nat → Text
  | 0, _, _ => []
  | fuel + 1, k, q =>
    let t := threshold bias k
    if q < t then [digit q]
    else digit (t + (q - t) % (36 - t)) :: distance bias fuel (k + 36) ((q - t) / (36 - t))

/-- Divides until a distance is small: the distance left, and the bias gained. -/
def shrink : Nat → Nat → Nat → Nat × Nat
  | 0, delta, k => (delta, k)
  | fuel + 1, delta, k => if 455 < delta then shrink fuel (delta / 35) (k + 36) else (delta, k)

/-- The bias after a distance, with `count` characters written. -/
def adapt (delta count : Nat) (first : Bool) : Nat :=
  let delta := if first then delta / 700 else delta / 2
  let (delta, k) := shrink delta (delta + delta / count) 0
  k + 36 * delta / (delta + 38)

/-- What is written so far and what the next distance depends on. -/
structure State where
  output : Text := []
  /-- The distance since the last character. -/
  delta : Nat := 0
  bias : Nat := 72
  count : Nat

/-- Passes over one character of the label while the code point `n` is looked for. -/
def pass (ascii n : Nat) (st : State) (c : Char) : State :=
  if c.toNat < n then { st with delta := st.delta + 1 }
  else if c.toNat = n then
    { output := st.output ++ distance st.bias (st.delta + 1) 36 st.delta
      delta := 0
      bias := adapt st.delta (st.count + 1) (st.count = ascii)
      count := st.count + 1 }
  else st

/-- Writes the characters of some code points, the smallest first; `n` is the least code point
not yet looked for. -/
def writeAll (label : Text) (ascii : Nat) : Nat → List Nat → State → State
  | _, [], st => st
  | n, m :: rest, st =>
    let st := { st with delta := st.delta + (m - n) * (st.count + 1) }
    let st := label.foldl (pass ascii m) st
    writeAll label ascii (m + 1) rest { st with delta := st.delta + 1 }

/-- A label in ASCII, without the mark that tells it from a plain one. -/
def encode (label : Text) : Text :=
  let ascii := label.filter (·.toNat < 0x80)
  let others := (label.filter (0x80 ≤ ·.toNat)).map Char.toNat
  let points := (others.mergeSort (· ≤ ·)).eraseDups
  let st := writeAll label ascii.length 0x80 points { count := ascii.length }
  ascii ++ (if ascii = [] then [] else ['-']) ++ st.output

/-! ### Decoding -/

/-- The value of a digit in either case. -/
def digit? (c : Char) : Option Nat :=
  if c.isLower then some (c.toNat - 'a'.toNat)
  else if c.isUpper then some (c.toNat - 'A'.toNat)
  else if c.isDigit then some (c.toNat - '0'.toNat + 26)
  else none

/-- The largest number that a distance or a weight may reach. -/
def maxNumber : Nat := 4294967295

/-- Reads a distance: what it adds to `i`, and what follows it. The digit before it has weight
index `k` and `weight`. -/
def readDistance? (bias : Nat) : Text → Nat → Nat → Nat → Option (Nat × Text)
  | [], _, _, _ => none
  | c :: r, k, weight, i => do
    let d ← digit? c
    let i := i + d * weight
    let t := threshold bias k
    if maxNumber < i then none
    else if d < t then some (i, r)
    else if maxNumber < weight * (36 - t) then none
    else readDistance? bias r (k + 36) (weight * (36 - t)) i

/-- Puts the characters of the distances in `s` into `label`, at most `fuel` of them; `n` is the
code point and `i` the position that the walk has reached. -/
def insertAll? : Nat → (bias n i : Nat) → Text → Text → Option Text
  | 0, _, _, _, label, s => if s = [] then some label else none
  | fuel + 1, bias, n, i, label, s =>
    if s = [] then some label
    else do
      let (j, rest) ← readDistance? bias s 36 1 i
      let count := label.length + 1
      let n := n + j / count
      let position := j % count
      if n.isValidChar then
        insertAll? fuel (adapt (j - i) count (i = 0)) n (position + 1)
          (label.take position ++ Char.ofNat n :: label.drop position) rest
      else none

/-- The label that a text in ASCII stands for. What precedes its last hyphen is taken as it
stands, and may not be empty. -/
def decode? (s : Text) : Option Text :=
  let digits := (s.reverse.takeWhile (· ≠ '-')).reverse
  if digits.length = s.length then insertAll? s.length 72 0x80 0 [] s
  else
    match s.take (s.length - digits.length - 1) with
    | [] => none
    | ascii => insertAll? digits.length 72 0x80 0 ascii digits

end LangServer.Uri.Punycode
