import LangServer.Text.Units

/-!
# Text from Any Bytes

Reads bytes as UTF-8 and puts the replacement character where they are not. What cannot be the
start of a character is replaced byte by byte; a character that breaks off is replaced as one.
-/

namespace LangServer

namespace Text

/-- Whether a byte lies between two bounds, both included. -/
def byteIn (lo hi : UInt8) (b : UInt8) : Bool := lo ≤ b && b ≤ hi

/-- Whether a byte continues a character. -/
def isContinuation : UInt8 → Bool := byteIn 0x80 0xBF

/-- What may follow the first byte of a character: one test for each byte, the first of which
keeps out overlong forms, surrogates and numbers that are too large. -/
def followers (b : UInt8) : Option (List (UInt8 → Bool)) :=
  if b < 0x80 then some []
  else if byteIn 0xC2 0xDF b then some [isContinuation]
  else if b = 0xE0 then some [byteIn 0xA0 0xBF, isContinuation]
  else if b = 0xED then some [byteIn 0x80 0x9F, isContinuation]
  else if byteIn 0xE1 0xEF b then some [isContinuation, isContinuation]
  else if b = 0xF0 then some [byteIn 0x90 0xBF, isContinuation, isContinuation]
  else if b = 0xF4 then some [byteIn 0x80 0x8F, isContinuation, isContinuation]
  else if byteIn 0xF1 0xF3 b then some [isContinuation, isContinuation, isContinuation]
  else none

/-- The character that stands for bytes that are none. -/
def replacement : Char := '�'

/-- The bits of a first byte that count, by the number of bytes that follow. -/
def leadBits (b : UInt8) : Nat → Nat
  | 0 => b.toNat
  | 1 => b.toNat % 32
  | 2 => b.toNat % 16
  | _ => b.toNat % 8

/-- Takes the bytes that pass the tests one by one and adds their bits to a number; the number is
lost at the first byte that does not pass, which is left. -/
def follow (value : Nat) : List (UInt8 → Bool) → List UInt8 → Option Nat × List UInt8
  | [], bytes => (some value, bytes)
  | _ :: _, [] => (none, [])
  | test :: tests, b :: bytes =>
    if test b then follow (value * 64 + b.toNat % 64) tests bytes else (none, b :: bytes)

/-- What is left is no longer than what was there. -/
theorem length_follow_le (value : Nat) (tests : List (UInt8 → Bool)) (bytes : List UInt8) :
    (follow value tests bytes).2.length ≤ bytes.length := by
  induction tests generalizing value bytes with
  | nil => simp [follow]
  | cons test tests ih =>
    cases bytes with
    | nil => simp [follow]
    | cons b bytes =>
      unfold follow
      split
      · exact Nat.le_succ_of_le (ih _ _)
      · exact Nat.le_refl _

/-- The character at the start of some bytes, and the rest. -/
def firstChar (b : UInt8) (bytes : List UInt8) : Char × List UInt8 :=
  match followers b with
  | none => (replacement, bytes)
  | some tests =>
    let taken := follow (leadBits b tests.length) tests bytes
    ((taken.1.map Char.ofNat).getD replacement, taken.2)

/-- What is left after a character is no longer than what followed its first byte. -/
theorem length_firstChar_le (b : UInt8) (bytes : List UInt8) :
    (firstChar b bytes).2.length ≤ bytes.length := by
  unfold firstChar
  split
  · exact Nat.le_refl _
  · exact length_follow_le _ _ _

/-- The text of some bytes. -/
def ofBytes : List UInt8 → Text
  | [] => []
  | b :: bytes => (firstChar b bytes).1 :: ofBytes (firstChar b bytes).2
termination_by bytes => bytes.length
decreasing_by
  exact Nat.lt_succ_of_le (length_firstChar_le b bytes)

end Text

end LangServer
