import LangServer.Text.Numeral

/-!
# Quoted Text

The four ways to quote text in TOML. Basic strings stand between double quotes and have escapes;
literal strings stand between single quotes and have none. Both exist on one line and, with
three quotes at each end, over several lines.

A line break right after the opening of a string over several lines is dropped. In a basic one, a
backslash at the end of a line drops the line break and all blanks and line breaks after it. One
or two quotes may stand right before the closing three, as part of the text. Every line break
inside is a line feed, however it is written.

Each reader starts after the opening quotes and gives the text and what follows the closing ones.
-/

namespace LangServer.Toml

/-- Characters that may stand for themselves on a line: the tab and all that are no control
characters. -/
def isPlain (c : Char) : Bool :=
  c = '\t' || (0x20 ≤ c.toNat && c.toNat ≠ 0x7F)

/-- The blanks of a line. -/
def isSpace (c : Char) : Bool :=
  c = ' ' || c = '\t'

/-- The character of a one-letter escape. -/
def escaped? (c : Char) : Option Char :=
  match c with
  | '"' => some '"'
  | '\\' => some '\\'
  | 'b' => some '\x08'
  | 'f' => some '\x0c'
  | 'n' => some '\n'
  | 'r' => some '\r'
  | 't' => some '\t'
  | _ => none

/-- The character whose code point some hexadecimal digits spell. -/
def hexChar? (digits : Text) : Option Char :=
  if digits.all Text.isHexDigit then Text.char? (Text.numeral 16 digits) else none

/-! ### On one line -/

/-- The rest of a basic string. -/
def basicBody : Text → Option (Text × Text)
  | [] => none
  | '"' :: r => some ([], r)
  | '\\' :: 'u' :: a :: b :: c :: d :: r =>
    (hexChar? [a, b, c, d]).bind fun x => (basicBody r).map fun p => (x :: p.1, p.2)
  | '\\' :: 'U' :: a :: b :: c :: d :: e :: f :: g :: h :: r =>
    (hexChar? [a, b, c, d, e, f, g, h]).bind fun x =>
      (basicBody r).map fun p => (x :: p.1, p.2)
  | '\\' :: e :: r =>
    (escaped? e).bind fun x => (basicBody r).map fun p => (x :: p.1, p.2)
  | c :: r => if isPlain c then (basicBody r).map fun p => (c :: p.1, p.2) else none

/-- The rest of a literal string. -/
def literalBody : Text → Option (Text × Text)
  | [] => none
  | '\'' :: r => some ([], r)
  | c :: r => if isPlain c then (literalBody r).map fun p => (c :: p.1, p.2) else none

/-! ### Over several lines -/

/-- The text after a line break, if there is one in front. -/
def newline? : Text → Option Text
  | '\n' :: r => some r
  | '\r' :: '\n' :: r => some r
  | _ => none

/-- The text after leading blanks and line breaks. -/
def skipBlankLines : Text → Text
  | '\r' :: '\n' :: r => skipBlankLines r
  | c :: r => if isSpace c || c = '\n' then skipBlankLines r else c :: r
  | [] => []

/-- The text after a line break that follows a backslash, and all blanks and line breaks after
it; blanks may stand before the line break. -/
def continuation? (s : Text) : Option Text :=
  (newline? (s.dropWhile isSpace)).map skipBlankLines

/-- A text after a line break is shorter. -/
theorem length_newline?_lt {s r : Text} (h : newline? s = some r) : r.length < s.length := by
  unfold newline? at h
  split at h
  · cases h
    exact Nat.lt_succ_self _
  · cases h
    exact Nat.lt_succ_of_lt (Nat.lt_succ_self _)
  · cases h

/-- Skipping blank lines does not make a text longer. -/
theorem length_skipBlankLines_le (s : Text) : (skipBlankLines s).length ≤ s.length := by
  fun_induction skipBlankLines s with
  | case1 r ih => simp; omega
  | case2 c r _ _ ih => simp; omega
  | case3 => simp
  | case4 => simp

/-- A text after a continuation is shorter. -/
theorem length_continuation?_lt {s r : Text} (h : continuation? s = some r) :
    r.length < s.length := by
  unfold continuation? at h
  obtain ⟨t, ht, rfl⟩ := Option.map_eq_some_iff.1 h
  have h1 := length_newline?_lt ht
  have h2 := length_skipBlankLines_le t
  have h3 := (List.dropWhile_suffix (l := s) isSpace).length_le
  omega

/-- The rest of a basic string over several lines. -/
def basicLines (s : Text) : Option (Text × Text) :=
  match s with
  | [] => none
  | '"' :: '"' :: '"' :: '"' :: '"' :: r => some (['"', '"'], r)
  | '"' :: '"' :: '"' :: '"' :: r => some (['"'], r)
  | '"' :: '"' :: '"' :: r => some ([], r)
  | '\\' :: 'u' :: a :: b :: c :: d :: r =>
    (hexChar? [a, b, c, d]).bind fun x => (basicLines r).map fun p => (x :: p.1, p.2)
  | '\\' :: 'U' :: a :: b :: c :: d :: e :: f :: g :: h :: r =>
    (hexChar? [a, b, c, d, e, f, g, h]).bind fun x =>
      (basicLines r).map fun p => (x :: p.1, p.2)
  | '\\' :: r =>
    match _hr : continuation? r with
    | some t => basicLines t
    | none =>
      match r with
      | [] => none
      | e :: r => (escaped? e).bind fun x => (basicLines r).map fun p => (x :: p.1, p.2)
  | '\r' :: '\n' :: r => (basicLines r).map fun p => ('\n' :: p.1, p.2)
  | c :: r =>
    if isPlain c || c = '\n' then (basicLines r).map fun p => (c :: p.1, p.2) else none
termination_by s.length
decreasing_by
  · simp only [List.length_cons]; omega
  · simp only [List.length_cons]; omega
  · have hlt := length_continuation?_lt _hr
    simp only [List.length_cons]; omega
  · simp only [List.length_cons]; omega
  · simp only [List.length_cons]; omega
  · simp only [List.length_cons]; omega

/-- The rest of a literal string over several lines. -/
def literalLines : Text → Option (Text × Text)
  | [] => none
  | '\'' :: '\'' :: '\'' :: '\'' :: '\'' :: r => some (['\'', '\''], r)
  | '\'' :: '\'' :: '\'' :: '\'' :: r => some (['\''], r)
  | '\'' :: '\'' :: '\'' :: r => some ([], r)
  | '\r' :: '\n' :: r => (literalLines r).map fun p => ('\n' :: p.1, p.2)
  | c :: r =>
    if isPlain c || c = '\n' then (literalLines r).map fun p => (c :: p.1, p.2) else none

/-- The text after a line break that may stand in front. -/
def dropNewline (s : Text) : Text :=
  (newline? s).getD s

/-! ### All of them -/

/-- A quoted text of any kind, with its opening quotes. -/
def quoted : Text → Option (Text × Text)
  | '"' :: '"' :: '"' :: r => basicLines (dropNewline r)
  | '"' :: r => basicBody r
  | '\'' :: '\'' :: '\'' :: r => literalLines (dropNewline r)
  | '\'' :: r => literalBody r
  | _ => none

/-- A quoted text on one line, with its opening quote. -/
def quotedOnLine : Text → Option (Text × Text)
  | '"' :: r => basicBody r
  | '\'' :: r => literalBody r
  | _ => none

end LangServer.Toml
