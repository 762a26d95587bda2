import LangServer.Toml.Reader

/-!
# Documents Line by Line

A plain way to write TOML: one statement to a line, keys without quotes, strings between double
quotes on one line, and nothing else but empty lines. This module says what may be written for what
(`Toml.SpellsDocument`) and that the reader finds in such a document the statements that were
written.

A writer has a choice for the characters of a string: most may stand for themselves, some have a
short escape, and each may be written by its number in hexadecimal digits. All choices are covered.

## Conventions

Readers are followed from left to right: each lemma is about what was written and any text after
it, which the reader leaves. What comes after a value must not start with a quote, since two quotes
and a third one would open a string over several lines.

## Main statements

* `Toml.basicBody_spellsText`: the reader of strings finds the text that was written.
* `Toml.statement_spellsLine`: the reader of statements finds the statement of a line.
* `Toml.parse?_of_spellsDocument`: reading a document comes to building the tree of its statements.
-/

namespace LangServer.Toml

/-! ### What is written -/

/-- The short escapes: the letter after the backslash, and the character that is meant. -/
def shortEscapes : List (Char × Char) :=
  [('"', '"'), ('\\', '\\'), ('b', '\x08'), ('f', '\x0c'), ('n', '\n'), ('r', '\r'), ('t', '\t')]

/-- How a **character** may be written in a string. -/
inductive SpellsChar : Char → Text → Prop
  /-- As itself, if it is no control character but the tab, no quote and no backslash. -/
  | itself {c : Char} (hplain : c = '\t' ∨ 0x20 ≤ c.toNat ∧ c.toNat ≠ 0x7F) (hquote : c ≠ '"')
      (hbackslash : c ≠ '\\') : SpellsChar c [c]
  | short {e c : Char} (h : (e, c) ∈ shortEscapes) : SpellsChar c ['\\', e]
  | four {x a b c d : Char} (hdigits : ∀ e ∈ [a, b, c, d], Text.isHexDigit e)
      (hnumber : Text.numeral 16 [a, b, c, d] = x.toNat) : SpellsChar x ['\\', 'u', a, b, c, d]
  | eight {x a b c d e f g h : Char} (hdigits : ∀ i ∈ [a, b, c, d, e, f, g, h], Text.isHexDigit i)
      (hnumber : Text.numeral 16 [a, b, c, d, e, f, g, h] = x.toNat) :
      SpellsChar x ['\\', 'U', a, b, c, d, e, f, g, h]

/-- How a **text** may be written in a string: character by character. -/
inductive SpellsText : Text → Text → Prop
  | nil : SpellsText [] []
  | cons {c : Char} {a s t : Text} (hc : SpellsChar c a) (hs : SpellsText s t) :
      SpellsText (c :: s) (a ++ t)

/-- How a **value** may be written; only strings and truth values are. -/
inductive Spells : Value → Text → Prop
  | string {s : String} {t : Text} (hs : SpellsText s.toList t) :
      Spells (.string s) ('"' :: t ++ ['"'])
  | yes : Spells (.boolean true) "true".toList
  | no : Spells (.boolean false) "false".toList

/-- Whether a key may be written without quotes. -/
def IsBareKey (name : String) : Prop :=
  name.toList ≠ [] ∧ name.toList.all isBareKeyChar

instance (name : String) : Decidable (IsBareKey name) :=
  inferInstanceAs (Decidable (_ ∧ _))

/-- How a **statement** may be written on a line. -/
inductive SpellsLine : Statement → Text → Prop
  | header {name : String} (hname : IsBareKey name) :
      SpellsLine (.header [] name) ('[' :: name.toList ++ [']'])
  | assignment {name : String} {v : Value} {t : Text} (hname : IsBareKey name) (hv : Spells v t) :
      SpellsLine (.assignment [] name v) (name.toList ++ " = ".toList ++ t)

/-- How a **document** may be written: each statement on a line, and empty lines anywhere. -/
inductive SpellsDocument : List Statement → Text → Prop
  | nil : SpellsDocument [] []
  | blank {ss : List Statement} {t : Text} (hs : SpellsDocument ss t) :
      SpellsDocument ss ('\n' :: t)
  | line {s : Statement} {ss : List Statement} {l t : Text} (hl : SpellsLine s l)
      (hs : SpellsDocument ss t) : SpellsDocument (s :: ss) (l ++ '\n' :: t)

/-- Documents may be put together. -/
theorem SpellsDocument.append {ss ss' : List Statement} {t t' : Text} (h : SpellsDocument ss t)
    (h' : SpellsDocument ss' t') : SpellsDocument (ss ++ ss') (t ++ t') := by
  induction h with
  | nil => exact h'
  | blank hs ih => exact .blank ih
  | line hl hs ih =>
      rw [List.append_assoc, List.cons_append, List.cons_append]
      exact .line hl ih

/-! ### Strings -/

/-- The digits of a character's number are read as the character. -/
theorem hexChar?_eq_some {x : Char} {digits : Text} (hdigits : ∀ d ∈ digits, Text.isHexDigit d)
    (hnumber : Text.numeral 16 digits = x.toNat) : hexChar? digits = some x := by
  have hvalid : x.toNat.isValidChar := x.valid
  rw [hexChar?, if_pos (List.all_eq_true.mpr hdigits), hnumber, Text.char?, if_pos hvalid,
    Char.ofNat_toNat]

/-- The reader of strings finds a **character** that was written. -/
theorem basicBody_spellsChar {c : Char} {t : Text} (h : SpellsChar c t) (r : Text) :
    basicBody (t ++ r) = (basicBody r).map fun p => (c :: p.1, p.2) := by
  cases h with
  | itself hplain hquote hbackslash =>
      have hc : isPlain c := by
        rw [isPlain]
        simpa using hplain
      rw [List.singleton_append, basicBody, if_pos hc]
      · exact hquote
      · exact fun _ _ _ _ _ hc => absurd hc hbackslash
      · exact fun _ _ _ _ _ _ _ _ _ hc => absurd hc hbackslash
      · exact fun _ _ hc => absurd hc hbackslash
  | short h =>
      simp only [shortEscapes, List.mem_cons, Prod.mk.injEq, List.not_mem_nil, or_false] at h
      rcases h with h | h | h | h | h | h | h
      all_goals
        obtain ⟨rfl, rfl⟩ := h
        rfl
  | four hdigits hnumber =>
      simp only [List.cons_append, List.nil_append, basicBody, hexChar?_eq_some hdigits hnumber,
        Option.bind_some]
  | eight hdigits hnumber =>
      simp only [List.cons_append, List.nil_append, basicBody, hexChar?_eq_some hdigits hnumber,
        Option.bind_some]

/-- The reader of strings finds the **text** that was written. -/
theorem basicBody_spellsText {s t : Text} (h : SpellsText s t) (r : Text) :
    basicBody (t ++ '"' :: r) = some (s, r) := by
  induction h with
  | nil => rfl
  | cons hc hs ih => rw [List.append_assoc, basicBody_spellsChar hc, ih, Option.map_some]

/-- What is written for a character does not start with a quote. -/
theorem SpellsChar.exists_cons {c : Char} {t : Text} (h : SpellsChar c t) :
    ∃ d u, t = d :: u ∧ d ≠ '"' := by
  cases h with
  | itself hplain hquote hbackslash => exact ⟨c, [], rfl, hquote⟩
  | short | four | eight => exact ⟨'\\', _, rfl, by decide⟩

/-- A **quoted text** is read up to its closing quote. -/
theorem quoted_spellsText {s t : Text} (h : SpellsText s t) {r : Text} (hr : r.head? ≠ some '"') :
    quoted ('"' :: t ++ '"' :: r) = some (s, r) := by
  have hbody := basicBody_spellsText h r
  cases h with
  | nil =>
      -- two quotes: what follows decides whether they are an empty string
      rcases r with - | ⟨d, r⟩
      · rfl
      · rw [← hbody, List.singleton_append, List.nil_append, quoted]
        intro _ heq
        obtain ⟨rfl, -⟩ := List.cons.inj (List.cons.inj heq).2
        exact hr rfl
  | cons hc hs =>
      obtain ⟨d, u, rfl, hd⟩ := hc.exists_cons
      rw [← hbody, List.cons_append, quoted]
      intro _ heq
      exact hd (List.cons.inj heq).1

/-! ### Values -/

/-- What is no list and no table in braces is read as a single value. -/
theorem value_eq_scalar {c : Char} (hlist : c ≠ '[') (htable : c ≠ '\x7b') (depth : Nat)
    (t : Text) : value depth (c :: t) = scalar (c :: t) := by
  cases depth with
  | zero => rfl
  | succ depth =>
      rw [value]
      · exact fun _ heq => hlist (List.cons.inj heq).1
      · exact fun _ heq => htable (List.cons.inj heq).1

/-- The reader of values finds the **value** that was written. -/
theorem value_spells {v : Value} {t : Text} (h : Spells v t) {r : Text} (hr : r.head? ≠ some '"')
    (depth : Nat) : value depth (t ++ r) = some (v, r) := by
  cases h with
  | string hs =>
      rw [List.cons_append, List.cons_append, value_eq_scalar (by decide) (by decide), scalar]
      rw [List.append_assoc, List.singleton_append, ← List.cons_append, quoted_spellsText hs hr,
        Option.map_some, String.ofList_toList]
  | yes => exact value_eq_scalar (by decide) (by decide) depth _
  | no => exact value_eq_scalar (by decide) (by decide) depth _

/-- What is written for a value starts with no blank. -/
theorem Spells.skipSpace_append {v : Value} {t : Text} (h : Spells v t) (r : Text) :
    skipSpace (t ++ r) = t ++ r := by
  cases h <;> rfl

/-! ### Keys -/

/-- A character of a key without quotes is none of those that mean something else. -/
theorem ne_of_isBareKeyChar {c d : Char} (hc : isBareKeyChar c) (hd : isBareKeyChar d = false) :
    c ≠ d := by
  rintro rfl
  rw [hc] at hd
  cases hd

/-- A key without quotes has a first character. -/
theorem IsBareKey.exists_cons {name : String} (h : IsBareKey name) :
    ∃ c cs, name.toList = c :: cs ∧ isBareKeyChar c := by
  obtain ⟨c, cs, hname⟩ := List.exists_cons_of_ne_nil h.1
  exact ⟨c, cs, hname, List.all_eq_true.mp h.2 c (hname ▸ List.mem_cons_self)⟩

/-- A **key without quotes** is read up to the first other character. -/
theorem simpleKey_bareKey {name : String} (hname : IsBareKey name) {r : Text}
    (hr : ∀ c ∈ r.head?, ¬ isBareKeyChar c) : simpleKey (name.toList ++ r) = some (name, r) := by
  have hquoted : quotedOnLine (name.toList ++ r) = none := by
    obtain ⟨c, cs, heq, hc⟩ := hname.exists_cons
    rw [heq, List.cons_append, quotedOnLine]
    · exact fun _ heq => ne_of_isBareKeyChar hc (by decide) (List.cons.inj heq).1
    · exact fun _ heq => ne_of_isBareKeyChar hc (by decide) (List.cons.inj heq).1
  have hend : r.takeWhile isBareKeyChar = [] ∧ r.dropWhile isBareKeyChar = r := by
    cases r with
    | nil => exact ⟨rfl, rfl⟩
    | cons c r => simp [hr c rfl]
  obtain ⟨hne, hall⟩ := hname
  have hchars := List.all_eq_true.mp hall
  simp only [simpleKey, hquoted, List.takeWhile_append_of_pos hchars,
    List.dropWhile_append_of_pos hchars, hend.1, hend.2, List.append_nil, hne, if_false,
    String.ofList_toList]

/-- A text that starts with a character of a key has no blanks in front. -/
theorem skipSpace_bareKey {name : String} (hname : IsBareKey name) (r : Text) :
    skipSpace (name.toList ++ r) = name.toList ++ r := by
  obtain ⟨c, cs, heq, hc⟩ := hname.exists_cons
  have hspace : isSpace c = false := by
    rw [isSpace, decide_eq_false (ne_of_isBareKeyChar hc (by decide)),
      decide_eq_false (ne_of_isBareKeyChar hc (by decide))]
    rfl
  rw [heq, List.cons_append, skipSpace, List.dropWhile_cons_of_neg (by rw [hspace]; decide)]

/-- A key of one part is read with the blanks after it. -/
theorem dottedKey_bareKey {name : String} (hname : IsBareKey name) {r : Text}
    (hr : ∀ c ∈ r.head?, ¬ isBareKeyChar c) (hdot : (skipSpace r).head? ≠ some '.') (n : Nat) :
    dottedKey (n + 1) (name.toList ++ r) = some ([], name, skipSpace r) := by
  rw [dottedKey, skipSpace_bareKey hname, simpleKey_bareKey hname hr]
  simp only [Option.bind_eq_bind, Option.bind_some]
  split
  next r' heq => exact absurd (by rw [heq]; rfl) hdot
  next => rfl

/-! ### Statements -/

/-- A line break ends a line. -/
theorem lineEnd_newline (r : Text) : lineEnd ('\n' :: r) = some r := by
  simp [lineEnd, skipSpace, isSpace, newline?]

/-- The reader of statements finds a **header**. -/
theorem header_bareKey {name : String} (hname : IsBareKey name) (r : Text) :
    header (name.toList ++ ']' :: '\n' :: r) = some (.header [] name, r) := by
  have hkey : dottedKey keyLimit (name.toList ++ ']' :: '\n' :: r) =
      some ([], name, ']' :: '\n' :: r) :=
    dottedKey_bareKey hname (by simp; decide) (by simp [skipSpace, isSpace]) 78
  rw [header, hkey]
  · simp [Text.expect, lineEnd_newline]
  · intro r' heq
    obtain ⟨c, cs, hcons, hc⟩ := hname.exists_cons
    rw [hcons, List.cons_append] at heq
    exact ne_of_isBareKeyChar hc (by decide) (List.cons.inj heq).1

/-- The reader of statements finds an **assignment**. -/
theorem assignment_bareKey {name : String} (hname : IsBareKey name) {v : Value} {t : Text}
    (hv : Spells v t) (r : Text) :
    assignment (name.toList ++ " = ".toList ++ t ++ '\n' :: r) =
      some (.assignment [] name v, r) := by
  have hkey : dottedKey keyLimit (name.toList ++ " = ".toList ++ t ++ '\n' :: r) =
      some ([], name, '=' :: ' ' :: (t ++ '\n' :: r)) := by
    rw [List.append_assoc, List.append_assoc]
    exact dottedKey_bareKey hname (by simp; decide) (by simp [skipSpace, isSpace]) 78
  have hvalue : value depthLimit (skipSpace (' ' :: (t ++ '\n' :: r))) = some (v, '\n' :: r) := by
    have hspace : skipSpace (' ' :: (t ++ '\n' :: r)) = skipSpace (t ++ '\n' :: r) := rfl
    rw [hspace, hv.skipSpace_append]
    exact value_spells hv (by simp) depthLimit
  rw [assignment, hkey]
  simp [Text.expect, hvalue, lineEnd_newline]

/-- The reader of statements finds the statement of a **line**. -/
theorem statement_spellsLine {s : Statement} {l : Text} (h : SpellsLine s l) (r : Text) :
    statement (l ++ '\n' :: r) = some (s, r) := by
  cases h with
  | @header name hname =>
      rw [List.append_assoc, List.cons_append, List.singleton_append, statement]
      exact header_bareKey hname r
  | @assignment name v t hname hv =>
      rw [statement]
      · exact assignment_bareKey hname hv r
      · intro r' heq
        obtain ⟨c, cs, hcons, hc⟩ := hname.exists_cons
        simp only [hcons, List.cons_append] at heq
        exact ne_of_isBareKeyChar hc (by decide) (List.cons.inj heq).1

/-! ### Documents -/

/-- The **start of a line** is neither blank nor the start of a comment. -/
theorem SpellsLine.exists_cons {s : Statement} {l : Text} (h : SpellsLine s l) :
    ∃ c u, l = c :: u ∧ c ∉ ['\r', '\n', ' ', '\t', '#', '\uFEFF'] := by
  cases h with
  | header => exact ⟨'[', _, rfl, by decide⟩
  | @assignment name v t hname hv =>
      obtain ⟨c, cs, hcons, hc⟩ := hname.exists_cons
      refine ⟨c, cs ++ " = ".toList ++ t, by rw [hcons]; rfl, fun hmem => ?_⟩
      simp only [List.mem_cons, List.not_mem_nil, or_false] at hmem
      rcases hmem with rfl | rfl | rfl | rfl | rfl | rfl
      all_goals exact absurd hc (by decide)

/-- There is **no gap** before a line. -/
theorem skipGap_spellsLine {s : Statement} {l : Text} (h : SpellsLine s l) (r : Text) :
    skipGap false (l ++ r) = some (l ++ r) := by
  obtain ⟨c, u, rfl, hc⟩ := h.exists_cons
  simp only [List.mem_cons, List.not_mem_nil, or_false, not_or] at hc
  obtain ⟨hreturn, hfeed, hblank, htab, hcomment, -⟩ := hc
  rw [List.cons_append, skipGap]
  · simp [hfeed, hcomment, isSpace, hblank, htab]
  · exact hreturn

/-- Reading a document gives the **statements** that were written. -/
theorem statements_of_spellsDocument {ss : List Statement} {t : Text} (h : SpellsDocument ss t)
    {n : Nat} (hn : t.length < n) : statements n t = some ss := by
  induction h generalizing n with
  | nil =>
      obtain ⟨n, rfl⟩ := Nat.exists_eq_add_one_of_ne_zero (Nat.ne_zero_of_lt hn)
      rfl
  | @blank ss t hs ih =>
      obtain ⟨n, rfl⟩ := Nat.exists_eq_add_one_of_ne_zero (Nat.ne_zero_of_lt hn)
      -- an empty line is part of the gap before the next statement
      have hgap : skipGap false ('\n' :: t) = skipGap false t := rfl
      rw [statements, hgap, ← statements]
      exact ih (Nat.lt_of_succ_lt hn)
  | @line s ss l t hl hs ih =>
      obtain ⟨n, rfl⟩ := Nat.exists_eq_add_one_of_ne_zero (Nat.ne_zero_of_lt hn)
      have hrest : statements n t = some ss := by
        apply ih
        simp only [List.length_append, List.length_cons] at hn
        omega
      rw [statements, skipGap_spellsLine hl]
      simp [statement_spellsLine hl, hrest]

/-- A document has no **byte-order mark**. -/
theorem dropMark_of_spellsDocument {ss : List Statement} {t : Text} (h : SpellsDocument ss t) :
    dropMark t = t := by
  cases h with
  | nil | blank => rfl
  | line hl hs =>
      obtain ⟨c, u, rfl, hc⟩ := hl.exists_cons
      rw [List.cons_append, dropMark]
      intro r heq
      obtain ⟨rfl, -⟩ := List.cons.inj heq
      exact hc (by decide)

/-- **Reading a document** comes to building the tree of its statements. -/
theorem parse?_of_spellsDocument {ss : List Statement} {t : Text} (h : SpellsDocument ss t) :
    parse? t = build? ss := by
  rw [parse?, dropMark_of_spellsDocument h]
  simp only [statements_of_spellsDocument h (Nat.lt_succ_self _), Option.bind_some]

end LangServer.Toml
