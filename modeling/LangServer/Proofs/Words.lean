import Mathlib.Data.List.TakeWhile
import LangServer.Hover

/-!
# Words and where they Stand

The words of a line are listed from left to right, each with the column where it starts. This module
says what that list is in terms of the line: it holds the parts of the line that are words
(`Text.IsWord`), words keep at least one column apart, and any part of the line that is made of word
characters lies inside one of them.

## Places

A text stands at column `n` of a line if the line is the text with something of `n` units before it
(`Text.StandsAt`). The first such column is what `firstColumn?` gives.

## Main statements

* `Text.exists_run_of_append`: a part made of word characters lies inside a word.
* `Text.mem_runs_iff`: the list holds exactly the words of the line.
* `Text.firstColumn?_of_first_touched`: the first word that is touched at its first place in the
  line stands there itself.
* `Text.find?_touches_firstOccurrence`: looking for words at their first places finds the word under
  the cursor or none.
-/

namespace LangServer.Text

/-! ### Word characters -/

/-- Word characters take one unit each. -/
theorem unitWidth_of_isWordChar {c : Char} (h : isWordChar c) : unitWidth c = 1 := by
  have hupper (h : c.isUpper) : c.toNat ≤ 'Z'.toNat :=
    UInt32.le_iff_toNat_le.mp (of_decide_eq_true h).2
  have hlower (h : c.isLower) : c.toNat ≤ 'z'.toNat :=
    UInt32.le_iff_toNat_le.mp (of_decide_eq_true (Bool.and_eq_true_iff.mp h).2)
  have hdigit (h : c.isDigit) : c.toNat ≤ '9'.toNat :=
    UInt32.le_iff_toNat_le.mp (of_decide_eq_true (Bool.and_eq_true_iff.mp h).2)
  have hlt : c.toNat < 0x10000 := by
    rw [isWordChar, Char.isAlphanum, Bool.or_eq_true, Bool.or_eq_true] at h
    rcases h with (h | h) | h
    · rcases Bool.or_eq_true_iff.mp h with h | h
      · exact Nat.lt_of_le_of_lt (hupper h) (by decide)
      · exact Nat.lt_of_le_of_lt (hlower h) (by decide)
    · exact Nat.lt_of_le_of_lt (hdigit h) (by decide)
    · obtain rfl := of_decide_eq_true h
      decide
  rw [unitWidth, if_pos hlt]

/-- A text made of word characters has as many units as characters. -/
theorem units_of_isWordChar {t : Text} (h : ∀ c ∈ t, isWordChar c) : units t = t.length := by
  induction t with
  | nil => rfl
  | cons c t ih =>
      rw [units_cons, unitWidth_of_isWordChar (h c List.mem_cons_self),
        ih fun d hd => h d (List.mem_cons_of_mem c hd), List.length_cons, Nat.add_comm]

/-! ### Parts at the start of a line -/

/-- A text without units is empty. -/
theorem eq_nil_of_units_eq_zero {t : Text} (h : units t = 0) : t = [] := by
  cases t with
  | nil => rfl
  | cons c t =>
      have hpos := unitWidth_pos c
      rw [units_cons] at h
      omega

/-- Of two parts at the start of a line, the one with no more units is a part of the other. -/
theorem prefix_of_units_le {s t line : Text} (hs : s <+: line) (ht : t <+: line)
    (h : units s ≤ units t) : s <+: t := by
  rcases List.prefix_or_prefix_of_prefix hs ht with hle | ⟨u, rfl⟩
  · exact hle
  · rw [units_append] at h
    obtain rfl : u = [] := eq_nil_of_units_eq_zero (by omega)
    simp

/-- A part at the start of a line is known by its units. -/
theorem eq_of_units_eq {s t line : Text} (hs : s <+: line) (ht : t <+: line)
    (h : units s = units t) : s = t := by
  have hst := prefix_of_units_le hs ht h.le
  have hts := prefix_of_units_le ht hs h.ge
  exact hst.eq_of_length (Nat.le_antisymm hst.length_le hts.length_le)

/-! ### Places -/

/-- A text **stands at** a column of a line. -/
def StandsAt (word line : Text) (n : Nat) : Prop :=
  ∃ before after, line = before ++ word ++ after ∧ units before = n

/-- A part of a text stands where the text stands, as much further as it has characters before it
that are word characters. -/
theorem StandsAt.part {a word b line : Text} {n : Nat} (h : StandsAt (a ++ word ++ b) line n)
    (ha : ∀ c ∈ a, isWordChar c) : StandsAt word line (n + a.length) := by
  obtain ⟨before, after, rfl, rfl⟩ := h
  refine ⟨before ++ a, b ++ after, by simp, ?_⟩
  rw [units_append, units_of_isWordChar ha]

/-- What `firstColumnFrom` gives is a place. -/
theorem standsAt_of_firstColumnFrom {col n : Nat} {word line : Text}
    (h : firstColumnFrom col word line = some n) : ∃ k, n = col + k ∧ StandsAt word line k := by
  induction line generalizing col with
  | nil =>
      rw [firstColumnFrom] at h
      split at h
      next hword =>
        obtain rfl := List.isEmpty_iff.mp hword
        exact ⟨0, (Option.some.inj h).symm, [], [], rfl, rfl⟩
      next => cases h
  | cons c t ih =>
      rw [firstColumnFrom] at h
      split at h
      next hprefix =>
        obtain ⟨after, hafter⟩ := List.isPrefixOf_iff_prefix.mp hprefix
        exact ⟨0, (Option.some.inj h).symm, [], after, hafter.symm, rfl⟩
      next =>
        obtain ⟨k, rfl, before, after, rfl, rfl⟩ := ih h
        exact ⟨unitWidth c + units before, by omega, c :: before, after, rfl, rfl⟩

/-- What `firstColumnFrom` gives is the first place. -/
theorem firstColumnFrom_le_of_standsAt {word line : Text} {k : Nat} (h : StandsAt word line k)
    (col : Nat) : ∃ n, firstColumnFrom col word line = some n ∧ n ≤ col + k := by
  induction line generalizing col k with
  | nil =>
      obtain ⟨before, after, hline, -⟩ := h
      obtain rfl : word = [] := by
        simp only [List.nil_eq, List.append_eq_nil_iff] at hline
        exact hline.1.2
      exact ⟨col, rfl, Nat.le_add_right _ _⟩
  | cons c t ih =>
      obtain ⟨before, after, hline, rfl⟩ := h
      rw [firstColumnFrom]
      split
      next => exact ⟨col, rfl, Nat.le_add_right _ _⟩
      next hprefix =>
        rcases before with - | ⟨d, before⟩
        · exact absurd (List.isPrefixOf_iff_prefix.mpr ⟨after, hline.symm⟩) hprefix
        · obtain ⟨rfl, rfl⟩ := List.cons.inj hline
          obtain ⟨n, hn, hle⟩ := ih ⟨before, after, rfl, rfl⟩ (col + unitWidth c)
          exact ⟨n, hn, by rw [units_cons]; omega⟩

/-- **The first column** of a text is a place where it stands, and there is none before it. -/
theorem firstColumn?_of_standsAt {word line : Text} {k : Nat} (h : StandsAt word line k) :
    ∃ n, firstColumn? word line = some n ∧ StandsAt word line n ∧
      ∀ j, StandsAt word line j → n ≤ j := by
  obtain ⟨n, hn, -⟩ := firstColumnFrom_le_of_standsAt h 0
  refine ⟨n, hn, ?_, ?_⟩
  · obtain ⟨j, rfl, hj⟩ := standsAt_of_firstColumnFrom hn
    rw [Nat.zero_add]
    exact hj
  · intro j hj
    obtain ⟨n', hn', hle⟩ := firstColumnFrom_le_of_standsAt hj 0
    obtain rfl := Option.some.inj (hn.symm.trans hn')
    omega

/-! ### Runs -/

/-- A character at the start of a line that is no word character takes up its columns. -/
theorem runsFrom_cons_of_neg {c : Char} (hc : ¬ isWordChar c) (col : Nat) (t : Text) :
    runsFrom col (c :: t) = runsFrom (col + unitWidth c) t := by
  rw [runsFrom, if_neg hc]

/-- A word is made of word characters. -/
theorem isWordChar_of_mem_run {c d : Char} {t : Text} (hc : isWordChar c)
    (hd : d ∈ c :: t.takeWhile isWordChar) : isWordChar d := by
  rcases List.mem_cons.mp hd with rfl | hd
  · exact hc
  · exact List.mem_takeWhile_imp hd

/-- What follows a word does not start with a word character. -/
theorem not_isWordChar_of_head? {d : Char} {t : Text}
    (hd : d ∈ (t.dropWhile isWordChar).head?) : ¬ isWordChar d := by
  have h := List.head?_dropWhile_not isWordChar t
  rw [Option.mem_def.mp hd] at h
  simpa using h

/-- The middle one of three parts of a line is a **word** of the line: it is made of word
characters, and those next to it on either side are none. -/
structure IsWord (before word after : Text) : Prop where
  nonempty : word ≠ []
  chars : ∀ c ∈ word, isWordChar c
  left : ∀ c ∈ before.getLast?, ¬ isWordChar c
  right : ∀ c ∈ after.head?, ¬ isWordChar c

/-- **Every word** of the list is a word of the line and stands where it is said to start. -/
theorem isWord_of_mem_runsFrom {col : Nat} {line : Text} {r : Run} (h : r ∈ runsFrom col line) :
    ∃ before after, line = before ++ r.word ++ after ∧ r.start = col + units before ∧
      IsWord before r.word after := by
  fun_induction runsFrom col line with
  | case1 col => cases h
  | case2 col c t hc word ih =>
      have hword : ∀ d ∈ word, isWordChar d := fun d => isWordChar_of_mem_run hc
      have hrest : ∀ d ∈ (t.dropWhile isWordChar).head?, ¬ isWordChar d :=
        fun d => not_isWordChar_of_head?
      have hline : c :: t = word ++ t.dropWhile isWordChar := by
        rw [List.cons_append, List.takeWhile_append_dropWhile]
      rcases List.mem_cons.mp h with rfl | h
      · exact ⟨[], t.dropWhile isWordChar, hline, rfl, List.cons_ne_nil _ _, hword, nofun, hrest⟩
      · obtain ⟨before, after, hsplit, hstart, hne, hchars, hleft, hright⟩ := ih h
        -- What follows a word starts with no word character, so the later word is further on.
        obtain ⟨d, before, rfl⟩ : ∃ d before', before = d :: before' := by
          refine List.exists_cons_of_ne_nil fun hnil => ?_
          obtain ⟨d, w, hdw⟩ := List.exists_cons_of_ne_nil hne
          refine hrest d ?_ (hchars d (hdw ▸ List.mem_cons_self))
          rw [hsplit, hnil, hdw]
          rfl
        refine ⟨word ++ d :: before, after, ?_, ?_, hne, hchars, ?_, hright⟩
        · rw [hline, hsplit, List.append_assoc, List.append_assoc, List.append_assoc]
        · rw [hstart, units_append, units_of_isWordChar hword, Nat.add_assoc]
        · rwa [List.getLast?_append, List.getLast?_cons, Option.some_or, ← List.getLast?_cons]
  | case3 col c t hc ih =>
      obtain ⟨before, after, rfl, hstart, hne, hchars, hleft, hright⟩ := ih h
      refine ⟨c :: before, after, rfl, ?_, hne, hchars, ?_, hright⟩
      · rw [hstart, units_cons, Nat.add_assoc]
      · intro d hd
        cases before with
        | nil =>
            obtain rfl : c = d := Option.some.inj hd
            exact hc
        | cons e before =>
            rw [List.getLast?_cons_cons] at hd
            exact hleft d hd

/-- A word of the list is made of word characters and stands where it is said to start. -/
theorem standsAt_of_mem_runsFrom {col : Nat} {line : Text} {r : Run} (h : r ∈ runsFrom col line) :
    r.word ≠ [] ∧ (∀ c ∈ r.word, isWordChar c) ∧
      ∃ k, r.start = col + k ∧ StandsAt r.word line k := by
  obtain ⟨before, after, hline, hstart, hword⟩ := isWord_of_mem_runsFrom h
  exact ⟨hword.nonempty, hword.chars, units before, hstart, before, after, hline, rfl⟩

/-- A line that does not start with a word character has its first word further on. -/
theorem lt_start_of_mem_runsFrom {col : Nat} {line : Text} {r : Run} (h : r ∈ runsFrom col line)
    (hline : ∀ c ∈ line.head?, ¬ isWordChar c) : col < r.start := by
  cases line with
  | nil => simp [runsFrom] at h
  | cons c t =>
      rw [runsFrom_cons_of_neg (hline c rfl)] at h
      obtain ⟨-, -, k, hstart, -⟩ := standsAt_of_mem_runsFrom h
      have hpos := unitWidth_pos c
      omega

/-- **Words are listed from left to right**, at least a column apart. -/
theorem pairwise_runsFrom (col : Nat) (line : Text) :
    (runsFrom col line).Pairwise fun q r => q.stop < r.start := by
  fun_induction runsFrom col line with
  | case1 col => exact List.Pairwise.nil
  | case2 col c t hc word ih =>
      refine List.Pairwise.cons ?_ ih
      intro r hr
      exact lt_start_of_mem_runsFrom hr fun d => not_isWordChar_of_head?
  | case3 col c t hc ih => exact ih

/-- A part made of word characters that begins before the end of a word ends there at the latest. -/
theorem append_inside {before word after run rest : Text} (hword : ∀ c ∈ word, isWordChar c)
    (hrest : ∀ c ∈ rest.head?, ¬ isWordChar c) (h : before ++ (word ++ after) = run ++ rest) :
    (∃ b, run = before ++ word ++ b) ∨
      ∃ before', before = run ++ before' ∧ rest = before' ++ word ++ after := by
  rcases List.append_eq_append_iff.mp h with ⟨a, hrun, hafter⟩ | ⟨before', hbefore, hrest'⟩
  · rcases List.append_eq_append_iff.mp hafter with ⟨b, rfl, -⟩ | ⟨d, hd, hrest'⟩
    · exact Or.inl ⟨b, by rw [hrun, List.append_assoc]⟩
    · cases d with
      | nil => exact Or.inl ⟨[], by rw [hrun, hd, List.append_nil, List.append_nil]⟩
      | cons e d =>
          have he : isWordChar e := hword e (hd ▸ List.mem_append_right a List.mem_cons_self)
          exact absurd he (hrest e (by rw [hrest']; rfl))
  · exact Or.inr ⟨before', hbefore, by rw [hrest', List.append_assoc]⟩

/-- **A part made of word characters** lies inside a word. -/
theorem exists_run_of_append {word after : Text} (hword : word ≠ [])
    (hchars : ∀ c ∈ word, isWordChar c) (col : Nat) (line : Text) :
    ∀ before, line = before ++ word ++ after →
      ∃ q ∈ runsFrom col line, ∃ a b, q.word = a ++ word ++ b ∧
        col + units before = q.start + a.length := by
  fun_induction runsFrom col line with
  | case1 col =>
      intro before hline
      simp only [List.nil_eq, List.append_eq_nil_iff] at hline
      exact absurd hline.1.2 hword
  | case2 col c t hc run ih =>
      intro before hline
      have hrunChars : ∀ d ∈ run, isWordChar d := fun d => isWordChar_of_mem_run hc
      have hsplit : before ++ (word ++ after) = run ++ t.dropWhile isWordChar := by
        rw [List.cons_append, List.takeWhile_append_dropWhile, hline, List.append_assoc]
      rcases append_inside hchars (fun d => not_isWordChar_of_head?) hsplit with
        ⟨b, hrun⟩ | ⟨before', rfl, hrest⟩
      · have hbefore : ∀ d ∈ before, isWordChar d := fun d hd =>
          hrunChars d (hrun ▸ List.mem_append_left _ (List.mem_append_left _ hd))
        refine ⟨⟨col, run⟩, List.mem_cons_self, before, b, hrun, ?_⟩
        rw [units_of_isWordChar hbefore]
      · obtain ⟨q, hq, a, b, hqword, hcol⟩ := ih before' hrest
        refine ⟨q, List.mem_cons_of_mem _ hq, a, b, hqword, ?_⟩
        rw [units_append, units_of_isWordChar hrunChars]
        omega
  | case3 col c t hc ih =>
      intro before hline
      rcases before with - | ⟨d, before⟩
      · obtain ⟨d, word', rfl⟩ := List.exists_cons_of_ne_nil hword
        obtain ⟨rfl, -⟩ := List.cons.inj hline
        exact absurd (hchars c List.mem_cons_self) hc
      · obtain ⟨rfl, rfl⟩ := List.cons.inj hline
        obtain ⟨q, hq, a, b, hqword, hcol⟩ := ih before rfl
        exact ⟨q, hq, a, b, hqword, by rw [units_cons]; omega⟩

/-- **The words of a line** are listed, all of them and nothing else, with the columns where they
start. -/
theorem mem_runs_iff {line : Text} {r : Run} :
    r ∈ runs line ↔ ∃ before after, line = before ++ r.word ++ after ∧ r.start = units before ∧
      IsWord before r.word after := by
  constructor
  · intro h
    obtain ⟨before, after, hline, hstart, hword⟩ := isWord_of_mem_runsFrom h
    exact ⟨before, after, hline, by rw [hstart, Nat.zero_add], hword⟩
  · rintro ⟨before, after, hline, hstart, hword⟩
    -- The word lies inside a listed one, and nothing of that stands before or after it.
    obtain ⟨q, hq, a, b, hqword, hqstart⟩ :=
      exists_run_of_append hword.nonempty hword.chars 0 line before hline
    obtain ⟨before', after', hline', hstart', hword'⟩ := isWord_of_mem_runsFrom hq
    have ha : ∀ c ∈ a, isWordChar c := fun c hc =>
      hword'.chars c (hqword ▸ List.mem_append_left _ (List.mem_append_left _ hc))
    have hbefore : before = before' ++ a := by
      have hbegin : before <+: line := ⟨r.word ++ after, by rw [hline, List.append_assoc]⟩
      have hbegin' : before' ++ a <+: line := by
        refine ⟨r.word ++ b ++ after', ?_⟩
        rw [hline', hqword]
        simp only [List.append_assoc]
      refine eq_of_units_eq hbegin hbegin' ?_
      rw [units_append, units_of_isWordChar ha]
      omega
    have hafter : after = b ++ after' := by
      rw [hline', hqword, hbefore] at hline
      simpa using hline.symm
    obtain rfl : a = [] := by
      rcases List.eq_nil_or_concat a with hnil | ⟨a', c, rfl⟩
      · exact hnil
      · refine absurd (ha c (by simp)) (hword.left c ?_)
        rw [hbefore]
        simp
    obtain rfl : b = [] := by
      cases b with
      | nil => rfl
      | cons c b =>
          refine absurd (hword'.chars c (hqword ▸ by simp)) (hword.right c ?_)
          rw [hafter]
          rfl
    rw [List.nil_append, List.append_nil] at hqword
    rw [List.length_nil] at hqstart
    have hstart_eq : q.start = r.start := by omega
    have hqr : q = r := by
      calc q = ⟨q.start, q.word⟩ := rfl
        _ = r := by rw [hstart_eq, hqword]
    exact hqr ▸ hq

/-! ### Words of a line -/

variable {line : Text} {column : Nat} {q r : Run}

/-- Two words of a line are the same or at least a column apart. -/
theorem eq_or_apart (hq : q ∈ runs line) (hr : r ∈ runs line) :
    q = r ∨ q.stop < r.start ∨ r.stop < q.start := by
  have hpairwise := pairwise_runsFrom 0 line
  refine List.Pairwise.forall_of_forall_of_flip
    (R := fun q r => q = r ∨ q.stop < r.start ∨ r.stop < q.start) ?_ ?_ ?_ hq hr
  · exact fun q _ => Or.inl rfl
  · exact hpairwise.imp fun h => Or.inr (Or.inl h)
  · exact hpairwise.imp fun h => Or.inr (Or.inr h)

/-- The first word of a kind is the leftmost one. -/
theorem start_le_of_find? {p : Run → Bool} (h : (runs line).find? p = some r)
    (hq : q ∈ runs line) (hp : p q) : r.start ≤ q.start := by
  obtain ⟨-, before, after, hruns, hbefore⟩ := List.find?_eq_some_iff_append.mp h
  have hpairwise := pairwise_runsFrom 0 line
  rw [show runsFrom 0 line = _ from hruns, List.pairwise_append] at hpairwise
  rw [hruns] at hq
  rcases List.mem_append.mp hq with hq | hq
  · exact absurd hp (by simpa using hbefore q hq)
  rcases List.mem_cons.mp hq with rfl | hq
  · exact Nat.le_refl _
  · have hlt : r.stop < q.start := List.rel_of_pairwise_cons hpairwise.2.1 hq
    rw [Run.stop] at hlt
    omega

/-- A word **under the cursor** has the column between its ends. -/
theorem touches_cursor : touches .cursor line column r ↔ r.start ≤ column ∧ column ≤ r.stop := by
  rw [touches, Bool.and_eq_true, decide_eq_true_eq, decide_eq_true_eq]
  rfl

/-- A word is touched **at its first place** if the column is between the ends of that. -/
theorem touches_firstOccurrence {n : Nat} (h : firstColumn? r.word line = some n) :
    touches .firstOccurrence line column r ↔ n ≤ column ∧ column ≤ n + r.word.length := by
  simp [touches, spanStart, h]

/-- The **leftmost** word that is touched at its first place stands there itself: if the first place
were inside another word, that word would be touched at its own first place, and is further left. -/
theorem firstColumn?_of_first_touched (hr : r ∈ runs line)
    (htouches : touches .firstOccurrence line column r)
    (hfirst : ∀ q ∈ runs line, touches .firstOccurrence line column q → r.start ≤ q.start) :
    firstColumn? r.word line = some r.start := by
  obtain ⟨hword, hchars, k, hk, hstands⟩ := standsAt_of_mem_runsFrom hr
  obtain ⟨n, hn, ⟨before, after, hline, rfl⟩, hleast⟩ := firstColumn?_of_standsAt hstands
  obtain ⟨q, hq, a, b, hqword, hqstart⟩ := exists_run_of_append hword hchars 0 line before hline
  have hrstart : units before ≤ k := hleast k hstands
  -- The word around the first place has its own first place where it stands.
  have hqfirst : firstColumn? q.word line = some q.start := by
    obtain ⟨-, hqchars, j, hj, hqstands⟩ := standsAt_of_mem_runsFrom hq
    obtain ⟨m, hm, hmstands, hmleast⟩ := firstColumn?_of_standsAt hqstands
    have hle : m ≤ j := hmleast j hqstands
    rw [hqword] at hmstands
    have hpart : units before ≤ m + a.length := by
      refine hleast _ (hmstands.part fun c hc => hqchars c ?_)
      rw [hqword]
      exact List.mem_append_left _ (List.mem_append_left _ hc)
    rw [hm]
    congr 1
    omega
  rw [touches_firstOccurrence hn] at htouches
  have hqlength : q.word.length = a.length + r.word.length + b.length := by
    rw [hqword, List.length_append, List.length_append]
  have hqtouches : touches .firstOccurrence line column q := by
    rw [touches_firstOccurrence hqfirst]
    omega
  have hle := hfirst q hq hqtouches
  rw [hn]
  congr 1
  omega

/-- What is found at its first place is under the cursor. -/
theorem touches_cursor_of_find?
    (h : (runs line).find? (touches .firstOccurrence line column) = some r) :
    r ∈ runs line ∧ touches .cursor line column r ∧ firstColumn? r.word line = some r.start := by
  have hr := List.mem_of_find?_eq_some h
  have htouches := List.find?_some h
  have hplace := firstColumn?_of_first_touched hr htouches fun q => start_le_of_find? h
  refine ⟨hr, ?_, hplace⟩
  rw [touches_cursor]
  exact (touches_firstOccurrence hplace).mp htouches

/-- At most **one word** is under the cursor. -/
theorem eq_of_touches_cursor (hq : q ∈ runs line) (hr : r ∈ runs line)
    (hqtouches : touches .cursor line column q) (hrtouches : touches .cursor line column r) :
    q = r := by
  rw [touches_cursor] at hqtouches hrtouches
  rcases eq_or_apart hq hr with h | h | h
  · exact h
  · omega
  · omega

/-- **Looking for words where they stand** finds the one that has the column between its ends. -/
theorem find?_touches_cursor_eq_some_iff :
    (runs line).find? (touches .cursor line column) = some r ↔
      r ∈ runs line ∧ r.start ≤ column ∧ column ≤ r.stop := by
  constructor
  · intro h
    exact ⟨List.mem_of_find?_eq_some h, touches_cursor.mp (List.find?_some h)⟩
  · rintro ⟨hr, hends⟩
    have htouches : touches .cursor line column r := touches_cursor.mpr hends
    -- Something is found, and no other word is under the cursor.
    cases hfind : (runs line).find? (touches .cursor line column) with
    | none => exact absurd htouches (List.find?_eq_none.mp hfind r hr)
    | some q =>
        rw [eq_of_touches_cursor (List.mem_of_find?_eq_some hfind) hr (List.find?_some hfind)
          htouches]

/-- **First places find the word under the cursor or none**: the word that is found at its first
place in the line is the one under the cursor, and that one is found if it stands at its first place
itself. -/
theorem find?_touches_firstOccurrence (line : Text) (column : Nat) :
    (runs line).find? (touches .firstOccurrence line column) =
      ((runs line).find? (touches .cursor line column)).filter fun r =>
        firstColumn? r.word line = some r.start := by
  cases hfirst : (runs line).find? (touches .firstOccurrence line column) with
  | some q =>
      obtain ⟨hq, hqtouches, hplace⟩ := touches_cursor_of_find? hfirst
      cases hcursor : (runs line).find? (touches .cursor line column) with
      | none => exact absurd hqtouches (List.find?_eq_none.mp hcursor q hq)
      | some r =>
          obtain rfl : q = r := eq_of_touches_cursor hq (List.mem_of_find?_eq_some hcursor)
            hqtouches (List.find?_some hcursor)
          symm
          rw [Option.filter_eq_some_iff]
          exact ⟨rfl, decide_eq_true hplace⟩
  | none =>
      symm
      rw [Option.filter_eq_none_iff]
      intro r hcursor hplace
      have hnot := List.find?_eq_none.mp hfirst r (List.mem_of_find?_eq_some hcursor)
      rw [touches_firstOccurrence (of_decide_eq_true hplace)] at hnot
      exact hnot (touches_cursor.mp (List.find?_some hcursor))

end LangServer.Text
