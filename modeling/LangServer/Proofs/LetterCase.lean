import LangServer.Proofs.Validity

/-!
# Names up to Letter Case

Names from the environment and from requests are put into lower case before they are compared, and
lower case is the full one of Unicode: there are characters beyond ASCII with small letters inside
ASCII, characters that become two, and a letter whose small form depends on what stands around it.
This module shows that none of this reaches a name. What is accepted is a name up to the case of its
ASCII letters, with blanks around it.

## The one way in

Apart from the capital ASCII letters a single character has an ASCII letter for its lower case, the
Kelvin sign, and that letter is a `k`, which no name has. A character of a name (`isNameChar`) is
therefore any other small letter or a hyphen.

## Main statements

* `Text.lower_eq_iff`: what becomes a name in lower case.
* `Text.lower_trim_eq_iff`: what becomes a name in lower case without the blanks around it.
* `World.names_up_to_case`: which spellings the three readers of names accept.
-/

namespace LangServer

namespace Text

/-! ### Single characters -/

/-- The capital ASCII letters. -/
def asciiCapitals : CaseStretch := ⟨0x41, 0x5A, 1, 0x61⟩

/-- The Kelvin sign. -/
def kelvinSign : CaseStretch := ⟨0x212A, 0x212A, 1, 0x6B⟩

/-- Capital letters **beyond ASCII** have small letters beyond ASCII, but for the Kelvin sign. -/
theorem stretch_cases {s : CaseStretch} (h : s ∈ caseStretches) :
    s = asciiCapitals ∨ 0x80 ≤ s.first ∧ (0x80 ≤ s.small ∨ s = kelvinSign) := by
  have hall : caseStretches.all fun s =>
      s = asciiCapitals ∨ 0x80 ≤ s.first ∧ (0x80 ≤ s.small ∨ s = kelvinSign) := by
    decide +kernel
  exact of_decide_eq_true (List.all_eq_true.mp hall s h)

/-- The small letter of a code point beyond ASCII is **beyond ASCII or a `k`**. -/
theorem lowerCode_of_le {n : Nat} (h : 0x80 ≤ n) : 0x80 ≤ lowerCode n ∨ lowerCode n = 0x6B := by
  unfold lowerCode
  split
  next s hs =>
    have hcontains := List.find?_some hs
    rw [CaseStretch.contains, Bool.and_eq_true, Bool.and_eq_true] at hcontains
    obtain ⟨⟨hfirst, hlast⟩, -⟩ := hcontains
    rw [decide_eq_true_eq] at hfirst hlast
    rcases stretch_cases (List.mem_of_find?_eq_some hs) with rfl | ⟨-, hsmall | rfl⟩
    · simp only [asciiCapitals] at hlast
      omega
    · omega
    · simp only [kelvinSign] at hfirst hlast ⊢
      omega
  next => exact Or.inl h

/-- What holds of the first code points holds of the ASCII characters. -/
theorem forall_of_lt {P : Char → Prop} (h : ∀ n < 0x80, P (Char.ofNat n)) {c : Char}
    (hc : c.toNat < 0x80) : P c := by
  rw [← Char.ofNat_toNat c]
  exact h c.toNat hc

/-- In ASCII the lower case is the one of ASCII. -/
theorem lowerChar_of_lt {c : Char} (h : c.toNat < 0x80) : lowerChar c = [c.toLower] :=
  forall_of_lt (P := fun c => lowerChar c = [c.toLower]) (by decide +kernel) h

/-! ### Characters of names -/

/-- The **characters of names**: small letters other than `k`, and the hyphen. -/
def isNameChar (c : Char) : Bool :=
  c.isLower && c ≠ 'k' || c = '-'

/-- They are in ASCII. -/
theorem lt_of_isNameChar {c : Char} (h : isNameChar c) : c.toNat < 0x80 := by
  simp only [isNameChar, Bool.or_eq_true, Bool.and_eq_true, decide_eq_true_eq] at h
  rcases h with ⟨h, -⟩ | rfl
  · obtain ⟨-, hz⟩ := Bool.and_eq_true_iff.mp h
    have hle : c.toNat ≤ 'z'.toNat := of_decide_eq_true hz
    exact Nat.lt_of_le_of_lt hle (by decide)
  · decide

/-- A code point beyond ASCII is **no character of a name**, nor is one that there is not. -/
theorem not_isNameChar_ofNat {n : Nat} (h : 0x80 ≤ n) : isNameChar (Char.ofNat n) = false := by
  by_cases hvalid : n.isValidChar
  · have hchar : Char.ofNat n = Char.ofNatAux n hvalid := dif_pos hvalid
    rw [hchar, Bool.eq_false_iff]
    intro hname
    have hlt := lt_of_isNameChar hname
    have hcode : (Char.ofNatAux n hvalid).toNat = n := rfl
    omega
  · have hchar : Char.ofNat n = '\x00' := dif_neg hvalid
    rw [hchar]
    decide

/-- A character beyond ASCII does not become **characters of names** only. -/
theorem exists_not_isNameChar {c : Char} (h : 0x80 ≤ c.toNat) :
    ∃ d ∈ lowerChar c, isNameChar d = false := by
  rw [lowerChar]
  split
  · exact ⟨'\u0307', by simp, by decide⟩
  · refine ⟨_, List.mem_singleton_self _, ?_⟩
    rcases lowerCode_of_le h with hcode | hcode
    · exact not_isNameChar_ofNat hcode
    · rw [hcode]
      decide

/-- A character is in ASCII if its small ASCII letter is a character of a name. -/
theorem lt_of_isNameChar_toLower {c : Char} (h : isNameChar c.toLower) : c.toNat < 0x80 := by
  by_contra hge
  have hsame : c.toLower = c := by
    refine dif_neg ?_
    rintro ⟨-, hle⟩
    have hle : c.toNat ≤ 'Z'.toNat := hle
    exact hge (Nat.lt_of_le_of_lt hle (by decide))
  rw [hsame] at h
  exact hge (lt_of_isNameChar h)

/-! ### Texts -/

/-- In ASCII the lower case of a text is that of its characters, **whatever stands before it**. -/
theorem lowerFrom_of_forall_lt {t : Text} (h : ∀ c ∈ t, c.toNat < 0x80) (before : Text) :
    lowerFrom before t = t.map Char.toLower := by
  induction t generalizing before with
  | nil => rfl
  | cons c t ih =>
      obtain ⟨hc, ht⟩ := List.forall_mem_cons.mp h
      have hsigma : c ≠ 'Σ' := by
        rintro rfl
        exact absurd hc (by decide)
      rw [lowerFrom, ih ht, List.map_cons]
      simp only [hsigma, if_false, lowerChar_of_lt hc, List.singleton_append]

/-- A text whose lower case has only **characters of names** is in ASCII. -/
theorem forall_lt_of_lowerFrom {t before : Text} (h : ∀ d ∈ lowerFrom before t, isNameChar d) :
    ∀ c ∈ t, c.toNat < 0x80 := by
  induction t generalizing before with
  | nil => exact List.forall_mem_nil _
  | cons c t ih =>
      rw [lowerFrom] at h
      refine List.forall_mem_cons.mpr ⟨?_, ih fun d hd => h d (List.mem_append_right _ hd)⟩
      by_contra hge
      -- the sigma has two lower cases, and neither is a character of a name
      obtain ⟨d, hd, hname⟩ : ∃ d ∈ (if c = 'Σ' then
          if startsCased before && !startsCased t then ['ς'] else ['σ'] else lowerChar c),
          isNameChar d = false := by
        split
        · split
          · exact ⟨'ς', List.mem_singleton_self _, by decide⟩
          · exact ⟨'σ', List.mem_singleton_self _, by decide⟩
        · exact exists_not_isNameChar (Nat.le_of_not_lt hge)
      rw [h d (List.mem_append_left _ hd)] at hname
      cases hname

/-- **What becomes a name in lower case**: the name up to the case of ASCII letters. -/
theorem lower_eq_iff {name : Text} (hname : ∀ d ∈ name, isNameChar d) (t : Text) :
    lower t = name ↔ t.map Char.toLower = name := by
  have hascii : (lower t = name ∨ t.map Char.toLower = name) → ∀ c ∈ t, c.toNat < 0x80 := by
    rintro (rfl | rfl)
    · exact forall_lt_of_lowerFrom hname
    · intro c hc
      exact lt_of_isNameChar_toLower (hname _ (List.mem_map_of_mem hc))
  constructor
  · intro h
    rw [← h, lower, lowerFrom_of_forall_lt (hascii (Or.inl h))]
  · intro h
    rw [← h, lower, lowerFrom_of_forall_lt (hascii (Or.inr h))]

/-! ### Spellings -/

/-- A text **spells a name** if it is the name up to the case of ASCII letters, with blanks before
and after it or not. -/
def SpellsName (t name : Text) : Prop :=
  ∃ before core after, t = before ++ core ++ after ∧
    (∀ c ∈ before, isBlank c) ∧ (∀ c ∈ after, isBlank c) ∧
    core.map Char.toLower = name.map Char.toLower

/-- Trimming takes **blanks off the ends** and nothing else. -/
theorem exists_trim (t : Text) : ∃ before after, t = before ++ trim t ++ after ∧
    (∀ c ∈ before, isBlank c) ∧ ∀ c ∈ after, isBlank c := by
  refine ⟨t.takeWhile isBlank, (t.dropWhile isBlank).rtakeWhile isBlank, ?_, ?_, ?_⟩
  · have hright : trim t = (t.dropWhile isBlank).rdropWhile isBlank := rfl
    rw [hright, List.append_assoc, List.rdropWhile_append_rtakeWhile,
      List.takeWhile_append_dropWhile]
  · intro c hc
    exact List.mem_takeWhile_imp hc
  · intro c hc
    exact List.mem_rtakeWhile_imp hc

/-- It takes off **all of them**. -/
theorem trim_of_not_isBlank {before core after : Text} (hbefore : ∀ c ∈ before, isBlank c)
    (hcore : ∀ c ∈ core, isBlank c = false) (hafter : ∀ c ∈ after, isBlank c) :
    trim (before ++ core ++ after) = core := by
  have hright (t : Text) : trim t = (t.dropWhile isBlank).rdropWhile isBlank := rfl
  rw [hright, List.append_assoc, List.dropWhile_append_of_pos hbefore]
  cases core with
  | nil =>
      rw [List.nil_append, List.rdropWhile_eq_nil_iff]
      intro c hc
      exact hafter c ((List.dropWhile_suffix _).subset hc)
  | cons c core =>
      rw [List.cons_append, List.dropWhile_cons_of_neg (by simp [hcore c List.mem_cons_self]),
        List.rdropWhile, ← List.cons_append, List.reverse_append,
        List.dropWhile_append_of_pos (by simpa using hafter), List.dropWhile_eq_self_iff.mpr,
        List.reverse_reverse]
      intro hlength
      rw [Bool.not_eq_true]
      exact hcore _ (List.mem_reverse.mp (List.getElem_mem _))

/-- The characters of names are small letters already. -/
theorem toLower_of_isNameChar {c : Char} (h : isNameChar c) : c.toLower = c :=
  forall_of_lt (P := fun c => isNameChar c → c.toLower = c) (by decide) (lt_of_isNameChar h) h

/-- What becomes one of them is no blank. -/
theorem not_isBlank_of_isNameChar_toLower {c : Char} (h : isNameChar c.toLower) :
    isBlank c = false :=
  forall_of_lt (P := fun c => isNameChar c.toLower → isBlank c = false) (by decide)
    (lt_of_isNameChar_toLower h) h

/-- **What becomes a name** without the blanks around it and in lower case are the spellings of the
name. -/
theorem lower_trim_eq_iff {name : Text} (hname : ∀ d ∈ name, isNameChar d) (t : Text) :
    lower (trim t) = name ↔ SpellsName t name := by
  have hsame : name.map Char.toLower = name := by
    rw [List.map_congr_left fun d hd => toLower_of_isNameChar (hname d hd), List.map_id']
  rw [lower_eq_iff hname]
  constructor
  · intro h
    obtain ⟨before, after, ht, hbefore, hafter⟩ := exists_trim t
    exact ⟨before, trim t, after, ht, hbefore, hafter, h.trans hsame.symm⟩
  · rintro ⟨before, core, after, rfl, hbefore, hafter, hcore⟩
    rw [hsame] at hcore
    subst hcore
    rw [trim_of_not_isBlank hbefore _ hafter]
    intro c hc
    exact not_isBlank_of_isNameChar_toLower (hname _ (List.mem_map_of_mem hc))

/-- The text between the blanks around a name is **in ASCII**. -/
theorem SpellsName.forall_lt {t name : Text} (hname : ∀ d ∈ name, isNameChar d)
    (h : SpellsName t name) : ∀ c ∈ trim t, c.toNat < 0x80 := by
  have hlower := (lower_trim_eq_iff hname t).mpr h
  exact forall_lt_of_lowerFrom fun d hd => hname d (hlower ▸ hd)

/-- A name spells itself. -/
theorem spellsName_self (name : Text) : SpellsName name name :=
  ⟨[], name, [], by simp, by simp, by simp, rfl⟩

end Text

/-! ### Readers of names -/

/-- A reader **goes by names**, with some values that are known to it. -/
structure GoesByNames {α : Type} (known : α → Prop) (name : α → String)
    (read : String → Except SettingsError α) : Prop where
  /-- A value is read from the spellings of its name and from nothing else. -/
  spelling : ∀ s v, read s = .ok v ↔ known v ∧ Text.SpellsName s.toList (name v).toList
  /-- Nothing is read from a text that has a character beyond ASCII between the blanks around it. -/
  ascii : ∀ s, (∃ c ∈ Text.trim s.toList, 0x80 ≤ c.toNat) → ∃ e, read s = .error e
  again : ∀ s v, read s = .ok v → read (name v) = .ok v

/-- A reader goes by names if it compares the **plain form** of what it reads with them. -/
theorem GoesByNames.of_plainName {α : Type} {known : α → Prop} {name : α → String}
    {read : String → Except SettingsError α}
    (hname : ∀ v, known v → (name v).toList.all Text.isNameChar)
    (hread : ∀ s v, read s = .ok v ↔ known v ∧ plainName s = name v) :
    GoesByNames known name read := by
  have hchars {v : α} (hv : known v) : ∀ c ∈ (name v).toList, Text.isNameChar c :=
    List.all_eq_true.mp (hname v hv)
  have hspelling (s : String) (v : α) :
      read s = .ok v ↔ known v ∧ Text.SpellsName s.toList (name v).toList := by
    rw [hread, plainName]
    refine and_congr_right fun hv => ?_
    rw [← Text.lower_trim_eq_iff (hchars hv), String.ext_iff, String.toList_ofList]
  refine ⟨hspelling, ?_, ?_⟩
  · rintro s ⟨c, hc, hge⟩
    cases h : read s with
    | error e => exact ⟨e, rfl⟩
    | ok v =>
        obtain ⟨hv, hspells⟩ := (hspelling s v).mp h
        exact absurd (hspells.forall_lt (hchars hv) c hc) (Nat.not_lt.mpr hge)
  · intro s v h
    exact (hspelling (name v) v).mpr ⟨((hspelling s v).mp h).1, Text.spellsName_self _⟩

/-- A canonical name belongs to **one report policy** only. -/
theorem Report.ofCanonical?_eq_some_iff {s : String} {r : Report} :
    ofCanonical? s = some r ↔ s = r.name := by
  refine ⟨fun h => ?_, fun h => h ▸ ofCanonical?_name r⟩
  cases r <;> grind [ofCanonical?, name]

/-- A canonical name belongs to **one span policy** only. -/
theorem Span.ofCanonical?_eq_some_iff {s : String} {r : Span} :
    ofCanonical? s = some r ↔ s = r.name := by
  refine ⟨fun h => ?_, fun h => h ▸ ofCanonical?_name r⟩
  cases r <;> grind [ofCanonical?, name]

/-- Report policies go by names. -/
theorem Report.goesByNames_ofName : GoesByNames (fun _ => True) name ofName := by
  refine .of_plainName (fun r _ => by cases r <;> decide) fun s r => ?_
  rw [true_and, ← ofCanonical?_eq_some_iff, ofName]
  cases ofCanonical? (plainName s) <;> simp

/-- Span policies go by names. -/
theorem Span.goesByNames_ofName : GoesByNames (fun _ => True) name ofName := by
  refine .of_plainName (fun r _ => by cases r <;> decide) fun s r => ?_
  rw [true_and, ← ofCanonical?_eq_some_iff, ofName]
  cases ofCanonical? (plainName s) <;> simp

namespace World

/-- Log levels go by names. -/
theorem goesByNames_levelOfName :
    GoesByNames (· ∈ ["trace", "debug", "info", "warn", "error"]) id levelOfName := by
  refine .of_plainName ?_ fun s level => ?_
  · intro level hlevel
    have hall : ["trace", "debug", "info", "warn", "error"].all
        fun level => level.toList.all Text.isNameChar := by
      decide
    exact List.all_eq_true.mp hall level hlevel
  · rw [levelOfName, id_eq, ← Settings.checkLogLevel_eq_ok_iff]
    constructor
    · intro h
      obtain ⟨_, hcheck, rfl⟩ := Except.exists_of_map_eq_ok h
      exact ⟨hcheck, rfl⟩
    · rintro ⟨hcheck, rfl⟩
      rw [hcheck]
      rfl

/-- The **log level of the environment** decides over loading: if it is refused, so is everything,
and otherwise it is the log level of what is loaded. -/
theorem override_of_level {w : World} {s : String} (hs : w.text? "BUGLANG_LOG" = some s)
    (settings : Settings) :
    (∀ e, levelOfName s = .error e → w.override settings = .error e) ∧
      ∀ level settings', levelOfName s = .ok level → w.override settings = .ok settings' →
        settings'.log = some { level := some level } := by
  have hlevel : w.levelOverride = (levelOfName s).map some := by
    rw [text?] at hs
    rw [levelOverride_eq, readVariable, hs]
  refine ⟨fun e he => ?_, fun level settings' hok hload => ?_⟩
  · rw [override, hlevel, he]
    rfl
  · rw [override, hlevel, hok] at hload
    obtain ⟨level?, hlevel?, hload⟩ := Except.exists_of_bind_eq_ok hload
    obtain ⟨report, -, hload⟩ := Except.exists_of_bind_eq_ok hload
    obtain ⟨span, -, hload⟩ := Except.exists_of_bind_eq_ok hload
    rw [← Except.ok.inj hload, ← Except.ok.inj hlevel?, Settings.log_override]
    rfl

/-- **Names are matched up to the case of ASCII letters**, and up to nothing else but the blanks
around them. This goes for the two kinds of policies and for the log level. The log level is the one
that the environment sets: what the reader refuses is refused there, and what it gives is stored. -/
theorem names_up_to_case :
    GoesByNames (fun _ => True) Report.name Report.ofName ∧
    GoesByNames (fun _ => True) Span.name Span.ofName ∧
    GoesByNames (· ∈ ["trace", "debug", "info", "warn", "error"]) id levelOfName ∧
    ∀ (w : World) (s : String) (settings : Settings), w.text? "BUGLANG_LOG" = some s →
      (∀ e, levelOfName s = .error e → w.override settings = .error e) ∧
      ∀ level settings', levelOfName s = .ok level → w.override settings = .ok settings' →
        settings'.log = some { level := some level } :=
  ⟨Report.goesByNames_ofName, Span.goesByNames_ofName, goesByNames_levelOfName,
    fun _ _ settings hs => override_of_level hs settings⟩

/-- A world with a log level in the environment. -/
def worldLogging (level : String) : World where
  look _ := .absent
  environment name := if name = "BUGLANG_LOG" then some level.toUTF8 else none
  home := none

/-- Blanks beyond ASCII and capital letters make no difference; a dotted capital `İ`, a Kelvin sign
and a final sigma do. -/
theorem names_up_to_case_spellings :
    Report.ofName "\u2003FiRsT\u0085" = .ok .first ∧
    (∃ e, Report.ofName "f\u0130rst" = .error e) ∧
    (∃ e, Span.ofName "cursor\u03A3" = .error e) ∧
    (∃ e, (worldLogging "\u212A").override {} = .error e) ∧
    (∃ settings, (worldLogging " WaRN\n").override {} = .ok settings ∧
      settings.log = some { level := some "warn" }) ∧
    levelOfName "warn" = .ok "warn" := by
  obtain ⟨hreport, hspan, hlevel, hoverride⟩ := names_up_to_case
  have hfirst : Report.ofName "\u2003FiRsT\u0085" = .ok .first :=
    (hreport.spelling _ _).mpr ⟨trivial, ['\u2003'], "FiRsT".toList, ['\u0085'], by decide,
      List.forall_mem_singleton.mpr rfl, List.forall_mem_singleton.mpr rfl, by decide⟩
  have hwarn : levelOfName " WaRN\n" = .ok "warn" :=
    (hlevel.spelling _ _).mpr ⟨by decide, [' '], "WaRN".toList, ['\n'], by decide,
      List.forall_mem_singleton.mpr rfl, List.forall_mem_singleton.mpr rfl, by decide⟩
  refine ⟨hfirst, hreport.ascii _ ⟨'\u0130', by decide⟩, hspan.ascii _ ⟨'Σ', by decide⟩, ?_, ?_,
    hlevel.again _ _ hwarn⟩
  · obtain ⟨e, he⟩ := hlevel.ascii "\u212A" ⟨'\u212A', by decide⟩
    exact ⟨e, (hoverride _ _ {} rfl).1 e he⟩
  · obtain ⟨settings, hload⟩ : ∃ settings, (worldLogging " WaRN\n").override {} = .ok settings :=
      ⟨_, rfl⟩
    exact ⟨settings, hload, (hoverride _ _ {} rfl).2 _ _ hwarn hload⟩

end World

end LangServer
