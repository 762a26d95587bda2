import LangServer.Proofs.DistinctKeys
import LangServer.Proofs.LetterCase

/-!
# The Grammar of Settings

Which documents describe settings is said here as data: the sections, the fields of each section and
the type of each field (`Settings.grammar`). A document is at fault if it has a section or a field
that is not listed, or a value of another type than the one listed (`Settings.Fault`).

The readers of the five sections fit this grammar: each takes the fields that are there, in whatever
order, and accepts exactly those that are listed for the section, with values of their types.

## Conventions

A section is written as a table here and a policy as a string (`Settings.Plain`). Names and policies
are compared as they are written, with their case and with blanks.

## Main statements

* `Settings.lookup_eq_some_iff`: with distinct names a look-up finds what is there.
* `Settings.Reads`: how the values of a type are read.
* `Settings.Fits.one`, `Settings.Fits.two`: what the reader of a section accepts and takes.
-/

namespace LangServer

open Toml (Value names)

namespace Settings

/-! ### The grammar -/

/-- The **type** of a field. -/
inductive FieldType where
  | text
  | flag
  | choice (options : List String)
  deriving DecidableEq

/-- Whether a field of a type **admits** a value. -/
def FieldType.Admits : FieldType → Value → Prop
  | .text, .string _ => True
  | .flag, .boolean _ => True
  | .choice options, .string s => s ∈ options
  | _, _ => False

/-- A choice is written as a string. -/
def FieldType.Plain : FieldType → Value → Prop
  | .choice _, v => ∃ s, v = .string s
  | _, _ => True

/-- The **grammar** of settings: the sections, their fields and the types of these. -/
def grammar : List (String × List (String × FieldType)) :=
  [("server", [("source", .text), ("language_id", .text)]),
    ("diagnostics", [("enabled", .flag), ("report", .choice ["first", "all"])]),
    ("completion", [("enabled", .flag)]),
    ("hover", [("enabled", .flag), ("span", .choice ["first-occurrence", "cursor"])]),
    ("log", [("level", .text)])]

/-- A **fault** of a document against the grammar. -/
inductive Fault (root : List (String × Value)) : Prop
  | unknownSection {name : String} (hname : name ∈ names root) (hunknown : name ∉ names grammar)
  | unknownField {name field : String} {entries : List (String × Value)}
      {fields : List (String × FieldType)} (hsection : (name, .table entries) ∈ root)
      (hfields : (name, fields) ∈ grammar) (hfield : field ∈ names entries)
      (hunknown : field ∉ names fields)
  | wrongType {name field : String} {entries : List (String × Value)}
      {fields : List (String × FieldType)} {type : FieldType} {v : Value}
      (hsection : (name, .table entries) ∈ root) (hfields : (name, fields) ∈ grammar)
      (hfield : (field, v) ∈ entries) (htype : (field, type) ∈ fields) (hv : ¬ type.Admits v)

/-- The sections of a document are written as tables, and choices in them as strings. -/
structure Plain (root : List (String × Value)) : Prop where
  tables : ∀ name v, (name, v) ∈ root → name ∈ names grammar → ∃ entries, v = .table entries
  choices : ∀ name entries fields, (name, .table entries) ∈ root → (name, fields) ∈ grammar →
    ∀ e ∈ entries, ∀ type, (e.1, type) ∈ fields → type.Plain e.2

/-- Two documents have the **same sections and fields**, in whatever order. -/
structure SameDocument (root root' : List (String × Value)) : Prop where
  sections : ∀ name, name ∈ names root ↔ name ∈ names root'
  fields : ∀ name e, (∃ entries, (name, .table entries) ∈ root ∧ e ∈ entries) ↔
    ∃ entries, (name, .table entries) ∈ root' ∧ e ∈ entries

/-! ### Entries with distinct names -/

section Lookup

variable {α β : Type} {name : String}

/-- With distinct names a look-up finds **what is there**. -/
theorem lookup_eq_some_iff {es : List (String × β)} (h : (names es).Nodup) {v : β} :
    es.lookup name = some v ↔ (name, v) ∈ es := by
  induction es with
  | nil => simp
  | cons e es ih =>
      obtain ⟨hnew, hes⟩ := List.nodup_cons.mp h
      rw [List.lookup_cons, List.mem_cons]
      by_cases hname : name = e.1
      · subst hname
        rw [beq_self_eq_true]
        constructor
        · intro hv
          exact Or.inl (Prod.ext rfl (Option.some.inj hv).symm)
        · rintro (hv | hv)
          · exact congrArg some (congrArg Prod.snd hv).symm
          · exact absurd (List.mem_map_of_mem hv) hnew
      · rw [beq_eq_false_iff_ne.mpr hname]
        refine (ih hes).trans ⟨Or.inr, fun hv => hv.resolve_left fun heq => ?_⟩
        exact hname (congrArg Prod.fst heq)

/-- A look-up finds something if the name is there. -/
theorem lookup_eq_none_iff {es : List (String × β)} :
    es.lookup name = none ↔ name ∉ names es := by
  rw [List.lookup_eq_none_iff, names, List.mem_map]
  constructor
  · rintro h ⟨e, he, rfl⟩
    exact bne_iff_ne.mp (h e he) rfl
  · intro h e he
    exact bne_iff_ne.mpr fun heq => h ⟨e, he, heq.symm⟩

/-- What is put in front is there, and the rest. -/
theorem mem_consIfSet {f : α → β} {o : Option α} {rest : List (String × β)} {e : String × β} :
    e ∈ consIfSet name f o rest ↔ (∃ a, o = some a ∧ e = (name, f a)) ∨ e ∈ rest := by
  cases o with
  | none => simp [consIfSet]
  | some v => simp [consIfSet]

/-- Two lists of entries with distinct names, some of which are known, are **the same** if their
names are known and a look-up of a known name gives the same. -/
theorem forall_mem_iff_lookup {known : List String} {es es' : List (String × β)}
    (hes : (names es).Nodup) (hes' : (names es').Nodup) (hknown : ∀ n ∈ names es', n ∈ known) :
    (∀ e, e ∈ es ↔ e ∈ es') ↔
      (∀ e ∈ es, e.1 ∈ known) ∧ ∀ n ∈ known, es.lookup n = es'.lookup n := by
  constructor
  · intro h
    refine ⟨fun e he => hknown _ (List.mem_map_of_mem ((h e).mp he)), fun n _ => ?_⟩
    refine Option.ext fun v => ?_
    rw [lookup_eq_some_iff hes, lookup_eq_some_iff hes', h]
  · rintro ⟨hall, hlookup⟩ ⟨n, v⟩
    constructor
    · intro he
      have hsame := hlookup n (hall _ he)
      rw [(lookup_eq_some_iff hes).mpr he] at hsame
      exact (lookup_eq_some_iff hes').mp hsame.symm
    · intro he
      have hsame := hlookup n (hknown n (List.mem_map_of_mem he))
      rw [(lookup_eq_some_iff hes').mpr he] at hsame
      exact (lookup_eq_some_iff hes).mp hsame

end Lookup

/-! ### Fields -/

/-- A field of a type is **read and written** in one way, as long as choices are strings. -/
structure Reads {α : Type} (type : FieldType) (read : Value → Option α) (write : α → Value) :
    Prop where
  /-- What is read from a value is what the value is written for. -/
  read_eq : ∀ v, type.Plain v → ∀ a, read v = some a ↔ v = write a
  /-- The values of the type are those that are written. -/
  admits : ∀ v, type.Admits v ↔ ∃ a, v = write a

/-- Strings are read as they are. -/
theorem reads_text : Reads .text string? .string := by
  refine ⟨fun v _ a => ?_, fun v => ?_⟩ <;> cases v <;> simp [string?, FieldType.Admits]

/-- So are truth values. -/
theorem reads_flag : Reads .flag boolean? .boolean := by
  refine ⟨fun v _ a => ?_, fun v => ?_⟩ <;> cases v <;> simp [boolean?, FieldType.Admits]

/-- A **choice** is read from the name of one of the options. -/
theorem reads_choice {α : Type} {options : List String} {ofName? : String → Option α}
    {name : α → String} (hname : ∀ s a, ofName? s = some a ↔ s = name a)
    (hoptions : ∀ s, s ∈ options ↔ ∃ a, s = name a) :
    Reads (.choice options) (fun v => (choice? v).bind ofName?) fun a => .string (name a) := by
  constructor
  · rintro v ⟨s, rfl⟩ a
    simpa [choice?] using hname s a
  · intro v
    cases v with
    | string s => simpa [FieldType.Admits] using hoptions s
    | _ => simp [FieldType.Admits]

/-- The report policy is read from its canonical name. -/
theorem reads_report : Reads (.choice ["first", "all"])
    (fun v => (choice? v).bind Report.ofCanonical?) fun r => .string r.name := by
  refine reads_choice (fun s r => Report.ofCanonical?_eq_some_iff) fun s => ⟨?_, ?_⟩
  · intro hs
    rcases List.mem_pair.mp hs with rfl | rfl
    · exact ⟨.first, rfl⟩
    · exact ⟨.all, rfl⟩
  · rintro ⟨r, rfl⟩
    cases r <;> decide

/-- So is the span policy. -/
theorem reads_span : Reads (.choice ["first-occurrence", "cursor"])
    (fun v => (choice? v).bind Span.ofCanonical?) fun r => .string r.name := by
  refine reads_choice (fun s r => Span.ofCanonical?_eq_some_iff) fun s => ⟨?_, ?_⟩
  · intro hs
    rcases List.mem_pair.mp hs with rfl | rfl
    · exact ⟨.firstOccurrence, rfl⟩
    · exact ⟨.cursor, rfl⟩
  · rintro ⟨r, rfl⟩
    cases r <;> decide

/-! ### Sections -/

/-- The reader of a section **fits** the grammar: it takes what is written for the section, and what
is written are the fields of the grammar with values of their types. -/
structure Fits {σ : Type} (fields : List (String × FieldType)) (read : Value → Option σ)
    (write : σ → List (String × Value)) : Prop where
  /-- What is read is what is there, in whatever order. -/
  read_eq : ∀ entries, (names entries).Nodup →
    (∀ e ∈ entries, ∀ type, (e.1, type) ∈ fields → type.Plain e.2) →
    ∀ s, read (.table entries) = some s ↔ ∀ e, e ∈ entries ↔ e ∈ write s
  /-- Something can be read exactly if fields and types are those of the grammar. -/
  admits : ∀ entries, (names entries).Nodup →
    ((∃ s, ∀ e, e ∈ entries ↔ e ∈ write s) ↔
      ∀ e ∈ entries, ∃ type, (e.1, type) ∈ fields ∧ type.Admits e.2)

/-- It is enough to know what is looked up. -/
theorem Fits.of_lookup {σ : Type} {fields : List (String × FieldType)} {read : Value → Option σ}
    {write : σ → List (String × Value)} (hfields : (names fields).Nodup)
    (hnames : ∀ s, (names (write s)).Sublist (names fields))
    (hread : ∀ entries, (names entries).Nodup →
      (∀ e ∈ entries, ∀ type, (e.1, type) ∈ fields → type.Plain e.2) →
      ∀ s, read (.table entries) = some s ↔ (∀ e ∈ entries, e.1 ∈ names fields) ∧
        ∀ n ∈ names fields, entries.lookup n = (write s).lookup n)
    (hwrite : ∀ s, ∀ e ∈ write s, ∃ type, (e.1, type) ∈ fields ∧ type.Admits e.2)
    (hexists : ∀ entries, (names entries).Nodup →
      (∀ e ∈ entries, ∃ type, (e.1, type) ∈ fields ∧ type.Admits e.2) →
      ∃ s, ∀ n ∈ names fields, entries.lookup n = (write s).lookup n) :
    Fits fields read write := by
  have hsame {entries : List (String × Value)} (hentries : (names entries).Nodup) (s : σ) :
      (∀ e, e ∈ entries ↔ e ∈ write s) ↔ (∀ e ∈ entries, e.1 ∈ names fields) ∧
        ∀ n ∈ names fields, entries.lookup n = (write s).lookup n :=
    forall_mem_iff_lookup hentries ((hnames s).nodup hfields) fun n hn => (hnames s).subset hn
  constructor
  · intro entries hentries hplain s
    rw [hread entries hentries hplain, hsame hentries]
  · intro entries hentries
    constructor
    · rintro ⟨s, hs⟩ e he
      exact hwrite s e ((hs e).mp he)
    · intro hadmits
      obtain ⟨s, hs⟩ := hexists entries hentries hadmits
      refine ⟨s, (hsame hentries s).mpr ⟨fun e he => ?_, hs⟩⟩
      obtain ⟨type, htype, -⟩ := hadmits e he
      exact List.mem_map_of_mem htype

section Reads

variable {α : Type} {type : FieldType} {read : Value → Option α} {write : α → Value}
  {name : String} {es : List (String × Value)}

/-- A field is read as what is **written for it**. -/
theorem Reads.readField_eq_some_iff (h : Reads type read write) (hes : (names es).Nodup)
    (hplain : ∀ v, (name, v) ∈ es → type.Plain v) {o : Option α} :
    readField es name read = some o ↔ es.lookup name = o.map write := by
  rw [readField]
  cases hv : es.lookup name with
  | none => cases o <;> simp
  | some v =>
      have hread := h.read_eq v (hplain v ((lookup_eq_some_iff hes).mp hv))
      cases o with
      | none => simp
      | some a => simpa using hread a

/-- A field that has a value of its type, if it is there, **can be read**. -/
theorem Reads.exists_lookup (h : Reads type read write) (hes : (names es).Nodup)
    (hadmits : ∀ v, (name, v) ∈ es → type.Admits v) :
    ∃ o : Option α, es.lookup name = o.map write := by
  cases hv : es.lookup name with
  | none => exact ⟨none, rfl⟩
  | some v =>
      obtain ⟨a, rfl⟩ := (h.admits v).mp (hadmits v ((lookup_eq_some_iff hes).mp hv))
      exact ⟨some a, rfl⟩

end Reads

/-- The fields of a table can be read if their names are known. -/
theorem fields?_eq_some_iff {known : List String} {entries fields : List (String × Value)} :
    fields? known (.table entries) = some fields ↔
      (∀ e ∈ entries, e.1 ∈ known) ∧ entries = fields := by
  rw [fields?, Option.ite_none_right_eq_some, List.all_eq_true]
  simp only [decide_eq_true_eq, Option.some.injEq]

/-- **A section with one field.** -/
theorem Fits.one {α σ : Type} {name : String} {type : FieldType} {read : Value → Option α}
    {write : α → Value} (h : Reads type read write) (make : Option α → σ) (get : σ → Option α)
    (hmake : ∀ s, make (get s) = s) (hget : ∀ a, get (make a) = a) :
    Fits [(name, type)]
      (fun v => do
        let fields ← fields? [name] v
        let a ← readField fields name read
        return make a)
      (fun s => consIfSet name write (get s) []) := by
  have hlookup (s : σ) : (consIfSet name write (get s) []).lookup name = (get s).map write := by
    simp
  refine .of_lookup (List.nodup_singleton _) (fun s => names_consIfSet (List.nil_sublist _))
    ?_ ?_ ?_
  · intro entries hentries hplain s
    have hfield {o : Option α} := h.readField_eq_some_iff (o := o) hentries fun v hv =>
      hplain (name, v) hv type List.mem_cons_self
    constructor
    · intro hs
      obtain ⟨fields, hfields, hs⟩ := Option.bind_eq_some_iff.mp hs
      obtain ⟨hknown, rfl⟩ := fields?_eq_some_iff.mp hfields
      obtain ⟨a, ha, hs⟩ := Option.bind_eq_some_iff.mp hs
      obtain rfl := Option.some.inj hs
      refine ⟨hknown, List.forall_mem_singleton.mpr ?_⟩
      rw [hlookup, hget]
      exact hfield.mp ha
    · rintro ⟨hknown, hs⟩
      have ha := List.forall_mem_singleton.mp hs
      rw [hlookup] at ha
      refine Option.bind_eq_some_iff.mpr ⟨entries, fields?_eq_some_iff.mpr ⟨hknown, rfl⟩, ?_⟩
      exact Option.bind_eq_some_iff.mpr ⟨get s, hfield.mpr ha, congrArg some (hmake s)⟩
  · intro s e he
    rcases mem_consIfSet.mp he with ⟨a, -, rfl⟩ | he
    · exact ⟨type, List.mem_cons_self, (h.admits _).mpr ⟨a, rfl⟩⟩
    · cases he
  · intro entries hentries hadmits
    have hvalue (v : Value) (hv : (name, v) ∈ entries) : type.Admits v := by
      obtain ⟨type', htype, hadmit⟩ := hadmits _ hv
      obtain rfl := (Prod.mk.inj (List.mem_singleton.mp htype)).2
      exact hadmit
    obtain ⟨o, ho⟩ := h.exists_lookup hentries hvalue
    refine ⟨make o, List.forall_mem_singleton.mpr ?_⟩
    rw [hlookup, hget]
    exact ho

/-- **A section with two fields.** -/
theorem Fits.two {α β σ : Type} {name name' : String} (hne : name ≠ name')
    {type type' : FieldType} {read : Value → Option α} {read' : Value → Option β}
    {write : α → Value} {write' : β → Value} (h : Reads type read write)
    (h' : Reads type' read' write') (make : Option α → Option β → σ) (get : σ → Option α)
    (get' : σ → Option β) (hmake : ∀ s, make (get s) (get' s) = s)
    (hget : ∀ a b, get (make a b) = a) (hget' : ∀ a b, get' (make a b) = b) :
    Fits [(name, type), (name', type')]
      (fun v => do
        let fields ← fields? [name, name'] v
        let a ← readField fields name read
        let b ← readField fields name' read'
        return make a b)
      (fun s => consIfSet name write (get s) (consIfSet name' write' (get' s) [])) := by
  have hlookup (s : σ) : (consIfSet name write (get s) (consIfSet name' write' (get' s) [])).lookup
      name = (get s).map write := by
    simp [hne]
  have hlookup' (s : σ) : (consIfSet name write (get s) (consIfSet name' write' (get' s) [])).lookup
      name' = (get' s).map write' := by
    simp [hne.symm]
  refine .of_lookup ?_ (fun s => names_consIfSet (names_consIfSet (List.nil_sublist _))) ?_ ?_ ?_
  · exact List.nodup_cons.mpr ⟨mt List.mem_singleton.mp hne, List.nodup_singleton _⟩
  · intro entries hentries hplain s
    have hfield {o : Option α} := h.readField_eq_some_iff (o := o) hentries fun v hv =>
      hplain (name, v) hv type List.mem_cons_self
    have hfield' {o : Option β} := h'.readField_eq_some_iff (o := o) hentries fun v hv =>
      hplain (name', v) hv type' (List.mem_cons_of_mem _ List.mem_cons_self)
    constructor
    · intro hs
      obtain ⟨fields, hfields, hs⟩ := Option.bind_eq_some_iff.mp hs
      obtain ⟨hknown, rfl⟩ := fields?_eq_some_iff.mp hfields
      obtain ⟨a, ha, hs⟩ := Option.bind_eq_some_iff.mp hs
      obtain ⟨b, hb, hs⟩ := Option.bind_eq_some_iff.mp hs
      obtain rfl := Option.some.inj hs
      refine ⟨hknown, List.forall_mem_cons.mpr ⟨?_, List.forall_mem_singleton.mpr ?_⟩⟩
      · rw [hlookup, hget]
        exact hfield.mp ha
      · rw [hlookup', hget']
        exact hfield'.mp hb
    · rintro ⟨hknown, hs⟩
      obtain ⟨ha, hs⟩ := List.forall_mem_cons.mp hs
      have hb := List.forall_mem_singleton.mp hs
      rw [hlookup] at ha
      rw [hlookup'] at hb
      refine Option.bind_eq_some_iff.mpr ⟨entries, fields?_eq_some_iff.mpr ⟨hknown, rfl⟩, ?_⟩
      refine Option.bind_eq_some_iff.mpr ⟨get s, hfield.mpr ha, ?_⟩
      exact Option.bind_eq_some_iff.mpr ⟨get' s, hfield'.mpr hb, congrArg some (hmake s)⟩
  · intro s e he
    rcases mem_consIfSet.mp he with ⟨a, -, rfl⟩ | he
    · exact ⟨type, List.mem_cons_self, (h.admits _).mpr ⟨a, rfl⟩⟩
    · rcases mem_consIfSet.mp he with ⟨b, -, rfl⟩ | he
      · exact ⟨type', List.mem_cons_of_mem _ List.mem_cons_self, (h'.admits _).mpr ⟨b, rfl⟩⟩
      · cases he
  · intro entries hentries hadmits
    have hvalue (v : Value) (hv : (name, v) ∈ entries) : type.Admits v := by
      obtain ⟨t, htype, hadmit⟩ := hadmits _ hv
      rcases List.mem_pair.mp htype with heq | heq
      · obtain rfl := (Prod.mk.inj heq).2
        exact hadmit
      · exact absurd (Prod.mk.inj heq).1 hne
    have hvalue' (v : Value) (hv : (name', v) ∈ entries) : type'.Admits v := by
      obtain ⟨t, htype, hadmit⟩ := hadmits _ hv
      rcases List.mem_pair.mp htype with heq | heq
      · exact absurd (Prod.mk.inj heq).1 hne.symm
      · obtain rfl := (Prod.mk.inj heq).2
        exact hadmit
    obtain ⟨a, ha⟩ := h.exists_lookup hentries hvalue
    obtain ⟨b, hb⟩ := h'.exists_lookup hentries hvalue'
    refine ⟨make a b, List.forall_mem_cons.mpr ⟨?_, List.forall_mem_singleton.mpr ?_⟩⟩
    · rw [hlookup, hget]
      exact ha
    · rw [hlookup', hget']
      exact hb

/-! ### The five sections

Each section has one field or two, and is what its fields are. -/

theorem fits_server :
    Fits [("source", .text), ("language_id", .text)] server? serverFields :=
  .two (by decide) reads_text reads_text ServerSection.mk ServerSection.source
    ServerSection.languageId (fun _ => rfl) (fun _ _ => rfl) fun _ _ => rfl

theorem fits_diagnostics :
    Fits [("enabled", .flag), ("report", .choice ["first", "all"])] diagnostics?
      diagnosticsFields :=
  .two (by decide) reads_flag reads_report DiagnosticsSection.mk DiagnosticsSection.enabled
    DiagnosticsSection.report (fun _ => rfl) (fun _ _ => rfl) fun _ _ => rfl

theorem fits_completion : Fits [("enabled", .flag)] completion? completionFields :=
  .one reads_flag CompletionSection.mk CompletionSection.enabled (fun _ => rfl) fun _ => rfl

theorem fits_hover :
    Fits [("enabled", .flag), ("span", .choice ["first-occurrence", "cursor"])] hover?
      hoverFields :=
  .two (by decide) reads_flag reads_span HoverSection.mk HoverSection.enabled HoverSection.span
    (fun _ => rfl) (fun _ _ => rfl) fun _ _ => rfl

theorem fits_log : Fits [("level", .text)] log? logFields :=
  .one reads_text LogSection.mk LogSection.level (fun _ => rfl) fun _ => rfl

end Settings

end LangServer
