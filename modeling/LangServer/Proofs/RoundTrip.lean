import LangServer.Loader
import LangServer.Proofs.Spelling
import LangServer.Settings.Printer

/-!
# Settings Files and Back

What a settings file says is what was written into it. The sections and fields that are present are
listed in a fixed order (`Settings.sections`), and a text for them has a header for each section and
a line for each field (`Settings.WrittenAs`). Reading a file that holds such a text gives the
settings back, absent sections and fields and empty sections included, if they are valid, and the
error of the check if they are not.

The way back has three stages, which are treated one after the other: from the text to its
statements (`Toml.parse?_of_spellsDocument`), from the statements to the tree, and from the tree to
the settings.

## Main statements

* `Toml.build?_listing`: the tree of some sections, each with its fields.
* `Settings.ofToml?_tree`: the tree of the sections of settings describes the settings.
* `Settings.writtenAs_render`: the writer of settings writes such a text.
* `World.readSettings_written`: reading gives back what was written.
-/

namespace LangServer

/-! ### Trees of sections -/

namespace Toml

/-- The assignments of some fields. -/
def assignments (fields : List (String × Value)) : List Statement :=
  fields.map fun f => .assignment [] f.1 f.2

/-- The statements of some **sections**: the header of each one, followed by its fields. -/
def listing (sections : List (String × List (String × Value))) : List Statement :=
  sections.flatMap fun s => .header [] s.1 :: assignments s.2

/-- The names that some entries have. -/
abbrev names {α : Type} (entries : List (String × α)) : List String :=
  entries.map (·.1)

/-- A change of a name passes over the entries of other names. -/
theorem Entries.update_append {name : String} {es : Entries} (h : name ∉ names es)
    (f : Option Node → Option Node) (rest : Entries) :
    update name f (es ++ rest) = (update name f rest).map (es ++ ·) := by
  induction es with
  | nil => simp
  | cons e es ih =>
      obtain ⟨hne, hes⟩ := not_or.mp (mt List.mem_cons.mpr h)
      rw [List.cons_append, update, if_neg (Ne.symm hne), ih hes, Option.map_map]
      rfl

/-- A name that is **not yet there** is put at the end. -/
theorem Entries.update_new {name : String} {es : Entries} (h : name ∉ names es)
    (f : Option Node → Option Node) :
    update name f es = (f none).map fun n => es ++ [(name, n)] := by
  have happend := update_append h f []
  rw [List.append_nil, update, Option.map_map] at happend
  exact happend

/-- The entry that was put at the end **last** is found again. -/
theorem Entries.update_last {name : String} {es : Entries} (h : name ∉ names es)
    (f : Option Node → Option Node) (n : Node) :
    update name f (es ++ [(name, n)]) = (f (some n)).map fun n => es ++ [(name, n)] := by
  rw [update_append h, update, if_pos rfl, Option.map_map]
  rfl

/-- Some fields as parts of a tree. -/
def leaves (fields : List (String × Value)) : Entries :=
  fields.map fun f => (f.1, .leaf f.2)

/-- Some sections as parts of a tree. -/
def sectionNodes (sections : List (String × List (String × Value))) : Entries :=
  sections.map fun s => (s.1, .table .header (leaves s.2))

/-- A new field is put at the end of the others. -/
theorem insertNew_leaves {before : List (String × Value)} {f : String × Value}
    (h : f.1 ∉ names before) :
    (leaves before).insertNew f.1 f.2 = some (leaves (before ++ [f])) := by
  have hkeys : names (leaves before) = names before := by simp [names, leaves]
  rw [Entries.insertNew, Entries.update_new (hkeys ▸ h), leaves, leaves, List.map_append]
  rfl

/-- **Assignments** go to the section that was opened last. -/
theorem foldlM_assignments {name : String} {es : Entries} (hname : name ∉ names es)
    {before fields : List (String × Value)} (hfields : (names (before ++ fields)).Nodup) :
    (assignments fields).foldlM Builder.add
        ⟨es ++ [(name, .table .header (leaves before))], [name]⟩ =
      some ⟨es ++ [(name, .table .header (leaves (before ++ fields)))], [name]⟩ := by
  induction fields generalizing before with
  | nil => rw [List.append_nil]; rfl
  | cons f fields ih =>
      have hnew : f.1 ∉ names before := by
        intro hmem
        rw [names, List.map_append, List.nodup_append] at hfields
        exact hfields.2.2 _ hmem _ List.mem_cons_self rfl
      -- the section is the last entry, and the field goes to its end
      have hstep : Builder.add ⟨es ++ [(name, .table .header (leaves before))], [name]⟩
          (.assignment [] f.1 f.2) =
          some ⟨es ++ [(name, .table .header (leaves (before ++ [f])))], [name]⟩ := by
        rw [Builder.add, Entries.descend, Entries.update_last hname]
        simp [Entries.descend, Entries.assign, insertNew_leaves hnew]
      rw [List.append_cons] at hfields
      rw [List.append_cons before, ← ih hfields, assignments, List.map_cons, List.foldlM_cons,
        hstep]
      rfl

/-- **Sections** are put one after the other. -/
theorem foldlM_listing {es : Entries} {sections : List (String × List (String × Value))}
    (hnames : (names es ++ names sections).Nodup)
    (hfields : ∀ s ∈ sections, (names s.2).Nodup) (path : List String) :
    ∃ current, (listing sections).foldlM Builder.add ⟨es, path⟩ =
      some ⟨es ++ sectionNodes sections, current⟩ := by
  induction sections generalizing es path with
  | nil => exact ⟨path, by rw [sectionNodes, List.map_nil, List.append_nil]; rfl⟩
  | cons s sections ih =>
      have hnew : s.1 ∉ names es := fun hmem =>
        (List.nodup_append.mp hnames).2.2 _ hmem _ List.mem_cons_self rfl
      have hopen : Builder.add ⟨es, path⟩ (.header [] s.1) =
          some ⟨es ++ [(s.1, .table .header (leaves []))], [s.1]⟩ := by
        rw [Builder.add, Entries.descend, Entries.openTable, Entries.update_new hnew]
        rfl
      have hfold : (assignments s.2).foldlM Builder.add
          ⟨es ++ [(s.1, .table .header (leaves []))], [s.1]⟩ =
          some ⟨es ++ [(s.1, .table .header (leaves s.2))], [s.1]⟩ :=
        foldlM_assignments hnew (hfields s List.mem_cons_self)
      have hrest :
          (names (es ++ [(s.1, .table .header (leaves s.2))]) ++ names sections).Nodup := by
        simpa [names] using hnames
      obtain ⟨current, hcurrent⟩ :=
        ih hrest (fun t ht => hfields t (List.mem_cons_of_mem _ ht)) [s.1]
      refine ⟨current, ?_⟩
      rw [List.append_assoc] at hcurrent
      rw [listing, List.flatMap_cons, List.cons_append, List.foldlM_cons, hopen]
      simp only [Option.bind_eq_bind, Option.bind_some, List.foldlM_append, hfold]
      exact hcurrent

/-- Fields come out of the tree as they were put in. -/
theorem entriesToValues_leaves (fields : List (String × Value)) :
    entriesToValues (leaves fields) = fields := by
  induction fields with
  | nil => rfl
  | cons f fields ih =>
      rw [leaves, List.map_cons, ← leaves, entriesToValues, ih]
      rfl

/-- Sections come out of the tree as tables of their fields. -/
theorem entriesToValues_sectionNodes (sections : List (String × List (String × Value))) :
    entriesToValues (sectionNodes sections) = sections.map fun s => (s.1, .table s.2) := by
  induction sections with
  | nil => rfl
  | cons s sections ih =>
      rw [sectionNodes, List.map_cons, ← sectionNodes, entriesToValues, ih, Node.toValue,
        entriesToValues_leaves]
      rfl

/-- The **tree of some sections** that have different names, each with fields that do. -/
theorem build?_listing {sections : List (String × List (String × Value))}
    (hnames : (names sections).Nodup) (hfields : ∀ s ∈ sections, (names s.2).Nodup) :
    build? (listing sections) = some (.table (sections.map fun s => (s.1, .table s.2))) := by
  have hempty : (names ([] : Entries) ++ names sections).Nodup := hnames
  obtain ⟨current, hcurrent⟩ := foldlM_listing hempty hfields []
  rw [build?, hcurrent, Option.map_some, List.nil_append, entriesToValues_sectionNodes]

/-- It is read from any text for them. -/
theorem parse?_of_listing {sections : List (String × List (String × Value))} {t : Text}
    (h : SpellsDocument (listing sections) t) (hnames : (names sections).Nodup)
    (hfields : ∀ s ∈ sections, (names s.2).Nodup) :
    parse? t = some (.table (sections.map fun s => (s.1, .table s.2))) := by
  rw [parse?_of_spellsDocument h, build?_listing hnames hfields]

end Toml

/-! ### What is present -/

namespace Settings

open Toml (Value names assignments listing Spells SpellsChar SpellsText SpellsDocument)

/-- Puts something under its name in front of other things, if it is there. -/
def consIfSet {α β : Type} (name : String) (f : α → β) (o : Option α) (rest : List (String × β)) :
    List (String × β) :=
  match o with
  | none => rest
  | some v => (name, f v) :: rest

/-- The fields of the section `server` that are present. -/
def serverFields (s : ServerSection) : List (String × Value) :=
  consIfSet "source" .string s.source <|
  consIfSet "language_id" .string s.languageId []

/-- The fields of the section `diagnostics` that are present; a policy goes by its name. -/
def diagnosticsFields (s : DiagnosticsSection) : List (String × Value) :=
  consIfSet "enabled" .boolean s.enabled <|
  consIfSet "report" (fun r => .string r.name) s.report []

/-- The fields of the section `completion` that are present. -/
def completionFields (s : CompletionSection) : List (String × Value) :=
  consIfSet "enabled" .boolean s.enabled []

/-- The fields of the section `hover` that are present; a policy goes by its name. -/
def hoverFields (s : HoverSection) : List (String × Value) :=
  consIfSet "enabled" .boolean s.enabled <|
  consIfSet "span" (fun r => .string r.name) s.span []

/-- The fields of the section `log` that are present. -/
def logFields (s : LogSection) : List (String × Value) :=
  consIfSet "level" .string s.level []

/-- The **sections** that are present, each with its fields that are. -/
def sections (s : Settings) : List (String × List (String × Value)) :=
  consIfSet "server" serverFields s.server <|
  consIfSet "diagnostics" diagnosticsFields s.diagnostics <|
  consIfSet "completion" completionFields s.completion <|
  consIfSet "hover" hoverFields s.hover <|
  consIfSet "log" logFields s.log []

section Entries

variable {α β : Type} {name : String} {o : Option α}

/-- What is looked up is the entry of that name, or lies behind it. -/
@[simp]
theorem lookup_consIfSet (f : α → β) (key : String) (rest : List (String × β)) :
    (consIfSet name f o rest).lookup key =
      if key = name then (o.map f).or (rest.lookup key) else rest.lookup key := by
  cases o with
  | none => simp [consIfSet]
  | some v =>
      by_cases h : key = name
      · simp [consIfSet, h]
      · simp [consIfSet, List.lookup_cons, beq_eq_false_iff_ne.mpr h, h]

/-- There is at most one more name. -/
theorem names_consIfSet {f : α → β} {rest : List (String × β)} {known : List String}
    (h : (names rest).Sublist known) :
    (names (consIfSet name f o rest)).Sublist (name :: known) := by
  cases o with
  | none => exact h.cons name
  | some v => exact h.cons_cons name

/-- A field is read as it was written. -/
theorem readField_of_lookup {fields : List (String × Value)} {read : Value → Option α}
    (write : α → Value) (hread : ∀ v, read (write v) = some v)
    (hlookup : fields.lookup name = o.map write) : readField fields name read = some o := by
  rw [readField, hlookup]
  cases o with
  | none => rfl
  | some v => simp [hread]

end Entries

/-- A table that has only known names is read as a record. -/
theorem fields?_table {known : List String} {entries : List (String × Value)}
    (h : (names entries).Sublist known) : fields? known (.table entries) = some entries := by
  rw [fields?, if_pos]
  rw [List.all_eq_true]
  intro e he
  exact decide_eq_true (h.subset (List.mem_map_of_mem he))

/-! ### From the tree to the settings

Each section is read back from the table of its fields. That the fields have different names, and
known ones, follows from the list of all names in their order. -/

theorem names_serverFields (s : ServerSection) :
    (names (serverFields s)).Sublist ["source", "language_id"] :=
  names_consIfSet (names_consIfSet (List.nil_sublist _))

theorem names_diagnosticsFields (s : DiagnosticsSection) :
    (names (diagnosticsFields s)).Sublist ["enabled", "report"] :=
  names_consIfSet (names_consIfSet (List.nil_sublist _))

theorem names_completionFields (s : CompletionSection) :
    (names (completionFields s)).Sublist ["enabled"] :=
  names_consIfSet (List.nil_sublist _)

theorem names_hoverFields (s : HoverSection) :
    (names (hoverFields s)).Sublist ["enabled", "span"] :=
  names_consIfSet (names_consIfSet (List.nil_sublist _))

theorem names_logFields (s : LogSection) : (names (logFields s)).Sublist ["level"] :=
  names_consIfSet (List.nil_sublist _)

theorem names_sections (s : Settings) :
    (names s.sections).Sublist ["server", "diagnostics", "completion", "hover", "log"] :=
  names_consIfSet <| names_consIfSet <| names_consIfSet <| names_consIfSet <|
    names_consIfSet (List.nil_sublist _)

theorem server?_serverFields (s : ServerSection) : server? (.table (serverFields s)) = some s := by
  have hsource : readField (serverFields s) "source" string? = some s.source :=
    readField_of_lookup Value.string (fun _ => rfl) (by simp [serverFields])
  have hlanguage : readField (serverFields s) "language_id" string? = some s.languageId :=
    readField_of_lookup Value.string (fun _ => rfl) (by simp [serverFields])
  simp [server?, fields?_table (names_serverFields s), hsource, hlanguage]

theorem diagnostics?_diagnosticsFields (s : DiagnosticsSection) :
    diagnostics? (.table (diagnosticsFields s)) = some s := by
  have henabled : readField (diagnosticsFields s) "enabled" boolean? = some s.enabled :=
    readField_of_lookup Value.boolean (fun _ => rfl) (by simp [diagnosticsFields])
  have hreport : readField (diagnosticsFields s) "report"
      (fun v => (choice? v).bind Report.ofCanonical?) = some s.report :=
    readField_of_lookup (fun r => .string r.name) Report.ofCanonical?_name
      (by simp [diagnosticsFields])
  simp [diagnostics?, fields?_table (names_diagnosticsFields s), henabled, hreport]

theorem completion?_completionFields (s : CompletionSection) :
    completion? (.table (completionFields s)) = some s := by
  have henabled : readField (completionFields s) "enabled" boolean? = some s.enabled :=
    readField_of_lookup Value.boolean (fun _ => rfl) (by simp [completionFields])
  simp [completion?, fields?_table (names_completionFields s), henabled]

theorem hover?_hoverFields (s : HoverSection) : hover? (.table (hoverFields s)) = some s := by
  have henabled : readField (hoverFields s) "enabled" boolean? = some s.enabled :=
    readField_of_lookup Value.boolean (fun _ => rfl) (by simp [hoverFields])
  have hspan : readField (hoverFields s) "span"
      (fun v => (choice? v).bind Span.ofCanonical?) = some s.span :=
    readField_of_lookup (fun r => .string r.name) Span.ofCanonical?_name (by simp [hoverFields])
  simp [hover?, fields?_table (names_hoverFields s), henabled, hspan]

theorem log?_logFields (s : LogSection) : log? (.table (logFields s)) = some s := by
  have hlevel : readField (logFields s) "level" string? = some s.level :=
    readField_of_lookup Value.string (fun _ => rfl) (by simp [logFields])
  simp [log?, fields?_table (names_logFields s), hlevel]

/-- The tree of settings: each section that is present as a table of its fields. -/
def tree (s : Settings) : List (String × Value) :=
  s.sections.map fun e => (e.1, .table e.2)

/-- A section is found in the tree as the table of its fields. -/
theorem lookup_tree (s : Settings) (name : String) :
    s.tree.lookup name = (s.sections.lookup name).map .table := by
  rw [tree]
  induction s.sections with
  | nil => rfl
  | cons e es ih =>
      rw [List.map_cons, List.lookup_cons, List.lookup_cons, ih]
      split <;> rfl

/-- The tree of the sections of settings **describes the settings**. -/
theorem ofToml?_tree (s : Settings) : ofToml? (.table s.tree) = some s := by
  have hnames : (names s.tree).Sublist ["server", "diagnostics", "completion", "hover", "log"] := by
    rw [tree, names, List.map_map]
    exact names_sections s
  have hserver : readField s.tree "server" server? = some s.server :=
    readField_of_lookup (.table ∘ serverFields) server?_serverFields
      (by simp [lookup_tree, sections])
  have hdiagnostics : readField s.tree "diagnostics" diagnostics? = some s.diagnostics :=
    readField_of_lookup (.table ∘ diagnosticsFields) diagnostics?_diagnosticsFields
      (by simp [lookup_tree, sections])
  have hcompletion : readField s.tree "completion" completion? = some s.completion :=
    readField_of_lookup (.table ∘ completionFields) completion?_completionFields
      (by simp [lookup_tree, sections])
  have hhover : readField s.tree "hover" hover? = some s.hover :=
    readField_of_lookup (.table ∘ hoverFields) hover?_hoverFields (by simp [lookup_tree, sections])
  have hlog : readField s.tree "log" log? = some s.log :=
    readField_of_lookup (.table ∘ logFields) log?_logFields (by simp [lookup_tree, sections])
  simp [ofToml?, fields?_table hnames, hserver, hdiagnostics, hcompletion, hhover, hlog]

/-! ### From the settings to the text -/

/-- A text is the **text of settings**: a header for each section that is present, and a line for
each field of it that is present. -/
def WrittenAs (s : Settings) (t : Text) : Prop :=
  SpellsDocument (listing s.sections) t

/-- The digits that the writer gives for a control character. -/
theorem digits_of_lt (n : Nat) (h : n < 128) :
    (Text.padZeros 4 (Text.hexadecimal n)).length = 4 ∧
      (Text.padZeros 4 (Text.hexadecimal n)).all Text.isHexDigit ∧
      Text.numeral 16 (Text.padZeros 4 (Text.hexadecimal n)) = n := by
  revert n
  decide

/-- The writer of settings writes each **character** of a string as it may be written. -/
theorem spellsChar_escapeChar (c : Char) : SpellsChar c (escapeChar c) := by
  rw [escapeChar]
  split
  next h =>
    subst h
    exact .short (by decide)
  next hquote =>
    split
    next h =>
      subst h
      exact .short (by decide)
    next hbackslash =>
      split
      next h =>
        -- a control character goes by its number
        obtain ⟨hlength, hdigits, hnumber⟩ := digits_of_lt c.toNat (by omega)
        generalize Text.padZeros 4 (Text.hexadecimal c.toNat) = t at hlength hdigits hnumber
        match t, hlength with
        | [_, _, _, _], _ => exact .four (List.all_eq_true.mp hdigits) hnumber
      next h => exact .itself (by omega) hquote hbackslash

/-- So it does each string. -/
theorem spells_renderString (s : String) : Spells (.string s) (renderString s) := by
  have htext : SpellsText s.toList (s.toList.flatMap escapeChar) := by
    induction s.toList with
    | nil => exact .nil
    | cons c t ih => exact .cons (spellsChar_escapeChar c) ih
  exact .string htext

/-- So it does each truth value. -/
theorem spells_renderBool (b : Bool) : Spells (.boolean b) (renderBool b) := by
  cases b with
  | false => exact .no
  | true => exact .yes

/-- A **field** is written on a line if it is present, before those that follow. -/
theorem spellsDocument_renderField {α : Type} {name : String} (hname : Toml.IsBareKey name)
    {write : α → Value} {render : α → Text} (hrender : ∀ v, Spells (write v) (render v))
    (o : Option α) {rest : List (String × Value)} {t : Text}
    (hrest : SpellsDocument (assignments rest) t) :
    SpellsDocument (assignments (consIfSet name write o rest))
      (renderField name render o ++ t) := by
  cases o with
  | none => exact hrest
  | some v =>
      rw [renderField, List.append_assoc]
      exact .line (.assignment hname (hrender v)) hrest

/-- A **section** is written with its fields if it is present, before those that follow. -/
theorem spellsDocument_renderSection {α : Type} {name : String} (hname : Toml.IsBareKey name)
    {fields : α → List (String × Value)} {body : α → Text}
    (hbody : ∀ v, SpellsDocument (assignments (fields v)) (body v)) (o : Option α)
    {rest : List (String × List (String × Value))} {t : Text}
    (hrest : SpellsDocument (listing rest) t) :
    SpellsDocument (listing (consIfSet name fields o rest)) (renderSection name body o ++ t) := by
  cases o with
  | none => exact hrest
  | some v =>
      have htext : renderSection name body (some v) ++ t =
          ('[' :: name.toList ++ [']']) ++ '\n' :: (body v ++ t) := by
        simp [renderSection]
      rw [htext]
      exact .line (.header hname) ((hbody v).append hrest)

theorem spells_serverFields (s : ServerSection) : SpellsDocument (assignments (serverFields s))
    (renderField "source" renderString s.source ++
      renderField "language_id" renderString s.languageId) := by
  rw [← List.append_nil (renderField "language_id" renderString s.languageId)]
  exact spellsDocument_renderField (by decide) spells_renderString s.source <|
    spellsDocument_renderField (by decide) spells_renderString s.languageId .nil

theorem spells_diagnosticsFields (s : DiagnosticsSection) :
    SpellsDocument (assignments (diagnosticsFields s))
      (renderField "enabled" renderBool s.enabled ++
        renderField "report" (fun r => renderString r.name) s.report) := by
  have hnone : SpellsDocument (assignments []) [] := .nil
  rw [← List.append_nil (renderField "report" _ s.report)]
  exact spellsDocument_renderField (by decide) spells_renderBool s.enabled <|
    spellsDocument_renderField (by decide) (fun r => spells_renderString r.name) s.report hnone

theorem spells_completionFields (s : CompletionSection) :
    SpellsDocument (assignments (completionFields s))
      (renderField "enabled" renderBool s.enabled) := by
  rw [← List.append_nil (renderField "enabled" renderBool s.enabled)]
  exact spellsDocument_renderField (by decide) spells_renderBool s.enabled .nil

theorem spells_hoverFields (s : HoverSection) : SpellsDocument (assignments (hoverFields s))
    (renderField "enabled" renderBool s.enabled ++
      renderField "span" (fun r => renderString r.name) s.span) := by
  have hnone : SpellsDocument (assignments []) [] := .nil
  rw [← List.append_nil (renderField "span" _ s.span)]
  exact spellsDocument_renderField (by decide) spells_renderBool s.enabled <|
    spellsDocument_renderField (by decide) (fun r => spells_renderString r.name) s.span hnone

theorem spells_logFields (s : LogSection) : SpellsDocument (assignments (logFields s))
    (renderField "level" renderString s.level) := by
  rw [← List.append_nil (renderField "level" renderString s.level)]
  exact spellsDocument_renderField (by decide) spells_renderString s.level .nil

/-- The writer of settings writes a **text of the settings**. -/
theorem writtenAs_render (s : Settings) : s.WrittenAs s.render := by
  rw [WrittenAs, render, ← List.append_nil (renderSection "log" _ s.log)]
  simp only [List.append_assoc]
  exact spellsDocument_renderSection (by decide) spells_serverFields s.server <|
    spellsDocument_renderSection (by decide) spells_diagnosticsFields s.diagnostics <|
    spellsDocument_renderSection (by decide) spells_completionFields s.completion <|
    spellsDocument_renderSection (by decide) spells_hoverFields s.hover <|
    spellsDocument_renderSection (by decide) spells_logFields s.log .nil

/-! ### From the text to the settings -/

/-- A section with fields of different names may be put in front. -/
theorem nodup_fields_consIfSet {α : Type} {name : String} {fields : α → List (String × Value)}
    (hfields : ∀ v, (names (fields v)).Nodup) (o : Option α)
    {rest : List (String × List (String × Value))} (hrest : ∀ e ∈ rest, (names e.2).Nodup) :
    ∀ e ∈ consIfSet name fields o rest, (names e.2).Nodup := by
  cases o with
  | none => exact hrest
  | some v => exact List.forall_mem_cons.mpr ⟨hfields v, hrest⟩

/-- No section has two fields of one name. -/
theorem nodup_fields (s : Settings) : ∀ e ∈ s.sections, (names e.2).Nodup :=
  nodup_fields_consIfSet (fun t => (names_serverFields t).nodup (by decide)) s.server <|
  nodup_fields_consIfSet (fun t => (names_diagnosticsFields t).nodup (by decide)) s.diagnostics <|
  nodup_fields_consIfSet (fun t => (names_completionFields t).nodup (by decide)) s.completion <|
  nodup_fields_consIfSet (fun t => (names_hoverFields t).nodup (by decide)) s.hover <|
  nodup_fields_consIfSet (fun t => (names_logFields t).nodup (by decide)) s.log
    (List.forall_mem_nil _)

/-- **Parsing a text of settings** comes to checking the settings. -/
theorem parse_of_writtenAs {s : Settings} {t : Text} (h : s.WrittenAs t) (path : String) :
    parse path t = s.validate.map fun _ => s := by
  have htree : Toml.parse? t = some (.table s.tree) :=
    Toml.parse?_of_listing h ((names_sections s).nodup (by decide)) (nodup_fields s)
  simp only [parse, htree, ofToml?_tree]

/-- A check of a value that may be absent fails as the check of the value does. -/
theorem invalidValue_of_checkIfSet {check : String → Except SettingsError Unit}
    (hcheck : ∀ v e, check v = .error e → ∃ field reason, e = .invalidValue field reason)
    {o : Option String} {e : SettingsError} (h : checkIfSet check o = .error e) :
    ∃ field reason, e = .invalidValue field reason := by
  cases o with
  | none => cases h
  | some v => exact hcheck v e h

/-- The check of settings fails for a **restriction on a value** only. -/
theorem invalidValue_of_validate {s : Settings} {e : SettingsError} (h : s.validate = .error e) :
    ∃ field reason, e = .invalidValue field reason := by
  have hsource : ∀ v e, checkSource v = .error e → ∃ f r, e = .invalidValue f r := by
    intro v e h
    rw [checkSource] at h
    split at h <;> cases h
    exact ⟨_, _, rfl⟩
  have hlanguage : ∀ v e, checkLanguageId v = .error e → ∃ f r, e = .invalidValue f r := by
    intro v e h
    rw [checkLanguageId] at h
    split at h <;> cases h
    exact ⟨_, _, rfl⟩
  have hlevel : ∀ v e, checkLogLevel v = .error e → ∃ f r, e = .invalidValue f r := by
    intro v e h
    rw [checkLogLevel] at h
    split at h <;> cases h
    exact ⟨_, _, rfl⟩
  rw [validate] at h
  cases hfirst : checkIfSet checkSource (s.server.bind (·.source)) with
  | error e' =>
      rw [hfirst] at h
      cases h
      exact invalidValue_of_checkIfSet hsource hfirst
  | ok =>
      cases hsecond : checkIfSet checkLanguageId (s.server.bind (·.languageId)) with
      | error e' =>
          rw [hfirst, hsecond] at h
          cases h
          exact invalidValue_of_checkIfSet hlanguage hsecond
      | ok =>
          rw [hfirst, hsecond] at h
          exact invalidValue_of_checkIfSet hlevel h

end Settings

/-! ### Files -/

/-- The text of a file is read back from its bytes. -/
theorem fromUTF8?_toUTF8 (text : String) : String.fromUTF8? text.toUTF8 = some text := by
  rw [String.fromUTF8?, String.toUTF8_eq_toByteArray, dif_pos text.isValidUTF8]
  rfl

/-- **Settings files round-trip.** The writer of settings writes a text of the settings; and a file
that holds any text of the settings is read as these settings if they are valid, and otherwise
refused with the error of the check, which names a field and a reason. -/
theorem World.readSettings_written (s : Settings) :
    s.WrittenAs s.render ∧
      ∀ (w : World) (p : Path) (text : String), s.WrittenAs text.toList →
        w.look p = .file text.toUTF8 →
        (s.validate = .ok () → w.readSettings p = .ok s) ∧
        (∀ e, s.validate = .error e →
          w.readSettings p = .error e ∧ ∃ field reason, e = .invalidValue field reason) := by
  refine ⟨s.writtenAs_render, fun w p text htext hfile => ?_⟩
  have hread : w.readSettings p = s.validate.map fun _ => s := by
    rw [readSettings, hfile]
    simp only [fromUTF8?_toUTF8]
    exact Settings.parse_of_writtenAs htext p.toString
  refine ⟨fun hvalid => ?_, fun e herror => ⟨?_, Settings.invalidValue_of_validate herror⟩⟩
  · rw [hread, hvalid]
    rfl
  · rw [hread, herror]
    rfl

/-- Settings with a name that needs escapes and has characters beyond ASCII, with an empty section,
and without two sections. -/
def oddSettings : Settings where
  server := some { source := some "\"C:\\bug\"\n\x07\x7f\té𝄞" }
  diagnostics := some {}
  hover := some { enabled := some false, span := some .cursor }

/-- Settings with a log level that there is not. -/
def loudSettings : Settings where
  server := some { languageId := some "bug-lang_2" }
  log := some { level := some "loud" }

/-- A world in which every path leads to the text of some settings. -/
def worldHolding (s : Settings) : World where
  look _ := .file (String.ofList s.render).toUTF8
  environment _ := none
  home := none

theorem World.readSettings_written_odd :
    (oddSettings.validate = .ok () ∧
      (worldHolding oddSettings).readSettings projectFile = .ok oddSettings) ∧
    loudSettings.validate = .error (.invalidValue .logLevel
      "must be one of trace, debug, info, warn, error, got 'loud'") ∧
    (worldHolding loudSettings).readSettings projectFile = .error (.invalidValue .logLevel
      "must be one of trace, debug, info, warn, error, got 'loud'") := by
  have hodd : oddSettings.validate = .ok () := rfl
  have hloud : loudSettings.validate = .error (.invalidValue .logLevel
      "must be one of trace, debug, info, warn, error, got 'loud'") := rfl
  have hwritten (s : Settings) : s.WrittenAs (String.ofList s.render).toList := by
    rw [String.toList_ofList]
    exact (readSettings_written s).1
  refine ⟨⟨hodd, ?_⟩, hloud, ?_⟩
  · exact ((readSettings_written oddSettings).2 _ _ _ (hwritten _) rfl).1 hodd
  · exact (((readSettings_written loudSettings).2 _ _ _ (hwritten _) rfl).2 _ hloud).1

end LangServer
