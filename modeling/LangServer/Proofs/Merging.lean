import Mathlib.Data.List.Induction
import LangServer.Proofs.LastGiven
import LangServer.Settings.Basic

/-!
# Any Number of Layers

Settings may be laid over one another any number of times. This module says what comes of it without
the steps: of each section the last one given counts, with all its fields, whatever the other
sections are (`Settings.last_layer_wins`). From this follows what the check has to say about it,
since it looks at sections one by one: an earlier section does not matter to it, good or bad, once
there is a later one.

## Sections

Settings have five sections, each with contents of its own (`SettingsSection.Contents`). They are
laid over one another in the same way, so that a section is a parameter here.

## Main statements

* `Settings.lastGiven_ofLayers`: each section of some layers is the last one given.
* `Settings.ofLayers_append`: layers may be put together beforehand.
* `Settings.validate_eq_without`: a section that is good by itself does not matter to the check.
-/

namespace LangServer

/-- The **sections** of settings. -/
inductive SettingsSection where
  | server
  | diagnostics
  | completion
  | hover
  | log

namespace SettingsSection

/-- What a section holds. -/
def Contents : SettingsSection → Type
  | server => ServerSection
  | diagnostics => DiagnosticsSection
  | completion => CompletionSection
  | hover => HoverSection
  | log => LogSection

/-- Settings with a section **and no other**. -/
def alone : (k : SettingsSection) → k.Contents → Settings
  | server, x => { server := some x }
  | diagnostics, x => { diagnostics := some x }
  | completion, x => { completion := some x }
  | hover, x => { hover := some x }
  | log, x => { log := some x }

end SettingsSection

namespace Settings

/-- A section of settings, if they have it. -/
def section? (s : Settings) : (k : SettingsSection) → Option k.Contents
  | .server => s.server
  | .diagnostics => s.diagnostics
  | .completion => s.completion
  | .hover => s.hover
  | .log => s.log

/-- Settings **without** one of their sections. -/
def without (s : Settings) : SettingsSection → Settings
  | .server => { s with server := none }
  | .diagnostics => { s with diagnostics := none }
  | .completion => { s with completion := none }
  | .hover => { s with hover := none }
  | .log => { s with log := none }

/-- Settings are known by their sections. -/
theorem ext_section? {s t : Settings} (h : ∀ k, s.section? k = t.section? k) : s = t := by
  cases s
  cases t
  congr
  · exact h .server
  · exact h .diagnostics
  · exact h .completion
  · exact h .hover
  · exact h .log

/-! ### Laying over section by section -/

/-- No settings at all have no section. -/
@[simp] theorem section?_empty (k : SettingsSection) : section? {} k = none := by
  cases k <;> rfl

/-- A section of a layer **hides** the one below it. -/
@[simp] theorem section?_layOver (upper lower : Settings) (k : SettingsSection) :
    (upper.layOver lower).section? k = (upper.section? k).or (lower.section? k) := by
  cases k <;> rfl

/-- It does not matter which of three layers are put together first. -/
theorem layOver_assoc (upper middle lower : Settings) :
    (upper.layOver middle).layOver lower = upper.layOver (middle.layOver lower) := by
  refine ext_section? fun k => ?_
  simp only [section?_layOver, Option.or_assoc]

/-- No settings at all hide nothing. -/
theorem empty_layOver (s : Settings) : layOver {} s = s :=
  rfl

/-- The **last layer** lies over the others. -/
theorem ofLayers_concat (layers : List Settings) (s : Settings) :
    ofLayers (layers ++ [s]) = s.layOver (ofLayers layers) := by
  rw [ofLayers, List.foldl_append]
  rfl

/-- Layers may be **put together beforehand**: what the later ones come to lies over what the
earlier ones come to. -/
theorem ofLayers_append (front tail : List Settings) :
    ofLayers (front ++ tail) = (ofLayers tail).layOver (ofLayers front) := by
  induction tail using List.reverseRecOn with
  | nil =>
      rw [List.append_nil]
      exact (empty_layOver (ofLayers front)).symm
  | append_singleton tail s ih =>
      rw [← List.append_assoc, ofLayers_concat, ofLayers_concat, ih, layOver_assoc]

/-- Each section of some layers is the **last one given**. -/
theorem lastGiven_ofLayers (layers : List Settings) (k : SettingsSection) :
    LastGiven (·.section? k) layers ((ofLayers layers).section? k) := by
  induction layers using List.reverseRecOn with
  | nil => exact lastGiven_iff.mpr (section?_empty k).symm
  | append_singleton layers s ih =>
      rw [ofLayers_concat, section?_layOver]
      exact ih.append (lastGiven_singleton _ s)

/-! ### The check section by section -/

/-- The check looks at the section `server`, then at the section `log`, and at no other. -/
theorem validate_eq_bind (s : Settings) :
    s.validate = (({ server := s.server } : Settings).validate >>= fun _ =>
      ({ log := s.log } : Settings).validate) := by
  simp only [validate]
  -- A section that is not there passes every check, so only the order of the errors is at stake.
  cases checkIfSet checkSource (s.server.bind (·.source)) with
  | error e => rfl
  | ok _ => cases checkIfSet checkLanguageId (s.server.bind (·.languageId)) <;> rfl

/-- Settings pass the check exactly if each of their sections passes it **by itself**. -/
theorem validate_eq_ok_iff_alone (s : Settings) :
    s.validate = .ok () ↔ ∀ k x, s.section? k = some x → (k.alone x).validate = .ok () := by
  have hboth : s.validate = .ok () ↔ ({ server := s.server } : Settings).validate = .ok () ∧
      ({ log := s.log } : Settings).validate = .ok () := by
    rw [validate_eq_bind s]
    cases ({ server := s.server } : Settings).validate <;> simp [bind, Except.bind]
  rw [hboth]
  constructor
  · rintro ⟨hserver, hlog⟩ k x hx
    cases k with
    | server => rwa [show s.server = some x from hx] at hserver
    | diagnostics => rfl
    | completion => rfl
    | hover => rfl
    | log => rwa [show s.log = some x from hx] at hlog
  · intro h
    constructor
    · cases hserver : s.server with
      | none => rfl
      | some x => exact h .server x hserver
    · cases hlog : s.log with
      | none => rfl
      | some x => exact h .log x hlog

/-- A section that is **good by itself** does not matter to the check. -/
theorem validate_eq_without {s : Settings} {k : SettingsSection} {x : k.Contents}
    (hx : s.section? k = some x) (hgood : (k.alone x).validate = .ok ()) :
    s.validate = (s.without k).validate := by
  cases k with
  | server =>
      have hserver : ({ server := s.server } : Settings).validate = .ok () := by
        rwa [show s.server = some x from hx]
      rw [validate_eq_bind s, hserver]
      rfl
  | diagnostics => rfl
  | completion => rfl
  | hover => rfl
  | log =>
      have hlog : ({ log := s.log } : Settings).validate = .ok () := by
        rwa [show s.log = some x from hx]
      rw [validate_eq_bind s, hlog, validate_eq_bind (s.without .log)]
      rfl

/-! ### The result -/

/-- **The last layer with a section wins.** Each section of some layers is that of the last layer
that has it, whole, and is absent if none has it. Putting the later ones of the layers together
beforehand changes nothing. What the check says of the result is what it says of the last sections
`server` and `log` alone: it accepts the result exactly if it accepts the last one of each section
by itself, and so if it accepts every layer. A section that some of the later layers give and that
is good by itself mends whatever the earlier ones hold there: it is as if there were no such
section. -/
theorem last_layer_wins (layers : List Settings) :
    (∀ k, LastGiven (·.section? k) layers ((ofLayers layers).section? k)) ∧
    (∀ front tail, layers = front ++ tail →
      ofLayers (front ++ [ofLayers tail]) = ofLayers layers) ∧
    (∀ server log, LastGiven (·.server) layers server → LastGiven (·.log) layers log →
      (ofLayers layers).validate = ({ server := server, log := log } : Settings).validate) ∧
    ((ofLayers layers).validate = .ok () ↔ ∀ k x, LastGiven (·.section? k) layers (some x) →
      (k.alone x).validate = .ok ()) ∧
    ((∀ s ∈ layers, s.validate = .ok ()) → (ofLayers layers).validate = .ok ()) ∧
    ∀ front tail k x, layers = front ++ tail → LastGiven (·.section? k) tail (some x) →
      (k.alone x).validate = .ok () →
        (ofLayers layers).validate = ((ofLayers layers).without k).validate := by
  have hlast := lastGiven_ofLayers layers
  have hgood : (ofLayers layers).validate = .ok () ↔ ∀ k x,
      LastGiven (·.section? k) layers (some x) → (k.alone x).validate = .ok () := by
    rw [validate_eq_ok_iff_alone]
    refine forall₂_congr fun k x => imp_congr_left ?_
    exact ⟨fun hx => hx ▸ hlast k, fun hx => (hlast k).unique hx⟩
  refine ⟨hlast, ?_, ?_, hgood, ?_, ?_⟩
  · rintro front tail rfl
    rw [ofLayers_concat, ofLayers_append]
  · intro server log hserver hlog
    rw [validate_eq_bind, validate_eq_bind { server := server, log := log },
      show (ofLayers layers).server = server from (hlast .server).unique hserver,
      show (ofLayers layers).log = log from (hlast .log).unique hlog]
  · intro hall
    rw [hgood]
    rintro k x ⟨before, s, after, rfl, hx, -⟩
    have hs : s.validate = .ok () := hall s (List.mem_append_right before List.mem_cons_self)
    exact (validate_eq_ok_iff_alone s).mp hs k x hx
  · rintro front tail k x rfl hx hk
    have hsection : (ofLayers (front ++ tail)).section? k = some x := by
      rw [ofLayers_append, section?_layOver, (lastGiven_ofLayers tail k).unique hx]
      rfl
    exact validate_eq_without hsection hk

/-- Three layers: the lowest one has a blank source and an unknown log level, and each of the others
mends one of the two. -/
def mendedLayers : List Settings :=
  [{ server := some { source := some " ", languageId := some "bug" }
     log := some { level := some "loud" } },
   { server := some { source := some "me" }, hover := some { span := some .cursor } },
   { hover := some { enabled := some false }, log := some { level := some "warn" } }]

/-- The last sections of the three layers: the language id is gone with the section that it was in,
and so is the span. The lowest layer is refused for its source, the lower two together for the log
level only, and all three are accepted, as are the upper two. -/
theorem last_layer_wins_mended :
    LastGiven (·.section? .server) mendedLayers (some ({ source := some "me" } : ServerSection)) ∧
    LastGiven (·.section? .hover) mendedLayers (some ({ enabled := some false } : HoverSection)) ∧
    ofLayers (mendedLayers.take 1 ++ [ofLayers (mendedLayers.drop 1)]) = ofLayers mendedLayers ∧
    (ofLayers (mendedLayers.take 1)).validate =
      .error (.invalidValue .serverSource "must not be empty") ∧
    (ofLayers (mendedLayers.take 2)).validate =
      ({ hover := some { span := some .cursor }, log := some { level := some "loud" } } :
        Settings).validate ∧
    (ofLayers (mendedLayers.drop 1)).validate = .ok () ∧
    (ofLayers mendedLayers).validate = .ok () := by
  obtain ⟨hlast, htogether, hcheck, -⟩ := last_layer_wins mendedLayers
  obtain ⟨-, -, -, -, -, hmend⟩ := last_layer_wins (mendedLayers.take 2)
  obtain ⟨-, -, -, -, hall, -⟩ := last_layer_wins (mendedLayers.drop 1)
  refine ⟨hlast .server, hlast .hover, htogether _ _ rfl, rfl, ?_, hall ?_,
    (hcheck _ _ (hlast .server) (hlast .log)).trans rfl⟩
  · exact hmend (mendedLayers.take 1) [mendedLayers[1]] .server { source := some "me" } rfl
      (lastGiven_singleton _ _) rfl
  · intro s hs
    rcases List.mem_cons.mp hs with rfl | hs
    · rfl
    · obtain rfl := List.mem_singleton.mp hs
      rfl

end Settings

end LangServer
