import LangServer.Settings.Basic
import LangServer.Toml.Reader

/-!
# Settings Files

What a TOML document says about settings. Each section of `Settings` is a table of its name, and
each field an entry of that table. Unknown sections and fields are refused, and so are values of
another type than the field's.

A section may also be written as the list of its fields in their order; then none may be missing,
and what comes after them is passed over. A policy may also be written as a table with one entry,
which has the policy's name and an empty table or list as its value.

## Main definitions

* `Settings.ofToml?`: the settings that a tree of values describes.
* `Settings.parse`: the settings that a text describes, if they are valid.
-/

namespace LangServer

open Toml (Value)

namespace Settings

/-- The values of the fields of a record, by name. -/
def fields? (names : List String) : Value → Option (List (String × Value))
  | .table entries => if entries.all (·.1 ∈ names) then some entries else none
  | .array items => if names.length ≤ items.length then some (names.zip items) else none
  | _ => none

/-- The value of a field that may be absent, read by `f`. -/
def readField {α : Type} (fields : List (String × Value)) (name : String)
    (f : Value → Option α) : Option (Option α) :=
  match fields.lookup name with
  | none => some none
  | some v => (f v).map some

/-- The text of a string. -/
def string? : Value → Option String
  | .string s => some s
  | _ => none

/-- The truth value. -/
def boolean? : Value → Option Bool
  | .boolean b => some b
  | _ => none

/-- The name of one of several choices: a string, or the only key of a table with nothing in
it. -/
def choice? : Value → Option String
  | .string s => some s
  | .table [(name, .table [])] => some name
  | .table [(name, .array [])] => some name
  | _ => none

/-- Reads the section `server`. -/
def server? (v : Value) : Option ServerSection := do
  let fields ← fields? ["source", "language_id"] v
  let source ← readField fields "source" string?
  let languageId ← readField fields "language_id" string?
  return { source, languageId }

/-- Reads the section `diagnostics`. -/
def diagnostics? (v : Value) : Option DiagnosticsSection := do
  let fields ← fields? ["enabled", "report"] v
  let enabled ← readField fields "enabled" boolean?
  let report ← readField fields "report" fun v => (choice? v).bind Report.ofCanonical?
  return { enabled, report }

/-- Reads the section `completion`. -/
def completion? (v : Value) : Option CompletionSection := do
  let fields ← fields? ["enabled"] v
  let enabled ← readField fields "enabled" boolean?
  return { enabled }

/-- Reads the section `hover`. -/
def hover? (v : Value) : Option HoverSection := do
  let fields ← fields? ["enabled", "span"] v
  let enabled ← readField fields "enabled" boolean?
  let span ← readField fields "span" fun v => (choice? v).bind Span.ofCanonical?
  return { enabled, span }

/-- Reads the section `log`. -/
def log? (v : Value) : Option LogSection := do
  let fields ← fields? ["level"] v
  let level ← readField fields "level" string?
  return { level }

/-- The settings that a tree of values describes. -/
def ofToml? (v : Value) : Option Settings := do
  let sections ← fields? ["server", "diagnostics", "completion", "hover", "log"] v
  let server ← readField sections "server" server?
  let diagnostics ← readField sections "diagnostics" diagnostics?
  let completion ← readField sections "completion" completion?
  let hover ← readField sections "hover" hover?
  let log ← readField sections "log" log?
  return { server, diagnostics, completion, hover, log }

/-- The settings that a text describes: it has to be TOML, describe settings, and keep to the
restrictions on values. The path is the one that errors name. -/
def parse (path : String) (text : Text) : Except SettingsError Settings :=
  match Toml.parse? text with
  | none => .error (.malformed path .notToml)
  | some document =>
    match ofToml? document with
    | none => .error (.malformed path .notSettings)
    | some settings => settings.validate.map fun _ => settings

end Settings

end LangServer
