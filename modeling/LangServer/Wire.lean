import LangServer.Completion
import LangServer.Document
import LangServer.Hover

/-!
# JSON Forms

How positions, changes, diagnostics, completion items and hover cards are written in messages,
and how those that clients send are read.

A record may also be sent as the list of its fields in their order. Fields that are unknown are
passed over, and a field with the value `null` counts as absent.
-/

namespace LangServer

namespace Json

/-- A record as an object: itself, or the list of the values of its fields in their order. -/
def record? (names : List String) : Json → Option Json
  | .obj fields => some (.obj fields)
  | .arr items => if items.length = names.length then some (.obj (names.zip items)) else none
  | _ => none

/-- A field that must be there, read by `f`. -/
def required {α : Type} (j : Json) (name : String) (f : Json → Option α) : Option α :=
  (j.field? name).bind f

/-- A field that may be absent or `null`, else read by `f`. -/
def optional {α : Type} (j : Json) (name : String) (f : Json → Option α) : Option (Option α) :=
  match j.present? name with
  | none => some none
  | some v => (f v).map some

/-- The items of a list, each read by `f`. -/
def listOf {α : Type} (f : Json → Option α) (j : Json) : Option (List α) :=
  j.arr?.bind fun items => items.mapM f

end Json

/-! ### Places -/

/-- Writes a position. -/
def Position.toJson (p : Position) : Json :=
  .obj [("line", .nat p.line), ("character", .nat p.column)]

/-- Reads a position. -/
def Position.ofJson? (j : Json) : Option Position := do
  let j ← j.record? ["line", "character"]
  let line ← j.required "line" Json.word32?
  let column ← j.required "character" Json.word32?
  return ⟨line, column⟩

/-- Writes a range. -/
def Range.toJson (r : Range) : Json :=
  .obj [("start", r.start.toJson), ("end", r.stop.toJson)]

/-- Reads a range. -/
def Range.ofJson? (j : Json) : Option Range := do
  let j ← j.record? ["start", "end"]
  let start ← j.required "start" Position.ofJson?
  let stop ← j.required "end" Position.ofJson?
  return ⟨start, stop⟩

/-- Reads a change. The length that clients may give with a range is not used. -/
def Change.ofJson? (j : Json) : Option Change := do
  let j ← j.record? ["range", "rangeLength", "text"]
  let range ← j.optional "range" Range.ofJson?
  let _ ← j.optional "rangeLength" Json.word32?
  let text ← j.required "text" Json.str?
  return ⟨range, text.toList⟩

/-! ### Diagnostics -/

/-- The part of a text that a diagnostic covers. -/
def Diagnostic.range (d : Diagnostic) : Range :=
  ⟨⟨d.line, d.start⟩, ⟨d.line, d.stop⟩⟩

/-- A diagnostic as clients get it. -/
structure PublishedDiagnostic where
  range : Range
  severity : Severity
  source : String
  message : String
  deriving DecidableEq, Repr

/-- A diagnostic under the name of its source. -/
def Diagnostic.publish (source : String) (d : Diagnostic) : PublishedDiagnostic where
  range := d.range
  severity := d.severity
  source := source
  message := d.message

/-- Writes a diagnostic. -/
def PublishedDiagnostic.toJson (d : PublishedDiagnostic) : Json :=
  .obj [("range", d.range.toJson), ("severity", .nat d.severity.code),
    ("source", .str d.source), ("message", .str d.message)]

/-! ### Hover cards -/

/-- Writes a hover card. -/
def Hover.toJson (h : Hover) : Json :=
  .obj [("contents", .arr
    [.obj [("language", .str h.language), ("value", .str h.word)], .str h.description])]

/-! ### Completion items -/

/-- Writes a documentation. -/
def Documentation.toJson : Documentation → Json
  | .plain text => .str text
  | .markup kind text => .obj [("kind", .str kind.name), ("value", .str text)]

/-- Reads a documentation. -/
def Documentation.ofJson? : Json → Option Documentation
  | .str text => some (.plain text)
  | j => do
    let j ← j.record? ["kind", "value"]
    let kind ← j.required "kind" fun k => k.name?.bind MarkupKind.ofName?
    let text ← j.required "value" Json.str?
    return .markup kind text

/-- Writes the details of a label. -/
def LabelDetails.toJson (d : LabelDetails) : Json :=
  .objOf [("detail", d.detail.map .str), ("description", d.description.map .str)]

/-- Reads the details of a label. -/
def LabelDetails.ofJson? (j : Json) : Option LabelDetails := do
  let j ← j.record? ["detail", "description"]
  let detail ← j.optional "detail" Json.str?
  let description ← j.optional "description" Json.str?
  return { detail, description }

/-- Writes an edit. -/
def TextEdit.toJson (e : TextEdit) : Json :=
  .obj [("range", e.range.toJson), ("newText", .str e.newText)]

/-- Reads an edit. -/
def TextEdit.ofJson? (j : Json) : Option TextEdit := do
  let j ← j.record? ["range", "newText"]
  let range ← j.required "range" Range.ofJson?
  let newText ← j.required "newText" Json.str?
  return { range, newText }

/-- Writes the edit of an item. -/
def CompletionEdit.toJson : CompletionEdit → Json
  | .edit e => e.toJson
  | .insertReplace newText insert replace =>
    .obj [("newText", .str newText), ("insert", insert.toJson), ("replace", replace.toJson)]

/-- Reads an edit that inserts or replaces. -/
def CompletionEdit.insertReplace? (j : Json) : Option CompletionEdit := do
  let j ← j.record? ["newText", "insert", "replace"]
  let newText ← j.required "newText" Json.str?
  let insert ← j.required "insert" Range.ofJson?
  let replace ← j.required "replace" Range.ofJson?
  return .insertReplace newText insert replace

/-- Reads the edit of an item. -/
def CompletionEdit.ofJson? (j : Json) : Option CompletionEdit :=
  ((TextEdit.ofJson? j).map .edit).or (insertReplace? j)

/-- Writes a command. -/
def Command.toJson (c : Command) : Json :=
  .objOf [("title", some (.str c.title)), ("command", some (.str c.command)),
    ("arguments", c.arguments.map .arr)]

/-- Reads a command. -/
def Command.ofJson? (j : Json) : Option Command := do
  let j ← j.record? ["title", "command", "arguments"]
  let title ← j.required "title" Json.str?
  let command ← j.required "command" Json.str?
  let arguments ← j.optional "arguments" Json.arr?
  return { title, command, arguments }

/-- The names of the fields of an item, in their order. -/
def CompletionItem.fieldNames : List String :=
  ["label", "labelDetails", "kind", "detail", "documentation", "deprecated", "preselect",
   "sortText", "filterText", "insertText", "insertTextFormat", "insertTextMode", "textEdit",
   "additionalTextEdits", "command", "commitCharacters", "data", "tags"]

/-- Writes an item; absent fields are left out. -/
def CompletionItem.toJson (item : CompletionItem) : Json :=
  .objOf
    [("label", some (.str item.label)),
     ("labelDetails", item.labelDetails.map (·.toJson)),
     ("kind", item.kind.map .int),
     ("detail", item.detail.map .str),
     ("documentation", item.documentation.map (·.toJson)),
     ("deprecated", item.deprecated.map .bool),
     ("preselect", item.preselect.map .bool),
     ("sortText", item.sortText.map .str),
     ("filterText", item.filterText.map .str),
     ("insertText", item.insertText.map .str),
     ("insertTextFormat", item.insertTextFormat.map .int),
     ("insertTextMode", item.insertTextMode.map .int),
     ("textEdit", item.textEdit.map (·.toJson)),
     ("additionalTextEdits", item.additionalTextEdits.map fun es => .arr (es.map (·.toJson))),
     ("command", item.command.map (·.toJson)),
     ("commitCharacters", item.commitCharacters.map fun cs => .arr (cs.map .str)),
     ("data", item.data),
     ("tags", item.tags.map fun ts => .arr (ts.map .int))]

/-- Reads an item. -/
def CompletionItem.ofJson? (j : Json) : Option CompletionItem := do
  let j ← j.record? fieldNames
  let label ← j.required "label" Json.str?
  let labelDetails ← j.optional "labelDetails" LabelDetails.ofJson?
  let kind ← j.optional "kind" Json.int32?
  let detail ← j.optional "detail" Json.str?
  let documentation ← j.optional "documentation" Documentation.ofJson?
  let deprecated ← j.optional "deprecated" Json.bool?
  let preselect ← j.optional "preselect" Json.bool?
  let sortText ← j.optional "sortText" Json.str?
  let filterText ← j.optional "filterText" Json.str?
  let insertText ← j.optional "insertText" Json.str?
  let insertTextFormat ← j.optional "insertTextFormat" Json.int32?
  let insertTextMode ← j.optional "insertTextMode" Json.int32?
  let textEdit ← j.optional "textEdit" CompletionEdit.ofJson?
  let additionalTextEdits ← j.optional "additionalTextEdits" (Json.listOf TextEdit.ofJson?)
  let command ← j.optional "command" Command.ofJson?
  let commitCharacters ← j.optional "commitCharacters" (Json.listOf Json.str?)
  let tags ← j.optional "tags" (Json.listOf Json.int32?)
  return { label, labelDetails, kind, detail, documentation, deprecated, preselect, sortText,
           filterText, insertText, insertTextFormat, insertTextMode, textEdit,
           additionalTextEdits, command, commitCharacters, data := j.present? "data", tags }

end LangServer
