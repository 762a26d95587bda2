import LangServer.Log
import LangServer.Session.Store
import LangServer.Settings.Basic
import LangServer.Wire

/-!
# The Running Server

What the server does while it runs: it follows the client's documents, publishes their
diagnostics, and answers questions about them. Document events change the store; questions do
not.

A document is published when it is opened and when it changes, under its version, and once more
without diagnostics and version when it is closed. A change of a document that is not open is
passed over. Switching diagnostics off empties the published lists and changes nothing else.

## Main definitions

* `Server.follow`: what a document event does.
* `Server.answer`: the answer to a question.
* `Server.diagnostics?`: the diagnostics of an open document.
-/

namespace LangServer

/-- Settings, symbols and open documents. -/
structure Server where
  settings : Settings
  symbols : Symbols
  documents : Store := {}

/-- Something that happens to a document of the client. -/
inductive DocumentEvent where
  | opened (uri : Uri) (text : Text) (version : Int)
  | changed (uri : Uri) (version : Int) (changes : List Change)
  | closed (uri : Uri)

/-- A question of the client. -/
inductive Question where
  | hover (uri : Uri) (position : Position)
  | completion (uri : Uri)
  | resolve (item : CompletionItem)

/-- An answer to the client. -/
inductive Answer where
  | capabilities (completion hover : Bool)
  /-- Nothing more than that it was heard. -/
  | done
  | hover (card : Option Hover)
  | completion (items : Option (List CompletionItem))
  | item (item : CompletionItem)

/-- Something that the server sends unasked. -/
inductive Notice where
  | logMessage (text : String)
  | diagnostics (uri : Uri) (items : List PublishedDiagnostic) (version : Option Int)

/-- What the server sends unasked and what it logs on an occasion, in order. -/
structure Effect where
  notices : List Notice := []
  log : List LogLine := []

/-- The effect with a line logged before it. -/
def Effect.after (e : Effect) (line : LogLine) : Effect :=
  { e with log := line :: e.log }

namespace Server

/-- The name of the running server in the log. -/
def target : String := "buglang_lsp::server"

/-- A line on what happens inside. -/
def debug (text : String) : LogLine := ⟨.debug, target, text⟩

/-- A line on what an operator may want to know. -/
def info (text : String) : LogLine := ⟨.info, target, text⟩

/-! ### Diagnostics -/

/-- The diagnostics of a document as they are published. -/
def published (s : Server) (d : Document) : List PublishedDiagnostic :=
  if s.settings.diagnosticsEnabled then d.diagnostics.map (·.publish s.settings.source) else []

/-- The diagnostics of an open document. -/
def diagnostics? (s : Server) (uri : Uri) : Option (List PublishedDiagnostic) :=
  (s.documents.get? uri).map s.published

/-- Sends the diagnostics of a document. -/
def publication (uri : Uri) (items : List PublishedDiagnostic) (version : Option Int) : Effect where
  notices := [.diagnostics uri items version]
  log := [debug ("publishing diagnostics uri=" ++ uri.text ++ " count=" ++ toString items.length)]

/-! ### Document events -/

/-- Puts a document in the store and publishes it. -/
def keep (s : Server) (uri : Uri) (d : Document) : Server × Effect :=
  ({ s with documents := s.documents.insert uri d },
    publication uri (s.published d) (some d.version))

/-- What a document event does. -/
def follow (s : Server) : DocumentEvent → Server × Effect
  | .opened uri text version =>
    let (s, effect) := s.keep uri (.ofText text version s.settings.diagnosticReport)
    (s, effect.after (debug ("document opened uri=" ++ uri.text)))
  | .changed uri version changes =>
    match s.documents.get? uri with
    | some d => s.keep uri (d.update changes version s.settings.diagnosticReport)
    | none =>
      (s, { log := [debug ("change for unknown document ignored uri=" ++ uri.text)] })
  | .closed uri =>
    ({ s with documents := s.documents.erase uri },
      (publication uri [] none).after (debug ("document closed uri=" ++ uri.text)))

/-! ### Questions -/

/-- The hover card at a position of a document. -/
def hoverIn (s : Server) (d : Document) (p : Position) : Option Hover :=
  (d.text.line? p.line).bind fun line =>
    hoverAt s.symbols s.settings.languageId s.settings.hoverSpan line p.column

/-- The answer to a question, and what is logged with it. -/
def answer (s : Server) : Question → Answer × List LogLine
  | .hover uri position =>
    if s.settings.hoverEnabled then
      match s.documents.get? uri with
      | some d => (.hover (s.hoverIn d position), [])
      | none => (.hover none, [debug ("hover on unknown document uri=" ++ uri.text)])
    else (.hover none, [])
  | .completion uri =>
    if s.settings.completionEnabled then
      (.completion (some s.symbols.completionItems),
        [debug ("received completion request uri=" ++ uri.text)])
    else (.completion none, [])
  | .resolve item =>
    (.item (s.symbols.resolve item), [debug ("resolving completion item label=" ++ item.label)])

/-- What the server offers. -/
def capabilities (s : Server) : Answer :=
  .capabilities s.settings.completionEnabled s.settings.hoverEnabled

end Server

end LangServer
