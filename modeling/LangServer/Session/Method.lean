import LangServer.Session.Capabilities
import LangServer.Session.Server

/-!
# Methods

The methods of the protocol, by name. A method is a request, which is answered, or a
notification, which is not. The server serves some methods; of the others it only knows which
parameters they take.

## Main definitions

* `Method.ofName?`: the method of a name.
* `Method.call?`: what a method with parameters asks for.
-/

namespace LangServer

/-- Whether a message wants an answer. -/
inductive MessageKind where
  | request
  | notification
  deriving DecidableEq, Repr

/-- A method of the protocol. -/
inductive Method where
  | start
  /-- The client has heard what the server offers. -/
  | started
  | stop
  | leave
  | didOpen
  | didChange
  | didClose
  | hover
  | completion
  | resolve
  | cancel
  /-- A method that the server does not serve, with the parameters that it takes. -/
  | unserved (kind : MessageKind) (params : Shape)
  deriving Repr

/-- What a message asks for. -/
inductive Call where
  | start
  | started
  | stop
  | document (event : DocumentEvent)
  | question (question : Question)
  | cancel
  | unserved

namespace Method

open Shape (req opt work tokens inDocument atPosition)

/-- Whether a method is answered. -/
def kind : Method → MessageKind
  | .start | .stop | .hover | .completion | .resolve => .request
  | .started | .leave | .didOpen | .didChange | .didClose | .cancel => .notification
  | .unserved kind _ => kind

/-! ### Names -/

/-- The methods that the server serves. -/
def served : List (String × Method) :=
  [("initialize", .start),
   ("initialized", .started),
   ("shutdown", .stop),
   ("exit", .leave),
   ("textDocument/didOpen", .didOpen),
   ("textDocument/didChange", .didChange),
   ("textDocument/didClose", .didClose),
   ("textDocument/hover", .hover),
   ("textDocument/completion", .completion),
   ("completionItem/resolve", .resolve),
   ("$/cancelRequest", .cancel)]

/-- The requests about documents that the server does not serve. -/
def unservedDocumentRequests : List (String × Shape) :=
  [("textDocument/willSaveWaitUntil", .saving),
   ("textDocument/declaration", .object (atPosition ++ tokens)),
   ("textDocument/definition", .object (atPosition ++ tokens)),
   ("textDocument/typeDefinition", .object (atPosition ++ tokens)),
   ("textDocument/implementation", .object (atPosition ++ tokens)),
   ("textDocument/references",
      .object (atPosition ++ tokens ++
        [req "context" (.record [req "includeDeclaration" .bool])])),
   ("textDocument/prepareCallHierarchy", .object (atPosition ++ work)),
   ("textDocument/prepareTypeHierarchy", .object (atPosition ++ work)),
   ("textDocument/documentHighlight", .object (atPosition ++ tokens)),
   ("textDocument/documentLink", .object (inDocument ++ tokens)),
   ("textDocument/codeLens", .object (inDocument ++ tokens)),
   ("textDocument/foldingRange", .object (inDocument ++ tokens)),
   ("textDocument/selectionRange",
      .object (inDocument ++ [req "positions" (.list .position)] ++ tokens)),
   ("textDocument/documentSymbol", .object (inDocument ++ tokens)),
   ("textDocument/semanticTokens/full", .object (tokens ++ inDocument)),
   ("textDocument/semanticTokens/full/delta",
      .object (tokens ++ inDocument ++ [req "previousResultId" .text])),
   ("textDocument/semanticTokens/range",
      .object (tokens ++ inDocument ++ [req "range" .range])),
   ("textDocument/inlineValue",
      .object (work ++ inDocument ++
        [req "range" .range,
         req "context" (.record [req "frameId" .int, req "stoppedLocation" .range])])),
   ("textDocument/inlayHint", .object (work ++ inDocument ++ [req "range" .range])),
   ("textDocument/moniker", .object (atPosition ++ tokens)),
   ("textDocument/diagnostic",
      .object (inDocument ++ [opt "identifier" .text, opt "previousResultId" .text] ++ tokens)),
   ("textDocument/signatureHelp",
      .object (opt "context" .signatureContext :: atPosition ++ work)),
   ("textDocument/codeAction",
      .object (inDocument ++
        [req "range" .range,
         req "context" (.record
           [req "diagnostics" (.list .diagnostic), opt "only" (.list .text),
            opt "triggerKind" .int])] ++ tokens)),
   ("textDocument/documentColor", .object (inDocument ++ tokens)),
   ("textDocument/colorPresentation",
      .object (inDocument ++
        [req "color" (.record
           [req "red" .number, req "green" .number, req "blue" .number, req "alpha" .number]),
         req "range" .range] ++ tokens)),
   ("textDocument/formatting",
      .object (inDocument ++ [req "options" .formatting] ++ work)),
   ("textDocument/rangeFormatting",
      .object (inDocument ++ [req "range" .range, req "options" .formatting] ++ work)),
   ("textDocument/onTypeFormatting",
      .object (atPosition ++ [req "ch" .text, req "options" .formatting])),
   ("textDocument/rename", .object (atPosition ++ [req "newName" .text] ++ work)),
   ("textDocument/prepareRename", .record atPosition),
   ("textDocument/linkedEditingRange", .object (atPosition ++ work))]

/-- The requests about single items that the server does not serve. -/
def unservedItemRequests : List (String × Shape) :=
  [("callHierarchy/incomingCalls",
      .object (req "item" (.hierarchyItem (.list .int)) :: tokens)),
   ("callHierarchy/outgoingCalls",
      .object (req "item" (.hierarchyItem (.list .int)) :: tokens)),
   ("typeHierarchy/supertypes", .object (req "item" (.hierarchyItem .int) :: tokens)),
   ("typeHierarchy/subtypes", .object (req "item" (.hierarchyItem .int) :: tokens)),
   ("documentLink/resolve",
      .record [req "range" .range, opt "target" .uri, opt "tooltip" .text, opt "data" .any]),
   ("codeLens/resolve",
      .record [req "range" .range, opt "command" .command, opt "data" .any]),
   ("inlayHint/resolve", .inlayHint),
   ("codeAction/resolve", .codeAction)]

/-- The requests about the workspace that the server does not serve. -/
def unservedWorkspaceRequests : List (String × Shape) :=
  [("workspace/diagnostic",
      .object (opt "identifier" .text ::
        req "previousResultIds" (.list (.record [req "uri" .uri, req "value" .text])) ::
        tokens)),
   ("workspace/symbol", .object (tokens ++ [req "query" .text])),
   ("workspaceSymbol/resolve", .workspaceSymbol),
   ("workspace/executeCommand",
      .object (req "command" .text :: ("arguments", .defaulted, .list .any) :: work)),
   ("workspace/willCreateFiles", .files ["uri"]),
   ("workspace/willRenameFiles", .files ["oldUri", "newUri"]),
   ("workspace/willDeleteFiles", .files ["uri"])]

/-- The requests that the server does not serve. -/
def unservedRequests : List (String × Shape) :=
  unservedDocumentRequests ++ unservedItemRequests ++ unservedWorkspaceRequests

/-- The notifications that the server does not serve. -/
def unservedNotifications : List (String × Shape) :=
  [("textDocument/willSave", .saving),
   ("textDocument/didSave", .record (inDocument ++ [opt "text" .text])),
   ("workspace/didChangeConfiguration", .record [req "settings" .any]),
   ("workspace/didChangeWorkspaceFolders",
      .record [req "event"
        (.record [req "added" (.list .folder), req "removed" (.list .folder)])]),
   ("workspace/didCreateFiles", .files ["uri"]),
   ("workspace/didRenameFiles", .files ["oldUri", "newUri"]),
   ("workspace/didDeleteFiles", .files ["uri"]),
   ("workspace/didChangeWatchedFiles",
      .record [req "changes" (.list (.record [req "uri" .uri, req "type" .int]))])]

/-- The method of a name. -/
def ofName? (name : String) : Option Method :=
  (served.lookup name).or <|
    ((unservedRequests.lookup name).map (Method.unserved .request)).or
      ((unservedNotifications.lookup name).map (Method.unserved .notification))

/-- Whether a name is set apart for methods that a server may pass over. -/
def isReserved (name : String) : Bool :=
  ['$', '/'].isPrefixOf name.toList

/-! ### Parameters -/

/-- Reads a URI. -/
def uri? (j : Json) : Option Uri :=
  j.str?.bind Uri.parse?

/-- Reads a document named by its URI. -/
def documentUri? (j : Json) : Option Uri := do
  let j ← j.record? ["uri"]
  j.required "uri" uri?

/-- Reads the opening of a document. -/
def opened? (params : Json) : Option DocumentEvent := do
  let params ← params.record? ["textDocument"]
  let item ← params.required "textDocument" (·.record? ["uri", "languageId", "version", "text"])
  let uri ← item.required "uri" uri?
  let _ ← item.required "languageId" Json.str?
  let version ← item.required "version" Json.int32?
  let text ← item.required "text" Json.str?
  return .opened uri text.toList version

/-- Reads the change of a document. -/
def changed? (params : Json) : Option DocumentEvent := do
  let params ← params.record? ["textDocument", "contentChanges"]
  let item ← params.required "textDocument" (·.record? ["uri", "version"])
  let uri ← item.required "uri" uri?
  let version ← item.required "version" Json.int32?
  let changes ← params.required "contentChanges" (Json.listOf Change.ofJson?)
  return .changed uri version changes

/-- Reads the closing of a document. -/
def closed? (params : Json) : Option DocumentEvent := do
  let params ← params.record? ["textDocument"]
  let uri ← params.required "textDocument" documentUri?
  return .closed uri

/-- Reads the URI and the position of a question. -/
def place? (params : Json) : Option (Uri × Position) := do
  let uri ← params.required "textDocument" documentUri?
  let position ← params.required "position" Position.ofJson?
  return (uri, position)

/-- Reads a question for a hover card. -/
def hover? (params : Json) : Option Question := do
  let (uri, position) ← place? params
  if Shape.acceptsFields work params then return .hover uri position else none

/-- Reads a question for completion items. -/
def completion? (params : Json) : Option Question := do
  let (uri, _) ← place? params
  if Shape.acceptsFields (opt "context" .completionContext :: tokens) params then
    return .completion uri
  else none

/-- What a method with parameters asks for, if they are parameters of the method. To stop takes
none, and all others take some. -/
def call? : Method → Option Json → Option Call
  | .stop, none => some .stop
  | .stop, some _ => none
  | _, none => none
  | .start, some p => if Shape.clientStart.accepts p then some .start else none
  | .started, some p => if Shape.accepts (.record []) p then some .started else none
  | .leave, some _ => none
  | .didOpen, some p => (opened? p).map .document
  | .didChange, some p => (changed? p).map .document
  | .didClose, some p => (closed? p).map .document
  | .hover, some p => (hover? p).map .question
  | .completion, some p => (completion? p).map .question
  | .resolve, some p => (CompletionItem.ofJson? p).map (.question ∘ .resolve)
  | .cancel, some p =>
    if Shape.accepts (.record [req "id" .numberOrText]) p then some .cancel else none
  | .unserved _ shape, some p => if shape.accepts p then some .unserved else none

end Method

end LangServer
