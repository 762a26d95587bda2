import LangServer.Session.Shape

/-!
# Parts of Parameters

The shapes from which the parameters of methods are made: places in documents, edits,
diagnostics, commands, and the tokens of requests that take long.
-/

namespace LangServer.Shape

/-! ### Tokens and places -/

/-- A number or a string. -/
def numberOrText : Shape := .either .int .text

/-- The token under which work is reported. -/
def work : List (String × Presence × Shape) := [opt "workDoneToken" numberOrText]

/-- The tokens under which work and parts of the answer are reported. -/
def tokens : List (String × Presence × Shape) :=
  work ++ [opt "partialResultToken" numberOrText]

/-- A place in a text. -/
def position : Shape := .record [req "line" .word, req "character" .word]

/-- A part of a text. -/
def range : Shape := .record [req "start" position, req "end" position]

/-- A document by its URI. -/
def document : Shape := .record [req "uri" .uri]

/-- The field of a document. -/
def inDocument : List (String × Presence × Shape) := [req "textDocument" document]

/-- The fields of a place in a document. -/
def atPosition : List (String × Presence × Shape) := inDocument ++ [req "position" position]

/-- A part of a document. -/
def location : Shape := .record [req "uri" .uri, req "range" range]

/-! ### Texts, commands and edits -/

/-- A kind of markup. -/
def markupKind : Shape := .oneOf ["plaintext", "markdown"]

/-- A string, or a text with its kind of markup. -/
def documentation : Shape :=
  .either .text (.record [req "kind" markupKind, req "value" .text])

/-- A command with its arguments. -/
def command : Shape :=
  .record [req "title" .text, req "command" .text, opt "arguments" (.list .any)]

/-- A part of a text with what is put there. -/
def textEdit : Shape := .record [req "range" range, req "newText" .text]

/-- Edits of a document. -/
def documentEdit : Shape :=
  .record
    [req "textDocument" (.record [req "uri" .uri, opt "version" .int]),
     req "edits" (.list textEdit)]

/-- Whether a file that is in the way is replaced or kept. -/
def placing : Shape := .record [opt "overwrite" .bool, opt "ignoreIfExists" .bool]

/-- What is done to a file as a whole. -/
def fileOperation : Shape :=
  .tagged "kind"
    [("create",
        .record [req "uri" .uri, opt "options" placing, opt "annotationId" .text]),
     ("rename",
        .record [req "oldUri" .uri, req "newUri" .uri, opt "options" placing,
          opt "annotationId" .text]),
     ("delete",
        .record [req "uri" .uri,
          opt "options" (.record
            [opt "recursive" .bool, opt "ignoreIfNotExists" .bool, opt "annotationId" .text])])]

/-- Edits of several documents. -/
def workspaceEdit : Shape :=
  .record
    [opt "changes" (.uriMap (.list textEdit)),
     opt "documentChanges"
       (.either (.list documentEdit) (.list (.either fileOperation documentEdit))),
     opt "changeAnnotations" (.map (.record
       [req "label" .text, opt "needsConfirmation" .bool, opt "description" .text]))]

/-- Options of formatting; an option that is not listed is a truth value, a number or a
string. -/
def formatting : Shape :=
  .objectWith
    [req "tabSize" .word, req "insertSpaces" .bool, opt "trimTrailingWhitespace" .bool,
     opt "insertFinalNewline" .bool, opt "trimFinalNewlines" .bool]
    (.either .bool numberOrText)

/-! ### Diagnostics, hints and help -/

/-- A diagnostic of the client. -/
def diagnostic : Shape :=
  .record
    [req "range" range, opt "severity" .int, opt "code" numberOrText,
     opt "codeDescription" (.record [req "href" .uri]), opt "source" .text,
     req "message" .text,
     opt "relatedInformation" (.list (.record [req "location" location, req "message" .text])),
     opt "tags" (.list .int), opt "data" .any]

/-- A part of the label of a hint. -/
def labelPart : Shape :=
  .record
    [req "value" .text, opt "tooltip" documentation, opt "location" location,
     opt "command" command]

/-- A hint between the characters of a text. -/
def inlayHint : Shape :=
  .record
    [req "position" position, req "label" (.either .text (.list labelPart)), opt "kind" .int,
     opt "textEdits" (.list textEdit), opt "tooltip" documentation, opt "paddingLeft" .bool,
     opt "paddingRight" .bool, opt "data" .any]

/-- A parameter of a signature, whose label is a text or a part of the signature's. -/
def parameterInformation : Shape :=
  .record
    [req "label" (.either .text (.pair .word)),
     opt "documentation" documentation]

/-- The help that is shown for a signature. -/
def signatureHelp : Shape :=
  .record
    [req "signatures" (.list (.record
       [req "label" .text, opt "documentation" documentation,
        opt "parameters" (.list parameterInformation), opt "activeParameter" .word])),
     opt "activeSignature" .word, opt "activeParameter" .word]

/-- What led to a question for help on a signature. -/
def signatureContext : Shape :=
  .record
    [req "triggerKind" .int, opt "triggerCharacter" .text, req "isRetrigger" .bool,
     opt "activeSignatureHelp" signatureHelp]

/-- What led to a question for completion. -/
def completionContext : Shape :=
  .record [req "triggerKind" .int, opt "triggerCharacter" .text]

/-- An action that is offered on a part of a document. -/
def codeAction : Shape :=
  .record
    [req "title" .text, opt "kind" .text, opt "diagnostics" (.list diagnostic),
     opt "edit" workspaceEdit, opt "command" command, opt "isPreferred" .bool,
     opt "disabled" (.record [req "reason" .text]), opt "data" .any]

/-! ### Hierarchies, symbols, folders and files -/

/-- An item of a hierarchy with its tags in some shape. -/
def hierarchyItem (tags : Shape) : Shape :=
  .record
    [req "name" .text, req "kind" .int, opt "tags" tags, opt "detail" .text, req "uri" .uri,
     req "range" range, req "selectionRange" range, opt "data" .any]

/-- A symbol somewhere in the workspace. -/
def workspaceSymbol : Shape :=
  .record
    [req "name" .text, req "kind" .int, opt "tags" (.list .int), opt "containerName" .text,
     req "location" (.either location document), opt "data" .any]

/-- A directory of the client. -/
def folder : Shape := .record [req "uri" .uri, req "name" .text]

/-- A list under the name `files`, each with some URIs as strings. -/
def files (names : List String) : Shape :=
  .record [req "files" (.list (.record (names.map fun n => req n .text)))]

/-- The saving of a document. -/
def saving : Shape := .record (inDocument ++ [req "reason" .int])

end LangServer.Shape
