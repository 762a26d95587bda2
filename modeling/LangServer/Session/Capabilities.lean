import LangServer.Session.Parts

/-!
# What Clients Say of Themselves

The shapes of what a client sends when it introduces itself: the features that it supports,
subject by subject, and where it works.
-/

namespace LangServer.Shape

/-! ### Common parts -/

/-- Truth values that may be absent. -/
def flags (names : List String) : List (String × Presence × Shape) :=
  names.map fun n => opt n .bool

/-- Whether a feature can be switched on later. -/
def dynamic : Shape := .record (flags ["dynamicRegistration"])

/-- Whether a feature can be asked for anew. -/
def refreshing : Shape := .record (flags ["refreshSupport"])

/-- The properties that can be filled in later. -/
def resolving : Shape := .record [req "properties" (.list .text)]

/-- The numbers that are known. -/
def valueSet : Shape := .record [opt "valueSet" (.list .int)]

/-- The tags that are known, or only whether tags are. -/
def tagSupport : String × Presence × Shape :=
  ("tagSupport", .defaulted,
    .either .null (.either .bool (.record [req "valueSet" (.list .int)])))

/-- The kinds of markup that are known. -/
def markupKinds : Shape := .list markupKind

/-! ### The workspace -/

/-- Edits of several documents. -/
def workspaceEditSupport : Shape :=
  .record
    [opt "documentChanges" .bool,
     opt "resourceOperations" (.list (.oneOf ["create", "rename", "delete"])),
     opt "failureHandling"
       (.oneOf ["abort", "transactional", "textOnlyTransactional", "undo"]),
     opt "normalizesLineEndings" .bool,
     opt "changeAnnotationSupport" (.record (flags ["groupsOnLabel"]))]

/-- Symbols of the workspace. -/
def workspaceSymbolSupport : Shape :=
  .record
    [opt "dynamicRegistration" .bool, opt "symbolKind" valueSet, tagSupport,
     opt "resolveSupport" resolving]

/-- What concerns the workspace. -/
def workspaceSupport : Shape :=
  .record
    [opt "applyEdit" .bool, opt "workspaceEdit" workspaceEditSupport,
     opt "didChangeConfiguration" dynamic,
     opt "didChangeWatchedFiles"
       (.record (flags ["dynamicRegistration", "relativePatternSupport"])),
     opt "symbol" workspaceSymbolSupport, opt "executeCommand" dynamic,
     opt "workspaceFolders" .bool, opt "configuration" .bool,
     opt "semanticTokens" refreshing, opt "codeLens" refreshing,
     opt "fileOperations" (.record (flags
       ["dynamicRegistration", "didCreate", "willCreate", "didRename", "willRename",
        "didDelete", "willDelete"])),
     opt "inlineValue" refreshing, opt "inlayHint" refreshing, opt "diagnostic" refreshing]

/-! ### Documents -/

/-- Completion. -/
def completionSupport : Shape :=
  .record
    [opt "dynamicRegistration" .bool,
     opt "completionItem" (.record
       (flags ["snippetSupport", "commitCharactersSupport"] ++
        [opt "documentationFormat" markupKinds, opt "deprecatedSupport" .bool,
         opt "preselectSupport" .bool, tagSupport, opt "insertReplaceSupport" .bool,
         opt "resolveSupport" resolving,
         opt "insertTextModeSupport" (.record [req "valueSet" (.list .int)]),
         opt "labelDetailsSupport" .bool])),
     opt "completionItemKind" valueSet, opt "contextSupport" .bool,
     opt "insertTextMode" .int,
     opt "completionList" (.record [opt "itemDefaults" (.list .text)])]

/-- Help on signatures. -/
def signatureHelpSupport : Shape :=
  .record
    [opt "dynamicRegistration" .bool,
     opt "signatureInformation" (.record
       [opt "documentationFormat" markupKinds,
        opt "parameterInformation" (.record (flags ["labelOffsetSupport"])),
        opt "activeParameterSupport" .bool]),
     opt "contextSupport" .bool]

/-- Symbols of a document. -/
def documentSymbolSupport : Shape :=
  .record
    [opt "dynamicRegistration" .bool, opt "symbolKind" valueSet,
     opt "hierarchicalDocumentSymbolSupport" .bool, tagSupport]

/-- Actions. -/
def codeActionSupport : Shape :=
  .record
    [opt "dynamicRegistration" .bool,
     opt "codeActionLiteralSupport" (.record
       [req "codeActionKind" (.record [req "valueSet" (.list .text)])]),
     opt "isPreferredSupport" .bool, opt "disabledSupport" .bool, opt "dataSupport" .bool,
     opt "resolveSupport" resolving, opt "honorsChangeAnnotations" .bool]

/-- Folding. -/
def foldingRangeSupport : Shape :=
  .record
    [opt "dynamicRegistration" .bool, opt "rangeLimit" .word, opt "lineFoldingOnly" .bool,
     opt "foldingRangeKind" (.record
       [opt "valueSet" (.list (.oneOf ["comment", "imports", "region"]))]),
     opt "foldingRange" (.record (flags ["collapsedText"]))]

/-- Tokens by their meaning. -/
def semanticTokensSupport : Shape :=
  .record
    ([opt "dynamicRegistration" .bool,
      req "requests" (.record
        [opt "range" .bool,
         opt "full" (.either .bool (.object [opt "delta" .bool]))]),
      req "tokenTypes" (.list .text), req "tokenModifiers" (.list .text),
      req "formats" (.list .text)] ++
     flags ["overlappingTokenSupport", "multilineTokenSupport", "serverCancelSupport",
       "augmentsSyntaxTokens"])

/-- Places to go to. -/
def goto : Shape := .record (flags ["dynamicRegistration", "linkSupport"])

/-- What concerns documents. -/
def documentSupport : Shape :=
  .record
    [opt "synchronization"
       (.record (flags ["dynamicRegistration", "willSave", "willSaveWaitUntil", "didSave"])),
     opt "completion" completionSupport,
     opt "hover" (.record [opt "dynamicRegistration" .bool, opt "contentFormat" markupKinds]),
     opt "signatureHelp" signatureHelpSupport, opt "references" dynamic,
     opt "documentHighlight" dynamic, opt "documentSymbol" documentSymbolSupport,
     opt "formatting" dynamic, opt "rangeFormatting" dynamic, opt "onTypeFormatting" dynamic,
     opt "declaration" goto, opt "definition" goto, opt "typeDefinition" goto,
     opt "implementation" goto, opt "codeAction" codeActionSupport, opt "codeLens" dynamic,
     opt "documentLink" (.record (flags ["dynamicRegistration", "tooltipSupport"])),
     opt "colorProvider" dynamic,
     opt "rename" (.record
       [opt "dynamicRegistration" .bool, opt "prepareSupport" .bool,
        opt "prepareSupportDefaultBehavior" .int, opt "honorsChangeAnnotations" .bool]),
     opt "publishDiagnostics" (.record
       ([opt "relatedInformation" .bool, tagSupport] ++
        flags ["versionSupport", "codeDescriptionSupport", "dataSupport"])),
     opt "foldingRange" foldingRangeSupport, opt "selectionRange" dynamic,
     opt "linkedEditingRange" dynamic, opt "callHierarchy" dynamic,
     opt "semanticTokens" semanticTokensSupport, opt "moniker" dynamic,
     opt "typeHierarchy" dynamic, opt "inlineValue" dynamic,
     opt "inlayHint" (.record [opt "dynamicRegistration" .bool, opt "resolveSupport" resolving]),
     opt "diagnostic" (.record (flags ["dynamicRegistration", "relatedDocumentSupport"]))]

/-! ### The rest -/

/-- What concerns windows. -/
def windowSupport : Shape :=
  .record
    [opt "workDoneProgress" .bool,
     opt "showMessage" (.record
       [opt "messageActionItem" (.record (flags ["additionalPropertiesSupport"]))]),
     opt "showDocument" (.record [req "support" .bool])]

/-- What concerns the exchange itself. -/
def generalSupport : Shape :=
  .record
    [opt "regularExpressions" (.record [req "engine" .text, opt "version" .text]),
     opt "markdown" (.record
       [req "parser" .text, opt "version" .text, opt "allowedTags" (.list .text)]),
     opt "staleRequestSupport" (.record
       [req "cancel" .bool, req "retryOnContentModified" (.list .text)]),
     opt "positionEncodings" (.list .text)]

/-- What the client can do. -/
def clientCapabilities : Shape :=
  .record
    [opt "workspace" workspaceSupport, opt "textDocument" documentSupport,
     opt "window" windowSupport, opt "general" generalSupport, opt "experimental" .any]

/-- What the client says of itself at the start. -/
def clientStart : Shape :=
  .record
    [opt "processId" .word, opt "rootPath" .text, opt "rootUri" .uri,
     opt "initializationOptions" .any, req "capabilities" clientCapabilities,
     opt "trace" (.oneOf ["off", "messages", "verbose"]),
     opt "workspaceFolders" (.list folder),
     opt "clientInfo" (.record [req "name" .text, opt "version" .text]), opt "locale" .text]

end LangServer.Shape
