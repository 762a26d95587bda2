import LangServer.Session.Lifecycle

/-!
# JSON Forms of a Session

How messages of the client are read, and how answers and notices are written.
-/

namespace LangServer

/-- Reads a message. An id or parameters that are `null` count as given. -/
def Message.ofJson? (j : Json) : Option Message := do
  let method ← j.required "method" Json.str?
  return ⟨method, j.field? "id", j.field? "params"⟩

/-- The name and the version of the server. -/
def serverInfo : Json :=
  .obj [("name", .str "buglang-lsp"), ("version", .str "0.1.0")]

/-- What the server offers: changes of documents part by part, and what is switched on. -/
def capabilitiesJson (withCompletion withHover : Bool) : Json :=
  .objOf
    [("textDocumentSync", some (.nat 2)),
     ("completionProvider",
       if withCompletion then some (.obj [("resolveProvider", .bool true)]) else none),
     ("hoverProvider", if withHover then some (.bool true) else none)]

/-- Writes an answer. -/
def Answer.toJson : Answer → Json
  | .capabilities withCompletion withHover =>
    .obj [("capabilities", capabilitiesJson withCompletion withHover), ("serverInfo", serverInfo)]
  | .done => .null
  | .hover card => .ofOption (card.map (·.toJson))
  | .completion items => .ofOption (items.map fun is => .arr (is.map (·.toJson)))
  | .item it => it.toJson

/-- The method under which a notice is sent. -/
def Notice.method : Notice → String
  | .logMessage _ => "window/logMessage"
  | .diagnostics _ _ _ => "textDocument/publishDiagnostics"

/-- The parameters of a notice. -/
def Notice.params : Notice → Json
  | .logMessage text => .obj [("type", .nat 3), ("message", .str text)]
  | .diagnostics uri items version =>
    .objOf [("uri", some (.str uri.text)), ("diagnostics", some (.arr (items.map (·.toJson)))),
      ("version", version.map .int)]

/-! ### What is sent -/

/-- Something that the server sends. -/
inductive Outgoing where
  | result (id : Json) (answer : Answer)
  | refused (id : Json) (reason : Refusal)
  | notice (notice : Notice)

/-- What goes out for a response. -/
def Response.outgoing : Response → List Outgoing
  | .silent | .gone => []
  | .result id answer => [.result id answer]
  | .refused id reason => [.refused id reason]

/-- The wording of a refusal. -/
def Refusal.message : Refusal → String
  | .notStarted => "Server not initialized"
  | .misplaced => "Invalid request"
  | .unservedMethod => "Method not found"
  | .badParameters => "Invalid params"

/-- An error of the protocol, with the id of the message that it belongs to. -/
def errorJson (id : Json) (code : Int) (message : String) : Json :=
  .obj [("jsonrpc", .str "2.0"), ("error", .obj [("code", .int code), ("message", .str message)]),
    ("id", id)]

/-- Writes what the server sends. -/
def Outgoing.toJson : Outgoing → Json
  | .result id answer =>
    .obj [("jsonrpc", .str "2.0"), ("result", answer.toJson), ("id", id)]
  | .refused id reason => errorJson id reason.code reason.message
  | .notice n =>
    .obj [("jsonrpc", .str "2.0"), ("method", .str n.method), ("params", n.params)]

/-- The error for what is no message at all. -/
def unreadableJson : Json :=
  errorJson .null (-32700) "Parse error"

end LangServer
