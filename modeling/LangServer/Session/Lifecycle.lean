import LangServer.Session.Method

/-!
# The Life of a Session

A session goes through four phases: it is fresh until the client has introduced itself, runs
until it is told to stop, then closes, and is gone once it is told to leave. Each message is
looked at in a fixed order: is the session gone, is the method known, does the phase admit it, is
there an id where one belongs, and do the parameters fit. The first thing that is wrong decides
what is answered.

A message without an id is never answered, whatever is wrong with it.

## Main definitions

* `Session.step`: what one message does.
-/

namespace LangServer

/-- How far a session has come: the client has not introduced itself, the server works, the server
was told to stop, or it has left. -/
inductive Phase where
  | fresh
  | running
  | closing
  | gone
  deriving DecidableEq, Repr

/-- Why a request is refused. -/
inductive Refusal where
  | notStarted
  | misplaced
  | unservedMethod
  | badParameters
  deriving DecidableEq, Repr

/-- The number of a refusal. -/
def Refusal.code : Refusal → Int
  | .notStarted => -32002
  | .misplaced => -32600
  | .unservedMethod => -32601
  | .badParameters => -32602

/-- A message of the client. -/
structure Message where
  method : String
  id : Option Json
  params : Option Json

/-- What comes back for a message. -/
inductive Response where
  | silent
  /-- Nothing, ever again. -/
  | gone
  | result (id : Json) (answer : Answer)
  | refused (id : Json) (reason : Refusal)

/-- The response to a message with or without an id. -/
def Response.of (id : Option Json) (outcome : Except Refusal Answer) : Response :=
  match id, outcome with
  | none, _ => .silent
  | some id, .ok answer => .result id answer
  | some id, .error reason => .refused id reason

/-- Why a phase does not admit a method, if it does not. A request may be given up in any
phase. -/
def Phase.objection? (phase : Phase) (method : Method) : Option Refusal :=
  match phase, method with
  | _, .cancel => none
  | .fresh, .start => none
  | _, .start => some .misplaced
  | .fresh, _ => some .notStarted
  | .closing, _ => some .misplaced
  | _, _ => none

/-- A server with the phase that it is in. -/
structure Session where
  phase : Phase := .fresh
  server : Server

namespace Session

/-- What a message leads to. -/
structure Outcome where
  session : Session
  response : Response
  effect : Effect := {}

/-- The greeting to a client. -/
def greeting : String := "Buglang LSP server initialized"

/-- Does what a call asks for. -/
def perform (s : Session) : Call → Session × Except Refusal Answer × Effect
  | .start => ({ s with phase := .running }, .ok s.server.capabilities, {})
  | .started =>
    (s, .ok .done, { notices := [.logMessage greeting], log := [Server.info greeting] })
  | .stop => (s, .ok .done, { log := [Server.info "shutdown requested"] })
  | .document event =>
    let (server, effect) := s.server.follow event
    ({ s with server }, .ok .done, effect)
  | .question q =>
    let (answer, log) := s.server.answer q
    (s, .ok answer, { log })
  | .cancel => (s, .ok .done, {})
  | .unserved => (s, .error .unservedMethod, {})

/-- The session once a method has been admitted: a request to stop closes it at once. -/
def enter (s : Session) : Method → Session
  | .stop => { s with phase := .closing }
  | _ => s

/-- What an admitted message does. An id belongs to requests and to nothing else. -/
def handle (s : Session) (method : Method) (m : Message) : Outcome :=
  match method.kind, m.id with
  | .notification, some id => ⟨s, .refused id .misplaced, {}⟩
  | .request, none => ⟨s, .silent, {}⟩
  | _, id =>
    match method.call? m.params with
    | none => ⟨s, .of id (.error .badParameters), {}⟩
    | some call =>
      let (s, outcome, effect) := s.perform call
      ⟨s, .of id outcome, effect⟩

/-- What a message does. -/
def step (s : Session) (m : Message) : Outcome :=
  if s.phase = .gone then ⟨s, .gone, {}⟩
  else match Method.ofName? m.method with
    | none =>
      if Method.isReserved m.method then ⟨s, .silent, {}⟩
      else ⟨s, .of m.id (.error .unservedMethod), {}⟩
    | some .leave => ⟨{ s with phase := .gone }, .silent, {}⟩
    | some method =>
      match s.phase.objection? method with
      | some reason => ⟨s, .of m.id (.error reason), {}⟩
      | none => (s.enter method).handle method m

end Session

end LangServer
