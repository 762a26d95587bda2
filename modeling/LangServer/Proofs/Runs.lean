import Mathlib.Tactic.SplitIfs
import LangServer.Session.Lifecycle

/-!
# Runs of a Session

A run is what a session makes of a list of messages, one after another. This module says once and
for all what a single message can do to the server behind the session: it reports a document event,
which the server follows, or it leaves the server as it was and publishes nothing. Whatever holds
along runs is derived from that.

A message is read here by the names of the protocol: `Message.reported?` and `Message.asked?` give
the document event and the question that its parameters spell out, without regard to its id, and
`Message.event?` and `Message.question?` those that it is entitled to, as a notification without an
id or as a request with one.

## Main definitions

* `Message.event?`, `Message.question?`: what a message reports and asks.
* `Session.after`, `Session.publications`: the session after a run, and what was published on it.
* `Session.MeetsRunning`: every message of a run finds the session running.

## Main statements

* `Session.step_of_reported?`, `Session.step_of_asked?`: what such messages do while running.
* `Session.step_quiet`: all other messages leave the server alone.
-/

namespace LangServer

/-- The document that an event is about. -/
def DocumentEvent.uri : DocumentEvent → Uri
  | .opened uri _ _ => uri
  | .changed uri _ _ => uri
  | .closed uri => uri

/-! ### Reading messages -/

namespace Message

/-- The document event that a message spells out, with or without an id. -/
def reported? (m : Message) : Option DocumentEvent :=
  m.params.bind fun p =>
    if m.method = "textDocument/didOpen" then Method.opened? p
    else if m.method = "textDocument/didChange" then Method.changed? p
    else if m.method = "textDocument/didClose" then Method.closed? p
    else none

/-- The question that a message spells out, with or without an id. -/
def asked? (m : Message) : Option Question :=
  m.params.bind fun p =>
    if m.method = "textDocument/hover" then Method.hover? p
    else if m.method = "textDocument/completion" then Method.completion? p
    else if m.method = "completionItem/resolve" then (CompletionItem.ofJson? p).map .resolve
    else none

/-- The document event that a message reports; a notification has no id. -/
def event? (m : Message) : Option DocumentEvent :=
  match m.id with
  | none => m.reported?
  | some _ => none

/-- The question that a message asks, and the id that the answer is marked with. -/
def question? (m : Message) : Option (Json × Question) :=
  m.id.bind fun id => m.asked?.map fun q => (id, q)

end Message

namespace Method

/-- A method that is known by a name is served under that name or not served at all. -/
theorem mem_served_or_unserved {name : String} {method : Method} (h : ofName? name = some method) :
    (name, method) ∈ served ∨ ∃ kind shape, method = .unserved kind shape := by
  rw [ofName?] at h
  rcases Option.or_eq_some_iff.mp h with h | ⟨-, h⟩
  · obtain ⟨before, after, hserved, -⟩ := List.lookup_eq_some_iff.mp h
    refine Or.inl ?_
    rw [hserved]
    exact List.mem_append_right _ List.mem_cons_self
  · right
    rcases Option.or_eq_some_iff.mp h with h | ⟨-, h⟩
    all_goals
      obtain ⟨shape, -, rfl⟩ := Option.map_eq_some_iff.mp h
      exact ⟨_, shape, rfl⟩

/-- No two names are served by the same method. -/
theorem name_unique {name name' : String} {method : Method} (hserved : (name', method) ∈ served)
    (h : ofName? name = some method) : name = name' := by
  have hmem := mem_served_or_unserved h
  cases method <;> simp [served] at hserved hmem <;> exact hmem.trans hserved.symm

/-- The methods that report document events, and how they read their parameters. -/
theorem call?_eq_document {method : Method} {params : Option Json} {e : DocumentEvent}
    (h : method.call? params = some (.document e)) :
    ∃ p, params = some p ∧
      (method = .didOpen ∧ opened? p = some e ∨ method = .didChange ∧ changed? p = some e ∨
        method = .didClose ∧ closed? p = some e) := by
  cases params with
  | none => cases method <;> simp [call?] at h
  | some p =>
      refine ⟨p, rfl, ?_⟩
      cases method <;> simp [call?] at h ⊢ <;> exact h

/-- The methods that ask questions, and how they read their parameters. -/
theorem call?_eq_question {method : Method} {params : Option Json} {q : Question}
    (h : method.call? params = some (.question q)) :
    ∃ p, params = some p ∧
      (method = .hover ∧ hover? p = some q ∨ method = .completion ∧ completion? p = some q ∨
        method = .resolve ∧ (CompletionItem.ofJson? p).map .resolve = some q) := by
  cases params with
  | none => cases method <;> simp [call?] at h
  | some p =>
      refine ⟨p, rfl, ?_⟩
      cases method <;> simp [call?] at h ⊢ <;> exact h

end Method

namespace Message

/-- A message spells out a document event exactly when its method calls for following it. -/
theorem reported?_eq_some_iff {m : Message} {e : DocumentEvent} :
    m.reported? = some e ↔
      ∃ method, Method.ofName? m.method = some method ∧
        method.call? m.params = some (.document e) := by
  constructor
  · intro h
    obtain ⟨p, hp, h⟩ := Option.bind_eq_some_iff.mp h
    split_ifs at h with h₁ h₂ h₃
    · exact ⟨.didOpen, h₁ ▸ rfl, by rw [hp, Method.call?, h]; rfl⟩
    · exact ⟨.didChange, h₂ ▸ rfl, by rw [hp, Method.call?, h]; rfl⟩
    · exact ⟨.didClose, h₃ ▸ rfl, by rw [hp, Method.call?, h]; rfl⟩
  · rintro ⟨method, hname, hcall⟩
    obtain ⟨p, hp, hread⟩ := Method.call?_eq_document hcall
    rcases hread with ⟨rfl, h⟩ | ⟨rfl, h⟩ | ⟨rfl, h⟩
    · have hmethod : m.method = "textDocument/didOpen" :=
        Method.name_unique (by simp [Method.served]) hname
      simp [reported?, hp, hmethod, h]
    · have hmethod : m.method = "textDocument/didChange" :=
        Method.name_unique (by simp [Method.served]) hname
      simp [reported?, hp, hmethod, h]
    · have hmethod : m.method = "textDocument/didClose" :=
        Method.name_unique (by simp [Method.served]) hname
      simp [reported?, hp, hmethod, h]

/-- A message spells out a question exactly when its method calls for answering it. -/
theorem asked?_eq_some_iff {m : Message} {q : Question} :
    m.asked? = some q ↔
      ∃ method, Method.ofName? m.method = some method ∧
        method.call? m.params = some (.question q) := by
  constructor
  · intro h
    obtain ⟨p, hp, h⟩ := Option.bind_eq_some_iff.mp h
    split_ifs at h with h₁ h₂ h₃
    · exact ⟨.hover, h₁ ▸ rfl, by rw [hp, Method.call?, h]; rfl⟩
    · exact ⟨.completion, h₂ ▸ rfl, by rw [hp, Method.call?, h]; rfl⟩
    · refine ⟨.resolve, h₃ ▸ rfl, ?_⟩
      rw [hp, Method.call?, ← Option.map_map, h]
      rfl
  · rintro ⟨method, hname, hcall⟩
    obtain ⟨p, hp, hread⟩ := Method.call?_eq_question hcall
    rcases hread with ⟨rfl, h⟩ | ⟨rfl, h⟩ | ⟨rfl, h⟩
    · have hmethod : m.method = "textDocument/hover" :=
        Method.name_unique (by simp [Method.served]) hname
      simp [asked?, hp, hmethod, h]
    · have hmethod : m.method = "textDocument/completion" :=
        Method.name_unique (by simp [Method.served]) hname
      simp [asked?, hp, hmethod, h]
    · have hmethod : m.method = "completionItem/resolve" :=
        Method.name_unique (by simp [Method.served]) hname
      simp [asked?, hp, hmethod, h]

end Message

/-! ### Publications -/

/-- The diagnostics of a document as they were sent. -/
structure Publication where
  uri : Uri
  items : List PublishedDiagnostic
  /-- The version that they belong to, if it is still open. -/
  version : Option Int

/-- The publication that a notice is, if it is one. -/
def Notice.publication? : Notice → Option Publication
  | .logMessage _ => none
  | .diagnostics uri items version => some ⟨uri, items, version⟩

/-- What an effect publishes. -/
def Effect.publications (e : Effect) : List Publication :=
  e.notices.filterMap Notice.publication?

/-- No notices, no publications. -/
@[simp] theorem Effect.publications_log (log : List LogLine) :
    ({ log := log } : Effect).publications = [] := rfl

/-- Sending diagnostics publishes them. -/
@[simp] theorem Server.publications_publication (uri : Uri) (items : List PublishedDiagnostic)
    (version : Option Int) :
    (Server.publication uri items version).publications = [⟨uri, items, version⟩] := rfl

/-! ### Document events -/

/-- What becomes of the document that an event is about. -/
def DocumentEvent.apply (report : Report) : DocumentEvent → Option Document → Option Document
  | .opened _ text version, _ => some (.ofText text version report)
  | .changed _ version changes, d => d.map (·.update changes version report)
  | .closed _, _ => none

namespace Server

/-- What is published for a document that an event has left behind. -/
def announcement (s : Server) : DocumentEvent → Option Document → List Publication
  | .closed uri, _ => [⟨uri, [], none⟩]
  | e, d => d.toList.map fun d => ⟨e.uri, s.published d, some d.version⟩

variable (s : Server) (e : DocumentEvent)

/-- An event changes nothing but the store. -/
theorem follow_eq : (s.follow e).1 = { s with documents := (s.follow e).1.documents } := by
  cases e with
  | opened | closed => rfl
  | changed uri version changes =>
      cases h : s.documents.get? uri <;> simp [follow, h, keep]

/-- Settings stay what they are. -/
@[simp] theorem settings_follow : (s.follow e).1.settings = s.settings := by
  rw [follow_eq]

/-- So do the names that the server knows. -/
@[simp] theorem symbols_follow : (s.follow e).1.symbols = s.symbols := by
  rw [follow_eq]

/-- **An event changes its own document** and no other one. -/
theorem get?_follow (v : Uri) :
    (s.follow e).1.documents.get? v =
      if v = e.uri then e.apply s.settings.diagnosticReport (s.documents.get? v)
      else s.documents.get? v := by
  cases e with
  | opened uri text version => exact s.documents.get?_insert uri v _
  | closed uri => exact s.documents.get?_erase uri v
  | changed uri version changes =>
      rw [DocumentEvent.uri, DocumentEvent.apply]
      cases h : s.documents.get? uri with
      | some d =>
          simp only [follow, h, keep, Store.get?_insert]
          split
          next hv => rw [hv, h, Option.map_some]
          next => rfl
      | none =>
          simp only [follow, h]
          split
          next hv => rw [hv, h, Option.map_none]
          next => rfl

/-- **An event publishes its own document** as it leaves it. -/
theorem publications_follow :
    (s.follow e).2.publications =
      s.announcement e (e.apply s.settings.diagnosticReport (s.documents.get? e.uri)) := by
  cases e with
  | opened | closed => rfl
  | changed uri version changes =>
      cases h : s.documents.get? uri <;>
        simp [follow, h, keep, DocumentEvent.uri, DocumentEvent.apply, announcement]

variable {s e} in
/-- An event publishes nothing but its own document. -/
theorem uri_of_mem_publications {p : Publication} (h : p ∈ (s.follow e).2.publications) :
    p.uri = e.uri := by
  rw [publications_follow] at h
  cases e with
  | opened | changed =>
      obtain ⟨d, -, rfl⟩ := List.mem_map.mp h
      rfl
  | closed u =>
      obtain rfl := List.mem_singleton.mp h
      rfl

/-- The server after some events. -/
def followAll (es : List DocumentEvent) : Server :=
  es.foldl (fun s e => (s.follow e).1) s

/-- No events change nothing. -/
@[simp] theorem followAll_nil : s.followAll [] = s := rfl

/-- The first event comes first. -/
@[simp] theorem followAll_cons (es : List DocumentEvent) :
    s.followAll (e :: es) = (s.follow e).1.followAll es := rfl

/-- What is published on the way through some events, in order. -/
def publications (s : Server) : List DocumentEvent → List Publication
  | [] => []
  | e :: es => (s.follow e).2.publications ++ (s.follow e).1.publications es

/-- Settings stay what they are along a run. -/
@[simp] theorem settings_followAll (es : List DocumentEvent) :
    (s.followAll es).settings = s.settings := by
  induction es generalizing s with
  | nil => rfl
  | cons e es ih => rw [followAll_cons, ih, settings_follow]

/-- So do the names that the server knows. -/
@[simp] theorem symbols_followAll (es : List DocumentEvent) :
    (s.followAll es).symbols = s.symbols := by
  induction es generalizing s with
  | nil => rfl
  | cons e es ih => rw [followAll_cons, ih, symbols_follow]

end Server

/-! ### One message -/

namespace Session

variable {s : Session} {m : Message}

/-- A **document event** is followed without an answer, and refused with one. -/
theorem step_of_reported? {e : DocumentEvent} (hs : s.phase = .running)
    (h : m.reported? = some e) :
    s.step m = match m.id with
      | none => ⟨{ s with server := (s.server.follow e).1 }, .silent, (s.server.follow e).2⟩
      | some id => ⟨s, .refused id .misplaced, {}⟩ := by
  obtain ⟨method, hname, hcall⟩ := Message.reported?_eq_some_iff.mp h
  obtain ⟨p, hp, hread⟩ := Method.call?_eq_document hcall
  rcases hread with ⟨rfl, -⟩ | ⟨rfl, -⟩ | ⟨rfl, -⟩
  all_goals
    cases hid : m.id <;>
      simp [step, hs, hname, Phase.objection?, enter, handle, Method.kind, hid, hcall, perform,
        Response.of]

/-- A **question** is answered if an answer is wanted, and nothing else comes of it. -/
theorem step_of_asked? {q : Question} (hs : s.phase = .running) (h : m.asked? = some q) :
    s.step m = match m.id with
      | none => ⟨s, .silent, {}⟩
      | some id => ⟨s, .result id (s.server.answer q).1, { log := (s.server.answer q).2 }⟩ := by
  obtain ⟨method, hname, hcall⟩ := Message.asked?_eq_some_iff.mp h
  obtain ⟨p, hp, hread⟩ := Method.call?_eq_question hcall
  rcases hread with ⟨rfl, -⟩ | ⟨rfl, -⟩ | ⟨rfl, -⟩
  all_goals
    cases hid : m.id <;>
      simp [step, hs, hname, Phase.objection?, enter, handle, Method.kind, hid, hcall, perform,
        Response.of]

/-- What a message reports is followed. -/
theorem step_of_event? {e : DocumentEvent} (hs : s.phase = .running) (h : m.event? = some e) :
    s.step m = ⟨{ s with server := (s.server.follow e).1 }, .silent, (s.server.follow e).2⟩ := by
  rw [Message.event?] at h
  split at h
  next hid => rw [step_of_reported? hs h, hid]
  next => cases h

/-- What a message asks is answered. -/
theorem step_of_question? {id : Json} {q : Question} (hs : s.phase = .running)
    (h : m.question? = some (id, q)) :
    s.step m = ⟨s, .result id (s.server.answer q).1, { log := (s.server.answer q).2 }⟩ := by
  obtain ⟨id', hid, h⟩ := Option.bind_eq_some_iff.mp h
  obtain ⟨q', hq, h⟩ := Option.map_eq_some_iff.mp h
  obtain ⟨rfl, rfl⟩ := Prod.mk.inj h
  rw [step_of_asked? hs hq, hid]

/-- Only a document event changes the server or publishes anything. -/
theorem perform_quiet {call : Call} (h : ∀ e, call ≠ .document e) :
    (s.perform call).1.server = s.server ∧ (s.perform call).2.2.publications = [] := by
  cases call with
  | document e => exact absurd rfl (h e)
  | start | started | stop | question | cancel | unserved => exact ⟨rfl, rfl⟩

/-- What an admitted message does comes from its call, if it has an id just when it wants an
answer, and is nothing otherwise. -/
theorem handle_quiet {method : Method}
    (h : m.id = none → ∀ e, method.call? m.params ≠ some (.document e)) :
    (s.handle method m).session.server = s.server ∧
      (s.handle method m).effect.publications = [] := by
  rw [handle]
  split
  · exact ⟨rfl, rfl⟩
  · exact ⟨rfl, rfl⟩
  next hnotification _ =>
    split
    · exact ⟨rfl, rfl⟩
    next call hcall =>
      refine perform_quiet ?_
      rintro e rfl
      obtain ⟨p, -, hread⟩ := Method.call?_eq_document hcall
      have hkind : method.kind = .notification := by
        rcases hread with ⟨rfl, -⟩ | ⟨rfl, -⟩ | ⟨rfl, -⟩ <;> rfl
      cases hid : m.id with
      | none => exact h hid e hcall
      | some id => exact hnotification id hkind hid

/-- Only a running session takes part in document events. -/
theorem eq_running_of_objection?_eq_none {phase : Phase} {method : Method} {params : Option Json}
    {e : DocumentEvent} (hcall : method.call? params = some (.document e))
    (hgone : phase ≠ .gone) (h : phase.objection? method = none) : phase = .running := by
  obtain ⟨p, -, hread⟩ := Method.call?_eq_document hcall
  rcases hread with ⟨rfl, -⟩ | ⟨rfl, -⟩ | ⟨rfl, -⟩
  all_goals
    cases phase with
    | running => rfl
    | gone => exact absurd rfl hgone
    | fresh | closing => cases h

/-- **Every other message** leaves the server as it was and publishes nothing. -/
theorem step_quiet (h : s.phase = .running → m.event? = none) :
    (s.step m).session.server = s.server ∧ (s.step m).effect.publications = [] := by
  rw [step]
  split
  · exact ⟨rfl, rfl⟩
  next hgone =>
    split
    · split <;> exact ⟨rfl, rfl⟩
    · exact ⟨rfl, rfl⟩
    next method _ hname =>
      split
      · exact ⟨rfl, rfl⟩
      next hadmitted =>
        have hserver : (s.enter method).server = s.server := by cases method <;> rfl
        rw [← hserver]
        refine handle_quiet fun hid e hcall => ?_
        have hrunning := eq_running_of_objection?_eq_none hcall hgone hadmitted
        have hreport : m.reported? = some e :=
          Message.reported?_eq_some_iff.mpr ⟨method, hname, hcall⟩
        have hnone := h hrunning
        rw [Message.event?, hid] at hnone
        exact absurd (hreport.symm.trans hnone) (by simp)

/-! ### Many messages -/

/-- The session after some messages. -/
def after (s : Session) (ms : List Message) : Session :=
  ms.foldl (fun s m => (s.step m).session) s

/-- What a session publishes on the way through some messages, in order. -/
def publications (s : Session) : List Message → List Publication
  | [] => []
  | m :: ms => (s.step m).effect.publications ++ (s.step m).session.publications ms

/-- Whether each of some messages finds the session **running**. -/
def MeetsRunning (s : Session) : List Message → Prop
  | [] => True
  | m :: ms => s.phase = .running ∧ (s.step m).session.MeetsRunning ms

/-- The first message comes first. -/
@[simp] theorem after_cons (s : Session) (m : Message) (ms : List Message) :
    s.after (m :: ms) = (s.step m).session.after ms := rfl

/-- **Document events one after another** are all that a run of them comes to. -/
theorem after_of_events {ms : List Message} {es : List DocumentEvent} (hs : s.phase = .running)
    (h : ms.map Message.event? = es.map some) :
    s.after ms = { s with server := s.server.followAll es } := by
  induction ms generalizing s es with
  | nil =>
      obtain rfl : es = [] := List.map_eq_nil_iff.mp h.symm
      rfl
  | cons m ms ih =>
      cases es with
      | nil => cases h
      | cons e es =>
          obtain ⟨hm, hms⟩ := List.cons.inj h
          rw [after_cons, step_of_event? hs hm]
          exact ih hs hms

/-- A session that has just begun to run, with nothing open. -/
def begun (settings : Settings) (symbols : Symbols) : Session where
  phase := .running
  server := { settings, symbols }

/-- The server behind a running session has followed the **document events** of the messages, and
nothing else. -/
theorem server_after {ms : List Message} (h : s.MeetsRunning ms) :
    (s.after ms).server = s.server.followAll (ms.filterMap Message.event?) := by
  induction ms generalizing s with
  | nil => rfl
  | cons m ms ih =>
      obtain ⟨hs, hms⟩ := h
      rw [after_cons, ih hms]
      cases hm : m.event? with
      | none => rw [List.filterMap_cons_none hm, (step_quiet fun _ => hm).1]
      | some e => rw [List.filterMap_cons_some hm, step_of_event? hs hm, Server.followAll_cons]

/-- What a running session publishes comes from the **document events** of the messages. -/
theorem publications_eq {ms : List Message} (h : s.MeetsRunning ms) :
    s.publications ms = s.server.publications (ms.filterMap Message.event?) := by
  induction ms generalizing s with
  | nil => rfl
  | cons m ms ih =>
      obtain ⟨hs, hms⟩ := h
      rw [publications, ih hms]
      cases hm : m.event? with
      | none =>
          obtain ⟨hserver, hnone⟩ := step_quiet fun (_ : s.phase = .running) => hm
          rw [List.filterMap_cons_none hm, hserver, hnone, List.nil_append]
      | some e => rw [List.filterMap_cons_some hm, step_of_event? hs hm, Server.publications]

end Session

end LangServer
