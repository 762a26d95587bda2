import Mathlib.Logic.Function.Basic
import LangServer.Proofs.Mirror
import LangServer.Proofs.Verdicts

/-!
# Sessions without Settings

Where a session goes does not depend on its settings: they only decide how it puts what it has to
say. This module takes the two apart. An *outline* of a session goes through the phases, keeps a
copy of every open document, and finds out what each input is about: which document is to be
published, or for which place of which text a hover card is asked. Settings and symbols turn that
into a reply, for each input by itself.

Any law about two sessions that differ in their settings is then a law about one reply.

## Main definitions

* `Settings.Values`: the values that a server works with.
* `Outline.contents`: what some inputs are about, whatever the settings.
* `Content.reply`: how it is put under some values and symbols.

## Main statements

* `Session.Fills.next`, `Session.Fills.reply`: a session fills an outline in, step by step.
* `Session.replies_fresh`: the replies of a session are the contents of an outline, put in order.
-/

namespace LangServer

/-! ### Values -/

/-- The values that a server works with, be they set or not. -/
structure Settings.Values where
  source : String
  languageId : String
  diagnosticsEnabled : Bool
  diagnosticReport : Report
  completionEnabled : Bool
  hoverEnabled : Bool
  hoverSpan : Span
  logLevel : String
  deriving DecidableEq, Repr

/-- The values that some settings come to. -/
def Settings.values (s : Settings) : Settings.Values where
  source := s.source
  languageId := s.languageId
  diagnosticsEnabled := s.diagnosticsEnabled
  diagnosticReport := s.diagnosticReport
  completionEnabled := s.completionEnabled
  hoverEnabled := s.hoverEnabled
  hoverSpan := s.hoverSpan
  logLevel := s.logLevel

/-- The diagnostics of a text as they are published. -/
def Settings.Values.items (v : Settings.Values) (text : Text) : List PublishedDiagnostic :=
  if v.diagnosticsEnabled then
    (Diagnostic.scan text v.diagnosticReport).map (·.publish v.source)
  else []

/-! ### Contents and how they are put -/

/-- What an answer is about. -/
inductive Topic where
  | offer
  | done
  /-- What is to be shown at a column of a line, if there is such a line. -/
  | hover (place : Option (Text × Nat))
  | completion
  | resolve (item : CompletionItem)

/-- Something that is to be sent unasked. -/
inductive News where
  | logMessage (text : String)
  /-- A document, as it is now if it is open. -/
  | document (uri : Uri) (copy : Option Copy)

/-- What a reply is about. -/
inductive Content where
  | gone
  /-- A message with or without an id, what comes of it, and what is to be sent unasked. -/
  | message (id : Option Json) (outcome : Except Refusal Topic) (news : List News)
  /-- A query for the diagnostics of a document, as it is now if it is open. -/
  | query (copy : Option Copy)

section

variable (v : Settings.Values) (symbols : Symbols)

/-- How an answer is put. -/
def Topic.answer : Topic → Answer
  | .offer => .capabilities v.completionEnabled v.hoverEnabled
  | .done => .done
  | .hover place =>
    .hover (if v.hoverEnabled then
      place.bind fun (line, column) => hoverAt symbols v.languageId v.hoverSpan line column
    else none)
  | .completion => .completion (if v.completionEnabled then some symbols.completionItems else none)
  | .resolve item => .item (symbols.resolve item)

/-- How news are put. -/
def News.notice : News → Notice
  | .logMessage text => .logMessage text
  | .document uri copy =>
    .diagnostics uri ((copy.map fun c => v.items c.text).getD []) (copy.map Copy.version)

/-- How a reply is put. -/
def Content.reply : Content → Reply
  | .gone => .message .gone []
  | .message id outcome news =>
    .message (.of id (outcome.map (Topic.answer v symbols))) (news.map (News.notice v))
  | .query copy => .diagnostics (copy.map fun c => v.items c.text)

end

/-! ### Outlines -/

/-- What becomes of the copy of a document that an event is about. -/
def DocumentEvent.copy : DocumentEvent → Option Copy → Option Copy
  | .opened _ text version, _ => some ⟨text, version⟩
  | .changed _ version changes, c => c.map fun c => ⟨c.text.applyChanges changes, version⟩
  | .closed _, _ => none

/-- The news of the document that an event has left behind. -/
def DocumentEvent.news : DocumentEvent → Option Copy → List News
  | .closed uri, _ => [.document uri none]
  | e, copy => copy.toList.map fun c => .document e.uri (some c)

/-- The phase of a session and a copy of every open document. -/
structure Outline where
  phase : Phase := .fresh
  copies : Uri → Option Copy := fun _ => none

namespace Outline

/-- What a question is about. -/
def topic (o : Outline) : Question → Topic
  | .hover uri position =>
    .hover ((o.copies uri).bind fun c =>
      (c.text.line? position.line).map fun line => (line, position.column))
  | .completion _ => .completion
  | .resolve item => .resolve item

/-- What a call is about. -/
def perform (o : Outline) : Call → Outline × Except Refusal Topic × List News
  | .start => ({ o with phase := .running }, .ok .offer, [])
  | .started => (o, .ok .done, [.logMessage Session.greeting])
  | .document e =>
    let copy := e.copy (o.copies e.uri)
    ({ o with copies := Function.update o.copies e.uri copy }, .ok .done, e.news copy)
  | .question q => (o, .ok (o.topic q), [])
  | .stop | .cancel => (o, .ok .done, [])
  | .unserved => (o, .error .unservedMethod, [])

/-- What a verdict is about. -/
def carryOut (o : Outline) : Verdict → Outline × Content
  | .gone => (o, .gone)
  | .passed phase => ({ o with phase }, .message none (.ok .done) [])
  | .refused phase id reason => ({ o with phase }, .message id (.error reason) [])
  | .call phase id call =>
    let (o, outcome, news) := { o with phase }.perform call
    (o, .message id outcome news)

/-- What an input is about, and the outline after it. -/
def take (o : Outline) : Input → Outline × Content
  | .message m => o.carryOut (m.verdict o.phase)
  | .query u => (o, .query (o.copies u))

/-- What some inputs are about, one after another. -/
def contents (o : Outline) : List Input → List Content
  | [] => []
  | x :: xs => (o.take x).2 :: (o.take x).1.contents xs

end Outline

/-! ### Sessions fill outlines in -/

namespace Server

variable {s : Server} {copies : Uri → Option Copy}

/-- A server that holds a copy scans what becomes of it. -/
theorem Holds.apply {u : Uri} {copy : Option Copy} (h : s.Holds u copy) (e : DocumentEvent) :
    e.apply s.settings.diagnosticReport (s.documents.get? u) =
      (e.copy copy).map fun c => .ofText c.text c.version s.settings.diagnosticReport := by
  rw [Holds] at h
  cases e with
  | opened | closed => rfl
  | changed v version changes =>
      rw [DocumentEvent.apply, DocumentEvent.copy, h, Option.map_map, Option.map_map]
      rfl

/-- Copies of **all documents** are held on through an event. -/
theorem holds_follow (h : ∀ u, s.Holds u (copies u)) (e : DocumentEvent) (u : Uri) :
    (s.follow e).1.Holds u (Function.update copies e.uri (e.copy (copies e.uri)) u) := by
  rw [Holds, get?_follow, settings_follow, Function.update_apply]
  split
  next hu =>
    subst hu
    exact (h e.uri).apply e
  next => exact h u

/-- An event sends the news of the document that it leaves behind. -/
theorem notices_follow (h : ∀ u, s.Holds u (copies u)) (e : DocumentEvent) :
    (s.follow e).2.notices =
      (e.news (e.copy (copies e.uri))).map (News.notice s.settings.values) := by
  cases e with
  | opened | closed => rfl
  | changed u version changes =>
      have hu : s.documents.get? u = _ := h u
      rw [DocumentEvent.uri, DocumentEvent.copy]
      cases hcopy : copies u with
      | none =>
          rw [hcopy] at hu
          simp [follow, hu, DocumentEvent.news]
      | some c =>
          rw [hcopy] at hu
          simp only [follow, hu, Option.map_some]
          rfl

/-- A question is answered by what it is about. -/
theorem answer_eq (h : ∀ u, s.Holds u (copies u)) (phase : Phase) (q : Question) :
    (s.answer q).1 = (Outline.topic ⟨phase, copies⟩ q).answer s.settings.values s.symbols := by
  cases q with
  | resolve item => rfl
  | completion u =>
      by_cases hon : s.settings.completionEnabled <;>
        simp [answer, Outline.topic, Topic.answer, Settings.values, hon]
  | hover u p =>
      have hu : s.documents.get? u = _ := h u
      by_cases hon : s.settings.hoverEnabled
      · simp only [answer, Outline.topic, Topic.answer, Settings.values, hu, hon, if_true]
        cases copies u with
        | none => rfl
        | some c =>
            simp only [Option.map_some, Option.bind_some, Option.bind_map, hoverIn]
            rfl
      · simp [answer, Outline.topic, Topic.answer, Settings.values, hon]

end Server

namespace Session

/-- A session **fills** an outline in: it is in the phase of the outline, has documents where the
outline has copies, and works with these values and symbols. -/
structure Fills (v : Settings.Values) (symbols : Symbols) (s : Session) (o : Outline) : Prop where
  values : s.server.settings.values = v
  symbols : s.server.symbols = symbols
  phase : s.phase = o.phase
  holds : ∀ u, s.server.Holds u (o.copies u)

variable {v : Settings.Values} {symbols : Symbols} {s : Session} {o : Outline}

/-- The phase may be set in both. -/
theorem Fills.setPhase (h : s.Fills v symbols o) (phase : Phase) :
    Fills v symbols { s with phase } { o with phase } :=
  ⟨h.values, h.symbols, rfl, h.holds⟩

/-- A **call** is done as the outline has it. -/
theorem Fills.perform (h : s.Fills v symbols o) (call : Call) :
    (s.perform call).1.Fills v symbols (o.perform call).1 ∧
      (s.perform call).2.1 = (o.perform call).2.1.map (Topic.answer v symbols) ∧
      (s.perform call).2.2.notices = (o.perform call).2.2.map (News.notice v) := by
  -- Values and symbols are the session's own from here on, as the lemmas about servers have them.
  obtain ⟨rfl, rfl, hphase, hholds⟩ := h
  have hsame : s.Fills s.server.settings.values s.server.symbols o := ⟨rfl, rfl, hphase, hholds⟩
  cases call with
  | start => exact ⟨hsame.setPhase .running, rfl, rfl⟩
  | started | stop | cancel | unserved => exact ⟨hsame, rfl, rfl⟩
  | question q => exact ⟨hsame, congrArg _ (Server.answer_eq hholds o.phase q), rfl⟩
  | document e =>
      refine ⟨⟨?_, ?_, hphase, Server.holds_follow hholds e⟩, rfl, Server.notices_follow hholds e⟩
      · exact congrArg _ (s.server.settings_follow e)
      · exact s.server.symbols_follow e

/-- A **verdict** is carried out as the outline has it. -/
theorem Fills.carryOut (h : s.Fills v symbols o) (verdict : Verdict) :
    (s.carryOut verdict).session.Fills v symbols (o.carryOut verdict).1 ∧
      .message (s.carryOut verdict).response (s.carryOut verdict).effect.notices =
        (o.carryOut verdict).2.reply v symbols := by
  cases verdict with
  | gone => exact ⟨h, rfl⟩
  | passed phase => exact ⟨h.setPhase phase, rfl⟩
  | refused phase id reason => exact ⟨h.setPhase phase, rfl⟩
  | call phase id call =>
      obtain ⟨hnext, houtcome, hnotices⟩ := (h.setPhase phase).perform call
      refine ⟨hnext, ?_⟩
      rw [Session.carryOut, Outline.carryOut, Content.reply, ← houtcome, ← hnotices]

/-- **The next session** fills the next outline in. -/
theorem Fills.next (h : s.Fills v symbols o) (x : Input) :
    (s.next x).Fills v symbols (o.take x).1 := by
  cases x with
  | query u => exact h
  | message m =>
      rw [Session.next, Outline.take, step_eq_carryOut, h.phase]
      exact (h.carryOut _).1

/-- **The reply** is what the outline finds the input to be about, put under the values. -/
theorem Fills.reply (h : s.Fills v symbols o) (x : Input) :
    s.reply x = (o.take x).2.reply v symbols := by
  cases x with
  | query u =>
      have hu : s.server.documents.get? u = _ := h.holds u
      rw [Session.reply, Server.diagnostics?, hu, Option.map_map, ← h.values]
      rfl
  | message m =>
      rw [Session.reply, Outline.take, step_eq_carryOut, h.phase]
      exact (h.carryOut _).2

/-- The replies to some inputs are what the outline finds them to be about. -/
theorem Fills.replies (h : s.Fills v symbols o) (xs : List Input) :
    s.replies xs = (o.contents xs).map (Content.reply v symbols) := by
  induction xs generalizing s o with
  | nil => rfl
  | cons x xs ih => rw [Session.replies, Outline.contents, List.map_cons, h.reply, ih (h.next x)]

/-- **The replies of a session** are the contents of an outline, which knows no settings, put under
the values that the settings come to. -/
theorem replies_fresh (settings : Settings) (symbols : Symbols) (xs : List Input) :
    (fresh settings symbols).replies xs =
      (Outline.contents {} xs).map (Content.reply settings.values symbols) := by
  have hfills : (fresh settings symbols).Fills settings.values symbols {} :=
    ⟨rfl, rfl, rfl, fun _ => rfl⟩
  exact hfills.replies xs

end Session

end LangServer
