import Mathlib.Logic.Function.Basic
import LangServer.Proofs.Runs

/-!
# What is Kept and What is Published

The server keeps three things of a document that have to agree: its text, the diagnostics of the
last scan, and what the client was told last. This module shows that they do after any messages,
whatever ranges their changes have.

## The register

What a run ought to publish is read off the document events alone, by a register of the open
documents and their versions (`DocumentEvent.register`). Opening a document enters it, also when it
is entered already; a change gives an entered document its version and passes over any other one;
closing strikes it out. A document is published when it is opened, when it changes while it is
entered, and when it is closed, entered or not.

## Main statements

* `Server.Coherent.follow`: one event keeps texts, diagnostics and publications together.
* `Session.publications_coherent`: so do any messages that find the session running.
-/

namespace LangServer

namespace DocumentEvent

/-- The versions of the open documents after an event. -/
def register (versions : Uri → Option Int) : DocumentEvent → Uri → Option Int
  | .opened u _ version => Function.update versions u (some version)
  | .changed u version _ => Function.update versions u ((versions u).map fun _ => version)
  | .closed u => Function.update versions u none

/-- The versions of the open documents after some events; nothing is open before them. -/
def registerAll (es : List DocumentEvent) : Uri → Option Int :=
  es.foldl register fun _ => none

/-- Whether an event is to be published: a change only if the document is open. -/
def isPublished (versions : Uri → Option Int) : DocumentEvent → Bool
  | .opened _ _ _ => true
  | .changed u _ _ => (versions u).isSome
  | .closed _ => true

/-- The documents that are **to be published** on the way through some events, in order. -/
def toPublish (versions : Uri → Option Int) : List DocumentEvent → List Uri
  | [] => []
  | e :: es =>
    (if e.isPublished versions then [e.uri] else []) ++ toPublish (e.register versions) es

end DocumentEvent

namespace Publication

/-- The last of some publications that is about a document. -/
def last? (u : Uri) (ps : List Publication) : Option Publication :=
  ps.reverse.find? (·.uri = u)

/-- A publication at the end is the last one about its document. -/
theorem last?_concat_self (ps : List Publication) (p : Publication) :
    last? p.uri (ps ++ [p]) = some p := by
  simp [last?]

/-- Publications about other documents do not count. -/
theorem last?_append_of_ne {u : Uri} (ps : List Publication) {qs : List Publication}
    (h : ∀ q ∈ qs, q.uri ≠ u) : last? u (ps ++ qs) = last? u ps := by
  have hnone : qs.reverse.find? (·.uri = u) = none := by
    rw [List.find?_eq_none]
    intro q hq
    simpa using h q (List.mem_reverse.mp hq)
  rw [last?, List.reverse_append, List.find?_append, hnone]
  rfl

end Publication

namespace Server

/-- What a server keeps, a register of versions and what has been published **agree**. -/
structure Coherent (s : Server) (versions : Uri → Option Int) (ps : List Publication) : Prop where
  scanned : ∀ u d, s.documents.get? u = some d →
    d.diagnostics = Diagnostic.scan d.text s.settings.diagnosticReport
  registered : ∀ u, (s.documents.get? u).map Document.version = versions u
  /-- What was published last of an open document is what is kept of it. -/
  current : ∀ u d, s.documents.get? u = some d →
    Publication.last? u ps = some ⟨u, s.published d, some d.version⟩
  /-- What was published last of any other document is that there is nothing. -/
  cleared : ∀ u p, s.documents.get? u = none → Publication.last? u ps = some p →
    p = ⟨u, [], none⟩

/-- Nothing is kept and nothing published at first. -/
theorem coherent_begun (settings : Settings) (symbols : Symbols) :
    (Session.begun settings symbols).server.Coherent (fun _ => none) [] := by
  refine ⟨?_, ?_, ?_, ?_⟩
  · intro u d h
    cases h
  · intro u
    rfl
  · intro u d h
    cases h
  · intro u p _ h
    cases h

variable {s : Server} {versions : Uri → Option Int} {ps : List Publication}

/-- A document is scanned whenever an event has left it behind. -/
theorem diagnostics_of_apply {report : Report} {e : DocumentEvent} {old : Option Document}
    {d : Document} (h : e.apply report old = some d) :
    d.diagnostics = Diagnostic.scan d.text report := by
  cases e with
  | opened u text version =>
      obtain rfl := Option.some.inj h
      rfl
  | changed u version changes =>
      obtain ⟨d', -, rfl⟩ := Option.map_eq_some_iff.mp h
      rfl
  | closed u => cases h

/-- The register follows the documents. -/
theorem version_apply (report : Report) (e : DocumentEvent) {old : Option Document}
    (h : old.map Document.version = versions e.uri) :
    (e.apply report old).map Document.version = e.register versions e.uri := by
  cases e with
  | opened | closed =>
      simp [DocumentEvent.apply, DocumentEvent.register, DocumentEvent.uri, Document.ofText]
  | changed u version changes =>
      rw [DocumentEvent.uri] at h
      rw [DocumentEvent.register, DocumentEvent.uri, Function.update_self, ← h]
      cases old <;> rfl

/-- An event enters nothing for other documents. -/
theorem register_of_ne {e : DocumentEvent} {v : Uri} (h : v ≠ e.uri) :
    e.register versions v = versions v := by
  cases e <;> exact Function.update_of_ne h _ _

/-- The register stays that of the open documents. -/
theorem registered_follow (h : ∀ u, (s.documents.get? u).map Document.version = versions u)
    (e : DocumentEvent) (u : Uri) :
    ((s.follow e).1.documents.get? u).map Document.version = e.register versions u := by
  rw [get?_follow]
  split
  next hu =>
    subst hu
    exact version_apply _ e (h e.uri)
  next hu =>
    rw [register_of_ne hu]
    exact h u

/-- The last publication about an open document that an event has left behind. -/
theorem last?_announcement_of_some {e : DocumentEvent} {report : Report} {old : Option Document}
    {d : Document} (h : e.apply report old = some d) (ps : List Publication) :
    Publication.last? e.uri (ps ++ s.announcement e (some d)) =
      some ⟨e.uri, s.published d, some d.version⟩ := by
  cases e with
  | opened | changed => exact Publication.last?_concat_self ps ⟨_, s.published d, some d.version⟩
  | closed u => cases h

/-- The last publication about a document that an event has left closed. -/
theorem last?_announcement_of_none {e : DocumentEvent} {report : Report} {old : Option Document}
    (h : e.apply report old = none) (ps : List Publication) :
    Publication.last? e.uri (ps ++ s.announcement e none) = some ⟨e.uri, [], none⟩ ∨
      old = none ∧
        Publication.last? e.uri (ps ++ s.announcement e none) = Publication.last? e.uri ps := by
  cases e with
  | opened => cases h
  | changed u version changes =>
      refine Or.inr ⟨Option.map_eq_none_iff.mp h, ?_⟩
      rw [announcement, Option.toList_none, List.map_nil, List.append_nil]
      simp
  | closed u => exact Or.inl (Publication.last?_concat_self ps ⟨u, [], none⟩)

/-- **One event** keeps texts, diagnostics and publications together. -/
theorem Coherent.follow (h : s.Coherent versions ps) (e : DocumentEvent) :
    (s.follow e).1.Coherent (e.register versions) (ps ++ (s.follow e).2.publications) := by
  have hpublished : (s.follow e).1.published = s.published := by
    funext d
    rw [published, published, settings_follow]
  have hother : ∀ v, v ≠ e.uri →
      Publication.last? v (ps ++ (s.follow e).2.publications) = Publication.last? v ps := by
    intro v hv
    refine Publication.last?_append_of_ne ps fun q hq => ?_
    rw [uri_of_mem_publications hq]
    exact hv.symm
  refine ⟨?_, ?_, ?_, ?_⟩
  · intro v d hd
    rw [settings_follow]
    rw [get?_follow] at hd
    split at hd
    · exact diagnostics_of_apply hd
    · exact h.scanned v d hd
  · exact registered_follow h.registered e
  · intro v d hd
    rw [get?_follow] at hd
    rw [hpublished]
    split at hd
    next hv =>
      subst hv
      rw [publications_follow, hd]
      exact last?_announcement_of_some hd ps
    next hv =>
      rw [hother v hv]
      exact h.current v d hd
  · intro v p hd hp
    rw [get?_follow] at hd
    split at hd
    next hv =>
      subst hv
      rw [publications_follow, hd] at hp
      rcases last?_announcement_of_none hd ps with hlast | ⟨hold, hlast⟩
      · exact (Option.some.inj (hp.symm.trans hlast))
      · exact h.cleared e.uri p hold (hlast.symm.trans hp)
    next hv =>
      rw [hother v hv] at hp
      exact h.cleared v p hd hp

/-- **Many events** keep them together. -/
theorem Coherent.followAll (h : s.Coherent versions ps) (es : List DocumentEvent) :
    (s.followAll es).Coherent (es.foldl DocumentEvent.register versions)
      (ps ++ s.publications es) := by
  induction es generalizing s versions ps with
  | nil =>
      rw [publications, List.append_nil]
      exact h
  | cons e es ih =>
      rw [publications, ← List.append_assoc]
      exact ih (h.follow e)

/-- **What is published** is what the register asks for. -/
theorem uri_publications (h : ∀ u, (s.documents.get? u).map Document.version = versions u)
    (es : List DocumentEvent) :
    (s.publications es).map Publication.uri = DocumentEvent.toPublish versions es := by
  induction es generalizing s versions with
  | nil => rfl
  | cons e es ih =>
      rw [publications, List.map_append, ih (registered_follow h e), DocumentEvent.toPublish,
        publications_follow]
      congr 1
      cases e with
      | opened | closed => rfl
      | changed u version changes =>
          simp only [DocumentEvent.uri, DocumentEvent.apply, DocumentEvent.isPublished, ← h u]
          cases s.documents.get? u <;> rfl

end Server

namespace Session

/-- **Store and publications are coherent.** After any messages that find the session running, the
diagnostics of every document are those of its text; one publication was sent for every opening,
every change of an open document and every closing, in order, and no other one; and the last
publication about a document is what the server says about it now, under the version that it has
now, or that there is nothing if it is not open. -/
theorem publications_coherent (settings : Settings) (symbols : Symbols) (ms : List Message)
    (h : (begun settings symbols).MeetsRunning ms) :
    let server := ((begun settings symbols).after ms).server
    let published := (begun settings symbols).publications ms
    let events := ms.filterMap Message.event?
    (∀ u d, server.documents.get? u = some d →
      d.diagnostics = Diagnostic.scan d.text settings.diagnosticReport) ∧
    published.map Publication.uri = DocumentEvent.toPublish (fun _ => none) events ∧
    ∀ u, match DocumentEvent.registerAll events u with
      | some version =>
        ∃ d items, server.documents.get? u = some d ∧ d.version = version ∧
          server.diagnostics? u = some items ∧
          Publication.last? u published = some ⟨u, items, some version⟩
      | none =>
        server.diagnostics? u = none ∧
          ∀ p, Publication.last? u published = some p → p = ⟨u, [], none⟩ := by
  intro server published events
  have hbegun := Server.coherent_begun settings symbols
  have hcoherent := hbegun.followAll events
  rw [List.nil_append, ← server_after h, ← publications_eq h] at hcoherent
  refine ⟨?_, ?_, ?_⟩
  · intro u d hd
    have hsettings : server.settings = settings := by
      rw [show server = _ from server_after h, Server.settings_followAll]
      rfl
    rw [← hsettings]
    exact hcoherent.scanned u d hd
  · rw [show published = _ from publications_eq h]
    exact Server.uri_publications hbegun.registered events
  · intro u
    rw [show DocumentEvent.registerAll events u = _ from (hcoherent.registered u).symm]
    cases hd : server.documents.get? u with
    | some d =>
        refine ⟨d, server.published d, rfl, rfl, ?_, hcoherent.current u d hd⟩
        rw [Server.diagnostics?, hd]
        rfl
    | none =>
        refine ⟨?_, fun p => hcoherent.cleared u p hd⟩
        rw [Server.diagnostics?, hd]
        rfl

/-- One document is opened, changed over a range that is the wrong way round and too far, and
opened again; between that, a document that is not open is changed, and one that never was open is
closed. -/
def mixedMessages : List Message :=
  [⟨"textDocument/didOpen", none, some (.arr [.arr [.str "file:///a", .str "buglang", .int 1,
      .str "funct"]])⟩,
   ⟨"textDocument/didChange", none, some (.arr [.arr [.str "file:///b", .int 7], .arr []])⟩,
   ⟨"textDocument/didChange", none, some (.arr [.arr [.str "file:///a", .int 2], .arr [
      .arr [.arr [.arr [.int 9, .int 9], .arr [.int 0, .int 3]], .null, .str "c"]]])⟩,
   ⟨"textDocument/didClose", none, some (.arr [.arr [.str "file:///c"]])⟩,
   ⟨"textDocument/didOpen", none, some (.arr [.arr [.str "file:///a", .str "buglang", .int 3,
      .str "x funct"]])⟩]

/-- They make four publications. -/
theorem publications_mixedMessages :
    (begun {} .standard).MeetsRunning mixedMessages ∧
      ((begun {} .standard).publications mixedMessages).map Publication.uri =
        [⟨"file:///a"⟩, ⟨"file:///a"⟩, ⟨"file:///c"⟩, ⟨"file:///a"⟩] := by
  have hrunning : (begun {} .standard).MeetsRunning mixedMessages :=
    ⟨rfl, rfl, rfl, rfl, rfl, trivial⟩
  exact ⟨hrunning, (publications_coherent {} .standard mixedMessages hrunning).2.1⟩

end Session

end LangServer
