import LangServer.Proofs.Runs

/-!
# Documents do not Interfere

Whoever looks at one document only cannot tell what happens to the others. What there is to be seen
of a document `u` on a run is, for each message that concerns it, the response to that message, the
publications about `u` that it leads to, and the diagnostics of `u` after it (`Session.observed`).

Two sessions agree on `u` (`Server.Agrees`) if they have the same settings and symbols and the same
document under `u`. A message that does not concern `u` leaves a session in agreement with what it
was, and one that does takes two sessions in agreement to two in agreement, with the same
observation. So a run shows of `u` what the run of the messages that concern `u` shows.

## Main statements

* `Session.step_elsewhere`, `Session.step_here`: what one message does to an agreement.
* `Session.observed_filter`: messages that do not concern a document may be left out.
* `Session.documents_independent`: documents do not interfere.
-/

namespace LangServer

/-- The document that a question is about, if it is about one. -/
def Question.uri? : Question → Option Uri
  | .hover uri _ => some uri
  | .completion uri => some uri
  | .resolve _ => none

namespace Message

/-- The document that a message names, as what has happened to it or is asked about it. -/
def subject? (m : Message) : Option Uri :=
  (m.reported?.map DocumentEvent.uri).or (m.asked?.bind Question.uri?)

/-- Whether a message **concerns** a document. -/
def concerns (u : Uri) (m : Message) : Bool :=
  m.subject? = some u

/-- A message that reports an event concerns the document of the event. -/
theorem subject?_of_event? {m : Message} {e : DocumentEvent} (h : m.event? = some e) :
    m.subject? = some e.uri := by
  rw [event?] at h
  split at h
  · rw [subject?, h]
    rfl
  · cases h

/-- What names a document reports an event of it or asks about it. -/
theorem reported?_or_asked?_of_subject? {m : Message} {u : Uri} (h : m.subject? = some u) :
    (∃ e, m.reported? = some e ∧ e.uri = u) ∨ ∃ q, m.asked? = some q ∧ q.uri? = some u := by
  rcases Option.or_eq_some_iff.mp h with h | ⟨-, h⟩
  · exact Or.inl (Option.map_eq_some_iff.mp h)
  · exact Or.inr (Option.bind_eq_some_iff.mp h)

end Message

namespace Server

/-- Two servers **agree** on a document. -/
structure Agrees (u : Uri) (s t : Server) : Prop where
  settings : s.settings = t.settings
  symbols : s.symbols = t.symbols
  document : s.documents.get? u = t.documents.get? u

variable {u : Uri} {s t : Server}

/-- A server agrees with itself. -/
theorem Agrees.refl (u : Uri) (s : Server) : s.Agrees u s := ⟨rfl, rfl, rfl⟩

/-- An event of another document does not disturb an agreement. -/
theorem Agrees.follow_left (h : s.Agrees u t) {e : DocumentEvent} (he : e.uri ≠ u) :
    (s.follow e).1.Agrees u t := by
  refine ⟨?_, ?_, ?_⟩
  · rw [settings_follow, h.settings]
  · rw [symbols_follow, h.symbols]
  · rw [get?_follow, if_neg he.symm, h.document]

/-- An event is followed in agreement. -/
theorem Agrees.follow (h : s.Agrees u t) (e : DocumentEvent) :
    (s.follow e).1.Agrees u (t.follow e).1 := by
  refine ⟨?_, ?_, ?_⟩
  · rw [settings_follow, settings_follow, h.settings]
  · rw [symbols_follow, symbols_follow, h.symbols]
  · rw [get?_follow, get?_follow, h.document, h.settings]

/-- Servers in agreement on a document publish it alike. -/
theorem Agrees.published (h : s.Agrees u t) : s.published = t.published := by
  funext d
  rw [Server.published, Server.published, h.settings]

/-- Servers in agreement on a document give the same diagnostics of it. -/
theorem Agrees.diagnostics? (h : s.Agrees u t) : s.diagnostics? u = t.diagnostics? u := by
  rw [Server.diagnostics?, Server.diagnostics?, h.document, h.published]

/-- Servers in agreement on a document publish the same when something happens to it. -/
theorem Agrees.publications_follow {e : DocumentEvent} (h : s.Agrees e.uri t) :
    (s.follow e).2.publications = (t.follow e).2.publications := by
  rw [Server.publications_follow, Server.publications_follow, h.document, h.settings]
  cases e <;> simp only [announcement, h.published]

/-- Servers in agreement on a document answer questions about it alike. -/
theorem Agrees.answer (h : s.Agrees u t) {q : Question} (hq : q.uri? = some u) :
    s.answer q = t.answer q := by
  cases q with
  | hover v p =>
      obtain rfl : v = u := Option.some.inj hq
      simp only [Server.answer, hoverIn, h.settings, h.symbols, h.document]
  | completion v => simp only [Server.answer, h.settings, h.symbols]
  | resolve item => cases hq

end Server

/-! ### One message -/

/-- What is to be seen of a document when a message concerns it. -/
structure Observation where
  response : Response
  publications : List Publication
  diagnostics : Option (List PublishedDiagnostic)

namespace Session

variable {u : Uri} {s t : Session} {m : Message}

/-- **A message that concerns something else** is not noticed. -/
theorem step_elsewhere (h : s.server.Agrees u t.server) (hs : s.phase = .running)
    (hm : m.subject? ≠ some u) :
    (s.step m).session.server.Agrees u t.server ∧
      (s.step m).effect.publications.filter (·.uri = u) = [] := by
  cases he : m.event? with
  | none =>
      obtain ⟨hserver, hnone⟩ := step_quiet fun (_ : s.phase = .running) => he
      rw [hserver, hnone]
      exact ⟨h, rfl⟩
  | some e =>
      have hne : e.uri ≠ u := fun hu => hm (hu ▸ Message.subject?_of_event? he)
      rw [step_of_event? hs he]
      refine ⟨h.follow_left hne, ?_⟩
      rw [List.filter_eq_nil_iff]
      intro p hp
      rw [Server.uri_of_mem_publications hp]
      simpa using hne

/-- **A message that concerns a document** does the same to sessions in agreement on it. -/
theorem step_here (h : s.server.Agrees u t.server) (hs : s.phase = .running)
    (ht : t.phase = .running) (hm : m.subject? = some u) :
    (s.step m).session.server.Agrees u (t.step m).session.server ∧
      (t.step m).session.phase = .running ∧ (s.step m).response = (t.step m).response ∧
      (s.step m).effect.publications = (t.step m).effect.publications := by
  rcases Message.reported?_or_asked?_of_subject? hm with ⟨e, he, rfl⟩ | ⟨q, hq, hu⟩
  · rw [step_of_reported? hs he, step_of_reported? ht he]
    cases m.id with
    | none => exact ⟨h.follow e, ht, rfl, h.publications_follow⟩
    | some id => exact ⟨h, ht, rfl, rfl⟩
  · rw [step_of_asked? hs hq, step_of_asked? ht hq]
    cases m.id with
    | none => exact ⟨h, ht, rfl, rfl⟩
    | some id =>
        rw [h.answer hu]
        exact ⟨h, ht, rfl, rfl⟩

/-! ### Many messages -/

/-- What is to be **seen of a document** on the way through some messages. -/
def observed (u : Uri) (s : Session) : List Message → List Observation
  | [] => []
  | m :: ms =>
    let outcome := s.step m
    if m.concerns u then
      ⟨outcome.response, outcome.effect.publications.filter (·.uri = u),
        outcome.session.server.diagnostics? u⟩ :: observed u outcome.session ms
    else observed u outcome.session ms

/-- Messages that do not concern a document **may be left out**. -/
theorem observed_filter {ms : List Message} (h : s.server.Agrees u t.server)
    (hs : s.MeetsRunning ms) (ht : t.phase = .running) :
    s.observed u ms = t.observed u (ms.filter (·.concerns u)) ∧
      (s.publications ms).filter (·.uri = u) =
        (t.publications (ms.filter (·.concerns u))).filter (·.uri = u) := by
  induction ms generalizing s t with
  | nil => exact ⟨rfl, rfl⟩
  | cons m ms ih =>
      obtain ⟨hrunning, hms⟩ := hs
      by_cases hm : m.concerns u
      · obtain ⟨hagrees, ht', hresponse, hpublications⟩ :=
          step_here h hrunning ht (of_decide_eq_true hm)
        obtain ⟨hobserved, hlater⟩ := ih hagrees hms ht'
        rw [List.filter_cons_of_pos hm]
        refine ⟨?_, ?_⟩
        · simp only [observed, hm, if_true]
          rw [hobserved, hresponse, hpublications, hagrees.diagnostics?]
        · rw [publications, publications, List.filter_append, List.filter_append, hlater,
            hpublications]
      · obtain ⟨hagrees, hnone⟩ :=
          step_elsewhere h hrunning fun hu => hm (decide_eq_true hu)
        obtain ⟨hobserved, hlater⟩ := ih hagrees hms ht
        rw [List.filter_cons_of_neg hm]
        refine ⟨?_, ?_⟩
        · simp only [observed, hm]
          exact hobserved
        · rw [publications, List.filter_append, hnone, List.nil_append, hlater]

/-- Events of **different documents commute** on the store. -/
theorem get?_after_comm {m₁ m₂ : Message} {e₁ e₂ : DocumentEvent} (hs : s.phase = .running)
    (h₁ : m₁.event? = some e₁) (h₂ : m₂.event? = some e₂) (hne : e₁.uri ≠ e₂.uri) (v : Uri) :
    (s.after [m₁, m₂]).server.documents.get? v = (s.after [m₂, m₁]).server.documents.get? v := by
  have hfirst : s.after [m₁, m₂] = { s with server := s.server.followAll [e₁, e₂] } :=
    after_of_events hs (by simp [h₁, h₂])
  have hsecond : s.after [m₂, m₁] = { s with server := s.server.followAll [e₂, e₁] } :=
    after_of_events hs (by simp [h₁, h₂])
  rw [hfirst, hsecond]
  simp only [Server.followAll_cons, Server.followAll_nil, Server.get?_follow,
    Server.settings_follow]
  by_cases hv : v = e₁.uri
  · subst hv
    rw [if_neg hne, if_neg hne]
  · rw [if_neg hv, if_neg hv]

/-- **Documents do not interfere.** If the messages of two runs that concern a document are the
same, whatever else comes between them, then all that is to be seen of the document is the same on
both runs: the responses to those messages, the diagnostics after each of them, and the
publications about the document. Events of different documents commute on the store. -/
theorem documents_independent (s : Session) (u : Uri) (ms ns : List Message)
    (hms : s.MeetsRunning ms) (hns : s.MeetsRunning ns)
    (h : ms.filter (·.concerns u) = ns.filter (·.concerns u)) (hs : s.phase = .running) :
    s.observed u ms = s.observed u ns ∧
      (s.publications ms).filter (·.uri = u) = (s.publications ns).filter (·.uri = u) ∧
      ∀ (m₁ m₂ : Message) (e₁ e₂ : DocumentEvent), m₁.event? = some e₁ → m₂.event? = some e₂ →
        e₁.uri ≠ e₂.uri → ∀ v,
          (s.after [m₁, m₂]).server.documents.get? v =
            (s.after [m₂, m₁]).server.documents.get? v := by
  obtain ⟨hobserved, hpublished⟩ := observed_filter (.refl u s.server) hms hs
  obtain ⟨hobserved', hpublished'⟩ := observed_filter (.refl u s.server) hns hs
  refine ⟨?_, ?_, ?_⟩
  · rw [hobserved, hobserved', h]
  · rw [hpublished, hpublished', h]
  · intro m₁ m₂ e₁ e₂ h₁ h₂ hne v
    exact get?_after_comm hs h₁ h₂ hne v

/-- A document is opened and a hover card asked for. -/
def oneDocument : List Message :=
  [⟨"textDocument/didOpen", none, some (.arr [.arr [.str "file:///a", .str "buglang", .int 1,
      .str "funct main"]])⟩,
   ⟨"textDocument/hover", some (.int 1), some (.obj [
      ("textDocument", .obj [("uri", .str "file:///a")]), ("position", .arr [.int 0, .int 2])])⟩]

/-- The same happens while another document is opened, changed and closed. -/
def twoDocuments : List Message :=
  [⟨"textDocument/didOpen", none, some (.arr [.arr [.str "file:///b", .str "buglang", .int 1,
      .str "funct other"]])⟩,
   ⟨"textDocument/didOpen", none, some (.arr [.arr [.str "file:///a", .str "buglang", .int 1,
      .str "funct main"]])⟩,
   ⟨"textDocument/didChange", none, some (.arr [.arr [.str "file:///b", .int 2], .arr [
      .arr [.null, .null, .str ""]]])⟩,
   ⟨"textDocument/hover", some (.int 1), some (.obj [
      ("textDocument", .obj [("uri", .str "file:///a")]), ("position", .arr [.int 0, .int 2])])⟩,
   ⟨"textDocument/didClose", none, some (.arr [.arr [.str "file:///b"]])⟩]

/-- Of the document that both have, both show the same. -/
theorem observed_twoDocuments :
    (begun {} .standard).MeetsRunning oneDocument ∧ (begun {} .standard).MeetsRunning twoDocuments ∧
      (begun {} .standard).observed ⟨"file:///a"⟩ oneDocument =
        (begun {} .standard).observed ⟨"file:///a"⟩ twoDocuments := by
  have hone : (begun {} .standard).MeetsRunning oneDocument := ⟨rfl, rfl, trivial⟩
  have htwo : (begun {} .standard).MeetsRunning twoDocuments := ⟨rfl, rfl, rfl, rfl, rfl, trivial⟩
  exact ⟨hone, htwo, (documents_independent (begun {} .standard) ⟨"file:///a"⟩ oneDocument
    twoDocuments hone htwo rfl rfl).1⟩

end Session

end LangServer
