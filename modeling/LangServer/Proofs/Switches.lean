import Mathlib.Data.List.Forall2
import LangServer.Proofs.Hovering
import LangServer.Proofs.Misspellings
import LangServer.Proofs.Outline

/-!
# Switches

Each value that can be set has a say in one thing only. This module compares two sessions that hear
the same from their clients and work with values that are the same but for one, and says what the
one session's replies are in terms of the other's.

## Conventions

What a value changes is said by a map of replies that reaches into one place: into every list of
diagnostics, published or queried (`Reply.mapItems`), or into every answer (`Reply.mapAnswer`).
Replies stay in their order and of their kind, notices keep their documents and versions, and
answers their ids.

## Main statements

* `Diagnostic.scanFrom_first`: reporting only first misspellings keeps the first of each line.
* `hoverAt_firstOccurrence`: looking for first occurrences only loses hover cards.
* `Session.switches_apart`: what each value changes in a run.
-/

namespace LangServer

/-! ### Changes of replies -/

/-- A notice with another list of diagnostics, if it has one. -/
def Notice.mapItems (f : List PublishedDiagnostic → List PublishedDiagnostic) : Notice → Notice
  | .logMessage text => .logMessage text
  | .diagnostics uri items version => .diagnostics uri (f items) version

/-- A response with another answer, if it has one. -/
def Response.mapAnswer (f : Answer → Answer) : Response → Response
  | .result id answer => .result id (f answer)
  | response => response

namespace Reply

/-- A reply with other lists of diagnostics. -/
def mapItems (f : List PublishedDiagnostic → List PublishedDiagnostic) : Reply → Reply
  | .message response notices => .message response (notices.map (·.mapItems f))
  | .diagnostics items => .diagnostics (items.map f)

/-- A reply with another answer. -/
def mapAnswer (f : Answer → Answer) : Reply → Reply
  | .message response notices => .message (response.mapAnswer f) notices
  | .diagnostics items => .diagnostics items

/-- A reply is another one, but for a **lost hover card** perhaps. -/
def LosesHover (old new : Reply) : Prop :=
  new = old ∨ ∃ id card notices, old = .message (.result id (.hover (some card))) notices ∧
    new = .message (.result id (.hover none)) notices

end Reply

namespace Answer

/-- An answer of a server that shows no hover cards: it does not offer them and has none. -/
def withoutHover : Answer → Answer
  | .capabilities completes _ => .capabilities completes false
  | .hover _ => .hover none
  | answer => answer

/-- An answer of a server that completes nothing: it does not offer to and has no items. Items that
the client has already are none of its business. -/
def withoutCompletion : Answer → Answer
  | .capabilities _ hovers => .capabilities false hovers
  | .completion _ => .completion none
  | answer => answer

/-- An answer with the code fragments of its hover card in a language. -/
def inLanguage (language : String) : Answer → Answer
  | .hover card => .hover (card.map ({ · with language }))
  | answer => answer

end Answer

namespace PublishedDiagnostic

/-- Of some diagnostics the **first of each line**. -/
def firstOfLines (items : List PublishedDiagnostic) : List PublishedDiagnostic :=
  items.eraseDupsBy fun a b => a.range.start.line == b.range.start.line

/-- Some diagnostics under another source. -/
def underSource (source : String) (items : List PublishedDiagnostic) : List PublishedDiagnostic :=
  items.map ({ · with source })

end PublishedDiagnostic

/-! ### Reports -/

/-- The first diagnostic of a line stays, the others of the line go, and those of other lines do not
depend on them. -/
theorem PublishedDiagnostic.firstOfLines_cons_append {d : PublishedDiagnostic}
    {same later : List PublishedDiagnostic}
    (hsame : ∀ e ∈ same, e.range.start.line = d.range.start.line)
    (hlater : ∀ e ∈ later, e.range.start.line ≠ d.range.start.line) :
    firstOfLines (d :: (same ++ later)) = d :: firstOfLines later := by
  rw [firstOfLines, List.eraseDupsBy_cons, List.filter_append, firstOfLines]
  rw [List.filter_eq_nil_iff.mpr fun e he => by simp [hsame e he], List.nil_append,
    List.filter_eq_self.mpr fun e he => by simp [hlater e he]]

namespace Diagnostic

/-- **Reporting only first misspellings** of lines keeps the first diagnostic of each line. -/
theorem scanFrom_first (source : String) (index : Nat) (lines : List Text) :
    (scanFrom .first index lines).map (publish source) =
      PublishedDiagnostic.firstOfLines ((scanFrom .all index lines).map (publish source)) := by
  induction lines generalizing index with
  | nil => rfl
  | cons line rest ih =>
      simp only [scanFrom, scanLine, keep, List.map_append, List.map_map]
      cases (Text.runs line).filter (·.word = misspelled) with
      | nil => exact ih (index + 1)
      | cons r rs =>
          rw [List.map_cons, List.cons_append, PublishedDiagnostic.firstOfLines_cons_append]
          · exact congrArg _ (ih (index + 1))
          · intro e he
            obtain ⟨r', -, rfl⟩ := List.mem_map.mp he
            rfl
          · intro e he
            obtain ⟨d, hd, rfl⟩ := List.mem_map.mp he
            have hlater : index < d.line := le_line_of_mem_scanFrom hd
            exact Nat.ne_of_gt hlater

end Diagnostic

/-! ### Hover cards -/

/-- **Looking for first occurrences** only loses hover cards. -/
theorem hoverAt_firstOccurrence (symbols : Symbols) (language : String) (line : Text)
    (column : Nat) :
    hoverAt symbols language .firstOccurrence line column =
        hoverAt symbols language .cursor line column ∨
      hoverAt symbols language .firstOccurrence line column = none := by
  rw [hoverAt, hoverAt]
  exact (line.wordAt_firstOccurrence column).imp (congrArg _) (congrArg _)

/-- Looking for first occurrences gives the same answer or **loses a hover card**. -/
theorem Topic.answer_firstOccurrence {v : Settings.Values} (hcursor : v.hoverSpan = .cursor)
    (symbols : Symbols) (t : Topic) :
    t.answer { v with hoverSpan := .firstOccurrence } symbols = t.answer v symbols ∨
      ∃ card, t.answer v symbols = .hover (some card) ∧
        t.answer { v with hoverSpan := .firstOccurrence } symbols = .hover none := by
  cases t with
  | offer | done | completion | resolve => exact Or.inl rfl
  | hover place =>
      rcases place with - | ⟨line, column⟩
      · exact Or.inl rfl
      simp only [answer, hcursor, Option.bind_some]
      cases v.hoverEnabled with
      | false => exact Or.inl rfl
      | true =>
          rcases hoverAt_firstOccurrence symbols v.languageId line column with h | h
          · exact Or.inl (by rw [h])
          · rw [h]
            cases hoverAt symbols v.languageId .cursor line column with
            | none => exact Or.inl rfl
            | some card => exact Or.inr ⟨card, rfl, rfl⟩

/-! ### Contents under other values -/

namespace Content

variable {v w : Settings.Values} {symbols : Symbols}

/-- Values that change diagnostics and no answer change the lists of a reply. -/
theorem reply_mapItems {f : List PublishedDiagnostic → List PublishedDiagnostic}
    (hnil : f [] = []) (hitems : ∀ text, w.items text = f (v.items text))
    (hanswer : Topic.answer w symbols = Topic.answer v symbols) (c : Content) :
    c.reply w symbols = (c.reply v symbols).mapItems f := by
  -- A closed document is published with no diagnostics whatever the values, hence `hnil`.
  have hnotice (n : News) : n.notice w = (n.notice v).mapItems f := by
    cases n with
    | logMessage text => rfl
    | document uri copy => cases copy <;> simp [News.notice, Notice.mapItems, hnil, hitems]
  cases c with
  | gone => rfl
  | message id outcome news =>
      rw [reply, reply, Reply.mapItems, hanswer, List.map_map]
      exact congrArg _ (List.map_congr_left fun n _ => hnotice n)
  | query copy => cases copy <;> simp [reply, Reply.mapItems, hitems]

/-- Values that change answers and no diagnostics change the answer of a reply. -/
theorem reply_mapAnswer {f : Answer → Answer}
    (hanswer : ∀ t : Topic, t.answer w symbols = f (t.answer v symbols))
    (hitems : w.items = v.items) (c : Content) :
    c.reply w symbols = (c.reply v symbols).mapAnswer f := by
  have hnotice : News.notice w = News.notice v := by
    funext n
    cases n <;> simp [News.notice, hitems]
  cases c with
  | gone => rfl
  | message id outcome news =>
      rw [reply, reply, Reply.mapAnswer, hnotice]
      cases id <;> cases outcome <;> simp [Response.of, Response.mapAnswer, Except.map, hanswer]
  | query copy => simp [reply, Reply.mapAnswer, hitems]

variable (v symbols)

/-- Without diagnostics all lists are empty. -/
theorem reply_diagnosticsOff (c : Content) :
    c.reply { v with diagnosticsEnabled := false } symbols =
      (c.reply v symbols).mapItems fun _ => [] := by
  refine reply_mapItems ?_ ?_ ?_ c
  · rfl
  · exact fun _ => rfl
  · rfl

/-- Under first misspellings only, lists are the first elements of lines. -/
theorem reply_first (hall : v.diagnosticReport = .all) (c : Content) :
    c.reply { v with diagnosticReport := .first } symbols =
      (c.reply v symbols).mapItems PublishedDiagnostic.firstOfLines := by
  refine reply_mapItems ?_ ?_ ?_ c
  · rfl
  · intro text
    rw [Settings.Values.items, Settings.Values.items, hall]
    split
    · exact Diagnostic.scanFrom_first v.source 0 text.pieces
    · rfl
  · rfl

/-- Another source is another source of every diagnostic. -/
theorem reply_source (source : String) (c : Content) :
    c.reply { v with source } symbols =
      (c.reply v symbols).mapItems (PublishedDiagnostic.underSource source) := by
  refine reply_mapItems ?_ ?_ ?_ c
  · rfl
  · intro text
    rw [Settings.Values.items, Settings.Values.items]
    split
    · rw [PublishedDiagnostic.underSource, List.map_map]
      rfl
    · rfl
  · rfl

/-- Without hover cards they are not offered and there are none. -/
theorem reply_hoverOff (c : Content) :
    c.reply { v with hoverEnabled := false } symbols =
      (c.reply v symbols).mapAnswer Answer.withoutHover := by
  refine reply_mapAnswer ?_ ?_ c
  · intro t
    cases t <;> rfl
  · rfl

/-- Without completion it is not offered and there are no items. -/
theorem reply_completionOff (c : Content) :
    c.reply { v with completionEnabled := false } symbols =
      (c.reply v symbols).mapAnswer Answer.withoutCompletion := by
  refine reply_mapAnswer ?_ ?_ c
  · intro t
    cases t <;> rfl
  · rfl

/-- Another language is another language of every code fragment. -/
theorem reply_languageId (languageId : String) (c : Content) :
    c.reply { v with languageId } symbols =
      (c.reply v symbols).mapAnswer (Answer.inLanguage languageId) := by
  refine reply_mapAnswer ?_ ?_ c
  · intro t
    cases t with
    | offer | done | completion | resolve => rfl
    | hover place =>
        rw [Topic.answer, Topic.answer, Answer.inLanguage]
        cases v.hoverEnabled with
        | false => rfl
        | true => cases place <;> simp [hoverAt, Function.comp_def]
  · rfl

/-- Looking for first occurrences only loses hover cards. -/
theorem reply_firstOccurrence (hcursor : v.hoverSpan = .cursor) (c : Content) :
    (c.reply v symbols).LosesHover (c.reply { v with hoverSpan := .firstOccurrence } symbols) := by
  cases c with
  | gone | query => exact Or.inl rfl
  | message id outcome news =>
      rcases id with - | id
      · exact Or.inl rfl
      rcases outcome with reason | topic
      · exact Or.inl rfl
      rcases topic.answer_firstOccurrence hcursor symbols with h | ⟨card, h, h'⟩
      · left
        rw [reply, reply, Except.map, Except.map, h]
        rfl
      · right
        refine ⟨id, card, news.map (News.notice v), ?_, ?_⟩
        · rw [reply, Except.map, h]
          rfl
        · rw [reply, Except.map, h']
          rfl

end Content

/-! ### Runs under other values -/

namespace Session

variable (symbols : Symbols) (xs : List Input) {a b : Settings}

/-- What a value changes in every reply it changes in a **run**. -/
theorem replies_eq_map {f : Reply → Reply}
    (h : ∀ c : Content, c.reply b.values symbols = f (c.reply a.values symbols)) :
    (fresh b symbols).replies xs = ((fresh a symbols).replies xs).map f := by
  rw [replies_fresh, replies_fresh, List.map_map]
  exact List.map_congr_left fun c _ => h c

/-- What relates every reply under some values to the one under others relates **runs**. -/
theorem replies_forall₂ {r : Reply → Reply → Prop}
    (h : ∀ c : Content, r (c.reply a.values symbols) (c.reply b.values symbols)) :
    List.Forall₂ r ((fresh a symbols).replies xs) ((fresh b symbols).replies xs) := by
  rw [replies_fresh, replies_fresh, List.forall₂_map_left_iff, List.forall₂_map_right_iff]
  exact List.forall₂_same.mpr fun c _ => h c

/-- **Each value has a say in its own matter only.** Two sessions hear the same, and their settings
come to the same values but for one. Then their replies are the same but for what this value is
about. -/
theorem switches_apart (symbols : Symbols) (xs : List Input) (a b : Settings) :
    let run (settings : Settings) := (fresh settings symbols).replies xs
    (b.values = { a.values with diagnosticsEnabled := false } →
      run b = (run a).map (Reply.mapItems fun _ => [])) ∧
    (b.values = { a.values with hoverEnabled := false } →
      run b = (run a).map (Reply.mapAnswer Answer.withoutHover)) ∧
    (b.values = { a.values with completionEnabled := false } →
      run b = (run a).map (Reply.mapAnswer Answer.withoutCompletion)) ∧
    (a.diagnosticReport = .all → b.values = { a.values with diagnosticReport := .first } →
      run b = (run a).map (Reply.mapItems PublishedDiagnostic.firstOfLines)) ∧
    (b.values = { a.values with source := b.source } →
      run b = (run a).map (Reply.mapItems (PublishedDiagnostic.underSource b.source))) ∧
    (b.values = { a.values with languageId := b.languageId } →
      run b = (run a).map (Reply.mapAnswer (Answer.inLanguage b.languageId))) ∧
    (a.hoverSpan = .cursor → b.values = { a.values with hoverSpan := .firstOccurrence } →
      List.Forall₂ Reply.LosesHover (run a) (run b)) ∧
    (b.values = { a.values with logLevel := b.logLevel } → run b = run a) := by
  intro run
  refine ⟨fun h => ?_, fun h => ?_, fun h => ?_, fun hall h => ?_, fun h => ?_, fun h => ?_,
    fun hcursor h => ?_, fun h => ?_⟩
  · exact replies_eq_map symbols xs (h ▸ Content.reply_diagnosticsOff a.values symbols)
  · exact replies_eq_map symbols xs (h ▸ Content.reply_hoverOff a.values symbols)
  · exact replies_eq_map symbols xs (h ▸ Content.reply_completionOff a.values symbols)
  · exact replies_eq_map symbols xs (h ▸ Content.reply_first a.values symbols hall)
  · exact replies_eq_map symbols xs (h ▸ Content.reply_source a.values symbols b.source)
  · exact replies_eq_map symbols xs (h ▸ Content.reply_languageId a.values symbols b.languageId)
  · exact replies_forall₂ symbols xs (h ▸ Content.reply_firstOccurrence a.values symbols hcursor)
  · simp only [run, replies_fresh, h]
    rfl

/-- Settings under which all misspellings are reported and words are looked for where they stand. -/
def talkative : Settings where
  diagnostics := some { report := some .all }
  hover := some { span := some .cursor }

/-- A client introduces itself, opens a document with two misspellings in one line and a word whose
characters appear earlier in the other line, and asks for the hover card of that word and for
completion; then someone queries the diagnostics of the document. -/
def tour : List Input :=
  [.message ⟨"initialize", some (.int 1), some (.obj [("capabilities", .obj [])])⟩,
   .message ⟨"textDocument/didOpen", none, some (.arr [.arr [.str "file:///a", .str "buglang",
      .int 1, .str "funct funct\nxa a"]])⟩,
   .message ⟨"textDocument/hover", some (.int 2), some (.obj [
      ("textDocument", .obj [("uri", .str "file:///a")]), ("position", .arr [.int 1, .int 3])])⟩,
   .message ⟨"textDocument/completion", some (.int 3), some (.obj [
      ("textDocument", .obj [("uri", .str "file:///a")]), ("position", .arr [.int 1, .int 3])])⟩,
   .query ⟨"file:///a"⟩]

/-- Every value is changed in turn. -/
theorem tour_switched :
    let run (settings : Settings) := (fresh settings .standard).replies tour
    run { talkative with diagnostics := some { enabled := some false, report := some .all } } =
        (run talkative).map (Reply.mapItems fun _ => []) ∧
      run { talkative with hover := some { enabled := some false, span := some .cursor } } =
        (run talkative).map (Reply.mapAnswer Answer.withoutHover) ∧
      run { talkative with completion := some { enabled := some false } } =
        (run talkative).map (Reply.mapAnswer Answer.withoutCompletion) ∧
      run { talkative with diagnostics := none } =
        (run talkative).map (Reply.mapItems PublishedDiagnostic.firstOfLines) ∧
      run { talkative with server := some { source := some "linter" } } =
        (run talkative).map (Reply.mapItems (PublishedDiagnostic.underSource "linter")) ∧
      run { talkative with server := some { languageId := some "bug" } } =
        (run talkative).map (Reply.mapAnswer (Answer.inLanguage "bug")) ∧
      List.Forall₂ Reply.LosesHover (run talkative) (run { talkative with hover := none }) ∧
      run { talkative with log := some { level := some "trace" } } = run talkative := by
  have happly := switches_apart .standard tour talkative
  refine ⟨(happly _).1 rfl, (happly _).2.1 rfl, (happly _).2.2.1 rfl, (happly _).2.2.2.1 rfl rfl,
    (happly _).2.2.2.2.1 rfl, (happly _).2.2.2.2.2.1 rfl, (happly _).2.2.2.2.2.2.1 rfl rfl,
    (happly _).2.2.2.2.2.2.2 rfl⟩

end Session

end LangServer
