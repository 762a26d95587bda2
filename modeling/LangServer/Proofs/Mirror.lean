import LangServer.Proofs.Positions
import LangServer.Proofs.Runs

/-!
# The Server as a Mirror of its Client

A client edits its own copy of a document by intervals of characters and tells the server of it by
positions. This module shows that the two never come apart: after every message the server has
the text and the version of the client's copy, and its diagnostics and hover cards are those of
that copy.

## The client

A client's copy is a list of characters under a version. An edit replaces the whole of it or the
characters of an interval; an interval that reaches beyond the end ends there. The client writes
each end of an interval as the position after the characters before it (`Text.endOf`), in the copy
as it stands after all earlier edits, also those of the same message. Edits of a document that is
not open come to nothing.

## Main statements

* `Edit.applyChange_change`: a change does to a text what the edit does that it tells of.
* `Session.mirrors_client`: the server mirrors its client, however the edits are cut into messages.
-/

namespace LangServer

/-! ### Edits -/

/-- The characters of a text from one index up to another one. -/
structure Interval where
  start : Nat
  stop : Nat
  ordered : start ≤ stop

/-- Something that a client does to a text. -/
inductive Edit where
  | whole (new : Text)
  | part (old : Interval) (new : Text)

namespace Edit

/-- The text after an edit. -/
def apply (t : Text) : Edit → Text
  | .whole new => new
  | .part old new => t.take old.start ++ new ++ t.drop old.stop

/-- The change that tells of an edit of a text. -/
def change (t : Text) : Edit → Change
  | .whole new => ⟨none, new⟩
  | .part old new => ⟨some ⟨Text.endOf (t.take old.start), Text.endOf (t.take old.stop)⟩, new⟩

/-- The text after some edits. -/
def applyAll (t : Text) (es : List Edit) : Text :=
  es.foldl apply t

/-- The changes that tell of some edits, each of the text that those before it have left. -/
def changes (t : Text) : List Edit → List Change
  | [] => []
  | e :: es => e.change t :: changes (e.apply t) es

/-- **A change does what it tells of.** -/
theorem applyChange_change (t : Text) (e : Edit) : t.applyChange (e.change t) = e.apply t := by
  cases e with
  | whole new => rfl
  | part old new =>
      have hstop : t.take old.stop = t.take old.start ++ (t.take old.stop).drop old.start := by
        have h := List.take_append_drop old.start (t.take old.stop)
        rw [List.take_take, Nat.min_eq_left old.ordered] at h
        exact h.symm
      have htext : t.take old.start ++ (t.take old.stop).drop old.start ++ t.drop old.stop = t := by
        rw [← hstop, List.take_append_drop]
      have h := Text.applyChange_between (t.take old.start) ((t.take old.stop).drop old.start)
        (t.drop old.stop) new
      rw [htext, ← hstop] at h
      exact h

/-- A batch of changes does what it tells of. -/
theorem applyChanges_changes (t : Text) (es : List Edit) :
    t.applyChanges (changes t es) = applyAll t es := by
  induction es generalizing t with
  | nil => rfl
  | cons e es ih =>
      rw [changes, Text.applyChanges, List.foldl_cons, applyChange_change]
      exact ih (e.apply t)

/-- Edits in two batches are told of as in one. -/
theorem changes_append (t : Text) (es fs : List Edit) :
    changes t (es ++ fs) = changes t es ++ changes (applyAll t es) fs := by
  induction es generalizing t with
  | nil => rfl
  | cons e es ih =>
      rw [List.cons_append, changes, changes, ih, List.cons_append]
      rfl

end Edit

/-! ### The client -/

/-- A client's own copy of a document. -/
structure Copy where
  text : Text
  version : Int

/-- Something that a client does with a document. -/
inductive Move where
  /-- It opens the document, also when it is open already. -/
  | opens (text : Text) (version : Int)
  | edits (version : Int) (es : List Edit)
  | closes

namespace Move

/-- The client's copy after a move, if the document is open then. -/
def apply (copy : Option Copy) : Move → Option Copy
  | .opens text version => some ⟨text, version⟩
  | .edits version es => copy.map fun c => ⟨Edit.applyAll c.text es, version⟩
  | .closes => none

/-- The event by which the client tells of a move. -/
def event (u : Uri) (copy : Option Copy) : Move → DocumentEvent
  | .opens text version => .opened u text version
  | .edits version es => .changed u version (Edit.changes ((copy.map Copy.text).getD []) es)
  | .closes => .closed u

/-- The client's copy after some moves. -/
def applyAll (copy : Option Copy) (moves : List Move) : Option Copy :=
  moves.foldl apply copy

/-- The events by which the client tells of some moves, each in terms of the copy that those before
it have left. -/
def events (u : Uri) (copy : Option Copy) : List Move → List DocumentEvent
  | [] => []
  | move :: moves => move.event u copy :: events u (move.apply copy) moves

/-- A move before some others; edits before edits become one batch with them, under the version of
the later ones. -/
def join : Move → List Move → List Move
  | .edits _ es, .edits version fs :: moves => .edits version (es ++ fs) :: moves
  | move, moves => move :: moves

/-- Moves with all edits between an opening and a closing **gathered in one batch**. -/
def gather (moves : List Move) : List Move :=
  moves.foldr join []

/-- The events of the first moves are the first events. -/
theorem events_take (u : Uri) (copy : Option Copy) (moves : List Move) (n : Nat) :
    events u copy (moves.take n) = (events u copy moves).take n := by
  induction moves generalizing copy n with
  | nil => simp [events]
  | cons move moves ih =>
      cases n with
      | zero => rfl
      | succ n => rw [List.take_succ_cons, events, events, ih, List.take_succ_cons]

end Move

/-! ### Server and client -/

/-- Opening a document twice is opening it the second time. -/
theorem Store.insert_insert (s : Store) (u : Uri) (d d' : Document) :
    (s.insert u d).insert u d' = s.insert u d' := by
  simp [Store.insert, Store.erase]

namespace Server

/-- Two batches of changes do what one batch does that is made of both. -/
theorem follow_changed_changed (s : Server) (u : Uri) (v w : Int) (cs ds : List Change) :
    ((s.follow (.changed u v cs)).1.follow (.changed u w ds)).1 =
      (s.follow (.changed u w (cs ++ ds))).1 := by
  cases h : s.documents.get? u with
  | none => simp [follow, h]
  | some d =>
      simp [follow, h, keep, Store.insert_insert, Document.update, Document.ofText,
        Text.applyChanges]

/-- Changes of a document that is not open come to nothing. -/
theorem follow_changed_of_none {s : Server} {u : Uri} (h : s.documents.get? u = none) (v : Int)
    (cs : List Change) : (s.follow (.changed u v cs)).1 = s := by
  simp [follow, h]

/-- The server's document is the client's copy, scanned. -/
def Holds (s : Server) (u : Uri) (copy : Option Copy) : Prop :=
  s.documents.get? u = copy.map fun c => .ofText c.text c.version s.settings.diagnosticReport

/-- **One move** is followed. -/
theorem Holds.follow {s : Server} {u : Uri} {copy : Option Copy} (h : s.Holds u copy)
    (move : Move) : (s.follow (move.event u copy)).1.Holds u (move.apply copy) := by
  rw [Holds] at h ⊢
  rw [settings_follow, get?_follow]
  cases move with
  | opens | closes => simp [Move.event, Move.apply, DocumentEvent.uri, DocumentEvent.apply]
  | edits version es =>
      simp only [Move.event, Move.apply, DocumentEvent.uri, DocumentEvent.apply, if_true, h]
      cases copy with
      | none => rfl
      | some c => simp [Document.update, Document.ofText, Edit.applyChanges_changes]

/-- **Many moves** are followed. -/
theorem Holds.followAll {s : Server} {u : Uri} {copy : Option Copy} (h : s.Holds u copy)
    (moves : List Move) :
    (s.followAll (Move.events u copy moves)).Holds u (Move.applyAll copy moves) := by
  induction moves generalizing s copy with
  | nil => exact h
  | cons move moves ih => exact ih (h.follow move)

/-- Two batches of edits may be joined. -/
theorem Holds.followAll_join {s : Server} {u : Uri} {copy : Option Copy} (h : s.Holds u copy)
    (move : Move) (moves : List Move) :
    s.followAll (Move.events u copy (Move.join move moves)) =
      s.followAll (Move.events u copy (move :: moves)) := by
  cases move with
  | opens | closes => rfl
  | edits v es =>
      rcases moves with - | ⟨next, moves⟩
      · rfl
      cases next with
      | opens | closes => rfl
      | edits w fs =>
          cases copy with
          | none =>
              simp only [Move.join, Move.events, Move.event, Move.apply, Option.map_none,
                Server.followAll_cons]
              rw [follow_changed_of_none h, follow_changed_of_none h, follow_changed_of_none h]
          | some c =>
              have happly : Edit.applyAll c.text (es ++ fs) =
                  Edit.applyAll (Edit.applyAll c.text es) fs := List.foldl_append
              simp only [Move.join, Move.events, Move.event, Move.apply, Option.map_some,
                Option.getD_some, Server.followAll_cons]
              rw [happly, Edit.changes_append, follow_changed_changed]

/-- Edits may be **gathered**. -/
theorem Holds.followAll_gather {s : Server} {u : Uri} {copy : Option Copy} (h : s.Holds u copy)
    (moves : List Move) :
    s.followAll (Move.events u copy (Move.gather moves)) =
      s.followAll (Move.events u copy moves) := by
  induction moves generalizing s copy with
  | nil => rfl
  | cons move moves ih =>
      calc s.followAll (Move.events u copy (Move.join move (Move.gather moves)))
          = s.followAll (Move.events u copy (move :: Move.gather moves)) :=
            h.followAll_join move _
        _ = (s.follow (move.event u copy)).1.followAll
              (Move.events u (move.apply copy) (Move.gather moves)) := rfl
        _ = s.followAll (Move.events u copy (move :: moves)) := ih (h.follow move)

end Server

/-! ### What the client sees -/

namespace Session

/-- A session **mirrors** a client's copy of a document under some settings and symbols: while it
runs, the text and the version that it keeps, the diagnostics that it gives and the hover cards that
it answers with are those of the copy. -/
structure Mirrors (settings : Settings) (symbols : Symbols) (s : Session) (u : Uri)
    (copy : Option Copy) : Prop where
  running : s.phase = .running
  text : (s.server.documents.get? u).map Document.text = copy.map Copy.text
  version : (s.server.documents.get? u).map Document.version = copy.map Copy.version
  /-- The diagnostics are those of a scan of the copy, and none if they are switched off. -/
  diagnostics : s.server.diagnostics? u = copy.map fun c =>
    if settings.diagnosticsEnabled then
      (Diagnostic.scan c.text settings.diagnosticReport).map (·.publish settings.source)
    else []
  /-- A hover card is that of a line of the copy, and none beyond the last line. -/
  hover : settings.hoverEnabled → ∀ (m : Message) (id : Json) (p : Position),
    m.question? = some (id, .hover u p) →
      (s.step m).response = .result id (.hover (copy.bind fun c =>
        (c.text.line? p.line).bind fun line =>
          hoverAt symbols settings.languageId settings.hoverSpan line p.column))

/-- A session whose server holds a client's copy mirrors it. -/
theorem mirrors_of_holds {s : Session} {u : Uri} {copy : Option Copy} (hs : s.phase = .running)
    (h : s.server.Holds u copy) : Mirrors s.server.settings s.server.symbols s u copy := by
  rw [Server.Holds] at h
  refine ⟨hs, ?_, ?_, ?_, ?_⟩
  · rw [h, Option.map_map]
    rfl
  · rw [h, Option.map_map]
    rfl
  · rw [Server.diagnostics?, h, Option.map_map]
    rfl
  · intro hhover m id p hm
    rw [step_of_question? hs hm]
    simp only [Server.answer, hhover, if_true, h]
    cases copy <;> rfl

/-- **The server mirrors its client.** A client opens, edits and closes a document, and the session
hears of each of its moves in a message. Then after every message the session mirrors the client's
copy, and where the moves leave the session does not depend on how edits are cut into batches. -/
theorem mirrors_client (s : Session) (u : Uri) (hs : s.phase = .running)
    (hu : s.server.documents.get? u = none) (moves : List Move) (ms : List Message)
    (h : ms.map Message.event? = (Move.events u none moves).map some) :
    (∀ n, Mirrors s.server.settings s.server.symbols (s.after (ms.take n)) u
      (Move.applyAll none (moves.take n))) ∧
    ∀ (moves' : List Move) (ms' : List Message),
      ms'.map Message.event? = (Move.events u none moves').map some →
      Move.gather moves' = Move.gather moves → s.after ms' = s.after ms := by
  have hholds : s.server.Holds u none := hu
  constructor
  · intro n
    have htake : (ms.take n).map Message.event? =
        (Move.events u none (moves.take n)).map some := by
      rw [Move.events_take, List.map_take, h, List.map_take]
    rw [after_of_events hs htake]
    have hmirror : Mirrors _ _
        { s with server := s.server.followAll (Move.events u none (moves.take n)) } u _ :=
      mirrors_of_holds hs (hholds.followAll (moves.take n))
    rw [Server.settings_followAll, Server.symbols_followAll] at hmirror
    exact hmirror
  · intro moves' ms' h' hgather
    rw [after_of_events hs h, after_of_events hs h', ← hholds.followAll_gather moves',
      ← hholds.followAll_gather moves, hgather]

/-- A client opens a document of two lines, takes a character of two units and the line feed after
it out in one edit, and adds to the end of what is left in the next one. -/
def openAndEdit : List Message :=
  [⟨"textDocument/didOpen", none, some (.arr [.arr [.str "file:///a", .str "buglang", .int 1,
      .str "é😀\nb"]])⟩,
   ⟨"textDocument/didChange", none, some (.arr [.arr [.str "file:///a", .int 2], .arr [
      .arr [.arr [.arr [.int 0, .int 1], .arr [.int 1, .int 0]], .null, .str "\n"],
      .arr [.arr [.arr [.int 1, .int 1], .arr [.int 1, .int 1]], .null, .str " funct"]]])⟩]

/-- The two edits are mirrored. -/
theorem mirrors_client_openAndEdit :
    Mirrors {} .standard ((begun {} .standard).after openAndEdit) ⟨"file:///a"⟩
      (some ⟨"é\nb funct".toList, 2⟩) :=
  (mirrors_client (begun {} .standard) ⟨"file:///a"⟩ rfl rfl
    [.opens "é😀\nb".toList 1,
     .edits 2 [.part ⟨1, 3, by decide⟩ ['\n'], .part ⟨3, 3, Nat.le_refl 3⟩ " funct".toList]]
    openAndEdit rfl).1 2

end Session

end LangServer
