import LangServer.Proofs.Verdicts

/-!
# Inputs that Leave no Trace

Only the messages that drive the life of a session and the document events that it accepts have
consequences. This module shows that any other input may be erased from a run: questions, methods
that are not served or not known, messages that are refused or passed over for whatever reason, and
queries all leave the session exactly as it was, so the replies to all other inputs stay.

Events are accepted while a session runs, and it runs from the first introduction of the client
that is answered with a result until it is told to stop or to leave. What decides whether a session
may still begin to run is told by the replies alone: `startsSession` recognises an introduction that
was answered with a result.

## Main statements

* `Session.next_of_mayErase`: one such input changes nothing.
* `Session.replies_kept`: any number of them may be erased from a run.
* `Session.idle_run`: without an introduction nothing is kept and nothing published.
* `Session.only_accepted_events_matter`: all of this about the runs of a fresh session.
-/

namespace LangServer

/-- The members of a list that are **kept** by some marks; what is beyond the marks is kept too. -/
def kept {α : Type} : List Bool → List α → List α
  | [], xs => xs
  | _, [] => []
  | true :: marks, x :: xs => x :: kept marks xs
  | false :: marks, _ :: xs => kept marks xs

/-- Whether an input is an introduction of the client and the reply to it a result. -/
def startsSession : Input × Reply → Bool
  | (.message m, .message (.result _ _) _) => m.method = "initialize"
  | _ => false

namespace Session

variable {s : Session} {m : Message} {x : Input}

/-! ### What may be erased -/

/-- A session **accepts** a document event while it runs. -/
def Accepts (s : Session) (m : Message) : Prop :=
  s.phase = .running ∧ m.event?.isSome

/-- Whether an input is neither part of the life of a session nor an event that it accepts. -/
def MayErase (s : Session) : Input → Prop
  | .message m =>
    m.method ≠ "initialize" ∧ m.method ≠ "shutdown" ∧ m.method ≠ "exit" ∧ ¬ s.Accepts m
  | .query _ => True

/-- An input that may be erased **changes nothing**. -/
theorem next_of_mayErase (h : s.MayErase x) : s.next x = s := by
  cases x with
  | query u => rfl
  | message m =>
      obtain ⟨hstart, hstop, hleave, haccepts⟩ := h
      have hserver : (s.step m).session.server = s.server := by
        refine (step_quiet fun hrunning => ?_).1
        rw [← Option.not_isSome_iff_eq_none]
        exact fun hevent => haccepts ⟨hrunning, hevent⟩
      have hphase : (s.step m).session.phase = s.phase := by
        rcases phase_step_cases s m with h | ⟨h, -⟩ | ⟨h, -⟩ | ⟨h, -⟩
        · exact h
        · exact absurd h hstart
        · exact absurd h hstop
        · exact absurd h hleave
      calc (s.step m).session
          = ⟨(s.step m).session.phase, (s.step m).session.server⟩ := rfl
        _ = s := by rw [hserver, hphase]

/-- **Inputs may be erased** from a run, each judged in the session that it meets: what is left gets
the replies that it got. -/
theorem replies_kept (s : Session) (marks : List Bool) (xs : List Input)
    (h : ∀ i x, marks[i]? = some false → xs[i]? = some x →
      (s.afterInputs (xs.take i)).MayErase x) :
    s.replies (kept marks xs) = kept marks (s.replies xs) := by
  induction xs generalizing s marks with
  | nil => cases marks <;> simp [kept, replies]
  | cons x xs ih =>
      rcases marks with - | ⟨mark, marks⟩
      · rfl
      have hlater := ih (s.next x) marks fun i y hmark hy => h (i + 1) y hmark hy
      cases mark with
      | true => rw [kept, replies, replies, kept, hlater]
      | false =>
          have hnext : s.next x = s := next_of_mayErase (h 0 x rfl rfl)
          rw [kept, replies, kept, ← hlater, hnext]

/-! ### Before the start and after the end -/

/-- A session that does not run keeps what it has and publishes nothing. -/
theorem idle_next (h : s.phase ≠ .running) (x : Input) :
    (s.next x).server = s.server ∧ (s.reply x).publications = [] := by
  cases x with
  | query u => exact ⟨rfl, rfl⟩
  | message m => exact step_quiet fun hrunning => absurd hrunning h

/-- An introduction is answered with a result in a fresh session only, and sets it running. -/
theorem phase_of_startsSession (h : startsSession (x, s.reply x)) :
    s.phase = .fresh ∧ (s.next x).phase = .running := by
  cases x with
  | query u => cases h
  | message m =>
      rw [reply] at h
      cases hresponse : (s.step m).response with
      | silent | gone | refused => simp [hresponse, startsSession] at h
      | result id answer =>
          rw [hresponse] at h
          exact phase_of_started (of_decide_eq_true h) hresponse

/-- A session begins to run in no other way. -/
theorem startsSession_of_running (hs : s.phase ≠ .running) (h : (s.next x).phase = .running) :
    startsSession (x, s.reply x) := by
  cases x with
  | query u => exact absurd h hs
  | message m =>
      rw [next] at h
      rcases phase_step_cases s m with h' | ⟨hm, -, -, id, h'⟩ | ⟨-, hrunning, -⟩ | ⟨-, h'⟩
      · exact absurd (h'.symm.trans h) hs
      · simp [reply, h', startsSession, hm]
      · exact absurd hrunning hs
      · cases h'.symm.trans h

/-- No session is fresh again. -/
theorem phase_next_ne_fresh (h : s.phase ≠ .fresh) (x : Input) : (s.next x).phase ≠ .fresh := by
  cases x with
  | query u => exact h
  | message m =>
      intro hnext
      rw [next] at hnext
      rcases phase_step_cases s m with h' | ⟨-, hfresh, -⟩ | ⟨-, -, h'⟩ | ⟨-, h'⟩
      · exact h (h'.symm.trans hnext)
      · exact h hfresh
      · cases h'.symm.trans hnext
      · cases h'.symm.trans hnext

/-- The inputs of a run with the replies to them. -/
def exchanges (s : Session) (xs : List Input) : List (Input × Reply) :=
  xs.zip (s.replies xs)

/-- The first exchange comes first. -/
theorem exchanges_cons (s : Session) (x : Input) (xs : List Input) :
    s.exchanges (x :: xs) = (x, s.reply x) :: (s.next x).exchanges xs := rfl

/-- **At most one introduction** is answered with a result, and none once a session is not fresh. -/
theorem countP_startsSession_le (s : Session) (xs : List Input) :
    (s.exchanges xs).countP startsSession ≤ if s.phase = .fresh then 1 else 0 := by
  induction xs generalizing s with
  | nil => simp [exchanges]
  | cons x xs ih =>
      have hlater := ih (s.next x)
      rw [exchanges_cons, List.countP_cons]
      by_cases hstarts : startsSession (x, s.reply x)
      · obtain ⟨hfresh, hrunning⟩ := phase_of_startsSession hstarts
        rw [hrunning, if_neg (by decide)] at hlater
        rw [if_pos hstarts, if_pos hfresh]
        omega
      · rw [if_neg hstarts]
        by_cases hfresh : s.phase = .fresh
        · rw [if_pos hfresh]
          split at hlater <;> omega
        · rw [if_neg (phase_next_ne_fresh hfresh x)] at hlater
          rw [if_neg hfresh]
          exact hlater

/-- **Without an introduction** a session that does not run keeps what it has and publishes
nothing. -/
theorem idle_run (hs : s.phase ≠ .running) {xs : List Input}
    (h : (s.exchanges xs).countP startsSession = 0) :
    (s.afterInputs xs).server = s.server ∧ (s.replies xs).flatMap Reply.publications = [] := by
  induction xs generalizing s with
  | nil => exact ⟨rfl, rfl⟩
  | cons x xs ih =>
      rw [exchanges_cons, List.countP_cons] at h
      obtain ⟨hlater, hfirst⟩ := Nat.add_eq_zero_iff.mp h
      have hidle : (s.next x).phase ≠ .running := by
        intro hrunning
        rw [if_pos (startsSession_of_running hs hrunning)] at hfirst
        cases hfirst
      obtain ⟨hserver, hnone⟩ := idle_next hs x
      obtain ⟨hserver', hnone'⟩ := ih hidle hlater
      rw [afterInputs_cons, replies, List.flatMap_cons, hserver', hserver, hnone, hnone']
      exact ⟨rfl, rfl⟩

/-- Whether a message **ends** the running of a session: a request to stop that moves it on, or an
order to leave. -/
def EndedBy (s : Session) (m : Message) : Prop :=
  m.method = "shutdown" ∧ (s.step m).session.phase ≠ s.phase ∨ m.method = "exit"

/-- An order to leave is always followed. -/
theorem phase_of_leave (hm : m.method = "exit") : (s.step m).session.phase = .gone := by
  have hname : Method.ofName? m.method = some .leave := hm ▸ rfl
  rw [step, hname]
  split
  next hgone => exact hgone
  next => rfl

/-- A session that has been ended is neither fresh nor running. -/
theorem EndedBy.phase (h : s.EndedBy m) :
    (s.step m).session.phase ≠ .fresh ∧ (s.step m).session.phase ≠ .running := by
  rcases h with ⟨hm, hmoved⟩ | hm
  · rcases phase_step_cases s m with h' | ⟨hm', -⟩ | ⟨-, -, h'⟩ | ⟨hm', -⟩
    · exact absurd h' hmoved
    · rw [hm] at hm'
      exact absurd hm' (by decide)
    · rw [h']
      exact ⟨by decide, by decide⟩
    · rw [hm] at hm'
      exact absurd hm' (by decide)
  · rw [phase_of_leave hm]
    exact ⟨by decide, by decide⟩

/-- The message that ends a session is no document event. -/
theorem EndedBy.event? (h : s.EndedBy m) : m.event? = none := by
  have hm : m.method = "shutdown" ∨ m.method = "exit" := h.imp_left And.left
  rw [Message.event?, Message.reported?]
  cases m.id <;> rcases hm with hm | hm <;> simp [hm]

/-- **Once it has been ended**, a session keeps what it has and publishes nothing. -/
theorem EndedBy.idle (h : s.EndedBy m) (later : List Input) :
    (s.afterInputs (.message m :: later)).server = s.server ∧
      (s.replies (.message m :: later)).flatMap Reply.publications = [] := by
  obtain ⟨hfresh, hrunning⟩ := h.phase
  have hcount := countP_startsSession_le (s.step m).session later
  rw [if_neg hfresh, Nat.le_zero] at hcount
  obtain ⟨hserver, hnone⟩ := step_quiet fun (_ : s.phase = .running) => h.event?
  obtain ⟨hserver', hnone'⟩ := idle_run hrunning hcount
  rw [afterInputs_cons, replies, List.flatMap_cons, next, hserver', hserver, hnone']
  exact ⟨rfl, (List.append_nil _).trans hnone⟩

/-- **Only accepted document events matter**, and only while the session runs. In the runs of a
fresh session any inputs that may be erased can be erased without a change in the other replies;
nothing is kept or published before an introduction is answered with a result, and nothing is
changed or published once a request to stop has moved the session on or it was told to leave; at
most one introduction is answered with a result; and a message is refused exactly if the rules
refuse it, whatever the server keeps. -/
theorem only_accepted_events_matter (settings : Settings) (symbols : Symbols) :
    let s := fresh settings symbols
    (∀ (marks : List Bool) (xs : List Input),
      (∀ i x, marks[i]? = some false → xs[i]? = some x →
        (s.afterInputs (xs.take i)).MayErase x) →
      s.replies (kept marks xs) = kept marks (s.replies xs)) ∧
    (∀ xs : List Input, (s.exchanges xs).countP startsSession = 0 →
      (s.afterInputs xs).server.documents = {} ∧
        (s.replies xs).flatMap Reply.publications = []) ∧
    (∀ (before : List Input) (m : Message) (later : List Input),
      (s.afterInputs before).EndedBy m →
      ((s.afterInputs before).afterInputs (.message m :: later)).server.documents =
          (s.afterInputs before).server.documents ∧
        ((s.afterInputs before).replies (.message m :: later)).flatMap Reply.publications = []) ∧
    (∀ xs : List Input, (s.exchanges xs).countP startsSession ≤ 1) ∧
    ∀ (before : List Input) (m : Message) (id : Json) (reason : Refusal),
      ((s.afterInputs before).step m).response = .refused id reason ↔
        m.id = some id ∧ m.fault? (s.afterInputs before).phase = some reason := by
  intro s
  have hfresh : s.phase = .fresh := rfl
  refine ⟨?_, ?_, ?_, ?_, ?_⟩
  · exact fun marks xs h => replies_kept s marks xs h
  · intro xs h
    obtain ⟨hserver, hnone⟩ := idle_run (by rw [hfresh]; decide) h
    rw [hserver]
    exact ⟨rfl, hnone⟩
  · intro before m later h
    obtain ⟨hserver, hnone⟩ := h.idle later
    rw [hserver]
    exact ⟨rfl, hnone⟩
  · exact fun xs => countP_startsSession_le s xs
  · exact fun before m id reason => response_eq_refused_iff _ m id reason

/-- A client introduces itself, opens a document, asks for a hover card, opens the document once
more by a message that has an id, and closes it; in between someone queries its diagnostics. -/
def visit : List Input :=
  [.message ⟨"initialize", some (.int 1), some (.obj [("capabilities", .obj [])])⟩,
   .message ⟨"textDocument/didOpen", none, some (.arr [.arr [.str "file:///a", .str "buglang",
      .int 1, .str "funct"]])⟩,
   .message ⟨"textDocument/hover", some (.int 2), some (.obj [
      ("textDocument", .obj [("uri", .str "file:///a")]), ("position", .arr [.int 0, .int 2])])⟩,
   .message ⟨"textDocument/didOpen", some (.int 3), some (.arr [.arr [.str "file:///a",
      .str "buglang", .int 2, .str ""]])⟩,
   .query ⟨"file:///a"⟩,
   .message ⟨"textDocument/didClose", none, some (.arr [.arr [.str "file:///a"]])⟩]

/-- Two of the inputs and the query may be erased; the introduction is the only one that is
answered with a result, before it nothing is kept, and after an order to leave nothing changes. -/
theorem visit_erased :
    (fresh {} .standard).replies (kept [true, true, false, false, false] visit) =
        kept [true, true, false, false, false] ((fresh {} .standard).replies visit) ∧
      ((fresh {} .standard).afterInputs (visit.drop 1)).server.documents = {} ∧
      (((fresh {} .standard).afterInputs (visit.take 2)).afterInputs
          (.message ⟨"exit", none, none⟩ :: visit)).server.documents =
        ((fresh {} .standard).afterInputs (visit.take 2)).server.documents := by
  obtain ⟨herased, hbefore, hafter, -, -⟩ := only_accepted_events_matter {} .standard
  refine ⟨herased _ _ ?_, (hbefore _ ?_).1, (hafter _ _ _ (Or.inr rfl)).1⟩
  · intro i x hmark hx
    match i with
    | 0 | 1 => exact absurd hmark (by decide)
    | 2 | 3 =>
        obtain rfl := Option.some.inj hx
        exact ⟨by decide, by decide, by decide, fun h => absurd h.2 (by decide)⟩
    | 4 =>
        obtain rfl := Option.some.inj hx
        trivial
    | _ + 5 => cases hmark
  · rfl

end Session

end LangServer
