import LangServer.Launch.Conversation
import LangServer.Proofs.Verdicts

/-!
# Transcripts of Conversations

Messages go into a conversation one by one, and what comes out is taken whenever the other side
likes, one thing at a time or all at once. A transcript is a conversation with everything that has
been taken out of it. What was sent, taken or not, is what the session replies to the messages, and
what was logged is what the session has to say that passes the filter; when anything was taken does
not matter.

## Main statements

* `Transcript.sent_after`: what is sent in a conversation.
* `Transcript.logged_after`: what is logged in a conversation.
* `Session.target_of_mem_lines`: a session logs under one name.
-/

namespace LangServer

/-- Something that is done with a conversation. -/
inductive Act where
  | send (m : Message)
  | receive
  /-- All that waits and all that has been logged is taken. -/
  | drain

/-- The input that an act is for the session, if it is one. -/
def Act.input? : Act → Option Input
  | .send m => some (.message m)
  | .receive | .drain => none

/-- What goes out for a reply. -/
def Reply.outgoing : Reply → List Outgoing
  | .message response notices => response.outgoing ++ notices.map .notice
  | .diagnostics _ => []

/-! ### What a session logs -/

namespace Session

/-- What is logged on an input. -/
def linesOn (s : Session) : Input → List LogLine
  | .message m => (s.step m).effect.log
  | .query _ => []

/-- What is logged on some inputs, one after another. -/
def lines (s : Session) : List Input → List LogLine
  | [] => []
  | x :: xs => s.linesOn x ++ (s.next x).lines xs

/-- Document events are logged **under the name of the server**. -/
theorem target_of_mem_follow {s : Server} {event : DocumentEvent} {l : LogLine}
    (h : l ∈ (s.follow event).2.log) : l.target = Server.target := by
  cases event with
  | opened uri text version =>
      simp only [Server.follow, Server.keep, Server.publication, Effect.after, List.mem_cons,
        List.not_mem_nil, or_false] at h
      rcases h with rfl | rfl <;> rfl
  | changed uri version changes =>
      rw [Server.follow] at h
      split at h
      next =>
        simp only [Server.keep, Server.publication, List.mem_singleton] at h
        rw [h]
        rfl
      next =>
        rw [List.mem_singleton.mp h]
        rfl
  | closed uri =>
      simp only [Server.follow, Server.publication, Effect.after, List.mem_cons,
        List.not_mem_nil, or_false] at h
      rcases h with rfl | rfl <;> rfl

/-- So are questions. -/
theorem target_of_mem_answer {s : Server} {q : Question} {l : LogLine}
    (h : l ∈ (s.answer q).2) : l.target = Server.target := by
  cases q with
  | hover uri position =>
      rw [Server.answer] at h
      split at h
      next =>
        split at h
        next => cases h
        next =>
          rw [List.mem_singleton.mp h]
          rfl
      next => cases h
  | completion uri =>
      rw [Server.answer] at h
      split at h
      next =>
        rw [List.mem_singleton.mp h]
        rfl
      next => cases h
  | resolve item =>
      rw [List.mem_singleton.mp h]
      rfl

/-- So is every call. -/
theorem target_of_mem_perform {s : Session} {call : Call} {l : LogLine}
    (h : l ∈ (s.perform call).2.2.log) : l.target = Server.target := by
  cases call with
  | document event => exact target_of_mem_follow h
  | question q => exact target_of_mem_answer h
  | start | cancel | unserved => cases h
  | started | stop =>
      rw [List.mem_singleton.mp h]
      rfl

/-- A session logs **under one name**. -/
theorem target_of_mem_lines {s : Session} {xs : List Input} {l : LogLine} (h : l ∈ s.lines xs) :
    l.target = Server.target := by
  induction xs generalizing s with
  | nil => cases h
  | cons x xs ih =>
      rcases List.mem_append.mp h with h | h
      · cases x with
        | query uri => cases h
        | message m =>
            rw [linesOn, step_eq_carryOut] at h
            cases hverdict : m.verdict s.phase with
            | gone | passed | refused =>
                rw [hverdict] at h
                cases h
            | call phase id call =>
                rw [hverdict] at h
                exact target_of_mem_perform h
      · exact ih h

end Session

/-! ### Transcripts -/

/-- A conversation with **all that has been taken out of it**: `taken` of what was sent, and `told`
of what was logged. -/
structure Transcript where
  conversation : Conversation
  taken : List Outgoing := []
  told : List LogLine := []

namespace Transcript

/-- All that was sent, taken or not. -/
def sent (t : Transcript) : List Outgoing :=
  t.taken ++ t.conversation.waiting

/-- All that was logged, taken or not. -/
def logged (t : Transcript) : List LogLine :=
  t.told ++ t.conversation.log

/-- The transcript after an act. -/
def act (t : Transcript) : Act → Transcript
  | .send m => { t with conversation := t.conversation.send m }
  | .receive =>
    let (first, rest) := t.conversation.receive
    { t with conversation := rest, taken := t.taken ++ first.toList }
  | .drain =>
    let (outgoing, log, rest) := t.conversation.drain
    { conversation := rest, taken := t.taken ++ outgoing, told := t.told ++ log }

/-- The transcript after some acts. -/
def after (t : Transcript) (acts : List Act) : Transcript :=
  acts.foldl act t

/-- An act that is an **input** is a step of the session. -/
theorem act_of_input?_eq_some {a : Act} {x : Input} (h : a.input? = some x) (t : Transcript) :
    (t.act a).conversation.session = t.conversation.session.next x ∧
    (t.act a).conversation.filter = t.conversation.filter ∧
    (t.act a).sent = t.sent ++ (t.conversation.session.reply x).outgoing ∧
    (t.act a).logged = t.logged ++
      (t.conversation.session.linesOn x).filter t.conversation.filter.passes := by
  cases a with
  | receive | drain => cases h
  | send m =>
      obtain rfl : .message m = x := Option.some.inj h
      refine ⟨rfl, rfl, ?_, ?_⟩
      · simp [sent, act, Conversation.send, Conversation.record, Session.reply, Reply.outgoing]
      · simp [logged, act, Conversation.send, Conversation.record, Session.linesOn]

/-- **Taking something** changes nothing of what was sent and logged. -/
theorem act_of_input?_eq_none {a : Act} (h : a.input? = none) (t : Transcript) :
    (t.act a).conversation.session = t.conversation.session ∧
    (t.act a).conversation.filter = t.conversation.filter ∧
    (t.act a).sent = t.sent ∧ (t.act a).logged = t.logged := by
  cases a with
  | send m => cases h
  | receive =>
      cases hwaiting : t.conversation.waiting <;>
        simp [act, Conversation.receive, sent, logged, hwaiting]
  | drain => simp [act, Conversation.drain, sent, logged]

/-- The first act comes first. -/
theorem after_cons (t : Transcript) (a : Act) (acts : List Act) :
    t.after (a :: acts) = (t.act a).after acts := rfl

/-- What is **sent** in a conversation is what the session replies. -/
theorem sent_after (t : Transcript) (acts : List Act) :
    (t.after acts).sent = t.sent ++
      (t.conversation.session.replies (acts.filterMap Act.input?)).flatMap Reply.outgoing := by
  induction acts generalizing t with
  | nil => simp [after, Session.replies]
  | cons a acts ih =>
      rw [after_cons, ih]
      cases hinput : a.input? with
      | none =>
          obtain ⟨hsession, -, hsent, -⟩ := act_of_input?_eq_none hinput t
          rw [hsession, hsent, List.filterMap_cons_none hinput]
      | some x =>
          obtain ⟨hsession, -, hsent, -⟩ := act_of_input?_eq_some hinput t
          rw [hsession, hsent, List.filterMap_cons_some hinput, Session.replies,
            List.flatMap_cons, List.append_assoc]

/-- What is **logged** in a conversation is what the session has to say and the filter lets
through. -/
theorem logged_after (t : Transcript) (acts : List Act) :
    (t.after acts).logged = t.logged ++
      (t.conversation.session.lines (acts.filterMap Act.input?)).filter
        t.conversation.filter.passes := by
  induction acts generalizing t with
  | nil => simp [after, Session.lines]
  | cons a acts ih =>
      rw [after_cons, ih]
      cases hinput : a.input? with
      | none =>
          obtain ⟨hsession, hfilter, -, hlogged⟩ := act_of_input?_eq_none hinput t
          rw [hsession, hfilter, hlogged, List.filterMap_cons_none hinput]
      | some x =>
          obtain ⟨hsession, hfilter, -, hlogged⟩ := act_of_input?_eq_some hinput t
          rw [hsession, hfilter, hlogged, List.filterMap_cons_some hinput, Session.lines,
            List.filter_append, List.append_assoc]

end Transcript

end LangServer
