import LangServer.Launch.Start
import LangServer.Session.Wire

/-!
# Conversations

A session over a pair of streams: messages go in one by one, and what the server sends waits in
order until it is taken.
-/

namespace LangServer

/-- A session with what has not been taken yet and what has been logged. -/
structure Conversation where
  session : Session
  filter : LogFilter
  waiting : List Outgoing := []
  log : List LogLine := []

namespace Conversation

/-- The lines that the filter lets through, after those that are there. -/
def record (c : Conversation) (lines : List LogLine) : Conversation :=
  { c with log := c.log ++ lines.filter c.filter.passes }

/-- The conversation with a server that is ready. -/
def ofReady (r : Ready) : Conversation :=
  ({ session := { server := r.server }, filter := r.filter } : Conversation).record r.log

/-- Sends a message to the server. -/
def send (c : Conversation) (m : Message) : Conversation :=
  let outcome := c.session.step m
  ({ c with
      session := outcome.session
      waiting := c.waiting ++ outcome.response.outgoing ++ outcome.effect.notices.map .notice } :
    Conversation).record outcome.effect.log

/-- Takes what waits first. -/
def receive (c : Conversation) : Option Outgoing × Conversation :=
  match c.waiting with
  | [] => (none, c)
  | first :: rest => (some first, { c with waiting := rest })

/-- Takes all that waits and all that has been logged. -/
def drain (c : Conversation) : List Outgoing × List LogLine × Conversation :=
  (c.waiting, c.log, { c with waiting := [], log := [] })

end Conversation

end LangServer
