import LangServer.Proofs.Runs

/-!
# The Rules of the Protocol

A message goes through the rules of the protocol before the server hears of it: is the session gone,
is the method known, does the phase admit it, is there an id where one belongs, do the parameters
fit. This module takes a step of a session apart into what the rules make of the message, which
depends on the phase and the message alone (`Message.verdict`), and what the server does about it
(`Session.carryOut`).

Whoever talks to a session may also ask it for the diagnostics of a document, past all rules. Inputs
are messages and such queries, and a run of a session over some inputs gives a reply for each.

## Conventions

A reply to a message is what comes back for it together with what is sent unasked on account of it.
What is logged is not part of it.

## Main definitions

* `Message.verdict`: what the rules make of a message in a phase.
* `Message.fault?`: why the rules refuse a message that has an id.
* `Session.replies`: what comes of some inputs.

## Main statements

* `Session.step_eq_carryOut`: a step is the verdict, carried out.
* `Session.response_eq_refused_iff`: the rules are all that ever refuses anything.
* `Session.phase_step_cases`, `Session.phase_of_started`: the ways from phase to phase.
-/

namespace LangServer

/-! ### Verdicts -/

/-- What the rules of the protocol make of a message, with the phase from then on. -/
inductive Verdict where
  | gone
  | passed (phase : Phase)
  | refused (phase : Phase) (id : Option Json) (reason : Refusal)
  | call (phase : Phase) (id : Option Json) (call : Call)

/-- The phase once a method has been admitted. -/
def Phase.enter (phase : Phase) : Method → Phase
  | .stop => .closing
  | _ => phase

/-- What the rules make of an admitted message: an id belongs to requests and to nothing else, and
the parameters are those of the method. -/
def Message.admitted (phase : Phase) (method : Method) (m : Message) : Verdict :=
  match method.kind, m.id with
  | .notification, some id => .refused phase (some id) .misplaced
  | .request, none => .passed phase
  | _, id =>
    match method.call? m.params with
    | none => .refused phase id .badParameters
    | some call => .call phase id call

/-- What the rules make of a message in a phase. -/
def Message.verdict (phase : Phase) (m : Message) : Verdict :=
  if phase = .gone then .gone
  else match Method.ofName? m.method with
    | none =>
      if Method.isReserved m.method then .passed phase
      else .refused phase m.id .unservedMethod
    | some .leave => .passed .gone
    | some method =>
      match phase.objection? method with
      | some reason => .refused phase m.id reason
      | none => m.admitted (phase.enter method) method

namespace Session

/-- What a verdict comes to. -/
def carryOut (s : Session) : Verdict → Outcome
  | .gone => ⟨s, .gone, {}⟩
  | .passed phase => ⟨{ s with phase }, .silent, {}⟩
  | .refused phase id reason => ⟨{ s with phase }, .of id (.error reason), {}⟩
  | .call phase id call =>
    let (s, outcome, effect) := { s with phase }.perform call
    ⟨s, .of id outcome, effect⟩

variable {s : Session} {m : Message}

/-- An admitted message is handled by its verdict. -/
theorem handle_eq_carryOut (s : Session) (method : Method) (m : Message) :
    s.handle method m = s.carryOut (m.admitted s.phase method) := by
  rw [handle, Message.admitted]
  cases method.kind with
  | notification =>
      cases m.id with
      | none => cases method.call? m.params <;> rfl
      | some id => rfl
  | request =>
      cases m.id with
      | none => rfl
      | some id => cases method.call? m.params <;> rfl

/-- A method that is admitted sets the phase, whatever phase it is handled in. -/
theorem handle_enter (s : Session) (method : Method) (m : Message) :
    (s.enter method).handle method m = s.carryOut (m.admitted (s.phase.enter method) method) := by
  have henter : s.enter method = { s with phase := s.phase.enter method } := by
    cases method <;> rfl
  rw [handle_eq_carryOut, henter, Message.admitted]
  cases method.kind <;> cases m.id <;> cases method.call? m.params <;> rfl

/-- **A step is the verdict, carried out.** -/
theorem step_eq_carryOut (s : Session) (m : Message) :
    s.step m = s.carryOut (m.verdict s.phase) := by
  rw [step, Message.verdict]
  by_cases hgone : s.phase = .gone
  · rw [if_pos hgone, if_pos hgone]
    rfl
  rw [if_neg hgone, if_neg hgone]
  cases Method.ofName? m.method with
  | none => cases Method.isReserved m.method <;> rfl
  | some method =>
      cases method
      case leave => rfl
      all_goals
        dsimp only
        generalize Phase.objection? s.phase _ = objection
        cases objection with
        | none => exact handle_enter s _ m
        | some reason => rfl

end Session

/-! ### Refusals -/

/-- Whether the server serves a method. -/
def Method.isServed : Method → Bool
  | .unserved _ _ => false
  | _ => true

/-- Why the rules refuse a method that the phase admits and that comes with an id: it has to be a
request, the parameters have to fit, and the server has to serve it. -/
def Method.misuse? (method : Method) (params : Option Json) : Option Refusal :=
  if method.kind = .notification then some .misplaced
  else if (method.call? params).isNone then some .badParameters
  else if method.isServed then none
  else some .unservedMethod

/-- Why the rules **refuse** a message that has an id, if they do: an unknown method is refused,
then what the phase does not admit, then what is not used as it has to be. A session that is gone
has no rules. -/
def Message.fault? (phase : Phase) (m : Message) : Option Refusal :=
  if phase = .gone then none
  else match Method.ofName? m.method with
    | none => if Method.isReserved m.method then none else some .unservedMethod
    | some .leave => none
    | some method => (phase.objection? method).or (method.misuse? m.params)

/-- What the server does not do is called for by the methods that it does not serve. -/
theorem Method.call?_eq_unserved_iff {method : Method} {params : Option Json} {call : Call}
    (h : method.call? params = some call) : call = .unserved ↔ method.isServed = false := by
  cases params <;> cases method <;> simp [call?, isServed] at h ⊢ <;> grind

namespace Session

/-- A response to a message is a refusal only if the message has an id. -/
theorem of_eq_refused_iff {id : Option Json} {outcome : Except Refusal Answer} {id' : Json}
    {reason : Refusal} :
    Response.of id outcome = .refused id' reason ↔ id = some id' ∧ outcome = .error reason := by
  cases id <;> cases outcome <;> simp [Response.of]

/-- The server turns down **nothing that it serves**. -/
theorem perform_eq_error_iff (s : Session) (call : Call) (reason : Refusal) :
    (s.perform call).2.1 = .error reason ↔ call = .unserved ∧ reason = .unservedMethod := by
  cases call <;> simp [perform, eq_comm]

/-- An admitted message is refused for **misuse** and for nothing else. -/
theorem refused_carryOut_admitted (s : Session) (phase : Phase) (method : Method) (m : Message)
    (id : Json) (reason : Refusal) :
    (s.carryOut (m.admitted phase method)).response = .refused id reason ↔
      m.id = some id ∧ method.misuse? m.params = some reason := by
  rw [Message.admitted, Method.misuse?]
  cases method.kind with
  | notification =>
      cases m.id with
      | none => cases method.call? m.params <;> simp [carryOut, Response.of]
      | some id' => simp [carryOut, Response.of]
  | request =>
      cases m.id with
      | none => simp [carryOut]
      | some id' =>
          cases hcall : method.call? m.params with
          | none => simp [carryOut, Response.of]
          | some call =>
              simp only [carryOut, of_eq_refused_iff, perform_eq_error_iff,
                Method.call?_eq_unserved_iff hcall]
              cases method.isServed <;> simp [eq_comm]

/-- **The rules are all that refuses.** A message is refused exactly if it has an id and the rules
find fault with it in the phase that the session is in, whatever the server keeps. -/
theorem response_eq_refused_iff (s : Session) (m : Message) (id : Json) (reason : Refusal) :
    (s.step m).response = .refused id reason ↔
      m.id = some id ∧ m.fault? s.phase = some reason := by
  rw [step_eq_carryOut, Message.verdict, Message.fault?]
  by_cases hgone : s.phase = .gone
  · simp [hgone, carryOut]
  rw [if_neg hgone, if_neg hgone]
  cases Method.ofName? m.method with
  | none => cases Method.isReserved m.method <;> simp [carryOut, of_eq_refused_iff]
  | some method =>
      cases method
      case leave => simp [carryOut]
      all_goals
        dsimp only
        generalize Phase.objection? s.phase _ = objection
        cases objection with
        | none => exact refused_carryOut_admitted s _ _ m id reason
        | some reason' => simp [carryOut, of_eq_refused_iff]

end Session

/-! ### Phases -/

/-- The phase after a verdict, from the one before it: a client that introduces itself sets a
session running. -/
def Verdict.phase (old : Phase) : Verdict → Phase
  | .gone => old
  | .passed phase => phase
  | .refused phase _ _ => phase
  | .call _ _ .start => .running
  | .call phase _ _ => phase

/-- Only one method calls for saying what the server offers. -/
theorem Method.eq_start_of_call? {method : Method} {params : Option Json}
    (h : method.call? params = some .start) : method = .start := by
  cases params <;> cases method <;> simp [call?] at h ⊢

/-- An admitted message moves a session only if the client introduces itself with it. -/
theorem Message.phase_admitted (old phase : Phase) (method : Method) (m : Message) :
    (m.admitted phase method).phase old = phase ∨
      method = .start ∧ ∃ id, m.admitted phase method = .call phase (some id) .start := by
  rw [admitted]
  split
  · exact Or.inl rfl
  · exact Or.inl rfl
  next id _ hrequest =>
    split
    · exact Or.inl rfl
    next call hcall =>
      cases call with
      | start =>
          have hstart := Method.eq_start_of_call? hcall
          refine Or.inr ⟨hstart, ?_⟩
          cases hid : m.id with
          | none => exact absurd hid (hrequest (hstart ▸ rfl))
          | some id' => exact ⟨id', rfl⟩
      | started | stop | document | question | cancel | unserved => exact Or.inl rfl

namespace Session

variable {s : Session} {m : Message}

/-- Carrying a verdict out leads to its phase. -/
theorem phase_carryOut (s : Session) (v : Verdict) :
    (s.carryOut v).session.phase = v.phase s.phase := by
  cases v with
  | gone | passed | refused => rfl
  | call phase id call => cases call <;> rfl

/-- **The ways from phase to phase**: a client that introduces itself and hears what the server
offers, a request to stop while the session runs, and an order to leave. -/
theorem phase_step_cases (s : Session) (m : Message) :
    (s.step m).session.phase = s.phase ∨
    (m.method = "initialize" ∧ s.phase = .fresh ∧ (s.step m).session.phase = .running ∧
      ∃ id, (s.step m).response = .result id s.server.capabilities) ∨
    (m.method = "shutdown" ∧ s.phase = .running ∧ (s.step m).session.phase = .closing) ∨
    (m.method = "exit" ∧ (s.step m).session.phase = .gone) := by
  rw [step_eq_carryOut, phase_carryOut, Message.verdict]
  by_cases hgone : s.phase = .gone
  · rw [if_pos hgone]
    exact Or.inl rfl
  rw [if_neg hgone]
  cases hname : Method.ofName? m.method with
  | none => cases Method.isReserved m.method <;> exact Or.inl rfl
  | some method =>
      cases method
      case leave =>
        exact Or.inr (Or.inr (Or.inr ⟨Method.name_unique (by simp [Method.served]) hname, rfl⟩))
      case start =>
        have hmethod : m.method = "initialize" :=
          Method.name_unique (by simp [Method.served]) hname
        cases hphase : s.phase with
        | gone => exact absurd hphase hgone
        | running | closing => exact Or.inl rfl
        | fresh =>
            rcases Message.phase_admitted .fresh .fresh .start m with h | ⟨-, id, h⟩
            · exact Or.inl h
            · refine Or.inr (Or.inl ⟨hmethod, rfl, ?_⟩)
              simp only [Phase.objection?, Phase.enter, h]
              exact ⟨rfl, id, rfl⟩
      case stop =>
        have hmethod : m.method = "shutdown" :=
          Method.name_unique (by simp [Method.served]) hname
        cases hphase : s.phase with
        | gone => exact absurd hphase hgone
        | fresh | closing => exact Or.inl rfl
        | running =>
            rcases Message.phase_admitted .running .closing .stop m with h | ⟨h, -⟩
            · exact Or.inr (Or.inr (Or.inl ⟨hmethod, rfl, h⟩))
            · cases h
      all_goals
        dsimp only [Phase.enter]
        left
        split
        · rfl
        · rcases Message.phase_admitted s.phase s.phase _ m with h | ⟨h, -⟩
          · exact h
          · cases h

/-- An introduction is **answered with a result** in a fresh session only, and sets it running. -/
theorem phase_of_started {id : Json} {answer : Answer} (hm : m.method = "initialize")
    (h : (s.step m).response = .result id answer) :
    s.phase = .fresh ∧ (s.step m).session.phase = .running := by
  have hname : Method.ofName? m.method = some .start := hm ▸ rfl
  rw [step_eq_carryOut, Message.verdict, hname] at h ⊢
  cases hphase : s.phase with
  | gone => simp [hphase, carryOut] at h
  | running | closing =>
      cases hid : m.id <;> simp [hphase, hid, Phase.objection?, carryOut, Response.of] at h
  | fresh =>
      refine ⟨rfl, ?_⟩
      simp only [hphase, Phase.objection?, Phase.enter, Message.admitted, Method.kind] at h ⊢
      cases hid : m.id with
      | none => simp [hid, carryOut] at h
      | some id' =>
          cases hcall : Method.call? .start m.params with
          | none => simp [hid, hcall, carryOut, Response.of] at h
          | some call =>
              have hstart : call = .start := by
                cases hp : m.params <;> simp [hp, Method.call?] at hcall
                exact hcall.2.symm
              subst hstart
              rfl

end Session

/-! ### Inputs and replies -/

/-- Something that is put to a session. -/
inductive Input where
  | message (m : Message)
  /-- A query for the diagnostics of a document, past all rules. -/
  | query (uri : Uri)

/-- What comes of an input. -/
inductive Reply where
  | message (response : Response) (notices : List Notice)
  | diagnostics (items : Option (List PublishedDiagnostic))

/-- What a reply publishes. -/
def Reply.publications : Reply → List Publication
  | .message _ notices => notices.filterMap Notice.publication?
  | .diagnostics _ => []

namespace Session

/-- A session with a client that has not introduced itself. -/
def fresh (settings : Settings) (symbols : Symbols) : Session where
  server := { settings, symbols }

/-- What comes of an input. -/
def reply (s : Session) : Input → Reply
  | .message m => .message (s.step m).response (s.step m).effect.notices
  | .query u => .diagnostics (s.server.diagnostics? u)

/-- The session after an input. -/
def next (s : Session) : Input → Session
  | .message m => (s.step m).session
  | .query _ => s

/-- What comes of some inputs, one after another. -/
def replies (s : Session) : List Input → List Reply
  | [] => []
  | x :: xs => s.reply x :: (s.next x).replies xs

/-- The session after some inputs. -/
def afterInputs (s : Session) (xs : List Input) : Session :=
  xs.foldl next s

/-- The first input comes first. -/
@[simp] theorem afterInputs_cons (s : Session) (x : Input) (xs : List Input) :
    s.afterInputs (x :: xs) = (s.next x).afterInputs xs := rfl

end Session

end LangServer
