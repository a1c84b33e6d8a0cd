import Pursuit.Connection.Session

/-! # Calls on a session that are under way

Sending and closing are not done at one go. Who sends looks first whether the session is closed and
queues the message then; who closes raises a flag first, and reports the end of the session only if
nobody has raised it before. Others may come in between.

* **`Traffic`** — a session, and how far the calls on it have come.
* **`Traffic.Move`** — whatever can happen, in any order: what happens to a session at one go, and the
  parts of a call.
* **`Traffic.step`, `Traffic.run`** — what it makes of the session, and what is reported.
* **`Traffic.run_act`** — runs in which every call is made at one go are the runs of the session. -/

namespace Pursuit

/-- Writes no more than so many bytes of the next message, which stops the writer. Of a message that
no reader would accept nothing is written, so nothing can go wrong with it. -/
def Session.cutOff (s : Session) (count : Nat) : Session :=
  match s.queue with
  | [] => s
  | m :: rest =>
    match writeMessage m with
    | .ok bytes =>
      { s with queue := rest, written := s.written ++ bytes.take count, writer := .leaving }
    | .error _ => s

/-- A session with the calls on it that are under way. -/
structure Traffic where
  /-- The session. -/
  session : Session
  /-- The messages of those who have found the session open and have not queued them. -/
  sending : List Message := []
  /-- Whether somebody has closed the session and has not reported it. -/
  unreported : Bool := false
deriving DecidableEq

namespace Traffic

/-- What can happen to a session and to the calls on it. What is not possible as things stand has no
effect. -/
inductive Move where
  /-- Something happens to the session at one go. -/
  | act (a : Session.Action)
  /-- Somebody who sends a message looks whether the session is closed. -/
  | enter (m : Message)
  /-- One of those who found the session open queues the message. -/
  | push (place : Nat)
  /-- Somebody closes the session, be it a worker that has stopped or anybody else. -/
  | seize
  /-- Whoever closed the session reports it. -/
  | announce
  /-- The writer cannot write more of the next message than so many bytes. -/
  | cut (count : Nat)
deriving DecidableEq, Repr

/-- Goes on with a call to send, unless the session is closed. -/
def enter (t : Traffic) (m : Message) : Traffic :=
  if t.session.closed then t else { t with sending := t.sending ++ [m] }

/-- Ends a call to send. Without a writer the message is lost. -/
def push (t : Traffic) (place : Nat) : Traffic :=
  match t.sending[place]? with
  | some m =>
    { t with
      sending := t.sending.eraseIdx place
      session :=
        if t.session.writer = .gone then t.session
        else { t.session with queue := t.session.queue ++ [m] } }
  | none => t

/-- Raises the flag of a closed session. Only the first time has an effect. -/
def seize (t : Traffic) : Traffic :=
  if t.session.closed then t
  else { t with session := { t.session with closed := true }, unreported := true }

/-- Reports the end of the session, if it is to be reported. -/
def announce (t : Traffic) : Traffic × List SessionEvent :=
  if t.unreported then ({ t with unreported := false }, [.closed]) else (t, [])

/-- What a move makes of a session and of the calls on it, and what is reported. -/
def step (move : Move) (t : Traffic) : Traffic × List SessionEvent :=
  match move with
  | .act a => ({ t with session := (t.session.step a).1 }, (t.session.step a).2)
  | .enter m => (t.enter m, [])
  | .push place => (t.push place, [])
  | .seize => (t.seize, [])
  | .announce => t.announce
  | .cut count =>
    (if t.session.writer = .working then { t with session := t.session.cutOff count } else t, [])

/-- What moves make of a session one after the other, and all that is reported. -/
def run : List Move → Traffic → Traffic × List SessionEvent
  | [], t => (t, [])
  | move :: rest, t =>
    let (t, events) := step move t
    let (t, more) := run rest t
    (t, events ++ more)

/-- A session at its beginning, on which nobody has called. -/
def start (id : SessionId) : Traffic := { session := (Session.start id).1 }

/-- All that is reported of a session from its beginning. -/
def reports (id : SessionId) (moves : List Move) : List SessionEvent :=
  (Session.start id).2 ++ ((start id).run moves).2

/-- **Calls made at one go** are what they are for the session alone. -/
theorem run_act (actions : List Session.Action) (t : Traffic) :
    t.run (actions.map .act) =
      ({ t with session := (t.session.run actions).1 }, (t.session.run actions).2) := by
  induction actions generalizing t with
  | nil => rfl
  | cons a actions ih => simp [run, step, Session.run, ih]

end Traffic

end Pursuit
