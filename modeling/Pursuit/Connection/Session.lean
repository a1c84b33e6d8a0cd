import Pursuit.Wire.Stream

/-! # One connection of a server

A session has a reader, which reports the messages of the peer, and a writer, which drains a queue
of outgoing messages. They work side by side, and either may notice first that the session is to
end; whoever closes it first reports that once.

* **`Session`** — what has come in, what is to go out, and how far the two workers have come.
* **`Session.Action`** — whatever can happen to a session, in any order.
* **`Session.step`, `Session.run`** — what it makes of the session, and what is reported.
* **`Session.settle`** — lets both workers finish what there is to do. -/

namespace Pursuit

/-- How far a worker of a session has come. -/
inductive Worker where
  /-- It works. -/
  | working
  /-- It has stopped working and is about to close the session. -/
  | leaving
  /-- It is gone. -/
  | gone
deriving DecidableEq, Repr

/-- What a session reports. -/
inductive SessionEvent where
  /-- The session began. -/
  | accepted
  /-- The peer sent a message. -/
  | received (m : Message)
  /-- The session was closed. -/
  | closed
deriving DecidableEq, Repr

/-- One connection of a server. -/
structure Session where
  /-- Its number. -/
  id : SessionId
  /-- The bytes that came in and have not been read. -/
  incoming : List UInt8 := []
  /-- Whether the peer has hung up. -/
  hungUp : Bool := false
  /-- The messages that are to be written, the oldest first. -/
  queue : List Message := []
  /-- The bytes written to the peer. -/
  written : List UInt8 := []
  /-- Whether the session was closed. -/
  closed : Bool := false
  /-- Whether the server shuts down. -/
  shutDown : Bool := false
  /-- The reader. -/
  reader : Worker := .working
  /-- The writer. -/
  writer : Worker := .working
deriving DecidableEq

namespace Session

/-- What can happen to a session. What is not possible as things stand has no effect. -/
inductive Action where
  /-- Bytes come in. -/
  | arrive (bytes : List UInt8)
  /-- The peer hangs up. -/
  | hangUp
  /-- Somebody sends a message to the peer. -/
  | send (m : Message)
  /-- Somebody closes the session. -/
  | close
  /-- The server begins to shut down. -/
  | shutDown
  /-- The reader takes the next frame, or stops at the end of the stream. -/
  | read
  /-- The reader cannot read. -/
  | readFails
  /-- The reader notices that the session or the server is at its end. -/
  | readerStops
  /-- The reader, having stopped, closes the session. -/
  | readerLeaves
  /-- The writer takes the next message. -/
  | write
  /-- The writer cannot write. -/
  | writeFails
  /-- The writer notices that the session or the server is at its end. -/
  | writerStops
  /-- The writer, having stopped, closes the session. -/
  | writerLeaves
deriving DecidableEq, Repr

/-- Whether the workers are told to stop. -/
def isEnding (s : Session) : Bool := s.closed || s.shutDown

/-- Closes a session. Only the first time has an effect. -/
def close (s : Session) : Session × List SessionEvent :=
  if s.closed then (s, []) else ({ s with closed := true }, [.closed])

/-- Queues a message. A closed session takes none, nor does one whose writer is gone. -/
def send (s : Session) (m : Message) : Session :=
  if s.closed ∨ s.writer = .gone then s else { s with queue := s.queue ++ [m] }

/-- Takes the next frame and reports its message, if it is a valid one. At the end of the stream the
reader stops. -/
def read (s : Session) : Session × List SessionEvent :=
  match nextFrame? s.incoming with
  | some (frame, rest) =>
    ({ s with incoming := rest }, (accepted [frame.check]).map .received)
  | none => (if s.hungUp then { s with reader := .leaving } else s, [])

/-- Writes the next message, if a reader would accept it. -/
def write (s : Session) : Session :=
  match s.queue with
  | [] => s
  | m :: rest => { s with queue := rest, written := s.written ++ (writeMessage m).toOption.getD [] }

/-- What an action makes of a session, and what is reported. -/
def step (a : Action) (s : Session) : Session × List SessionEvent :=
  match a with
  | .arrive bytes => (if s.hungUp then s else { s with incoming := s.incoming ++ bytes }, [])
  | .hangUp => ({ s with hungUp := true }, [])
  | .send m => (s.send m, [])
  | .close => s.close
  | .shutDown => ({ s with shutDown := true }, [])
  | .read => if s.reader = .working then s.read else (s, [])
  | .readFails => (if s.reader = .working then { s with reader := .leaving } else s, [])
  | .readerStops =>
    (if s.reader = .working ∧ s.isEnding then { s with reader := .leaving } else s, [])
  | .readerLeaves => if s.reader = .leaving then { s with reader := .gone }.close else (s, [])
  | .write => (if s.writer = .working then s.write else s, [])
  | .writeFails => (if s.writer = .working then { s with writer := .leaving } else s, [])
  | .writerStops =>
    (if s.writer = .working ∧ s.isEnding then { s with writer := .leaving } else s, [])
  | .writerLeaves => if s.writer = .leaving then { s with writer := .gone }.close else (s, [])

/-- What actions make of a session one after the other, and all that is reported. -/
def run : List Action → Session → Session × List SessionEvent
  | [], s => (s, [])
  | a :: rest, s =>
    let (s, events) := step a s
    let (s, more) := run rest s
    (s, events ++ more)

/-- A session at its beginning, and the report of it. -/
def start (id : SessionId) : Session × List SessionEvent := ({ id }, [.accepted])

/-! ## Running until nothing is left to do -/

/-- Reads all whole frames, of which there are at most `fuel`. -/
def readAll : Nat → Session → Session × List SessionEvent
  | 0, s => (s, [])
  | fuel + 1, s =>
    if (nextFrame? s.incoming).isSome then
      let (s, events) := s.read
      let (s, more) := readAll fuel s
      (s, events ++ more)
    else (s, [])

/-- Reads and writes whatever there is, then ends the session if it is to end. Both workers are
prompt: they finish what they have before they notice that the session is at its end. -/
def settle (s : Session) : Session × List SessionEvent :=
  let (s, events) := if s.reader = .working then readAll s.incoming.length s else (s, [])
  let s := if s.writer = .working then s.queue.foldl (fun s _ => s.write) s else s
  if s.hungUp ∨ s.isEnding then
    let (s, more) := run [.readFails, .writeFails, .readerLeaves, .writerLeaves] s
    (s, events ++ more)
  else (s, events)

/-! ## What the operations do -/

/-- A run that goes on does the rest on what the first part leaves, and reports after it. -/
theorem run_append (as bs : List Action) (s : Session) :
    run (as ++ bs) s = ((run bs (run as s).1).1, (run as s).2 ++ (run bs (run as s).1).2) := by
  induction as generalizing s with
  | nil => simp [run]
  | cons a as ih => simp [run, ih, List.append_assoc]

/-- To close a session leaves it closed. -/
@[simp] theorem closed_close (s : Session) : s.close.1.closed = true := by
  unfold close; split <;> simp_all

/-- A closed session takes no message. -/
theorem send_of_closed {s : Session} (m : Message) (h : s.closed = true) : s.send m = s := by
  simp [send, h]

end Session

end Pursuit
