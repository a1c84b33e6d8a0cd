import Pursuit.Address.Endpoint
import Pursuit.Connection.Session
import Pursuit.Message.Allocator

/-! # The listening side of a server

* **`ListenerSettings`** — where a server listens, and for how many.
* **`SessionMap`** — the live sessions by their ids, at most so many at once.
* **`Listener`** — accepts connections while there is room, numbers their sessions and takes each off
  the map when it has been closed.
* **`ServerEvent`** — what the sessions report, in one order for all of them. -/

namespace Pursuit

/-- The settings of a server's endpoint. -/
structure ListenerSettings where
  /-- Where it listens. -/
  endpoint : Endpoint := ⟨.v4 ⟨#v[0, 0, 0, 0]⟩, defaultNumber⟩
  /-- How many sessions it keeps at once. -/
  capacity : UInt64 := 16
deriving DecidableEq

/-- What a server reports. -/
inductive ServerEvent where
  /-- A session began. -/
  | accepted (session : SessionId)
  /-- The peer of a session sent a message. -/
  | received (session : SessionId) (m : Message)
  /-- A session was closed. -/
  | closed (session : SessionId)
deriving DecidableEq, Repr

/-- The report of a session as one of its server. -/
def SessionEvent.of (session : SessionId) : SessionEvent → ServerEvent
  | accepted => .accepted session
  | received m => .received session m
  | closed => .closed session

/-- The ids of the live sessions. -/
structure SessionMap where
  /-- How many there may be. -/
  capacity : Nat
  /-- The ids, each once. -/
  ids : List SessionId := []
deriving DecidableEq

namespace SessionMap

/-- Whether there is no room left. -/
def isFull (m : SessionMap) : Bool := m.capacity ≤ m.ids.length

/-- Whether a session is on the map. -/
def contains (m : SessionMap) (id : SessionId) : Bool := m.ids.contains id

/-- Puts a session on the map, if there is room. -/
def insert (m : SessionMap) (id : SessionId) : Bool × SessionMap :=
  if m.isFull then (false, m)
  else (true, if m.contains id then m else { m with ids := m.ids ++ [id] })

/-- Takes a session off the map and tells whether it was there. -/
def remove (m : SessionMap) (id : SessionId) : Bool × SessionMap :=
  (m.contains id, { m with ids := m.ids.erase id })

/-- The map never holds more than it may. -/
theorem length_ids_insert_le (m : SessionMap) (id : SessionId)
    (h : m.ids.length ≤ m.capacity) : (m.insert id).2.ids.length ≤ m.capacity := by
  unfold insert isFull
  split
  · exact h
  · rename_i hfull
    simp only [decide_eq_true_eq, Nat.not_le] at hfull
    split
    · exact h
    · simp only [List.length_append, List.length_cons, List.length_nil]
      omega

end SessionMap

/-- The listening side of a server. -/
structure Listener where
  /-- The live sessions. -/
  live : SessionMap
  /-- All sessions that ever began, the oldest first. -/
  sessions : List Session := []
  /-- The source of their ids. -/
  numbering : Numbering := {}
  /-- Whether the server shuts down. -/
  shutDown : Bool := false

namespace Listener

/-- A listener for so many connections at once. -/
def new (capacity : Nat) : Listener := { live := ⟨capacity, []⟩ }

/-- The session with an id. -/
def session? (l : Listener) (id : SessionId) : Option Session := l.sessions.find? (·.id = id)

/-- The listener with one session changed. -/
def modify (l : Listener) (id : SessionId) (f : Session → Session) : Listener :=
  { l with sessions := l.sessions.map fun s => if s.id = id then f s else s }

/-- Queues a message on a session. -/
def send (l : Listener) (id : SessionId) (m : Message) : Listener := l.modify id (·.send m)

/-- Accepts a connection. Without room it is dropped and no session begins. -/
def accept (l : Listener) : Option SessionId × Listener × List ServerEvent :=
  if l.shutDown ∨ l.live.isFull then (none, l, [])
  else
    let (number, numbering) := l.numbering.next
    let id : SessionId := ⟨number⟩
    let (session, events) := Session.start id
    (some id,
      { l with
        live := (l.live.insert id).2
        sessions := l.sessions ++ [session]
        numbering := numbering },
      events.map (·.of id))

/-- Takes the sessions off the map that a report says are closed. -/
def forget (l : Listener) : List ServerEvent → Listener
  | [] => l
  | .closed id :: rest => { l with live := (l.live.remove id).2 }.forget rest
  | _ :: rest => l.forget rest

/-- Lets an action happen to one session. -/
def act (l : Listener) (id : SessionId) (a : Session.Action) : Listener × List ServerEvent :=
  match l.session? id with
  | some s =>
    let (s, events) := s.step a
    let events := events.map (·.of id)
    ((l.modify id fun _ => s).forget events, events)
  | none => (l, [])

/-- Lets every session do what there is to do. -/
def settle (l : Listener) : Listener × List ServerEvent :=
  let settled := l.sessions.map Session.settle
  let events := settled.flatMap fun (s, events) => events.map (·.of s.id)
  ({ l with sessions := settled.map Prod.fst }.forget events, events)

/-- Shuts down: no connection is accepted any more, and every session is told to end. -/
def stop (l : Listener) : Listener :=
  { l with
    shutDown := true
    sessions := l.sessions.map fun s => (s.step .shutDown).1 }

/-- Connections that find no room, or a listener shut down, change nothing. -/
theorem accept_of_isFull {l : Listener} (h : l.live.isFull = true) : l.accept = (none, l, []) := by
  simp [accept, h]

end Listener

end Pursuit
