import Pursuit.Match.Roster
import Pursuit.Replica.Entity

/-! # Sending to the players of a server

* **`Lobby`** — the listening side of a server with its roster.
* **`Lobby.offer`** — queues a message on the sessions of its receiver, and tells whether the
  receiver is one that can be sent to. -/

namespace Pursuit

/-- The listening side of a server with the players on its sessions. -/
structure Lobby where
  /-- The sessions. -/
  listener : Listener
  /-- The players on them. -/
  roster : Roster := {}

namespace Lobby

/-- A lobby for so many players at once. -/
def new (capacity : Nat) : Lobby := { listener := .new capacity }

/-- Queues a message on the session of a profile. -/
def queue (l : Lobby) (m : Message) (p : Profile) : Lobby :=
  { l with listener := l.listener.send p.session m }

/-- Queues a message on the session of a profile, if there is one. -/
def queueOn (l : Lobby) (m : Message) : Option Profile → Bool × Lobby
  | some p => (true, l.queue m p)
  | none => (false, l)

/-- Queues a message for its receiver. The server itself is none, and all clients always are one,
however few they be. -/
def offer (m : Message) (receiver : Receiver) (l : Lobby) : Bool × Lobby :=
  if m.isAddressed then
    match receiver with
    | .player player =>
      if player = .server then (false, l)
      else if player = .allClients then (true, l.roster.profiles.foldl (·.queue m) l)
      else l.queueOn m (l.roster.byPlayer? player)
    | .session session => l.queueOn m (l.roster.bySession? session)
  else (false, l)

/-- Follows a report of the sessions, and tells who joined or left. -/
def handle (l : Lobby) (e : ServerEvent) : Lobby × Option PlayerEvent :=
  let (roster, event) := l.roster.handle e
  ({ l with roster }, event)

/-- The server does not send to itself. -/
theorem offer_server (m : Message) (l : Lobby) : l.offer m (.player .server) = (false, l) := by
  unfold offer; split <;> rfl

end Lobby

end Pursuit
