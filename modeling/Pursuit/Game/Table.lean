import Pursuit.Game.Station
import Pursuit.Replica.Command

/-! # A game on a recording endpoint

* **`Table`** — a station together with what its endpoint was given to send.
* **`Table.synchronize`** — sends what is due of all entities.
* **`Table.onPiece`, `Table.onObstacle`** — performs a command on a single entity. -/

namespace Pursuit

/-- A game and what its endpoint was given to send. -/
structure Table where
  /-- The game on its endpoint. -/
  station : Station := {}
  /-- What the endpoint was given. -/
  outbox : Outbox := {}

instance : Inhabited Table := ⟨{}⟩

namespace Table

/-- The game, if it is still there. -/
def game? (t : Table) : Option Game := t.station.game

/-- The table with its station changed. -/
def mapStation (t : Table) (f : Station → Station) : Table := { t with station := f t.station }

/-- The table with its game changed. -/
def mapGame (t : Table) (f : Game → Game) : Table := t.mapStation (·.mapGame f)

/-- Offers messages to the endpoint and counts those that it takes. -/
def send (t : Table) (offers : List (Message × Receiver)) : Nat × Table :=
  match t.game? with
  | some g =>
    let (n, outbox) := offerAll (Outbox.offer g.link) offers t.outbox
    (n, { t with outbox := outbox })
  | none => (0, t)

/-- Sends what is due of all entities. -/
def synchronize (t : Table) (target : Target) (threshold : Urgency) : Nat × Table :=
  match t.game? with
  | some g => t.send (g.offers target threshold)
  | none => (0, t)

/-- Asks the server for something. -/
def request {α : Type} [Payload α] (t : Table) (payload : α) : Table :=
  match t.game? with
  | some g => (t.send (Request.offers g.link payload)).2
  | none => t

/-- Steps the game a number of times. Where the clock cannot show the time of a step, there is no
answer; the steps before it have been made. -/
def steps (t : Table) (dt : Duration) : Nat → Bool × Table
  | 0 => (true, t)
  | n + 1 =>
    match t.game? with
    | some g =>
      match g.step? dt with
      | some g => { t with station := { t.station with game := some g } }.steps dt n
      | none => (false, t)
    | none => (true, t)

/-- Applies a request; a request that is refused changes nothing. -/
def apply (t : Table) (r : Except RequestError Game) : Except RequestError Unit × Table :=
  match r with
  | .ok g => (.ok (), t.mapGame fun _ => g)
  | .error e => (.error e, t)

/-- Dispatches messages from the server one after the other. -/
def deliver (t : Table) (messages : List Message) : List Nat × Table :=
  let (counts, station) := messages.foldl
    (fun (counts, s) m => let (n, s) := Station.receive s m .fromServer; (n :: counts, s))
    ([], t.station)
  (counts.reverse, { t with station := station })

/-- Performs a command on the piece at a place, if there is one. -/
def onPiece (t : Table) (place : Nat) (c : EntityCommand) : Option (EntityAnswer × Table) :=
  (t.game?.bind (·.pieces[place]?)).map fun p =>
    let (answer, p, hub, outbox) :=
      Entity.perform (.updatePiece p.replication.key) p t.station.hub t.outbox c
    let t : Table := ⟨{ t.station with hub := hub }, outbox⟩
    (answer, t.mapGame (·.modifyPiece place fun _ => p))

/-- Performs a command on the obstacle at a place, if there is one. -/
def onObstacle (t : Table) (place : Nat) (c : EntityCommand) : Option (EntityAnswer × Table) :=
  (t.game?.bind (·.obstacles[place]?)).map fun o =>
    let (answer, o, hub, outbox) :=
      Entity.perform (.updateObstacle o.replication.key) o t.station.hub t.outbox c
    let t : Table := ⟨{ t.station with hub := hub }, outbox⟩
    (answer, t.mapGame (·.modifyObstacle place fun _ => o))

end Table

end Pursuit
