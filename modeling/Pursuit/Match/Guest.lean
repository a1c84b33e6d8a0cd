import Pursuit.Connection.Dialer
import Pursuit.Game.Station

/-! # A client in a match

* **`Guest`** — the game as the server tells it, on an endpoint that dials a server.
* **`Guest.handle`** — follows a report of the connection: a message goes to the handlers, and the end
  of the connection takes the game away.
* **`Guest.request`** — asks the server for something.
* **`Guest.stop`** — gives up the game and the endpoint. -/

namespace Pursuit

/-- A client in a match. -/
structure Guest where
  /-- The game on its endpoint. -/
  station : Station := {}
  /-- The connection. -/
  dialer : Dialer
  /-- Whether the end of a connection takes the game away. -/
  tidies : Bool := true
  /-- The reports of the connection, the oldest first. -/
  log : List ClientEvent := []

namespace Guest

/-- A client with a game that is told by a server. -/
def new (settings : DialerSettings) (rules : Rules) : Guest where
  station := .follower .client rules
  dialer := .new settings.retry

/-- The game as it has been told. -/
def game? (g : Guest) : Option Game := g.station.game

/-! ## Telling the server -/

/-- Queues a message, which only the server can receive. -/
def offer (m : Message) (receiver : Receiver) (g : Guest) : Bool × Guest :=
  if m.isAddressed ∧ receiver = .player .server then
    let (sent, dialer) := g.dialer.send m
    (sent, { g with dialer })
  else (false, g)

/-- Asks the server for something. -/
def request {α : Type} [Payload α] (g : Guest) (payload : α) : Guest :=
  if g.game?.isSome then (offerAll offer (Request.offers .client payload) g).2 else g

/-! ## Following the connection -/

/-- Follows a report of the connection. -/
def handle (g : Guest) (e : ClientEvent) : Guest :=
  match e with
  | .received m => { g with station := (g.station.receive m .fromServer).2 }
  | .closed _ => if g.tidies then { g with station := g.station.leave } else g
  | _ => g

/-- Follows what a connection came to. -/
def follow (g : Guest) (r : Dialer × List ClientEvent) : Guest :=
  r.2.foldl handle { g with dialer := r.1, log := g.log ++ r.2 }

/-- Asks the connection's task for something and waits until it has heard. -/
def order (g : Guest) (o : Dialer.Order) : Guest := g.follow (g.dialer.order o)

/-- Lets actions happen to the connection. -/
def act (g : Guest) (actions : List Dialer.Action) : Guest := g.follow (g.dialer.run actions)

/-- Lets attempts to connect fail, so many of them. -/
def failTimes (c : Backoff.Chance) (g : Guest) (times : Nat) : Guest :=
  g.follow (g.dialer.failTimes c times)

/-! ## Leaving -/

/-- Lets go of all handlers, so that whatever is still reported has no effect. -/
def silence (g : Guest) : Guest :=
  let hub := g.station.hub
  { g with
    station := { g.station with hub := { hub with registry := hub.registry.clear } }
    tidies := false }

/-- Gives up the endpoint. -/
def close (g : Guest) : Guest := g.silence.order .shutDown

/-- Gives up the game and the endpoint. -/
def stop (g : Guest) : Guest :=
  ({ g with station := g.station.reset }.silence.order .disconnect).order .shutDown

end Guest

end Pursuit
