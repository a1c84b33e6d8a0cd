import Pursuit.Game.Station
import Pursuit.Match.Lobby

/-! # The server of a match

* **`Host`** — the game that decides, on an endpoint with players, and the players that are still to
  be greeted.
* **`Host.handle`** — follows a report of the sessions: a player joins or leaves, or a message goes to
  the handlers.
* **`Host.welcome`** — tells a player its id and then everything about the game.
* **`Host.load`, `Host.tick`, `Host.stop`** — a new level, a step with a broadcast, and the end. -/

namespace Pursuit

/-- The server of a match. -/
structure Host where
  /-- The game on its endpoint. -/
  station : Station
  /-- The players. -/
  lobby : Lobby
  /-- The players that joined and have not been greeted, the first to join first. -/
  arrivals : List Profile := []
  /-- The numbers of the handlers for requests. -/
  requestHandlers : List UInt64 := []
  /-- Whether it has been stopped. -/
  stopped : Bool := false

namespace Host

/-- A server whose game has no level yet, and which does not listen yet. -/
def new (rules : Rules) (capacity : Nat) : Host where
  station := .authority .server rules
  lobby := .new capacity

/-- Installs the handlers for players' requests, before the first player can join. -/
def prepare (h : Host) : Host :=
  let (a, station) := h.station.addHandler .moveRequest .event .steer
  let (b, station) := station.addHandler .highlightRequest .event .highlight
  { h with station := station, requestHandlers := h.requestHandlers ++ [a, b] }

/-- The game that decides. -/
def game? (h : Host) : Option Game := h.station.game

/-- The host with its game changed. -/
def mapGame (h : Host) (f : Game → Game) : Host := { h with station := h.station.mapGame f }

/-! ## Telling the players -/

/-- Sends messages to their receivers and counts those that could be sent. -/
def send (h : Host) (offers : List (Message × Receiver)) : Nat × Host :=
  let (n, lobby) := offerAll Lobby.offer offers h.lobby
  (n, { h with lobby })

/-- Sends what is due of the game. -/
def synchronize (h : Host) (target : Target) (threshold : Urgency) : Nat × Host :=
  h.send ((h.game?.map fun g => g.offers target threshold).getD [])

/-- Sends what is due at every tick to all players. -/
def broadcast (h : Host) : Nat × Host := h.synchronize (.player .allClients) .always

/-- The messages that tell a player its id. -/
def greeting (p : Profile) : List (Message × Receiver) :=
  Entity.offers (Request.new .server (⟨p.player⟩ : Greeting)) (.session p.session) .once

/-- Tells a player its id, and then everything about the game. -/
def welcome (h : Host) (p : Profile) : Host :=
  ((h.send (greeting p)).2.synchronize (.session p.session) .once).2

/-- Welcomes the player who has waited longest. A server that has been stopped welcomes nobody. -/
def welcomeNext (h : Host) : Host :=
  match h.arrivals with
  | p :: rest => if h.stopped then h else { h with arrivals := rest }.welcome p
  | [] => h

/-! ## Following the sessions -/

/-- Follows a report of the sessions. A message without a layout goes nowhere. -/
def handle (h : Host) (e : ServerEvent) : Host :=
  let (lobby, event) := h.lobby.handle e
  let h := { h with lobby }
  match e, event with
  | .received session m, _ =>
    if m.type = .undefined then h
    else
      { h with
        station := (h.station.receive m ⟨h.lobby.roster.sender session, some session⟩).2 }
  | _, some (.joined p) => { h with arrivals := h.arrivals ++ [p] }
  | _, _ => h

/-- Follows reports one after the other. -/
def handleAll (h : Host) (events : List ServerEvent) : Host := events.foldl handle h

/-- The host with the outcome of something that happened to its sessions. -/
def follow (h : Host) (r : Listener × List ServerEvent) : Host :=
  { h with lobby := { h.lobby with listener := r.1 } }.handleAll r.2

/-- Accepts a connection, if there is room, and tells on which session. -/
def accept (h : Host) : Option SessionId × Host :=
  let (session, listener, events) := h.lobby.listener.accept
  (session, h.follow (listener, events))

/-- Lets an action happen to one session. -/
def act (h : Host) (session : SessionId) (a : Session.Action) : Host :=
  h.follow (h.lobby.listener.act session a)

/-- Lets the sessions do what there is to do, and follows what they report. -/
def settle (h : Host) : Host := h.follow h.lobby.listener.settle

/-! ## The round -/

/-- Loads a level and welcomes every player anew, so that they all change to it and keep their
ids. -/
def load (h : Host) (level : UInt32) : Host :=
  h.lobby.roster.profiles.foldl welcome { h with station := h.station.load level }

/-- Starts the round. -/
def start (h : Host) : Host := h.mapGame (·.start)

/-- Steps the game. There is no step to a time that the clock cannot show. -/
def step (h : Host) (dt : Duration) : Host := h.mapGame fun g => (g.step? dt).getD g

/-- Steps the game and tells all players. A server that has been stopped does not tick. -/
def tick (h : Host) (dt : Duration) : Host := if h.stopped then h else (h.step dt).broadcast.2

/-- Gives up the game and the sessions. -/
def stop (h : Host) : Host :=
  let station := (h.station.removeHandlers h.requestHandlers).reset
  { h with
    station := { station with hub := { station.hub with registry := station.hub.registry.clear } }
    lobby := { h.lobby with listener := h.lobby.listener.stop }
    requestHandlers := []
    stopped := true }

/-! ## What the operations leave alone -/

/-- A server that has been stopped does not tick. -/
theorem tick_of_stopped {h : Host} (dt : Duration) (hs : h.stopped = true) : h.tick dt = h := by
  simp [tick, hs]

/-- Sending does not touch the game. -/
@[simp] theorem station_send (h : Host) (offers : List (Message × Receiver)) :
    (h.send offers).2.station = h.station := rfl

end Host

end Pursuit
