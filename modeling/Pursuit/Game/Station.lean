import Pursuit.Game.Basic

/-! # A game on its endpoint

* **`Action`** — what a handler of a game's endpoint does.
* **`Station`** — an endpoint's handlers and ids, the game on it, and the pieces that somebody
  still holds although the game has let them go.
* **`Station.receive`** — dispatches a message. Handlers lead to entities by their keys, so a
  handler whose entity is gone does nothing, also within the dispatch that made it go.
* **`Station.load`, `Station.reset`** — entities come with fresh ids and handlers, and take their
  handlers along when they go.
* **`Station.joinAsFollower`** — lets a game be fed by what the server tells: it creates what it has
  not heard of, and forgets everything at a greeting. -/

namespace Pursuit

/-- What a handler does with a message. -/
inductive Action where
  /-- Updates the piece with a key. -/
  | updatePiece (key : Nat)
  /-- Updates the obstacle with a key. -/
  | updateObstacle (key : Nat)
  /-- Creates a piece that the game does not have. -/
  | discoverPiece
  /-- Creates an obstacle that the game does not have. -/
  | discoverObstacle
  /-- Takes up the player id of a greeting and forgets everything else. -/
  | greet
  /-- Applies a request to steer. -/
  | steer
  /-- Applies a request to mark. -/
  | highlight
  /-- Keeps a record of the message. -/
  | observe
deriving DecidableEq, Repr

/-- A game on its endpoint. -/
structure Station where
  /-- Handlers and ids of the endpoint. -/
  hub : Hub Action := {}
  /-- The game, as long as there is one. -/
  game : Option Game := none
  /-- Pieces that the game has let go and somebody still holds. -/
  kept : List Piece := []
  /-- The keys of the pieces that somebody holds. -/
  holds : List Nat := []
  /-- The key of the next entity. -/
  nextKey : Nat := 0
  /-- What the observing handlers have seen, the oldest first. -/
  seen : List (Message × Context) := []

instance : Inhabited Station := ⟨{}⟩

namespace Station

/-- The station with its game changed. -/
def mapGame (s : Station) (f : Game → Game) : Station := { s with game := s.game.map f }

/-! ## Entities that come and go -/

/-- Lets a piece go. If somebody holds it, it stays as it is; otherwise its handlers go with it. -/
def letGo (s : Station) (p : Piece) : Station :=
  if s.holds.contains p.replication.key then { s with kept := s.kept ++ [p] }
  else { s with hub := p.replication.retire s.hub }

/-- Lets all entities of the game go and takes the level away. -/
def reset (s : Station) : Station :=
  match s.game with
  | some g =>
    let s := g.pieces.foldl letGo { s with game := some g.cleared }
    g.obstacles.foldl (fun s o => { s with hub := o.replication.retire s.hub }) s
  | none => s

/-- Forgets the round and the player, as after losing the server. -/
def leave (s : Station) : Station :=
  s.reset.mapGame fun g => { g with ownPlayer := .none }

/-- Adds a piece to the game; on an endpoint it gets a fresh id. -/
def addPiece (s : Station) (p : Piece) : Station :=
  let p := { p with replication := { p.replication with key := s.nextKey } }
  let (_, r, hub) := p.replication.generate (.updatePiece s.nextKey) s.hub
  { s with hub := hub, nextKey := s.nextKey + 1 }.mapGame fun g =>
    { g with pieces := g.pieces ++ [{ p with replication := r }] }

/-- Adds an obstacle to the game; on an endpoint it gets a fresh id. -/
def addObstacle (s : Station) (o : Obstacle) : Station :=
  let o := { o with replication := { o.replication with key := s.nextKey } }
  let (_, r, hub) := o.replication.generate (.updateObstacle s.nextKey) s.hub
  { s with hub := hub, nextKey := s.nextKey + 1 }.mapGame fun g =>
    { g with obstacles := g.obstacles ++ [{ o with replication := r }] }

/-- The pieces of one side: numbered from one, at their places. -/
def side (link : Link) (owner : PlayerId) (hunting : Bool) (places : List Vec) : List Piece :=
  places.zipIdx.map fun (place, i) =>
    let p := Piece.new 0 link
    { p with
      state := { p.state with position := place, number := UInt8.ofNat (i + 1), owner := owner }
      hunting := hunting }

/-- The pieces of a level: those of the first player, then those of the second, who hunts. -/
def piecesOf (link : Link) (level : Level) : List Piece :=
  side link .firstClient false level.prey
    ++ side link ⟨PlayerId.firstClient.code + 1⟩ true level.hunters

/-- The obstacles of a level. -/
def obstaclesOf (link : Link) (level : Level) : List Obstacle :=
  level.obstacles.map fun (place, radius) => { Obstacle.new 0 link with state := ⟨place, radius⟩ }

/-- Replaces everything by a level. -/
def load (s : Station) (number : UInt32) : Station :=
  match s.reset.game with
  | some g =>
    let level := Level.number number
    let s := (piecesOf g.link level).foldl addPiece s.reset
    let s := (obstaclesOf g.link level).foldl addObstacle s
    s.mapGame fun g => { g with phase := .loaded, level := some number }
  | none => s

/-! ## What a follower does with messages -/

/-- Creates the piece that a message tells of, unless the game has one with its id. -/
def discoverPiece (m : Message) (s : Station) : Station :=
  match s.game with
  | some g =>
    if (g.pieceById? m.id).isSome then s
    else
      match Entity.create? (Piece.new s.nextKey g.link) m (.updatePiece s.nextKey) s.hub with
      | some (p, hub) =>
        { s with
          hub := hub
          nextKey := s.nextKey + 1
          game := some { g with pieces := g.pieces ++ [p] } }
      | none => s
  | none => s

/-- Creates the obstacle that a message tells of, unless the game has one with its id. -/
def discoverObstacle (m : Message) (s : Station) : Station :=
  match s.game with
  | some g =>
    if (g.obstacleById? m.id).isSome then s
    else
      match Entity.create? (Obstacle.new s.nextKey g.link) m (.updateObstacle s.nextKey) s.hub with
      | some (o, hub) =>
        { s with
          hub := hub
          nextKey := s.nextKey + 1
          game := some { g with obstacles := g.obstacles ++ [o] } }
      | none => s
  | none => s

/-- Takes up the player id of a greeting. The whole state follows a greeting, so all that was
told before is out of date. -/
def greet (m : Message) (s : Station) : Station :=
  match (Request.ofMessage? m : Option (Request Greeting)) with
  | some q => s.reset.mapGame fun g => { g with ownPlayer := q.payload.player }
  | none => s

/-! ## What the deciding game does with messages -/

/-- Applies the request in a message, if the message holds one and the game grants it. -/
def obey {α : Type} [Payload α] [Inhabited α]
    (apply : Game → PlayerId → α → Except RequestError Game) (m : Message) (ctx : Context)
    (s : Station) : Station :=
  match s.game, (Request.ofMessage? m : Option (Request α)) with
  | some g, some q => { s with game := some ((apply g ctx.sender q.payload).toOption.getD g) }
  | _, _ => s

/-! ## Dispatch -/

/-- The entity after a message that may fit it. -/
def updated {ε : Type} [Entity ε] (key : Nat) (m : Message) (e : ε) : ε :=
  if Entity.key e = key then (Entity.update? e m).getD e else e

/-- What a handler does. -/
def perform (a : Action) (m : Message) (ctx : Context) (s : Station) : Station :=
  match a with
  | .updatePiece key =>
    { s with kept := s.kept.map (updated key m) }.mapGame fun g =>
      { g with pieces := g.pieces.map (updated key m) }
  | .updateObstacle key =>
    s.mapGame fun g => { g with obstacles := g.obstacles.map (updated key m) }
  | .discoverPiece => discoverPiece m s
  | .discoverObstacle => discoverObstacle m s
  | .greet => greet m s
  | .steer => obey Game.steer m ctx s
  | .highlight => obey Game.highlight m ctx s
  | .observe => { s with seen := s.seen ++ [(m, ctx)] }

/-- Dispatches a message and counts the handlers that it went to. -/
def receive (s : Station) (m : Message) (ctx : Context) : Nat × Station :=
  dispatch (·.hub.registry) perform m ctx s

/-! ## Opening and closing a game -/

/-- Adds a handler and tells its number. -/
def addHandler (s : Station) (type : ContentType) (id : MessageId) (a : Action) :
    UInt64 × Station :=
  let (number, registry) := s.hub.registry.add type id a
  (number, { s with hub := { s.hub with registry := registry } })

/-- Removes the handlers with the given numbers. -/
def removeHandlers (s : Station) (numbers : List UInt64) : Station :=
  numbers.foldl
    (fun s n => { s with hub := { s.hub with registry := (s.hub.registry.remove n).2 } }) s

/-- A fresh message id of the endpoint. -/
def nextId (s : Station) : MessageId × Station :=
  let (id, ids) := s.hub.ids.next
  (id, { s with hub := { s.hub with ids := ids } })

/-- An endpoint without a game whose only handler keeps a record of all messages. -/
def observing : Station := (addHandler {} .allTypes .all .observe).2

/-- An endpoint with a game that decides. -/
def authority (link : Link) (rules : Rules) : Station := { game := some { rules, link } }

/-- Lets a game be fed by three handlers, for all ids. -/
def joinAsFollower (s : Station) (link : Link) (rules : Rules) : Station :=
  let (a, s) := s.addHandler .gameUnit .all .discoverPiece
  let (b, s) := s.addHandler .gameObstacle .all .discoverObstacle
  let (c, s) := s.addHandler .newPlayerId .all .greet
  { s with game := some { rules, link, feeders := [a, b, c] } }

/-- An endpoint with a game that follows what a server tells. -/
def follower (link : Link) (rules : Rules) : Station := joinAsFollower {} link rules

/-- Gives the game up: its feeding handlers go, then its entities. -/
def dropGame (s : Station) : Bool × Station :=
  match s.game with
  | some g => (true, { (s.removeHandlers g.feeders).reset with game := none })
  | none => (false, s)

/-! ## Holding pieces -/

/-- Holds the piece at a place, and tells whether there is one. -/
def hold (s : Station) (place : Nat) : Bool × Station :=
  match s.game.bind (·.pieces[place]?) with
  | some p => (true, { s with holds := s.holds ++ [p.replication.key] })
  | none => (false, s)

/-- The pieces held, as they are now. -/
def held (s : Station) : List Piece :=
  let pieces := (s.game.map (·.pieces)).getD [] ++ s.kept
  s.holds.filterMap fun key => pieces.find? (·.replication.key = key)

/-- Lets go of all pieces held and tells how many holds there were. -/
def release (s : Station) : Nat × Station :=
  (s.holds.length,
    { s with
      holds := []
      kept := []
      hub := s.kept.foldl (fun hub p => p.replication.retire hub) s.hub })

end Station

end Pursuit
