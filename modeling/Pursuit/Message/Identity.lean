/-! # Who and what a message is about

* **`MessageId`** — the entity a message belongs to. The ids below `MessageId.first` are reserved:
  none, the filter for all ids, and the events that belong to no entity.
* **`PlayerId`** — a participant. The ids below `PlayerId.firstClient` are reserved addresses.
* **`SessionId`** — one connection of a server.
* **`ContentType`** — the layout of a message's payload, with the exact payload size of each known
  layout.
* **`Urgency`** — how urgently a registered payload is to be sent. -/

namespace Pursuit

/-! ## Entities -/

/-- The id shared by all messages about one entity. -/
structure MessageId where
  /-- The id on the wire. -/
  code : UInt16
deriving DecidableEq, Inhabited, Repr

namespace MessageId

/-- No id assigned. -/
def none : MessageId := ⟨0⟩

/-- The filter that matches every id. -/
def all : MessageId := ⟨1⟩

/-- Requests and notices that belong to no entity. -/
def event : MessageId := ⟨2⟩

/-- The first id that an entity may have. -/
def first : MessageId := ⟨3⟩

/-- Whether the id belongs to an entity. -/
def isAssigned (id : MessageId) : Bool := first.code ≤ id.code

/-- The id as it is shown. -/
def text (id : MessageId) : String := "#" ++ toString id.code.toNat

/-- The first id is one for entities. -/
@[simp] theorem isAssigned_first : first.isAssigned = true := by decide

/-- The id of nothing is reserved. -/
@[simp] theorem isAssigned_none : none.isAssigned = false := by decide

/-- The id of all entities is reserved. -/
@[simp] theorem isAssigned_all : all.isAssigned = false := by decide

/-- The id of events is reserved. -/
@[simp] theorem isAssigned_event : event.isAssigned = false := by decide

end MessageId

/-! ## Participants -/

/-- A participant of a match. -/
structure PlayerId where
  /-- The id on the wire. -/
  code : UInt16
deriving DecidableEq, Inhabited, Repr

namespace PlayerId

/-- Nobody. -/
def none : PlayerId := ⟨0⟩

/-- The server, which decides. -/
def server : PlayerId := ⟨1⟩

/-- Every connected client. -/
def allClients : PlayerId := ⟨2⟩

/-- A client without a player id. -/
def newClient : PlayerId := ⟨3⟩

/-- The first id of an actual player. -/
def firstClient : PlayerId := ⟨4⟩

/-- Whether the id names an actual player. -/
def isPlayer (id : PlayerId) : Bool := firstClient.code ≤ id.code

/-- The id as it is shown. -/
def text (id : PlayerId) : String :=
  if id = none then "none"
  else if id = server then "server"
  else if id = allClients then "all-clients"
  else if id = newClient then "new-client"
  else "player-" ++ toString id.code.toNat

end PlayerId

/-! ## Connections -/

/-- One connection of a server. -/
structure SessionId where
  /-- The number of the connection. -/
  number : UInt64
deriving DecidableEq, Inhabited, Repr

/-- The id as it is shown. -/
def SessionId.text (id : SessionId) : String := "session-" ++ toString id.number.toNat

/-! ## Payload layouts -/

/-- The layout of a payload. -/
structure ContentType where
  /-- The tag on the wire. -/
  tag : UInt8
deriving DecidableEq, Inhabited, Repr

namespace ContentType

/-- Not set. -/
def undefined : ContentType := ⟨0⟩

/-- The filter that matches every layout. -/
def allTypes : ContentType := ⟨1⟩

/-- The state of a unit. -/
def gameUnit : ContentType := ⟨2⟩

/-- A request to steer a unit. -/
def moveRequest : ContentType := ⟨3⟩

/-- A request to highlight a unit. -/
def highlightRequest : ContentType := ⟨4⟩

/-- The state of an obstacle. -/
def gameObstacle : ContentType := ⟨5⟩

/-- The greeting that tells a client its player id. -/
def newPlayerId : ContentType := ⟨6⟩

/-- The exact payload size of a known layout, in bytes. -/
def payloadSize? (c : ContentType) : Option Nat :=
  if c = gameUnit then some 14
  else if c = moveRequest then some 9
  else if c = highlightRequest then some 2
  else if c = gameObstacle then some 12
  else if c = newPlayerId then some 2
  else Option.none

/-- The name of the layout. -/
def name (c : ContentType) : String :=
  if c = undefined then "undefined"
  else if c = allTypes then "all-types"
  else if c = gameUnit then "game-unit"
  else if c = moveRequest then "move-request"
  else if c = highlightRequest then "highlight-request"
  else if c = gameObstacle then "game-obstacle"
  else if c = newPlayerId then "new-player-id"
  else "unknown"

/-- The layout as it is shown: its name and its tag. -/
def text (c : ContentType) : String := c.name ++ "(" ++ toString c.tag.toNat ++ ")"

end ContentType

/-! ## Urgency -/

/-- How urgently a registered payload is to be sent, from least to most. -/
inductive Urgency where
  /-- Only in a full transfer of the state. -/
  | once
  /-- When asked for. -/
  | onDemand
  /-- When the data has changed. -/
  | onChange
  /-- At every tick. -/
  | always
deriving DecidableEq, Repr

namespace Urgency

/-- The place in the order, from zero. -/
def rank : Urgency → Nat
  | once => 0
  | onDemand => 1
  | onChange => 2
  | always => 3

instance : LE Urgency := ⟨fun a b => a.rank ≤ b.rank⟩
instance (a b : Urgency) : Decidable (a ≤ b) := inferInstanceAs (Decidable (a.rank ≤ b.rank))

/-- The name of the urgency. -/
def name : Urgency → String
  | once => "Once"
  | onDemand => "OnDemand"
  | onChange => "OnChange"
  | always => "Always"

end Urgency

end Pursuit
