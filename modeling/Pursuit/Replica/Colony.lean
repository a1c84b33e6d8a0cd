import Pursuit.Replica.Command
import Pursuit.Routing.Registry

/-! # Entities that share an endpoint

* **`Colony ε`** — an endpoint with the entities on it. An entity lives as long as somebody has a
  handle to it, and there may be several.
* **`Colony.create`, `Colony.createFrom`** — a new entity, and one made from a message.
* **`Colony.share`, `Colony.release`** — one more handle to an entity, and one less. With the last
  handle the entity is gone, and with it the handlers for its id.
* **`Colony.perform`** — performs a command on an entity.
* **`Colony.deliver`** — dispatches a message. Handlers lead to entities by their keys.
* **`Colony.Move`, `Colony.run`** — what can happen on an endpoint, and what has come of it. -/

namespace Pursuit

/-- The entities of one endpoint, and who holds them. -/
structure Colony (ε : Type) where
  /-- Handlers and ids of the endpoint. A handler leads to the key of an entity. -/
  hub : Hub Nat := {}
  /-- What the endpoint was given. -/
  outbox : Outbox := {}
  /-- The entities that live, the oldest first. -/
  members : List ε := []
  /-- For each handle the key of its entity. -/
  handles : List Nat := []
  /-- The key of the next entity. -/
  nextKey : Nat := 0

namespace Colony

variable {ε : Type} [Entity ε]

instance : Inhabited (Colony ε) := ⟨{}⟩

/-- The entity with a key, as long as it lives. -/
def member? (c : Colony ε) (key : Nat) : Option ε := c.members.find? (Entity.key · = key)

/-! ## Coming and going -/

/-- An entity as it is before anything has been done to it: it has a key that no other ever has, and
no id of its own. -/
def newcomer (c : Colony ε) (e : ε) (isEvent : Bool) : ε :=
  Entity.withReplication e
    { Entity.replication e with key := c.nextKey, id := if isEvent then .event else .none }

/-- An entity joins the others, with one handle to it. -/
def enter (c : Colony ε) (e : ε) (hub : Hub Nat) : Colony ε :=
  { c with
    hub := hub
    members := c.members ++ [e]
    handles := c.handles ++ [c.nextKey]
    nextKey := c.nextKey + 1 }

/-- Creates an entity, and tells its key. -/
def create (c : Colony ε) (e : ε) (isEvent : Bool) : Nat × Colony ε :=
  (c.nextKey, c.enter (c.newcomer e isEvent) c.hub)

/-- Creates an entity from a message, which has to fit it, and tells its key. -/
def createFrom (c : Colony ε) (e : ε) (isEvent : Bool) (m : Message) : Option Nat × Colony ε :=
  match Entity.create? (c.newcomer e isEvent) m c.nextKey c.hub with
  | some (e, hub) => (some c.nextKey, c.enter e hub)
  | none => (none, c)

/-- Takes one more handle to an entity that somebody has a handle to. -/
def share (c : Colony ε) (key : Nat) : Colony ε :=
  if key ∈ c.handles then { c with handles := c.handles ++ [key] } else c

/-- Gives one handle to an entity back. Without any the entity is gone. -/
def release (c : Colony ε) (key : Nat) : Colony ε :=
  let c := { c with handles := c.handles.erase key }
  if key ∈ c.handles then c
  else
    match c.member? key with
    | some e =>
      { c with
        hub := (Entity.replication e).retire c.hub
        members := c.members.filter (Entity.key · ≠ key) }
    | none => c

/-! ## Commands and messages -/

/-- The colony with another entity in the place of the one with a key. -/
def replace (c : Colony ε) (key : Nat) (e : ε) : Colony ε :=
  { c with members := c.members.map fun x => if Entity.key x = key then e else x }

/-- Performs a command on the entity with a key, as long as it lives. -/
def perform (c : Colony ε) (key : Nat) (command : EntityCommand) :
    Option (EntityAnswer × Colony ε) :=
  (c.member? key).map fun e =>
    let (answer, e, hub, outbox) := Entity.perform key e c.hub c.outbox command
    (answer, { c with hub := hub, outbox := outbox }.replace key e)

/-- Hands a message to the entity with a key, which takes it if it fits. -/
def receive (key : Nat) (m : Message) (_ : Context) (c : Colony ε) : Colony ε :=
  { c with members := c.members.map fun e =>
      if Entity.key e = key then (Entity.update? e m).getD e else e }

/-- Dispatches a message and counts the handlers that it went to. -/
def deliver (c : Colony ε) (m : Message) (ctx : Context) : Nat × Colony ε :=
  dispatch (·.hub.registry) receive m ctx c

/-! ## Histories -/

/-- What can happen on an endpoint. -/
inductive Move (ε : Type) where
  /-- An entity is created. -/
  | create (e : ε) (isEvent : Bool)
  /-- An entity is created from a message, if it fits. -/
  | createFrom (e : ε) (isEvent : Bool) (m : Message)
  /-- Somebody takes one more handle to an entity. -/
  | share (key : Nat)
  /-- Somebody gives a handle to an entity back. -/
  | release (key : Nat)
  /-- A command is performed on an entity, which may give it another id. -/
  | command (key : Nat) (command : EntityCommand)
  /-- A message comes in. -/
  | deliver (m : Message) (ctx : Context)

/-- What comes of a move. Commands on entities that are gone do nothing. -/
def step (c : Colony ε) : Move ε → Colony ε
  | .create e isEvent => (c.create e isEvent).2
  | .createFrom e isEvent m => (c.createFrom e isEvent m).2
  | .share key => c.share key
  | .release key => c.release key
  | .command key command => ((c.perform key command).map (·.2)).getD c
  | .deliver m ctx => (c.deliver m ctx).2

/-- What has come of an endpoint that began with this source of ids, after some moves. -/
def run (ids : IdAllocator) (moves : List (Move ε)) : Colony ε :=
  moves.foldl step { hub := { ids := ids } }

end Colony

end Pursuit
