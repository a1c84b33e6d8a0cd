import Pursuit.Arena.Piece
import Pursuit.Numeric.Trigonometry

/-! # Requests and notices

A request is an entity that travels once, as an event, and carries one payload.

* **`Request α`** — such an entity for a payload of type `α`.
* **`Request.ofMessage?`** — the request in a message, if the message is one and is well formed.
* **`SteerOrder.acceleration`** — what a request to steer asks for.
* **`RequestError`** — why a request is refused. -/

namespace Pursuit

/-- An entity that carries one payload. -/
structure Request (α : Type) where
  /-- The bookkeeping. -/
  replication : Replication
  /-- What is asked for. -/
  payload : α

namespace Request

variable {α : Type} [Payload α]

instance : Entity (Request α) where
  replication := replication
  withReplication q r := { q with replication := r }
  encode q type :=
    if type = Payload.type α then (Payload.encode q.payload).mapError .wire
    else .error (.unregistered type)
  decode q type bytes :=
    if type = Payload.type α then
      match Payload.ofBytes bytes with
      | .ok payload => .ok { q with payload := payload }
      | .error e => .error (.wire e)
    else .error (.unregistered type)

/-- A request with the given payload, under the id of events. -/
def new (link : Link) (payload : α) : Request α :=
  { replication := (Replication.event 0 link).register (Payload.type α) (Payload.size α) .once
    payload := payload }

/-- The request in a message. A message of another content type or with a malformed payload holds
none. -/
def ofMessage? [Inhabited α] (m : Message) : Option (Request α) :=
  Entity.update? (new .detached (default : α)) m

/-- The messages that a request sends to the server. -/
def offers (link : Link) (payload : α) : List (Message × Receiver) :=
  Entity.offers (new link payload) (.player .server) .once

end Request

/-- The acceleration that is asked for: the direction, counter-clockwise although heights grow
downwards, times the strength between zero and one, times the greatest acceleration. -/
def SteerOrder.acceleration (o : SteerOrder) : Vec :=
  let strength := o.strength.clamp 0 1
  Vec.mk o.angle.cos (-o.angle.sin) * strength * Arena.maxAcceleration

/-- Why a request is refused. -/
inductive RequestError where
  /-- The sender is no player. -/
  | notAPlayer (sender : PlayerId)
  /-- The sender has no such unit. -/
  | unknownUnit (player : PlayerId) (index : UInt8)
deriving DecidableEq, Repr

/-- What the error tells its reader. -/
def RequestError.message : RequestError → String
  | notAPlayer sender => "request from " ++ sender.text ++ ", which is not a player"
  | unknownUnit player index =>
    player.text ++ " has no unit with index " ++ toString index.toNat

end Pursuit
