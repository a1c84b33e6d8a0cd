import Pursuit.Replica.Replication
import Pursuit.Wire.Stream

/-! # Replicated entities

* **`Entity ε`** — a type of entities: its bookkeeping, and how the data of a content type is
  encoded and overwritten.
* **`Entity.update?`** — applies an incoming message: the content type must be registered, the
  payload must have the registered size, and the data must decode. Otherwise nothing changes.
* **`Entity.offers`** — the messages that a synchronization offers to the endpoint, in order, each
  with its receiver.
* **`Entity.synchronize`** — offers them, and counts those that the endpoint takes. -/

namespace Pursuit

/-- Why data could not be encoded or applied. -/
inductive ReplicaError where
  /-- The entity has no data of this content type. -/
  | unregistered (type : ContentType)
  /-- The data does not fit the wire. -/
  | wire (error : WireError)
deriving DecidableEq, Repr

/-- What the error tells its reader. -/
def ReplicaError.message : ReplicaError → String
  | unregistered type => "content type " ++ type.text ++ " is not registered on this entity"
  | wire error => error.message

/-- A type of replicated entities. -/
class Entity (ε : Type) where
  /-- The bookkeeping. -/
  replication : ε → Replication
  /-- The entity with another bookkeeping. -/
  withReplication : ε → Replication → ε
  /-- The data of a content type. -/
  encode : ε → ContentType → Except ReplicaError (List UInt8)
  /-- The entity with other data of a content type. -/
  decode : ε → ContentType → List UInt8 → Except ReplicaError ε
  /-- The entity after data of a content type came in. -/
  noted : ε → ContentType → ε := fun e _ => e

/-! ## Receivers -/

/-- Where a message goes. -/
inductive Receiver where
  /-- A player, or a reserved address. -/
  | player (id : PlayerId)
  /-- One connection of a server. -/
  | session (id : SessionId)
deriving DecidableEq, Repr

/-- The receiver as it is shown. -/
def Receiver.text : Receiver → String
  | player id => id.text
  | session id => id.text

/-- Whom a synchronization is for. -/
inductive Target where
  /-- One player, or a reserved address. -/
  | player (id : PlayerId)
  /-- Several players. -/
  | players (ids : List PlayerId)
  /-- One connection of a server. -/
  | session (id : SessionId)
deriving DecidableEq, Repr

/-- The receivers of a target, in order. A player named twice is two receivers. -/
def Target.receivers : Target → List Receiver
  | player id => [.player id]
  | players ids => ids.map .player
  | session id => [.session id]

/-- Whether an endpoint of this kind can address the receiver. -/
def Link.canAddress : Link → Receiver → Bool
  | detached, _ => false
  | client, .session _ => false
  | _, _ => true

namespace Entity

variable {ε : Type} [Entity ε]

/-- The id of an entity. -/
def id (e : ε) : MessageId := (replication e).id

/-- The key of an entity. -/
def key (e : ε) : Nat := (replication e).key

/-- Applies an incoming message. No answer means that the message does not fit the entity. -/
def update? (e : ε) (m : Message) : Option ε :=
  (replication e).find? m.type |>.bind fun x =>
    if m.payload.length = x.size then
      (decode e m.type m.payload).toOption.map fun e => noted e m.type
    else none

/-- An entity made from an incoming message: it takes the message's data and then its id. -/
def create? {α : Type} (e : ε) (m : Message) (action : α) (hub : Hub α) : Option (ε × Hub α) :=
  (update? e m).map fun e =>
    let (r, hub) := (replication e).assign m.id action hub
    (withReplication e r, hub)

/-- The message that carries the data of a content type, if there is one. -/
def outgoing? (e : ε) (type : ContentType) : Option Message :=
  (encode e type).toOption.bind fun bytes => (Message.ofPayload (id e) type bytes).toOption

/-- Whether a registration is due: sending is allowed, and its urgency reaches the threshold. -/
def isDue (threshold : Urgency) (x : Registration) : Bool := x.sending && threshold ≤ x.urgency

/-- The messages of a synchronization with their receivers: for each registration that is due, in
order, one message for each receiver, in order. Data that does not encode is passed over. -/
def offers (e : ε) (target : Target) (threshold : Urgency) : List (Message × Receiver) :=
  if (replication e).link.isAttached then
    ((replication e).registrations.filter (isDue threshold)).flatMap fun x =>
      (outgoing? e x.type).toList.flatMap fun m => target.receivers.map (m, ·)
  else []

end Entity

/-! ## Offering messages to an endpoint -/

/-- Offers messages one after the other and counts those taken. -/
def offerAll {σ : Type} (offer : Message → Receiver → σ → Bool × σ) :
    List (Message × Receiver) → σ → Nat × σ
  | [], s => (0, s)
  | (m, receiver) :: rest, s =>
    let (taken, s) := offer m receiver s
    let (count, s) := offerAll offer rest s
    ((if taken then 1 else 0) + count, s)

/-- Sends what is due of an entity, and counts the messages that the endpoint takes. -/
def Entity.synchronize {ε σ : Type} [Entity ε] (offer : Message → Receiver → σ → Bool × σ) (e : ε)
    (target : Target) (threshold : Urgency) (s : σ) : Nat × σ :=
  offerAll offer (Entity.offers e target threshold) s

end Pursuit
