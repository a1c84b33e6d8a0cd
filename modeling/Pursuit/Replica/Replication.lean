import Pursuit.Message.Allocator
import Pursuit.Routing.Registry

/-! # The bookkeeping of a replicated entity

An entity is known to its endpoint by a *key* that no other entity ever has, and to everybody by
its message id, which it may change and share.

* **`Registration`** — a content type that the entity sends and accepts, and how.
* **`Replication`** — key, message id, registrations and the kind of endpoint the entity is on.
* **`Hub`** — what an endpoint offers to its entities: handlers and fresh message ids.
* **`Replication.assign`** — gives the entity another message id. Handlers for the old id go, and
  for an id that entities may have a handler is installed that leads to the entity's key.
* **`Replication.retire`** — what happens to the handlers when the entity is gone. -/

namespace Pursuit

/-- A content type that an entity replicates. -/
structure Registration where
  /-- The content type. -/
  type : ContentType
  /-- The exact payload size in bytes. -/
  size : Nat
  /-- How urgently it is sent. -/
  urgency : Urgency
  /-- Whether it is sent at all. -/
  sending : Bool
deriving DecidableEq, Repr

/-- What kind of endpoint an entity is on. -/
inductive Link where
  /-- None. -/
  | detached
  /-- One that can address players only. -/
  | client
  /-- One that can address players and single connections. -/
  | server
deriving DecidableEq, Repr

/-- Whether there is an endpoint. -/
def Link.isAttached : Link → Bool
  | detached => false
  | _ => true

/-- The bookkeeping of one entity. -/
structure Replication where
  /-- What the endpoint knows the entity by. -/
  key : Nat
  /-- The id under which its messages travel. -/
  id : MessageId
  /-- The content types that it replicates, in the order of their first registration. -/
  registrations : List Registration
  /-- The endpoint it is on. -/
  link : Link
deriving DecidableEq, Repr

namespace Replication

/-- An entity that is to get an id of its own. -/
def fresh (key : Nat) (link : Link) : Replication := ⟨key, .none, [], link⟩

/-- An entity that travels as an event. -/
def event (key : Nat) (link : Link) : Replication := { fresh key link with id := .event }

/-- The registration of a content type. -/
def find? (r : Replication) (type : ContentType) : Option Registration :=
  r.registrations.find? (·.type = type)

/-- Registers a content type. One that is registered already is replaced where it stands. -/
def register (r : Replication) (type : ContentType) (size : Nat) (urgency : Urgency) :
    Replication :=
  let new : Registration := ⟨type, size, urgency, true⟩
  { r with registrations :=
      if (r.find? type).isSome then r.registrations.map fun x => if x.type = type then new else x
      else r.registrations ++ [new] }

/-- Allows or stops the sending of a content type. -/
def setSending (r : Replication) (type : ContentType) (enabled : Bool) : Replication :=
  { r with registrations :=
      r.registrations.map fun x => if x.type = type then { x with sending := enabled } else x }

end Replication

/-- What an endpoint offers to its entities. -/
structure Hub (α : Type) where
  /-- The handlers of incoming messages. -/
  registry : Registry α := {}
  /-- The source of message ids. -/
  ids : IdAllocator := {}

instance {α : Type} : Inhabited (Hub α) := ⟨{}⟩

namespace Replication

variable {α : Type}

/-- Whether the entity's endpoint has a handler for this id on the entity's behalf. -/
def handles (r : Replication) (id : MessageId) : Bool := id.isAssigned && r.link.isAttached

/-- Removes the handlers for the entity's id, as when the entity is gone. -/
def retire (r : Replication) (hub : Hub α) : Hub α :=
  if r.handles r.id then { hub with registry := (hub.registry.removeAllFor r.id).2 } else hub

/-- Gives the entity another id; `action` is what the endpoint does with messages for it. The id
that the entity has already changes nothing. -/
def assign (r : Replication) (id : MessageId) (action : α) (hub : Hub α) : Replication × Hub α :=
  if r.id = id then (r, hub)
  else
    let hub := r.retire hub
    let hub :=
      if r.handles id then { hub with registry := (hub.registry.add .allTypes id action).2 }
      else hub
    ({ r with id := id }, hub)

/-- Gives the entity a fresh id of its endpoint. Without an endpoint there is none. -/
def generate (r : Replication) (action : α) (hub : Hub α) :
    Option MessageId × Replication × Hub α :=
  if r.link.isAttached then
    let (id, ids) := hub.ids.next
    let (r, hub) := r.assign id action { hub with ids := ids }
    (some id, r, hub)
  else (none, r, hub)

/-! ## Texts -/

/-- A truth value as it is shown. -/
def boolText (b : Bool) : String := if b then "true" else "false"

/-- The fields of a registration. -/
def registrationText (x : Registration) : String :=
  "Registration \x7b content_type: ContentType(" ++ toString x.type.tag.toNat ++ "), size: "
    ++ toString x.size ++ ", frequency: " ++ x.urgency.name ++ ", sending_enabled: "
    ++ boolText x.sending ++ " \x7d"

/-- The fields of the bookkeeping, for whoever looks for a fault. -/
def debugText (r : Replication) : String :=
  "Replication \x7b message_id: MessageId(" ++ toString r.id.code.toNat ++ "), registrations: ["
    ++ ", ".intercalate (r.registrations.map registrationText) ++ "], networked: "
    ++ boolText r.link.isAttached ++ " \x7d"

/-! ## What the operations leave alone -/

@[simp] theorem key_register (r : Replication) (type : ContentType) (size : Nat)
    (urgency : Urgency) : (r.register type size urgency).key = r.key := rfl

/-- An entity keeps its key when it is assigned an id. -/
@[simp] theorem key_assign (r : Replication) (id : MessageId) (action : α) (hub : Hub α) :
    (r.assign id action hub).1.key = r.key := by
  unfold assign; split <;> rfl

/-- After an assignment the entity has the id. -/
@[simp] theorem id_assign (r : Replication) (id : MessageId) (action : α) (hub : Hub α) :
    (r.assign id action hub).1.id = id := by
  unfold assign; split
  · assumption
  · rfl

/-- An entity stays on its endpoint when it is assigned an id. -/
@[simp] theorem link_assign (r : Replication) (id : MessageId) (action : α) (hub : Hub α) :
    (r.assign id action hub).1.link = r.link := by
  unfold assign; split <;> rfl

/-- An entity keeps its registrations when it is assigned an id. -/
@[simp] theorem registrations_assign (r : Replication) (id : MessageId) (action : α)
    (hub : Hub α) : (r.assign id action hub).1.registrations = r.registrations := by
  unfold assign; split <;> rfl

end Replication

end Pursuit
