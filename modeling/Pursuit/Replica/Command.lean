import Pursuit.Replica.Outbox

/-! # What can be done with a single entity

* **`EntityCommand`** — the commands on an entity, wherever it is kept.
* **`EntityAnswer`** — what they answer.
* **`Entity.perform`** — performs a command on an entity, its hub and the outbox of its endpoint. -/

namespace Pursuit

/-- What can be done with a single entity. -/
inductive EntityCommand where
  /-- Gives it another id. -/
  | assign (id : MessageId)
  /-- Gives it a fresh id of its endpoint. -/
  | generate
  /-- Registers a content type. -/
  | register (type : ContentType) (size : Nat) (urgency : Urgency)
  /-- Allows or stops the sending of a content type. -/
  | setSending (type : ContentType) (enabled : Bool)
  /-- Tells the registrations. -/
  | registrations
  /-- Encodes the data of a content type. -/
  | encode (type : ContentType)
  /-- Overwrites the data of a content type. -/
  | decode (type : ContentType) (bytes : List UInt8)
  /-- Applies a message. -/
  | update (m : Message)
  /-- Sends what is due. -/
  | synchronize (target : Target) (threshold : Urgency)
  /-- Tells the bookkeeping in words. -/
  | debug

/-- What a command answers. -/
inductive EntityAnswer where
  /-- An id, if there is one. -/
  | id (id : Option MessageId)
  /-- The registrations. -/
  | registrations (xs : List Registration)
  /-- Encoded data. -/
  | bytes (result : Except ReplicaError (List UInt8))
  /-- That data was overwritten. -/
  | overwritten (result : Except ReplicaError Unit)
  /-- Whether a message was applied. -/
  | applied (b : Bool)
  /-- How many messages the endpoint took. -/
  | count (n : Nat)
  /-- Words. -/
  | text (s : String)

/-- Performs a command on an entity, its hub and the outbox of its endpoint. Handlers for the
entity do the given action. -/
def Entity.perform {ε α : Type} [Entity ε] (action : α) (e : ε) (hub : Hub α) (outbox : Outbox) :
    EntityCommand → EntityAnswer × ε × Hub α × Outbox
  | .assign id =>
    let (r, hub) := (replication e).assign id action hub
    (.id (some r.id), withReplication e r, hub, outbox)
  | .generate =>
    let (id, r, hub) := (replication e).generate action hub
    (.id id, withReplication e r, hub, outbox)
  | .register type size urgency =>
    let r := (replication e).register type size urgency
    (.registrations r.registrations, withReplication e r, hub, outbox)
  | .setSending type enabled =>
    let r := (replication e).setSending type enabled
    (.registrations r.registrations, withReplication e r, hub, outbox)
  | .registrations => (.registrations (replication e).registrations, e, hub, outbox)
  | .encode type => (.bytes (encode e type), e, hub, outbox)
  | .decode type bytes =>
    match decode e type bytes with
    | .ok e => (.overwritten (.ok ()), e, hub, outbox)
    | .error error => (.overwritten (.error error), e, hub, outbox)
  | .update m =>
    match update? e m with
    | some e => (.applied true, e, hub, outbox)
    | none => (.applied false, e, hub, outbox)
  | .synchronize target threshold =>
    let (n, outbox) := synchronize (Outbox.offer (replication e).link) e target threshold outbox
    (.count n, e, hub, outbox)
  | .debug => (.text (replication e).debugText, e, hub, outbox)

end Pursuit
