import Pursuit.Replica.Colony

/-! # Records: entities of arbitrary content

* **`Record`** — an entity with a byte string for each of some content types; it counts the
  updates it has seen.
* **`Shelf`** — records in numbered places on one recording endpoint, with the operations on them.
  A record that is replaced or taken away is gone, and with it the handlers for its id. -/

namespace Pursuit

/-- An entity that replicates byte strings. -/
structure Record where
  /-- The bookkeeping. -/
  replication : Replication
  /-- The byte string of each content type it has, in ascending order of the types. -/
  content : List (ContentType × List UInt8) := []
  /-- The content types of the updates so far, the oldest first. -/
  updates : List ContentType := []

namespace Record

/-- Slots with one more, in its place in the order. A slot of the same type is replaced. -/
def insertSlot (type : ContentType) (bytes : List UInt8) :
    List (ContentType × List UInt8) → List (ContentType × List UInt8)
  | [] => [(type, bytes)]
  | slot :: rest =>
    if type.tag < slot.1.tag then (type, bytes) :: slot :: rest
    else if type = slot.1 then (type, bytes) :: rest
    else slot :: insertSlot type bytes rest

/-- The byte string of a content type, if the record has one. -/
def slot? (r : Record) (type : ContentType) : Except ReplicaError (List UInt8) :=
  match r.content.lookup type with
  | some bytes => .ok bytes
  | none => .error (.unregistered type)

/-- Overwrites the byte string of a content type that the record has. -/
def overwrite (r : Record) (type : ContentType) (bytes : List UInt8) :
    Except ReplicaError Record :=
  if (r.content.lookup type).isSome then
    .ok { r with content := r.content.map fun s => if s.1 = type then (type, bytes) else s }
  else .error (.unregistered type)

instance : Entity Record where
  replication := replication
  withReplication r x := { r with replication := x }
  encode := slot?
  decode := overwrite
  noted r type := { r with updates := r.updates ++ [type] }

end Record

/-- Records in numbered places on one endpoint. A place holds one handle to its record. -/
structure Shelf where
  /-- The records. -/
  colony : Colony Record := {}
  /-- The keys of the records by their places. -/
  places : List (Nat × Nat) := []

instance : Inhabited Shelf := ⟨{}⟩

namespace Shelf

/-- The record at a place. -/
def get? (s : Shelf) (place : Nat) : Option Record := (s.places.lookup place).bind s.colony.member?

/-- Takes the record at a place away and tells whether there was one. -/
def drop (s : Shelf) (place : Nat) : Bool × Shelf :=
  match s.places.lookup place with
  | some key =>
    (true, { s with
      colony := s.colony.release key
      places := s.places.filter (·.1 ≠ place) })
  | none => (false, s)

/-- Puts a record at a place. The one that was there is gone then. -/
def put (s : Shelf) (place : Nat) (key : Nat) : Shelf :=
  let (_, s) := s.drop place
  { s with places := s.places ++ [(place, key)] }

/-- A record that has never been on a shelf: its registrations are made one after the other, and it
has the given content. -/
def build (link : Link) (registrations : List (ContentType × Nat × Urgency))
    (content : List (ContentType × List UInt8)) : Record :=
  let replication := registrations.foldl
    (fun r (type, size, urgency) => r.register type size urgency) (.fresh 0 link)
  { replication, content := content.foldl (fun slots (t, b) => Record.insertSlot t b slots) [] }

/-- Puts a new record at a place. -/
def add (s : Shelf) (place : Nat) (r : Record) (isEvent : Bool) : Shelf :=
  let (key, colony) := s.colony.create r isEvent
  { s with colony := colony }.put place key

/-- Puts a record made from a message at a place, if the message fits it. The one that was there is
dropped after the new one has its handler. -/
def create (s : Shelf) (place : Nat) (r : Record) (isEvent : Bool) (m : Message) : Bool × Shelf :=
  match s.colony.createFrom r isEvent m with
  | (some key, colony) => (true, { s with colony := colony }.put place key)
  | (none, _) => (false, s)

/-- Dispatches a message from the server. -/
def dispatchMessage (s : Shelf) (m : Message) : Nat × Shelf :=
  let (count, colony) := s.colony.deliver m .fromServer
  (count, { s with colony := colony })

/-- Performs a command on the record at a place, if there is one. -/
def on (s : Shelf) (place : Nat) (c : EntityCommand) : Option (EntityAnswer × Shelf) :=
  (s.places.lookup place).bind fun key =>
    (s.colony.perform key c).map fun (answer, colony) => (answer, { s with colony := colony })

end Shelf

end Pursuit
