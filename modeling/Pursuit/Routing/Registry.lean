import Pursuit.Wire.Frame

/-! # Handlers of incoming messages

A registry is an ordered list of handlers, each with a filter on content type and message id. What
a handler *does* is data of a type `α`, so that a registry can be looked at; the owner of the
registry says how to perform it.

* **`Registry α`** — the handlers, oldest first, and the number of the next one.
* **`Registry.matching`** — the handlers that a message goes to. `ContentType.allTypes` and
  `MessageId.all` match everything when they stand in a filter, and only there.
* **`dispatch`** — performs, on a state that holds the registry, all handlers that matched when it
  began, in order, and counts them. -/

namespace Pursuit

/-- Where a message comes from. -/
structure Context where
  /-- The player who sent it. -/
  sender : PlayerId
  /-- The connection that it came over, at a server. -/
  session : Option SessionId
deriving DecidableEq, Inhabited, Repr

/-- A message from the server, as a client sees it. -/
def Context.fromServer : Context := ⟨.server, none⟩

/-- A registered handler. -/
structure Handler (α : Type) where
  /-- The number it was given. -/
  number : UInt64
  /-- The content type it is for. -/
  type : ContentType
  /-- The message id it is for. -/
  id : MessageId
  /-- What it does. -/
  action : α

/-- Whether a message goes to the handler. -/
def Handler.accepts {α : Type} (h : Handler α) (m : Message) : Bool :=
  (h.type = .allTypes ∨ h.type = m.type) && (h.id = .all ∨ h.id = m.id)

/-- An ordered list of handlers. -/
structure Registry (α : Type) where
  /-- The handlers, oldest first. -/
  handlers : List (Handler α) := []
  /-- The number of the next handler. It starts over at zero when the greatest has been given. -/
  nextNumber : UInt64 := 1

namespace Registry

variable {α σ : Type}

instance : Inhabited (Registry α) := ⟨{}⟩

/-- How many handlers there are. -/
def size (r : Registry α) : Nat := r.handlers.length

/-- Whether there is none. -/
def isEmpty (r : Registry α) : Bool := r.handlers.isEmpty

/-- Appends a handler and tells its number. -/
def add (r : Registry α) (type : ContentType) (id : MessageId) (action : α) :
    UInt64 × Registry α :=
  (r.nextNumber,
    { handlers := r.handlers ++ [⟨r.nextNumber, type, id, action⟩], nextNumber := r.nextNumber + 1 })

/-- Removes the handler with the given number and tells whether it was there. -/
def remove (r : Registry α) (number : UInt64) : Bool × Registry α :=
  let kept := r.handlers.filter (·.number ≠ number)
  (kept.length ≠ r.handlers.length, { r with handlers := kept })

/-- Removes the handlers for exactly this id and tells how many there were. -/
def removeAllFor (r : Registry α) (id : MessageId) : Nat × Registry α :=
  let kept := r.handlers.filter (·.id ≠ id)
  (r.handlers.length - kept.length, { r with handlers := kept })

/-- Removes every handler. Numbers go on counting. -/
def clear (r : Registry α) : Registry α := { r with handlers := [] }

/-- The handlers that a message goes to, oldest first. -/
def matching (r : Registry α) (m : Message) : List (Handler α) :=
  r.handlers.filter (·.accepts m)

@[simp] theorem handlers_add (r : Registry α) (type : ContentType) (id : MessageId) (action : α) :
    (r.add type id action).2.handlers = r.handlers ++ [⟨r.nextNumber, type, id, action⟩] := rfl

@[simp] theorem handlers_remove (r : Registry α) (number : UInt64) :
    (r.remove number).2.handlers = r.handlers.filter (·.number ≠ number) := rfl

@[simp] theorem handlers_removeAllFor (r : Registry α) (id : MessageId) :
    (r.removeAllFor id).2.handlers = r.handlers.filter (·.id ≠ id) := rfl

@[simp] theorem handlers_clear (r : Registry α) : r.clear.handlers = [] := rfl

end Registry

/-- Performs the handlers of a state that match a message when the dispatch begins, in order, and
tells how many they are. What they add or remove meanwhile shows in later dispatches only. -/
def dispatch {α σ : Type} (registry : σ → Registry α)
    (perform : α → Message → Context → σ → σ) (m : Message) (ctx : Context) (s : σ) : Nat × σ :=
  let matched := (registry s).matching m
  (matched.length, matched.foldl (fun s h => perform h.action m ctx s) s)

end Pursuit
