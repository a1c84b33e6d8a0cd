import Pursuit.Replica.Entity

/-! # An endpoint that records what it is given

* **`Outbox`** — the messages taken so far with their receivers, and the numbers of the receivers
  that are refused.
* **`Outbox.offer`** — takes a message unless its receiver is refused or cannot be addressed. -/

namespace Pursuit

/-- What was sent, and who is refused. -/
structure Outbox where
  /-- The messages taken, the oldest first. -/
  sent : List (Message × Receiver) := []
  /-- The numbers of the players and connections that are refused. -/
  refused : List Nat := []

instance : Inhabited Outbox := ⟨{}⟩

/-- The number of a receiver; players and connections are counted alike. -/
def Receiver.number : Receiver → Nat
  | player id => id.code.toNat
  | session id => id.number.toNat

namespace Outbox

/-- Takes a message, unless its receiver is refused or out of reach. -/
def offer (link : Link) (m : Message) (receiver : Receiver) (o : Outbox) : Bool × Outbox :=
  if link.canAddress receiver ∧ receiver.number ∉ o.refused then
    (true, { o with sent := o.sent ++ [(m, receiver)] })
  else (false, o)

/-- Empties the outbox. -/
def take (o : Outbox) : List (Message × Receiver) × Outbox := (o.sent, { o with sent := [] })

end Outbox

end Pursuit
