import Pursuit.Proofs.Contents
import Pursuit.Proofs.Registrations
import Pursuit.Replica.Command

/-! # Updates that are applied in full or not at all

Three things decide about a message that comes in for an entity: what the entity has registered, the size
that was registered, and whether the payload reads. An entity may have been told to register content
types that it has no data of, and sizes that its data does not have. None of that lets a message in that
does not fit, or leaves a trace of one.

* **`Message.Fits`** — the messages that an entity takes that was told the given calls.
* **`Entity.AllOrNothing`** — such a message replaces the data and nothing else, and every other message
  changes nothing. `Entity.AllOrNothing.of_codec` says what has to be known of a kind of entities for
  that.
* **`Request.Received`** — so it is for a request, and a request that is sent is received as it was.
* **`updates_all_or_nothing`** — it holds of pieces, obstacles and requests. -/

namespace Pursuit

open Replication Setting

/-! ## Messages that fit -/

/-- A message fits an entity with records of a type for its data, if the entity was told the given calls:
it is of that content type, the last registration of which has the size of the payload; the payload is of
the declared size too, and the bytes at the given places are truth values. -/
structure Message.Fits (α : Type) [Payload α] (flags : List Nat) (calls : List Setting)
    (m : Message) : Prop where
  /-- The message is of the content type of the records. -/
  type_eq : m.type = Payload.type α
  /-- The content type is registered with the size of the payload. -/
  registered : ∃ urgency after, LastRegistered calls m.type m.payload.length urgency after
  /-- The payload has the declared size. -/
  length_eq : m.payload.length = Payload.size α
  /-- The truth values are 0 or 1. -/
  flags : ∀ i ∈ flags, m.payload[i]? = some 0 ∨ m.payload[i]? = some 1

section

variable {α : Type} [Payload α] [LawfulPayload α] {flags : List Nat}

/-- A message holds a record if it is of its content type and size, and its truth values are. -/
theorem Message.exists_contents?_iff (hflags : (Payload.layout : Layout α).FlagsAt flags)
    (m : Message) :
    (∃ a : α, m.contents? = some a) ↔
      m.type = Payload.type α ∧ m.payload.length = Payload.size α ∧
        ∀ i ∈ flags, m.payload[i]? = some 0 ∨ m.payload[i]? = some 1 := by
  simp only [contents?_eq_some_iff, exists_and_left, Payload.exists_toBytes_iff hflags]

/-- **What fits is what holds a record** of a content type and size that are registered. -/
theorem Message.fits_iff (hflags : (Payload.layout : Layout α).FlagsAt flags)
    (calls : List Setting) (m : Message) :
    m.Fits α flags calls ↔
      (∃ urgency after, LastRegistered calls m.type m.payload.length urgency after) ∧
        ∃ a : α, m.contents? = some a := by
  rw [exists_contents?_iff hflags]
  exact ⟨fun h => ⟨h.registered, h.type_eq, h.length_eq, h.flags⟩,
    fun ⟨hregistered, htype, hlength, hplaces⟩ => ⟨htype, hregistered, hlength, hplaces⟩⟩

end

/-! ## Entities with one record -/

namespace Entity

variable {ε α : Type} [Entity ε] [Payload α]

/-- Entities that have one record for their data, which `put` replaces, take a message in full or not at
all. -/
structure AllOrNothing (put : ε → α → ε) (flags : List Nat) : Prop where
  /-- The bookkeeping does not change with the data. -/
  replication_put : ∀ e a, replication (put e a) = replication e
  /-- **A message that fits replaces the data** by what encodes to its payload. -/
  taken : ∀ {e : ε} {calls : List Setting} {m : Message}, (replication e).Told calls →
    m.Fits α flags calls → ∃ a,
      encode (put e a) (Payload.type α) = .ok m.payload ∧
      ∀ (β : Type) (action : β) (hub : Hub β) (outbox : Outbox),
        perform action e hub outbox (.update m) = (.applied true, put e a, hub, outbox)
  /-- **Any other message changes nothing.** -/
  refused : ∀ {e : ε} {calls : List Setting} {m : Message}, (replication e).Told calls →
    ¬ m.Fits α flags calls →
      ∀ (β : Type) (action : β) (hub : Hub β) (outbox : Outbox),
        perform action e hub outbox (.update m) = (.applied false, e, hub, outbox)

/-- **An update by its three checks**, for an entity that reads the contents of a message and does
nothing besides. -/
theorem update?_eq_of_told {put : ε → α → ε} {e : ε} {calls : List Setting}
    (h : (replication e).Told calls) {m : Message}
    (hdecode : (decode e m.type m.payload).toOption = m.contents?.map (put e))
    (hnoted : ∀ (e : ε) type, noted e type = e) {e' : ε} :
    update? e m = some e' ↔
      (∃ urgency after, LastRegistered calls m.type m.payload.length urgency after) ∧
        ∃ a, m.contents? = some a ∧ put e a = e' := by
  -- What is registered is read off the calls; the rest are the checks as they are made.
  rw [← h.records.find?_eq_some_iff, update?, Option.bind_eq_some_iff, hdecode]
  simp only [hnoted, Option.map_id', ← Option.map_eq_some_iff (f := put e)]
  constructor
  · rintro ⟨x, hx, hsize⟩
    split at hsize
    · rename_i heq
      exact ⟨⟨x, hx, heq.symm⟩, hsize⟩
    · cases hsize
  · rintro ⟨⟨x, hx, hsize⟩, hput⟩
    exact ⟨x, hx, by rw [if_pos hsize.symm, hput]⟩

/-- **Reading and writing a record is enough**: an entity that overwrites its data with the contents of a
message, and encodes it as the record is written, takes every message in full or not at all. -/
theorem AllOrNothing.of_codec [LawfulPayload α] {put : ε → α → ε} {flags : List Nat}
    (hflags : (Payload.layout : Layout α).FlagsAt flags)
    (hreplication : ∀ e a, replication (put e a) = replication e)
    (hencode : ∀ e a, encode (put e a) (Payload.type α) = (Payload.encode a).mapError .wire)
    (hdecode : ∀ e (m : Message),
      (decode e m.type m.payload).toOption = m.contents?.map (put e))
    (hnoted : ∀ (e : ε) type, noted e type = e) : AllOrNothing put flags where
  replication_put := hreplication
  taken {e calls m} h hfits := by
    obtain ⟨hregistered, a, ha⟩ := (Message.fits_iff hflags calls m).1 hfits
    have hupdate : update? e m = some (put e a) :=
      (update?_eq_of_told h (hdecode e m) hnoted).2 ⟨hregistered, a, ha, rfl⟩
    refine ⟨a, ?_, fun β action hub outbox => ?_⟩
    · rw [hencode, Payload.encode_eq, (Message.contents?_eq_some_iff.1 ha).2]
      rfl
    · simp only [perform, hupdate]
  refused {e calls m} h hfits β action hub outbox := by
    -- Whichever check lets the message through, the others do not.
    have hupdate : update? e m = none := by
      refine Option.eq_none_iff_forall_ne_some.2 fun e' he' => hfits ?_
      obtain ⟨hregistered, a, ha, _⟩ := (update?_eq_of_told h (hdecode e m) hnoted).1 he'
      exact (Message.fits_iff hflags calls m).2 ⟨hregistered, a, ha⟩
    simp only [perform, hupdate]

end Entity

open Entity

/-- A piece takes all of its state or none, and its last three bytes are truth values. -/
theorem Piece.allOrNothing :
    AllOrNothing (fun (p : Piece) (state : PieceState) => { p with state }) [11, 12, 13] := by
  refine .of_codec PieceState.flagsAt (fun _ _ => rfl) (fun _ _ => rfl) (fun p m => ?_)
    fun _ _ => rfl
  simp only [decode, Message.contents?, Payload.type]
  split
  · cases Payload.ofBytes (α := PieceState) m.payload <;> rfl
  · rfl

/-- An obstacle takes all of its state or none. -/
theorem Obstacle.allOrNothing :
    AllOrNothing (fun (o : Obstacle) (state : ObstacleState) => { o with state }) [] := by
  refine .of_codec ObstacleState.flagsAt (fun _ _ => rfl) (fun _ _ => rfl) (fun o m => ?_)
    fun _ _ => rfl
  simp only [decode, Message.contents?, Payload.type]
  split
  · cases Payload.ofBytes (α := ObstacleState) m.payload <;> rfl
  · rfl

/-! ## Requests -/

namespace Request

/-- Requests with payloads of a type, as whoever receives them sees them. -/
structure Received (α : Type) [Payload α] [Inhabited α] (flags : List Nat) : Prop where
  /-- A request takes a message in full or not at all. -/
  allOrNothing : AllOrNothing (fun (q : Request α) (payload : α) => { q with payload }) flags
  /-- **A payload that is sent is received**, under any id. -/
  ofMessage?_toMessage : ∀ (a : α) (id : MessageId), ∃ m, Payload.toMessage a id = .ok m ∧
    ofMessage? m = some (new .detached a)
  /-- **Nothing else is received**: a message of another content type, of another size, or with
  something else than a truth value in the place of one. -/
  ofMessage?_eq_none_iff : ∀ m : Message, (ofMessage? m : Option (Request α)) = none ↔
    ¬ (m.type = Payload.type α ∧ m.payload.length = Payload.size α ∧
      ∀ i ∈ flags, m.payload[i]? = some 0 ∨ m.payload[i]? = some 1)

/-- **The requests of every lawful payload are received** as they were sent. -/
theorem Received.of_flagsAt {α : Type} [Payload α] [LawfulPayload α] [Inhabited α]
    {flags : List Nat} (hflags : (Payload.layout : Layout α).FlagsAt flags) : Received α flags where
  allOrNothing := by
    refine .of_codec hflags (fun _ _ => rfl) (fun _ _ => if_pos rfl) (fun q m => ?_) fun _ _ => rfl
    simp only [decode, Message.contents?]
    split
    · cases Payload.ofBytes (α := α) m.payload <;> rfl
    · rfl
  ofMessage?_toMessage a id := by
    have hmessage : Payload.toMessage a id =
        .ok ⟨⟨id, Payload.type α, .ofNat (Payload.size α)⟩, Payload.toBytes a⟩ := by
      rw [Payload.toMessage, Payload.encode_eq]
      rfl
    refine ⟨_, hmessage, ?_⟩
    rw [ofMessage?_eq, Message.contents?_toMessage hmessage]
    rfl
  ofMessage?_eq_none_iff m := by
    rw [← Message.exists_contents?_iff hflags, ofMessage?_eq, Option.map_eq_none_iff]
    simp [Option.eq_none_iff_forall_ne_some]

end Request

/-- **Updates are applied in full or not at all.** Whatever content types and sizes a piece, an obstacle
or a request was told to register: a message is applied exactly if it is of the entity's own content type,
this is registered, and the payload has both the size that was registered last and the declared one, with
truth values in their places. Then the data encodes to that payload, and nothing else has changed: neither
the bookkeeping nor, of a piece, its motion and its role. Any other message changes nothing at all. So a
request that is sent is received with the payload that it was sent with, and nothing else is taken for
one. -/
theorem updates_all_or_nothing :
    AllOrNothing (fun (p : Piece) (state : PieceState) => { p with state }) [11, 12, 13] ∧
    AllOrNothing (fun (o : Obstacle) (state : ObstacleState) => { o with state }) [] ∧
    Request.Received SteerOrder [] ∧ Request.Received HighlightOrder [1] ∧
    Request.Received Greeting [] ∧ Request.Received PieceState [11, 12, 13] ∧
    Request.Received ObstacleState [] :=
  ⟨Piece.allOrNothing, Obstacle.allOrNothing, .of_flagsAt SteerOrder.flagsAt,
    .of_flagsAt HighlightOrder.flagsAt, .of_flagsAt Greeting.flagsAt,
    .of_flagsAt PieceState.flagsAt, .of_flagsAt ObstacleState.flagsAt⟩

/-- What a new piece has registered, then another size for its data, a foreign content type, and the right
size again. -/
def retold : List Setting :=
  [.register .gameUnit 14 .always, .register .gameUnit 13 .always, .register .gameObstacle 12 .always,
    .register .gameUnit 14 .once]

/-- A piece that was told so takes a message of the declared size. -/
theorem updates_all_or_nothing_retold :
    let p : Piece := { Piece.new 0 .detached with
      replication := retold.tail.foldl Replication.set (Piece.new 0 .detached).replication }
    let m : Message := ⟨⟨.first, .gameUnit, 14⟩, List.replicate 14 0⟩
    p.replication.Told retold ∧ m.Fits PieceState [11, 12, 13] retold ∧
      ∃ state, encode { p with state } .gameUnit = .ok m.payload ∧
        perform () p default default (.update m) =
          (.applied true, { p with state }, default, default) := by
  intro p m
  have hnew : (Piece.new 0 .detached).replication.Told [.register .gameUnit 14 .always] :=
    .set _ (.new 0 .none .detached)
  have htold : p.replication.Told retold := hnew.run retold.tail
  have hfits : m.Fits PieceState [11, 12, 13] retold :=
    ⟨rfl, ⟨.once, [], ⟨[_, _, _], rfl⟩, List.not_mem_nil⟩, rfl, by decide⟩
  obtain ⟨state, hencode, hperform⟩ := updates_all_or_nothing.1.taken htold hfits
  exact ⟨htold, hfits, state, hencode, hperform Unit () default default⟩

/-- A piece that was told of another size takes no message of the declared one. -/
example : update? (withReplication (Piece.new 0 .detached)
    ((Piece.new 0 .detached).replication.register .gameUnit 13 .always))
    ⟨⟨.first, .gameUnit, 14⟩, List.replicate 14 0⟩ = none := by decide

end Pursuit
