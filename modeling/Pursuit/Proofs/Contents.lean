import Pursuit.Game.Request

/-! # What a message holds

A payload determines its record, and a record its payload. This file says so once for all five kinds
of records and reads the handlers' part off it.

* **`LawfulPayload`** — the records whose byte layout is lawful and of the declared size, which are
  all five. `Payload.encode_eq` says that writing them never fails.
* **`Message.contents?`** — the record in a message, if the message is of its content type and well
  formed. `Message.contents?_eq_some_iff` says which messages these are.
* **`Layout.FlagsAt`** — where a layout has truth values. `Payload.exists_toBytes_iff` reads the
  well-formed payloads off these places; `exists_toBytes_piece_iff` and its companions are cases of it.
* **`Entity.update?_eq_of_single`** — what an entity of one record makes of a message, with
  `Piece.update?_eq`, `Obstacle.update?_eq` and `Request.ofMessage?_eq`. -/

namespace Pursuit

/-! ## Lawful payloads -/

/-- A record whose layout is lawful: its bytes are of the declared size, determine it, and are the
only ones that do. -/
class LawfulPayload (α : Type) [Payload α] : Prop where
  /-- The layout obeys the laws. -/
  lawful : (Payload.layout : Layout α).Lawful
  /-- The layout has the declared size. -/
  width_eq : (Payload.layout : Layout α).width = Payload.size α

open Layout in
instance : LawfulPayload PieceState where
  lawful := isoMap_lawful (pair_lawful vec_lawful <| pair_lawful byte_lawful <|
    pair_lawful player_lawful <| pair_lawful flag_lawful <| pair_lawful flag_lawful flag_lawful)
    (fun _ => rfl) (fun _ => rfl)
  width_eq := rfl

open Layout in
instance : LawfulPayload SteerOrder where
  lawful := isoMap_lawful (pair_lawful byte_lawful <| pair_lawful single_lawful single_lawful)
    (fun _ => rfl) (fun _ => rfl)
  width_eq := rfl

open Layout in
instance : LawfulPayload HighlightOrder where
  lawful := isoMap_lawful (pair_lawful byte_lawful flag_lawful) (fun _ => rfl) (fun _ => rfl)
  width_eq := rfl

open Layout in
instance : LawfulPayload ObstacleState where
  lawful := isoMap_lawful (pair_lawful vec_lawful single_lawful) (fun _ => rfl) (fun _ => rfl)
  width_eq := rfl

open Layout in
instance : LawfulPayload Greeting where
  lawful := isoMap_lawful player_lawful (fun _ => rfl) (fun _ => rfl)
  width_eq := rfl

/-- A whole byte string is read exactly if it is what the value is written as. -/
theorem Layout.Lawful.readAll_eq_some_iff {α : Type} {l : Layout α} (hl : l.Lawful)
    {bytes : List UInt8} {a : α} : l.readAll bytes = some a ↔ bytes = l.write a := by
  constructor
  · intro h
    unfold readAll at h
    split at h
    · rename_i b heq
      cases h
      simpa using hl.eq_of_read heq
    · cases h
  · rintro rfl
    have h := hl.read_write a []
    rw [List.append_nil] at h
    rw [readAll, h]

namespace Payload

variable {α : Type} [Payload α] [LawfulPayload α]

/-- A record is written in as many bytes as its content type declares. -/
@[simp] theorem length_toBytes (a : α) : (toBytes a).length = size α :=
  (LawfulPayload.lawful.length_write a).trans LawfulPayload.width_eq

/-- **Writing a record never fails**: its bytes are as many as declared. -/
@[simp] theorem encode_eq (a : α) : encode a = .ok (toBytes a) := by
  rw [encode, if_pos (length_toBytes a)]

/-- **A byte string is read exactly if it is what the record is written as.** -/
theorem ofBytes_eq_ok_iff {bytes : List UInt8} {a : α} :
    ofBytes bytes = .ok a ↔ bytes = toBytes a := by
  have hread : (layout : Layout α).readAll bytes = some a ↔ bytes = toBytes a :=
    LawfulPayload.lawful.readAll_eq_some_iff
  unfold ofBytes
  constructor
  · intro h
    split at h
    · split at h
      · rename_i b heq
        cases h
        exact hread.1 heq
      · cases h
    · cases h
  · intro h
    have hlen : bytes.length = size α := by rw [h, length_toBytes]
    rw [if_pos hlen, hread.2 h]

end Payload

/-! ## The record in a message -/

/-- The record in a message. A message of another content type or with a malformed payload holds
none. -/
def Message.contents? {α : Type} [Payload α] (m : Message) : Option α :=
  if m.type = Payload.type α then (Payload.ofBytes m.payload).toOption else none

section Contents

variable {α : Type} [Payload α] [LawfulPayload α]

/-- **A message holds a record** exactly if it is of the record's content type and its payload is
what the record is written as. -/
theorem Message.contents?_eq_some_iff {m : Message} {a : α} :
    m.contents? = some a ↔ m.type = Payload.type α ∧ m.payload = Payload.toBytes a := by
  unfold Message.contents?
  split
  · rename_i htype
    rw [← Payload.ofBytes_eq_ok_iff]
    cases Payload.ofBytes (α := α) m.payload <;> simp [Except.toOption, htype]
  · rename_i htype
    simp [htype]

/-- A message that is made of a record holds it. -/
theorem Message.contents?_toMessage {a : α} {id : MessageId} {m : Message}
    (h : Payload.toMessage a id = .ok m) : m.contents? = some a := by
  rw [Payload.toMessage, Payload.encode_eq] at h
  cases h
  exact contents?_eq_some_iff.2 ⟨rfl, rfl⟩

omit [LawfulPayload α] in
/-- A message of another content type holds no such record. -/
theorem Message.contents?_of_type_ne {m : Message} (h : m.type ≠ Payload.type α) :
    (m.contents? : Option α) = none := by
  rw [contents?, if_neg h]

end Contents

/-! ## Well-formed payloads by their bytes

Every byte string of the right length is read, but for the bytes that stand for truth values: those
have to be 0 or 1. -/

/-- The layout reads exactly the byte strings that are long enough and have a truth value at each of
the places. -/
def Layout.FlagsAt {α : Type} (l : Layout α) (places : List Nat) : Prop :=
  ∀ bytes, (∃ a rest, l.read bytes = some (a, rest)) ↔
    l.width ≤ bytes.length ∧ ∀ i ∈ places, bytes[i]? = some 0 ∨ bytes[i]? = some 1

namespace Layout

variable {α β : Type} {l : Layout α} {m : Layout β} {places places' : List Nat}

/-- No byte of a byte has to be a truth value. -/
theorem byte_flagsAt : byte.FlagsAt [] := by
  intro bytes
  cases bytes <;> simp [byte]

/-- No byte of a word has to be a truth value. -/
theorem word_flagsAt : word.FlagsAt [] := by
  intro bytes
  match bytes with
  | [] | [_] => simp [word]
  | _ :: _ :: _ => simp [word]

/-- No byte of a number has to be a truth value. -/
theorem single_flagsAt : single.FlagsAt [] := by
  intro bytes
  match bytes with
  | [] | [_] | [_, _] | [_, _, _] => simp [single]
  | _ :: _ :: _ :: _ :: _ => simp [single]

/-- The only byte of a flag is a truth value. -/
theorem flag_flagsAt : flag.FlagsAt [0] := by
  intro bytes
  cases bytes with
  | nil => simp [flag]
  | cons b rest =>
    by_cases h₀ : b = 0
    · simp [flag, h₀]
    · by_cases h₁ : b = 1 <;> simp [flag, h₀, h₁]

/-- What follows a value is what follows its bytes. -/
theorem Lawful.rest_eq_drop (hl : l.Lawful) {bytes rest : List UInt8} {a : α}
    (h : l.read bytes = some (a, rest)) : rest = bytes.drop l.width := by
  rw [hl.eq_of_read h, List.drop_left' (hl.length_write a)]

/-- The places of the second value come after the first. -/
theorem pair_flagsAt (hl : l.Lawful) (hflags : l.FlagsAt places) (hflags' : m.FlagsAt places') :
    (l.pair m).FlagsAt (places ++ places'.map (l.width + ·)) := by
  intro bytes
  have hsecond : (∃ p rest, (l.pair m).read bytes = some (p, rest)) ↔
      (∃ a rest, l.read bytes = some (a, rest)) ∧
        ∃ b rest, m.read (bytes.drop l.width) = some (b, rest) := by
    simp only [pair, Option.bind_eq_some_iff, Option.map_eq_some_iff]
    constructor
    · rintro ⟨_, _, ⟨a, rest⟩, ha, ⟨b, rest'⟩, hb, _⟩
      exact ⟨⟨a, rest, ha⟩, b, rest', hl.rest_eq_drop ha ▸ hb⟩
    · rintro ⟨⟨a, rest, ha⟩, b, rest', hb⟩
      exact ⟨(a, b), rest', (a, rest), ha, (b, rest'), (hl.rest_eq_drop ha).symm ▸ hb, rfl⟩
  rw [hsecond, hflags, hflags', List.forall_mem_append, List.forall_mem_map, List.length_drop]
  simp only [List.getElem?_drop]
  constructor
  · rintro ⟨⟨hwidth, hplaces⟩, hwidth', hplaces'⟩
    refine ⟨?_, hplaces, hplaces'⟩
    change l.width + m.width ≤ bytes.length
    omega
  · rintro ⟨hwidth, hplaces, hplaces'⟩
    change l.width + m.width ≤ bytes.length at hwidth
    exact ⟨⟨by omega, hplaces⟩, by omega, hplaces'⟩

/-- Truth values stay in place when records are written in another form. -/
theorem isoMap_flagsAt {forth : α → β} {back : β → α} (hflags : l.FlagsAt places) :
    (l.isoMap forth back).FlagsAt places := by
  intro bytes
  refine Iff.trans ?_ (hflags bytes)
  simp only [isoMap, Option.map_eq_some_iff, Prod.mk.injEq, Prod.exists]
  constructor
  · rintro ⟨_, _, a, rest, ha, _⟩
    exact ⟨a, rest, ha⟩
  · rintro ⟨a, rest, ha⟩
    exact ⟨forth a, rest, a, rest, ha, rfl, rfl⟩

/-- No byte of a vector has to be a truth value. -/
theorem vec_flagsAt : vec.FlagsAt [] :=
  isoMap_flagsAt (pair_flagsAt single_lawful single_flagsAt single_flagsAt)

/-- No byte of a player's id has to be a truth value. -/
theorem player_flagsAt : player.FlagsAt [] := isoMap_flagsAt word_flagsAt

end Layout

/-- The truth values of a unit's state are its last three bytes. -/
theorem PieceState.flagsAt : (Payload.layout : Layout PieceState).FlagsAt [11, 12, 13] :=
  open Layout in
  isoMap_flagsAt <| pair_flagsAt vec_lawful vec_flagsAt <| pair_flagsAt byte_lawful byte_flagsAt <|
    pair_flagsAt player_lawful player_flagsAt <| pair_flagsAt flag_lawful flag_flagsAt <|
    pair_flagsAt flag_lawful flag_flagsAt flag_flagsAt

/-- No byte of a request to steer has to be a truth value. -/
theorem SteerOrder.flagsAt : (Payload.layout : Layout SteerOrder).FlagsAt [] :=
  open Layout in
  isoMap_flagsAt <| pair_flagsAt byte_lawful byte_flagsAt <|
    pair_flagsAt single_lawful single_flagsAt single_flagsAt

/-- The second byte of a request to mark is a truth value. -/
theorem HighlightOrder.flagsAt : (Payload.layout : Layout HighlightOrder).FlagsAt [1] :=
  open Layout in
  isoMap_flagsAt <| pair_flagsAt byte_lawful byte_flagsAt flag_flagsAt

/-- No byte of an obstacle's state has to be a truth value. -/
theorem ObstacleState.flagsAt : (Payload.layout : Layout ObstacleState).FlagsAt [] :=
  open Layout in
  isoMap_flagsAt <| pair_flagsAt vec_lawful vec_flagsAt single_flagsAt

/-- No byte of a greeting has to be a truth value. -/
theorem Greeting.flagsAt : (Payload.layout : Layout Greeting).FlagsAt [] :=
  Layout.isoMap_flagsAt Layout.player_flagsAt

/-- **The well-formed payloads** are those of the declared size with truth values in their places. -/
theorem Payload.exists_toBytes_iff {α : Type} [Payload α] [LawfulPayload α] {places : List Nat}
    (hflags : (layout : Layout α).FlagsAt places) (bytes : List UInt8) :
    (∃ a : α, bytes = toBytes a) ↔
      bytes.length = size α ∧ ∀ i ∈ places, bytes[i]? = some 0 ∨ bytes[i]? = some 1 := by
  have hlawful : (layout : Layout α).Lawful := LawfulPayload.lawful
  have hwidth : (layout : Layout α).width = size α := LawfulPayload.width_eq
  constructor
  · rintro ⟨a, rfl⟩
    have hread := hlawful.read_write a []
    rw [List.append_nil] at hread
    exact ⟨length_toBytes a, ((hflags _).1 ⟨a, [], hread⟩).2⟩
  · rintro ⟨hlen, hplaces⟩
    obtain ⟨a, rest, hread⟩ := (hflags bytes).2 ⟨by omega, hplaces⟩
    have hrest := hlawful.rest_eq_drop hread
    rw [List.drop_eq_nil_of_le (by omega)] at hrest
    refine ⟨a, ?_⟩
    rw [hlawful.eq_of_read hread, hrest, List.append_nil, toBytes]

/-- **The bytes of a unit's state**: fourteen, of which the last three are truth values. -/
theorem exists_toBytes_piece_iff (bytes : List UInt8) :
    (∃ state : PieceState, bytes = Payload.toBytes state) ↔
      bytes.length = 14 ∧ ∀ b ∈ bytes.drop 11, b = 0 ∨ b = 1 := by
  rw [Payload.exists_toBytes_iff PieceState.flagsAt]
  refine and_congr_right fun hlen => ?_
  match bytes, hlen with
  | [_, _, _, _, _, _, _, _, _, _, _, _, _, _], _ => simp

/-- **The bytes of an obstacle's state**: any twelve. -/
theorem exists_toBytes_obstacle_iff (bytes : List UInt8) :
    (∃ state : ObstacleState, bytes = Payload.toBytes state) ↔ bytes.length = 12 := by
  rw [Payload.exists_toBytes_iff ObstacleState.flagsAt]
  exact and_iff_left fun _ hmem => absurd hmem List.not_mem_nil

/-- **The bytes of a greeting**: any two. -/
theorem exists_toBytes_greeting_iff (bytes : List UInt8) :
    (∃ greeting : Greeting, bytes = Payload.toBytes greeting) ↔ bytes.length = 2 := by
  rw [Payload.exists_toBytes_iff Greeting.flagsAt]
  exact and_iff_left fun _ hmem => absurd hmem List.not_mem_nil

/-! ## Entities with one payload

Pieces, obstacles and requests each replicate one record, whose content type and size they register
when they come to be. For such an entity the three checks of an update (registration, size, layout)
come down to the contents of the message. -/

/-- **An entity of one record takes the contents of a message**, if the message holds such a record,
and refuses it otherwise. -/
theorem Entity.update?_eq_of_single {ε α : Type} [Entity ε] [Payload α] [LawfulPayload α] {e : ε}
    (put : α → ε) {urgency : Urgency} {sending : Bool}
    (hregistered : (Entity.replication e).registrations =
      [⟨Payload.type α, Payload.size α, urgency, sending⟩])
    (hdecode : ∀ bytes, (Entity.decode e (Payload.type α) bytes).toOption =
      (Payload.ofBytes bytes).toOption.map put)
    (hnoted : ∀ a, Entity.noted (put a) (Payload.type α) = put a) (m : Message) :
    Entity.update? e m = m.contents?.map put := by
  unfold Entity.update? Replication.find? Message.contents?
  rw [hregistered]
  by_cases htype : m.type = Payload.type α
  · rw [if_pos htype, htype, List.find?_cons_of_pos (by simp), Option.bind_some, hdecode]
    by_cases hlen : m.payload.length = Payload.size α
    · rw [if_pos hlen]
      cases (Payload.ofBytes (α := α) m.payload).toOption with
      | none => rfl
      | some a => exact congrArg some (hnoted a)
    · -- A payload of another size is refused by the registration, and by the layout as well.
      rw [if_neg hlen]
      cases hbytes : Payload.ofBytes (α := α) m.payload with
      | error e => rfl
      | ok a =>
        rw [Payload.ofBytes_eq_ok_iff.1 hbytes, Payload.length_toBytes] at hlen
        exact absurd rfl hlen
  · rw [if_neg htype, List.find?_cons_of_neg (by simpa using Ne.symm htype)]
    rfl

/-- What every piece registers. -/
def Piece.registrations : List Registration := [⟨.gameUnit, 14, .always, true⟩]

/-- What every obstacle registers. -/
def Obstacle.registrations : List Registration := [⟨.gameObstacle, 12, .always, true⟩]

/-- A piece takes the state that a message holds, and refuses a message that holds none. -/
theorem Piece.update?_eq {p : Piece} (h : p.replication.registrations = Piece.registrations)
    (m : Message) :
    Entity.update? p m = m.contents?.map fun state => { p with state := state } := by
  refine Entity.update?_eq_of_single _ h (fun bytes => ?_) (fun _ => rfl) m
  simp only [Entity.decode, Payload.type, if_true]
  cases Payload.ofBytes (α := PieceState) bytes <;> rfl

/-- An obstacle takes the state that a message holds, and refuses a message that holds none. -/
theorem Obstacle.update?_eq {o : Obstacle}
    (h : o.replication.registrations = Obstacle.registrations) (m : Message) :
    Entity.update? o m = m.contents?.map fun state => { o with state := state } := by
  refine Entity.update?_eq_of_single _ h (fun bytes => ?_) (fun _ => rfl) m
  simp only [Entity.decode, Payload.type, if_true]
  cases Payload.ofBytes (α := ObstacleState) bytes <;> rfl

/-- **The request in a message** carries the contents of the message. -/
theorem Request.ofMessage?_eq {α : Type} [Payload α] [LawfulPayload α] [Inhabited α]
    (m : Message) :
    (Request.ofMessage? m : Option (Request α)) =
      m.contents?.map fun payload : α =>
        { Request.new .detached (default : α) with payload := payload } := by
  refine Entity.update?_eq_of_single _ rfl (fun bytes => ?_) (fun _ => rfl) m
  change (if Payload.type α = Payload.type α then _ else _ : Except ReplicaError _).toOption = _
  rw [if_pos rfl]
  cases Payload.ofBytes (α := α) bytes <;> rfl

end Pursuit
