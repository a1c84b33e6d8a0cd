import Pursuit.Numeric.Vector
import Pursuit.Wire.Frame

/-! # The five payloads

* **`PieceState`, `ObstacleState`** — what a server tells about its units and obstacles.
* **`SteerOrder`, `HighlightOrder`** — what a client asks for.
* **`Greeting`** — tells a client which player it is.
* **`Payload`** — the content type, the declared size and the byte layout of such a record. Writing
  checks the length against the declared size; reading checks the length first and the truth values
  then. -/

namespace Pursuit

/-! ## The records -/

/-- What is known of a unit everywhere. -/
structure PieceState where
  /-- Where it stands. -/
  position : Vec
  /-- Its number among the units of its owner. -/
  number : UInt8
  /-- Whose it is. -/
  owner : PlayerId
  /-- Whether it is marked on the screen. -/
  highlighted : Bool
  /-- Whether it has not been caught. -/
  living : Bool
  /-- Whether it has reached the goal. -/
  arrived : Bool
deriving DecidableEq, Inhabited, Repr

/-- A request to steer one of the sender's units. -/
structure SteerOrder where
  /-- The place of the unit among the sender's. -/
  unitIndex : UInt8
  /-- The direction in radians, counter-clockwise from the right. -/
  angle : Single
  /-- The part of the greatest acceleration that is asked for. -/
  strength : Single
deriving DecidableEq, Inhabited, Repr

/-- A request to mark one of the sender's units. -/
structure HighlightOrder where
  /-- The place of the unit among the sender's. -/
  unitIndex : UInt8
  /-- Whether it is to be marked. -/
  highlighted : Bool
deriving DecidableEq, Inhabited, Repr

/-- What is known of an obstacle everywhere. -/
structure ObstacleState where
  /-- Where its centre is. -/
  position : Vec
  /-- How far it reaches. -/
  radius : Single
deriving DecidableEq, Inhabited, Repr

/-- Tells a client which player it is. -/
structure Greeting where
  /-- The player. -/
  player : PlayerId
deriving DecidableEq, Inhabited, Repr

/-! ## Layouts -/

/-- The two coordinates. -/
def Layout.vec : Layout Vec :=
  (Layout.single.pair .single).isoMap (fun p => ⟨p.1, p.2⟩) (fun v => (v.x, v.y))

/-- The id on the wire. -/
def Layout.player : Layout PlayerId := Layout.word.isoMap PlayerId.mk PlayerId.code

/-- A vector is written as its coordinates, one after the other, and read back. -/
theorem Layout.vec_lawful : Layout.vec.Lawful :=
  isoMap_lawful (pair_lawful single_lawful single_lawful) (fun _ => rfl) (fun _ => rfl)

/-- A player's id is written as a word and read back. -/
theorem Layout.player_lawful : Layout.player.Lawful :=
  isoMap_lawful word_lawful (fun _ => rfl) (fun _ => rfl)

/-- A record that travels under a content type of its own. -/
class Payload (α : Type) where
  /-- The content type. -/
  type : ContentType
  /-- The declared number of bytes. -/
  size : Nat
  /-- The bytes. -/
  layout : Layout α

instance : Payload PieceState where
  type := .gameUnit
  size := 14
  layout :=
    (Layout.vec.pair <| .pair .byte <| .pair .player <| .pair .flag <| .pair .flag .flag).isoMap
      (fun (p, n, o, h, l, a) => ⟨p, n, o, h, l, a⟩)
      (fun u => (u.position, u.number, u.owner, u.highlighted, u.living, u.arrived))

instance : Payload SteerOrder where
  type := .moveRequest
  size := 9
  layout :=
    (Layout.byte.pair <| .pair .single .single).isoMap
      (fun (i, a, s) => ⟨i, a, s⟩) (fun r => (r.unitIndex, r.angle, r.strength))

instance : Payload HighlightOrder where
  type := .highlightRequest
  size := 2
  layout :=
    (Layout.byte.pair .flag).isoMap (fun (i, h) => ⟨i, h⟩) (fun r => (r.unitIndex, r.highlighted))

instance : Payload ObstacleState where
  type := .gameObstacle
  size := 12
  layout :=
    (Layout.vec.pair .single).isoMap (fun (p, r) => ⟨p, r⟩) (fun o => (o.position, o.radius))

instance : Payload Greeting where
  type := .newPlayerId
  size := 2
  layout := Layout.player.isoMap Greeting.mk Greeting.player

namespace Payload

variable {α : Type} [Payload α]

/-- The bytes of a record. -/
def toBytes (a : α) : List UInt8 := layout.write a

/-- The bytes of a record, if there are as many as declared. -/
def encode (a : α) : Except WireError (List UInt8) :=
  if (toBytes a).length = size α then .ok (toBytes a)
  else .error (.lengthMismatch (type α) (size α) (toBytes a).length)

/-- The record in a byte string of exactly its size. -/
def ofBytes (bytes : List UInt8) : Except WireError α :=
  if bytes.length = size α then
    match layout.readAll bytes with
    | some a => .ok a
    | none => .error .invalidFlag
  else .error (.lengthMismatch (type α) (size α) bytes.length)

/-- The message that carries a record. -/
def toMessage (a : α) (id : MessageId) : Except WireError Message :=
  (encode a).map fun payload => ⟨⟨id, type α, UInt16.ofNat (size α)⟩, payload⟩

end Payload

end Pursuit
