import Pursuit.Message.Payload
import Pursuit.Numeric.Vector
import Pursuit.Replica.Entity

/-! # Pieces and obstacles of the field

* **`Piece`** — a moving piece: prey, which tries to cross the field, or a hunter. Everybody knows
  its state; its motion and its role are known where it is simulated.
* **`Obstacle`** — a circle that stands still.
* **`Piece.advance`, `Piece.reflectOnWalls`** — one step of motion, and the walls of the field.
* **`Piece.reflectOn`, `Piece.separate`** — bouncing off an obstacle, and leaving it.
* **`Piece.collidesWith`** — whether a hunter and a prey touch. -/

namespace Pursuit

namespace Arena

/-- The greatest speed, in lengths a second. -/
def maxVelocity : Single := 110

/-- The acceleration of a request at full strength. -/
def maxAcceleration : Single := 1000

/-- How strongly a moving piece is braked. -/
def brakeFactor : Single := 10

/-- The radius of every piece. -/
def pieceRadius : Single := 8

/-- The side of the square field. -/
def fieldSize : Single := 480

/-- How far a piece is pushed out of an obstacle, as a multiple of its depth in it: 1.2. -/
def separationMargin : Single := ⟨0x3f99999a⟩

/-- The least distance of two centres that tells a direction: the gap above one. -/
def leastDistance : Single := ⟨0x34000000⟩

/-- The radius of an obstacle that nobody has sized. -/
def defaultRadius : Single := 64

/-- The least coordinate of a piece. -/
def nearWall : Single := pieceRadius / 2

/-- The greatest coordinate of a piece. -/
def farWall : Single := fieldSize - pieceRadius / 2

/-- The height of the goal line. -/
def goalLine : Single := fieldSize - pieceRadius

end Arena

/-! ## Obstacles -/

/-- A circle that stands still. -/
structure Obstacle where
  /-- The bookkeeping. -/
  replication : Replication
  /-- What everybody knows of it. -/
  state : ObstacleState := ⟨.zero, Arena.defaultRadius⟩
deriving DecidableEq, Repr

namespace Obstacle

/-- An obstacle at the origin. -/
def new (key : Nat) (link : Link) : Obstacle :=
  { replication := (Replication.fresh key link).register .gameObstacle 12 .always }

instance : Entity Obstacle where
  replication := replication
  withReplication o r := { o with replication := r }
  encode o type :=
    if type = .gameObstacle then (Payload.encode o.state).mapError .wire
    else .error (.unregistered type)
  decode o type bytes :=
    if type = .gameObstacle then
      match Payload.ofBytes bytes with
      | .ok state => .ok { o with state := state }
      | .error e => .error (.wire e)
    else .error (.unregistered type)

end Obstacle

/-! ## Pieces -/

/-- A moving piece. -/
structure Piece where
  /-- The bookkeeping. -/
  replication : Replication
  /-- What everybody knows of it. -/
  state : PieceState := { (default : PieceState) with living := true }
  /-- How it moves. -/
  velocity : Vec := .zero
  /-- What drives it, until the next request. -/
  acceleration : Vec := .zero
  /-- Whether it hunts. -/
  hunting : Bool := false
deriving DecidableEq, Repr

namespace Piece

open Arena

/-- A living prey at the origin. -/
def new (key : Nat) (link : Link) : Piece :=
  { replication := (Replication.fresh key link).register .gameUnit 14 .always }

instance : Entity Piece where
  replication := replication
  withReplication p r := { p with replication := r }
  encode p type :=
    if type = .gameUnit then (Payload.encode p.state).mapError .wire
    else .error (.unregistered type)
  decode p type bytes :=
    if type = .gameUnit then
      match Payload.ofBytes bytes with
      | .ok state => .ok { p with state := state }
      | .error e => .error (.wire e)
    else .error (.unregistered type)

/-- Where the piece stands. -/
def position (p : Piece) : Vec := p.state.position

/-- The piece at another place. -/
def moveTo (p : Piece) (v : Vec) : Piece := { p with state := { p.state with position := v } }

/-- The piece, caught. -/
def caught (p : Piece) : Piece := { p with state := { p.state with living := false } }

/-- The piece, arrived. -/
def arrived (p : Piece) : Piece := { p with state := { p.state with arrived := true } }

/-- Whether the piece still moves: it is living and has not arrived. -/
def isMoving (p : Piece) : Bool := p.state.living && !p.state.arrived

/-- One step of `dt` seconds. The acceleration is braked by the velocity, the velocity is capped,
and the new velocity moves the piece. A piece that does not move comes to rest. -/
def advance (p : Piece) (dt : Single) : Piece :=
  if p.isMoving then
    let effective := p.acceleration - p.velocity * brakeFactor
    let velocity := (p.velocity + effective * dt).clampLength maxVelocity
    { p with velocity := velocity }.moveTo (p.position + velocity * dt)
  else { p with velocity := .zero, acceleration := .zero }

/-- A coordinate and its velocity, turned back at the walls. -/
def bounce (x v : Single) : Single × Single :=
  let (x, v) := if x < nearWall then (nearWall, -v) else (x, v)
  if farWall < x then (farWall, -v) else (x, v)

/-- Keeps the piece inside the walls of the field. -/
def reflectOnWalls (p : Piece) : Piece :=
  let (x, vx) := bounce p.position.x p.velocity.x
  let (y, vy) := bounce p.position.y p.velocity.y
  { p with velocity := ⟨vx, vy⟩ }.moveTo ⟨x, y⟩

/-- Whether the piece stands on the goal line or beyond it. -/
def reachedGoal (p : Piece) : Bool := goalLine ≤ p.position.y

/-- Whether two pieces of different roles touch. -/
def collidesWith (p q : Piece) : Bool :=
  p.hunting != q.hunting && p.position.distance q.position < 2 * pieceRadius

/-- Whether the piece touches an obstacle. -/
def touches (p : Piece) (o : Obstacle) : Bool :=
  p.position.distance o.state.position < pieceRadius + o.state.radius

/-- Turns the velocity along the line between both centres away from the obstacle. -/
def reflectOn (p : Piece) (o : Obstacle) : Piece :=
  match (p.position - o.state.position).normalize? with
  | some axis =>
    let speed := p.velocity.dot axis
    { p with velocity := p.velocity - axis * speed + axis * speed.abs }
  | none => p

/-- Bounces the piece off the obstacle and pushes it out of it, along the line between both
centres. Where the centres are too close to tell a direction, it is not pushed. -/
def separate (p : Piece) (o : Obstacle) : Piece :=
  let p := p.reflectOn o
  let offset := p.position - o.state.position
  let distance := offset.length
  let depth := pieceRadius + o.state.radius - distance
  if depth ≤ 0 ∨ distance ≤ leastDistance then p
  else p.moveTo (p.position + offset / distance * (depth * separationMargin))

/-! ## What the operations leave alone -/

@[simp] theorem position_moveTo (p : Piece) (v : Vec) : (p.moveTo v).position = v := rfl

@[simp] theorem position_caught (p : Piece) : p.caught.position = p.position := rfl

@[simp] theorem hunting_caught (p : Piece) : p.caught.hunting = p.hunting := rfl

/-- Whether pieces touch does not hang on their having been caught. -/
@[simp] theorem collidesWith_caught_left (p q : Piece) :
    p.caught.collidesWith q = p.collidesWith q := rfl

@[simp] theorem collidesWith_caught_right (p q : Piece) :
    p.collidesWith q.caught = p.collidesWith q := rfl

/-- A piece keeps its role when it is advanced. -/
@[simp] theorem hunting_advance (p : Piece) (dt : Single) :
    (p.advance dt).hunting = p.hunting := by
  unfold advance; split <;> rfl

/-- A piece keeps its bookkeeping when it is advanced. -/
@[simp] theorem replication_advance (p : Piece) (dt : Single) :
    (p.advance dt).replication = p.replication := by
  unfold advance; split <;> rfl

/-- A piece that does not move stays where it is. -/
theorem position_advance_of_not_isMoving {p : Piece} (dt : Single) (h : p.isMoving = false) :
    (p.advance dt).position = p.position := by
  simp [advance, h, position]

end Piece

end Pursuit
