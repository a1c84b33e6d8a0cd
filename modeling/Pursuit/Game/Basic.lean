import Pursuit.Arena.Level
import Pursuit.Arena.Motion
import Pursuit.Game.Request
import Pursuit.Numeric.Duration

/-! # The game

* **`Rules`** — length of a round, time between ticks, and how a round is scored.
* **`Game`** — pieces and obstacles, the phase of the round, its clock, and the player that this
  process plays as.
* **`Game.step?`** — one step of the clock: it moves the pieces, or ends the round.
* **`Game.outcome`** — the tally of the round.
* **`Game.steer`, `Game.highlight`** — players' requests, which reach only their own pieces.
* **`Game.offers`** — the messages of a synchronization of all entities. -/

namespace Pursuit

/-- How far a round has come. -/
inductive Phase where
  /-- No level is loaded. -/
  | empty
  /-- A level is loaded. -/
  | loaded
  /-- The round runs. -/
  | running
  /-- The round is over. -/
  | finished
deriving DecidableEq, Repr

/-- The name of a phase. -/
def Phase.name : Phase → String
  | empty => "Empty"
  | loaded => "Loaded"
  | running => "Running"
  | finished => "Finished"

/-- Who scores. -/
inductive Scoring where
  /-- The prey. -/
  | preyOnly
  /-- The hunters, too: two points for each piece caught. -/
  | versus
deriving DecidableEq, Repr

/-- What can be tuned. -/
structure Rules where
  /-- How long a round lasts. -/
  roundLength : Duration := .ofSecs 60
  /-- The time from one tick to the next. -/
  tick : Duration := .ofMillis 20
  /-- Who scores. -/
  scoring : Scoring := .preyOnly
deriving DecidableEq

instance : Inhabited Rules := ⟨{}⟩

/-- The tally of a round, over the prey. -/
structure Outcome where
  /-- Living prey that has reached the goal. -/
  arrived : Nat
  /-- Living prey that is still on the field. -/
  survived : Nat
  /-- Prey that was caught. -/
  caught : Nat
  /-- When the last piece arrived, in seconds of the round. -/
  lastArrival : Option Single
  /-- Two points for each arrival and one for each survivor. -/
  score : Nat
  /-- The hunters' score, where they have one. -/
  hunterScore : Option Nat
deriving DecidableEq, Repr

/-- A game: at the server the one that decides, at a client what the server has told. -/
structure Game where
  /-- The rules. -/
  rules : Rules
  /-- The kind of endpoint the game is on. -/
  link : Link
  /-- The pieces, in order. -/
  pieces : List Piece := []
  /-- The obstacles, in order. -/
  obstacles : List Obstacle := []
  /-- How far the round has come. -/
  phase : Phase := .empty
  /-- The number of the loaded level. -/
  level : Option UInt32 := none
  /-- The player that this process plays as; nobody at the server. -/
  ownPlayer : PlayerId := .none
  /-- The time of the round. -/
  elapsed : Duration := .zero
  /-- When the last piece arrived, in seconds of the round. -/
  lastArrival : Option Single := none
  /-- The numbers of the handlers that feed the game at a client. -/
  feeders : List UInt64 := []

namespace Game

/-- Whether the round has been started. -/
def hasStarted (g : Game) : Bool := g.phase = .running || g.phase = .finished

/-- Whether the round is over. -/
def hasFinished (g : Game) : Bool := g.phase = .finished

/-! ## The round -/

/-- The game without a level. The player it is played as stays. -/
def cleared (g : Game) : Game :=
  { g with pieces := [], obstacles := [], phase := .empty, level := none, elapsed := .zero,
           lastArrival := none }

/-- Starts the round of a level that is loaded; at any other time nothing happens. -/
def start (g : Game) : Game :=
  if g.phase = .loaded then { g with phase := .running, elapsed := .zero } else g

/-- One step of the clock. It ends the round if its time is up, and moves the pieces otherwise.
There is no such step if the clock cannot show the time. -/
def step? (g : Game) (dt : Duration) : Option Game :=
  if g.phase = .running then
    (g.elapsed.add? dt).map fun elapsed =>
      if g.rules.roundLength ≤ elapsed then { g with elapsed := elapsed, phase := .finished }
      else
        let seconds := dt.toSingle
        { g with
          elapsed := elapsed
          pieces := Arena.advanceAll seconds g.obstacles g.pieces
          lastArrival :=
            if Arena.someArrives seconds g.pieces then some elapsed.toSingle else g.lastArrival }
  else some g

/-- The prey. -/
def prey (g : Game) : List Piece := g.pieces.filter (!·.hunting)

/-- The tally so far. -/
def outcome (g : Game) : Outcome :=
  let living := g.prey.filter (·.state.living)
  let arrived := (living.filter (·.state.arrived)).length
  let survived := (living.filter (!·.state.arrived)).length
  let caught := (g.prey.filter (!·.state.living)).length
  { arrived, survived, caught
    lastArrival := g.lastArrival
    score := 2 * arrived + survived
    hunterScore :=
      match g.rules.scoring with
      | .preyOnly => none
      | .versus => some (2 * caught) }

/-! ## Looking up -/

/-- The place of the first piece with an id. -/
def pieceById? (g : Game) (id : MessageId) : Option Nat :=
  g.pieces.findIdx? (Entity.id · = id)

/-- The place of the first obstacle with an id. -/
def obstacleById? (g : Game) (id : MessageId) : Option Nat :=
  g.obstacles.findIdx? (Entity.id · = id)

/-- The places of a player's pieces, in order. -/
def placesOf (g : Game) (player : PlayerId) : List Nat :=
  (List.range g.pieces.length).filter fun i => (g.pieces[i]?.map (·.state.owner)) = some player

/-- The place of a player's piece with an index. Once this process plays as somebody, other
players' pieces are out of its reach. -/
def pieceByIndex? (g : Game) (player : PlayerId) (index : UInt8) : Option Nat :=
  if g.ownPlayer ≠ .none ∧ g.ownPlayer ≠ player then none
  else (g.placesOf player)[index.toNat]?

/-- The place of this player's own piece with an index. -/
def ownPieceByIndex? (g : Game) (index : UInt8) : Option Nat := g.pieceByIndex? g.ownPlayer index

/-! ## Requests -/

/-- The place of the piece that a request is about. A sender that is no player is refused first. -/
def requested (g : Game) (sender : PlayerId) (index : UInt8) : Except RequestError Nat :=
  if sender.isPlayer then
    match g.pieceByIndex? sender index with
    | some i => .ok i
    | none => .error (.unknownUnit sender index)
  else .error (.notAPlayer sender)

/-- The game with one piece changed. -/
def modifyPiece (g : Game) (place : Nat) (f : Piece → Piece) : Game :=
  { g with pieces := g.pieces.modify place f }

/-- The game with one obstacle changed. -/
def modifyObstacle (g : Game) (place : Nat) (f : Obstacle → Obstacle) : Game :=
  { g with obstacles := g.obstacles.modify place f }

/-- Applies a request to steer to the sender's own piece. -/
def steer (g : Game) (sender : PlayerId) (o : SteerOrder) : Except RequestError Game :=
  (g.requested sender o.unitIndex).map fun i =>
    g.modifyPiece i fun p => { p with acceleration := o.acceleration }

/-- Applies a request to mark to the sender's own piece. -/
def highlight (g : Game) (sender : PlayerId) (o : HighlightOrder) : Except RequestError Game :=
  (g.requested sender o.unitIndex).map fun i =>
    g.modifyPiece i fun p => { p with state := { p.state with highlighted := o.highlighted } }

/-! ## Synchronization -/

/-- The messages of a synchronization: those of the pieces, then those of the obstacles. -/
def offers (g : Game) (target : Target) (threshold : Urgency) : List (Message × Receiver) :=
  g.pieces.flatMap (Entity.offers · target threshold)
    ++ g.obstacles.flatMap (Entity.offers · target threshold)

/-! ## Texts -/

/-- The game in short, for whoever looks for a fault. -/
def debugText (g : Game) : String :=
  let level := match g.level with
    | some n => "Some(" ++ toString n.toNat ++ ")"
    | none => "None"
  "Game \x7b phase: " ++ g.phase.name ++ ", level: " ++ level ++ ", units: "
    ++ toString g.pieces.length ++ ", obstacles: " ++ toString g.obstacles.length
    ++ ", own_player_id: PlayerId(" ++ toString g.ownPlayer.code.toNat ++ ") \x7d"

/-! ## What the operations leave alone -/

@[simp] theorem phase_cleared (g : Game) : g.cleared.phase = .empty := rfl

@[simp] theorem ownPlayer_cleared (g : Game) : g.cleared.ownPlayer = g.ownPlayer := rfl

/-- A game that does not run is not changed by a step. -/
theorem step?_of_not_running {g : Game} (dt : Duration) (h : g.phase ≠ .running) :
    g.step? dt = some g := by
  simp [step?, h]

end Game

end Pursuit
