import Pursuit.Arena.Piece

/-! # One step of the field

A step has three phases, each over all pieces in their order: every piece moves, is turned back at
the walls and may arrive; every piece leaves the obstacles that it touches; prey that a hunter
touches is caught.

* **`Arena.moved`, `Arena.arrives`, `Arena.settled`** — the first phase, for one piece.
* **`Arena.cleared`** — the second phase, for one piece.
* **`Arena.catchAll`** — the third phase: every pair, the earlier piece first. -/

namespace Pursuit.Arena

/-! ## Moving and arriving -/

/-- A piece after `dt` seconds, inside the walls. -/
def moved (dt : Single) (p : Piece) : Piece := (p.advance dt).reflectOnWalls

/-- Whether a piece arrives where it stands: prey that is on the goal line for the first time. -/
def arrives (p : Piece) : Bool := !p.state.arrived && !p.hunting && p.reachedGoal

/-- A piece, marked as arrived if it arrives. -/
def settled (p : Piece) : Piece := if arrives p then p.arrived else p

/-! ## Leaving obstacles -/

/-- A piece that has left the obstacle if it touched it. -/
def leave (p : Piece) (o : Obstacle) : Piece := if p.touches o then p.separate o else p

/-- A piece that has left each obstacle that it touched when its turn came. -/
def cleared (obstacles : List Obstacle) (p : Piece) : Piece := obstacles.foldl leave p

/-! ## Catching -/

/-- A piece that is caught if it is prey. -/
def caughtIfPrey (p : Piece) : Piece := if p.hunting then p else p.caught

/-- All pairs, the earlier piece before the later: where the two collide, the prey is caught. -/
def catchAll : List Piece → List Piece
  | [] => []
  | p :: rest =>
    (rest.foldl (fun p q => if p.collidesWith q then caughtIfPrey p else p) p)
      :: catchAll (rest.map fun q => if p.collidesWith q then caughtIfPrey q else q)
termination_by pieces => pieces.length
decreasing_by simp

/-! ## The whole step -/

/-- The pieces after a step of `dt` seconds among the obstacles. -/
def advanceAll (dt : Single) (obstacles : List Obstacle) (pieces : List Piece) : List Piece :=
  catchAll ((pieces.map (moved dt)).map settled |>.map (cleared obstacles))

/-- Whether some piece arrives in a step of `dt` seconds. -/
def someArrives (dt : Single) (pieces : List Piece) : Bool :=
  pieces.any fun p => arrives (moved dt p)

/-- No piece is added or taken away by catching. -/
@[simp] theorem length_catchAll (pieces : List Piece) :
    (catchAll pieces).length = pieces.length := by
  fun_induction catchAll pieces with
  | case1 => rfl
  | case2 p rest ih => simpa using ih

/-- What catching does not change of one piece, it does not change of all. -/
theorem map_catchAll {β : Type} {f : Piece → β} (hf : ∀ p, f (caughtIfPrey p) = f p)
    (pieces : List Piece) : (catchAll pieces).map f = pieces.map f := by
  have hif (b : Bool) (p : Piece) : f (if b then caughtIfPrey p else p) = f p := by
    cases b
    · rfl
    · exact hf p
  have hfold (rest : List Piece) (p : Piece) :
      f (rest.foldl (fun p q => if p.collidesWith q then caughtIfPrey p else p) p) = f p := by
    induction rest generalizing p with
    | nil => rfl
    | cons q rest ih => rw [List.foldl_cons, ih, hif]
  -- The first piece is compared with all others, which are changed before the rest is caught.
  fun_induction catchAll pieces with
  | case1 => rfl
  | case2 p rest ih =>
    have hrest : (catchAll (rest.map fun q => if p.collidesWith q then caughtIfPrey q else q)).map f
        = (rest.map fun q => if p.collidesWith q then caughtIfPrey q else q).map f := by
      simpa using ih
    rw [List.map_cons, List.map_cons, hrest, hfold, List.map_map]
    congr 1
    exact List.map_congr_left fun q _ => hif _ q

/-- No piece is added or taken away by a step. -/
@[simp] theorem length_advanceAll (dt : Single) (obstacles : List Obstacle)
    (pieces : List Piece) : (advanceAll dt obstacles pieces).length = pieces.length := by
  simp [advanceAll]

end Pursuit.Arena
