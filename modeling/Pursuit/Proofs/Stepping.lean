import Pursuit.Game.Basic
import Pursuit.Proofs.Singles

/-! # What a step makes of each piece

A step moves every piece on its own: it is advanced and turned back at the walls, may arrive, and is
pushed by each obstacle in turn. That prey is caught afterwards changes nobody's place. So where a
piece stands after the step is told by where it stood, by its motion and by the obstacles.

* **`Arena.InField`** — the places inside the walls. **`Arena.withinWalls`** — where the walls leave a
  piece.
* **`Arena.shoved`** — where an obstacle leaves a piece. **`Arena.lastShove?`** — where the last
  obstacle that moves it leaves a piece, if there is one.
* **`Arena.track`** — a piece after the phases that are its own. **`Arena.Becomes`** — which piece is
  which after a step; **`Arena.Becomes.position`** and **`Arena.Becomes.arrived`** — what has become
  of it.
* **`Game.exists_step`** — the step of a running round whose time is not up. -/

namespace Pursuit

namespace Arena

/-! ## Walls -/

/-- A place inside the walls. -/
def InField (v : Vec) : Prop :=
  (nearWall ≤ v.x ∧ v.x ≤ farWall) ∧ nearWall ≤ v.y ∧ v.y ≤ farWall

instance (v : Vec) : Decidable (InField v) := inferInstanceAs (Decidable (_ ∧ _))

/-- A place beyond a wall. A coordinate that is no number is beyond none. -/
def BeyondWalls (v : Vec) : Prop :=
  (v.x < nearWall ∨ farWall < v.x) ∨ v.y < nearWall ∨ farWall < v.y

instance (v : Vec) : Decidable (BeyondWalls v) := inferInstanceAs (Decidable (_ ∨ _))

/-- The place inside the walls that is left of a place. -/
def withinWalls (v : Vec) : Vec :=
  ⟨v.x.clamp nearWall farWall, v.y.clamp nearWall farWall⟩

/-- A coordinate that bounces off the walls is clamped between them. -/
theorem bounce_fst (x v : Single) : (Piece.bounce x v).1 = x.clamp nearWall farWall := by
  have hwalls : ¬ farWall < nearWall := by decide +kernel
  unfold Piece.bounce Single.clamp
  by_cases hx : x < nearWall
  · simp only [if_pos hx, if_neg hwalls]
  · simp only [if_neg hx]
    split <;> rfl

/-- The walls change the place of a piece, and nothing else that everybody knows of it. -/
theorem state_reflectOnWalls (p : Piece) :
    p.reflectOnWalls.state = { p.state with position := withinWalls p.position } := by
  rw [withinWalls, ← bounce_fst p.position.x p.velocity.x, ← bounce_fst p.position.y p.velocity.y]
  rfl

/-- A number between two bounds is not clamped. -/
theorem clamp_of_le {x lo hi : Single} (hlo : lo ≤ x) (hhi : x ≤ hi) : x.clamp lo hi = x := by
  rw [Single.clamp, if_neg (Single.not_lt_of_le hlo), if_neg (Single.not_lt_of_le hhi)]

/-- Walls do not move what is inside them. -/
theorem withinWalls_of_inField {v : Vec} (h : InField v) : withinWalls v = v := by
  rw [withinWalls, clamp_of_le h.1.1 h.1.2, clamp_of_le h.2.1 h.2.2]

/-- The walls leave a coordinate alone that is not beyond one of them. -/
theorem clamp_walls_eq_self_iff (x : Single) :
    x.clamp nearWall farWall = x ↔ ¬(x < nearWall ∨ farWall < x) := by
  have hnear : ¬ nearWall < nearWall := by decide +kernel
  have hfar : ¬ farWall < farWall := by decide +kernel
  unfold Single.clamp
  by_cases hlow : x < nearWall
  · rw [if_pos hlow]
    exact iff_of_false (fun heq => hnear (by rwa [← heq] at hlow)) (not_not_intro (.inl hlow))
  · by_cases hhigh : farWall < x
    · rw [if_neg hlow, if_pos hhigh]
      exact iff_of_false (fun heq => hfar (by rwa [← heq] at hhigh)) (not_not_intro (.inr hhigh))
    · rw [if_neg hlow, if_neg hhigh]
      exact iff_of_true rfl (not_or_intro hlow hhigh)

/-- The walls move exactly what is beyond one of them. -/
theorem withinWalls_eq_self_iff (v : Vec) : withinWalls v = v ↔ ¬ BeyondWalls v := by
  rw [BeyondWalls, not_or, ← clamp_walls_eq_self_iff, ← clamp_walls_eq_self_iff]
  obtain ⟨x, y⟩ := v
  exact Vec.mk.injEq _ _ _ _ ▸ Iff.rfl

/-- A number is between the walls once it has been clamped to them. -/
theorem le_clamp_le {x : Single} (h : x.isNaN = false) :
    nearWall ≤ x.clamp nearWall farWall ∧ x.clamp nearWall farWall ≤ farWall := by
  have hnear : nearWall ≤ nearWall := by decide +kernel
  have hfar : farWall ≤ farWall := by decide +kernel
  have hwalls : nearWall ≤ farWall := by decide +kernel
  unfold Single.clamp
  split
  · exact ⟨hnear, hwalls⟩
  · rename_i hx
    have hle := Single.le_of_not_lt h (Single.isNaN_of_le hnear).1 hx
    split
    · exact ⟨hwalls, hfar⟩
    · rename_i hx'
      exact ⟨hle, Single.le_of_not_lt (Single.isNaN_of_le hfar).1 h hx'⟩

/-- What is a place at all is inside the walls when they are done with it. -/
theorem inField_withinWalls {v : Vec} (hx : v.x.isNaN = false) (hy : v.y.isNaN = false) :
    InField (withinWalls v) :=
  ⟨le_clamp_le hx, le_clamp_le hy⟩

/-- Walls bring nobody to the goal line, and take nobody from it. -/
theorem goalLine_le_clamp (y : Single) : goalLine ≤ y.clamp nearWall farWall ↔ goalLine ≤ y := by
  have hnear : ¬ goalLine ≤ nearWall := by decide +kernel
  have hfar : goalLine ≤ farWall := by decide +kernel
  unfold Single.clamp
  split
  · rename_i hy
    exact iff_of_false hnear fun h => hnear (Single.le_trans h (Single.le_of_lt hy))
  · split
    · rename_i hy
      exact iff_of_true hfar (Single.le_trans hfar (Single.le_of_lt hy))
    · exact Iff.rfl

/-! ## Obstacles -/

/-- Whether an obstacle pushes a piece that stands here: the two touch, by a depth above zero, and
their centres are far enough apart to tell a direction. -/
def Shoves (v : Vec) (o : Obstacle) : Prop :=
  v.distance o.state.position < pieceRadius + o.state.radius ∧
    ¬ (pieceRadius + o.state.radius - v.distance o.state.position ≤ 0 ∨
      v.distance o.state.position ≤ leastDistance)

instance (v : Vec) (o : Obstacle) : Decidable (Shoves v o) := inferInstanceAs (Decidable (_ ∧ _))

/-- Where a piece that stands here has been pushed by an obstacle. -/
def shoved (v : Vec) (o : Obstacle) : Vec :=
  if Shoves v o then
    v + (v - o.state.position) / v.distance o.state.position
      * ((pieceRadius + o.state.radius - v.distance o.state.position) * separationMargin)
  else v

/-- An obstacle that reflects a piece turns its velocity and changes nothing else. -/
theorem state_reflectOn (p : Piece) (o : Obstacle) : (p.reflectOn o).state = p.state := by
  unfold Piece.reflectOn
  split <;> rfl

/-- An obstacle changes the place of a piece, and nothing else that everybody knows of it. -/
theorem state_leave (p : Piece) (o : Obstacle) :
    (leave p o).state = { p.state with position := shoved p.position o } := by
  have hstate := state_reflectOn p o
  have hplace : (p.reflectOn o).position = p.position := congrArg (·.position) hstate
  by_cases htouch : p.touches o = true
  · have htouch' := of_decide_eq_true htouch
    rw [leave, if_pos htouch, Piece.separate]
    simp only [hplace]
    split
    · rename_i hstay
      rw [shoved, if_neg fun h => h.2 hstay]
      exact hstate
    · rename_i hpush
      rw [shoved, if_pos ⟨htouch', hpush⟩]
      simp only [Piece.moveTo, hstate]
      rfl
  · have htouch' := fun h => htouch (decide_eq_true h)
    rw [leave, if_neg htouch, shoved, if_neg fun h => htouch' h.1]
    rfl

/-- To leave obstacles changes no more of the state of a piece than its place. -/
theorem state_cleared (obstacles : List Obstacle) (p : Piece) :
    (cleared obstacles p).state =
      { p.state with position := obstacles.foldl shoved p.position } := by
  induction obstacles generalizing p with
  | nil => rfl
  | cons o obstacles ih =>
    have hplace : (leave p o).position = shoved p.position o :=
      congrArg (·.position) (state_leave p o)
    show (cleared obstacles (leave p o)).state = _
    rw [ih, state_leave, hplace]
    rfl

/-- Where a piece that stands here is left by the last of the obstacles that push it on its way, if
one of them does. -/
def lastShove? (v : Vec) : List Obstacle → Option Vec
  | [] => none
  | o :: obstacles =>
    if Shoves v o then some ((lastShove? (shoved v o) obstacles).getD (shoved v o))
    else lastShove? v obstacles

/-- Obstacles leave a piece where the last one that pushes it leaves it. -/
theorem foldl_shoved (v : Vec) (obstacles : List Obstacle) :
    obstacles.foldl shoved v = (lastShove? v obstacles).getD v := by
  induction obstacles generalizing v with
  | nil => rfl
  | cons o obstacles ih =>
    rw [List.foldl_cons, ih, lastShove?]
    split
    · rfl
    · rename_i h
      rw [shoved, if_neg h]

/-- Obstacles leave a piece in its place that none of them pushes. -/
theorem foldl_shoved_of_not {v : Vec} {obstacles : List Obstacle}
    (h : ∀ o ∈ obstacles, ¬ Shoves v o) : obstacles.foldl shoved v = v := by
  induction obstacles with
  | nil => rfl
  | cons o obstacles ih =>
    rw [List.foldl_cons, shoved, if_neg (h o List.mem_cons_self)]
    exact ih fun o' ho' => h o' (List.mem_cons_of_mem o ho')

/-- No obstacle is the last to push a piece exactly if none pushes it where it stands. -/
theorem lastShove?_eq_none_iff {v : Vec} {obstacles : List Obstacle} :
    lastShove? v obstacles = none ↔ ∀ o ∈ obstacles, ¬ Shoves v o := by
  induction obstacles with
  | nil => simp [lastShove?]
  | cons o obstacles ih =>
    rw [lastShove?, List.forall_mem_cons]
    split
    · rename_i h
      exact iff_of_false (by simp) fun hnone => hnone.1 h
    · rename_i h
      rw [ih]
      exact (and_iff_right h).symm

/-! ## The three phases -/

/-- To settle a piece only marks it as arrived, if it arrives. -/
theorem state_settled (p : Piece) :
    (settled p).state = { p.state with arrived := p.state.arrived || arrives p } := by
  unfold settled
  cases h : arrives p
  · rw [Bool.or_false]
    rfl
  · rw [Bool.or_true]
    rfl

/-- To be caught takes the life of prey and nothing else. -/
theorem caughtIfPrey_state (p : Piece) :
    (caughtIfPrey p).state = { p.state with living := p.state.living && p.hunting } := by
  unfold caughtIfPrey
  cases h : p.hunting
  · rw [Bool.and_false]
    rfl
  · rw [Bool.and_true]
    rfl

/-- A piece after the phases of a step that are its own. -/
def track (dt : Single) (obstacles : List Obstacle) (p : Piece) : Piece :=
  cleared obstacles (settled (moved dt p))

/-- What catching does not touch is told by each piece's own way through the step. -/
theorem map_advanceAll {β : Type} {f : Piece → β} (hf : ∀ p, f (caughtIfPrey p) = f p)
    (dt : Single) (obstacles : List Obstacle) (pieces : List Piece) :
    (advanceAll dt obstacles pieces).map f = pieces.map fun p => f (track dt obstacles p) := by
  rw [advanceAll, map_catchAll hf, List.map_map, List.map_map, List.map_map]
  rfl

/-- On its way through a step a piece is pushed by the obstacles from where it moved to. -/
theorem position_track (dt : Single) (obstacles : List Obstacle) (p : Piece) :
    (track dt obstacles p).position = obstacles.foldl shoved (moved dt p).position := by
  rw [track, Piece.position, state_cleared]
  show obstacles.foldl shoved (settled (moved dt p)).state.position = _
  rw [state_settled]
  rfl

/-- To move lets no piece arrive. -/
theorem arrived_moved (dt : Single) (p : Piece) : (moved dt p).state.arrived = p.state.arrived := by
  rw [moved, state_reflectOnWalls]
  unfold Piece.advance
  split <;> rfl

/-- A piece has arrived after a step if it had before or does where it moved to. -/
theorem arrived_track (dt : Single) (obstacles : List Obstacle) (p : Piece) :
    (track dt obstacles p).state.arrived = (p.state.arrived || arrives (moved dt p)) := by
  rw [track, state_cleared, state_settled, arrived_moved]

/-- The walls act on a piece at rest, and nothing else moves it. -/
theorem position_moved_of_resting (dt : Single) {p : Piece} (h : p.isMoving = false) :
    (moved dt p).position = withinWalls p.position := by
  rw [moved, Piece.position, state_reflectOnWalls]
  exact congrArg withinWalls (Piece.position_advance_of_not_isMoving dt h)

/-! ## Pieces and what becomes of them -/

/-- One of several pieces, and what has become of it: the piece in the same place of another list. -/
def Becomes (pieces pieces' : List Piece) (p p' : Piece) : Prop :=
  ∃ i : Nat, pieces[i]? = some p ∧ pieces'[i]? = some p'

section

variable {dt : Single} {obstacles : List Obstacle} {pieces : List Piece} {p p' : Piece}

/-- What catching does not change is told by the other phases. -/
theorem Becomes.eq_track {β : Type} {f : Piece → β} (hf : ∀ p, f (caughtIfPrey p) = f p)
    (h : Becomes pieces (advanceAll dt obstacles pieces) p p') :
    f p' = f (track dt obstacles p) := by
  obtain ⟨i, hp, hp'⟩ := h
  have hmap := congrArg (·[i]?) (map_advanceAll hf dt obstacles pieces)
  simp only [List.getElem?_map, hp, hp', Option.map_some, Option.some_inj] at hmap
  exact hmap

/-- After a step a piece stands where the obstacles leave it from where it moved to. -/
theorem Becomes.position (h : Becomes pieces (advanceAll dt obstacles pieces) p p') :
    p'.position = obstacles.foldl shoved (moved dt p).position := by
  rw [h.eq_track (f := Piece.position) fun p => by rw [Piece.position, caughtIfPrey_state]; rfl]
  exact position_track dt obstacles p

/-- After a step a piece has arrived if it had before or does where it moved to. -/
theorem Becomes.arrived (h : Becomes pieces (advanceAll dt obstacles pieces) p p') :
    p'.state.arrived = (p.state.arrived || arrives (moved dt p)) := by
  rw [h.eq_track (f := (·.state.arrived)) fun p => by rw [caughtIfPrey_state]]
  exact arrived_track dt obstacles p

/-- Something becomes of every piece. -/
theorem exists_becomes (dt : Single) (obstacles : List Obstacle) (hp : p ∈ pieces) :
    ∃ p', Becomes pieces (advanceAll dt obstacles pieces) p p' := by
  obtain ⟨i, hi, rfl⟩ := List.getElem_of_mem hp
  have hi' : i < (advanceAll dt obstacles pieces).length := by rwa [length_advanceAll]
  exact ⟨(advanceAll dt obstacles pieces)[i], i, List.getElem?_eq_getElem hi,
    List.getElem?_eq_getElem hi'⟩

/-- Every piece after a step has been one before. -/
theorem exists_became (hp' : p' ∈ advanceAll dt obstacles pieces) :
    ∃ p, Becomes pieces (advanceAll dt obstacles pieces) p p' := by
  obtain ⟨i, hi', rfl⟩ := List.getElem_of_mem hp'
  have hi : i < pieces.length := by rwa [length_advanceAll] at hi'
  exact ⟨pieces[i], i, List.getElem?_eq_getElem hi, List.getElem?_eq_getElem hi'⟩

/-- What became something was one of the pieces. -/
theorem Becomes.mem {pieces' : List Piece} (h : Becomes pieces pieces' p p') : p ∈ pieces := by
  obtain ⟨i, hp, _⟩ := h
  exact List.mem_of_getElem? hp

/-- What something has become is one of the pieces. -/
theorem Becomes.mem_right {pieces' : List Piece} (h : Becomes pieces pieces' p p') :
    p' ∈ pieces' := by
  obtain ⟨i, _, hp'⟩ := h
  exact List.mem_of_getElem? hp'

/-- The pieces that arrive are those whose mark has changed. -/
theorem Becomes.arrives_iff (h : Becomes pieces (advanceAll dt obstacles pieces) p p') :
    arrives (moved dt p) = true ↔ p'.state.arrived ≠ p.state.arrived := by
  rw [h.arrived]
  cases harrives : arrives (moved dt p) with
  | false => simp
  | true =>
    rw [arrives, arrived_moved] at harrives
    simp_all

/-- Somebody arrives in a step exactly if the mark of some piece changes in it. -/
theorem someArrives_iff : someArrives dt pieces = true ↔
    ∃ p p', Becomes pieces (advanceAll dt obstacles pieces) p p' ∧
      p'.state.arrived ≠ p.state.arrived := by
  rw [someArrives, List.any_eq_true]
  constructor
  · rintro ⟨p, hp, harrives⟩
    obtain ⟨p', hb⟩ := exists_becomes dt obstacles hp
    exact ⟨p, p', hb, hb.arrives_iff.1 harrives⟩
  · rintro ⟨p, p', hb, hne⟩
    exact ⟨p, hb.mem, hb.arrives_iff.2 hne⟩

end

end Arena

namespace Game

/-- A step of a running round whose time is not up. -/
theorem exists_step {g : Game} {dt elapsed : Duration} (h : g.phase = .running)
    (hadd : g.elapsed.nanos + dt.nanos = elapsed.nanos) (hnot : ¬ g.rules.roundLength ≤ elapsed) :
    ∃ g', g.step? dt = some g' ∧ g'.phase = .running ∧
      g'.pieces = Arena.advanceAll dt.toSingle g.obstacles g.pieces ∧
      g'.lastArrival =
        if Arena.someArrives dt.toSingle g.pieces then some elapsed.toSingle else g.lastArrival := by
  rw [step?, if_pos h, Duration.add?_eq_some_iff.2 hadd, Option.map_some, if_neg hnot]
  exact ⟨_, rfl, h, rfl, rfl⟩

end Game

end Pursuit
