import Pursuit.Game.Station
import Pursuit.Proofs.Magnitudes
import Pursuit.Proofs.Stepping

/-! # Pieces inside the walls

The walls act before the obstacles do. They keep every piece in the field that has a place at all, and
whoever moves at a bounded speed under a bounded acceleration has one. An obstacle that pushes a piece
afterwards may push it through a wall.

* **`Arena.Bounded`** — a piece inside the walls whose speed and acceleration are in bounds.
* **`Arena.Bounded.inField_moved`** — it is inside the walls when they are done with it.
* **`Game.step_contained_iff`** — it is still inside after the step exactly if the last obstacle that
  pushes it leaves it there. -/

namespace Pursuit

namespace Arena

open Single

/-! ## The bounds of the field's numbers -/

/-- The greatest speed is in bounds. -/
theorem below_maxVelocity : Below 7 maxVelocity.value := by decide +kernel

/-- The square of the greatest speed has fourteen digits in front of the point. -/
theorem upFrom_maxVelocity_sq : UpFrom 14 (maxVelocity * maxVelocity).value := by decide +kernel

/-- The greatest acceleration is in bounds. -/
theorem below_maxAcceleration : Below 10 maxAcceleration.value := by decide +kernel

/-- The factor of braking is in bounds. -/
theorem below_brakeFactor : Below 4 brakeFactor.value := by decide +kernel

/-- The nearer walls are at a positive coordinate. -/
theorem upFrom_nearWall : UpFrom 3 nearWall.value := by decide +kernel

/-- The farther walls are at a coordinate in bounds. -/
theorem below_farWall : Below 9 farWall.value := by decide +kernel

/-- Seconds, as long as they may be, are far from the greatest number. -/
theorem below_toSingle (dt : Duration) : Below 67 dt.toSingle.value := by
  have hbillion : UpFrom 30 (1000000000 : Single).value := by decide +kernel
  have hfraction : Below 65 (ofUInt64 (.ofNat dt.subsecNanos) / 1000000000).value :=
    (below_ofUInt64 _).div hbillion (by decide) (by decide) (by decide)
  exact (below_ofUInt64 _).add hfraction (by decide) (by decide)

/-! ## Motion -/

/-- A piece inside the walls whose speed and whose acceleration, in each direction, are in bounds. -/
structure Bounded (p : Piece) : Prop where
  /-- It is inside the walls. -/
  inField : InField p.position
  /-- It is no faster than allowed. -/
  speed : p.velocity.length ≤ maxVelocity
  /-- It is driven no harder than allowed. -/
  acceleration : p.acceleration.x.abs ≤ maxAcceleration ∧ p.acceleration.y.abs ≤ maxAcceleration

instance (p : Piece) : Decidable (Bounded p) :=
  decidable_of_iff (InField p.position ∧ p.velocity.length ≤ maxVelocity ∧
      p.acceleration.x.abs ≤ maxAcceleration ∧ p.acceleration.y.abs ≤ maxAcceleration)
    ⟨fun h => ⟨h.1, h.2.1, h.2.2⟩, fun h => ⟨h.inField, h.speed, h.acceleration⟩⟩

variable {p : Piece}

/-- A place inside the walls is in bounds. -/
theorem below_of_inField {v : Vec} (h : InField v) : v.Below 9 :=
  ⟨(upFrom_nearWall.of_le h.1.1).below_of_le h.1.2 below_farWall,
    (upFrom_nearWall.of_le h.2.1).below_of_le h.2.2 below_farWall⟩

/-- The velocity after a step is finite: before it is capped it may have grown by the braked
acceleration over the whole step, and no further. -/
theorem Bounded.below_velocity (h : Bounded p) (dt : Duration) :
    ((p.velocity + (p.acceleration - p.velocity * brakeFactor) * dt.toSingle).clampLength
      maxVelocity).Below 87 := by
  have hvelocity : p.velocity.Below 7 := Vec.below_of_length_le h.speed below_maxVelocity (by decide)
  have hacceleration : p.acceleration.Below 10 :=
    ⟨below_of_abs_le h.acceleration.1 below_maxAcceleration,
      below_of_abs_le h.acceleration.2 below_maxAcceleration⟩
  have hbrake : (p.velocity * brakeFactor).Below 12 :=
    hvelocity.mul below_brakeFactor (by decide) (by decide) (by decide)
  have heffective : (p.acceleration - p.velocity * brakeFactor).Below 14 :=
    (hacceleration.mono (by decide)).sub hbrake (by decide) (by decide)
  have hgrowth : ((p.acceleration - p.velocity * brakeFactor) * dt.toSingle).Below 82 :=
    heffective.mul (below_toSingle dt) (by decide) (by decide) (by decide)
  have hsum : (p.velocity + (p.acceleration - p.velocity * brakeFactor) * dt.toSingle).Below 84 :=
    (hvelocity.mono (by decide)).add hgrowth (by decide) (by decide)
  exact hsum.clampLength upFrom_maxVelocity_sq below_maxVelocity (by decide) (by decide)

/-- So the piece has a place after the step, however long the step is. -/
theorem Bounded.isNaN_advance (h : Bounded p) (dt : Duration) :
    (p.advance dt.toSingle).position.x.isNaN = false ∧
      (p.advance dt.toSingle).position.y.isNaN = false := by
  have hposition := below_of_inField h.inField
  cases hmoving : p.isMoving with
  | false =>
    rw [Piece.position_advance_of_not_isMoving _ hmoving]
    exact ⟨(isNaN_eq_false_iff _).2 hposition.x.ne_notANumber,
      (isNaN_eq_false_iff _).2 hposition.y.ne_notANumber⟩
  | true =>
    have hvelocity := h.below_velocity dt
    simp only [Piece.advance, hmoving, if_true, Piece.position_moveTo]
    exact ⟨isNaN_add_of_below hposition.x (isNaN_mul_of_below hvelocity.x (below_toSingle dt)),
      isNaN_add_of_below hposition.y (isNaN_mul_of_below hvelocity.y (below_toSingle dt))⟩

/-- The walls bring it back inside. -/
theorem Bounded.inField_moved (h : Bounded p) (dt : Duration) :
    InField (moved dt.toSingle p).position := by
  rw [moved, Piece.position, state_reflectOnWalls]
  exact inField_withinWalls (h.isNaN_advance dt).1 (h.isNaN_advance dt).2

end Arena

namespace Game

open Arena

/-- **Who is inside the walls after a step** of a running round whose time is not up, if everybody
was inside and in bounds before. The walls bring everybody back; after that the obstacles push, and
everybody is inside at the end exactly if the last obstacle that pushed a piece has left it inside. -/
theorem step_contained_iff {g : Game} {dt : Duration} (hrun : g.phase = .running)
    (hbounded : ∀ p ∈ g.pieces, Bounded p)
    (htime : g.elapsed.nanos + dt.nanos < g.rules.roundLength.nanos) :
    ∃ g', g.step? dt = some g' ∧ g'.phase = .running ∧
      (∀ p ∈ g.pieces, InField (moved dt.toSingle p).position) ∧
      ((∀ p' ∈ g'.pieces, InField p'.position) ↔
        ∀ p ∈ g.pieces, ∀ v, lastShove? (moved dt.toSingle p).position g.obstacles = some v →
          InField v) := by
  have hlt := Nat.lt_trans htime g.rules.roundLength.nanos_lt
  obtain ⟨g', hg', hphase, hpieces, _⟩ := exists_step hrun (Eq.refl (⟨_, hlt⟩ : Duration).nanos)
    (Nat.not_le.2 htime)
  have hmoved {p : Piece} (hp : p ∈ g.pieces) := (hbounded p hp).inField_moved dt
  refine ⟨g', hg', hphase, fun p => hmoved, fun h p hp v hv => ?_, fun h p' hp' => ?_⟩
  · obtain ⟨p', hb⟩ := exists_becomes dt.toSingle g.obstacles hp
    have hin := h p' (hpieces ▸ hb.mem_right)
    -- Where an obstacle pushed the piece, the last push decided where it stands.
    rwa [hb.position, foldl_shoved, hv] at hin
  · rw [hpieces] at hp'
    obtain ⟨p, hb⟩ := exists_became hp'
    rw [hb.position, foldl_shoved]
    cases hv : lastShove? (moved dt.toSingle p).position g.obstacles with
    | none => exact hmoved hb.mem
    | some v => exact h p hb.mem v hv

/-- Nobody leaves the field where the obstacle is out of reach. -/
theorem step_contained_iff_out_of_reach :
    let g : Game := { rules := {}, link := .detached, phase := .running
                      pieces := [(Piece.new 0 .detached).moveTo ⟨240, 240⟩]
                      obstacles := [Obstacle.new 1 .detached] }
    g.phase = .running ∧ (∀ p ∈ g.pieces, Bounded p) ∧
      g.elapsed.nanos + (Duration.ofMillis 20).nanos < g.rules.roundLength.nanos ∧
      ∃ g', g.step? (.ofMillis 20) = some g' ∧ ∀ p' ∈ g'.pieces, InField p'.position := by
  intro g
  have hbounded : ∀ p ∈ g.pieces, Bounded p := by decide +kernel
  have htime : g.elapsed.nanos + (Duration.ofMillis 20).nanos < g.rules.roundLength.nanos := by
    decide +kernel
  obtain ⟨g', hg', _, _, hcontained⟩ := step_contained_iff (g := g) rfl hbounded htime
  exact ⟨rfl, hbounded, htime, g', hg', hcontained.2 (by decide +kernel)⟩

/-- In the first level a piece between the wall and the obstacle that overlaps it is pushed out of
the field. -/
theorem step_pushes_through_wall :
    let crowd := ((Station.authority .detached {}).load 1).game.map fun g =>
      (g.modifyPiece 0 fun p => p.moveTo ⟨4, 192⟩).start
    (crowd.any fun g => g.phase = .running ∧ ∀ p ∈ g.pieces, Bounded p) = true ∧
      (crowd.bind (·.step? (.ofMillis 20))).map (fun g => (g.phase, g.pieces[0]?.map (·.position))) =
        some (.running, some ⟨⟨0xc1266667⟩, 192⟩) ∧
      ¬ InField ⟨⟨0xc1266667⟩, 192⟩ := by
  decide +kernel

end Game

end Pursuit
