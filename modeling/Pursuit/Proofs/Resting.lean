import Pursuit.Proofs.Rounds
import Pursuit.Proofs.Stepping

/-! # Pieces at rest

A piece that was caught or has arrived is not advanced by a step, but the walls, the goal line and
the obstacles act on it as on any other. Here is said exactly when it keeps its place, and when prey
that was caught arrives nevertheless.

* **`Arena.foldl_shoved_withinWalls`** — a piece inside the walls that no obstacle pushes stands
  still. **`Arena.foldl_shoved_withinWalls_eq_self_iff`** — exactly which pieces do.
* **`Game.step_at_rest_iff`** — who stands still, who arrives and what the time of the last arrival
  is. -/

namespace Pursuit

namespace Arena

/-- A place inside the walls in which no obstacle pushes is where the step leaves a piece at rest. -/
theorem foldl_shoved_withinWalls {v : Vec} {obstacles : List Obstacle} (hv : InField v)
    (ho : ∀ o ∈ obstacles, ¬ Shoves v o) : obstacles.foldl shoved (withinWalls v) = v := by
  rw [withinWalls_of_inField hv, foldl_shoved_of_not ho]

/-- A piece at rest stays where it is exactly if it is beyond no wall and no obstacle pushes it, or if
the last obstacle that pushes it has put it back. -/
theorem foldl_shoved_withinWalls_eq_self_iff {v : Vec} {obstacles : List Obstacle} :
    obstacles.foldl shoved (withinWalls v) = v ↔
      (¬ BeyondWalls v ∧ ∀ o ∈ obstacles, ¬ Shoves v o) ∨
        lastShove? (withinWalls v) obstacles = some v := by
  rw [foldl_shoved]
  cases hlast : lastShove? (withinWalls v) obstacles with
  | some v' =>
    rw [Option.getD_some, Option.some_inj, or_iff_right_of_imp]
    rintro ⟨hwalls, hobstacles⟩
    rw [(withinWalls_eq_self_iff v).2 hwalls, lastShove?_eq_none_iff.2 hobstacles] at hlast
    cases hlast
  | none =>
    rw [Option.getD_none, withinWalls_eq_self_iff, or_iff_left (by simp)]
    refine ⟨fun hwalls => ⟨hwalls, ?_⟩, And.left⟩
    rwa [(withinWalls_eq_self_iff v).2 hwalls, lastShove?_eq_none_iff] at hlast

/-- Prey that rests arrives if it stands on the goal line and has not arrived yet. -/
theorem arrives_moved_of_resting {p : Piece} (dt : Single) (h : p.isMoving = false) :
    arrives (moved dt p) = true ↔
      p.state.arrived = false ∧ p.hunting = false ∧ goalLine ≤ p.position.y := by
  have hhunting : (moved dt p).hunting = p.hunting := Piece.hunting_advance p dt
  rw [arrives, Piece.reachedGoal, position_moved_of_resting dt h, arrived_moved, hhunting,
    withinWalls]
  simp [goalLine_le_clamp, and_assoc]

end Arena

namespace Game

open Arena

/-- **Who stands still in a step, and who arrives.** A step that ends the round leaves everybody
where they are. In any other step a piece at rest inside the walls that no obstacle pushes keeps its
place. All pieces at rest keep theirs exactly if each is beyond no wall and no obstacle pushes it, or
the last obstacle that pushes it puts it back where it was. Caught prey is marked as arrived exactly if
some stands on the goal line unmarked; and the time of the last arrival is that of this step if
somebody's mark has changed, and the old one otherwise. -/
theorem step_at_rest_iff {g : Game} {dt elapsed : Duration} (hrun : g.phase = .running)
    (hadd : g.elapsed.nanos + dt.nanos = elapsed.nanos) :
    ∃ g', g.step? dt = some g' ∧
      (g.rules.roundLength ≤ elapsed → g'.standing = g.standing) ∧
      (¬ g.rules.roundLength ≤ elapsed →
        (∀ p p', Becomes g.pieces g'.pieces p p' → p.isMoving = false → InField p.position →
          (∀ o ∈ g.obstacles, ¬ Shoves p.position o) → p'.position = p.position) ∧
        ((∀ p p', Becomes g.pieces g'.pieces p p' → p.isMoving = false →
            p'.position = p.position) ↔
          ∀ p ∈ g.pieces, p.isMoving = false →
            (¬ BeyondWalls p.position ∧ ∀ o ∈ g.obstacles, ¬ Shoves p.position o) ∨
              lastShove? (withinWalls p.position) g.obstacles = some p.position) ∧
        ((∀ p p', Becomes g.pieces g'.pieces p p' → p.state.living = false →
            p'.state.arrived = p.state.arrived) ↔
          ∀ p ∈ g.pieces, p.state.living = false → p.state.arrived = false →
            p.hunting = false → ¬ goalLine ≤ p.position.y) ∧
        ((∃ p p', Becomes g.pieces g'.pieces p p' ∧ p'.state.arrived ≠ p.state.arrived) →
          g'.lastArrival = some elapsed.toSingle) ∧
        ((∀ p p', Becomes g.pieces g'.pieces p p' → p'.state.arrived = p.state.arrived) →
          g'.lastArrival = g.lastArrival)) := by
  by_cases hup : g.rules.roundLength ≤ elapsed
  · obtain ⟨g', hg', _, _, hend, _⟩ := step?_of_running hrun hadd
    exact ⟨g', hg', fun _ => (hend hup).2, fun hnot => absurd hup hnot⟩
  obtain ⟨g', hg', _, hpieces, hlast⟩ := exists_step hrun hadd hup
  refine ⟨g', hg', fun h => absurd h hup, fun _ => ?_⟩
  rw [hpieces, hlast]
  have hbecomes {p : Piece} (hp : p ∈ g.pieces) :=
    exists_becomes dt.toSingle g.obstacles hp
  -- Whoever was caught is at rest.
  have hrest {p : Piece} (hdead : p.state.living = false) : p.isMoving = false := by
    rw [Piece.isMoving, hdead, Bool.false_and]
  refine ⟨fun p p' hb hrest hin hfree => ?_, ⟨fun h p hp hrest => ?_, fun h p p' hb hrest => ?_⟩,
    ⟨fun h p hp hdead harr hprey hgoal => ?_, fun h p p' hb hdead => ?_⟩, fun h => ?_, fun h => ?_⟩
  · rw [hb.position, position_moved_of_resting _ hrest, foldl_shoved_withinWalls hin hfree]
  · obtain ⟨p', hb⟩ := hbecomes hp
    rw [← foldl_shoved_withinWalls_eq_self_iff, ← position_moved_of_resting dt.toSingle hrest,
      ← hb.position]
    exact h p p' hb hrest
  · rw [hb.position, position_moved_of_resting _ hrest, foldl_shoved_withinWalls_eq_self_iff]
    exact h p hb.mem hrest
  · obtain ⟨p', hb⟩ := hbecomes hp
    have harrives := (arrives_moved_of_resting dt.toSingle (hrest hdead)).2 ⟨harr, hprey, hgoal⟩
    exact hb.arrives_iff.1 harrives (h p p' hb hdead)
  · by_contra hne
    obtain ⟨harr, hprey, hgoal⟩ :=
      (arrives_moved_of_resting _ (hrest hdead)).1 (hb.arrives_iff.2 hne)
    exact h p hb.mem hdead harr hprey hgoal
  · rw [if_pos (someArrives_iff.2 h)]
  · rw [if_neg fun hsome => ?_]
    obtain ⟨p, p', hb, hne⟩ := someArrives_iff.1 hsome
    exact hne (h p p' hb)

/-- Caught prey away from walls, goal and obstacles stands still and does not arrive. -/
theorem step_at_rest_iff_untouched :
    let g : Game := { rules := {}, link := .detached, phase := .running
                      pieces := [(Piece.new 0 .detached).caught.moveTo ⟨240, 240⟩]
                      obstacles := [Obstacle.new 1 .detached] }
    g.phase = .running ∧
      g.elapsed.nanos + (Duration.ofMillis 20).nanos = (Duration.ofMillis 20).nanos ∧
      ∃ g', g.step? (.ofMillis 20) = some g' ∧
        (∀ p p', Becomes g.pieces g'.pieces p p' → p.isMoving = false → p'.position = p.position) ∧
        ∀ p p', Becomes g.pieces g'.pieces p p' → p.state.living = false →
          p'.state.arrived = p.state.arrived := by
  intro g
  have hadd : g.elapsed.nanos + (Duration.ofMillis 20).nanos = (Duration.ofMillis 20).nanos :=
    Nat.zero_add _
  obtain ⟨g', hg', _, hstep⟩ := step_at_rest_iff (g := g) rfl hadd
  obtain ⟨_, hplaces, harrivals, _, _⟩ := hstep (by decide +kernel)
  exact ⟨rfl, hadd, g', hg', hplaces.2 (by decide +kernel), harrivals.2 (by decide +kernel)⟩

/-- Caught prey that touches an obstacle is pushed away, and caught prey on the goal line arrives. -/
theorem step_disturbs_caught :
    let crowd := ((Station.authority .detached {}).load 1).game.map fun g =>
      ((g.modifyPiece 0 fun p => p.caught.moveTo ⟨44, 150⟩).modifyPiece 1 fun p =>
        p.caught.moveTo ⟨240, 473⟩).start
    let seen := fun g : Game =>
      ((g.pieces.take 2).map fun p => (p.state.living, p.state.arrived, p.position), g.lastArrival)
    crowd.map seen = some ([(false, false, ⟨44, 150⟩), (false, false, ⟨240, 473⟩)], none) ∧
      (crowd.bind (·.step? (.ofMillis 20))).map seen =
        some ([(false, false, ⟨44, 138⟩), (false, true, ⟨240, 473⟩)],
          some (Duration.ofMillis 20).toSingle) := by
  decide +kernel

end Game

end Pursuit
