import Pursuit.Proofs.Catching
import Pursuit.Proofs.Lists
import Pursuit.Proofs.Requests
import Pursuit.Proofs.Rounds

/-! # What steps never take back

Steps move pieces, let them arrive and take their lives. Prey that is caught stays caught and prey that
has arrived stays so, hunters neither die nor arrive, and who they all are does not change. So the
tally of a round only grows, whatever the arithmetic makes of places and speeds.

* **`Piece.Aged`** — a piece some steps later.
* **`Game.Aged`** — a game some steps later; **`Game.Aged.step`** for one step and
  **`Game.Aged.steps`** for a run of them.
* **`Game.steps_progress`** — what follows for the tally. -/

namespace Pursuit

namespace Piece

/-- A piece some steps later. It is the same piece in the same role; it may have lost its life or
arrived, and neither if it hunts. -/
structure Aged (p p' : Piece) : Prop where
  /-- Its bookkeeping, with its id. -/
  replication : p'.replication = p.replication
  /-- Whose it is. -/
  owner : p'.state.owner = p.state.owner
  /-- Its number. -/
  number : p'.state.number = p.state.number
  /-- Whether it is marked. -/
  highlighted : p'.state.highlighted = p.state.highlighted
  /-- Its role. -/
  hunting : p'.hunting = p.hunting
  /-- Nobody comes back to life. -/
  living : p'.state.living = true → p.state.living = true
  /-- Nobody who has arrived leaves the goal. -/
  arrived : p.state.arrived = true → p'.state.arrived = true
  /-- Hunters stay as they are. -/
  hunter : p.hunting = true →
    p'.state.living = p.state.living ∧ p'.state.arrived = p.state.arrived

namespace Aged

variable {p p' p'' : Piece}

/-- No step later, a piece is what it is. -/
theorem refl (p : Piece) : p.Aged p := ⟨rfl, rfl, rfl, rfl, rfl, id, id, fun _ => ⟨rfl, rfl⟩⟩

/-- Steps that follow others age a piece further. -/
theorem trans (h : p.Aged p') (h' : p'.Aged p'') : p.Aged p'' where
  replication := h'.replication.trans h.replication
  owner := h'.owner.trans h.owner
  number := h'.number.trans h.number
  highlighted := h'.highlighted.trans h.highlighted
  hunting := h'.hunting.trans h.hunting
  living := fun hl => h.living (h'.living hl)
  arrived := fun ha => h'.arrived (h.arrived ha)
  hunter := fun hh => by
    obtain ⟨hliving, harrived⟩ := h.hunter hh
    obtain ⟨hliving', harrived'⟩ := h'.hunter (h.hunting.trans hh)
    exact ⟨hliving'.trans hliving, harrived'.trans harrived⟩

end Aged

end Piece

namespace Arena

/-! ## The phases of a step -/

/-- A piece keeps its role when an obstacle reflects it. -/
theorem hunting_reflectOn (p : Piece) (o : Obstacle) : (p.reflectOn o).hunting = p.hunting := by
  unfold Piece.reflectOn
  split <;> rfl

/-- A piece keeps its role when it leaves an obstacle. -/
theorem hunting_leave (p : Piece) (o : Obstacle) : (leave p o).hunting = p.hunting := by
  unfold leave Piece.separate
  simp only
  split
  · split <;> exact hunting_reflectOn p o
  · rfl

/-- A piece keeps its role when it leaves one obstacle after the other. -/
theorem hunting_cleared (obstacles : List Obstacle) (p : Piece) :
    (cleared obstacles p).hunting = p.hunting := by
  induction obstacles generalizing p with
  | nil => rfl
  | cons o obstacles ih => exact (ih (leave p o)).trans (hunting_leave p o)

/-- A piece keeps its role when it arrives. -/
theorem hunting_settled (p : Piece) : (settled p).hunting = p.hunting := by
  unfold settled
  split <;> rfl

/-- A piece keeps its role when it moves. -/
theorem hunting_moved (dt : Single) (p : Piece) : (moved dt p).hunting = p.hunting :=
  Piece.hunting_advance p dt

/-- To advance changes no more of the state of a piece than its place. -/
theorem state_advance (p : Piece) (dt : Single) :
    (p.advance dt).state = { p.state with position := (p.advance dt).position } := by
  unfold Piece.advance
  split <;> rfl

/-- The phases of a step that are a piece's own change where it is and whether it has arrived. -/
theorem state_track (dt : Single) (obstacles : List Obstacle) (p : Piece) :
    (track dt obstacles p).state =
      { p.state with
        position := (track dt obstacles p).position
        arrived := p.state.arrived || arrives (moved dt p) } := by
  rw [Piece.position, track, state_cleared, state_settled, moved, state_reflectOnWalls,
    state_advance]

/-- A piece keeps its role for its whole way through a step. -/
theorem hunting_track (dt : Single) (obstacles : List Obstacle) (p : Piece) :
    (track dt obstacles p).hunting = p.hunting := by
  rw [track, hunting_cleared, hunting_settled, hunting_moved]

/-- A piece keeps its bookkeeping for its whole way through a step. -/
theorem replication_track (dt : Single) (obstacles : List Obstacle) (p : Piece) :
    (track dt obstacles p).replication = p.replication := by
  rw [track, replication_cleared, replication_settled, replication_moved]

/-- A hunter arrives nowhere. -/
theorem arrives_of_hunting {p : Piece} (h : p.hunting = true) : arrives p = false := by
  rw [arrives, h]
  simp

/-- A piece is one step older after its way through a step. -/
theorem aged_track (dt : Single) (obstacles : List Obstacle) (p : Piece) :
    p.Aged (track dt obstacles p) := by
  have hstate := state_track dt obstacles p
  refine ⟨replication_track dt obstacles p, ?_, ?_, ?_, hunting_track dt obstacles p, ?_, ?_, ?_⟩
  · rw [hstate]
  · rw [hstate]
  · rw [hstate]
  · rw [hstate]
    exact id
  · intro harrived
    rw [hstate, harrived, Bool.true_or]
  · intro hhunts
    rw [hstate, arrives_of_hunting ((hunting_moved dt p).trans hhunts), Bool.or_false]
    exact ⟨rfl, rfl⟩

/-- Catching takes lives of prey, and nothing else. -/
theorem aged_of_caught {p p' : Piece} (hcaught : p'.caught = p.caught) {exposed : Prop}
    (hliving : p'.state.living = true ↔ p.state.living = true ∧ (p.hunting = true ∨ ¬ exposed)) :
    p.Aged p' where
  replication := congrArg (·.replication) hcaught
  owner := congrArg (·.state.owner) hcaught
  number := congrArg (·.state.number) hcaught
  highlighted := congrArg (·.state.highlighted) hcaught
  hunting := congrArg (·.hunting) hcaught
  living := fun h => (hliving.1 h).1
  arrived := fun h => (congrArg (·.state.arrived) hcaught).trans h
  hunter := fun h => by
    refine ⟨?_, congrArg (·.state.arrived) hcaught⟩
    rw [Bool.eq_iff_iff, hliving]
    simp [h]

/-- Catching only takes lives, so every piece is at most older after it. -/
theorem aged_catchAll (us : List Piece) : List.Forall₂ Piece.Aged us (catchAll us) := by
  rw [List.forall₂_iff_get]
  refine ⟨(length_catchAll us).symm, fun i hi hi' => ?_⟩
  have hu := List.getElem?_eq_getElem hi
  have hu' := List.getElem?_eq_getElem hi'
  -- Before and after, the pieces at a place differ by a life at most.
  have hcaught := congrArg (·[i]?) (map_caught_catchAll us)
  simp only [List.getElem?_map, hu, hu', Option.map_some, Option.some_inj] at hcaught
  exact aged_of_caught hcaught (living_catchAll hu hu')

end Arena

open Arena

namespace Game

/-! ## Runs of steps -/

/-- The game after steps made one after the other, if the clock can show their times. -/
def steps? (g : Game) (dts : List Duration) : Option Game := dts.foldlM step? g

/-- A game some steps later. -/
structure Aged (g g' : Game) : Prop where
  /-- The rules. -/
  rules : g'.rules = g.rules
  /-- The obstacles stand where they stood. -/
  obstacles : g'.obstacles = g.obstacles
  /-- Every piece is the same piece. -/
  pieces : List.Forall₂ Piece.Aged g.pieces g'.pieces

/-- No step later, a game is what it is. -/
theorem Aged.refl (g : Game) : g.Aged g :=
  ⟨rfl, rfl, List.forall₂_same.2 fun p _ => .refl p⟩

/-- Steps that follow others age a game further. -/
theorem Aged.trans {g g' g'' : Game} (h : g.Aged g') (h' : g'.Aged g'') : g.Aged g'' :=
  ⟨h'.rules.trans h.rules, h'.obstacles.trans h.obstacles,
    h.pieces.comp (fun _ _ _ => .trans) h'.pieces⟩

/-- What a step does: nothing unless the round runs; it ends the round if the time is up, and
otherwise moves the pieces and takes note of arrivals. -/
theorem step?_cases {g g' : Game} {dt : Duration} (h : g.step? dt = some g') :
    (g.phase ≠ .running ∧ g' = g) ∨
      ∃ elapsed : Duration, g.phase = .running ∧ g.elapsed.nanos + dt.nanos = elapsed.nanos ∧
        ((g.rules.roundLength ≤ elapsed ∧ g' = { g with elapsed := elapsed, phase := .finished }) ∨
          (¬ g.rules.roundLength ≤ elapsed ∧
            g' = { g with
              elapsed := elapsed
              pieces := advanceAll dt.toSingle g.obstacles g.pieces
              lastArrival :=
                if someArrives dt.toSingle g.pieces then some elapsed.toSingle
                else g.lastArrival })) := by
  by_cases hrun : g.phase = .running
  · rw [step?, if_pos hrun, Option.map_eq_some_iff] at h
    obtain ⟨elapsed, hadd, rfl⟩ := h
    refine .inr ⟨elapsed, hrun, Duration.add?_eq_some_iff.1 hadd, ?_⟩
    -- The step that uses up the time ends the round and moves nobody.
    by_cases hup : g.rules.roundLength ≤ elapsed
    · rw [if_pos hup]
      exact .inl ⟨hup, rfl⟩
    · rw [if_neg hup]
      exact .inr ⟨hup, rfl⟩
  · rw [step?_of_not_running dt hrun, Option.some_inj] at h
    exact .inl ⟨hrun, h.symm⟩

/-- A game is one step later after a step. -/
theorem Aged.step {g g' : Game} {dt : Duration} (h : g.step? dt = some g') :
    Game.Aged g g' := by
  rcases step?_cases h with ⟨_, rfl⟩ | ⟨elapsed, _, _, ⟨_, rfl⟩ | ⟨_, rfl⟩⟩
  · exact .refl _
  · exact ⟨rfl, rfl, (Aged.refl _).pieces⟩
  · -- Each piece moves by itself first, and all pairs are gone through then.
    refine ⟨rfl, rfl, ?_⟩
    have htrack : List.Forall₂ Piece.Aged g.pieces
        (g.pieces.map (track dt.toSingle g.obstacles)) :=
      List.forall₂_map_right_iff.2 (List.forall₂_same.2 fun p _ => aged_track _ _ p)
    show List.Forall₂ Piece.Aged g.pieces (advanceAll dt.toSingle g.obstacles g.pieces)
    rw [advanceAll_eq_catchAll]
    exact htrack.comp (fun _ _ _ => .trans) (aged_catchAll _)

/-- **A run of steps ages a game**, each step adding to what the ones before it have done. -/
theorem Aged.steps {g g' : Game} {dts : List Duration} (h : g.steps? dts = some g') :
    Game.Aged g g' := by
  induction dts generalizing g with
  | nil =>
    cases h
    exact .refl _
  | cons dt dts ih =>
    obtain ⟨g₁, hstep, hrest⟩ := Option.bind_eq_some_iff.1 h
    exact (Aged.step hstep).trans (ih hrest)

/-- Steps that are short enough in all can be made one after the other. -/
theorem exists_steps {g : Game} {dts : List Duration}
    (h : g.elapsed.nanos + Duration.total dts < UInt64.size * 1000000000) :
    ∃ g', g.steps? dts = some g' := by
  induction dts generalizing g with
  | nil => exact ⟨g, rfl⟩
  | cons dt dts ih =>
    rw [Duration.total, ← Nat.add_assoc] at h
    -- The clock stands still outside a round, so it shows no more than the sum of the steps.
    have hstep : ∃ g₁, g.step? dt = some g₁ ∧ g₁.elapsed.nanos ≤ g.elapsed.nanos + dt.nanos := by
      by_cases hrun : g.phase = .running
      · have hlt : g.elapsed.nanos + dt.nanos < UInt64.size * 1000000000 := by omega
        obtain ⟨g₁, hg₁, helapsed, _⟩ :=
          step?_of_running hrun (Eq.refl (⟨_, hlt⟩ : Duration).nanos)
        exact ⟨g₁, hg₁, helapsed ▸ Nat.le_refl _⟩
      · exact ⟨g, step?_of_not_running dt hrun, Nat.le_add_right _ _⟩
    obtain ⟨g₁, hg₁, hle⟩ := hstep
    obtain ⟨g', hg'⟩ := ih (g := g₁) (by omega)
    refine ⟨g', ?_⟩
    rw [steps?, List.foldlM_cons, hg₁]
    exact hg'

/-! ## Arrivals -/

/-- Whether a step lets prey arrive that had not arrived before. -/
def SomebodyArrives (g g' : Game) : Prop :=
  ∃ p p', Becomes g.pieces g'.pieces p p' ∧ p.hunting = false ∧ p.state.arrived = false ∧
    p'.state.arrived = true

/-- Nobody arrives where the pieces are the same. -/
theorem not_somebodyArrives {g g' : Game} (h : g'.pieces = g.pieces) : ¬ g.SomebodyArrives g' := by
  rintro ⟨p, p', ⟨i, hp, hp'⟩, _, hbefore, hafter⟩
  rw [h, hp, Option.some_inj] at hp'
  rw [← hp', hbefore] at hafter
  cases hafter

/-- Who arrives in a step is prey, and for the first time. -/
theorem someArrives_iff_somebodyArrives {g g' : Game} {dt : Single}
    (h : g'.pieces = advanceAll dt g.obstacles g.pieces) :
    someArrives dt g.pieces = true ↔ g.SomebodyArrives g' := by
  have hiff : someArrives dt g.pieces = true ↔
      ∃ p p', Becomes g.pieces (advanceAll dt g.obstacles g.pieces) p p' ∧
        p'.state.arrived ≠ p.state.arrived := someArrives_iff
  rw [hiff, ← h]
  constructor
  · -- Whose mark has changed was at the goal line, was prey and had no mark.
    rintro ⟨p, p', hb, hne⟩
    rw [h] at hb
    have harrives := hb.arrives_iff.2 hne
    have hafter := hb.arrived
    rw [harrives, Bool.or_true] at hafter
    rw [arrives, arrived_moved, hunting_moved] at harrives
    simp only [Bool.and_eq_true, Bool.not_eq_true'] at harrives
    exact ⟨p, p', h ▸ hb, harrives.1.2, harrives.1.1, hafter⟩
  · rintro ⟨p, p', hb, _, hbefore, hafter⟩
    refine ⟨p, p', hb, ?_⟩
    rw [hbefore, hafter]
    decide

/-- The last arrival is the time of the step in which somebody arrived last. -/
theorem lastArrival_of_step {g g' : Game} {dt : Duration} (h : g.step? dt = some g') :
    (g.SomebodyArrives g' → g'.elapsed.nanos = g.elapsed.nanos + dt.nanos ∧
        g'.lastArrival = some g'.elapsed.toSingle) ∧
      (¬ g.SomebodyArrives g' → g'.lastArrival = g.lastArrival) := by
  rcases step?_cases h with ⟨_, rfl⟩ | ⟨elapsed, _, hadd, ⟨_, rfl⟩ | ⟨_, hg'⟩⟩
  · exact ⟨fun hb => absurd hb (not_somebodyArrives rfl), fun _ => rfl⟩
  · exact ⟨fun hb => absurd hb (not_somebodyArrives rfl), fun _ => rfl⟩
  · have hpieces := congrArg Game.pieces hg'
    have hlast := congrArg Game.lastArrival hg'
    rw [← someArrives_iff_somebodyArrives hpieces]
    constructor
    · intro hsome
      rw [hlast, if_pos hsome, hg']
      exact ⟨hadd.symm, rfl⟩
    · intro hnone
      rw [hlast, if_neg hnone]

/-! ## The tally -/

/-- Prey that lives and has arrived. -/
def isHome (p : Piece) : Bool := !p.hunting && p.state.living && p.state.arrived

/-- Prey that lives and has not arrived. -/
def isRoaming (p : Piece) : Bool := !p.hunting && p.state.living && !p.state.arrived

/-- Prey that was caught. -/
def isLost (p : Piece) : Bool := !p.hunting && !p.state.living

/-- The tally counts as arrived the prey that lives and has arrived. -/
theorem arrived_outcome (g : Game) : g.outcome.arrived = g.pieces.countP isHome := by
  show (((g.pieces.filter (!·.hunting)).filter (·.state.living)).filter (·.state.arrived)).length = _
  rw [← List.countP_eq_length_filter, List.countP_filter, List.countP_filter]
  exact List.countP_congr fun p _ => by simp [isHome, and_comm, and_assoc]

/-- The tally counts as surviving the prey that lives and has not arrived. -/
theorem survived_outcome (g : Game) : g.outcome.survived = g.pieces.countP isRoaming := by
  show (((g.pieces.filter (!·.hunting)).filter (·.state.living)).filter (!·.state.arrived)).length = _
  rw [← List.countP_eq_length_filter, List.countP_filter, List.countP_filter]
  exact List.countP_congr fun p _ => by simp [isRoaming, and_comm, and_assoc]

/-- The tally counts as caught the prey that does not live, whether it has arrived or not. -/
theorem caught_outcome (g : Game) : g.outcome.caught = g.pieces.countP isLost := by
  show ((g.pieces.filter (!·.hunting)).filter (!·.state.living)).length = _
  rw [← List.countP_eq_length_filter, List.countP_filter]
  exact List.countP_congr fun p _ => by simp [isLost, and_comm]

/-- Prey has arrived, survived or been caught, and nothing else. -/
theorem outcome_total (g : Game) :
    g.outcome.arrived + g.outcome.survived + g.outcome.caught = g.prey.length := by
  show ((g.prey.filter _).filter _).length + ((g.prey.filter _).filter _).length
    + (g.prey.filter _).length = _
  -- The prey is split by who lives, and the living by who has arrived.
  have hliving := List.length_eq_length_filter_add (l := g.prey) (·.state.living)
  have harrived :=
    List.length_eq_length_filter_add (l := g.prey.filter (·.state.living)) (·.state.arrived)
  omega

/-- Arrivals count twice and survivors once, so no piece scores more than two points. -/
theorem score_le (g : Game) :
    g.outcome.score ≤ 2 * (g.prey.length - g.outcome.caught) := by
  have htotal := outcome_total g
  show 2 * g.outcome.arrived + g.outcome.survived ≤ _
  omega

/-- Hunters score where the rules say so, and by their catches. -/
theorem hunterScore_outcome (g : Game) : g.outcome.hunterScore =
    if g.rules.scoring = .versus then some (2 * g.outcome.caught) else none := by
  simp only [outcome]
  cases g.rules.scoring <;> rfl

/-- What a piece has become in a game some steps later is the piece some steps later. -/
theorem Aged.of_becomes {g g' : Game} {p p' : Piece} (h : g.Aged g')
    (hb : Becomes g.pieces g'.pieces p p') : p.Aged p' := by
  obtain ⟨i, hp, hp'⟩ := hb
  obtain ⟨hi, rfl⟩ := List.getElem?_eq_some_iff.1 hp
  obtain ⟨hi', rfl⟩ := List.getElem?_eq_some_iff.1 hp'
  exact h.pieces.get hi hi'

/-- There is as much prey some steps later. -/
theorem Aged.length_prey {g g' : Game} (h : g.Aged g') : g'.prey.length = g.prey.length := by
  have hroles := h.pieces.map_eq fun _ _ hp => Piece.Aged.hunting hp
  have hprey (g : Game) : g.prey.length = (g.pieces.map Piece.hunting).countP (!·) := by
    rw [List.countP_map, List.countP_eq_length_filter]
    rfl
  rw [hprey, hprey, hroles]

/-- No less prey has been caught some steps later. -/
theorem Aged.caught_le {g g' : Game} (h : g.Aged g') :
    g.outcome.caught ≤ g'.outcome.caught := by
  rw [caught_outcome, caught_outcome]
  refine h.pieces.countP_le fun p p' hp hlost => ?_
  rw [isLost, Bool.and_eq_true, Bool.not_eq_true', Bool.not_eq_true'] at hlost ⊢
  refine ⟨hp.hunting.trans hlost.1, ?_⟩
  -- If it lived now, it would have lived then.
  by_contra hliving
  rw [Bool.not_eq_false] at hliving
  rw [hp.living hliving] at hlost
  cases hlost.2

/-- **Steps take nothing back.** Steps that are short enough in all can be made one after the other.
Whatever the pieces and obstacles, after any run of steps the obstacles are the same, and so are the
pieces in their order: their bookkeeping, owners, numbers, roles and marks. Nobody has come back to life
or left the goal, and hunters neither died nor arrived. The next step changes the time of the last
arrival only if prey arrives in it, and then to its own time.

The tally counts the prey that lives and has arrived, the prey that lives and has not, and the prey that
does not live. So arrivals, survivors and catches always make up the prey, catches only grow, the score
is at most two points for each piece of prey that was not caught, and the hunters get two points a catch
exactly where they score. -/
theorem steps_progress (g : Game) (dts : List Duration) :
    (g.elapsed.nanos + Duration.total dts < UInt64.size * 1000000000 →
      ∃ g', g.steps? dts = some g') ∧
    ∀ g', g.steps? dts = some g' →
      g'.obstacles = g.obstacles ∧
      (g'.pieces.map fun p =>
          (p.replication, p.state.owner, p.state.number, p.hunting, p.state.highlighted)) =
        (g.pieces.map fun p =>
          (p.replication, p.state.owner, p.state.number, p.hunting, p.state.highlighted)) ∧
      (∀ p p', Becomes g.pieces g'.pieces p p' →
        (p'.state.living = true → p.state.living = true) ∧
        (p.state.arrived = true → p'.state.arrived = true) ∧
        (p.hunting = true →
          p'.state.living = p.state.living ∧ p'.state.arrived = p.state.arrived)) ∧
      (∀ dt g'', g'.step? dt = some g'' →
        (g'.SomebodyArrives g'' → g''.elapsed.nanos = g'.elapsed.nanos + dt.nanos ∧
          g''.lastArrival = some g''.elapsed.toSingle) ∧
        (¬ g'.SomebodyArrives g'' → g''.lastArrival = g'.lastArrival)) ∧
      (g'.outcome.arrived = g'.pieces.countP isHome ∧
        g'.outcome.survived = g'.pieces.countP isRoaming ∧
        g'.outcome.caught = g'.pieces.countP isLost) ∧
      g'.outcome.arrived + g'.outcome.survived + g'.outcome.caught = g.prey.length ∧
      g.outcome.caught ≤ g'.outcome.caught ∧
      g'.outcome.score = 2 * g'.outcome.arrived + g'.outcome.survived ∧
      g'.outcome.score ≤ 2 * (g.prey.length - g'.outcome.caught) ∧
      g'.outcome.hunterScore =
        if g.rules.scoring = .versus then some (2 * g'.outcome.caught) else none := by
  refine ⟨exists_steps, fun g' hg' => ?_⟩
  have haged := Aged.steps hg'
  refine ⟨haged.obstacles, ?_, fun p p' hb => ?_, fun dt g'' => lastArrival_of_step,
    ⟨g'.arrived_outcome, g'.survived_outcome, g'.caught_outcome⟩, ?_, haged.caught_le, rfl, ?_, ?_⟩
  · -- Aging keeps all that tells which piece it is.
    refine haged.pieces.map_eq fun p p' hp => ?_
    rw [hp.replication, hp.owner, hp.number, hp.hunting, hp.highlighted]
  · have hp := haged.of_becomes hb
    exact ⟨hp.living, hp.arrived, hp.hunter⟩
  · rw [outcome_total, haged.length_prey]
  · rw [← haged.length_prey]
    exact score_le g'
  · rw [hunterScore_outcome, haged.rules]

/-- Two steps of a round in which hunters score: nobody gets lost, whoever is caught meanwhile. -/
theorem steps_progress_versus :
    let prey (x : Single) := (Piece.new 0 .detached).moveTo ⟨x, 240⟩
    let g : Game := { rules := { scoring := .versus }, link := .detached, phase := .running
                      pieces := [prey 236, { prey 240 with hunting := true }, prey 100] }
    let dts := [Duration.ofMillis 20, Duration.ofMillis 20]
    g.elapsed.nanos + Duration.total dts < UInt64.size * 1000000000 ∧
      ∃ g', g.steps? dts = some g' ∧
        g'.outcome.arrived + g'.outcome.survived + g'.outcome.caught = 2 ∧
        g'.outcome.hunterScore = some (2 * g'.outcome.caught) := by
  intro prey g dts
  have htime : g.elapsed.nanos + Duration.total dts < UInt64.size * 1000000000 := by decide
  obtain ⟨g', hg'⟩ := (steps_progress g dts).1 htime
  obtain ⟨_, _, _, _, _, htotal, _, _, _, hhunters⟩ := (steps_progress g dts).2 g' hg'
  exact ⟨htime, g', hg', htotal, hhunters⟩

end Game

end Pursuit
