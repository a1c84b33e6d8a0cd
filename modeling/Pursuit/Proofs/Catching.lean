import Pursuit.Proofs.Stepping

/-! # Who is caught in a step

All pairs of pieces are gone through, and lives are taken on the way. What a pair does hangs on places
and roles alone, which no pair changes. So the order of the pairs does not matter, and prey lives on
exactly if no hunter touches it.

* **`Arena.Exposed`** — whether a hunter touches the piece at a place of a list.
* **`Arena.exposed_congr`** — who lives has no say in who is exposed.
* **`Arena.living_catchAll`** — who lives when all pairs have been gone through.
* **`Game.step_catches_exposed`** — the same for a whole step. -/

namespace Pursuit

namespace Arena

/-- Whether a hunter touches the piece at a place: of the two, the earlier one of the list collides
with the later one. -/
def Exposed (us : List Piece) (i : Nat) : Prop :=
  ∃ u j v, us[i]? = some u ∧ us[j]? = some v ∧ v.hunting = true ∧
    (i < j ∧ u.collidesWith v = true ∨ j < i ∧ v.collidesWith u = true)

/-! ## What a catch leaves alone -/

/-- A piece keeps its role when it is caught. -/
@[simp] theorem hunting_caughtIfPrey (p : Piece) : (caughtIfPrey p).hunting = p.hunting := by
  unfold caughtIfPrey
  split <;> rfl

/-- A piece that is caught twice is caught. -/
@[simp] theorem caught_caughtIfPrey (p : Piece) : (caughtIfPrey p).caught = p.caught := by
  unfold caughtIfPrey
  split <;> rfl

/-- To be caught does not change whom a piece collides with. -/
@[simp] theorem collidesWith_caughtIfPrey (p q : Piece) :
    (caughtIfPrey p).collidesWith q = p.collidesWith q := by
  unfold caughtIfPrey
  split <;> rfl

/-- Only a hunter and prey collide. -/
theorem hunting_of_collidesWith {p q : Piece} (h : p.collidesWith q = true) :
    p.hunting = !q.hunting := by
  rw [Piece.collidesWith, Bool.and_eq_true, bne_iff_ne] at h
  exact Bool.eq_not_iff.2 h.1

/-- A piece is known from what is left of it when it is caught, and from whether it lives. -/
theorem eq_of_caught_eq {p q : Piece} (h : p.caught = q.caught)
    (hliving : p.state.living = q.state.living) : p = q := by
  obtain ⟨_, ⟨⟩, _⟩ := p
  obtain ⟨_, ⟨⟩, _⟩ := q
  simp only [Piece.caught, Piece.mk.injEq, PieceState.mk.injEq] at h hliving ⊢
  tauto

/-! ## Who is exposed -/

/-- Whether prey is exposed does not hang on who has been caught already. -/
theorem exposed_map_caught {us : List Piece} {i : Nat} :
    Exposed (us.map Piece.caught) i ↔ Exposed us i := by
  constructor
  · rintro ⟨_, j, _, hu, hv, h⟩
    rw [List.getElem?_map, Option.map_eq_some_iff] at hu hv
    obtain ⟨u, hu, rfl⟩ := hu
    obtain ⟨v, hv, rfl⟩ := hv
    exact ⟨u, j, v, hu, hv, h⟩
  · rintro ⟨u, j, v, hu, hv, h⟩
    refine ⟨u.caught, j, v.caught, ?_, ?_, h⟩
    · rw [List.getElem?_map, hu, Option.map_some]
    · rw [List.getElem?_map, hv, Option.map_some]

/-- A piece is exposed exactly if a hunter collides with it, whichever of the two stands first. -/
theorem exposed_iff {us : List Piece} {i : Nat} {u : Piece} (hu : us[i]? = some u) :
    Exposed us i ↔ ∃ j v, us[j]? = some v ∧ v.hunting = true ∧
      (i < j ∧ u.collidesWith v = true ∨ j < i ∧ v.collidesWith u = true) := by
  constructor
  · rintro ⟨u', j, v, hu', h⟩
    cases hu.symm.trans hu'
    exact ⟨j, v, h⟩
  · rintro ⟨j, v, h⟩
    exact ⟨u, j, v, hu, h⟩

/-- **Who lives has no say in who is exposed**: prey that was caught shields nobody. -/
theorem exposed_congr {us us' : List Piece} (h : us'.map Piece.caught = us.map Piece.caught)
    (i : Nat) : Exposed us' i ↔ Exposed us i := by
  rw [← exposed_map_caught, h, exposed_map_caught]

/-- The first piece is exposed to those behind it. -/
theorem exposed_zero {p : Piece} {rest : List Piece} :
    Exposed (p :: rest) 0 ↔ ∃ q ∈ rest, q.hunting = true ∧ p.collidesWith q = true := by
  constructor
  · rintro ⟨u, j, q, hu, hq, hhunts, hj⟩
    obtain ⟨hpos, hcollide⟩ := hj.resolve_right fun h => Nat.not_lt_zero j h.1
    obtain ⟨k, rfl⟩ := Nat.exists_eq_succ_of_ne_zero (Nat.ne_of_gt hpos)
    cases hu
    exact ⟨q, List.mem_of_getElem? hq, hhunts, hcollide⟩
  · rintro ⟨q, hq, hhunts, hcollide⟩
    obtain ⟨k, hk⟩ := List.getElem?_of_mem hq
    exact ⟨p, k + 1, q, rfl, hk, hhunts, .inl ⟨Nat.succ_pos k, hcollide⟩⟩

/-- A later piece is exposed to the first one, or among those behind it. -/
theorem exposed_succ {p u : Piece} {rest : List Piece} {i : Nat} (hu : rest[i]? = some u) :
    Exposed (p :: rest) (i + 1) ↔
      (p.hunting = true ∧ p.collidesWith u = true) ∨ Exposed rest i := by
  constructor
  · rintro ⟨u', j, v, hu', hv, hhunts, hj⟩
    cases hu.symm.trans hu'
    cases j with
    | zero =>
      cases hv
      exact .inl ⟨hhunts, (hj.resolve_left fun h => Nat.not_lt_zero _ h.1).2⟩
    | succ k => exact .inr ⟨u, k, v, hu, hv, hhunts, by simpa using hj⟩
  · rintro (⟨hhunts, hcollide⟩ | ⟨u', j, v, hu', hv, hhunts, hj⟩)
    · exact ⟨u, 0, p, hu, rfl, hhunts, .inr ⟨Nat.succ_pos i, hcollide⟩⟩
    · exact ⟨u', j + 1, v, hu', hv, hhunts, by simpa using hj⟩

/-! ## All pairs -/

/-- A step moves the pieces one by one, and goes through all pairs of them then. -/
theorem advanceAll_eq_catchAll (dt : Single) (obstacles : List Obstacle) (us : List Piece) :
    advanceAll dt obstacles us = catchAll (us.map (track dt obstacles)) := by
  rw [advanceAll, List.map_map, List.map_map]
  rfl

/-- Catching changes nothing about a piece but whether it lives. -/
theorem map_caught_catchAll (us : List Piece) :
    (catchAll us).map Piece.caught = us.map Piece.caught :=
  map_catchAll caught_caughtIfPrey us

/-- What a catch leaves alone, no pair changes. -/
theorem apply_caughtIfPrey_if {β : Type} {f : Piece → β} (hf : ∀ p, f (caughtIfPrey p) = f p)
    (b : Bool) (p : Piece) : f (if b then caughtIfPrey p else p) = f p := by
  cases b
  · rfl
  · exact hf p

/-- A piece lives on if it is not caught, or is no prey. -/
theorem living_caughtIfPrey_if (b : Bool) (p : Piece) :
    (if b then caughtIfPrey p else p).state.living = true ↔
      p.state.living = true ∧ (p.hunting = true ∨ b = false) := by
  cases b with
  | false => simp
  | true => simp [caughtIfPrey_state]

/-- The first piece is caught by whomever of the others it collides with. -/
theorem living_foldl (p : Piece) (rest : List Piece) :
    (rest.foldl (fun p q => if p.collidesWith q then caughtIfPrey p else p) p).state.living = true ↔
      p.state.living = true ∧ (p.hunting = true ∨ ∀ q ∈ rest, p.collidesWith q = false) := by
  induction rest generalizing p with
  | nil => simp
  | cons q rest ih =>
    -- Whoever is caught by the next piece collides with the rest as before.
    have hcollide (r : Piece) :
        (if p.collidesWith q then caughtIfPrey p else p).collidesWith r = p.collidesWith r :=
      apply_caughtIfPrey_if (f := (·.collidesWith r)) (fun p => collidesWith_caughtIfPrey p r) _ p
    rw [List.foldl_cons, ih, living_caughtIfPrey_if,
      apply_caughtIfPrey_if hunting_caughtIfPrey (p.collidesWith q) p]
    simp only [hcollide, List.forall_mem_cons]
    tauto

/-- Prey is exposed to those behind it exactly if it collides with some of them. -/
theorem forall_not_collidesWith_iff {p : Piece} {rest : List Piece} :
    (p.hunting = true ∨ ∀ q ∈ rest, p.collidesWith q = false) ↔
      p.hunting = true ∨ ¬ Exposed (p :: rest) 0 := by
  rw [exposed_zero]
  cases hhunts : p.hunting with
  | true => simp
  | false =>
    -- Whatever prey collides with is a hunter.
    have hunts_of_collides {q : Piece} (h : p.collidesWith q = true) : q.hunting = true := by
      have := hunting_of_collidesWith h
      rwa [hhunts, Bool.false_eq, Bool.not_eq_false'] at this
    simp only [Bool.false_eq_true, false_or, not_exists, not_and, Bool.not_eq_true]
    exact forall₂_congr fun q _ =>
      ⟨fun h _ => h, fun h => by
        by_contra hne
        rw [Bool.not_eq_false] at hne
        rw [h (hunts_of_collides hne)] at hne
        cases hne⟩

/-- **Who lives when all pairs have been gone through**: whoever lived before and hunts or is exposed
to no hunter. -/
theorem living_catchAll {us : List Piece} {i : Nat} {u u' : Piece} (hu : us[i]? = some u)
    (hu' : (catchAll us)[i]? = some u') :
    u'.state.living = true ↔ u.state.living = true ∧ (u.hunting = true ∨ ¬ Exposed us i) := by
  fun_induction catchAll us generalizing i u with
  | case1 => cases hu
  | case2 p rest ih =>
    cases i with
    | zero =>
      -- The first piece meets all the others before any of them has changed.
      cases hu
      cases hu'
      rw [living_foldl, forall_not_collidesWith_iff]
    | succ i =>
      rw [List.getElem?_cons_succ] at hu hu'
      -- The others go on as the first has left them, which changes neither places nor roles.
      have hmet : (rest.map fun q => if p.collidesWith q then caughtIfPrey q else q)[i]? =
          some (if p.collidesWith u then caughtIfPrey u else u) := by
        rw [List.getElem?_map]
        exact congrArg _ hu
      have hsame : (rest.map fun q => if p.collidesWith q then caughtIfPrey q else q).map
          Piece.caught = rest.map Piece.caught := by
        rw [List.map_map]
        exact List.map_congr_left fun q _ => apply_caughtIfPrey_if caught_caughtIfPrey _ q
      simp only [dite_eq_ite, List.map_subtype, List.unattach_attach] at ih
      rw [ih hmet hu', living_caughtIfPrey_if, apply_caughtIfPrey_if hunting_caughtIfPrey,
        exposed_congr hsame, exposed_succ hu]
      cases hhunts : u.hunting with
      | true => simp
      | false =>
        cases hcollide : p.collidesWith u with
        | false => simp
        | true =>
          -- Prey that the first piece touches is caught by it, since that is a hunter then.
          have hp := hunting_of_collidesWith hcollide
          simp [hp, hhunts]

end Arena

namespace Game

open Arena

/-- **Who is caught in a step** of a running round whose time is not up. Take the pieces as they are
when they have moved and left the obstacles. The step takes lives and changes nothing else of them,
and whoever lived lives on exactly if it hunts or no hunter touches it, where of the two the earlier
one collides with the later one. So hunters stay as they are, a hunter catches all prey that it
touches, and whether anybody else lives has no say in it. -/
theorem step_catches_exposed {g : Game} {dt : Duration} (hrun : g.phase = .running)
    (htime : g.elapsed.nanos + dt.nanos < g.rules.roundLength.nanos) :
    ∃ g', g.step? dt = some g' ∧
      let us := g.pieces.map (track dt.toSingle g.obstacles)
      g'.pieces.map Piece.caught = us.map Piece.caught ∧
      (∀ (i : Nat) u u', us[i]? = some u → g'.pieces[i]? = some u' →
        (u'.state.living = true ↔ u.state.living = true ∧ (u.hunting = true ∨
          ¬ ∃ j v, us[j]? = some v ∧ v.hunting = true ∧
            (i < j ∧ u.collidesWith v = true ∨ j < i ∧ v.collidesWith u = true)))) ∧
      (∀ (i : Nat) u, us[i]? = some u → u.hunting = true → g'.pieces[i]? = some u) ∧
      (∀ (j : Nat) v, us[j]? = some v → v.hunting = true → ∀ (i : Nat) u, us[i]? = some u →
        i < j ∧ u.collidesWith v = true ∨ j < i ∧ v.collidesWith u = true →
        (g'.pieces[i]?.map (·.state.living)) = some false) ∧
      ∀ us' : List Piece, us'.map Piece.caught = us.map Piece.caught → ∀ i,
        Exposed us' i ↔ Exposed us i := by
  have hlt := Nat.lt_trans htime g.rules.roundLength.nanos_lt
  obtain ⟨g', hg', _, hpieces, _⟩ := exists_step hrun (Eq.refl (⟨_, hlt⟩ : Duration).nanos)
    (Nat.not_le.2 htime)
  refine ⟨g', hg', ?_⟩
  intro us
  have hcatch : g'.pieces = catchAll us := hpieces.trans (advanceAll_eq_catchAll _ _ _)
  have hsame : g'.pieces.map Piece.caught = us.map Piece.caught := by
    rw [hcatch, map_caught_catchAll]
  have hliving {i : Nat} {u u' : Piece} (hu : us[i]? = some u) (hu' : g'.pieces[i]? = some u') :=
    living_catchAll hu (hcatch ▸ hu')
  -- Something has become of every piece, and at most its life has been taken.
  have hbecome {i : Nat} {u : Piece} (hu : us[i]? = some u) :
      ∃ u', g'.pieces[i]? = some u' ∧ u'.caught = u.caught := by
    have hmap := congrArg (·[i]?) hsame
    simp only [List.getElem?_map, hu, Option.map_some] at hmap
    exact Option.map_eq_some_iff.1 hmap
  refine ⟨hsame, fun i u u' hu hu' => ?_, fun i u hu hhunts => ?_, fun j v hv hhunts i u hu h => ?_,
    fun us' h => exposed_congr h⟩
  · rw [← exposed_iff hu]
    exact hliving hu hu'
  · -- A hunter that lived lives on and one that did not does not, so nothing of it has changed.
    obtain ⟨u', hu', hcaught⟩ := hbecome hu
    rw [hu', eq_of_caught_eq hcaught]
    rw [Bool.eq_iff_iff, hliving hu hu']
    simp [hhunts]
  · obtain ⟨u', hu', _⟩ := hbecome hu
    have hprey : u.hunting = false := by
      rcases h with ⟨_, hcollide⟩ | ⟨_, hcollide⟩
      · rw [hunting_of_collidesWith hcollide, hhunts]
        rfl
      · have := hunting_of_collidesWith hcollide
        rwa [hhunts, Bool.true_eq, Bool.not_eq_true'] at this
    have hexposed : Exposed us i := (exposed_iff hu).2 ⟨j, v, hv, hhunts, h⟩
    rw [hu', Option.map_some, Option.some_inj, ← Bool.not_eq_true, hliving hu hu', hprey]
    simp [hexposed]

/-- One hunter between two pieces of prey catches both. -/
theorem step_catches_exposed_both :
    let prey (x : Single) := (Piece.new 0 .detached).moveTo ⟨x, 240⟩
    let g : Game := { rules := {}, link := .detached, phase := .running
                      pieces := [prey 236, { prey 240 with hunting := true }, prey 244, prey 100] }
    g.phase = .running ∧
      g.elapsed.nanos + (Duration.ofMillis 20).nanos < g.rules.roundLength.nanos ∧
      ∃ g', g.step? (.ofMillis 20) = some g' ∧
        g'.pieces[1]? = some { prey 240 with hunting := true } ∧
        g'.pieces[0]?.map (·.state.living) = some false ∧
        g'.pieces[2]?.map (·.state.living) = some false := by
  intro prey g
  have htime : g.elapsed.nanos + (Duration.ofMillis 20).nanos < g.rules.roundLength.nanos := by
    decide +kernel
  obtain ⟨g', hg', _, _, hhunter, hcatches, _⟩ := step_catches_exposed (g := g) rfl htime
  have hhunts : (g.pieces.map (track (Duration.ofMillis 20).toSingle g.obstacles))[1]? =
      some { prey 240 with hunting := true } := by decide +kernel
  refine ⟨rfl, htime, g', hg', hhunter 1 _ hhunts rfl, ?_, ?_⟩
  · exact hcatches 1 _ hhunts rfl 0 (prey 236) (by decide +kernel) (by decide +kernel)
  · exact hcatches 1 _ hhunts rfl 2 (prey 244) (by decide +kernel) (by decide +kernel)

end Game

end Pursuit
