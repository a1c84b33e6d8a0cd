import Pursuit.Proofs.Containment
import Pursuit.Proofs.Lengths
import Pursuit.Proofs.Progress

/-! # Steps keep numbers finite

The greatest speed bounds a velocity at the beginning of each step, and the walls bound a place. After
that every obstacle may let the one grow by a factor and the other by a distance, and no level has more
than eight obstacles. So as long as the acceleration is in bounds, nothing in the motion of a piece
becomes infinite or no number, however long the steps are.

* **`Piece.Finite`** — a piece whose motion is all in numbers.
* **`Arena.Tame`** — a piece whose motion is in bounds. **`Arena.Tame.leave`** for one obstacle,
  **`Arena.Tame.cleared`** for several and **`Arena.Tame.track`** for the phases of a step.
* **`Game.Tame`** — a game of such pieces among few obstacles of a bounded size. **`Game.Tame.step`** —
  every step keeps it.
* **`Level.InBounds`** — a level that such a game is made from; **`Level.inBounds`** — every level is one.
  **`Station.tame_load`** — the game of a loaded level. -/

namespace Pursuit

/-- Whether a place, a velocity and an acceleration are all finite. -/
structure Piece.Finite (p : Piece) : Prop where
  /-- The place. -/
  position : p.position.x.isFinite = true ∧ p.position.y.isFinite = true
  /-- The velocity. -/
  velocity : p.velocity.x.isFinite = true ∧ p.velocity.y.isFinite = true
  /-- The acceleration. -/
  acceleration : p.acceleration.x.isFinite = true ∧ p.acceleration.y.isFinite = true

namespace Arena

open Single (Representable UpFrom NotNegative representable_two_pow)

/-! ## Bounds in powers of two -/

/-- The zero vector is within every bound that is not negative. -/
theorem atMost_zero {b : ℚ} (hb : 0 ≤ b) : Vec.zero.AtMost b := ⟨hb, hb⟩

/-- Powers of two grow with their exponent. -/
theorem two_pow_mono {j k : Nat} (h : j ≤ k) : (2 : ℚ) ^ j ≤ 2 ^ k :=
  pow_le_pow_right₀ (by decide) h

/-- Two bounds by a power of two give one by the next. -/
theorem two_pow_add_le {i j k : Nat} (hi : i < k) (hj : j < k) : (2 : ℚ) ^ i + 2 ^ j ≤ 2 ^ k := by
  obtain ⟨n, rfl⟩ := Nat.exists_eq_add_of_lt hi
  have hi : (2 : ℚ) ^ i ≤ 2 ^ (i + n) := two_pow_mono (by omega)
  have hj : (2 : ℚ) ^ j ≤ 2 ^ (i + n) := two_pow_mono (by omega)
  rw [pow_succ]
  linarith

/-- Two bounds by powers of two bound a product by the power of the sum. -/
theorem two_pow_mul_le {i j k : Nat} (h : i + j ≤ k) : (2 : ℚ) ^ i * 2 ^ j ≤ 2 ^ k := by
  rw [← pow_add]
  exact two_pow_mono h

/-- The bounds of the field's numbers. -/
theorem atMost_brakeFactor : Single.AtMost (2 ^ 4) brakeFactor.value :=
  Single.Below.atMost_two_pow (k := 4) below_brakeFactor

/-- The radius of a piece is in bounds. -/
theorem atMost_pieceRadius : Single.AtMost (2 ^ 4) pieceRadius.value :=
  Single.Below.atMost_two_pow (k := 4) (by decide +kernel)

/-- The margin at which pieces are separated from obstacles is in bounds. -/
theorem atMost_separationMargin : Single.AtMost (2 ^ 1) separationMargin.value :=
  Single.Below.atMost_two_pow (k := 1) (by decide +kernel)

/-- The least distance that tells a direction is not too small to divide by. -/
theorem upFrom_leastDistance : UpFrom (-22) leastDistance.value := by decide +kernel

/-- However long a step is, its length in seconds is in bounds. -/
theorem atMost_toSingle (dt : Duration) : Single.AtMost (2 ^ 67) dt.toSingle.value :=
  Single.Below.atMost_two_pow (k := 67) (below_toSingle dt)

/-- A place inside the walls is in bounds. -/
theorem atMost_of_inField {v : Vec} (h : InField v) : v.AtMost (2 ^ 9) :=
  ⟨Single.Below.atMost_two_pow (k := 9) (below_of_inField h).x,
    Single.Below.atMost_two_pow (k := 9) (below_of_inField h).y⟩

/-! ## Pieces in bounds -/

/-- A piece whose velocity and whose place are bounded by powers of two, and whose acceleration is
what can be asked for. -/
structure Tame (speed place : Nat) (p : Piece) : Prop where
  /-- Its velocity. -/
  velocity : p.velocity.AtMost (2 ^ speed)
  /-- Its place. -/
  position : p.position.AtMost (2 ^ place)
  /-- Its acceleration. -/
  acceleration : p.acceleration.AtMost 1000

/-- An obstacle of a level: near the field and not too large. -/
structure Ordinary (o : Obstacle) : Prop where
  /-- Its centre. -/
  position : o.state.position.AtMost (2 ^ 9)
  /-- Its radius. -/
  radius : Single.AtMost (2 ^ 7) o.state.radius.value

/-- A piece that is in bounds is finite. -/
theorem Tame.finite {j k : Nat} {p : Piece} (h : Tame j k p) : p.Finite where
  position := ⟨h.position.x.isFinite, h.position.y.isFinite⟩
  velocity := ⟨h.velocity.x.isFinite, h.velocity.y.isFinite⟩
  acceleration := ⟨h.acceleration.x.isFinite, h.acceleration.y.isFinite⟩

/-- A piece that is in bounds is in wider ones. -/
theorem Tame.mono {j j' k k' : Nat} {p : Piece} (h : Tame j k p) (hj : j ≤ j') (hk : k ≤ k') :
    Tame j' k' p where
  velocity := h.velocity.mono (two_pow_mono hj)
  position := h.position.mono (two_pow_mono hk)
  acceleration := h.acceleration

/-! ## Moving -/

/-- The velocity before it is capped has grown with the length of the step, and is finite still. -/
theorem Tame.advance {p : Piece} (h : Tame 48 19 p) (dt : Duration) :
    Tame 8 76 (p.advance dt.toSingle) := by
  cases hmoving : p.isMoving with
  | false =>
    have hrest : p.advance dt.toSingle = { p with velocity := .zero, acceleration := .zero } := by
      rw [Piece.advance, hmoving]
      rfl
    rw [hrest]
    exact ⟨atMost_zero (by norm_num), h.position.mono (two_pow_mono (by decide)),
      atMost_zero (by norm_num)⟩
  | true =>
    have hbrake : (p.velocity * brakeFactor).AtMost (2 ^ 52) :=
      h.velocity.mul atMost_brakeFactor (representable_two_pow (by decide))
        (two_pow_mul_le (by decide))
    have heffective : (p.acceleration - p.velocity * brakeFactor).AtMost (2 ^ 53) :=
      h.acceleration.sub hbrake (representable_two_pow (by decide)) (by norm_num)
    have hgrowth : ((p.acceleration - p.velocity * brakeFactor) * dt.toSingle).AtMost (2 ^ 120) :=
      heffective.mul (atMost_toSingle dt) (representable_two_pow (by decide))
        (two_pow_mul_le (by decide))
    -- However great it has become, the velocity is capped before the piece moves.
    have hvelocity := (h.velocity.add hgrowth (representable_two_pow (k := 121) (by decide))
      (two_pow_add_le (by decide) (by decide))).clampLength
    have hway := hvelocity.mul (atMost_toSingle dt) (representable_two_pow (k := 75) (by decide))
      (two_pow_mul_le (by decide))
    have hplace := h.position.add hway (representable_two_pow (k := 76) (by decide))
      (two_pow_add_le (by decide) (by decide))
    simp only [Piece.advance, hmoving, if_true]
    exact ⟨hvelocity, hplace, h.acceleration⟩

/-- Walls turn a velocity round, and it is as great as before. -/
theorem atMost_bounce (x v : Single) {b : ℚ} (h : Single.AtMost b v.value) :
    Single.AtMost b (Piece.bounce x v).2.value := by
  unfold Piece.bounce
  by_cases hx : x < nearWall
  · simp only [if_pos hx]
    split
    · exact h.neg_value.neg_value
    · exact h.neg_value
  · simp only [if_neg hx]
    split
    · exact h.neg_value
    · exact h

/-- A piece that the walls have acted on is in the field, as fast as it was. -/
theorem Tame.reflectOnWalls {j k : Nat} {p : Piece} (h : Tame j k p) :
    Tame j 9 p.reflectOnWalls where
  velocity := ⟨atMost_bounce _ _ h.velocity.x, atMost_bounce _ _ h.velocity.y⟩
  position := by
    rw [Piece.position, state_reflectOnWalls]
    exact atMost_of_inField (inField_withinWalls h.position.x.isNaN
      h.position.y.isNaN)
  acceleration := h.acceleration

/-- To arrive changes nothing in the motion of a piece. -/
theorem Tame.settled {j k : Nat} {p : Piece} (h : Tame j k p) : Tame j k (settled p) := by
  unfold Arena.settled
  split
  · exact ⟨h.velocity, h.position, h.acceleration⟩
  · exact h

/-! ## Leaving obstacles -/

/-- Turning a velocity at an obstacle makes it longer by a factor at most. -/
theorem Tame.velocity_reflectOn {j k : Nat} {p : Piece} {o : Obstacle} (h : Tame j k p)
    (ho : Ordinary o) (hj : j ≤ 60) (hk : 9 ≤ k ∧ k ≤ 60) :
    (p.reflectOn o).velocity.AtMost (2 ^ (j + 5)) := by
  unfold Piece.reflectOn
  split
  · rename_i axis haxis
    -- Each operation adds at most one to the exponent of the bound, so five are spent in all.
    have hoffset : (p.position - o.state.position).AtMost (2 ^ (k + 1)) :=
      h.position.sub ho.position (representable_two_pow (by omega))
        (two_pow_add_le (by omega) (by omega))
    have haxis := hoffset.of_normalize? haxis
    rw [← pow_one (2 : ℚ)] at haxis
    have hspeed : Single.AtMost (2 ^ (j + 2)) (p.velocity.dot axis).value :=
      h.velocity.dot haxis (representable_two_pow (k := j + 1) (by omega))
        (two_pow_mul_le (by omega)) (representable_two_pow (by omega))
        (two_pow_add_le (by omega) (by omega))
    have hturn : (axis * p.velocity.dot axis).AtMost (2 ^ (j + 3)) :=
      haxis.mul hspeed (representable_two_pow (by omega)) (two_pow_mul_le (by omega))
    have hback : (axis * (p.velocity.dot axis).abs).AtMost (2 ^ (j + 3)) :=
      haxis.mul hspeed.abs (representable_two_pow (by omega)) (two_pow_mul_le (by omega))
    have hacross : (p.velocity - axis * p.velocity.dot axis).AtMost (2 ^ (j + 4)) :=
      h.velocity.sub hturn (representable_two_pow (by omega))
        (two_pow_add_le (by omega) (by omega))
    exact hacross.add hback (representable_two_pow (by omega))
      (two_pow_add_le (by omega) (by omega))
  · -- There is no direction to be reflected in.
    exact h.velocity.mono (two_pow_mono (by omega))

/-- An obstacle that pushes a piece pushes it over a bounded distance. -/
theorem atMost_shoved {k : Nat} {v : Vec} {o : Obstacle} (hv : v.AtMost (2 ^ k)) (ho : Ordinary o)
    (hk : 11 ≤ k ∧ k ≤ 60) : (shoved v o).AtMost (2 ^ (k + 1)) := by
  unfold shoved
  split
  · rename_i hshoves
    obtain ⟨htouch, hfar⟩ := hshoves
    rw [not_or] at hfar
    have hdistance : (v.distance o.state.position).isNaN = false :=
      ((Single.lt_iff_rank _ _).1 htouch).1
    -- The distance is neither too small to tell a direction nor greater than both radii.
    have hup : UpFrom (-22) (v.distance o.state.position).value :=
      upFrom_leastDistance.of_le (Single.le_of_not_lt hdistance (by decide +kernel)
        fun h => hfar.2 (Single.le_of_lt h))
    have hreach : Single.AtMost (2 ^ 8) (pieceRadius + o.state.radius).value :=
      atMost_pieceRadius.add ho.radius (representable_two_pow (by decide))
        (two_pow_add_le (by decide) (by decide))
    have hcap := hreach.of_lt hup.notNegative htouch
    have hdepth : Single.AtMost (2 ^ 9)
        (pieceRadius + o.state.radius - v.distance o.state.position).value :=
      hreach.sub hcap (representable_two_pow (by decide)) (two_pow_add_le (by decide) (by decide))
    have hpush := hdepth.mul atMost_separationMargin (representable_two_pow (k := 10) (by decide))
      (two_pow_mul_le (by decide))
    have hoffset : (v - o.state.position).AtMost (2 ^ (k + 1)) :=
      hv.sub ho.position (representable_two_pow (by omega)) (two_pow_add_le (by omega) (by omega))
    have hdirection := hoffset.div_length (hoffset.upFrom_dot_of_length hup)
    rw [← pow_one (2 : ℚ)] at hdirection
    exact hv.add (hdirection.mul hpush (representable_two_pow (k := 11) (by decide))
      (two_pow_mul_le (by decide))) (representable_two_pow (by omega))
      (two_pow_add_le (by omega) (by omega))
  · exact hv.mono (two_pow_mono (by omega))

/-- To leave an obstacle lets the bounds of a piece grow by fixed powers of two. -/
theorem Tame.leave {j k : Nat} {p : Piece} {o : Obstacle} (h : Tame j k p) (ho : Ordinary o)
    (hj : j ≤ 60) (hk : 11 ≤ k ∧ k ≤ 60) : Tame (j + 5) (k + 1) (leave p o) := by
  -- However the piece is pushed, its velocity is kept or reflected once, and its drive is kept.
  have hmotion : (Arena.leave p o).velocity = p.velocity ∨
      (Arena.leave p o).velocity = (p.reflectOn o).velocity := by
    unfold Arena.leave Piece.separate
    simp only
    split
    · split <;> exact .inr rfl
    · exact .inl rfl
  have hdrive : (Arena.leave p o).acceleration = p.acceleration := by
    have hreflect : (p.reflectOn o).acceleration = p.acceleration := by
      unfold Piece.reflectOn
      split <;> rfl
    unfold Arena.leave Piece.separate
    simp only
    split
    · split <;> exact hreflect
    · rfl
  constructor
  · rcases hmotion with heq | heq <;> rw [heq]
    · exact h.velocity.mono (two_pow_mono (by omega))
    · exact h.velocity_reflectOn ho hj ⟨by omega, hk.2⟩
  · rw [Piece.position, state_leave]
    exact atMost_shoved h.position ho hk
  · rw [hdrive]
    exact h.acceleration

/-- **Several obstacles one after the other** each add their share. -/
theorem Tame.cleared {j k : Nat} {obstacles : List Obstacle} {p : Piece} (h : Tame j k p)
    (ho : ∀ o ∈ obstacles, Ordinary o) (hj : j + 5 * obstacles.length ≤ 60)
    (hk : 11 ≤ k ∧ k + obstacles.length ≤ 60) :
    Tame (j + 5 * obstacles.length) (k + obstacles.length) (cleared obstacles p) := by
  induction obstacles generalizing j k p with
  | nil => exact h
  | cons o obstacles ih =>
    rw [List.length_cons] at hj hk
    have hleave := h.leave (ho o List.mem_cons_self) (by omega) ⟨hk.1, by omega⟩
    have hrest := ih hleave (fun o' ho' => ho o' (List.mem_cons_of_mem o ho')) (by omega)
      ⟨by omega, by omega⟩
    exact hrest.mono (by rw [List.length_cons]; omega) (by rw [List.length_cons]; omega)

/-! ## A whole step -/

/-- **The phases of a step that are a piece's own** leave it in the bounds that it was in. -/
theorem Tame.track {obstacles : List Obstacle} {p : Piece} (h : Tame 48 19 p)
    (ho : ∀ o ∈ obstacles, Ordinary o) (hcount : obstacles.length ≤ 8) (dt : Duration) :
    Tame 48 19 (track dt.toSingle obstacles p) := by
  -- The cap and the walls bound the piece anew, which leaves room for what obstacles add.
  have hmoved : Tame 8 11 (moved dt.toSingle p) :=
    (h.advance dt).reflectOnWalls.mono (by decide) (by decide)
  exact (hmoved.settled.cleared ho (by omega) (by omega)).mono (by omega) (by omega)

/-- What the bounds are about. -/
theorem Tame.congr {j k : Nat} {p p' : Piece} (h : Tame j k p) (hvelocity : p'.velocity = p.velocity)
    (hposition : p'.position = p.position) (hacceleration : p'.acceleration = p.acceleration) :
    Tame j k p' := by
  constructor
  · rw [hvelocity]
    exact h.velocity
  · rw [hposition]
    exact h.position
  · rw [hacceleration]
    exact h.acceleration

/-- To be caught changes nothing in the motion of a piece. -/
theorem Tame.caughtIfPrey_iff {j k : Nat} {p : Piece} :
    Tame j k (caughtIfPrey p) ↔ Tame j k p := by
  unfold caughtIfPrey
  split
  · exact Iff.rfl
  · exact ⟨fun h => h.congr rfl rfl rfl, fun h => h.congr rfl rfl rfl⟩

end Arena

namespace Game

open Arena

/-- A game in bounds: few obstacles of a bounded size, and pieces whose motion is in bounds. -/
structure Tame (g : Game) : Prop where
  /-- The obstacles are near the field and not too large. -/
  obstacles : ∀ o ∈ g.obstacles, Ordinary o
  /-- There are eight of them at most. -/
  count : g.obstacles.length ≤ 8
  /-- The pieces are in bounds. -/
  pieces : ∀ p ∈ g.pieces, Arena.Tame 48 19 p

/-- **Every step keeps a game in bounds**, however long it is. -/
theorem Tame.step {g g' : Game} {dt : Duration} (h : g.Tame) (hstep : g.step? dt = some g') :
    g'.Tame := by
  rcases step?_cases hstep with ⟨_, rfl⟩ | ⟨elapsed, _, _, ⟨_, rfl⟩ | ⟨_, rfl⟩⟩
  · exact h
  · exact ⟨h.obstacles, h.count, h.pieces⟩
  · -- Being caught changes no number, so each piece is as its own phases have left it.
    refine ⟨h.obstacles, h.count, fun p' hp' => ?_⟩
    obtain ⟨p, hb⟩ := exists_became hp'
    have hiff := hb.eq_track (f := Arena.Tame 48 19) fun p => propext Tame.caughtIfPrey_iff
    rw [hiff]
    exact (h.pieces p hb.mem).track h.obstacles h.count dt

end Game

/-! ## Levels -/

namespace Level

open Single (AtMost)

/-- A whole number is at most the power of two that bounds it when it is rounded. -/
theorem atMost_ofUInt64 {n k : Nat} (h : n ≤ 2 ^ k) (hk : k ≤ 127) :
    AtMost (2 ^ k) (Single.ofUInt64 (.ofNat n)).value := by
  have hrep := Single.representable_two_pow hk
  have hsize : Single.size (UInt64.ofNat n).toNat 0 ≤ 2 ^ k := by
    rw [Single.size, zpow_zero, mul_one]
    have hle : (UInt64.ofNat n).toNat ≤ 2 ^ k := Nat.le_trans (Nat.mod_le n _) h
    exact_mod_cast hle
  rw [Single.value_ofUInt64]
  refine AtMost.stored hrep ?_ (Single.rounded_normalize _ _ _)
  rcases Single.normalize_eq (UInt64.ofNat n).toNat 0 .positive with ⟨_, heq⟩ | ⟨_, heq⟩ <;> rw [heq]
  · exact pow_nonneg (by decide) k
  · exact Single.atMost_round hrep hsize

/-- A level of few obstacles, with nothing far from the field. -/
structure InBounds (level : Level) : Prop where
  /-- The pieces. -/
  places : ∀ v ∈ level.prey ++ level.hunters, v.AtMost (2 ^ 9)
  /-- The obstacles. -/
  obstacles : ∀ c ∈ level.obstacles, c.1.AtMost (2 ^ 9) ∧ AtMost (2 ^ 7) c.2.value
  /-- How many there are. -/
  count : level.obstacles.length ≤ 8

/-- A level is in bounds if its coordinates and radii are. -/
theorem inBounds_of_coordinates {prey hunters : List (Nat × Nat)} {obstacles : List (Nat × Nat × Nat)}
    (hplaces : ∀ c ∈ prey ++ hunters, c.1 ≤ 2 ^ 9 ∧ c.2 ≤ 2 ^ 9)
    (hobstacles : ∀ c ∈ obstacles, c.1 ≤ 2 ^ 9 ∧ c.2.1 ≤ 2 ^ 9 ∧ c.2.2 ≤ 2 ^ 7)
    (hcount : obstacles.length ≤ 8) :
    InBounds { prey := points prey, hunters := points hunters, obstacles := circles obstacles } where
  places v hv := by
    rw [points, points, ← List.map_append, List.mem_map] at hv
    obtain ⟨c, hc, rfl⟩ := hv
    obtain ⟨hx, hy⟩ := hplaces c hc
    exact ⟨atMost_ofUInt64 hx (by decide), atMost_ofUInt64 hy (by decide)⟩
  obstacles d hd := by
    obtain ⟨c, hc, rfl⟩ := List.mem_map.1 hd
    obtain ⟨hx, hy, hr⟩ := hobstacles c hc
    exact ⟨⟨atMost_ofUInt64 hx (by decide), atMost_ofUInt64 hy (by decide)⟩,
      atMost_ofUInt64 hr (by decide)⟩
  count := (List.length_map _).trans_le hcount

/-- Every level is. -/
theorem inBounds (n : UInt32) : (Level.number n).InBounds := by
  unfold Level.number
  split_ifs <;>
    exact inBounds_of_coordinates (by decide) (by decide) (by decide)

end Level

namespace Station

open Arena

/-- Pieces that join a game are as they were, but for their bookkeeping. -/
theorem game_foldl_addPiece (ps : List Piece) {s : Station} {g : Game} (hgame : s.game = some g) :
    ∃ ps', (ps.foldl addPiece s).game = some { g with pieces := g.pieces ++ ps' } ∧
      ∀ p' ∈ ps', ∃ p ∈ ps, ∃ r, p' = { p with replication := r } := by
  induction ps generalizing g s with
  | nil => exact ⟨[], by rw [List.append_nil]; exact hgame, fun _ hp' => absurd hp' List.not_mem_nil⟩
  | cons p ps ih =>
    have hadd : ∃ r, (s.addPiece p).game =
        some { g with pieces := g.pieces ++ [{ p with replication := r }] } :=
      ⟨_, congrArg (Option.map _) hgame⟩
    obtain ⟨r, hr⟩ := hadd
    obtain ⟨ps', hps', hsame⟩ := ih hr
    refine ⟨{ p with replication := r } :: ps', ?_, fun p' hp' => ?_⟩
    · rw [List.foldl_cons, hps', List.append_assoc, List.singleton_append]
    · rcases List.mem_cons.1 hp' with rfl | hp'
      · exact ⟨p, List.mem_cons_self, r, rfl⟩
      · obtain ⟨q, hq, hr⟩ := hsame p' hp'
        exact ⟨q, List.mem_cons_of_mem p hq, hr⟩

/-- So are obstacles. -/
theorem game_foldl_addObstacle (os : List Obstacle) {s : Station} {g : Game}
    (hgame : s.game = some g) :
    ∃ os', (os.foldl addObstacle s).game = some { g with obstacles := g.obstacles ++ os' } ∧
      os'.map (·.state) = os.map (·.state) := by
  induction os generalizing g s with
  | nil => exact ⟨[], by rw [List.append_nil]; exact hgame, rfl⟩
  | cons o os ih =>
    have hadd : ∃ r, (s.addObstacle o).game =
        some { g with obstacles := g.obstacles ++ [{ o with replication := r }] } :=
      ⟨_, congrArg (Option.map _) hgame⟩
    obtain ⟨r, hr⟩ := hadd
    obtain ⟨os', hos', hsame⟩ := ih hr
    refine ⟨{ o with replication := r } :: os', ?_, ?_⟩
    · rw [List.foldl_cons, hos', List.append_assoc, List.singleton_append]
    · rw [List.map_cons, List.map_cons, hsame]

/-- The pieces that a level begins with are in bounds. -/
theorem tame_of_mem_piecesOf {link : Link} {level : Level} {p : Piece} (hlevel : level.InBounds)
    (hp : p ∈ piecesOf link level) : Arena.Tame 48 19 p := by
  have hside {owner : PlayerId} {hunting : Bool} {places : List Vec}
      (hplaces : ∀ v ∈ places, v.AtMost (2 ^ 9)) (hp : p ∈ side link owner hunting places) :
      Arena.Tame 48 19 p := by
    obtain ⟨x, hx, rfl⟩ := List.mem_map.1 hp
    have hplace := hplaces x.1 (List.fst_mem_of_mem_zipIdx hx)
    exact ⟨atMost_zero (by norm_num), hplace.mono (two_pow_mono (by decide)),
      atMost_zero (by norm_num)⟩
  rcases List.mem_append.1 hp with hp | hp
  · exact hside (fun v hv => hlevel.places v (List.mem_append_left _ hv)) hp
  · exact hside (fun v hv => hlevel.places v (List.mem_append_right _ hv)) hp

/-- Letting everything go empties the game. -/
theorem game_reset {s : Station} {g : Game} (hgame : s.game = some g) :
    s.reset.game = some g.cleared := by
  rw [reset, hgame]
  exact (Governs.foldl_retire g.obstacles _).1.trans (Governs.foldl_letGo g.pieces _).1

/-- **The game of a loaded level is in bounds.** -/
theorem tame_load {s : Station} {level : UInt32} {loaded : Game}
    (hload : (s.load level).game = some loaded) : loaded.Tame := by
  have hlevel := Level.inBounds level
  cases hgame : s.game with
  | none =>
    -- Without a game nothing is loaded.
    rw [load, reset, hgame] at hload
    simp [hgame] at hload
  | some g =>
    -- All of the game that is loaded comes from the level.
    have hreset := game_reset hgame
    obtain ⟨ps, hps, hpieces⟩ :=
      game_foldl_addPiece (piecesOf g.link (.number level)) hreset
    obtain ⟨os, hos, hobstacles⟩ :=
      game_foldl_addObstacle (obstaclesOf g.link (.number level)) hps
    have hloaded : (s.load level).game = some { g.cleared with
        pieces := [] ++ ps, obstacles := [] ++ os, phase := .loaded, level := some level } := by
      rw [load, hreset]
      exact congrArg (Option.map _) hos
    rw [hloaded, Option.some_inj] at hload
    subst hload
    constructor
    · -- The place and the radius of an obstacle are those that the level gives.
      intro o ho
      have hstate : o.state ∈ os.map (·.state) := List.mem_map_of_mem ho
      rw [hobstacles, obstaclesOf, List.map_map, List.mem_map] at hstate
      obtain ⟨c, hc, hstate⟩ := hstate
      obtain ⟨hcentre, hradius⟩ := hlevel.obstacles c hc
      exact ⟨hstate ▸ hcentre, hstate ▸ hradius⟩
    · have hlength := congrArg List.length hobstacles
      simp only [List.length_map, obstaclesOf] at hlength
      exact hlength.trans_le hlevel.count
    · intro p hp
      obtain ⟨q, hq, r, rfl⟩ := hpieces p hp
      exact (tame_of_mem_piecesOf hlevel hq).congr rfl rfl rfl

end Station

end Pursuit
