import Pursuit.Proofs.Finiteness
import Pursuit.Proofs.Sines
import Pursuit.Proofs.Wishes

/-! # What players can steer to

A request to steer names an angle and a strength in any patterns that the wire can carry. The strength
is moved into the unit interval, which leaves what is no number as it is, and an angle that is infinite
has neither cosine nor sine. All other requests ask for an acceleration in bounds, and with those
alone the motion of all pieces stays finite for good.

* **`SteerOrder.Sound`** — the requests that ask for an acceleration at all;
  **`SteerOrder.Sound.acceleration`** and **`SteerOrder.isNaN_acceleration`** for the two cases.
* **`Game.SteeredSoundly`** — runs in which only sound requests are granted; **`Game.Tame.calls`** — what
  they keep.
* **`Station.steering_finite_iff`** — when numbers stay numbers. -/

namespace Pursuit

open Arena

/-! ## The acceleration of a request -/

namespace SteerOrder

/-- Whether the request has an acceleration: the angle is finite and the strength is a number. -/
def Sound (o : SteerOrder) : Prop := o.angle.isFinite = true ∧ o.strength.isNaN = false

instance (o : SteerOrder) : Decidable o.Sound := inferInstanceAs (Decidable (_ ∧ _))

end SteerOrder

namespace Single

/-- The greatest acceleration in the parts that arithmetic works on. -/
theorem value_maxAcceleration :
    maxAcceleration.value = .finite .positive 16384000 (-14) (by decide) := rfl

/-- The size of the greatest acceleration is a thousand. -/
theorem size_maxAcceleration : size 16384000 (-14) = 1000 := by
  rw [size]
  norm_num

/-- The greatest acceleration can be represented. -/
theorem representable_maxAcceleration : Representable 1000 :=
  ⟨16384000, -14, by decide, by decide, by decide, size_maxAcceleration.symm⟩

/-- The greatest acceleration is at most itself. -/
theorem atMost_maxAcceleration : AtMost 1000 maxAcceleration.value := by
  rw [value_maxAcceleration]
  exact size_maxAcceleration.le

/-- A product whose left side is no number is none. -/
theorem isNaN_mul_left {x : Single} (h : x.isNaN = true) (y : Single) : (x * y).isNaN = true := by
  rw [isNaN_iff] at h ⊢
  rw [value_mul, h]
  exact stored_notANumber

/-- A product whose right side is no number is none. -/
theorem isNaN_mul_right (x : Single) {y : Single} (h : y.isNaN = true) : (x * y).isNaN = true := by
  rw [isNaN_iff] at h ⊢
  rw [value_mul, h]
  cases x.value <;> exact stored_notANumber

/-- What is no number is not moved. -/
theorem clamp_of_isNaN {x : Single} (h : x.isNaN = true) (lo hi : Single) : x.clamp lo hi = x := by
  have hlow : ¬ x < lo := fun hlt => by
    rw [((lt_iff_rank x lo).1 hlt).1] at h
    cases h
  have hhigh : ¬ hi < x := fun hlt => by
    rw [((lt_iff_rank hi x).1 hlt).2.1] at h
    cases h
  rw [clamp, if_neg hlow, if_neg hhigh]

end Single

namespace SteerOrder

open Single (AtMost)

variable {o : SteerOrder}

/-- **A sound request asks for an acceleration in bounds.** -/
theorem Sound.acceleration (h : o.Sound) : o.acceleration.AtMost 1000 := by
  have hstrength : AtMost 1 (o.strength.clamp 0 1).value := Single.atMost_clamp h.2
  have hscaled {x : Single} (hx : AtMost 1 x.value) :
      AtMost 1000 (x * o.strength.clamp 0 1 * maxAcceleration).value :=
    (hx.mul hstrength Single.representable_one (mul_one 1).le).mul Single.atMost_maxAcceleration
      Single.representable_maxAcceleration (one_mul 1000).le
  exact ⟨hscaled (Single.atMost_cos h.1), hscaled (Single.atMost_sin h.1).neg_value⟩

/-- **Any other request asks for no number.** -/
theorem isNaN_acceleration (h : ¬ o.Sound) : o.acceleration.x.isNaN = true := by
  refine Single.isNaN_mul_left ?_ maxAcceleration
  -- One factor is no number: the cosine, or the strength that no bound has moved.
  rcases not_and_or.1 h with hangle | hstrength
  · rw [Bool.not_eq_true] at hangle
    exact Single.isNaN_mul_left ((Single.isNaN_cos_iff _).2 hangle) _
  · rw [Bool.not_eq_false] at hstrength
    refine Single.isNaN_mul_right _ ?_
    rwa [Single.clamp_of_isNaN hstrength]

/-- So a request is sound exactly if its acceleration is finite and in bounds. -/
theorem acceleration_finite_iff :
    ((o.acceleration.x.isFinite = true ∧ o.acceleration.y.isFinite = true) ∧
      o.acceleration.x.abs ≤ maxAcceleration ∧ o.acceleration.y.abs ≤ maxAcceleration) ↔
      o.Sound := by
  constructor
  · intro h
    by_contra hnot
    have hnan := isNaN_acceleration hnot
    rw [Single.isNaN_of_isFinite h.1.1] at hnan
    cases hnan
  · intro h
    have hbounds := h.acceleration
    refine ⟨⟨hbounds.x.isFinite, hbounds.y.isFinite⟩, ?_, ?_⟩
    · rw [Single.abs_le_iff Single.value_maxAcceleration, Single.size_maxAcceleration]
      exact hbounds.x
    · rw [Single.abs_le_iff Single.value_maxAcceleration, Single.size_maxAcceleration]
      exact hbounds.y

end SteerOrder

namespace Game

variable {g g' : Game} {sender : PlayerId} {o : SteerOrder}

/-! ## What requests keep -/

/-- A request that is granted sets the acceleration of one piece. -/
theorem exists_steer (h : g.steer sender o = .ok g') :
    ∃ (i : Nat) (p : Piece), g.pieces[i]? = some p ∧ p.state.owner = sender ∧
      g' = { g with pieces := g.pieces.set i { p with acceleration := o.acceleration } } := by
  unfold steer at h
  cases hrequested : g.requested sender o.unitIndex with
  | error e =>
    rw [hrequested] at h
    cases h
  | ok i =>
    rw [hrequested] at h
    cases h
    obtain ⟨p, hp, howner⟩ := owner_of_requested hrequested
    exact ⟨i, p, hp, howner, modifyPiece_eq_set hp _⟩

/-- A change of one piece that leaves its motion in bounds. -/
theorem Tame.modifyPiece (h : g.Tame) (i : Nat) {f : Piece → Piece}
    (hf : ∀ p, Arena.Tame 48 19 p → Arena.Tame 48 19 (f p)) : (g.modifyPiece i f).Tame where
  obstacles := h.obstacles
  count := h.count
  pieces p' hp' := by
    obtain ⟨j, hj⟩ := List.getElem?_of_mem hp'
    rw [Game.modifyPiece, List.getElem?_modify] at hj
    obtain ⟨p, hp, rfl⟩ := Option.map_eq_some_iff.1 hj
    have hp := h.pieces p (List.mem_of_getElem? hp)
    split
    · exact hf p hp
    · exact hp

/-- A request is granted and changes one piece, or it is refused and changes nothing. -/
theorem Tame.requested (h : g.Tame) {index : UInt8} {f : Piece → Piece}
    (hf : ∀ i, g.requested sender index = .ok i →
      ∀ p, Arena.Tame 48 19 p → Arena.Tame 48 19 (f p)) :
    (((g.requested sender index).map fun i => g.modifyPiece i f).toOption.getD g).Tame := by
  cases hrequested : g.requested sender index with
  | error e => exact h
  | ok i => exact h.modifyPiece i (hf i hrequested)

/-- **Every call keeps a game in bounds**, if a request to steer that is granted is sound. -/
theorem Tame.call {c : Call} (h : g.Tame) (hc : g.call? c = some g')
    (hsound : ∀ sender o g₁, c = .steer sender o → g.steer sender o = .ok g₁ → o.Sound) :
    g'.Tame := by
  cases c with
  | start =>
    cases hc
    unfold Game.start
    split
    · exact ⟨h.obstacles, h.count, h.pieces⟩
    · exact h
  | step dt => exact h.step hc
  | steer sender o =>
    cases hc
    refine h.requested fun i hi p hp => ⟨hp.velocity, hp.position, ?_⟩
    have hgranted : ∃ g₁, g.steer sender o = .ok g₁ := ⟨_, by rw [steer, hi]; rfl⟩
    obtain ⟨g₁, hg₁⟩ := hgranted
    exact (hsound sender o g₁ rfl hg₁).acceleration
  | highlight sender o =>
    cases hc
    exact h.requested fun _ _ p hp => hp.congr rfl rfl rfl

/-! ## Runs -/

/-- Whether all requests to steer that are granted in a run are sound. -/
def SteeredSoundly (g : Game) (cs : List Call) : Prop :=
  ∀ before sender o rest g₁ g₂, cs = before ++ .steer sender o :: rest →
    g.calls? before = some g₁ → g₁.steer sender o = .ok g₂ → o.Sound

/-- **Such a run keeps a game in bounds.** -/
theorem Tame.calls {cs : List Call} (h : g.Tame) (hsound : g.SteeredSoundly cs)
    (hcs : g.calls? cs = some g') : g'.Tame := by
  induction cs generalizing g with
  | nil =>
    cases hcs
    exact h
  | cons c cs ih =>
    obtain ⟨g₁, hc, hrest⟩ := Option.bind_eq_some_iff.1 hcs
    have hfirst : g₁.Tame := h.call hc fun sender o g₂ heq hgranted =>
      hsound [] sender o cs g g₂ (by rw [heq]; rfl) rfl hgranted
    -- A request of the rest of the run is one of the whole run, with one call more before it.
    refine ih hfirst (fun before sender o rest g₂ g₃ heq hbefore hgranted => ?_) hrest
    refine hsound (c :: before) sender o rest g₂ g₃ (by rw [heq]; rfl) ?_ hgranted
    show (g.call? c).bind (·.calls? before) = some g₂
    rw [hc]
    exact hbefore

/-- Where all requests that are granted are sound, the first ones are. -/
theorem SteeredSoundly.of_append {cs cs' : List Call} (h : g.SteeredSoundly (cs ++ cs')) :
    g.SteeredSoundly cs := by
  intro before sender o rest g₁ g₂ heq
  exact h before sender o (rest ++ cs') g₁ g₂ (by rw [heq]; simp)

/-- A request that is granted and not sound leaves a piece with no number. -/
theorem exists_isNaN_of_steer (h : g.steer sender o = .ok g') (hnot : ¬ o.Sound) :
    ∃ p ∈ g'.pieces, p.acceleration.x.isNaN = true := by
  obtain ⟨i, p, hp, _, rfl⟩ := exists_steer h
  have hi := (List.getElem?_eq_some_iff.1 hp).1
  exact ⟨{ p with acceleration := o.acceleration }, List.mem_of_getElem? (List.getElem?_set_self hi),
    SteerOrder.isNaN_acceleration hnot⟩

/-- If no number is lost at any point of a run, all requests granted in it are sound. -/
theorem steeredSoundly_of_forall {cs : List Call}
    (h : ∀ before rest g₁, cs = before ++ rest → g.calls? before = some g₁ →
      ∀ p ∈ g₁.pieces, p.acceleration.x.isNaN = false) : g.SteeredSoundly cs := by
  intro before sender o rest g₁ g₂ heq hbefore hgranted
  by_contra hnot
  -- Otherwise a number is lost right after the request.
  obtain ⟨p, hp, hnan⟩ := exists_isNaN_of_steer hgranted hnot
  have hafter : g.calls? (before ++ [.steer sender o]) = some g₂ := by
    rw [calls?_concat, hbefore]
    show some ((g₁.steer sender o).toOption.getD g₁) = some g₂
    rw [hgranted]
    rfl
  rw [h (before ++ [.steer sender o]) rest g₂ (by rw [heq]; simp) hafter p hp] at hnan
  cases hnan

end Game

/-- Whether a place, a velocity and an acceleration are numbers. -/
structure Piece.Numeric (p : Piece) : Prop where
  /-- The place. -/
  position : p.position.x.isNaN = false ∧ p.position.y.isNaN = false
  /-- The velocity. -/
  velocity : p.velocity.x.isNaN = false ∧ p.velocity.y.isNaN = false
  /-- The acceleration. -/
  acceleration : p.acceleration.x.isNaN = false ∧ p.acceleration.y.isNaN = false

/-- A piece whose motion is finite has it in numbers. -/
theorem Piece.Finite.numeric {p : Piece} (h : p.Finite) : p.Numeric where
  position := h.position.imp Single.isNaN_of_isFinite Single.isNaN_of_isFinite
  velocity := h.velocity.imp Single.isNaN_of_isFinite Single.isNaN_of_isFinite
  acceleration := h.acceleration.imp Single.isNaN_of_isFinite Single.isNaN_of_isFinite

namespace Station

open Game

/-- **When numbers stay numbers.** A request to steer that is granted sets the acceleration of one
piece, and what it sets is finite and in bounds exactly if the angle is finite and the strength is a
number. Take any run of starts, steps and requests after a level has been loaded. Every place, every
velocity and every acceleration is finite all along exactly if all requests to steer that are granted
are of this kind, and it is a number all along exactly under the same condition. -/
theorem steering_finite_iff {s : Station} {level : UInt32} {loaded : Game}
    (hload : (s.load level).game = some loaded) :
    (∀ (g g' : Game) (sender : PlayerId) (o : SteerOrder), g.steer sender o = .ok g' →
      ∃ (i : Nat) (p : Piece), g.pieces[i]? = some p ∧ p.state.owner = sender ∧
        g' = { g with pieces := g.pieces.set i { p with acceleration := o.acceleration } } ∧
        (((o.acceleration.x.isFinite = true ∧ o.acceleration.y.isFinite = true) ∧
            o.acceleration.x.abs ≤ maxAcceleration ∧ o.acceleration.y.abs ≤ maxAcceleration) ↔
          o.angle.isFinite = true ∧ o.strength.isNaN = false)) ∧
    ∀ cs : List Game.Call,
      ((∀ before rest g, cs = before ++ rest → loaded.calls? before = some g →
          ∀ p ∈ g.pieces, p.Finite) ↔ loaded.SteeredSoundly cs) ∧
      ((∀ before rest g, cs = before ++ rest → loaded.calls? before = some g →
          ∀ p ∈ g.pieces, p.Numeric) ↔ loaded.SteeredSoundly cs) := by
  -- The game of a level is in bounds, and sound orders keep it there.
  have hfinite {cs : List Game.Call} (hsound : loaded.SteeredSoundly cs) :
      ∀ before rest g, cs = before ++ rest → loaded.calls? before = some g →
        ∀ p ∈ g.pieces, p.Finite := by
    rintro before rest g rfl hg p hp
    exact (((tame_load hload).calls hsound.of_append hg).pieces p hp).finite
  refine ⟨fun g g' sender o hgranted => ?_, fun cs => ⟨⟨fun h => ?_, hfinite⟩, fun h => ?_, ?_⟩⟩
  · obtain ⟨i, p, hp, howner, hg'⟩ := exists_steer hgranted
    exact ⟨i, p, hp, howner, hg', SteerOrder.acceleration_finite_iff⟩
  · -- Conversely, an order that is not sound shows in the drive of the piece that obeys it.
    exact steeredSoundly_of_forall fun before rest g heq hg p hp =>
      (h before rest g heq hg p hp).numeric.acceleration.1
  · exact steeredSoundly_of_forall fun before rest g heq hg p hp =>
      (h before rest g heq hg p hp).acceleration.1
  · exact fun hsound before rest g heq hg p hp => (hfinite hsound before rest g heq hg p hp).numeric

/-- A player who steers to the right at full strength. -/
theorem steering_finite_iff_right :
    let s := Station.authority .server {}
    let cs := [Game.Call.start, .steer .firstClient ⟨0, 0, 1⟩, .step (.ofMillis 20)]
    ∃ loaded, (s.load 1).game = some loaded ∧
      ∀ before rest g, cs = before ++ rest → loaded.calls? before = some g →
        ∀ p ∈ g.pieces, p.Finite := by
  intro s cs
  have hsome : (s.load 1).game.isSome = true := by decide +kernel
  obtain ⟨loaded, hload⟩ := Option.isSome_iff_exists.1 hsome
  refine ⟨loaded, hload, ((steering_finite_iff hload).2 cs).1.2 ?_⟩
  intro before sender o rest g₁ g₂ heq _ _
  have hmem : Game.Call.steer sender o ∈ cs := heq ▸ List.mem_append_right _ List.mem_cons_self
  have heq : sender = .firstClient ∧ o = ⟨0, 0, 1⟩ := by simpa [cs] using hmem
  rw [heq.2]
  decide +kernel

/-- A strength that is no number, and an infinite angle: one step later the piece is nowhere. -/
theorem steering_loses_place :
    let run (o : SteerOrder) := ((Station.authority .detached {}).load 1).game.bind
      (·.calls? [.start, .steer .firstClient o, .step (.ofMillis 20)])
    let lost := fun g : Game => g.pieces.head?.map fun p =>
      [p.acceleration.x.isNaN, p.velocity.x.isNaN, p.position.x.isNaN]
    (run ⟨0, 0, ⟨0x7fc00000⟩⟩).bind lost = some [true, true, true] ∧
      (run ⟨0, ⟨0x7f800000⟩, 1⟩).bind lost = some [true, true, true] := by
  decide +kernel

end Station

end Pursuit
