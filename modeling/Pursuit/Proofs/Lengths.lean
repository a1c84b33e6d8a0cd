import Pursuit.Arena.Piece
import Pursuit.Proofs.Caps

/-! # Vectors and their lengths

No vector is much shorter than one of its coordinates, as long as its square does not vanish. So a
vector that is divided by its length has coordinates of at most two, however large or small it was,
and turning a velocity at an obstacle lets it grow by a fixed factor at most.

* **`Vec.AtMost`** — both coordinates are capped.
* **`Vec.exists_upFrom_length`** — the length of a vector against its coordinates.
* **`Vec.AtMost.div_length`, `Vec.AtMost.of_normalize?`, `Vec.AtMost.clampLength`** — vectors of a
  bounded length. -/

namespace Pursuit

open Float.Model (Format UnpackedFloat totalExponent)
open Float.Model.UnpackedFloat

namespace Single

/-! ## Sums that are not negative -/

/-- Rounding makes nothing negative. -/
theorem notNegative_round {m : Nat} {e : Int} : NotNegative (round .binary32 .positive m e) := by
  obtain ⟨d, _, heq⟩ := round_eq .positive m e
  rw [heq, roundWithAccuracy_eq, cut]
  split <;> trivial

/-- A sum of numbers that are not negative is not negative. -/
theorem notNegative_add {u v : UnpackedFloat} (hu : NotNegative u) (hv : NotNegative v) :
    NotNegative (.add .binary32 u v) := by
  match u, v with
  | .notANumber, _ => exact hu.elim
  | _, .notANumber => exact hv.elim
  | .zero s₁, .zero s₂ => cases s₁ <;> cases s₂ <;> trivial
  | .zero _, .infinity _ | .zero _, .finite .. => exact hv
  | .infinity _, .zero _ | .finite .., .zero _ => exact hu
  | .infinity s₁, .infinity s₂ => cases hu; cases hv; rfl
  | .infinity _, .finite .. => exact hu
  | .finite .., .infinity _ => exact hv
  | .finite s₁ m₁ e₁ _, .finite s₂ m₂ e₂ _ =>
    cases hu
    cases hv
    show NotNegative (UnpackedFloat.normalize .binary32 ((_ : Nat) + (_ : Nat) : Int) _ _)
    rw [← Int.natCast_add]
    generalize m₁ <<< (e₁ - min e₁ e₂).toNat + m₂ <<< (e₂ - min e₁ e₂).toNat = n
    rcases normalize_eq n (min e₁ e₂) .positive with ⟨_, heq⟩ | ⟨hn, heq⟩ <;> rw [heq]
    · trivial
    · rw [if_pos (by omega)]
      exact notNegative_round

/-- A stored sum of numbers that are not negative is not negative. -/
theorem NotNegative.add {x y : Single} (hx : NotNegative x.value) (hy : NotNegative y.value) :
    NotNegative (x + y).value := by
  rw [value_add]
  exact (notNegative_add hx hy).stored
    (rounded_add (storable_value x).rounded (storable_value y).rounded)

/-- What is not negative and not zero has reached the least number. -/
theorem NotNegative.upFrom {x : Single} (h : NotNegative x.value) (hne : ∀ s, x.value ≠ .zero s) :
    UpFrom (-148) x.value := by
  have hstorable := storable_value x
  generalize x.value = u at h hne hstorable
  match u with
  | .notANumber => exact h.elim
  | .zero s => exact absurd rfl (hne s)
  | .infinity _ => exact h
  | .finite s m e hm =>
    obtain ⟨⟨_, _, _⟩, _⟩ := hstorable
    refine ⟨h, ?_⟩
    rw [totalExponent]
    omega

/-- A sum of squares is not negative. -/
theorem notNegative_squares {x y : Single} (hx : x.isNaN = false) (hy : y.isNaN = false) :
    NotNegative (x * x + y * y).value :=
  (notNegative_mul_self hx).add (notNegative_mul_self hy)

/-- The root of a sum of squares is at least about as great as each side, down to where squares
vanish. -/
theorem exists_upFrom_sqrt {x y : Single} {b : ℚ} (hx : AtMost b x.value) (hy : y.isNaN = false)
    (hsum : UpFrom (-148) (x * x + y * y).value) :
    ∃ k : Int, -74 ≤ k ∧ k ≤ 128 ∧ UpFrom k (x * x + y * y).sqrt.value ∧
      AtMost (2 ^ k) x.value := by
  rcases below_or_upFrom (-74) ((isNaN_eq_false_iff x).1 hx.isNaN) with hlow | hup
  · exact ⟨-74, by decide, by decide, hsum.sqrt (by decide) (by decide), hlow.atMost⟩
  · have hstorable := storable_value x
    -- From here on squares are no smaller than they should be, and the other side adds to them.
    have hsquare {k : Int} (h : UpFrom k x.value.abs) (hk : -73 ≤ k) :
        UpFrom k (x * x + y * y).sqrt.value := by
      have hself : UpFrom (2 * k - 1) (x * x).value := h.mul_self (by omega) (by omega)
      exact (hself.add (notNegative_mul_self hy) (by omega)).sqrt (by omega) (by omega)
    generalize x.value = u at hx hup hstorable hsquare
    match u with
    | .zero _ => exact hup.elim
    | .infinity _ | .notANumber => exact hx.elim
    | .finite s m e hm =>
      obtain ⟨⟨hlt, _, _⟩, _⟩ := hstorable
      have hlog := (Nat.log2_lt (Nat.ne_of_gt hm)).2 hlt
      have hup : -74 + 1 ≤ totalExponent m e := hup.2
      refine ⟨totalExponent m e, by omega, ?_, hsquare ⟨rfl, le_rfl⟩ (by omega),
        size_le_two_zpow le_rfl⟩
      rw [totalExponent]
      omega

end Single

namespace Vec

/-- Whether both coordinates are capped. -/
structure AtMost (b : ℚ) (v : Vec) : Prop where
  /-- The horizontal one is. -/
  x : Single.AtMost b v.x.value
  /-- The vertical one is. -/
  y : Single.AtMost b v.y.value

open Single (Representable UpFrom NotNegative)

variable {v w : Vec} {s : Single} {a b c : ℚ}

namespace AtMost

/-- Coordinates that are capped are capped by anything larger. -/
theorem mono (h : v.AtMost a) (hab : a ≤ b) : v.AtMost b := ⟨h.x.mono hab, h.y.mono hab⟩

/-- A sum of vectors is capped by the sum of their caps, if that can be represented. -/
theorem add (hv : v.AtMost a) (hw : w.AtMost b) (hc : Representable c) (h : a + b ≤ c) :
    (v + w).AtMost c :=
  ⟨hv.x.add hw.x hc h, hv.y.add hw.y hc h⟩

/-- A difference of vectors is capped by the sum of their caps, if that can be represented. -/
theorem sub (hv : v.AtMost a) (hw : w.AtMost b) (hc : Representable c) (h : a + b ≤ c) :
    (v - w).AtMost c :=
  ⟨hv.x.sub hw.x hc h, hv.y.sub hw.y hc h⟩

/-- A vector times a number is capped by the product of their caps, if that can be represented. -/
theorem mul (hv : v.AtMost a) (hs : Single.AtMost b s.value) (hc : Representable c)
    (h : a * b ≤ c) : (v * s).AtMost c :=
  ⟨hv.x.mul hs hc h, hv.y.mul hs hc h⟩

end AtMost

/-- The product of two vectors is capped by twice the product of their caps, as far as that can be
represented. -/
theorem AtMost.dot {d : ℚ} (hv : v.AtMost a) (hw : w.AtMost b) (hc : Representable c)
    (h : a * b ≤ c) (hd : Representable d) (h' : c + c ≤ d) : Single.AtMost d (v.dot w).value :=
  (hv.x.mul hw.x hc h).add (hv.y.mul hw.y hc h) hd h'

/-- The square of a vector is not negative. -/
theorem AtMost.notNegative_dot (hv : v.AtMost a) : NotNegative (v.dot v).value :=
  Single.notNegative_squares hv.x.isNaN hv.y.isNaN

/-- **A vector is about as long as each of its coordinates**, unless its square vanishes. -/
theorem exists_upFrom_length (hv : v.AtMost a) (hsquare : UpFrom (-148) (v.dot v).value) :
    (∃ k : Int, -74 ≤ k ∧ k ≤ 128 ∧ UpFrom k v.length.value ∧ Single.AtMost (2 ^ k) v.x.value) ∧
      ∃ k : Int, -74 ≤ k ∧ k ≤ 128 ∧ UpFrom k v.length.value ∧ Single.AtMost (2 ^ k) v.y.value := by
  have hx := hv.x.isNaN
  have hy := hv.y.isNaN
  refine ⟨Single.exists_upFrom_sqrt hv.x hy hsquare, ?_⟩
  -- The sum has the same value the other way round.
  have hcomm := Single.value_add_comm (v.x * v.x) (v.y * v.y)
  have hsquare' : UpFrom (-148) (v.y * v.y + v.x * v.x).value := hcomm ▸ hsquare
  obtain ⟨k, hlow, hhigh, hup, hcap⟩ := Single.exists_upFrom_sqrt hv.y hx hsquare'
  refine ⟨k, hlow, hhigh, ?_, hcap⟩
  rw [Single.value_sqrt] at hup
  rw [length, dot, Single.value_sqrt, hcomm]
  exact hup

/-- A power of two is twice the one before it. -/
theorem two_zpow_eq (k : Int) : (2 : ℚ) ^ k = 2 * 2 ^ (k - 1) := by
  rw [zpow_sub_one₀ (by decide)]
  ring

/-- A vector over its length. -/
theorem AtMost.div_length (hv : v.AtMost a) (hsquare : UpFrom (-148) (v.dot v).value) :
    (v / v.length).AtMost 2 := by
  obtain ⟨⟨_, _, _, hup, hcap⟩, ⟨_, _, _, hup', hcap'⟩⟩ := exists_upFrom_length hv hsquare
  exact ⟨hcap.div hup Single.representable_two (two_zpow_eq _).le,
    hcap'.div hup' Single.representable_two (two_zpow_eq _).le⟩

/-- A coordinate times the reciprocal of the length. -/
theorem atMost_mul_reciprocal {x length : Single} {k : Int} (hlow : -74 ≤ k) (hhigh : k ≤ 128)
    (hup : UpFrom k length.value) (hcap : Single.AtMost (2 ^ k) x.value) :
    Single.AtMost 2 (x * (1 / length)).value := by
  have hreciprocal : Single.AtMost (2 ^ (1 - k)) (1 / length).value := by
    refine Single.atMost_one.div hup (Single.representable_two_zpow (by omega) (by omega)) ?_
    rw [← zpow_add₀ (by decide), show 1 - k + (k - 1) = 0 by omega, zpow_zero]
  refine hcap.mul hreciprocal Single.representable_two ?_
  rw [← zpow_add₀ (by decide), show k + (1 - k) = 1 by omega, zpow_one]

/-- A vector whose length is not zero has a square that is not. -/
theorem AtMost.upFrom_dot (hv : v.AtMost a) (hne : ∀ s, v.length.value ≠ .zero s) :
    UpFrom (-148) (v.dot v).value := by
  refine hv.notNegative_dot.upFrom fun s hzero => hne s ?_
  rw [length, Single.value_sqrt, hzero]
  exact Single.stored_zero s

/-- A vector that has a length has a square that is not zero. -/
theorem AtMost.upFrom_dot_of_length {k : Int} (hv : v.AtMost a) (h : UpFrom k v.length.value) :
    UpFrom (-148) (v.dot v).value := by
  refine hv.upFrom_dot fun s hzero => ?_
  rw [hzero] at h
  exact h

/-- A vector that has a direction has a length: the reciprocal of no length is infinite. -/
theorem AtMost.upFrom_dot_of_normalize? (hv : v.AtMost a) (h : v.normalize? = some w) :
    UpFrom (-148) (v.dot v).value := by
  refine hv.upFrom_dot fun s hzero => ?_
  have hfinite : (1 / v.length).isFinite = true := by
    unfold normalize? at h
    simp only [Option.ite_none_right_eq_some] at h
    exact h.1.1
  obtain ⟨b, hb⟩ := (Single.isFinite_iff _).1 hfinite
  have hone : (1 : Single).value = .finite .positive 8388608 (-23) (by decide) := rfl
  rw [Single.value_div, hzero, hone] at hb
  cases s <;> exact hb

/-- A vector that is normalized has coordinates of two at most. -/
theorem AtMost.of_normalize? (hv : v.AtMost a) (h : v.normalize? = some w) : w.AtMost 2 := by
  obtain ⟨⟨_, hlow, hhigh, hup, hcap⟩, ⟨_, hlow', hhigh', hup', hcap'⟩⟩ :=
    exists_upFrom_length hv (hv.upFrom_dot_of_normalize? h)
  unfold normalize? at h
  simp only [Option.ite_none_right_eq_some, Option.some_inj] at h
  obtain ⟨_, rfl⟩ := h
  exact ⟨atMost_mul_reciprocal hlow hhigh hup hcap, atMost_mul_reciprocal hlow' hhigh' hup' hcap'⟩

end Vec

namespace Arena

open Single

/-- The greatest speed is in bounds. -/
theorem atMost_maxVelocity : AtMost 110 maxVelocity.value := by
  show size 14417920 (-17) ≤ 110
  rw [size]
  norm_num

end Arena

namespace Vec

open Single (Representable UpFrom)
open Arena (maxVelocity)

/-- Where the square of a vector is no greater than the square of the greatest speed, the vector is
in bounds itself. -/
theorem atMost_of_not_lt {v : Vec} {a : ℚ} (hv : v.AtMost a)
    (h : ¬ maxVelocity * maxVelocity < v.dot v) : v.AtMost (2 ^ 8) := by
  have hlimit : Single.Below 14 (maxVelocity * maxVelocity).value := by decide +kernel
  have hnan : (maxVelocity * maxVelocity).isNaN = false := by decide +kernel
  have hx := hv.x.isNaN
  have hy := hv.y.isNaN
  have hsum : (v.dot v).isNaN = false := by
    rw [Single.isNaN_eq_false_iff]
    intro hsum
    have := hv.notNegative_dot
    rw [hsum] at this
    exact this
  have hle := Single.le_of_not_lt hnan hsum h
  -- A part out of bounds would alone take the square beyond that of the greatest speed.
  have hbound (hup : UpFrom 15 (v.x * v.x + v.y * v.y).value) : False :=
    (hup.of_le hle).not_below (by decide) hlimit
  have hcap {x : Single} (hx : x.isNaN = false) (hsquare : ¬ UpFrom (8 + 1) x.value.abs) :
      Single.AtMost (2 ^ 8) x.value :=
    ((Single.below_or_upFrom 8
      ((Single.isNaN_eq_false_iff x).1 hx)).resolve_right hsquare).atMost_two_pow
  constructor
  · refine hcap hx fun hup => hbound ?_
    exact (hup.mul_self (by decide) (by decide)).add (Single.notNegative_mul_self hy) (by decide)
  · refine hcap hy fun hup => hbound ?_
    rw [Single.value_add_comm]
    exact (hup.mul_self (by decide) (by decide)).add (Single.notNegative_mul_self hx) (by decide)

/-- **A velocity that has been capped is in bounds**, whatever it was. -/
theorem AtMost.clampLength {v : Vec} {a : ℚ} (hv : v.AtMost a) :
    (v.clampLength maxVelocity).AtMost (2 ^ 8) := by
  unfold Vec.clampLength
  extract_lets squared direction
  split
  · -- What is longer than the greatest speed has a square that does not vanish.
    rename_i hlt
    have hlimit : UpFrom 14 (maxVelocity * maxVelocity).value := by decide +kernel
    have hdirection : direction.AtMost 2 := hv.div_length ((hlimit.of_lt hlt).mono (by decide))
    have hrep := Single.representable_two_pow (k := 8) (by decide)
    exact ⟨Arena.atMost_maxVelocity.mul hdirection.x hrep (by norm_num),
      Arena.atMost_maxVelocity.mul hdirection.y hrep (by norm_num)⟩
  · rename_i hnot
    exact atMost_of_not_lt hv hnot

end Vec

end Pursuit
