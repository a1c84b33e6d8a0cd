import Pursuit.Numeric.Trigonometry
import Pursuit.Proofs.Roundings

/-! # Sines between minus one and one

The series are summed in whole numbers and the sum is kept within one before it is rounded. What is at
most one before it is rounded is at most one afterwards. So whatever error the series may have, the
sine and the cosine of a finite angle are numbers between minus one and one.

* **`Single.magnitudeBits_ofRatio_le`** — a quotient of at most one, rounded.
* **`Single.atMost_cos`, `Single.atMost_sin`** — the bounds.
* **`Single.isNaN_cos_iff`** — the angles that have no cosine. -/

namespace Pursuit

open Float.Model (Format UnpackedFloat totalExponent)
open Float.Model.UnpackedFloat

namespace Single

/-- **A quotient of at most one is rounded to at most one.** -/
theorem magnitudeBits_ofRatio_le (negative : Bool) {n p : Nat} (h : n ≤ 2 ^ p) :
    (ofRatio negative n (2 ^ p)).magnitudeBits.toNat ≤ 127 * 2 ^ 23 := by
  have hone : (⟨0x3f800000⟩ : Single).magnitude = 1 := by
    rw [magnitude_eq (m := 2 ^ 23) (e := -23) ⟨by decide, by decide, .inl le_rfl⟩ (by decide), size]
    norm_num
  have hquotient : (n : ℚ) / (2 ^ p : Nat) ≤ (⟨0x3f800000⟩ : Single).magnitude := by
    rw [hone, div_le_one (by exact_mod_cast Nat.two_pow_pos p)]
    exact_mod_cast h
  exact (nearest_ofRatio negative n (Nat.two_pow_pos p).ne').magnitudeBits_le_of_le (by decide)
    hquotient

/-- The patterns of the numbers between minus one and one. -/
theorem atMost_one_of_magnitudeBits {x : Single} (h : x.magnitudeBits.toNat ≤ 127 * 2 ^ 23) :
    AtMost 1 x.value := by
  rw [toNat_magnitudeBits] at h
  have hexp := toNat_unpackExponent x
  have hman := toNat_unpackMantissa x
  unfold value
  -- The exponent tells an infinity or no number, zero, a tiny number and an ordinary one apart.
  fun_cases unpack with
  | case1 mvec evec svec s hmax =>
    -- The highest exponent is above all patterns up to one.
    have hfield : evec.toNat = 255 := by rw [hmax]; rfl
    have hfield' : evec.toNat = x.bits.toNat / 2 ^ 23 % 2 ^ 8 := hexp
    omega
  | case2 mvec evec hmax =>
    have hfield : evec.toNat = 255 := by rw [hmax]; rfl
    have hfield' : evec.toNat = x.bits.toNat / 2 ^ 23 % 2 ^ 8 := hexp
    omega
  | case3 => exact zero_le_one
  | case4 mvec evec e svec s hmax hzero hm =>
    -- A tiny number has no digit in front of its mantissa.
    have hlt : mvec.toNat < 2 ^ 23 := mvec.isLt
    have he : e = -150 := by
      show (evec.toNat : Int) - 150 = _
      rw [hzero]; rfl
    refine (size_lt_of_lt hlt).le.trans ?_
    rw [he]
    norm_num
  | case5 mvec evec e svec s hmax hzero =>
    have hm : (1#1 ++ mvec).toNat = 2 ^ 23 + mvec.toNat := toNat_one_append mvec
    have he : e = (evec.toNat : Int) - 150 := rfl
    have hevec : evec.toNat = x.bits.toNat / 2 ^ 23 % 2 ^ 8 := hexp
    have hmvec : mvec.toNat = x.bits.toNat % 2 ^ 23 := hman
    have hlt : mvec.toNat < 2 ^ 23 := mvec.isLt
    show size (1#1 ++ mvec).toNat e ≤ 1
    rcases Nat.lt_or_ge evec.toNat 127 with hsmall | hlarge
    · -- Below the exponent of one, no mantissa reaches one.
      have hlt' : (1#1 ++ mvec).toNat < 2 ^ 24 := by omega
      refine (size_lt_of_lt hlt').le.trans ((two_zpow_le (b := 0) ?_).trans_eq (zpow_zero 2))
      push_cast
      omega
    · -- At the exponent of one, the mantissa has to be one itself.
      have hone : (1#1 ++ mvec).toNat = 2 ^ 23 := by omega
      have hexponent : e = -23 := by omega
      rw [hone, hexponent, size_two_pow]
      norm_num

/-- One is a power of two in fixed point. -/
theorem one_eq_two_pow : Angle.one = ((2 ^ Angle.places : Nat) : Int) :=
  (Int.natCast_pow 2 _).symm

/-- What is at most one in fixed point is at most one when it is rounded. -/
theorem atMost_ofFixedPoint {n : Int} (h : -Angle.one ≤ n) (h' : n ≤ Angle.one) :
    AtMost 1 (ofFixedPoint n).value := by
  have hle : n.natAbs ≤ 2 ^ Angle.places := by
    rw [one_eq_two_pow] at h h'
    generalize 2 ^ Angle.places = k at h h' ⊢
    omega
  rw [ofFixedPoint, Nat.pow_eq]
  generalize Angle.places = p at hle ⊢
  exact atMost_one_of_magnitudeBits (magnitudeBits_ofRatio_le _ hle)

/-- Every sine is at most one. -/
theorem atMost_sineOf (quarters rest : Int) :
    AtMost 1 (ofFixedPoint (Angle.sineOf quarters rest)).value := by
  have hone : (0 : Int) ≤ Angle.one := by
    rw [one_eq_two_pow]
    exact Int.natCast_nonneg _
  unfold Angle.sineOf
  extract_lets n
  exact atMost_ofFixedPoint (Int.le_max_left _ _)
    (Int.max_le.2 ⟨Int.le_trans (Int.neg_nonpos_of_nonneg hone) hone, Int.min_le_left _ _⟩)

/-- **The cosine of a finite angle is between minus one and one.** -/
theorem atMost_cos {x : Single} (h : x.isFinite = true) : AtMost 1 x.cos.value := by
  rw [cos, if_neg (by simp [isNaN_of_isFinite h]), if_neg (by simp [h])]
  exact atMost_sineOf _ _

/-- **So is its sine.** -/
theorem atMost_sin {x : Single} (h : x.isFinite = true) : AtMost 1 x.sin.value := by
  rw [sin, if_neg (by simp [isNaN_of_isFinite h]), if_neg (by simp [h])]
  split
  · rename_i hzero
    refine atMost_one_of_magnitudeBits ?_
    rw [hzero]
    decide
  · exact atMost_sineOf _ _

/-- What is no number is none when it is quieted. -/
theorem isNaN_quiet {x : Single} (h : x.isNaN = true) : x.quiet.isNaN = true :=
  (isNaN_iff _).2 (value_quiet h)

/-- An angle has a cosine if it is finite, and only then. -/
theorem isNaN_cos_iff (x : Single) : x.cos.isNaN = true ↔ x.isFinite = false := by
  cases h : x.isFinite with
  | true =>
    have hcos := (atMost_cos h).isFinite
    simp [isNaN_of_isFinite hcos]
  | false =>
    refine iff_of_true ?_ rfl
    rw [cos]
    split
    · rename_i hx
      exact isNaN_quiet hx
    · rw [if_pos (by simp [h])]
      exact isNaN_invalid

end Single

end Pursuit
