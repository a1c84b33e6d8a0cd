import Pursuit.Numeric.Rounding
import Pursuit.Proofs.Caps

/-! # The number nearest to a quotient

A number of the format is a sign with a pattern of 31 bits, and the sizes of the patterns grow with
them. Rounding takes the pattern whose size is closest, and of two that are equally close the even one.
An infinity takes part as if it were the power of two after the largest number: that is where overflow
begins.

* **`Single.magnitude`** — the size that a pattern counts for.
* **`Single.Nearest`** — the number that a size is rounded to. **`Single.Nearest.unique`**: there is but
  one.
* **`Single.nearest_ofRatio`** — a quotient is rounded to the number nearest to it. -/

namespace Pursuit

open Float.Model (Format UnpackedFloat totalExponent)
open Float.Model.UnpackedFloat

/-! ## Whole numbers -/

/-- The whole number nearest to a rational one, an exact half rounded to the even neighbour. -/
structure NearestWhole (t : ℚ) (r : Nat) : Prop where
  within : |(r : ℚ) - t| ≤ 1 / 2
  even : |(r : ℚ) - t| = 1 / 2 → r % 2 = 0

namespace NearestWhole

variable {t : ℚ} {r k : Nat}

/-- Any other whole number is at least as far away as half a unit. -/
theorem half_le (h : NearestWhole t r) (hk : k ≠ r) : 1 / 2 ≤ |(k : ℚ) - t| := by
  have hwithin := abs_le.1 h.within
  rcases Nat.lt_or_gt_of_ne hk with hlt | hlt
  · have hlt : (k : ℚ) + 1 ≤ r := by exact_mod_cast hlt
    exact le_abs.2 (.inr (by linarith))
  · have hlt : (r : ℚ) + 1 ≤ k := by exact_mod_cast hlt
    exact le_abs.2 (.inl (by linarith))

/-- No whole number is closer than the nearest. -/
theorem closest (h : NearestWhole t r) (k : Nat) : |(r : ℚ) - t| ≤ |(k : ℚ) - t| := by
  by_cases hk : k = r
  · rw [hk]
  · exact h.within.trans (h.half_le hk)

/-- If another whole number is as close as the nearest, that is even. -/
theorem even_of_eq (h : NearestWhole t r) (hk : k ≠ r) (heq : |(r : ℚ) - t| = |(k : ℚ) - t|) :
    r % 2 = 0 :=
  h.even (le_antisymm h.within (heq ▸ h.half_le hk))

/-- Rounding does not lead over a whole number. -/
theorem le_of_le (h : NearestWhole t r) (ht : t ≤ k) : r ≤ k := by
  have hwithin := abs_le.1 h.within
  have hlt : (r : ℚ) < k + 1 := by linarith
  exact Nat.lt_succ_iff.1 (by exact_mod_cast hlt)

/-- Rounding takes nothing below a whole number that it has reached. -/
theorem le_of_ge (h : NearestWhole t r) (ht : k ≤ t) : k ≤ r := by
  have hwithin := abs_le.1 h.within
  have hlt : (k : ℚ) < r + 1 := by linarith
  exact Nat.lt_succ_iff.1 (by exact_mod_cast hlt)

end NearestWhole

/-- Halves are told by comparing twice the rest with the divisor. -/
theorem nearestWhole_roundHalfEven (num : Nat) {den : Nat} (hden : 0 < den) :
    NearestWhole (num / den) (roundHalfEven num den) := by
  have hpos : (0 : ℚ) < den := by exact_mod_cast hden
  have hdiv := Nat.div_add_mod num den
  have hmod := Nat.mod_lt num hden
  unfold roundHalfEven
  extract_lets quotient rest
  have hrest : rest = 2 * (num % den) := rfl
  have hnum : (num : ℚ) / den = quotient + rest / (2 * den) := by
    have : (num : ℚ) = den * quotient + rest / 2 := by
      have hcast : ((den * quotient + num % den : Nat) : ℚ) = num := by exact_mod_cast hdiv
      rw [← hcast, hrest]
      push_cast
      ring
    rw [this]
    field_simp
  rw [hnum]
  clear_value quotient rest
  have hdouble : (0 : ℚ) < 2 * den := by linarith
  have hnonneg : (0 : ℚ) ≤ rest / (2 * den) := by positivity
  split
  · -- The rest is less than half a unit.
    rename_i hless
    have hless : (rest : ℚ) / (2 * den) < 1 / 2 := by
      rw [div_lt_iff₀ hdouble]
      have : (rest : ℚ) < den := by exact_mod_cast hless
      linarith
    have habs : |(quotient : ℚ) - (quotient + rest / (2 * den))| < 1 / 2 :=
      abs_lt.2 ⟨by linarith, by linarith⟩
    exact ⟨habs.le, fun h => absurd h habs.ne⟩
  · split
    · -- It is more than half a unit.
      rename_i hmore
      have hmore : 1 / 2 < (rest : ℚ) / (2 * den) := by
        rw [lt_div_iff₀ hdouble]
        have : (den : ℚ) < rest := by exact_mod_cast hmore
        linarith
      have hone : (rest : ℚ) / (2 * den) < 1 := by
        rw [div_lt_one hdouble]
        exact_mod_cast (show rest < 2 * den by omega)
      have habs : |((quotient + 1 : Nat) : ℚ) - (quotient + rest / (2 * den))| < 1 / 2 := by
        push_cast
        exact abs_lt.2 ⟨by linarith, by linarith⟩
      exact ⟨habs.le, fun h => absurd h habs.ne⟩
    · -- It is half a unit, and both neighbours are equally close.
      rename_i hless hmore
      have hhalf : (rest : ℚ) / (2 * den) = 1 / 2 := by
        rw [show rest = den by omega]
        field_simp
      rw [hhalf]
      refine ⟨?_, fun _ => by omega⟩
      rcases Nat.mod_two_eq_zero_or_one quotient with h | h <;> rw [h, abs_le] <;>
        constructor <;> push_cast <;> linarith

namespace Single

/-! ## The exponent of a quotient -/

/-- A whole number has reached the power of two of its first digit. -/
theorem two_zpow_log2_le {n : Nat} (hn : n ≠ 0) : (2 : ℚ) ^ (n.log2 : Int) ≤ n := by
  rw [zpow_natCast]
  exact_mod_cast Nat.log2_self_le hn

/-- A whole number is below the power of two after its first digit. -/
theorem lt_two_zpow_log2 (n : Nat) : (n : ℚ) < 2 ^ ((n.log2 : Int) + 1) := by
  have h : (n : ℚ) < 2 ^ (n.log2 + 1) := by exact_mod_cast Nat.lt_log2_self
  rwa [← zpow_natCast, Nat.cast_succ] at h

/-- Whether a quotient reaches a power of two can be told in whole numbers. -/
theorem reaches_iff (num : Nat) {den : Nat} (hden : den ≠ 0) (e : Int) :
    (if 0 ≤ e then den <<< e.toNat ≤ num else den ≤ num <<< (-e).toNat) ↔
      (2 : ℚ) ^ e ≤ num / den := by
  have hpos : (0 : ℚ) < den := by exact_mod_cast Nat.pos_of_ne_zero hden
  rw [le_div_iff₀ hpos]
  split
  · rename_i he
    obtain ⟨k, rfl⟩ := Int.eq_ofNat_of_zero_le he
    rw [Int.toNat_natCast, Nat.shiftLeft_eq, zpow_natCast, mul_comm]
    norm_cast
  · rename_i he
    obtain ⟨k, hk⟩ := Int.eq_ofNat_of_zero_le (show 0 ≤ -e by omega)
    obtain rfl : e = -k := by omega
    rw [neg_neg, Int.toNat_natCast, Nat.shiftLeft_eq, zpow_neg, zpow_natCast,
      inv_mul_le_iff₀ (by positivity), mul_comm]
    norm_cast

/-- The exponent of a quotient is that of the greatest power of two that it reaches. -/
theorem binaryExponent_spec {num den : Nat} (hnum : num ≠ 0) (hden : den ≠ 0) :
    (2 : ℚ) ^ binaryExponent num den ≤ num / den ∧
      (num : ℚ) / den < 2 ^ (binaryExponent num den + 1) := by
  have hpos : (0 : ℚ) < den := by exact_mod_cast Nat.pos_of_ne_zero hden
  have hreaches := reaches_iff num hden ((num.log2 : Int) - den.log2)
  unfold binaryExponent
  extract_lets guess reached
  change reached ↔ _ at hreaches
  -- Either side is less than twice the power of two that its length tells, so the exponent is the
  -- guess or one less.
  split
  · rename_i h
    refine ⟨hreaches.1 h, ?_⟩
    rw [div_lt_iff₀ hpos]
    calc (num : ℚ) < 2 ^ ((num.log2 : Int) + 1) := lt_two_zpow_log2 num
      _ = 2 ^ (guess + 1) * 2 ^ (den.log2 : Int) := by
        rw [← zpow_add₀ (by decide)]
        congr 1
        omega
      _ ≤ 2 ^ (guess + 1) * den :=
        mul_le_mul_of_nonneg_left (two_zpow_log2_le hden) (two_zpow_pos _).le
  · rename_i h
    rw [hreaches, not_le] at h
    refine ⟨?_, by rwa [Int.sub_add_cancel]⟩
    rw [le_div_iff₀ hpos]
    calc (2 : ℚ) ^ (guess - 1) * den ≤ 2 ^ (guess - 1) * 2 ^ ((den.log2 : Int) + 1) :=
          mul_le_mul_of_nonneg_left (lt_two_zpow_log2 den).le (two_zpow_pos _).le
      _ = 2 ^ (num.log2 : Int) := by
        rw [← zpow_add₀ (by decide)]
        congr 1
        omega
      _ ≤ num := two_zpow_log2_le hnum

/-! ## The sizes of patterns -/

/-- The size that a pattern counts for. That of an infinity is the power of two after the largest
number. -/
def magnitude (x : Single) : ℚ := size x.significand.1 x.significand.2

/-- A mantissa with its exponent as a pattern holds them, or one unit above the longest mantissa. -/
structure Canonical (m : Nat) (e : Int) : Prop where
  least : -149 ≤ e
  most : m ≤ 2 ^ 24
  full : 2 ^ 23 ≤ m ∨ e = -149

/-- Every pattern is the place of a mantissa with an exponent. -/
theorem exists_canonical (x : Single) :
    ∃ m e, Canonical m e ∧ m < 2 ^ 24 ∧ (x.magnitudeBits.toNat : Int) = (e + 149) * 2 ^ 23 + m ∧
      x.magnitude = size m e := by
  have hfield : (x.magnitudeBits >>> 23).toNat = x.bits.toNat % 2 ^ 31 / 2 ^ 23 := by
    rw [UInt32.toNat_shiftRight, toNat_magnitudeBits, Nat.shiftRight_eq_div_pow]
    rfl
  have hfraction : (x.bits &&& 0x007fffff).toNat = x.bits.toNat % 2 ^ 23 := by
    rw [UInt32.toNat_and]
    exact Nat.and_two_pow_sub_one_eq_mod x.bits.toNat 23
  rw [toNat_magnitudeBits, magnitude, significand]
  simp only [hfield, hfraction]
  split
  · exact ⟨_, -149, ⟨by omega, by omega, .inr rfl⟩, by omega, by omega, rfl⟩
  · exact ⟨_, _, ⟨by omega, by omega, .inl (by omega)⟩, by omega, by omega, rfl⟩

/-- The size of a pattern, from any mantissa and exponent that lead to it. -/
theorem magnitude_eq {x : Single} {m : Nat} {e : Int} (h : Canonical m e)
    (hx : (x.magnitudeBits.toNat : Int) = (e + 149) * 2 ^ 23 + m) : x.magnitude = size m e := by
  obtain ⟨m', e', ⟨hleast', _, hfull'⟩, hlt', hx', hsize⟩ := exists_canonical x
  obtain ⟨hleast, hmost, hfull⟩ := h
  rw [hsize]
  rcases Nat.lt_or_eq_of_le hmost with hlt | rfl
  · obtain rfl : e' = e := by omega
    obtain rfl : m' = m := by omega
    rfl
  · -- One unit above the longest mantissa begins the next exponent.
    obtain rfl : e' = e + 1 := by omega
    obtain rfl : m' = 2 ^ 23 := by omega
    exact (size_mul_two_pow (2 ^ 23) 1 e).symm

/-- **Sizes grow with the patterns.** -/
theorem magnitude_lt {x y : Single} (h : x.magnitudeBits.toNat < y.magnitudeBits.toNat) :
    x.magnitude < y.magnitude := by
  obtain ⟨m, e, ⟨hleast, _, hfull⟩, hlt, hx, hsize⟩ := exists_canonical x
  obtain ⟨m', e', ⟨hleast', _, hfull'⟩, hlt', hy, hsize'⟩ := exists_canonical y
  rw [hsize, hsize']
  rcases Int.lt_trichotomy e e' with he | rfl | he
  · -- Above the least exponent a mantissa has no leading zeros.
    exact size_lt_size hlt (hfull'.resolve_right (by omega)) (by omega)
  · exact size_lt_iff.2 (by omega)
  · omega

/-- Sizes grow with the patterns. -/
theorem magnitude_le {x y : Single} (h : x.magnitudeBits.toNat ≤ y.magnitudeBits.toNat) :
    x.magnitude ≤ y.magnitude := by
  by_contra hlt
  have hne : x.magnitudeBits.toNat ≠ y.magnitudeBits.toNat := by
    intro heq
    obtain ⟨m, e, hcanonical, _, hx, hsize⟩ := exists_canonical x
    exact hlt (le_of_eq (hsize.trans (magnitude_eq hcanonical (heq ▸ hx)).symm))
  exact hlt (magnitude_lt (Nat.lt_of_le_of_ne h hne)).le

/-- The patterns of numbers are those up to that of an infinity. -/
theorem isNaN_eq_false_iff_le (x : Single) :
    x.isNaN = false ↔ x.magnitudeBits.toNat ≤ 0x7f800000 := by
  rw [isNaN, decide_eq_false_iff_not, gt_iff_lt, UInt32.lt_iff_toNat_lt, Nat.not_lt]
  rfl

/-! ## The nearest number -/

/-- The number that a size is rounded to: none is closer, and if another one is as close, its pattern is
even. -/
structure Nearest (negative : Bool) (q : ℚ) (x : Single) : Prop where
  isNegative : x.isNegative = negative
  isNaN : x.isNaN = false
  closest : ∀ y : Single, y.isNaN = false → |x.magnitude - q| ≤ |y.magnitude - q|
  even : ∀ y : Single, y.isNaN = false → y.magnitude ≠ x.magnitude →
    |x.magnitude - q| = |y.magnitude - q| → x.bits.toNat % 2 = 0

/-- The number with a sign and a pattern. -/
def ofPattern (negative : Bool) (p : Nat) : Single :=
  ⟨(if negative then 0x80000000 else 0) + UInt32.ofNat p⟩

/-- An infinity has the first pattern after those of the finite numbers. -/
theorem infinity_eq (negative : Bool) : infinity negative = ofPattern negative 0x7f800000 := by
  cases negative <;> rfl

/-- A zero has the first pattern of all. -/
theorem zero_eq (negative : Bool) : zero negative = ofPattern negative 0 := by
  cases negative <;> rfl

/-- The bits of a number are its pattern, with the sign in front. -/
theorem toNat_bits_ofPattern (negative : Bool) {p : Nat} (hp : p < 2 ^ 31) :
    (ofPattern negative p).bits.toNat = (if negative then 2 ^ 31 else 0) + p := by
  have hofNat : (UInt32.ofNat p).toNat = p := by
    rw [UInt32.toNat_ofNat']
    omega
  cases negative
  · rw [ofPattern, if_neg Bool.false_ne_true, if_neg Bool.false_ne_true, UInt32.zero_add, hofNat,
      Nat.zero_add]
  · rw [ofPattern, if_pos rfl, if_pos rfl, UInt32.toNat_add, hofNat]
    show (2 ^ 31 + p) % 2 ^ 32 = _
    omega

/-- The bits of a number without its sign are its pattern. -/
theorem magnitudeBits_ofPattern (negative : Bool) {p : Nat} (hp : p < 2 ^ 31) :
    (ofPattern negative p).magnitudeBits.toNat = p := by
  rw [toNat_magnitudeBits, toNat_bits_ofPattern negative hp]
  split <;> omega

/-- A number is negative exactly if its first bit is set. -/
theorem isNegative_iff (x : Single) : x.isNegative = true ↔ 2 ^ 31 ≤ x.bits.toNat := by
  rw [isNegative, decide_eq_true_eq, ge_iff_le, UInt32.le_iff_toNat_le]
  rfl

/-- The number with a sign has it. -/
theorem isNegative_ofPattern (negative : Bool) {p : Nat} (hp : p < 2 ^ 31) :
    (ofPattern negative p).isNegative = negative := by
  rw [Bool.eq_iff_iff, isNegative_iff, toNat_bits_ofPattern negative hp]
  cases negative
  · simpa using hp
  · simp

/-- A number is its sign with its pattern. -/
theorem eq_of_magnitudeBits {x y : Single} (hsign : x.isNegative = y.isNegative)
    (h : x.magnitudeBits.toNat = y.magnitudeBits.toNat) : x = y := by
  rw [toNat_magnitudeBits, toNat_magnitudeBits] at h
  rw [Bool.eq_iff_iff, isNegative_iff, isNegative_iff] at hsign
  have hx := x.bits.toNat_lt
  have hy := y.bits.toNat_lt
  have heq : x.bits.toNat = y.bits.toNat := by omega
  cases x
  cases y
  exact congrArg Single.mk (UInt32.toNat_inj.1 heq)

/-- What is between two equally distant numbers is closer than they are. -/
theorem abs_sub_lt_of_between {a b c q : ℚ} (hab : a < b) (hbc : b < c) (h : |a - q| = |c - q|) :
    |b - q| < |a - q| := by
  rcases abs_eq_abs.1 h with heq | heq
  · linarith
  · rw [abs_of_neg (show a - q < 0 by linarith)]
    exact abs_lt.2 ⟨by linarith, by linarith⟩

/-- **What is no greater than a number is rounded to none that is greater.** -/
theorem Nearest.magnitudeBits_le_of_le {negative : Bool} {q : ℚ} {x y : Single}
    (h : Nearest negative q x) (hy : y.isNaN = false) (hq : q ≤ y.magnitude) :
    x.magnitudeBits.toNat ≤ y.magnitudeBits.toNat := by
  by_contra hlt
  have hless := magnitude_lt (Nat.lt_of_not_le hlt)
  have hclosest := h.closest y hy
  rw [abs_of_nonneg (by linarith), abs_of_nonneg (by linarith)] at hclosest
  linarith

/-- Of two nearest numbers none has the greater pattern. -/
theorem Nearest.magnitudeBits_le {negative : Bool} {q : ℚ} {x y : Single}
    (hx : Nearest negative q x) (hy : Nearest negative q y) :
    y.magnitudeBits.toNat ≤ x.magnitudeBits.toNat := by
  by_contra hlt
  rw [Nat.not_le] at hlt
  have hless := magnitude_lt hlt
  have heq := le_antisymm (hx.closest y hy.isNaN) (hy.closest x hx.isNaN)
  have hevenx := hx.even y hy.isNaN hless.ne' heq
  have heveny := hy.even x hx.isNaN hless.ne heq.symm
  rw [toNat_magnitudeBits, toNat_magnitudeBits] at hlt
  -- Both patterns are even, so there is one between them, and it would be closer than either.
  have hbound := (isNaN_eq_false_iff_le y).1 hy.isNaN
  rw [toNat_magnitudeBits] at hbound
  obtain ⟨z, hz⟩ : ∃ z : Single, z.magnitudeBits.toNat = x.bits.toNat % 2 ^ 31 + 1 :=
    ⟨_, magnitudeBits_ofPattern false (by omega)⟩
  have hlow : x.magnitude < z.magnitude := magnitude_lt (by rw [toNat_magnitudeBits x]; omega)
  have hhigh : z.magnitude < y.magnitude := magnitude_lt (by rw [toNat_magnitudeBits y]; omega)
  have hcloser := abs_sub_lt_of_between hlow hhigh heq
  exact absurd (hx.closest z ((isNaN_eq_false_iff_le z).2 (by omega))) (not_le.2 hcloser)

/-- **There is but one nearest number.** -/
theorem Nearest.unique {negative : Bool} {q : ℚ} {x y : Single} (hx : Nearest negative q x)
    (hy : Nearest negative q y) : x = y :=
  eq_of_magnitudeBits (hx.isNegative.trans hy.isNegative.symm)
    (Nat.le_antisymm (hy.magnitudeBits_le hx) (hx.magnitudeBits_le hy))

/-! ## Rounding a quotient -/

section

variable {m : Nat} {e : Int} {q : ℚ}

/-- Sizes that are whole multiples of one unit are in the distances of the multiples. -/
theorem abs_size_sub (k : Nat) (e : Int) (q : ℚ) :
    |size k e - q| = |(k : ℚ) - q / 2 ^ e| * 2 ^ e := by
  rw [← abs_of_pos (two_zpow_pos e), ← abs_mul, abs_of_pos (two_zpow_pos e), sub_mul,
    div_mul_cancel₀ _ (two_zpow_pos e).ne', size]

/-- A pattern stands for a multiple of the unit, or for less than the least mantissa without leading
zeros. -/
theorem exists_size_or_lt (e : Int) (y : Single) :
    (∃ k, y.magnitude = size k e) ∨ e ≠ -149 ∧ y.magnitude < size (2 ^ 23) e := by
  obtain ⟨m', e', ⟨hleast', _, hfull'⟩, hlt', _, hsize'⟩ := exists_canonical y
  rw [hsize']
  rcases lt_or_ge e' e with h | h
  · refine .inr ⟨by omega, ?_⟩
    exact size_lt_size hlt' (le_refl (2 ^ 23)) (by omega)
  · obtain ⟨d, rfl⟩ : ∃ d : Nat, e' = e + d := ⟨(e' - e).toNat, by omega⟩
    exact .inl ⟨m' * 2 ^ d, (size_mul_two_pow m' d e).symm⟩

/-- The nearest multiple of the unit is closer than any number of the format. -/
theorem closest_of_nearestWhole (hm : NearestWhole (q / 2 ^ e) m)
    (hfull : e = -149 ∨ size (2 ^ 23) e ≤ q) (y : Single) :
    |size m e - q| ≤ |y.magnitude - q| ∧
      (y.magnitude ≠ size m e → |size m e - q| = |y.magnitude - q| → m % 2 = 0) := by
  have hclosest (k : Nat) : |size m e - q| ≤ |size k e - q| := by
    rw [abs_size_sub, abs_size_sub]
    exact mul_le_mul_of_nonneg_right (hm.closest k) (two_zpow_pos e).le
  rcases exists_size_or_lt e y with ⟨k, hk⟩ | ⟨hne, hlt⟩
  · rw [hk]
    refine ⟨hclosest k, fun hne heq => ?_⟩
    rw [abs_size_sub, abs_size_sub] at heq
    exact hm.even_of_eq (fun h => hne (h ▸ rfl)) (mul_right_cancel₀ (two_zpow_pos e).ne' heq)
  · -- The least mantissa without leading zeros stands between the two.
    have hq := hfull.resolve_left hne
    have hfarther : |size (2 ^ 23) e - q| < |y.magnitude - q| := by
      rw [abs_of_nonpos (by linarith), abs_of_neg (by linarith)]
      linarith
    have hlt := (hclosest (2 ^ 23)).trans_lt hfarther
    exact ⟨hlt.le, fun _ heq => absurd heq hlt.ne⟩

/-- The number that a multiple of the unit leads to is nearest to what it has been rounded from. -/
theorem nearest_ofPattern (negative : Bool) (hm : NearestWhole (q / 2 ^ e) m)
    (hcanonical : Canonical m e) (hfull : e = -149 ∨ size (2 ^ 23) e ≤ q) {p : Nat}
    (hp : (p : Int) = (e + 149) * 2 ^ 23 + m) (hmost : p ≤ 0x7f800000) :
    Nearest negative q (ofPattern negative p) := by
  have hlt : p < 2 ^ 31 := by omega
  have hbits := magnitudeBits_ofPattern negative hlt
  have hmagnitude : (ofPattern negative p).magnitude = size m e :=
    magnitude_eq hcanonical (by rw [hbits, hp])
  have hclosest := closest_of_nearestWhole hm hfull
  refine ⟨isNegative_ofPattern negative hlt, (isNaN_eq_false_iff_le _).2 (by rwa [hbits]), ?_, ?_⟩
  · intro y _
    rw [hmagnitude]
    exact (hclosest y).1
  · intro y _ hne heq
    rw [hmagnitude] at hne heq
    have heven := (hclosest y).2 hne heq
    rw [toNat_bits_ofPattern negative hlt]
    split <;> omega

/-- An infinity counts for the power of two after the largest number. -/
theorem magnitude_infinity (negative : Bool) : (infinity negative).magnitude = 2 ^ (128 : Int) := by
  rw [infinity_eq, magnitude_eq (m := 2 ^ 23) (e := 105) ⟨by decide, by decide, .inl le_rfl⟩
    (by rw [magnitudeBits_ofPattern negative (by decide)]; rfl), size_two_pow]
  rfl

/-- What reaches the power of two after the largest number is infinite. -/
theorem nearest_infinity (negative : Bool) (hq : 2 ^ (128 : Int) ≤ q) :
    Nearest negative q (infinity negative) := by
  have hbits : (infinity negative).magnitudeBits.toNat = 0x7f800000 := by
    rw [infinity_eq, magnitudeBits_ofPattern negative (by decide)]
  have hle (y : Single) (hy : y.isNaN = false) : y.magnitude ≤ 2 ^ (128 : Int) := by
    rw [← magnitude_infinity negative]
    exact magnitude_le (hbits ▸ (isNaN_eq_false_iff_le y).1 hy)
  refine ⟨by cases negative <;> rfl, (isNaN_eq_false_iff_le _).2 hbits.le, ?_, ?_⟩
  · intro y hy
    have hle := hle y hy
    rw [magnitude_infinity, abs_of_nonpos (by linarith), abs_of_nonpos (by linarith)]
    linarith
  · intro y _ _ _
    cases negative <;> rfl

/-- Nothing at all is rounded to zero, with its sign. -/
theorem nearest_zero (negative : Bool) (hq : q = 0) : Nearest negative q (zero negative) := by
  rw [zero_eq]
  refine nearest_ofPattern (m := 0) (e := -149) negative ?_ ⟨le_rfl, by decide, .inr rfl⟩ (.inl rfl)
    rfl (by decide)
  rw [hq, zero_div]
  exact ⟨by norm_num, fun _ => rfl⟩

end

/-- A quotient in units of a power of two, rounded in whole numbers. -/
theorem nearestWhole_scaled (num : Nat) {den : Nat} (hden : den ≠ 0) (e : Int) :
    NearestWhole ((num : ℚ) / den / 2 ^ e)
      (if 0 ≤ e then roundHalfEven num (den <<< e.toNat)
        else roundHalfEven (num <<< (-e).toNat) den) := by
  have hpos : 0 < den := Nat.pos_of_ne_zero hden
  split
  · rename_i he
    obtain ⟨k, rfl⟩ := Int.eq_ofNat_of_zero_le he
    have h := nearestWhole_roundHalfEven num (show 0 < den * 2 ^ k by positivity)
    rwa [Nat.cast_mul, Nat.cast_pow, Nat.cast_ofNat, ← div_div, ← zpow_natCast,
      ← Nat.shiftLeft_eq] at h
  · rename_i he
    obtain ⟨k, hk⟩ := Int.eq_ofNat_of_zero_le (show 0 ≤ -e by omega)
    obtain rfl : e = -k := by omega
    have h := nearestWhole_roundHalfEven (num * 2 ^ k) hpos
    rw [neg_neg, Int.toNat_natCast]
    rwa [Nat.cast_mul, Nat.cast_pow, Nat.cast_ofNat, mul_div_right_comm, ← div_inv_eq_mul,
      ← zpow_natCast, ← zpow_neg, ← Nat.shiftLeft_eq] at h

/-- **A quotient is rounded to the number nearest to it.** -/
theorem nearest_ofRatio (negative : Bool) (num : Nat) {den : Nat} (hden : den ≠ 0) :
    Nearest negative (num / den) (ofRatio negative num den) := by
  by_cases hnum : num = 0
  · rw [ofRatio, if_pos hnum]
    exact nearest_zero negative (by rw [hnum, Nat.cast_zero, zero_div])
  obtain ⟨hreached, hnext⟩ := binaryExponent_spec hnum hden
  unfold ofRatio
  rw [if_neg hnum]
  extract_lets unit multiple pattern
  have hunit : unit = max (-149) (binaryExponent num den - 23) := rfl
  have hpattern : pattern = (unit + 149).toNat * 0x800000 + multiple := rfl
  have hmultiple : NearestWhole (num / den / 2 ^ unit) multiple :=
    nearestWhole_scaled num hden unit
  clear_value unit multiple pattern
  -- In this unit the quotient has 24 digits in front of the point, unless there is no smaller unit.
  have hfull : unit = -149 ∨ size (2 ^ 23) unit ≤ (num : ℚ) / den := by
    rcases lt_or_ge (-149) unit with h | h
    · rw [size_two_pow]
      exact .inr ((two_zpow_le (by push_cast; omega)).trans hreached)
    · exact .inl (by omega)
  have hcanonical : Canonical multiple unit := by
    refine ⟨by omega, hmultiple.le_of_le ?_, hfull.symm.imp_left fun h => hmultiple.le_of_ge ?_⟩
    · rw [div_le_iff₀ (two_zpow_pos unit)]
      refine hnext.le.trans ((two_zpow_le ?_).trans_eq (size_two_pow 24 unit).symm)
      push_cast
      omega
    · rwa [le_div_iff₀ (two_zpow_pos unit)]
  have hleast := hcanonical.least
  have hmost := hcanonical.most
  split
  · -- What is rounded up from the largest mantissa leads to the pattern of infinity, and only greater
    -- units lead beyond it.
    rename_i hoverflow
    rcases Nat.lt_or_eq_of_le hoverflow with hlt | heq
    · have hfull := hfull.resolve_left (by omega)
      rw [size_two_pow] at hfull
      exact nearest_infinity negative ((two_zpow_le (by push_cast; omega)).trans hfull)
    · rw [infinity_eq]
      exact nearest_ofPattern negative hmultiple hcanonical hfull (by omega) le_rfl
  · exact nearest_ofPattern negative hmultiple hcanonical hfull (by omega) (by omega)

end Single

end Pursuit
