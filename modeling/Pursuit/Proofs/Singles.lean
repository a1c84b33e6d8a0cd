import Mathlib
import Pursuit.Numeric.Single

/-! # Single-precision numbers as what they stand for

A number is its pattern, and every operation reads the patterns, works on what they stand for and
stores the result in a pattern again. Here the three are taken apart.

* **`Single.value`** — what a pattern stands for: a sign with a mantissa and an exponent, a zero, an
  infinity, or no number.
* **`Single.stored`** — what a number becomes in a pattern. **`Single.stored_finite`**: one that is
  `Single.Rounded` stays as it is, or is too great and becomes infinite.
* **`Single.value_add`** and its like — the value of a result is the model's result, stored.
* **`Single.rank`** — where a number stands in the order of all numbers. **`Single.lt_iff_rank`** and
  **`Single.le_iff_rank`**: what is no number aside, the order is that of the ranks. -/

namespace Pursuit

open Float.Model (Format UnpackedFloat totalExponent)
open Float.Model.UnpackedFloat

namespace Single

/-- The number that a pattern stands for, in the parts that arithmetic works on. -/
def value (x : Single) : UnpackedFloat := unpack .binary32 x.bits.toBitVec

/-- A number as it is read back once it has been stored in a pattern. -/
def stored (u : UnpackedFloat) : UnpackedFloat := unpack .binary32 (pack .binary32 u)

/-- Whether a number has no more digits than it may have, and no fewer unless it is tiny. -/
def Rounded : UnpackedFloat → Prop
  | .finite _ m e _ => m < 2 ^ 24 ∧ -149 ≤ e ∧ (2 ^ 23 ≤ m ∨ e = -149)
  | _ => True

/-- Whether a pattern can stand for the number: it is rounded and not too great. -/
def Storable : UnpackedFloat → Prop
  | .finite s m e h => Rounded (.finite s m e h) ∧ e ≤ 104
  | _ => True

/-- What a pattern can stand for is rounded. -/
theorem Storable.rounded {u : UnpackedFloat} (h : Storable u) : Rounded u := by
  cases u with
  | finite => exact h.1
  | _ => trivial

/-! ## Reading -/

/-- The exponent of a pattern is in the eight bits in front of the last 23. -/
theorem toNat_unpackExponent (x : Single) :
    (@unpackExponent .binary32 x.bits.toBitVec).toNat = x.bits.toNat / 2 ^ 23 % 2 ^ 8 := by
  rw [unpackExponent_def, BitVec.extractLsb'_toNat, Nat.shiftRight_eq_div_pow]
  rfl

/-- The mantissa of a pattern is in its last 23 bits. -/
theorem toNat_unpackMantissa (x : Single) :
    (@unpackMantissa .binary32 x.bits.toBitVec).toNat = x.bits.toNat % 2 ^ 23 := by
  rw [unpackMantissa_def, BitVec.extractLsb'_toNat, Nat.shiftRight_zero]
  rfl

/-- A pattern without its sign is what its last 31 bits make. -/
theorem toNat_magnitudeBits (x : Single) : x.magnitudeBits.toNat = x.bits.toNat % 2 ^ 31 := by
  rw [magnitudeBits, UInt32.toNat_and]
  exact Nat.and_two_pow_sub_one_eq_mod x.bits.toNat 31

/-- A leading one in front of a mantissa. -/
theorem toNat_one_append (mv : BitVec 23) : (1#1 ++ mv).toNat = 2 ^ 23 + mv.toNat := by
  rw [BitVec.toNat_append]
  exact (Nat.two_pow_add_eq_or_of_lt mv.isLt 1).symm

/-- A pattern stands for no number exactly if its bits say so. -/
theorem value_eq_notANumber_iff (x : Single) :
    x.value = .notANumber ↔ @isNaNBits .binary32 x.bits.toBitVec = true := by
  rw [isNaNBits, decide_eq_true_eq, value]
  fun_cases UnpackedFloat.unpack <;> simp_all +zetaDelta

/-- The patterns that stand for no number are told by their bits. -/
theorem isNaN_iff (x : Single) : x.isNaN = true ↔ x.value = .notANumber := by
  have hexp : @unpackExponent .binary32 x.bits.toBitVec = -1#8 ↔
      x.bits.toNat / 2 ^ 23 % 2 ^ 8 = 255 := by
    rw [← toNat_unpackExponent, ← BitVec.toNat_inj]; rfl
  have hman : @unpackMantissa .binary32 x.bits.toBitVec = 0#23 ↔
      x.bits.toNat % 2 ^ 23 = 0 := by
    rw [← toNat_unpackMantissa, ← BitVec.toNat_inj]; rfl
  rw [value_eq_notANumber_iff, isNaNBits, decide_eq_true_eq, hexp, ne_eq, hman, isNaN,
    decide_eq_true_eq, gt_iff_lt, UInt32.lt_iff_toNat_lt, toNat_magnitudeBits]
  change 0x7f800000 < _ ↔ _
  omega

/-- What a pattern stands for is what a pattern can stand for. -/
theorem storable_value (x : Single) : Storable x.value := by
  unfold value
  fun_cases unpack with
  | case1 | case2 | case3 => trivial
  | case4 mvec evec e svec s h hzero hm =>
    have hlt : mvec.toNat < 2 ^ 23 := mvec.isLt
    have he : e = -150 := by
      show (evec.toNat : Int) - 150 = _
      rw [hzero]; rfl
    exact ⟨⟨by omega, by omega, .inr (by omega)⟩, by omega⟩
  | case5 mvec evec e svec s hmax hzero =>
    have hlt : mvec.toNat < 2 ^ 23 := mvec.isLt
    have hm : (1#1 ++ mvec).toNat = 2 ^ 23 + mvec.toNat := toNat_one_append mvec
    have he : e = (evec.toNat : Int) - 150 := rfl
    have hpos : evec.toNat ≠ 0 := fun h => hzero (BitVec.eq_of_toNat_eq h)
    have htop : evec.toNat ≠ 255 := fun h => hmax (BitVec.eq_of_toNat_eq h)
    have hbyte : evec.toNat < 2 ^ 8 := evec.isLt
    exact ⟨⟨by omega, by omega, .inl (by omega)⟩, by omega⟩

/-- To be a number is to stand for one. -/
theorem isNaN_eq_false_iff (x : Single) : x.isNaN = false ↔ x.value ≠ .notANumber := by
  rw [← Bool.not_eq_true, isNaN_iff]

/-! ## Storing -/

/-- What has been read from a pattern is stored as it is. -/
theorem stored_value (x : Single) : stored x.value = x.value := by
  unfold stored value
  rw [pack_unpack]
  split
  · rename_i h
    rw [unpack_packedNaN, ((value_eq_notANumber_iff x).2 h).symm, value]
  · rfl

/-- An infinity is stored as it is. -/
theorem stored_infinity (s : Sign) : stored (.infinity s) = .infinity s := by
  cases s <;> rfl

/-- A zero is stored as it is, with its sign. -/
theorem stored_zero (s : Sign) : stored (.zero s) = .zero s := unpack_packedZero

/-- What is no number is none when it is stored. -/
theorem stored_notANumber : stored .notANumber = .notANumber := unpack_packedNaN

/-- A field of the middle size stands for an exponent, above a mantissa with a leading one. -/
theorem unpack_packComponents_normal (s : Sign) {n : Nat} (hn : 0 < n ∧ n < 255) (mv : BitVec 23) :
    UnpackedFloat.unpack .binary32 (packComponents .binary32 s (BitVec.ofNat 8 n) mv) =
      .finite s (2 ^ 23 + mv.toNat) (n - 150) (by omega) := by
  have hexp : (BitVec.ofNat 8 n).toNat = n := Nat.mod_eq_of_lt (by omega)
  have hmax : BitVec.ofNat 8 n ≠ -1#8 := fun h => by
    have := hexp.symm.trans (congrArg BitVec.toNat h)
    exact absurd this (by show n ≠ 255; omega)
  have hzero : BitVec.ofNat 8 n ≠ 0#8 := fun h => by
    have := hexp.symm.trans (congrArg BitVec.toNat h)
    exact absurd this (by show n ≠ 0; omega)
  rw [UnpackedFloat.unpack]
  simp only [unpackExponent_packComponents, unpackMantissa_packComponents,
    unpackSign_packComponents, Sign.ofBitVec_toBitVec]
  rw [if_neg hmax, if_neg hzero, UnpackedFloat.finite.injEq]
  refine ⟨rfl, toNat_one_append mv, ?_⟩
  show ((BitVec.ofNat 8 n).toNat : Int) - 150 = n - 150
  rw [hexp]

/-- The field zero stands for the least exponent, above a mantissa without a leading one. -/
theorem unpack_packComponents_subnormal (s : Sign) {mv : BitVec 23} (h : 0 < mv.toNat) :
    UnpackedFloat.unpack .binary32 (packComponents .binary32 s 0#8 mv) =
      .finite s mv.toNat (-149) h := by
  have hne : mv ≠ 0#23 := fun hmv => by rw [hmv] at h; exact absurd h (by decide)
  rw [UnpackedFloat.unpack]
  simp only [unpackExponent_packComponents, unpackMantissa_packComponents,
    unpackSign_packComponents, Sign.ofBitVec_toBitVec]
  rw [if_neg (by decide), if_pos trivial, dif_neg hne]
  rfl

/-- A rounded number is stored as it is, unless it is too great. -/
theorem stored_finite {s : Sign} {m : Nat} {e : Int} (h : 0 < m) (hr : Rounded (.finite s m e h)) :
    stored (.finite s m e h) = if e ≤ 104 then .finite s m e h else .infinity s := by
  obtain ⟨hm, he, hfull⟩ := hr
  have hbias : (e + Format.binary32.exponentBias + Format.binary32.mantissaBitsWithoutImplicit) =
      e + 150 := by
    simp only [Format.exponentBias]; omega
  have hlog : m.log2 + 1 = Format.binary32.mantissaBits ↔ 2 ^ 23 ≤ m := by
    show m.log2 + 1 = 24 ↔ _
    rw [← Nat.le_log2 (by omega)]
    have := (Nat.log2_lt (by omega)).2 hm
    omega
  simp only [stored, pack, hbias, hlog]
  by_cases htop : e ≤ 104
  · have hsmall : ¬ 2 ^ Format.binary32.exponentBits ≤ (e + 150).toNat + 1 := by
      show ¬ 256 ≤ _
      omega
    rw [if_neg hsmall, if_pos htop]
    -- A normal number leaves its leading digit out, a subnormal one has all its digits written.
    by_cases hnormal : 2 ^ 23 ≤ m
    · rw [if_pos hnormal]
      refine (unpack_packComponents_normal s (by omega) _).trans ?_
      rw [UnpackedFloat.finite.injEq, BitVec.toNat_ofNat]
      exact ⟨rfl, by omega, by omega⟩
    · have hman : (BitVec.ofNat 23 m).toNat = m := Nat.mod_eq_of_lt (by omega)
      rw [if_neg hnormal]
      refine (unpack_packComponents_subnormal s (by rwa [hman])).trans ?_
      rw [UnpackedFloat.finite.injEq, hman]
      exact ⟨rfl, rfl, by omega⟩
  · have hbig : 2 ^ Format.binary32.exponentBits ≤ (e + 150).toNat + 1 := by
      show 256 ≤ _
      omega
    -- No greater exponent fits its field.
    rw [if_pos hbig, if_neg htop]
    exact stored_infinity s

/-! ## Operations -/

/-- The result of an operation stands for what the operation computes. -/
theorem value_ofResult (r : Float32) : (ofResult r).value = r.toModel.unpack := by
  rw [ofResult]
  split
  · rename_i h
    rw [isNaN_iff] at h
    exact h.symm
  · rfl

/-- An operation works on what the pattern stands for. -/
theorem unpack_toFloat32 (x : Single) : x.toFloat32.toModel.unpack = x.value := stored_value x

/-- A pattern that stands for no number stands for none when it is quieted. -/
theorem value_quiet {x : Single} (h : x.isNaN = true) : x.quiet.value = .notANumber := by
  rw [← isNaN_iff]
  rw [isNaN, decide_eq_true_eq, gt_iff_lt, UInt32.lt_iff_toNat_lt, toNat_magnitudeBits] at h ⊢
  refine Nat.lt_of_lt_of_le h ?_
  rw [quiet, UInt32.toNat_or, Nat.or_mod_two_pow]
  exact Nat.left_le_or

/-- An operation with two sides that passes on what is no number: its value is the model's result,
stored. -/
theorem value_arith (op : Float32 → Float32 → Float32)
    (model : UnpackedFloat → UnpackedFloat → UnpackedFloat)
    (hop : ∀ r s, (op r s).toModel.unpack = stored (model r.toModel.unpack s.toModel.unpack))
    (hleft : ∀ u, model .notANumber u = .notANumber)
    (hright : ∀ u, model u .notANumber = .notANumber) (x y : Single) :
    (arith op x y).value = stored (model x.value y.value) := by
  by_cases hx : x.isNaN = true
  · rw [arith_of_isNaN_left op y hx, value_quiet hx, (isNaN_iff x).1 hx, hleft, stored_notANumber]
  by_cases hy : y.isNaN = true
  · rw [arith_of_isNaN_right op (by simpa using hx) hy, value_quiet hy, (isNaN_iff y).1 hy, hright,
      stored_notANumber]
  · rw [arith, if_neg hx, if_neg hy, value_ofResult, hop, unpack_toFloat32, unpack_toFloat32]

/-- A sum is the sum of what the patterns stand for, stored. -/
theorem value_add (x y : Single) : (x + y).value = stored (.add .binary32 x.value y.value) :=
  value_arith (· + ·) (UnpackedFloat.add .binary32) (fun _ _ => rfl) (fun _ => rfl)
    (fun u => by cases u <;> rfl) x y

/-- A difference is the difference of what the patterns stand for, stored. -/
theorem value_sub (x y : Single) : (x - y).value = stored (.sub .binary32 x.value y.value) :=
  value_arith (· - ·) (UnpackedFloat.sub .binary32) (fun _ _ => rfl) (fun _ => rfl)
    (fun u => by cases u <;> rfl) x y

/-- A product is the product of what the patterns stand for, stored. -/
theorem value_mul (x y : Single) : (x * y).value = stored (.mul .binary32 x.value y.value) :=
  value_arith (· * ·) (UnpackedFloat.mul .binary32) (fun _ _ => rfl) (fun _ => rfl)
    (fun u => by cases u <;> rfl) x y

/-- A quotient is the quotient of what the patterns stand for, stored. -/
theorem value_div (x y : Single) : (x / y).value = stored (.div .binary32 x.value y.value) :=
  value_arith (· / ·) (UnpackedFloat.div .binary32) (fun _ _ => rfl) (fun _ => rfl)
    (fun u => by cases u <;> rfl) x y

/-- A square root is the square root of what the pattern stands for, stored. -/
theorem value_sqrt (x : Single) : x.sqrt.value = stored (.sqrt .binary32 x.value) := by
  by_cases hx : x.isNaN = true
  · rw [sqrt, if_pos hx, value_quiet hx, (isNaN_iff x).1 hx]
    exact stored_notANumber.symm
  · rw [sqrt, if_neg hx, value_ofResult, ← unpack_toFloat32]
    rfl

/-- A whole number is normalized and stored. -/
theorem value_ofUInt64 (n : UInt64) :
    (ofUInt64 n).value = stored (.normalize .binary32 n.toNat 0 .positive) := rfl

/-- An absolute value is that of what the pattern stands for. -/
theorem value_abs (x : Single) : x.abs.value = x.value.abs := by
  have hbits : x.abs.bits.toNat = x.bits.toNat % 2 ^ 31 := toNat_magnitudeBits x
  have hexp : @unpackExponent .binary32 x.abs.bits.toBitVec =
      @unpackExponent .binary32 x.bits.toBitVec := by
    refine BitVec.eq_of_toNat_eq ?_
    rw [toNat_unpackExponent, toNat_unpackExponent, hbits]
    omega
  have hman : @unpackMantissa .binary32 x.abs.bits.toBitVec =
      @unpackMantissa .binary32 x.bits.toBitVec := by
    refine BitVec.eq_of_toNat_eq ?_
    rw [toNat_unpackMantissa, toNat_unpackMantissa, hbits]
    omega
  have hsign : @unpackSign .binary32 x.abs.bits.toBitVec = 0#1 := by
    refine BitVec.eq_of_toNat_eq ?_
    rw [unpackSign_def, BitVec.extractLsb'_toNat, Nat.shiftRight_eq_div_pow]
    show x.abs.bits.toNat / 2 ^ 31 % 2 = 0
    omega
  unfold value UnpackedFloat.unpack
  simp only [hexp, hman, hsign]
  split_ifs <;> rfl

/-! ## Order -/

/-- Patterns are compared as what they stand for. -/
theorem lt_iff (x y : Single) : x < y ↔ x.value.lt y.value = true := by
  rw [← unpack_toFloat32, ← unpack_toFloat32]
  exact decide_eq_true_iff

/-- Whether one pattern is at most another one is a matter of what they stand for. -/
theorem le_iff (x y : Single) : x ≤ y ↔ x.value.le y.value = true := by
  rw [← unpack_toFloat32, ← unpack_toFloat32]
  exact decide_eq_true_iff

/-- Where a number stands among all numbers: by its sign, then by its exponent, then by its
mantissa. -/
def rank : UnpackedFloat → Int
  | .infinity s => s.apply (256 * 2 ^ 24)
  | .notANumber | .zero _ => 0
  | .finite s m e _ => s.apply ((e + 150) * 2 ^ 24 + m)

/-- An exponent and then a mantissa are compared as one number. -/
theorem compare_then_compare {e₁ e₂ : Int} {m₁ m₂ : Nat} (h₁ : m₁ < 2 ^ 24) (h₂ : m₂ < 2 ^ 24) :
    (compare e₁ e₂).then (compare m₁ m₂) =
      compare ((e₁ + 150) * 2 ^ 24 + m₁) ((e₂ + 150) * 2 ^ 24 + m₂) := by
  rcases Int.lt_trichotomy e₁ e₂ with he | rfl | he
  · rw [Int.compare_eq_lt.2 he, Int.compare_eq_lt.2 (by omega), Ordering.lt_then]
  · rw [Int.compare_eq_eq.2 rfl, Ordering.eq_then]
    rcases Nat.lt_trichotomy m₁ m₂ with hm | rfl | hm
    · rw [Nat.compare_eq_lt.2 hm, Int.compare_eq_lt.2 (by omega)]
    · rw [Nat.compare_eq_eq.2 rfl, Int.compare_eq_eq.2 rfl]
    · rw [Nat.compare_eq_gt.2 hm, Int.compare_eq_gt.2 (by omega)]
  · rw [Int.compare_eq_gt.2 he, Int.compare_eq_gt.2 (by omega), Ordering.gt_then]

/-- Negation turns the order of whole numbers around. -/
theorem compare_neg_neg (a b : Int) : compare (-a) (-b) = (compare a b).swap := by
  rcases Int.lt_trichotomy a b with h | rfl | h
  · rw [Int.compare_eq_lt.2 h, Int.compare_eq_gt.2 (by omega), Ordering.swap_lt]
  · rw [Int.compare_eq_eq.2 rfl, Int.compare_eq_eq.2 rfl, Ordering.swap_eq]
  · rw [Int.compare_eq_gt.2 h, Int.compare_eq_lt.2 (by omega), Ordering.swap_gt]

/-- Numbers are compared by where they stand. -/
theorem compare_eq {u v : UnpackedFloat} (hu : u ≠ .notANumber) (hv : v ≠ .notANumber)
    (hu' : Storable u) (hv' : Storable v) :
    u.compare v = some (compare (rank u) (rank v)) := by
  have hlt {a b : Int} (h : a < b) : some Ordering.lt = some (compare a b) := by
    rw [Int.compare_eq_lt.2 h]
  have hgt {a b : Int} (h : b < a) : some Ordering.gt = some (compare a b) := by
    rw [Int.compare_eq_gt.2 h]
  -- A finite number stands between zero and infinity.
  have hfin {s : Sign} {m : Nat} {e : Int} {h : 0 < m}
      (h' : Storable (.finite s m e h)) :
      0 < (e + 150) * 2 ^ 24 + m ∧ (e + 150) * 2 ^ 24 + m < 256 * 2 ^ 24 := by
    obtain ⟨⟨_, _, _⟩, htop⟩ := h'
    omega
  match u, v with
  | .notANumber, _ => exact absurd rfl hu
  | _, .notANumber => exact absurd rfl hv
  | .infinity s, .infinity s' => cases s <;> cases s' <;> rfl
  | .infinity s, .zero _ => cases s <;> rfl
  | .zero _, .infinity s => cases s <;> rfl
  | .zero _, .zero _ => rfl
  | .infinity .positive, .finite s .. =>
    have := hfin hv'
    exact hgt (by cases s <;> simp only [rank, Sign.apply] <;> omega)
  | .infinity .negative, .finite s .. =>
    have := hfin hv'
    exact hlt (by cases s <;> simp only [rank, Sign.apply] <;> omega)
  | .finite s .., .infinity .positive =>
    have := hfin hu'
    cases s <;> exact hlt (by simp only [rank, Sign.apply]; omega)
  | .finite s .., .infinity .negative =>
    have := hfin hu'
    cases s <;> exact hgt (by simp only [rank, Sign.apply]; omega)
  | .finite .positive .., .zero _ =>
    have := hfin hu'
    exact hgt (by simp only [rank, Sign.apply]; omega)
  | .finite .negative .., .zero _ =>
    have := hfin hu'
    exact hlt (by simp only [rank, Sign.apply]; omega)
  | .zero _, .finite .positive .. =>
    have := hfin hv'
    exact hlt (by simp only [rank, Sign.apply]; omega)
  | .zero _, .finite .negative .. =>
    have := hfin hv'
    exact hgt (by simp only [rank, Sign.apply]; omega)
  | .finite .positive m₁ e₁ _, .finite .negative m₂ e₂ _ =>
    have := hfin hu'
    have := hfin hv'
    exact hgt (by simp only [rank, Sign.apply]; omega)
  | .finite .negative m₁ e₁ _, .finite .positive m₂ e₂ _ =>
    have := hfin hu'
    have := hfin hv'
    exact hlt (by simp only [rank, Sign.apply]; omega)
  | .finite .positive .., .finite .positive .. =>
    exact congrArg some (compare_then_compare hu'.1.1 hv'.1.1)
  | .finite .negative .., .finite .negative .. =>
    refine congrArg some ?_
    rw [compare_then_compare hu'.1.1 hv'.1.1]
    exact (compare_neg_neg _ _).symm

/-- Numbers are compared by where they stand among all numbers. -/
theorem compare_value {x y : Single} (hx : x.isNaN = false) (hy : y.isNaN = false) :
    x.value.compare y.value = some (compare (rank x.value) (rank y.value)) :=
  compare_eq ((isNaN_eq_false_iff x).1 hx) ((isNaN_eq_false_iff y).1 hy) (storable_value x)
    (storable_value y)

/-- The order is that of the ranks. -/
theorem lt_iff_rank (x y : Single) :
    x < y ↔ x.isNaN = false ∧ y.isNaN = false ∧ rank x.value < rank y.value := by
  rw [lt_iff, UnpackedFloat.lt]
  cases hx : x.isNaN
  · cases hy : y.isNaN
    · rw [compare_value hx hy]
      simp [Int.compare_eq_lt]
    · rw [(isNaN_iff y).1 hy]
      cases x.value <;> simp [UnpackedFloat.compare]
  · rw [(isNaN_iff x).1 hx]
    simp [UnpackedFloat.compare]

/-- The order is that of the ranks, with numbers of the same rank. -/
theorem le_iff_rank (x y : Single) :
    x ≤ y ↔ x.isNaN = false ∧ y.isNaN = false ∧ rank x.value ≤ rank y.value := by
  rw [le_iff, UnpackedFloat.le]
  cases hx : x.isNaN
  · cases hy : y.isNaN
    · rw [compare_value hx hy]
      simp [Int.isLE_compare]
    · rw [(isNaN_iff y).1 hy]
      cases x.value <;> simp [UnpackedFloat.compare]
  · rw [(isNaN_iff x).1 hx]
    simp [UnpackedFloat.compare]

/-- Of two numbers, none is both at most and greater than the other. -/
theorem not_lt_of_le {x y : Single} (h : x ≤ y) : ¬ y < x := fun h' => by
  obtain ⟨_, _, hle⟩ := (le_iff_rank x y).1 h
  obtain ⟨_, _, hlt⟩ := (lt_iff_rank y x).1 h'
  omega

/-- Of two numbers, one that is not smaller is at least as large. -/
theorem le_of_not_lt {x y : Single} (hx : x.isNaN = false) (hy : y.isNaN = false)
    (h : ¬ x < y) : y ≤ x := by
  rw [lt_iff_rank] at h
  rw [le_iff_rank]
  exact ⟨hy, hx, Int.not_lt.1 fun hlt => h ⟨hx, hy, hlt⟩⟩

/-- A smaller number is at most as large. -/
theorem le_of_lt {x y : Single} (h : x < y) : x ≤ y := by
  obtain ⟨hx, hy, hlt⟩ := (lt_iff_rank x y).1 h
  exact (le_iff_rank x y).2 ⟨hx, hy, Int.le_of_lt hlt⟩

/-- To be at most as large goes on from one number to the next. -/
theorem le_trans {x y z : Single} (h : x ≤ y) (h' : y ≤ z) : x ≤ z := by
  obtain ⟨hx, _, hxy⟩ := (le_iff_rank x y).1 h
  obtain ⟨_, hz, hyz⟩ := (le_iff_rank y z).1 h'
  exact (le_iff_rank x z).2 ⟨hx, hz, Int.le_trans hxy hyz⟩

/-- Only numbers are compared: what is at most something is a number, and so is that. -/
theorem isNaN_of_le {x y : Single} (h : x ≤ y) : x.isNaN = false ∧ y.isNaN = false :=
  ⟨((le_iff_rank x y).1 h).1, ((le_iff_rank x y).1 h).2.1⟩

end Single

end Pursuit
