import Pursuit.Proofs.Magnitudes

/-! # Caps that arithmetic keeps

A bound by the next power of two grows with every operation. A cap does not: what is no greater than
a number of the format before it is rounded is no greater afterwards. So products with a number
between minus one and one keep their cap, and sums and quotients have the cap of the exact result, as
long as that is a number of the format.

* **`Single.size`** — a mantissa with its exponent, exactly. **`Single.AtMost`** — a finite number of at
  most a given size.
* **`Single.Representable`** — the sizes that finite numbers have.
* **`Single.atMost_roundWithAccuracy`** — rounding keeps a cap; **`Single.AtMost.mul`** and its like for
  each operation.
* **`Single.abs_le_iff`** — what is capped by a number of the format is no further from zero. -/

namespace Pursuit

open Float.Model (Format UnpackedFloat totalExponent)
open Float.Model.UnpackedFloat

namespace Single

/-! ## Sizes -/

/-- The exact size of a mantissa with its exponent. -/
def size (m : Nat) (e : Int) : ℚ := m * 2 ^ e

/-- Whether a number is finite and its size no greater than a bound. -/
def AtMost (b : ℚ) : UnpackedFloat → Prop
  | .zero _ => 0 ≤ b
  | .finite _ m e _ => size m e ≤ b
  | _ => False

/-- The sizes of finite numbers. -/
def Representable (b : ℚ) : Prop :=
  ∃ (m : Nat) (e : Int), m < 2 ^ 24 ∧ -149 ≤ e ∧ e ≤ 104 ∧ b = size m e

/-- Powers of two are positive. -/
theorem two_zpow_pos (e : Int) : (0 : ℚ) < 2 ^ e := zpow_pos (by decide) e

/-- Powers of two grow with their exponent. -/
theorem two_zpow_le {a b : Int} (h : a ≤ b) : (2 : ℚ) ^ a ≤ 2 ^ b :=
  zpow_le_zpow_right₀ (by decide) h

/-- No size is negative. -/
theorem size_nonneg (m : Nat) (e : Int) : 0 ≤ size m e :=
  mul_nonneg (Nat.cast_nonneg m) (two_zpow_pos e).le

/-- In the same unit, sizes are ordered as their mantissas are. -/
theorem size_le_iff {m m' : Nat} {e : Int} : size m e ≤ size m' e ↔ m ≤ m' := by
  rw [size, size, mul_le_mul_iff_left₀ (two_zpow_pos e), Nat.cast_le]

/-- In the same unit, one size is smaller than another just as its mantissa is. -/
theorem size_lt_iff {m m' : Nat} {e : Int} : size m e < size m' e ↔ m < m' := by
  rw [size, size, mul_lt_mul_iff_left₀ (two_zpow_pos e), Nat.cast_lt]

/-- A longer mantissa makes up for a smaller exponent. -/
theorem size_mul_two_pow (m d : Nat) (e : Int) : size (m * 2 ^ d) e = size m (e + d) := by
  rw [size, size, zpow_add₀ (by decide), zpow_natCast, Nat.cast_mul, Nat.cast_pow, Nat.cast_ofNat]
  ring

/-- Digits added behind the point do not change a size. -/
theorem size_shiftLeft (m d : Nat) (e : Int) : size (m <<< d) (e - d) = size m e := by
  rw [Nat.shiftLeft_eq, size_mul_two_pow, Int.sub_add_cancel]

/-- The size of a power of two is that power. -/
theorem size_two_pow (k : Nat) (e : Int) : size (2 ^ k) e = 2 ^ (e + k) := by
  rw [← one_mul (2 ^ k), size_mul_two_pow, size, Nat.cast_one, one_mul]

/-- A mantissa of `k` digits at most is of a size below that of the digit after them. -/
theorem size_lt_of_lt {m k : Nat} {e : Int} (h : m < 2 ^ k) : size m e < 2 ^ (e + k) := by
  have h := size_lt_iff (e := e).2 h
  rwa [size_two_pow] at h

/-- A mantissa that has reached a power of two has a size that has reached it in its unit. -/
theorem le_size_of_le {m k : Nat} {e : Int} (h : 2 ^ k ≤ m) : 2 ^ (e + k) ≤ size m e := by
  have h := size_le_iff (e := e).2 h
  rwa [size_two_pow] at h

/-- A number whose first digit stands in front of all digits of another one is greater. -/
theorem size_lt_size {m m' k k' : Nat} {e e' : Int} (hm : m < 2 ^ k) (hm' : 2 ^ k' ≤ m')
    (h : e + k ≤ e' + k') : size m e < size m' e' :=
  calc size m e < 2 ^ (e + k) := size_lt_of_lt hm
    _ ≤ 2 ^ (e' + k') := two_zpow_le h
    _ ≤ size m' e' := le_size_of_le hm'

/-- The size of a product is the product of the sizes. -/
theorem size_mul (m₁ m₂ : Nat) (e₁ e₂ : Int) :
    size (m₁ * m₂) (e₁ + e₂) = size m₁ e₁ * size m₂ e₂ := by
  rw [size, size, size, zpow_add₀ (by decide), Nat.cast_mul]
  ring

/-- A number with a digit in front of the point, or behind it, is of the size of that digit. -/
theorem two_zpow_le_size {m : Nat} (hm : m ≠ 0) {e k : Int} (h : k ≤ totalExponent m e) :
    2 ^ (k - 1) ≤ size m e := by
  refine (two_zpow_le ?_).trans (le_size_of_le (Nat.log2_self_le hm))
  rw [totalExponent] at h
  omega

/-- A size is bounded by the number of digits in front of the point. -/
theorem size_le_two_zpow {m : Nat} {e k : Int} (h : totalExponent m e ≤ k) : size m e ≤ 2 ^ k := by
  refine (size_lt_of_lt Nat.lt_log2_self).le.trans (two_zpow_le ?_)
  rw [totalExponent] at h
  push_cast
  omega

/-- A number that is at most so large is at most as large as anything larger. -/
theorem AtMost.mono {a b : ℚ} {u : UnpackedFloat} (h : AtMost a u) (hab : a ≤ b) : AtMost b u := by
  cases u with
  | zero => exact LE.le.trans (show 0 ≤ a from h) hab
  | finite s m e hm => exact LE.le.trans (show size m e ≤ a from h) hab
  | _ => exact h

/-- A bound of a number is not negative. -/
theorem AtMost.nonneg {a : ℚ} {u : UnpackedFloat} (h : AtMost a u) : 0 ≤ a := by
  cases u with
  | zero => exact h
  | finite s m e hm => exact (size_nonneg m e).trans h
  | _ => exact h.elim

/-- What is below a power of two is capped by it. -/
theorem Below.atMost {k : Int} {u : UnpackedFloat} (h : Below k u) : AtMost (2 ^ k) u := by
  cases u with
  | zero => exact (two_zpow_pos k).le
  | finite s m e hm => exact size_le_two_zpow h
  | _ => exact h

/-- A number below a power of two is at most that power. -/
theorem Below.atMost_two_pow {k : Nat} {u : UnpackedFloat} (h : Below k u) : AtMost (2 ^ k) u := by
  have := h.atMost
  rwa [zpow_natCast] at this

/-- Powers of two are sizes of numbers, from the least to the greatest. -/
theorem representable_two_zpow {k : Int} (h : -149 ≤ k) (h' : k ≤ 127) :
    Representable ((2 : ℚ) ^ k) := by
  rcases Int.le_total k 104 with hk | hk
  · refine ⟨1, k, by decide, h, hk, ?_⟩
    rw [size, Nat.cast_one, one_mul]
  · refine ⟨2 ^ 23, k - 23, by decide, by omega, by omega, ?_⟩
    rw [size_two_pow]
    congr 1
    push_cast
    omega

/-- The powers of two up to the largest exponent can be represented. -/
theorem representable_two_pow {k : Nat} (h : k ≤ 127) : Representable ((2 : ℚ) ^ k) := by
  have := representable_two_zpow (k := k) (by omega) (by omega)
  rwa [zpow_natCast] at this

/-- One can be represented. -/
theorem representable_one : Representable 1 := by
  have := representable_two_pow (k := 0) (by decide)
  rwa [pow_zero] at this

/-- Two can be represented. -/
theorem representable_two : Representable 2 := by
  have := representable_two_pow (k := 1) (by decide)
  rwa [pow_one] at this

/-! ## Rounding -/

/-- Whether a mantissa with the digits behind it is no greater than a whole number. -/
def NoMoreThan (n : Nat) (x : ExtendedMantissa) : Prop := x.mantissa < n ∨ x = ⟨n, false, false⟩

/-- Dropping digits divides a bound of an extended mantissa. -/
theorem NoMoreThan.shiftRight {n d : Nat} {x : ExtendedMantissa} (h : NoMoreThan (n * 2 ^ d) x) :
    NoMoreThan n (x >>> d) := by
  induction d generalizing n with
  | zero => exact (Nat.mul_one n) ▸ h
  | succ d ih =>
    have hx : NoMoreThan (n * 2) (x >>> d) := ih (by rwa [Nat.mul_assoc, ← Nat.pow_succ'])
    show NoMoreThan n (x >>> d).shiftRightOne
    rcases hx with hlt | heq
    · exact .inl (Nat.div_lt_of_lt_mul (by rwa [Nat.mul_comm]))
    · right
      rw [heq]
      simp [ExtendedMantissa.shiftRightOne]

/-- Rounding takes no mantissa above a bound that is kept with its lost digits. -/
theorem NoMoreThan.roundedMantissa_le {n : Nat} {x : ExtendedMantissa} (h : NoMoreThan n x) :
    x.roundedMantissa ≤ n := by
  rcases h with hlt | rfl
  · exact (roundedMantissa_bounds x).2.trans hlt
  · exact Nat.le_refl n

/-- A mantissa is no more than a larger one, nor than itself if nothing was lost behind it. -/
theorem noMoreThan_ofMantissaAndAccuracy {m n : Nat} {a : Accuracy}
    (h : m < n ∨ m = n ∧ a = .exact) : NoMoreThan n (.ofMantissaAndAccuracy m a) := by
  rcases h with hlt | ⟨rfl, rfl⟩
  · exact .inl (by rwa [mantissa_ofMantissaAndAccuracy])
  · exact .inr rfl

/-- A cut number is no larger than it was. -/
theorem atMost_cut {b : ℚ} {s : Sign} {m : Nat} {e : Int} (h : size m e ≤ b) :
    AtMost b (cut s m e) := by
  rw [cut]
  split
  · exact (size_nonneg m e).trans h
  · refine LE.le.trans ?_ h
    rw [← size_mul_two_pow]
    exact size_le_iff.2 (Nat.div_mul_le_self m _)

/-- **Rounding keeps a cap**, if the digits that are missing do not lift the number above it. -/
theorem atMost_roundWithAccuracy {b : ℚ} (hb : Representable b) {s : Sign} {m : Nat} {e : Int}
    {a : Accuracy} (h : size m e ≤ b)
    (ha : a = .exact ∨ size m e < b ∧ e ≤ max (totalExponent m e - 24) (-149)) :
    AtMost b (roundWithAccuracy .binary32 s m e a) := by
  obtain ⟨m', e', hm', he', -, rfl⟩ := hb
  rw [roundWithAccuracy_eq]
  refine atMost_cut ?_
  rcases Int.lt_or_le e' (e + dropped m e) with hlt | hle
  · -- The cap has digits where none are left, so it has fewer than the number itself.
    have hfew (h' : e + dropped m e ≤ totalExponent m e - 24) (hm : m ≠ 0) : False := by
      refine absurd h (not_le.2 (size_lt_size hm' (Nat.log2_self_le hm) ?_))
      rw [totalExponent] at h'
      omega
    have hlog : Nat.log2 0 = 0 := by decide
    by_cases hd : dropped m e = 0
    · rcases ha with rfl | ⟨_, hexp⟩
      · rw [hd, Nat.cast_zero, Int.add_zero]
        exact h
      · refine absurd (hfew ?_ ?_) id
        · omega
        · rintro rfl
          rw [totalExponent, hlog] at hexp
          omega
    · have hexp : e + dropped m e = totalExponent m e - 24 := by
        rw [dropped] at hd hlt ⊢
        omega
      refine absurd (hfew (Int.le_of_eq hexp) ?_) id
      rintro rfl
      rw [dropped, totalExponent, hlog] at hd hlt
      omega
  · -- The cap is a whole number of the last digit that is left.
    have hcap : size m' e' = size (m' * 2 ^ (e' - (e + dropped m e)).toNat) (e + dropped m e) := by
      rw [size_mul_two_pow]
      congr 1
      omega
    rw [hcap] at h ha ⊢
    generalize m' * 2 ^ (e' - (e + dropped m e)).toNat = n at h ha ⊢
    rw [← size_mul_two_pow, size_le_iff] at h
    rw [← size_mul_two_pow, size_lt_iff] at ha
    have hcut (h : m < n * 2 ^ dropped m e ∨ m = n * 2 ^ dropped m e ∧ a = .exact) :=
      (noMoreThan_ofMantissaAndAccuracy h).shiftRight.roundedMantissa_le
    refine size_le_iff.2 (hcut ?_)
    rcases ha with rfl | ⟨hlt, _⟩
    · exact (Nat.lt_or_eq_of_le h).imp_right fun h => ⟨h, rfl⟩
    · exact .inl hlt

/-- Rounding takes no number above a bound that can be represented. -/
theorem atMost_round {b : ℚ} (hb : Representable b) {s : Sign} {m : Nat} {e : Int}
    (h : size m e ≤ b) : AtMost b (round .binary32 s m e) := by
  obtain ⟨d, _, heq⟩ := round_eq s m e
  rw [heq]
  exact atMost_roundWithAccuracy hb (by rwa [size_shiftLeft]) (.inl rfl)

/-- A capped number is stored as it is. -/
theorem AtMost.stored {b : ℚ} (hb : Representable b) {u : UnpackedFloat} (h : AtMost b u)
    (hu : Rounded u) : AtMost b (stored u) := by
  cases u with
  | zero s => rw [stored_zero]; exact h
  | finite s m e hm =>
    rw [stored_finite hm hu]
    split
    · exact h
    · -- What is too great for a pattern is greater than all sizes.
      obtain ⟨m', e', hm', -, he', rfl⟩ := hb
      obtain ⟨_, _, hfull⟩ := hu
      have hgreater : size m' e' < size m e :=
        size_lt_size hm' (hfull.resolve_right (by omega)) (by omega)
      exact absurd h (not_le.2 hgreater)
  | _ => exact h.elim

/-! ## Operations -/

section

variable {x y : Single} {a b c : ℚ}

/-- A stored product is at most the product of the bounds, if that can be represented. -/
theorem AtMost.mul (hx : AtMost a x.value) (hy : AtMost b y.value) (hc : Representable c)
    (h : a * b ≤ c) : AtMost c (x * y).value := by
  rw [value_mul]
  refine AtMost.stored hc ?_ (rounded_mul (storable_value x).rounded (storable_value y).rounded)
  have ha := hx.nonneg
  have hnonneg : 0 ≤ c := (mul_nonneg ha hy.nonneg).trans h
  match x.value, y.value, hx, hy with
  | .zero _, .zero _, _, _ | .zero _, .finite .., _, _ | .finite .., .zero _, _, _ => exact hnonneg
  | .finite s₁ m₁ e₁ _, .finite s₂ m₂ e₂ _, hx, hy =>
    refine atMost_roundWithAccuracy hc ?_ (.inl rfl)
    rw [size_mul]
    exact (mul_le_mul hx hy (size_nonneg m₂ e₂) ha).trans h

/-- A sum is at most the sum of the bounds, if that can be represented. -/
theorem atMost_add {u v : UnpackedFloat} (hu : AtMost a u) (hv : AtMost b v) (hc : Representable c)
    (h : a + b ≤ c) : AtMost c (.add .binary32 u v) := by
  have ha := hu.nonneg
  have hb := hv.nonneg
  match u, v with
  | .infinity _, _ | .notANumber, _ => exact hu.elim
  | _, .infinity _ | _, .notANumber => exact hv.elim
  | .zero s₁, .zero s₂ =>
    have hnonneg : 0 ≤ c := (add_nonneg ha hb).trans h
    cases s₁ <;> cases s₂ <;> exact hnonneg
  | .zero _, .finite .. => exact hv.mono (by linarith)
  | .finite .., .zero _ => exact hu.mono (by linarith)
  | .finite s₁ m₁ e₁ _, .finite s₂ m₂ e₂ _ =>
    -- Both are brought to the smaller exponent, which changes neither of them.
    have hdecrease {m : Nat} {e t : Int} (ht : t ≤ e) : size (m <<< (e - t).toNat) t = size m e := by
      rw [Nat.shiftLeft_eq, size_mul_two_pow]
      congr 1
      omega
    have h₁ : size (m₁ <<< (e₁ - min e₁ e₂).toNat) (min e₁ e₂) ≤ a :=
      (hdecrease (Int.min_le_left e₁ e₂)).trans_le hu
    have h₂ : size (m₂ <<< (e₂ - min e₁ e₂).toNat) (min e₁ e₂) ≤ b :=
      (hdecrease (Int.min_le_right e₁ e₂)).trans_le hv
    have hsum {n : Int} (hn : n.natAbs ≤
        m₁ <<< (e₁ - min e₁ e₂).toNat + m₂ <<< (e₂ - min e₁ e₂).toNat) :
        size n.natAbs (min e₁ e₂) ≤ c := by
      refine (size_le_iff.2 hn).trans ?_
      rw [size, Nat.cast_add, add_mul]
      exact (add_le_add h₁ h₂).trans h
    show AtMost c (UnpackedFloat.normalize .binary32 _ _ _)
    generalize hn : s₁.apply _ + s₂.apply _ = n
    have hle : n.natAbs ≤ m₁ <<< (e₁ - min e₁ e₂).toNat + m₂ <<< (e₂ - min e₁ e₂).toNat := by
      rw [← hn]
      refine (Int.natAbs_add_le _ _).trans ?_
      rw [natAbs_apply, natAbs_apply]
      exact Nat.le_refl _
    rcases normalize_eq n (min e₁ e₂) .positive with ⟨_, heq⟩ | ⟨_, heq⟩ <;> rw [heq]
    · exact (size_nonneg _ _).trans (hsum hle)
    · exact atMost_round hc (hsum hle)

/-- The negative of a number has the same bound. -/
theorem AtMost.neg {u : UnpackedFloat} (h : AtMost a u) : AtMost a u.neg := by
  cases u <;> exact h

/-- A stored sum is at most the sum of the bounds, if that can be represented. -/
theorem AtMost.add (hx : AtMost a x.value) (hy : AtMost b y.value) (hc : Representable c)
    (h : a + b ≤ c) : AtMost c (x + y).value := by
  rw [value_add]
  exact (atMost_add hx hy hc h).stored hc
    (rounded_add (storable_value x).rounded (storable_value y).rounded)

/-- A stored difference is at most the sum of the bounds, if that can be represented. -/
theorem AtMost.sub (hx : AtMost a x.value) (hy : AtMost b y.value) (hc : Representable c)
    (h : a + b ≤ c) : AtMost c (x - y).value := by
  rw [value_sub, sub_eq_add_neg]
  exact (atMost_add hx hy.neg hc h).stored hc
    (rounded_add (storable_value x).rounded (rounded_neg (storable_value y).rounded))

/-- A number and its absolute value have the same bounds. -/
theorem atMost_abs_iff {u : UnpackedFloat} : AtMost a u.abs ↔ AtMost a u := by
  cases u <;> exact Iff.rfl

/-- A stored absolute value has the bound of the number. -/
theorem AtMost.abs (h : AtMost a x.value) : AtMost a x.abs.value := by
  rw [value_abs]
  exact atMost_abs_iff.2 h

/-- The number of the other sign is as large. -/
theorem abs_neg (x : Single) : (-x).abs = x.abs := by
  have hbits : (-x).abs.bits.toNat = x.abs.bits.toNat := by
    show (-x).magnitudeBits.toNat = x.magnitudeBits.toNat
    rw [toNat_magnitudeBits, toNat_magnitudeBits]
    show (x.bits ^^^ 0x80000000).toNat % 2 ^ 31 = _
    rw [UInt32.toNat_xor, Nat.xor_mod_two_pow]
    exact Nat.xor_zero _
  exact congrArg Single.mk (UInt32.toNat_inj.1 hbits)

/-- A stored negative has the bound of the number. -/
theorem AtMost.neg_value (h : AtMost a x.value) : AtMost a (-x).value := by
  rw [← atMost_abs_iff, ← value_abs, abs_neg]
  exact h.abs

/-- A quotient is formed of enough digits, exactly or with a rest that shows in its accuracy. -/
theorem divCore_spec {m₁ m₂ : Nat} (h₁ : m₁ ≠ 0) (h₂ : m₂ ≠ 0) (e₁ e₂ : Int) :
    ∃ (q : Nat) (t : Int) (acc : Accuracy), divCore .binary32 m₁ e₁ m₂ e₂ = (q, t, acc) ∧
      t ≤ max (totalExponent q t - 24) (-149) ∧
      size q t * size m₂ e₂ ≤ size m₁ e₁ ∧
      (acc = .exact ∨ size q t * size m₂ e₂ < size m₁ e₁) := by
  -- The exponent of the quotient, and how far the dividend is shifted to reach it.
  let t := min (e₁ - e₂) (max (totalExponent m₁ e₁ - totalExponent m₂ e₂ - 24) (-149))
  let d := (e₁ - e₂ - t).toNat
  have hd : t + e₂ = e₁ - d := by omega
  have hsize : size (m₁ <<< d) (t + e₂) = size m₁ e₁ := by rw [hd, size_shiftLeft]
  have hcore : divCore .binary32 m₁ e₁ m₂ e₂ =
      (m₁ <<< d / m₂, t, accuracyOfFraction (m₁ <<< d % m₂) m₂) := rfl
  refine ⟨_, _, _, hcore, ?_, ?_, ?_⟩
  · have hle := le_totalExponent_div (shiftLeft_ne_zero h₁ d) h₂ (e₁ - d) e₂
    have ht : e₁ - d - e₂ = t := by omega
    rw [totalExponent_shiftLeft h₁, ht] at hle
    omega
  · rw [← size_mul, ← hsize]
    exact size_le_iff.2 (Nat.div_mul_le_self _ _)
  · rw [← size_mul, ← hsize, size_lt_iff, accuracyOfFraction]
    by_cases hrest : m₁ <<< d % m₂ = 0
    · exact .inl (if_pos hrest)
    · -- A rest makes the quotient strictly too small.
      have hdiv := Nat.div_add_mod (m₁ <<< d) m₂
      rw [Nat.mul_comm] at hdiv
      exact .inr (by omega)

/-- A quotient has the cap of the one side over the power of two that the other has reached. -/
theorem AtMost.div {k : Int} (hx : AtMost a x.value) (hy : UpFrom k y.value) (hc : Representable c)
    (h : a ≤ c * 2 ^ (k - 1)) : AtMost c (x / y).value := by
  rw [value_div]
  refine AtMost.stored hc ?_ rounded_div
  have hnonneg : 0 ≤ c := nonneg_of_mul_nonneg_left (hx.nonneg.trans h) (two_zpow_pos (k - 1))
  match x.value, y.value, hx, hy with
  | .zero _, .infinity _, _, _ | .zero _, .finite .., _, _ | .finite .., .infinity _, _, _ =>
    exact hnonneg
  | .finite s₁ m₁ e₁ h₁, .finite s₂ m₂ e₂ h₂, hx, hy =>
    -- What is cut off a quotient makes it smaller, so it never exceeds the exact one.
    have h₂ := Nat.ne_of_gt h₂
    obtain ⟨q, t, acc, heq, ht, hle, hacc⟩ := divCore_spec (Nat.ne_of_gt h₁) h₂ e₁ e₂
    have hreached := two_zpow_le_size h₂ hy.2
    have hpos : 0 < size m₂ e₂ := lt_of_lt_of_le (two_zpow_pos (k - 1)) hreached
    have hx : size m₁ e₁ ≤ c * size m₂ e₂ :=
      hx.trans (h.trans (mul_le_mul_of_nonneg_left hreached hnonneg))
    simp only [UnpackedFloat.div, heq]
    refine atMost_roundWithAccuracy hc (le_of_mul_le_mul_right (hle.trans hx) hpos) ?_
    exact hacc.imp_right fun hlt =>
      ⟨lt_of_mul_lt_mul_right (lt_of_lt_of_le hlt hx) hpos.le, ht⟩

end

/-! ## Finite numbers -/

/-- The finite patterns are told by their bits. -/
theorem isFinite_iff (x : Single) : x.isFinite = true ↔ ∃ b, AtMost b x.value := by
  have hfield : x.isFinite = true ↔ @unpackExponent .binary32 x.bits.toBitVec ≠ -1#8 := by
    rw [ne_eq, ← BitVec.toNat_inj, toNat_unpackExponent, isFinite, decide_eq_true_eq,
      UInt32.lt_iff_toNat_lt, toNat_magnitudeBits]
    change _ < 0x7f800000 ↔ ¬ _ = 255
    omega
  rw [hfield, value]
  have hnone {u : UnpackedFloat} (h : ∀ b, ¬ AtMost b u) : ¬ ∃ b, AtMost b u := not_exists.2 h
  fun_cases unpack with
  | case1 mvec evec svec s hmax => exact iff_of_false (fun h => h hmax) (hnone fun _ h => h)
  | case2 mvec evec hmax => exact iff_of_false (fun h => h hmax) (hnone fun _ h => h)
  | case3 mvec evec svec s hmax => exact iff_of_true hmax ⟨0, le_rfl⟩
  | case4 mvec evec e svec s hmax => exact iff_of_true hmax ⟨_, le_rfl⟩
  | case5 mvec evec e svec s hmax => exact iff_of_true hmax ⟨_, le_rfl⟩

/-- A number that is at most so large is finite. -/
theorem AtMost.isFinite {b : ℚ} {x : Single} (h : AtMost b x.value) : x.isFinite = true :=
  (isFinite_iff x).2 ⟨b, h⟩

/-- What is finite is a number. -/
theorem isNaN_of_isFinite {x : Single} (h : x.isFinite = true) : x.isNaN = false := by
  obtain ⟨b, h⟩ := (isFinite_iff x).1 h
  rw [isNaN_eq_false_iff]
  intro hx
  rw [hx] at h
  exact h

/-- Whatever is at most so large is a number. -/
theorem AtMost.isNaN {b : ℚ} {x : Single} (h : AtMost b x.value) : x.isNaN = false :=
  isNaN_of_isFinite h.isFinite

/-! ## Caps and order -/

/-- Numbers of the format are in the order of their sizes. -/
theorem size_le_size_iff {s₁ s₂ : Sign} {m₁ m₂ : Nat} {e₁ e₂ : Int} {h₁ : 0 < m₁} {h₂ : 0 < m₂}
    (hu : Storable (.finite s₁ m₁ e₁ h₁)) (hv : Storable (.finite s₂ m₂ e₂ h₂)) :
    size m₁ e₁ ≤ size m₂ e₂ ↔ (e₁ + 150) * 2 ^ 24 + m₁ ≤ (e₂ + 150) * 2 ^ 24 + m₂ := by
  -- Of two different exponents the greater one comes with a mantissa that is as long as can be.
  have hless {m m' : Nat} {e e' : Int} (hm : m < 2 ^ 24) (hm' : 2 ^ 23 ≤ m') (h : e < e') :
      size m e < size m' e' :=
    size_lt_size hm hm' (by omega)
  obtain ⟨⟨hm₁, he₁, hfull₁⟩, _⟩ := hu
  obtain ⟨⟨hm₂, he₂, hfull₂⟩, _⟩ := hv
  rcases Int.lt_trichotomy e₁ e₂ with h | rfl | h
  · exact iff_of_true (hless hm₁ (hfull₂.resolve_right (by omega)) h).le (by omega)
  · rw [size_le_iff]
    omega
  · exact iff_of_false (not_le.2 (hless hm₂ (hfull₁.resolve_right (by omega)) h)) (by omega)

/-- A number that does not stand below zero in the order is not negative. -/
theorem notNegative_of_rank {u : UnpackedFloat} (hu : Storable u) (hne : u ≠ .notANumber)
    (h : 0 ≤ rank u) : NotNegative u := by
  match u with
  | .notANumber => exact absurd rfl hne
  | .zero _ => trivial
  | .infinity .positive | .finite .positive .. => rfl
  | .infinity .negative => exact absurd h (by decide)
  | .finite .negative m e hm =>
    obtain ⟨⟨_, _, _⟩, _⟩ := hu
    exact absurd h (by simp only [rank, Sign.apply]; omega)

/-- A number that has a number of digits in front of the point is not negative. -/
theorem UpFrom.notNegative {k : Int} {u : UnpackedFloat} (h : UpFrom k u) : NotNegative u := by
  cases u with
  | infinity => exact h
  | finite => exact h.1
  | _ => exact h.elim

/-- What is not negative and stands no higher than a capped number is capped. -/
theorem AtMost.of_rank_le {b : ℚ} {u v : UnpackedFloat} (hu : NotNegative u) (hu' : Storable u)
    (hv : AtMost b v) (hv' : Storable v) (h : rank u ≤ rank v) : AtMost b u := by
  have hb := hv.nonneg
  -- What is infinite stands above all finite numbers, and what is negative below zero.
  match u, v with
  | .notANumber, _ => exact hu.elim
  | _, .notANumber | _, .infinity _ => exact hv.elim
  | .zero _, _ => exact hb
  | .infinity s, .zero _ =>
    cases hu
    exact absurd h (by simp only [rank, Sign.apply]; omega)
  | .infinity s, .finite s' m e _ =>
    obtain ⟨⟨_, _, _⟩, _⟩ := hv'
    cases hu
    exact absurd h (by cases s' <;> simp only [rank, Sign.apply] <;> omega)
  | .finite s m e _, .zero _ =>
    obtain ⟨⟨_, _, _⟩, _⟩ := hu'
    cases hu
    exact absurd h (by simp only [rank, Sign.apply]; omega)
  | .finite s m e _, .finite .negative m' e' _ =>
    obtain ⟨⟨_, _, _⟩, _⟩ := hu'
    obtain ⟨⟨_, _, _⟩, _⟩ := hv'
    cases hu
    exact absurd h (by simp only [rank, Sign.apply]; omega)
  | .finite s m e _, .finite .positive m' e' _ =>
    cases hu
    exact ((size_le_size_iff hu' hv').2 h).trans hv

/-- A number that is not negative has the bound of one that is no smaller. -/
theorem AtMost.of_le {b : ℚ} {x y : Single} (hx : NotNegative x.value) (hy : AtMost b y.value)
    (h : x ≤ y) : AtMost b x.value :=
  hy.of_rank_le hx (storable_value x) (storable_value y) ((le_iff_rank x y).1 h).2.2

/-- A number that is not negative has the bound of one that is larger. -/
theorem AtMost.of_lt {b : ℚ} {x y : Single} (hx : NotNegative x.value) (hy : AtMost b y.value)
    (h : x < y) : AtMost b x.value :=
  hy.of_le hx (le_of_lt h)

/-- **What is capped by a number of the format is no further from zero**, and the other way round. -/
theorem abs_le_iff {x y : Single} {m : Nat} {e : Int} {hm : 0 < m}
    (hy : y.value = .finite .positive m e hm) : x.abs ≤ y ↔ AtMost (size m e) x.value := by
  have hsize : AtMost (size m e) y.value := by
    rw [hy]
    exact le_refl (size m e)
  have hystorable := hy ▸ storable_value y
  have hxstorable := storable_value x
  constructor
  · intro h
    rw [← atMost_abs_iff, ← value_abs]
    refine hsize.of_le ?_ h
    have hne := (isNaN_eq_false_iff _).1 (isNaN_of_le h).1
    rw [value_abs] at hne ⊢
    cases hx : x.value <;> rw [hx] at hne
    · rfl
    · exact absurd rfl hne
    · trivial
    · rfl
  · intro h
    refine (le_iff_rank _ _).2 ⟨h.abs.isNaN, hsize.isNaN, ?_⟩
    rw [value_abs, hy]
    -- What is capped is zero or finite, and finite numbers are ordered as their sizes are.
    generalize x.value = u at h hxstorable
    match u with
    | .notANumber | .infinity _ => exact h.elim
    | .zero _ =>
      obtain ⟨⟨_, _, _⟩, _⟩ := hystorable
      simp only [UnpackedFloat.abs, rank, Sign.apply]
      omega
    | .finite s m' e' _ =>
      exact (size_le_size_iff hxstorable hystorable).1 h

/-! ## Between zero and one -/

/-- One is at most one. -/
theorem atMost_one : AtMost 1 (1 : Single).value := by
  show size 8388608 (-23) ≤ 1
  rw [size]
  norm_num

/-- A number that has been moved into the unit interval is in it. -/
theorem atMost_clamp {x : Single} (h : x.isNaN = false) : AtMost 1 (x.clamp 0 1).value := by
  have hzero : (0 : Single).isNaN = false := by decide +kernel
  have hone : (1 : Single).isNaN = false := by decide +kernel
  unfold clamp
  split
  · exact zero_le_one
  · rename_i hlow
    split
    · exact atMost_one
    · rename_i hhigh
      have hle := (le_iff_rank _ _).1 (le_of_not_lt h hzero hlow)
      exact atMost_one.of_le
        (notNegative_of_rank (storable_value x) ((isNaN_eq_false_iff x).1 h) hle.2.2)
        (le_of_not_lt hone h hhigh)

end Single

end Pursuit
