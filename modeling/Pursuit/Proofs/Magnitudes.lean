import Pursuit.Numeric.Vector
import Pursuit.Proofs.Singles

/-! # How large single-precision numbers get

Bounds on results are kept in powers of two. Every rounding may lift a number to the next power, and
no rounding takes it below one that it has reached, so a bound on the sides of an operation gives a
bound on its result.

* **`Single.Below`** — a number smaller than a power of two, in either direction: not infinite, and a
  number at all. **`Single.UpFrom`** — a positive number that has reached a power of two, perhaps
  infinite.
* **`Single.below_roundWithAccuracy`**, **`Single.upFrom_roundWithAccuracy`** — what rounding does to
  the two bounds; **`Single.rounded_roundWithAccuracy`**: its results can be stored.
* **`Single.Below.add`** and its like — one bound for each operation.
* **`Single.isNaN_add_of_below`**, **`Single.isNaN_mul_of_below`** — where the result is a number.
* **`Vec.below_of_length_le`**, **`Vec.Below.clampLength`** — the coordinates of a vector of bounded
  length, and of one that has been shortened. -/

namespace Pursuit

open Float.Model (Format UnpackedFloat totalExponent)
open Float.Model.UnpackedFloat

namespace Single

/-! ## Digits -/

/-- The number of digits in front of the point is a bound by a power of two. -/
theorem totalExponent_le_iff {m : Nat} (hm : m ≠ 0) {e k : Int} :
    totalExponent m e ≤ k ↔ m < 2 ^ (k - e).toNat := by
  rw [totalExponent, ← Nat.log2_lt hm]
  omega

/-- Dropping digits leaves a number of the same size, if it leaves any. -/
theorem totalExponent_div {m d : Nat} (h : m / 2 ^ d ≠ 0) (e : Int) :
    totalExponent (m / 2 ^ d) (e + d) = totalExponent m e := by
  have hle : d ≤ m.log2 := by
    rw [Nat.le_log2 (by rintro rfl; simp at h)]
    exact Nat.le_of_not_lt fun hlt => h (Nat.div_eq_of_lt hlt)
  have hlog : (m / 2 ^ d).log2 = m.log2 - d := by
    rw [Nat.log2_eq_log_two, Nat.log2_eq_log_two, Nat.log_div_base_pow]
  rw [totalExponent, totalExponent, hlog]
  omega

/-- Neither do zeros at its end change the size of a number. -/
theorem totalExponent_shiftLeft {m : Nat} (hm : m ≠ 0) (d : Nat) (e : Int) :
    totalExponent (m <<< d) (e - d) = totalExponent m e := by
  have hdiv : (m <<< d) / 2 ^ d = m := by
    rw [Nat.shiftLeft_eq, Nat.mul_div_cancel _ (Nat.two_pow_pos d)]
  have := totalExponent_div (m := m <<< d) (d := d) (by rwa [hdiv]) (e - d)
  rw [hdiv] at this
  rw [← this]
  congr 1
  omega

/-- A larger mantissa makes no smaller number. -/
theorem totalExponent_mono {m m' : Nat} (hm : m ≠ 0) (h : m ≤ m') (e : Int) :
    totalExponent m e ≤ totalExponent m' e := by
  have hlog : m.log2 ≤ m'.log2 :=
    (Nat.le_log2 (by omega)).2 (Nat.le_trans (Nat.log2_self_le hm) h)
  rw [totalExponent, totalExponent]
  omega

/-! ## Rounding -/

/-- How many digits of a mantissa are dropped. -/
def dropped (m : Nat) (e : Int) : Nat := (max (totalExponent m e - 24) (-149) - e).toNat

/-- A mantissa with its last digits dropped. -/
def cut (s : Sign) (m : Nat) (e : Int) : UnpackedFloat :=
  if h : m / 2 ^ dropped m e = 0 then .zero s
  else .finite s (m / 2 ^ dropped m e) (e + dropped m e) (Nat.pos_of_ne_zero h)

/-- Shifting an extended mantissa to the right divides it, however its lost digits are kept track
of. -/
theorem mantissa_shiftRight (x : ExtendedMantissa) (d : Nat) :
    (x >>> d).mantissa = x.mantissa / 2 ^ d := by
  induction d with
  | zero => exact (Nat.div_one _).symm
  | succ d ih =>
    show (x >>> d).mantissa / 2 = _
    rw [ih, Nat.div_div_eq_div_mul, Nat.pow_succ]

/-- An extended mantissa keeps the mantissa that it is made of. -/
theorem mantissa_ofMantissaAndAccuracy (m : Nat) (a : Accuracy) :
    (ExtendedMantissa.ofMantissaAndAccuracy m a).mantissa = m := by
  rcases a with _ | (_ | _ | _) <;> rfl

/-- Rounding leaves a mantissa as it is or adds one to it. -/
theorem roundedMantissa_bounds (x : ExtendedMantissa) :
    x.mantissa ≤ x.roundedMantissa ∧ x.roundedMantissa ≤ x.mantissa + 1 := by
  rcases x with ⟨m, r, s⟩
  cases r <;> cases s <;>
    simp only [ExtendedMantissa.roundedMantissa, ExtendedMantissa.accuracy,
      Accuracy.roundToNearestEven] <;> omega

/-- Rounding as one cut, with the mantissa that is cut. -/
theorem roundWithAccuracy_eq (s : Sign) (m : Nat) (e : Int) (a : Accuracy) :
    roundWithAccuracy .binary32 s m e a =
      cut s (ExtendedMantissa.ofMantissaAndAccuracy m a >>> dropped m e).roundedMantissa
        (e + dropped m e) := by
  generalize hr : ExtendedMantissa.roundedMantissa _ = r
  have hfst : shiftToTargetExponent .binary32 m e a =
      (ExtendedMantissa.ofMantissaAndAccuracy m a >>> dropped m e, e + dropped m e) := rfl
  have hsnd : shiftToTargetExponent .binary32 r (e + dropped m e) .exact =
      (ExtendedMantissa.ofMantissaAndAccuracy r .exact >>> dropped r (e + dropped m e),
        e + dropped m e + dropped r (e + dropped m e)) := rfl
  simp only [roundWithAccuracy, hfst, hr, hsnd, mantissa_shiftRight, mantissa_ofMantissaAndAccuracy]
  rfl

/-- Rounding drops the last digits, adds one or nothing to what is left, and drops digits again. -/
theorem exists_roundWithAccuracy (s : Sign) (m : Nat) (e : Int) (a : Accuracy) :
    ∃ r, m / 2 ^ dropped m e ≤ r ∧ r ≤ m / 2 ^ dropped m e + 1 ∧
      roundWithAccuracy .binary32 s m e a = cut s r (e + dropped m e) := by
  obtain ⟨hle, hge⟩ :=
    roundedMantissa_bounds (ExtendedMantissa.ofMantissaAndAccuracy m a >>> dropped m e)
  rw [mantissa_shiftRight, mantissa_ofMantissaAndAccuracy] at hle hge
  exact ⟨_, hle, hge, roundWithAccuracy_eq s m e a⟩

/-! ## Bounds -/

/-- Whether a number is below the given power of two, in either direction. -/
def Below (k : Int) : UnpackedFloat → Prop
  | .zero _ => True
  | .finite _ m e _ => totalExponent m e ≤ k
  | _ => False

/-- Whether a number is positive and has the given number of digits in front of the point. -/
def UpFrom (k : Int) : UnpackedFloat → Prop
  | .infinity s => s = .positive
  | .finite s m e _ => s = .positive ∧ k ≤ totalExponent m e
  | _ => False

instance (k : Int) : DecidablePred (Below k)
  | .zero _ => .isTrue trivial
  | .finite _ m e _ => inferInstanceAs (Decidable (totalExponent m e ≤ k))
  | .infinity _ | .notANumber => .isFalse id

instance (k : Int) : DecidablePred (UpFrom k)
  | .infinity .positive => .isTrue rfl
  | .finite .positive m e _ =>
    decidable_of_iff (k ≤ totalExponent m e) ⟨fun h => ⟨rfl, h⟩, fun h => h.2⟩
  | .infinity .negative => .isFalse nofun
  | .finite .negative .. => .isFalse fun h => nomatch h.1
  | .zero _ | .notANumber => .isFalse id

/-- A number below a power of two is below every larger one. -/
theorem Below.mono {j k : Int} {u : UnpackedFloat} (h : Below j u) (hjk : j ≤ k) : Below k u := by
  cases u with
  | finite s m e hm => exact Int.le_trans (show totalExponent m e ≤ j from h) hjk
  | zero => trivial
  | _ => exact h

/-- A number with so many digits in front of the point has any smaller number of them. -/
theorem UpFrom.mono {j k : Int} {u : UnpackedFloat} (h : UpFrom k u) (hjk : j ≤ k) :
    UpFrom j u := by
  cases u with
  | finite s m e hm => exact ⟨h.1, Int.le_trans hjk h.2⟩
  | _ => exact h

/-- A cut number is below every power of two that it was below before. -/
theorem below_cut {k : Int} {s : Sign} {m : Nat} {e : Int} (h : m = 0 ∨ totalExponent m e ≤ k) :
    Below k (cut s m e) := by
  rw [cut]
  split
  · trivial
  · rename_i hne
    rcases h with rfl | h
    · exact absurd (Nat.zero_div _) hne
    · exact (totalExponent_div hne e).trans_le h

/-- What is large enough to be told from zero does not lose all its digits. -/
theorem dropped_le {m : Nat} {e : Int} (h : -148 ≤ totalExponent m e) : dropped m e ≤ m.log2 := by
  rw [totalExponent] at h
  rw [dropped, totalExponent]
  omega

/-- Of a number that is not tiny, some digit is left when the last ones are dropped. -/
theorem div_dropped_ne_zero {m : Nat} {e : Int} (hm : m ≠ 0) (h : -148 ≤ totalExponent m e) :
    m / 2 ^ dropped m e ≠ 0 :=
  Nat.div_ne_zero_iff.2 ⟨Nat.ne_of_gt (Nat.two_pow_pos _), (Nat.le_log2 hm).1 (dropped_le h)⟩

/-- A cut number keeps the number of digits in front of the point. -/
theorem upFrom_cut {k : Int} (hk : -148 ≤ k) {m : Nat} {e : Int} (hm : m ≠ 0)
    (h : k ≤ totalExponent m e) : UpFrom k (cut .positive m e) := by
  have hne := div_dropped_ne_zero hm (Int.le_trans hk h)
  rw [cut, dif_neg hne]
  exact ⟨rfl, (totalExponent_div hne e).symm ▸ h⟩

/-- A mantissa of one digit too many is cut once more. -/
theorem rounded_cut {s : Sign} {m : Nat} {e : Int} (he : -149 ≤ e) (hm : m ≤ 2 ^ 24)
    (hfull : 2 ^ 23 ≤ m ∨ e = -149) : Rounded (cut s m e) := by
  rcases Nat.lt_or_eq_of_le hm with hlt | rfl
  · -- The mantissa has no more than 24 digits, so none are dropped.
    have hzero : dropped m e = 0 := by
      have hlog : m.log2 < 24 := by
        by_cases h0 : m = 0
        · rw [h0]; decide
        · exact (Nat.log2_lt h0).2 hlt
      rw [dropped, totalExponent]
      omega
    rw [cut]
    split
    · trivial
    · simp only [Rounded, hzero, Nat.pow_zero, Nat.div_one]
      omega
  · -- Rounding up has made it a power of two, and the digit that is dropped is zero.
    have hone : dropped (2 ^ 24) e = 1 := by
      rw [dropped, totalExponent, Nat.log2_two_pow]
      omega
    rw [cut]
    split
    · trivial
    · simp only [Rounded, hone]
      omega

/-- Adding one to a mantissa makes it longer by one digit at most. -/
theorem totalExponent_succ_le {m r : Nat} {e : Int} (hr : r ≠ 0) (h : r ≤ m + 1) :
    totalExponent r e ≤ totalExponent m e + 1 := by
  rw [totalExponent_le_iff hr, totalExponent]
  have hlog : (↑m.log2 + 1 + e + 1 - e : Int).toNat = m.log2 + 1 + 1 := by omega
  have hlt : m < 2 ^ (m.log2 + 1) := Nat.lt_log2_self
  rw [hlog, Nat.pow_succ]
  omega

/-- Rounding reaches the next power of two at most. -/
theorem below_roundWithAccuracy {k : Int} (hk : -148 ≤ k) {s : Sign} {m : Nat} {e : Int}
    {a : Accuracy} (h : totalExponent m e < k) : Below k (roundWithAccuracy .binary32 s m e a) := by
  obtain ⟨r, _, hr, heq⟩ := exists_roundWithAccuracy s m e a
  rw [heq]
  refine below_cut (or_iff_not_imp_left.2 fun hr0 => ?_)
  by_cases hq : m / 2 ^ dropped m e = 0
  · -- All digits are dropped, so the mantissa is one of the least numbers at most.
    have hr1 : r = 1 := by omega
    have hd : ¬ -148 ≤ totalExponent m e ∨ m = 0 := by
      by_cases hm : m = 0
      · exact .inr hm
      · exact .inl fun h' => div_dropped_ne_zero hm h' hq
    have hlog : Nat.log2 1 = 0 := by decide
    have hlog0 : Nat.log2 0 = 0 := by decide
    rw [hr1, dropped]
    simp only [totalExponent] at h hd ⊢
    rcases hd with hd | rfl <;> omega
  · have hle := totalExponent_succ_le (e := e + dropped m e) hr0 hr
    rw [totalExponent_div hq] at hle
    omega

/-- Rounding does not fall below a power of two. -/
theorem upFrom_roundWithAccuracy {k : Int} (hk : -148 ≤ k) {m : Nat} {e : Int} {a : Accuracy}
    (hm : m ≠ 0) (h : k ≤ totalExponent m e) :
    UpFrom k (roundWithAccuracy .binary32 .positive m e a) := by
  obtain ⟨r, hr, _, heq⟩ := exists_roundWithAccuracy .positive m e a
  have hq := div_dropped_ne_zero hm (Int.le_trans hk h)
  have hle := totalExponent_mono hq hr (e + dropped m e)
  rw [totalExponent_div hq] at hle
  rw [heq]
  exact upFrom_cut hk (Nat.ne_of_gt (Nat.lt_of_lt_of_le (Nat.pos_of_ne_zero hq) hr))
    (Int.le_trans h hle)

/-- What has been rounded is `Rounded`, if the exponent was small enough to begin with. -/
theorem rounded_roundWithAccuracy {s : Sign} {m : Nat} {e : Int} {a : Accuracy}
    (h : e ≤ max (totalExponent m e - 24) (-149)) :
    Rounded (roundWithAccuracy .binary32 s m e a) := by
  obtain ⟨r, hge, hle, heq⟩ := exists_roundWithAccuracy s m e a
  -- So many digits are dropped that 24 remain, or fewer if the number is subnormal.
  have hd : e + dropped m e = max (totalExponent m e - 24) (-149) := by
    rw [dropped]; omega
  rw [heq]
  by_cases hm : m = 0
  · subst hm
    rw [Nat.zero_div] at hle
    have hlog : Nat.log2 0 = 0 := by decide
    refine rounded_cut (by omega) (by omega) (.inr ?_)
    rw [totalExponent, hlog] at hd h
    omega
  have hq : m / 2 ^ dropped m e < 2 ^ 24 := by
    refine Nat.div_lt_of_lt_mul (Nat.lt_of_lt_of_le Nat.lt_log2_self ?_)
    rw [← Nat.pow_add]
    refine Nat.pow_le_pow_right (by decide) ?_
    rw [totalExponent] at hd
    omega
  refine rounded_cut (by omega) (by omega) (or_iff_not_imp_right.2 fun hne => ?_)
  refine Nat.le_trans ((Nat.le_div_iff_mul_le (Nat.two_pow_pos _)).2 ?_) hge
  rw [← Nat.pow_add, ← Nat.le_log2 hm]
  rw [totalExponent] at hd
  omega

/-! ## Storing -/

/-- What is below a power of two is so when it is stored, if that power can be stored. -/
theorem Below.stored {k : Int} {u : UnpackedFloat} (h : Below k u) (hu : Rounded u)
    (hk : k ≤ 128) : Below k (stored u) := by
  cases u with
  | zero s => rw [stored_zero]; trivial
  | finite s m e hm =>
    have hle : e ≤ 104 := by
      obtain ⟨_, _, hfull⟩ := hu
      have h : (m.log2 : Int) + 1 + e ≤ k := h
      rcases hfull with hfull | _
      · have := (Nat.le_log2 (Nat.ne_of_gt hm)).2 hfull
        omega
      · omega
    rwa [stored_finite hm hu, if_pos hle]
  | _ => exact h.elim

/-- A rounded number keeps its digits in front of the point when it is stored, or becomes infinite.
-/
theorem UpFrom.stored {k : Int} {u : UnpackedFloat} (h : UpFrom k u) (hu : Rounded u) :
    UpFrom k (stored u) := by
  cases u with
  | infinity s => rwa [stored_infinity]
  | finite s m e hm =>
    rw [stored_finite hm hu]
    split
    · exact h
    · exact h.1
  | _ => exact h.elim

/-! ## Products -/

/-- A product has as many digits as both sides together, or one less. -/
theorem totalExponent_mul_le (m₁ m₂ : Nat) (h₁ : m₁ ≠ 0) (h₂ : m₂ ≠ 0) (e₁ e₂ : Int) :
    totalExponent (m₁ * m₂) (e₁ + e₂) ≤ totalExponent m₁ e₁ + totalExponent m₂ e₂ := by
  rw [totalExponent_le_iff (Nat.mul_ne_zero h₁ h₂)]
  simp only [totalExponent]
  have hexp : (↑m₁.log2 + 1 + e₁ + (↑m₂.log2 + 1 + e₂) - (e₁ + e₂) : Int).toNat =
      m₁.log2 + 1 + (m₂.log2 + 1) := by omega
  rw [hexp, Nat.pow_add]
  exact Nat.mul_lt_mul'' Nat.lt_log2_self Nat.lt_log2_self

/-- A product has at most one digit less in front of the point than its sides have together. -/
theorem le_totalExponent_mul (m₁ m₂ : Nat) (h₁ : m₁ ≠ 0) (h₂ : m₂ ≠ 0) (e₁ e₂ : Int) :
    totalExponent m₁ e₁ + totalExponent m₂ e₂ - 1 ≤ totalExponent (m₁ * m₂) (e₁ + e₂) := by
  have hlog : m₁.log2 + m₂.log2 ≤ (m₁ * m₂).log2 := by
    rw [Nat.le_log2 (Nat.mul_ne_zero h₁ h₂), Nat.pow_add]
    exact Nat.mul_le_mul (Nat.log2_self_le h₁) (Nat.log2_self_le h₂)
  simp only [totalExponent]
  omega

/-- A product is rounded. -/
theorem rounded_mul {u v : UnpackedFloat} (hu : Rounded u) (hv : Rounded v) :
    Rounded (.mul .binary32 u v) := by
  cases u <;> cases v <;> try trivial
  rename_i s₁ m₁ e₁ h₁ s₂ m₂ e₂ h₂
  refine rounded_roundWithAccuracy ?_
  have hle := le_totalExponent_mul m₁ m₂ (Nat.ne_of_gt h₁) (Nat.ne_of_gt h₂) e₁ e₂
  simp only [totalExponent] at hle ⊢
  obtain ⟨_, _, hu⟩ := hu
  obtain ⟨_, _, hv⟩ := hv
  rw [← Nat.le_log2 (Nat.ne_of_gt h₁)] at hu
  rw [← Nat.le_log2 (Nat.ne_of_gt h₂)] at hv
  omega

/-- A product is below every power of two above the product of the bounds. -/
theorem below_mul {j k n : Int} {u v : UnpackedFloat} (hu : Below j u) (hv : Below k v)
    (hn : j + k < n) (hn' : -148 ≤ n) : Below n (.mul .binary32 u v) := by
  cases u <;> cases v <;> try trivial
  rename_i s₁ m₁ e₁ h₁ s₂ m₂ e₂ h₂
  have hle := totalExponent_mul_le m₁ m₂ (Nat.ne_of_gt h₁) (Nat.ne_of_gt h₂) e₁ e₂
  have hu : totalExponent m₁ e₁ ≤ j := hu
  have hv : totalExponent m₂ e₂ ≤ k := hv
  exact below_roundWithAccuracy hn' (by omega)

/-- A square has twice as many digits in front of the point as the number, or one less. -/
theorem upFrom_mul_self {k n : Int} {u : UnpackedFloat} (h : UpFrom k u.abs) (hn : n < 2 * k)
    (hn' : -148 ≤ n) : UpFrom n (.mul .binary32 u u) := by
  cases u with
  | infinity s => cases s <;> rfl
  | finite s m e hm =>
    have hle := le_totalExponent_mul m m (Nat.ne_of_gt hm) (Nat.ne_of_gt hm) e e
    have hk : k ≤ totalExponent m e := h.2
    have hs : s * s = .positive := by cases s <;> rfl
    rw [UnpackedFloat.mul, hs]
    exact upFrom_roundWithAccuracy hn' (Nat.mul_ne_zero (Nat.ne_of_gt hm) (Nat.ne_of_gt hm))
      (by omega)
  | _ => exact h.elim

/-! ## Sums and differences -/

/-- Where the exponent is too great, zeros are put behind the mantissa first. -/
theorem round_eq (s : Sign) (m : Nat) (e : Int) :
    ∃ d : Nat, e - d ≤ max (totalExponent m e - 24) (-149) ∧
      round .binary32 s m e = roundWithAccuracy .binary32 s (m <<< d) (e - d) .exact :=
  ⟨(e - max (totalExponent m e - 24) (-149)).toNat, by omega, rfl⟩

/-- Rounding may take a number to the next power of two and no further. -/
theorem below_round {k : Int} (hk : -148 ≤ k) {s : Sign} {m : Nat} {e : Int} (hm : m ≠ 0)
    (h : totalExponent m e < k) : Below k (round .binary32 s m e) := by
  obtain ⟨d, _, heq⟩ := round_eq s m e
  rw [heq]
  exact below_roundWithAccuracy hk (by rwa [totalExponent_shiftLeft hm])

/-- Rounding an exact number rounds it. -/
theorem rounded_round {s : Sign} {m : Nat} {e : Int} (hm : m ≠ 0) :
    Rounded (round .binary32 s m e) := by
  obtain ⟨d, hd, heq⟩ := round_eq s m e
  rw [heq]
  exact rounded_roundWithAccuracy (by rwa [totalExponent_shiftLeft hm])

/-- Rounding takes away no digit in front of the point. -/
theorem upFrom_round {k : Int} (hk : -148 ≤ k) {m : Nat} {e : Int} (hm : m ≠ 0)
    (h : k ≤ totalExponent m e) : UpFrom k (round .binary32 .positive m e) := by
  obtain ⟨d, _, heq⟩ := round_eq .positive m e
  have hne : m <<< d ≠ 0 := by
    rw [Nat.shiftLeft_eq]
    exact Nat.mul_ne_zero hm (Nat.ne_of_gt (Nat.two_pow_pos d))
  rw [heq]
  exact upFrom_roundWithAccuracy hk hne (by rwa [totalExponent_shiftLeft hm])

/-- A whole number of units is rounded as a sign and a mantissa. -/
theorem normalize_eq (n e : Int) (z : Sign) :
    n = 0 ∧ UnpackedFloat.normalize .binary32 n e z = .zero z ∨
      n ≠ 0 ∧ UnpackedFloat.normalize .binary32 n e z =
        round .binary32 (if 0 < n then .positive else .negative) n.natAbs e := by
  rcases Int.lt_trichotomy n 0 with h | rfl | h
  · refine .inr ⟨by omega, ?_⟩
    have habs : (-n).toNat = n.natAbs := by omega
    rw [UnpackedFloat.normalize, Int.compare_eq_lt.2 h, if_neg (by omega)]
    show round .binary32 .negative (-n).toNat e = _
    rw [habs]
  · exact .inl ⟨rfl, rfl⟩
  · refine .inr ⟨by omega, ?_⟩
    have habs : n.toNat = n.natAbs := by omega
    rw [UnpackedFloat.normalize, Int.compare_eq_gt.2 h, if_pos h]
    show round .binary32 .positive n.toNat e = _
    rw [habs]

/-- A whole number in units of a power of two is rounded when it is normalized. -/
theorem rounded_normalize (n e : Int) (z : Sign) :
    Rounded (UnpackedFloat.normalize .binary32 n e z) := by
  rcases normalize_eq n e z with ⟨_, h⟩ | ⟨hn, h⟩ <;> rw [h]
  · trivial
  · exact rounded_round (by omega)

/-- A sum has at most one digit more in front of the point than the longer of its sides. -/
theorem totalExponent_add_le {a b n : Nat} {e k : Int} (ha : a ≠ 0) (hb : b ≠ 0) (hn : n ≠ 0)
    (h : n ≤ a + b) (hak : totalExponent a e ≤ k) (hbk : totalExponent b e ≤ k) :
    totalExponent n e ≤ k + 1 := by
  have hexp : (k + 1 - e).toNat = (k - e).toNat + 1 := by
    rw [totalExponent] at hak
    omega
  rw [totalExponent_le_iff ha] at hak
  rw [totalExponent_le_iff hb] at hbk
  rw [totalExponent_le_iff hn, hexp, Nat.pow_succ]
  omega

/-- A sum of two mantissas in the same unit is below four times their common bound when it is
normalized. -/
theorem below_normalize {n e k : Int} {z : Sign} {a b : Nat} (ha : a ≠ 0) (hb : b ≠ 0)
    (h : n.natAbs ≤ a + b) (hak : totalExponent a e ≤ k) (hbk : totalExponent b e ≤ k)
    (hk : -150 ≤ k) : Below (k + 2) (UnpackedFloat.normalize .binary32 n e z) := by
  rcases normalize_eq n e z with ⟨_, heq⟩ | ⟨hn, heq⟩ <;> rw [heq]
  · trivial
  · have := totalExponent_add_le ha hb (n := n.natAbs) (by omega) h hak hbk
    exact below_round (by omega) (by omega) (by omega)

/-- A positive mantissa keeps its digits in front of the point when it is normalized. -/
theorem upFrom_normalize {k : Int} (hk : -148 ≤ k) {m : Nat} {e : Int} {z : Sign} (hm : m ≠ 0)
    (h : k ≤ totalExponent m e) : UpFrom k (UnpackedFloat.normalize .binary32 m e z) := by
  rcases normalize_eq m e z with ⟨h0, _⟩ | ⟨_, heq⟩
  · omega
  · rw [heq, if_pos (by omega), Int.natAbs_natCast]
    exact upFrom_round hk hm h

/-- A mantissa brought to a smaller exponent. -/
theorem totalExponent_decreaseExponent {m : Nat} (hm : m ≠ 0) {e t : Int} (ht : t ≤ e) :
    totalExponent (m <<< (e - t).toNat) t = totalExponent m e := by
  rw [← totalExponent_shiftLeft hm (e - t).toNat e]
  congr 1
  omega

/-- A mantissa that is not zero is not zero in a smaller unit either. -/
theorem shiftLeft_ne_zero {m : Nat} (hm : m ≠ 0) (d : Nat) : m <<< d ≠ 0 := by
  rw [Nat.shiftLeft_eq]
  exact Nat.mul_ne_zero hm (Nat.ne_of_gt (Nat.two_pow_pos d))

/-- A sign does not change how large a number is. -/
theorem natAbs_apply (s : Sign) (n : Int) : (s.apply n).natAbs = n.natAbs := by
  cases s <;> simp [Sign.apply]

/-- A sum is below four times the common bound of its sides. -/
theorem below_add {k : Int} {u v : UnpackedFloat} (hu : Below k u) (hv : Below k v)
    (hk : -150 ≤ k) : Below (k + 2) (.add .binary32 u v) := by
  have hmono {w : UnpackedFloat} (h : Below k w) : Below (k + 2) w := h.mono (by omega)
  match u, v with
  | .infinity _, _ | .notANumber, _ => exact hu.elim
  | _, .infinity _ | _, .notANumber => exact hv.elim
  | .zero s₁, .zero s₂ => cases s₁ <;> cases s₂ <;> trivial
  | .zero _, .finite .. => exact hmono hv
  | .finite .., .zero _ => exact hmono hu
  | .finite s₁ m₁ e₁ h₁, .finite s₂ m₂ e₂ h₂ =>
    have h₁ := Nat.ne_of_gt h₁
    have h₂ := Nat.ne_of_gt h₂
    refine below_normalize (a := m₁ <<< (e₁ - min e₁ e₂).toNat)
      (b := m₂ <<< (e₂ - min e₁ e₂).toNat) (shiftLeft_ne_zero h₁ _) (shiftLeft_ne_zero h₂ _) ?_
      ((totalExponent_decreaseExponent h₁ (by omega)).trans_le hu)
      ((totalExponent_decreaseExponent h₂ (by omega)).trans_le hv) hk
    refine (Int.natAbs_add_le _ _).trans ?_
    rw [natAbs_apply, natAbs_apply]
    exact Nat.le_refl _

/-- A difference is the sum with the number of the other sign. -/
theorem sub_eq_add_neg (spec : Format) (u v : UnpackedFloat) :
    UnpackedFloat.sub spec u v = UnpackedFloat.add spec u v.neg := by
  match u, v with
  | .notANumber, _ => rfl
  | u, .notANumber => cases u <;> rfl
  | .infinity _, .infinity _ | .zero _, .zero _ => rfl
  | .infinity _, .zero _ | .zero _, .infinity _ => rfl
  | .finite .., .zero _ | .zero _, .finite .. => rfl
  | .finite .., .infinity _ | .infinity _, .finite .. => rfl
  | .finite s₁ m₁ e₁ _, .finite s₂ m₂ e₂ _ =>
    have happly (n : Int) : (-s₂).apply n = -s₂.apply n := by
      cases s₂
      · exact (Int.neg_neg n).symm
      · rfl
    simp only [UnpackedFloat.sub, UnpackedFloat.add, UnpackedFloat.neg, happly, Int.sub_eq_add_neg]

/-- The negative of a number is below the same powers of two. -/
theorem below_neg {k : Int} {u : UnpackedFloat} (h : Below k u) : Below k u.neg := by
  cases u <;> exact h

/-- The negative of a rounded number is rounded. -/
theorem rounded_neg {u : UnpackedFloat} (h : Rounded u) : Rounded u.neg := by
  cases u <;> exact h

/-- A sum of rounded numbers is rounded. -/
theorem rounded_add {u v : UnpackedFloat} (hu : Rounded u) (hv : Rounded v) :
    Rounded (.add .binary32 u v) := by
  match u, v with
  | .notANumber, _ => trivial
  | u, .notANumber => cases u <;> trivial
  | .infinity s₁, .infinity s₂ | .zero s₁, .zero s₂ => cases s₁ <;> cases s₂ <;> trivial
  | .infinity _, .zero _ | .zero _, .infinity _ => trivial
  | .finite .., .infinity _ | .infinity _, .finite .. => trivial
  | .finite .., .zero _ => exact hu
  | .zero _, .finite .. => exact hv
  | .finite .., .finite .. => exact rounded_normalize _ _ _

/-- A difference is below four times the common bound of its sides. -/
theorem below_sub {k : Int} {u v : UnpackedFloat} (hu : Below k u) (hv : Below k v)
    (hk : -150 ≤ k) : Below (k + 2) (.sub .binary32 u v) := by
  rw [sub_eq_add_neg]
  exact below_add hu (below_neg hv) hk

/-- A difference of rounded numbers is rounded. -/
theorem rounded_sub {u v : UnpackedFloat} (hu : Rounded u) (hv : Rounded v) :
    Rounded (.sub .binary32 u v) := by
  rw [sub_eq_add_neg]
  exact rounded_add hu (rounded_neg hv)

/-- Whether a number is not negative. -/
def NotNegative : UnpackedFloat → Prop
  | .zero _ => True
  | .infinity s | .finite s .. => s = .positive
  | .notANumber => False

/-- Adding what is not negative does not take a power of two away. -/
theorem upFrom_add {k : Int} {u v : UnpackedFloat} (hu : UpFrom k u) (hv : NotNegative v)
    (hk : -148 ≤ k) : UpFrom k (.add .binary32 u v) := by
  match u, v with
  | .zero _, _ | .notANumber, _ => exact hu.elim
  | _, .notANumber => exact hv.elim
  | .infinity s₁, .infinity s₂ => cases hu; cases hv; rfl
  | .infinity _, .zero _ | .infinity _, .finite .. => exact hu
  | .finite .., .infinity _ => exact hv
  | .finite .., .zero _ => exact hu
  | .finite s₁ m₁ e₁ h₁, .finite s₂ m₂ e₂ h₂ =>
    obtain ⟨rfl, hk'⟩ := hu
    cases hv
    have h₁ := Nat.ne_of_gt h₁
    have hne := shiftLeft_ne_zero h₁ (e₁ - min e₁ e₂).toNat
    rw [← totalExponent_decreaseExponent h₁ (Int.min_le_left e₁ e₂)] at hk'
    have hle := totalExponent_mono hne
      (Nat.le_add_right _ (m₂ <<< (e₂ - min e₁ e₂).toNat)) (min e₁ e₂)
    exact upFrom_normalize hk (fun h0 => hne (Nat.eq_zero_of_add_eq_zero_right h0)) (hk'.trans hle)

/-! ## Quotients -/

/-- A quotient has as many digits as the one side has more than the other, or one more. -/
theorem totalExponent_div_le {m₁ m₂ : Nat} (h₁ : m₁ ≠ 0) (h₂ : m₂ ≠ 0) (e₁ e₂ : Int)
    (hq : m₁ / m₂ ≠ 0) :
    totalExponent (m₁ / m₂) (e₁ - e₂) ≤ totalExponent m₁ e₁ - totalExponent m₂ e₂ + 1 := by
  have hlog : (m₁ / m₂).log2 + m₂.log2 ≤ m₁.log2 := by
    rw [Nat.le_log2 h₁, Nat.pow_add]
    exact (Nat.mul_le_mul (Nat.log2_self_le hq) (Nat.log2_self_le h₂)).trans
      (Nat.div_mul_le_self m₁ m₂)
  simp only [totalExponent]
  omega

/-- A quotient of mantissas has at least as many digits in front of the point as the dividend has
more of them than the divisor. -/
theorem le_totalExponent_div {m₁ m₂ : Nat} (h₁ : m₁ ≠ 0) (h₂ : m₂ ≠ 0) (e₁ e₂ : Int) :
    totalExponent m₁ e₁ - totalExponent m₂ e₂ ≤ totalExponent (m₁ / m₂) (e₁ - e₂) := by
  have hlog : m₁.log2 < (m₁ / m₂).log2 + 1 + (m₂.log2 + 1) := by
    rw [Nat.log2_lt h₁, Nat.pow_add]
    calc m₁ < (m₁ / m₂ + 1) * m₂ := Nat.lt_mul_of_div_lt (Nat.lt_succ_self _) (Nat.pos_of_ne_zero h₂)
      _ ≤ 2 ^ ((m₁ / m₂).log2 + 1) * 2 ^ (m₂.log2 + 1) :=
        Nat.mul_le_mul Nat.lt_log2_self (Nat.le_of_lt Nat.lt_log2_self)
  simp only [totalExponent]
  omega

/-- A quotient is formed of a mantissa that is long enough for all the digits it may have. -/
theorem divCore_eq (m₁ : Nat) (e₁ : Int) (m₂ : Nat) (e₂ : Int) :
    ∃ (d : Nat) (a : Accuracy),
      e₁ - d - e₂ ≤ max (totalExponent m₁ e₁ - totalExponent m₂ e₂ - 24) (-149) ∧
      divCore .binary32 m₁ e₁ m₂ e₂ = ((m₁ <<< d) / m₂, e₁ - d - e₂, a) := by
  let t := min (e₁ - e₂) (max (totalExponent m₁ e₁ - totalExponent m₂ e₂ - 24) (-149))
  have ht : e₁ - (e₁ - e₂ - t).toNat - e₂ = t := by omega
  refine ⟨(e₁ - e₂ - t).toNat, (divCore .binary32 m₁ e₁ m₂ e₂).2.2,
    ht.trans_le (Int.min_le_right _ _), ?_⟩
  rw [ht]
  rfl

/-- A quotient is below every power of two above the quotient of the bounds. -/
theorem below_div {j k n : Int} {u v : UnpackedFloat} (hu : Below j u) (hv : UpFrom k v)
    (hn : j - k + 1 < n) (hn' : -148 < n) : Below n (.div .binary32 u v) := by
  match u, v with
  | .infinity _, _ | .notANumber, _ => exact hu.elim
  | _, .zero _ | _, .notANumber => exact hv.elim
  | .zero _, .infinity _ | .zero _, .finite .. => trivial
  | .finite .., .infinity _ => trivial
  | .finite s₁ m₁ e₁ h₁, .finite s₂ m₂ e₂ h₂ =>
    have h₁ := Nat.ne_of_gt h₁
    have h₂ := Nat.ne_of_gt h₂
    have hj : totalExponent m₁ e₁ ≤ j := hu
    have hk : k ≤ totalExponent m₂ e₂ := hv.2
    obtain ⟨d, a, hd, heq⟩ := divCore_eq m₁ e₁ m₂ e₂
    simp only [UnpackedFloat.div, heq]
    refine below_roundWithAccuracy (by omega) ?_
    by_cases hq : m₁ <<< d / m₂ = 0
    · have hlog : Nat.log2 0 = 0 := by decide
      rw [hq, totalExponent, hlog]
      omega
    · have hle := totalExponent_div_le (shiftLeft_ne_zero h₁ d) h₂ (e₁ - d) e₂ hq
      rw [totalExponent_shiftLeft h₁] at hle
      omega

/-- A quotient is rounded, whatever its sides are. -/
theorem rounded_div {u v : UnpackedFloat} : Rounded (.div .binary32 u v) := by
  match u, v with
  | .notANumber, _ => trivial
  | u, .notANumber => cases u <;> trivial
  | .infinity _, .infinity _ | .zero _, .zero _ => trivial
  | .infinity _, .zero _ | .zero _, .infinity _ => trivial
  | .finite .., .infinity _ | .infinity _, .finite .. => trivial
  | .finite .., .zero _ | .zero _, .finite .. => trivial
  | .finite s₁ m₁ e₁ h₁, .finite s₂ m₂ e₂ h₂ =>
    have h₁ := Nat.ne_of_gt h₁
    obtain ⟨d, a, hd, heq⟩ := divCore_eq m₁ e₁ m₂ e₂
    have hle := le_totalExponent_div (shiftLeft_ne_zero h₁ d) (Nat.ne_of_gt h₂) (e₁ - d) e₂
    rw [totalExponent_shiftLeft h₁] at hle
    simp only [UnpackedFloat.div, heq]
    exact rounded_roundWithAccuracy (by omega)

/-! ## Square roots -/

/-- A root is taken of a mantissa with an even exponent, long enough for all the digits it may
have. -/
theorem sqrtCore_eq (m : Nat) (e : Int) :
    ∃ (d : Nat) (t : Int) (a : Accuracy), e - d = 2 * t ∧
      t ≤ max ((totalExponent m e + 1) / 2 - 24) (-149) ∧
      sqrtCore .binary32 m e = (Nat.sqrt (m <<< d), t, a) := by
  let t := min (e / 2) (max ((totalExponent m e + 1) / 2 - 24) (-149))
  refine ⟨(e - 2 * t).toNat, t, _, by omega, Int.min_le_right _ _, rfl⟩

/-- A root has half as many digits in front of the point. -/
theorem le_totalExponent_sqrt {m : Nat} (hm : m ≠ 0) (t : Int) :
    (totalExponent m (2 * t) + 1) / 2 ≤ totalExponent (Nat.sqrt m) t := by
  have hlog : m.log2 / 2 ≤ (Nat.sqrt m).log2 := by
    have hne : Nat.sqrt m ≠ 0 := Nat.ne_of_gt (Nat.sqrt_pos.2 (Nat.pos_of_ne_zero hm))
    rw [Nat.le_log2 hne, Nat.le_sqrt, ← Nat.pow_add]
    exact (Nat.pow_le_pow_right (by decide) (by omega)).trans (Nat.log2_self_le hm)
  simp only [totalExponent]
  omega

/-- A square root has half as many digits in front of the point as the number. -/
theorem upFrom_sqrt {j k : Int} {u : UnpackedFloat} (h : UpFrom j u) (hk : 2 * k ≤ j + 1)
    (hk' : -148 ≤ k) : UpFrom k (.sqrt .binary32 u) := by
  match u with
  | .zero _ | .notANumber => exact h.elim
  | .infinity s => cases h; rfl
  | .finite s m e hm =>
    obtain ⟨rfl, hj⟩ := h
    have hm := Nat.ne_of_gt hm
    obtain ⟨d, t, a, hd, _, heq⟩ := sqrtCore_eq m e
    have hne := shiftLeft_ne_zero hm d
    have hle := le_totalExponent_sqrt hne t
    rw [← hd, totalExponent_shiftLeft hm] at hle
    simp only [UnpackedFloat.sqrt, heq]
    exact upFrom_roundWithAccuracy hk'
      (Nat.ne_of_gt (Nat.sqrt_pos.2 (Nat.pos_of_ne_zero hne))) (by omega)

/-- A square root is rounded, whatever it is taken of. -/
theorem rounded_sqrt {u : UnpackedFloat} : Rounded (.sqrt .binary32 u) := by
  match u with
  | .zero _ | .notANumber | .infinity .positive | .infinity .negative => trivial
  | .finite .negative .. => trivial
  | .finite .positive m e hm =>
    have hm := Nat.ne_of_gt hm
    obtain ⟨d, t, a, hd, ht, heq⟩ := sqrtCore_eq m e
    have hle := le_totalExponent_sqrt (shiftLeft_ne_zero hm d) t
    rw [← hd, totalExponent_shiftLeft hm] at hle
    simp only [UnpackedFloat.sqrt, heq]
    exact rounded_roundWithAccuracy (by omega)

/-! ## Numbers in patterns -/

/-- A number is stored as a number. -/
theorem stored_ne_notANumber {u : UnpackedFloat} (h : u ≠ .notANumber) (hu : Rounded u) :
    stored u ≠ .notANumber := by
  cases u with
  | infinity s => rw [stored_infinity]; nofun
  | zero s => rw [stored_zero]; nofun
  | notANumber => exact absurd rfl h
  | finite s m e hm => rw [stored_finite hm hu]; split <;> nofun

/-- Whatever is below a power of two is a number. -/
theorem Below.ne_notANumber {k : Int} {u : UnpackedFloat} (h : Below k u) : u ≠ .notANumber := by
  rintro rfl; exact h

/-- A number with so many digits in front of the point is not below a smaller power of two. -/
theorem UpFrom.not_below {j k : Int} {u : UnpackedFloat} (h : UpFrom k u) (hjk : j < k) :
    ¬ Below j u := by
  intro hb
  cases u with
  | finite s m e hm => exact absurd (h.2.trans hb) (by omega)
  | zero => exact h
  | _ => exact hb

/-- A number is below a power of two, or it has reached it in one direction or the other. -/
theorem below_or_upFrom (k : Int) {u : UnpackedFloat} (h : u ≠ .notANumber) :
    Below k u ∨ UpFrom (k + 1) u.abs := by
  cases u with
  | infinity => exact .inr rfl
  | zero => exact .inl trivial
  | notANumber => exact absurd rfl h
  | finite s m e hm =>
    rcases Int.lt_or_le k (totalExponent m e) with hlt | hle
    · exact .inr ⟨rfl, by omega⟩
    · exact .inl hle

/-- A stored sum is below four times the common bound of its sides. -/
theorem Below.add {x y : Single} {k : Int} (hx : Below k x.value) (hy : Below k y.value)
    (hk : -150 ≤ k) (hk' : k + 2 ≤ 128) : Below (k + 2) (x + y).value := by
  rw [value_add]
  exact (below_add hx hy hk).stored
    (rounded_add (storable_value x).rounded (storable_value y).rounded) hk'

/-- A stored difference is below four times the common bound of its sides. -/
theorem Below.sub {x y : Single} {k : Int} (hx : Below k x.value) (hy : Below k y.value)
    (hk : -150 ≤ k) (hk' : k + 2 ≤ 128) : Below (k + 2) (x - y).value := by
  rw [value_sub]
  exact (below_sub hx hy hk).stored
    (rounded_sub (storable_value x).rounded (storable_value y).rounded) hk'

/-- A stored product is below every storable power of two above the product of the bounds. -/
theorem Below.mul {x y : Single} {j k n : Int} (hx : Below j x.value) (hy : Below k y.value)
    (hn : j + k < n) (hn' : -148 ≤ n) (hn'' : n ≤ 128) : Below n (x * y).value := by
  rw [value_mul]
  exact (below_mul hx hy hn hn').stored
    (rounded_mul (storable_value x).rounded (storable_value y).rounded) hn''

/-- A stored quotient is below every storable power of two above the quotient of the bounds. -/
theorem Below.div {x y : Single} {j k n : Int} (hx : Below j x.value) (hy : UpFrom k y.value)
    (hn : j - k + 1 < n) (hn' : -148 < n) (hn'' : n ≤ 128) : Below n (x / y).value := by
  rw [value_div]
  exact (below_div hx hy hn hn').stored rounded_div hn''

/-- A whole number of 64 bits is below 2 to the power of 65 when it is rounded. -/
theorem below_ofUInt64 (n : UInt64) : Below 65 (ofUInt64 n).value := by
  rw [value_ofUInt64]
  refine Below.stored ?_ (rounded_normalize _ _ _) (by decide)
  rcases normalize_eq n.toNat 0 .positive with ⟨_, heq⟩ | ⟨h0, heq⟩ <;> rw [heq]
  · trivial
  · have hle : totalExponent (n.toNat : Int).natAbs 0 ≤ 64 := by
      rw [totalExponent_le_iff (by omega), Int.natAbs_natCast]
      exact n.toNat_lt
    exact below_round (by decide) (by omega) (by omega)

/-- A positive number stands above zero in the order of the numbers. -/
theorem rank_pos {k : Int} {u : UnpackedFloat} (h : UpFrom k u) (hu : Storable u) :
    0 < rank u := by
  match u with
  | .zero _ | .notANumber => exact h.elim
  | .infinity s => cases h; decide
  | .finite s m e hm =>
    obtain ⟨rfl, _⟩ := h
    obtain ⟨⟨_, _, _⟩, _⟩ := hu
    simp only [rank, Sign.apply]
    omega

/-- Where numbers rise, so do the powers of two that they have reached. -/
theorem UpFrom.of_rank_le {k : Int} {u v : UnpackedFloat} (h : UpFrom k u) (hu : Storable u)
    (hv : Storable v) (hv' : v ≠ .notANumber) (hle : rank u ≤ rank v) : UpFrom k v := by
  have hpos : 0 < rank v := Int.lt_of_lt_of_le (rank_pos h hu) hle
  match u, v with
  | _, .notANumber => exact absurd rfl hv'
  | _, .zero _ => exact absurd hpos (Int.lt_irrefl 0)
  | _, .infinity .positive => rfl
  | _, .infinity .negative => exact absurd hpos (by decide)
  | _, .finite .negative m e _ =>
    obtain ⟨⟨_, _, _⟩, _⟩ := hv
    exact absurd hpos (by simp only [rank, Sign.apply]; omega)
  | .infinity s, .finite .positive m e _ =>
    cases h
    obtain ⟨⟨_, _, _⟩, _⟩ := hv
    exact absurd hle (by simp only [rank, Sign.apply]; omega)
  | .finite s m₁ e₁ h₁, .finite .positive m₂ e₂ h₂ =>
    obtain ⟨rfl, hk⟩ := h
    obtain ⟨⟨hm₁, he₁, _⟩, _⟩ := hu
    obtain ⟨⟨_, _, hfull⟩, _⟩ := hv
    simp only [rank, Sign.apply] at hle
    refine ⟨rfl, hk.trans ?_⟩
    rcases Int.lt_trichotomy e₁ e₂ with he | rfl | he
    · -- The greater exponent is above the least, so its mantissa is as long as can be.
      have hlog₁ := (Nat.log2_lt (Nat.ne_of_gt h₁)).2 hm₁
      have hlog₂ := (Nat.le_log2 (Nat.ne_of_gt h₂)).2 (hfull.resolve_right (by omega))
      simp only [totalExponent]
      omega
    · exact totalExponent_mono (Nat.ne_of_gt h₁) (by omega) e₁
    · omega

/-- A number that is no smaller has no fewer digits in front of the point. -/
theorem UpFrom.of_le {k : Int} {x y : Single} (h : UpFrom k x.value) (hle : x ≤ y) :
    UpFrom k y.value := by
  obtain ⟨_, hy, hle⟩ := (le_iff_rank x y).1 hle
  exact h.of_rank_le (storable_value x) (storable_value y) ((isNaN_eq_false_iff y).1 hy) hle

/-- A number that is larger has no fewer digits in front of the point. -/
theorem UpFrom.of_lt {k : Int} {x y : Single} (h : UpFrom k x.value) (hlt : x < y) :
    UpFrom k y.value := by
  obtain ⟨_, hy, hlt⟩ := (lt_iff_rank x y).1 hlt
  exact h.of_rank_le (storable_value x) (storable_value y) ((isNaN_eq_false_iff y).1 hy)
    (Int.le_of_lt hlt)

/-- A positive number that is no greater than a bound is bounded. -/
theorem UpFrom.below_of_le {j k : Int} {x y : Single} (h : UpFrom j x.value) (hle : x ≤ y)
    (hy : Below k y.value) : Below k x.value := by
  have habs : x.value.abs = x.value := by
    generalize x.value = u at h
    match u with
    | .zero _ | .notANumber => exact h.elim
    | .infinity s => cases h; rfl
    | .finite s m e hm => cases h.1; rfl
  refine (below_or_upFrom k ((isNaN_eq_false_iff x).1 ((le_iff_rank x y).1 hle).1)).resolve_right
    fun hup => ?_
  rw [habs] at hup
  exact (hup.of_le hle).not_below (Int.lt_succ k) hy

/-- A number that is no further from zero than a bound is bounded. -/
theorem below_of_abs_le {k : Int} {x y : Single} (hle : x.abs ≤ y) (hy : Below k y.value) :
    Below k x.value := by
  obtain ⟨hx, _, _⟩ := (le_iff_rank _ y).1 hle
  have hx' : x.value ≠ .notANumber := by
    rw [isNaN_eq_false_iff, value_abs] at hx
    intro h
    rw [h] at hx
    exact hx rfl
  refine (below_or_upFrom k hx').resolve_right fun hup => ?_
  rw [← value_abs] at hup
  exact (hup.of_le hle).not_below (Int.lt_succ k) hy

/-! ## What is no number -/

/-- A product of numbers that are not infinite is a number. -/
theorem isNaN_mul_of_below {x y : Single} {j k : Int} (hx : Below j x.value) (hy : Below k y.value) :
    (x * y).isNaN = false := by
  rw [isNaN_eq_false_iff, value_mul]
  refine stored_ne_notANumber ?_ (rounded_mul (storable_value x).rounded (storable_value y).rounded)
  have hn : j + k < max (j + k + 1) (-148) := by omega
  exact (below_mul hx hy hn (Int.le_max_right _ _)).ne_notANumber

/-- A sum with a finite side is a number if its other side is one. -/
theorem add_ne_notANumber {k : Int} {u v : UnpackedFloat} (hu : Below k u) (hv : v ≠ .notANumber) :
    UnpackedFloat.add .binary32 u v ≠ .notANumber := by
  have hbelow {j : Int} (hv : Below j v) : UnpackedFloat.add .binary32 u v ≠ .notANumber :=
    (below_add (k := max (max j k) (-150)) (hu.mono (by omega)) (hv.mono (by omega))
      (by omega)).ne_notANumber
  match v with
  | .notANumber => exact absurd rfl hv
  | .zero _ => exact hbelow (j := 0) trivial
  | .finite _ m e _ => exact hbelow (j := totalExponent m e) (Int.le_refl _)
  | .infinity s =>
    match u with
    | .notANumber | .infinity _ => exact hu.elim
    | .zero _ | .finite .. => nofun

/-- Nothing added to what is no number makes a number of it. -/
theorem add_notANumber (spec : Format) (u : UnpackedFloat) :
    UnpackedFloat.add spec u .notANumber = .notANumber := by
  cases u <;> rfl

/-- A sum is a number if one side is, and the other is not infinite either. -/
theorem isNaN_add_of_below {x y : Single} {k : Int} (hx : Below k x.value) (hy : y.isNaN = false) :
    (x + y).isNaN = false := by
  rw [isNaN_eq_false_iff] at hy ⊢
  rw [value_add]
  exact stored_ne_notANumber (add_ne_notANumber hx hy)
    (rounded_add (storable_value x).rounded (storable_value y).rounded)

/-- A sum that is a number is one of numbers. -/
theorem isNaN_of_isNaN_add {x y : Single} (h : (x + y).isNaN = false) :
    x.isNaN = false ∧ y.isNaN = false := by
  simp only [isNaN_eq_false_iff] at h ⊢
  constructor
  · intro hx
    rw [value_add, hx] at h
    exact h stored_notANumber
  · intro hy
    rw [value_add, hy, add_notANumber] at h
    exact h stored_notANumber

/-! ## Squares -/

/-- A rounded number that is not negative is none when it is stored. -/
theorem NotNegative.stored {u : UnpackedFloat} (h : NotNegative u) (hu : Rounded u) :
    NotNegative (stored u) := by
  cases u with
  | infinity s => rwa [stored_infinity]
  | zero s => rw [stored_zero]; trivial
  | notANumber => exact h.elim
  | finite s m e hm => rw [stored_finite hm hu]; split <;> exact h

/-- A square is not negative. -/
theorem notNegative_mul_self {x : Single} (h : x.isNaN = false) : NotNegative (x * x).value := by
  rw [value_mul]
  refine NotNegative.stored ?_ (rounded_mul (storable_value x).rounded (storable_value x).rounded)
  rw [isNaN_eq_false_iff] at h
  generalize x.value = u at h
  match u with
  | .notANumber => exact absurd rfl h
  | .zero _ => trivial
  | .infinity s => cases s <;> rfl
  | .finite s m e hm =>
    obtain ⟨r, _, _, heq⟩ := exists_roundWithAccuracy (s * s) (m * m) (e + e) .exact
    have hs : s * s = .positive := by cases s <;> rfl
    rw [UnpackedFloat.mul, heq, hs, cut]
    split <;> trivial

/-- A square that is a number is one of a number. -/
theorem isNaN_of_isNaN_mul_self {x : Single} (h : (x * x).isNaN = false) : x.isNaN = false := by
  rw [isNaN_eq_false_iff] at h ⊢
  intro hx
  rw [value_mul, hx] at h
  exact h stored_notANumber

/-- A square root that is a number is one of a number. -/
theorem isNaN_of_isNaN_sqrt {x : Single} (h : x.sqrt.isNaN = false) : x.isNaN = false := by
  rw [isNaN_eq_false_iff] at h ⊢
  intro hx
  rw [value_sqrt, hx] at h
  exact h stored_notANumber

/-- A stored square has twice as many digits in front of the point as the number, or one less. -/
theorem UpFrom.mul_self {x : Single} {k n : Int} (h : UpFrom k x.value.abs) (hn : n < 2 * k)
    (hn' : -148 ≤ n) : UpFrom n (x * x).value := by
  rw [value_mul]
  exact (upFrom_mul_self h hn hn').stored
    (rounded_mul (storable_value x).rounded (storable_value x).rounded)

/-- Adding something that is not negative takes away no digit in front of the point. -/
theorem UpFrom.add {x y : Single} {k : Int} (hx : UpFrom k x.value) (hy : NotNegative y.value)
    (hk : -148 ≤ k) : UpFrom k (x + y).value := by
  rw [value_add]
  exact (upFrom_add hx hy hk).stored
    (rounded_add (storable_value x).rounded (storable_value y).rounded)

/-- A stored square root has half as many digits in front of the point as the number. -/
theorem UpFrom.sqrt {x : Single} {j k : Int} (hx : UpFrom j x.value) (hk : 2 * k ≤ j + 1)
    (hk' : -148 ≤ k) : UpFrom k x.sqrt.value := by
  rw [value_sqrt]
  exact (upFrom_sqrt hx hk hk').stored rounded_sqrt

/-- The sides of a sum may be exchanged. -/
theorem value_add_comm (x y : Single) : (x + y).value = (y + x).value := by
  rw [value_add, value_add]
  generalize x.value = u
  generalize y.value = v
  congr 1
  match u, v with
  | .notANumber, v => exact (add_notANumber _ v).symm
  | u, .notANumber => exact add_notANumber _ u
  | .infinity s, .infinity s' | .zero s, .zero s' => cases s <;> cases s' <;> rfl
  | .infinity _, .zero _ | .zero _, .infinity _ => rfl
  | .finite .., .infinity _ | .infinity _, .finite .. => rfl
  | .finite .., .zero _ | .zero _, .finite .. => rfl
  | .finite s₁ m₁ e₁ _, .finite s₂ m₂ e₂ _ =>
    simp only [UnpackedFloat.add, Int.min_comm e₂ e₁]
    rw [Int.add_comm]

end Single

namespace Vec

open Single

/-- Whether both coordinates are below a power of two, in either direction. -/
structure Below (k : Int) (v : Vec) : Prop where
  /-- The horizontal one is. -/
  x : Single.Below k v.x.value
  /-- The vertical one is. -/
  y : Single.Below k v.y.value

/-- The coordinates of a vector are no longer than the vector, up to the next power of two. -/
theorem below_of_length_le {v : Vec} {limit : Single} {k : Int} (h : v.length ≤ limit)
    (hl : Single.Below k limit.value) (hk : -70 ≤ k) : v.Below k := by
  have hsum : (v.x * v.x + v.y * v.y).isNaN = false :=
    isNaN_of_isNaN_sqrt ((le_iff_rank _ _).1 h).1
  obtain ⟨hx, hy⟩ := isNaN_of_isNaN_add hsum
  have hx := isNaN_of_isNaN_mul_self hx
  have hy := isNaN_of_isNaN_mul_self hy
  have hroot (hup : UpFrom (2 * k + 1) (v.x * v.x + v.y * v.y).value) : False :=
    ((hup.sqrt (k := k + 1) (by omega) (by omega)).of_le h).not_below (Int.lt_succ k) hl
  constructor
  · refine (below_or_upFrom k ((isNaN_eq_false_iff _).1 hx)).resolve_right fun hup => ?_
    exact hroot ((UpFrom.mul_self hup (by omega) (by omega)).add (notNegative_mul_self hy)
      (by omega))
  · refine (below_or_upFrom k ((isNaN_eq_false_iff _).1 hy)).resolve_right fun hup => ?_
    refine hroot ?_
    rw [Single.value_add_comm]
    exact ((UpFrom.mul_self hup (by omega) (by omega)).add (notNegative_mul_self hx) (by omega))

/-- A vector below a power of two is below every larger one. -/
theorem Below.mono {j k : Int} {v : Vec} (h : v.Below j) (hjk : j ≤ k) : v.Below k :=
  ⟨h.x.mono hjk, h.y.mono hjk⟩

/-- A sum of vectors is below four times their common bound. -/
theorem Below.add {v w : Vec} {k : Int} (hv : v.Below k) (hw : w.Below k) (hk : -150 ≤ k)
    (hk' : k + 2 ≤ 128) : (v + w).Below (k + 2) :=
  ⟨hv.x.add hw.x hk hk', hv.y.add hw.y hk hk'⟩

/-- A difference of vectors is below four times their common bound. -/
theorem Below.sub {v w : Vec} {k : Int} (hv : v.Below k) (hw : w.Below k) (hk : -150 ≤ k)
    (hk' : k + 2 ≤ 128) : (v - w).Below (k + 2) :=
  ⟨hv.x.sub hw.x hk hk', hv.y.sub hw.y hk hk'⟩

/-- A vector times a number is below every storable power of two above the product of the bounds. -/
theorem Below.mul {v : Vec} {s : Single} {j k n : Int} (hv : v.Below j)
    (hs : Single.Below k s.value) (hn : j + k < n) (hn' : -148 ≤ n) (hn'' : n ≤ 128) :
    (v * s).Below n :=
  ⟨hv.x.mul hs hn hn' hn'', hv.y.mul hs hn hn' hn''⟩

/-- A shortened vector is finite: it is divided by a length that is not small. -/
theorem Below.clampLength {v : Vec} {limit : Single} {k : Int} (hv : v.Below k)
    (hl : UpFrom 14 (limit * limit).value) (hl' : Single.Below 7 limit.value) (hk : -100 ≤ k)
    (hk' : k + 3 ≤ 128) : (v.clampLength limit).Below (k + 3) := by
  unfold Vec.clampLength
  extract_lets squared direction
  split
  · rename_i hlt
    have hroot : UpFrom 7 squared.sqrt.value := (hl.of_lt hlt).sqrt (by decide) (by decide)
    exact ⟨hl'.mul (hv.x.div hroot (n := k - 5) (by omega) (by omega) (by omega)) (by omega)
        (by omega) hk',
      hl'.mul (hv.y.div hroot (n := k - 5) (by omega) (by omega) (by omega)) (by omega)
        (by omega) hk'⟩
  · exact hv.mono (by omega)

end Vec

end Pursuit
