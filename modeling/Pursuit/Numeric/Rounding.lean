import Pursuit.Numeric.Single

/-! # Rounding a quotient to the nearest number

* **`roundHalfEven n d`** — the whole number nearest to `n / d`, an exact half to the even
  neighbour.
* **`Single.ofRatio s n d`** — the binary32 number nearest to `±n / d`, with gradual underflow and
  overflow to infinity. Rounding happens once, on the exact quotient. -/

namespace Pursuit

/-- The whole number nearest to `num / den`; an exact half goes to the even neighbour. -/
def roundHalfEven (num den : Nat) : Nat :=
  let quotient := num / den
  let rest := 2 * (num % den)
  if rest < den then quotient
  else if den < rest then quotient + 1
  else quotient + quotient % 2

/-- Whole quotients are kept. -/
theorem roundHalfEven_mul (q : Nat) {den : Nat} (h : 0 < den) :
    roundHalfEven (q * den) den = q := by
  simp [roundHalfEven, Nat.mul_div_cancel q h, Nat.mul_mod_left, h]

/-- The exponent of the greatest power of two that is at most `num / den`. -/
def binaryExponent (num den : Nat) : Int :=
  let guess : Int := (num.log2 : Int) - (den.log2 : Int)
  let reached :=
    if 0 ≤ guess then den <<< guess.toNat ≤ num
    else den ≤ num <<< (-guess).toNat
  if reached then guess else guess - 1

namespace Single

/-- The infinity of either sign. -/
def infinity (negative : Bool) : Single := ⟨if negative then 0xff800000 else 0x7f800000⟩

/-- The zero of either sign. -/
def zero (negative : Bool) : Single := ⟨if negative then 0x80000000 else 0⟩

/-- The number nearest to `num / den`, negated if `negative`; an exact half goes to the even
neighbour, and what rounds beyond the largest number is infinite.

A number is a whole multiple `m` of `2 ^ e` with `e ≥ -149` and `m < 2 ^ 24`; the pattern of the
rounded multiple is `(e + 149) * 2 ^ 23 + m`, also when `m` rounds up to `2 ^ 24`. -/
def ofRatio (negative : Bool) (num den : Nat) : Single :=
  if num = 0 then zero negative
  else
    let unit : Int := max (-149) (binaryExponent num den - 23)
    let multiple :=
      if 0 ≤ unit then roundHalfEven num (den <<< unit.toNat)
      else roundHalfEven (num <<< (-unit).toNat) den
    let pattern := (unit + 149).toNat * 0x800000 + multiple
    if pattern ≥ 0x7f800000 then infinity negative
    else ⟨(if negative then 0x80000000 else 0) + UInt32.ofNat pattern⟩

/-- A finite number as `multiple * 2 ^ unit`, without its sign. -/
def significand (x : Single) : Nat × Int :=
  let exponent := (x.magnitudeBits >>> 23).toNat
  let fraction := (x.bits &&& 0x007fffff).toNat
  if exponent = 0 then (fraction, -149)
  else (fraction + 0x800000, (exponent : Int) - 150)

end Single

end Pursuit
