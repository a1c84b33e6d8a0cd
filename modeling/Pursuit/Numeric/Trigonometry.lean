import Pursuit.Numeric.Rounding

/-! # Cosine and sine of single-precision angles

Both are the exact values rounded once. A finite angle is turned into a whole number of
`2 ^ (-448)`, so its reduction by multiples of a quarter turn loses nothing that shows in the
24 places of the result, and the power series are summed at the same scale.

* **`Single.cos`, `Single.sin`** — the rounded values; an angle that is infinite or no number has
  no result. -/

namespace Pursuit

namespace Angle

/-- The number of binary places of the fixed-point values below. -/
def places : Nat := 448

/-- One, as a fixed-point value. -/
def one : Int := Int.pow 2 places

/-- Half a turn: the circle's constant to 448 binary places, rounded down. -/
def halfTurn : Int :=
  0x3243f6a8885a308d313198a2e03707344a4093822299f31d0082efa98ec4e6c89452821e638d01377be5466cf34e90c6cc0ac29b7c97c50dd

/-- The sum of `count` terms of an alternating power series. Each term is the one before it times
`square / (k * (k + 1))`, with the sign changed, and `k` grows by two. -/
def alternatingSum (square : Int) : Nat → Int → Nat → Int
  | 0, _, _ => 0
  | count + 1, term, k =>
    term + alternatingSum square count (-(term * square / one / (k * (k + 1) : Nat))) (k + 2)

/-- The sine of a fixed-point angle of at most an eighth of a turn, either way. -/
def sineSeries (r : Int) : Int := alternatingSum (r * r / one) 50 r 2

/-- The cosine of a fixed-point angle of at most an eighth of a turn, either way. -/
def cosineSeries (r : Int) : Int := alternatingSum (r * r / one) 50 one 1

/-- Splits an angle into the nearest whole number of quarter turns and what is left. -/
def reduce (angle : Int) : Int × Int :=
  let quarters := (4 * angle + halfTurn) / (2 * halfTurn)
  (quarters, (2 * angle - quarters * halfTurn) / 2)

/-- The sine of `quarters` quarter turns and a rest, kept within one either way. -/
def sineOf (quarters rest : Int) : Int :=
  let value :=
    if quarters % 4 = 0 then sineSeries rest
    else if quarters % 4 = 1 then cosineSeries rest
    else if quarters % 4 = 2 then -sineSeries rest
    else -cosineSeries rest
  max (-one) (min one value)

end Angle

namespace Single

/-- A finite number as a whole number of `2 ^ (-448)`. -/
def fixedPoint (x : Single) : Int :=
  let (multiple, unit) := x.significand
  let size : Int := multiple * Int.pow 2 (unit + Angle.places).toNat
  if x.isNegative then -size else size

/-- The number nearest to a fixed-point value. -/
def ofFixedPoint (value : Int) : Single :=
  ofRatio (value < 0) value.natAbs (Nat.pow 2 Angle.places)

/-- The sine of an angle in radians. The sine of a zero is that zero. -/
def sin (x : Single) : Single :=
  if x.isNaN then x.quiet
  else if !x.isFinite then invalid
  else if x.magnitudeBits = 0 then x
  else
    let (quarters, rest) := Angle.reduce x.fixedPoint
    ofFixedPoint (Angle.sineOf quarters rest)

/-- The cosine of an angle in radians: the sine a quarter turn further on. -/
def cos (x : Single) : Single :=
  if x.isNaN then x.quiet
  else if !x.isFinite then invalid
  else
    let (quarters, rest) := Angle.reduce x.fixedPoint
    ofFixedPoint (Angle.sineOf (quarters + 1) rest)

end Single

end Pursuit
