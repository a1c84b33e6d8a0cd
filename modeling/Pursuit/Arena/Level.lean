import Pursuit.Numeric.Vector

/-! # Levels

* **`Level`** — where prey, hunters and obstacles of a level start.
* **`Level.number`** — the five levels; every other number stands for the first. -/

namespace Pursuit

/-- The start of a level. -/
structure Level where
  /-- The pieces of the first player, who crosses the field. -/
  prey : List Vec
  /-- The pieces of the second player, who hunts. -/
  hunters : List Vec
  /-- The obstacles: centre and radius. -/
  obstacles : List (Vec × Single)
deriving DecidableEq, Repr

namespace Level

/-- How many different levels there are. -/
def count : UInt32 := 5

/-- Points with whole coordinates. -/
def points (coordinates : List (Nat × Nat)) : List Vec :=
  coordinates.map fun (x, y) => ⟨Single.ofUInt64 (.ofNat x), Single.ofUInt64 (.ofNat y)⟩

/-- Circles with whole coordinates and radii. -/
def circles (coordinates : List (Nat × Nat × Nat)) : List (Vec × Single) :=
  coordinates.map fun (x, y, r) =>
    (⟨Single.ofUInt64 (.ofNat x), Single.ofUInt64 (.ofNat y)⟩, Single.ofUInt64 (.ofNat r))

/-- The level with a number. -/
def number (n : UInt32) : Level :=
  if n = 2 then
    { prey := points [(20, 96), (100, 80), (180, 64), (380, 80), (460, 96)]
      hunters := points [(20, 360), (100, 344), (300, 328), (380, 344), (460, 360)]
      obstacles := circles
        [(240, 240, 50), (0, 0, 50), (0, 480, 50), (480, 0, 50), (480, 480, 50)] }
  else if n = 3 then
    { prey := points [(20, 96), (60, 80), (100, 64), (420, 80), (460, 96)]
      hunters := points [(20, 360), (60, 344), (380, 328), (420, 344), (460, 360)]
      obstacles := circles
        [(240, 0, 75), (240, 480, 75), (240, 80, 60), (240, 400, 60), (0, 240, 50),
          (480, 240, 50), (160, 240, 30), (320, 240, 30)] }
  else if n = 4 then
    { prey := points [(340, 96), (370, 80), (400, 64), (430, 80), (460, 96)]
      hunters := points [(20, 360), (50, 344), (80, 328), (110, 344), (140, 360)]
      obstacles := circles
        [(40, 40, 100), (440, 440, 100), (240, 40, 75), (240, 440, 75), (200, 200, 30),
          (280, 280, 30)] }
  else if n = 5 then
    { prey := points [(60, 80), (150, 64), (240, 48), (330, 64), (420, 80)]
      hunters := points [(100, 380), (180, 360), (300, 360), (380, 380), (240, 420)]
      obstacles := circles
        [(120, 200, 60), (360, 200, 60), (240, 300, 40), (60, 330, 35), (420, 330, 35)] }
  else
    { prey := points [(20, 96), (60, 96), (100, 96), (420, 96), (460, 96)]
      hunters := points [(20, 360), (60, 360), (380, 360), (420, 360), (460, 360)]
      obstacles := circles
        [(44, 192, 44), (132, 192, 44), (436, 192, 44), (348, 192, 44), (216, 272, 12),
          (264, 272, 12)] }

/-- A number without a level of its own stands for the first. -/
theorem number_eq_of_unknown {n : UInt32} (h : n ≠ 2 ∧ n ≠ 3 ∧ n ≠ 4 ∧ n ≠ 5) :
    number n = number 1 := by
  simp [number, h]

end Level

end Pursuit
