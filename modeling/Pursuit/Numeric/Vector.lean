import Pursuit.Numeric.Single

/-! # Vectors of the plane

* **`Vec`** — a pair of single-precision coordinates with component-wise sum and difference.
* **`Vec.normalize?`** — the direction of a vector that has one.
* **`Vec.clampLength`** — a vector shortened to a greatest length.

Every operation rounds exactly where it is written: `dot` adds two rounded products, `length` is
the root of `dot`, and a vector is divided by a number component by component. -/

namespace Pursuit

/-- A point or direction of the plane. -/
structure Vec where
  /-- Horizontal coordinate. -/
  x : Single
  /-- Vertical coordinate, growing downwards. -/
  y : Single
deriving DecidableEq, Inhabited, Repr

namespace Vec

/-- The origin. -/
def zero : Vec := ⟨0, 0⟩

instance : Add Vec := ⟨fun a b => ⟨a.x + b.x, a.y + b.y⟩⟩
instance : Sub Vec := ⟨fun a b => ⟨a.x - b.x, a.y - b.y⟩⟩
instance : HMul Vec Single Vec := ⟨fun v s => ⟨v.x * s, v.y * s⟩⟩
instance : HDiv Vec Single Vec := ⟨fun v s => ⟨v.x / s, v.y / s⟩⟩

/-- The scalar product. -/
def dot (a b : Vec) : Single := a.x * b.x + a.y * b.y

/-- The Euclidean length. -/
def length (v : Vec) : Single := (v.dot v).sqrt

/-- The distance of two points. -/
def distance (a b : Vec) : Single := (a - b).length

/-- The direction of a vector: its multiple by the reciprocal of its length, if that reciprocal is
a positive finite number. -/
def normalize? (v : Vec) : Option Vec :=
  let reciprocal := 1 / v.length
  if reciprocal.isFinite ∧ (0 : Single) < reciprocal then some (v * reciprocal) else none

/-- The vector itself if its squared length is at most the square of `limit`, otherwise its
multiple of length `limit`. -/
def clampLength (v : Vec) (limit : Single) : Vec :=
  let squared := v.dot v
  if limit * limit < squared then
    let direction := v / squared.sqrt
    ⟨limit * direction.x, limit * direction.y⟩
  else v

end Vec

end Pursuit
