/-! # Single-precision numbers as bit patterns

Positions, angles and forces travel between machines as 32-bit patterns, so a number *is* its
pattern here, and arithmetic is the binary32 arithmetic of those patterns.

* **`Single`** — the 32 bits of a binary32 number; two numbers are equal when their bits are.
* **`Single.arith`** — an operation rounded once. A not-a-number operand is passed on, made quiet,
  the left one first; an operation without a result gives `Single.invalid`.
* **`<`, `≤`** — the order of the numbers: false whenever a side is not a number, blind to the
  sign of zero. -/

namespace Pursuit

/-- A binary32 number, given by its bits. -/
structure Single where
  /-- Sign, exponent and fraction, from the highest bit down. -/
  bits : UInt32
deriving DecidableEq, Inhabited, Repr

namespace Single

/-! ## Classification -/

/-- The number whose bits these are, for the machine's own arithmetic. -/
def toFloat32 (x : Single) : Float32 := Float32.ofBits x.bits

/-- The bits of a machine number. -/
def ofFloat32 (x : Float32) : Single := ⟨x.toBits⟩

/-- The bits below the sign. -/
def magnitudeBits (x : Single) : UInt32 := x.bits &&& 0x7fffffff

/-- Whether the sign bit is set. -/
def isNegative (x : Single) : Bool := x.bits ≥ 0x80000000

/-- Whether the pattern stands for no number. -/
def isNaN (x : Single) : Bool := x.magnitudeBits > 0x7f800000

/-- Whether the pattern stands for a number other than the two infinities. -/
def isFinite (x : Single) : Bool := x.magnitudeBits < 0x7f800000

/-! ## Arithmetic -/

/-- The result of an operation on numbers that has no result. -/
def invalid : Single := ⟨0xffc00000⟩

/-- A pattern that stands for no number, marked as quiet. -/
def quiet (x : Single) : Single := ⟨x.bits ||| 0x00400000⟩

/-- The machine's result, with every pattern that stands for no number replaced by `invalid`. -/
def ofResult (r : Float32) : Single := if (ofFloat32 r).isNaN then invalid else ofFloat32 r

/-- A binary operation, rounded once; a side that is no number is passed on. -/
def arith (op : Float32 → Float32 → Float32) (x y : Single) : Single :=
  if x.isNaN then x.quiet
  else if y.isNaN then y.quiet
  else ofResult (op x.toFloat32 y.toFloat32)

instance : Add Single := ⟨arith (· + ·)⟩
instance : Sub Single := ⟨arith (· - ·)⟩
instance : Mul Single := ⟨arith (· * ·)⟩
instance : Div Single := ⟨arith (· / ·)⟩

/-- Negation flips the sign bit, of every pattern. -/
instance : Neg Single := ⟨fun x => ⟨x.bits ^^^ 0x80000000⟩⟩

/-- Clears the sign bit. -/
def abs (x : Single) : Single := ⟨x.magnitudeBits⟩

/-- The square root, rounded once. -/
def sqrt (x : Single) : Single :=
  if x.isNaN then x.quiet else ofResult x.toFloat32.sqrt

/-! ## Order -/

instance : LT Single := ⟨fun x y => x.toFloat32 < y.toFloat32⟩
instance : LE Single := ⟨fun x y => x.toFloat32 ≤ y.toFloat32⟩

instance (x y : Single) : Decidable (x < y) := Float32.decLt x.toFloat32 y.toFloat32
instance (x y : Single) : Decidable (x ≤ y) := Float32.decLe x.toFloat32 y.toFloat32

/-- Moves `x` into the interval from `lo` to `hi`. What is no number stays, and so does the sign
of a zero. -/
def clamp (x lo hi : Single) : Single :=
  if x < lo then lo else if hi < x then hi else x

/-! ## Whole numbers -/

/-- A word of 64 bits, rounded to the nearest number. -/
def ofUInt64 (n : UInt64) : Single := ofFloat32 n.toFloat32

/-- Numerals stand for the nearest number. -/
instance (n : Nat) : OfNat Single n := ⟨ofUInt64 (UInt64.ofNat n)⟩

/-- The result of an invalid operation is no number. -/
@[simp] theorem isNaN_invalid : invalid.isNaN = true := by decide

/-- A left side that is no number is what an operation gives, quieted. -/
theorem arith_of_isNaN_left (op : Float32 → Float32 → Float32) {x : Single} (y : Single)
    (h : x.isNaN = true) : arith op x y = x.quiet := by
  simp [arith, h]

/-- A right side that is no number is what an operation gives, quieted, if the left side is one. -/
theorem arith_of_isNaN_right (op : Float32 → Float32 → Float32) {x y : Single}
    (hx : x.isNaN = false) (hy : y.isNaN = true) : arith op x y = y.quiet := by
  simp [arith, hx, hy]

/-- The result of an operation is a number, or the one pattern for invalid operations. -/
theorem ofResult_eq (r : Float32) :
    ofResult r = invalid ∨ (ofResult r = ofFloat32 r ∧ (ofResult r).isNaN = false) := by
  unfold ofResult
  cases h : (ofFloat32 r).isNaN <;> simp [h]

end Single

end Pursuit
