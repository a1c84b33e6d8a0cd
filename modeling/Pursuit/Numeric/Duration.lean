import Pursuit.Numeric.Rounding

/-! # Lengths of time

* **`Duration`** — a whole number of nanoseconds below `2 ^ 64` seconds.
* **`Duration.add?`** — the sum, if it is a length of time.
* **`Duration.toSingle`** — seconds as a single-precision number.
* **`Duration.scale?`** — a multiple by a double-precision factor, if it is a length of time,
  rounded to whole nanoseconds. -/

namespace Pursuit

/-- A length of time: a whole number of nanoseconds, of fewer than `2 ^ 64` seconds. -/
structure Duration where
  /-- The length in nanoseconds. -/
  nanos : Nat
  /-- The whole seconds fit a word of 64 bits. -/
  nanos_lt : nanos < UInt64.size * 1000000000 := by decide
deriving DecidableEq

namespace Duration

/-- No time at all. -/
def zero : Duration := ⟨0, by decide⟩

instance : Inhabited Duration := ⟨zero⟩

/-- The given number of nanoseconds, if it is a length of time. -/
def ofNanos? (n : Nat) : Option Duration :=
  if h : n < UInt64.size * 1000000000 then some ⟨n, h⟩ else none

/-- Whole seconds. -/
def ofSecs (s : UInt64) : Duration :=
  ⟨s.toNat * 1000000000, Nat.mul_lt_mul_of_pos_right s.toNat_lt (by decide)⟩

/-- Whole milliseconds. -/
def ofMillis (m : UInt64) : Duration :=
  ⟨m.toNat * 1000000, by have := m.toNat_lt; simp only [UInt64.size]; omega⟩

/-- The whole seconds. -/
def secs (d : Duration) : Nat := d.nanos / 1000000000

/-- The nanoseconds beyond the whole seconds. -/
def subsecNanos (d : Duration) : Nat := d.nanos % 1000000000

instance : LE Duration := ⟨fun a b => a.nanos ≤ b.nanos⟩
instance : LT Duration := ⟨fun a b => a.nanos < b.nanos⟩
instance (a b : Duration) : Decidable (a ≤ b) := inferInstanceAs (Decidable (a.nanos ≤ b.nanos))
instance (a b : Duration) : Decidable (a < b) := inferInstanceAs (Decidable (a.nanos < b.nanos))
instance : Min Duration := ⟨fun a b => if a ≤ b then a else b⟩
instance : Max Duration := ⟨fun a b => if a ≤ b then b else a⟩

/-- The sum of two lengths of time, if it is one. -/
def add? (a b : Duration) : Option Duration := ofNanos? (a.nanos + b.nanos)

/-- A sum is formed exactly when it is short enough. -/
theorem add?_eq_some_iff {a b c : Duration} : a.add? b = some c ↔ a.nanos + b.nanos = c.nanos := by
  unfold add? ofNanos?
  split
  · constructor
    · intro h; cases h; rfl
    · intro h; cases c; simp_all
  · rename_i h
    constructor
    · intro h'; cases h'
    · intro h'; exact absurd (h' ▸ c.nanos_lt) h

/-- Seconds as a single-precision number: the whole seconds and the fraction are rounded apart and
then added. -/
def toSingle (d : Duration) : Single :=
  Single.ofUInt64 (UInt64.ofNat d.secs)
    + Single.ofUInt64 (UInt64.ofNat d.subsecNanos) / 1000000000

/-- Seconds as a double-precision number, rounded in the same way. -/
def toDouble (d : Duration) : Float :=
  (UInt64.ofNat d.secs).toFloat + (UInt64.ofNat d.subsecNanos).toFloat / 1000000000

/-- A number of seconds as a length of time, rounded to whole nanoseconds with an exact half to the
even neighbour. Numbers below zero, infinities and what is no number give none. -/
def ofSeconds? (x : Float) : Option Duration :=
  if x.isNaN || x.isInf || x < 0 then none
  else
    let exponent := ((x.toBits >>> 52) &&& 0x7ff).toNat
    let fraction := (x.toBits &&& 0x000fffffffffffff).toNat
    let multiple := if exponent = 0 then fraction else fraction + 0x10000000000000
    -- the number is `multiple * 2 ^ (exponent' - 1075)` with `exponent' = max 1 exponent`
    let shift := max 1 exponent
    let nanos :=
      if 1075 ≤ shift then multiple * Nat.pow 2 (shift - 1075) * 1000000000
      else roundHalfEven (multiple * 1000000000) (Nat.pow 2 (1075 - shift))
    ofNanos? nanos

/-- The multiple of a length of time by a factor: the factor times the seconds, rounded as a
double-precision product and then to whole nanoseconds. -/
def scale? (factor : Float) (d : Duration) : Option Duration :=
  ofSeconds? (factor * d.toDouble)

end Duration

end Pursuit
