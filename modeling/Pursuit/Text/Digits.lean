/-! # Numerals

* **`digit?`** — the value of an ASCII digit or letter, below a radix.
* **`digitRun`** — the digits at the front of a text, and the rest.
* **`ofDigits`** — the number that digits stand for, the first being the most significant.
* **`unsigned?`** — the numbers below a bound: digits, perhaps after a plus sign. -/

namespace Pursuit

/-- The value of an ASCII digit or letter of either case, if it is below the radix. -/
def digit? (radix : Nat) (c : Char) : Option Nat :=
  let value :=
    if '0' ≤ c ∧ c ≤ '9' then c.toNat - '0'.toNat
    else if 'a' ≤ c ∧ c ≤ 'z' then c.toNat - 'a'.toNat + 10
    else if 'A' ≤ c ∧ c ≤ 'Z' then c.toNat - 'A'.toNat + 10
    else radix
  if value < radix then some value else none

/-- The values of the digits at the front of a text, and the rest. -/
def digitRun (radix : Nat) : List Char → List Nat × List Char
  | [] => ([], [])
  | c :: rest =>
    match digit? radix c with
    | some d => let (ds, rest) := digitRun radix rest; (d :: ds, rest)
    | none => ([], c :: rest)

/-- The number that digits stand for. -/
def ofDigits (radix : Nat) (digits : List Nat) : Nat :=
  digits.foldl (fun n d => radix * n + d) 0

/-- The digits of a text that consists of digits only, of at least one. -/
def allDigits? (radix : Nat) (s : List Char) : Option (List Nat) :=
  match digitRun radix s with
  | ([], _) => none
  | (ds, []) => some ds
  | _ => none

/-- A text without the plus sign that it may begin with. -/
def dropPlus : List Char → List Char
  | '+' :: rest => rest
  | s => s

/-- The number below `bound` that a text writes in decimal digits, perhaps after a plus sign. -/
def unsigned? (bound : Nat) (s : List Char) : Option Nat :=
  (allDigits? 10 (dropPlus s)).bind fun ds =>
    let n := ofDigits 10 ds
    if n < bound then some n else none

/-- Digits are below the radix. -/
theorem digit?_lt {radix d : Nat} {c : Char} (h : digit? radix c = some d) : d < radix := by
  simp only [digit?, Option.ite_none_right_eq_some, Option.some.injEq] at h
  exact h.2 ▸ h.1

end Pursuit
