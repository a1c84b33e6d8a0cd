import Pursuit.Numeric.Rounding
import Pursuit.Text.Digits

/-! # Reading decimal numbers

A literal is a sign, if any, and then one of the words for infinity and for no number, in letters
of either case, or digits with a point among them or at either end, and an exponent, if any.

* **`Single.ofLiteral?`** — the number that a literal stands for, rounded once from its exact
  value. -/

namespace Pursuit.Single

/-- The number nearest to `±mantissa * 10 ^ exponent`. Exponents that lead beyond all numbers, or
below half the least of them, are not formed. -/
def ofDecimal (negative : Bool) (mantissa : Nat) (exponent : Int) : Single :=
  let magnitude : Int := (Nat.toDigits 10 mantissa).length + exponent
  if mantissa = 0 ∨ magnitude < -60 then zero negative
  else if 60 < magnitude then infinity negative
  else if 0 ≤ exponent then ofRatio negative (mantissa * Nat.pow 10 exponent.toNat) 1
  else ofRatio negative mantissa (Nat.pow 10 (-exponent).toNat)

/-- The sign in front of a text, and the rest. -/
def splitSign : List Char → Bool × List Char
  | '-' :: rest => (true, rest)
  | '+' :: rest => (false, rest)
  | s => (false, s)

/-- The exponent that a text consists of: nothing at all, or the letter of either case with a
number. -/
def exponent? : List Char → Option Int
  | [] => some 0
  | c :: rest =>
    if c = 'e' ∨ c = 'E' then
      let (negative, rest) := splitSign rest
      (allDigits? 10 rest).map fun ds =>
        let n : Int := ofDigits 10 ds
        if negative then -n else n
    else none

/-- The number of a literal that consists of digits, point and exponent. -/
def decimal? (negative : Bool) (s : List Char) : Option Single :=
  let (whole, rest) := digitRun 10 s
  let (fraction, rest) :=
    match rest with
    | '.' :: rest => digitRun 10 rest
    | _ => ([], rest)
  if whole = [] ∧ fraction = [] then none
  else (exponent? rest).map fun e =>
    ofDecimal negative (ofDigits 10 (whole ++ fraction)) (e - fraction.length)

/-- The number that a literal stands for. -/
def ofLiteral? (s : List Char) : Option Single :=
  let (negative, s) := splitSign s
  let lower := String.ofList (s.map Char.toLower)
  if lower = "inf" ∨ lower = "infinity" then some (infinity negative)
  else if lower = "nan" then some ⟨if negative then 0xffc00000 else 0x7fc00000⟩
  else decimal? negative s

end Pursuit.Single
