import Pursuit.Config.Quoted
import Pursuit.Numeric.Literal
import Pursuit.Text.Names

/-! # Numerals of the settings file

* **`Numeral.IntegerType`** — the types of whole numbers.
* **`Numeral.integer`** — a whole number of a type: decimal, or binary, octal or hexadecimal after
  `0b`, `0o` or `0x`; with underscores among the digits, and perhaps with the name of its type after
  them.
* **`Numeral.decimal`** — a number with a point or an exponent.
* **`Numeral.number`** — either of them.
* **`Numeral.numberOrSpan`** — a number, or two points between the ends of a span of numbers. -/

namespace Pursuit.Numeral

open Reader

/-! ## Types of whole numbers -/

/-- The whole numbers that fit into so many bits, one of which may hold the sign. -/
structure IntegerType where
  /-- Whether there are negative ones. -/
  signed : Bool
  /-- The bits. -/
  bits : Nat
deriving DecidableEq, Repr

namespace IntegerType

/-- The numbers without a sign in so many bits. -/
def unsigned (bits : Nat) : IntegerType := ⟨false, bits⟩

/-- The name of a type. -/
def name (t : IntegerType) : String := (if t.signed then "i" else "u") ++ toString t.bits

/-- The least number of a type. -/
def least (t : IntegerType) : Int := if t.signed then -Int.pow 2 (t.bits - 1) else 0

/-- The greatest number of a type. -/
def greatest (t : IntegerType) : Int := Int.pow 2 (if t.signed then t.bits - 1 else t.bits) - 1

/-- Whether a number is one of a type. -/
def contains (t : IntegerType) (n : Int) : Bool := t.least ≤ n && n ≤ t.greatest

/-- The types that a numeral can name. -/
def all : List IntegerType := [false, true].flatMap fun signed => [8, 16, 32, 64].map (⟨signed, ·⟩)

end IntegerType

/-! ## Whole numbers -/

/-- A word that no part of a name follows. -/
def keyword (w : List Char) : Reader Unit := fun s => do
  let (_, rest) ← word w s
  if rest.head?.any isNamePart then none else some ((), rest)

/-- The first of some words that stands at the front of a text. -/
def oneOf {α : Type} (table : List (String × α)) : Reader α := fun s =>
  table.findSome? fun (w, a) => (keyword w.toList s).map fun (_, rest) => (a, rest)

/-- Whether a character goes on with a whole number in some radix. -/
def isDigitLike (c : Char) : Bool := (digit? 16 c).isSome || c == '_'

/-- Digits, and underscores but in front. -/
def digits (radix : Nat) : Reader Nat := fun s =>
  let run := s.takeWhile isDigitLike
  if run.head? = some '_' then none
  else do return (ofDigits radix (← allDigits? radix (run.filter (· != '_'))),
    s.dropWhile isDigitLike)

/-- A whole number without a sign. -/
def whole : Reader Nat
  | '0' :: 'b' :: s => digits 2 s
  | '0' :: 'o' :: s => digits 8 s
  | '0' :: 'x' :: s => digits 16 s
  | s => digits 10 s

/-- A whole number, and the type that it names, which has it. A byte between apostrophes counts as
one that names the type of bytes. -/
def typed : Reader (Int × Option IntegerType) := fun s =>
  match Quoted.byte s with
  | some (b, s) => some ((b, some (.unsigned 8)), s)
  | none => do
    let (negative, s) := Single.splitSign s
    let (n, s) ← whole s
    let n : Int := if negative then -n else n
    match oneOf (IntegerType.all.map fun t => (t.name, t)) s with
    | some (t, s) => if t.contains n then some ((n, some t), s) else none
    | none => some ((n, none), s)

/-- A whole number of a type. If it names a type, that has to be the one. -/
def integer (t : IntegerType) : Reader Int := fun s => do
  let ((n, named), s) ← typed s
  if named.getD t = t ∧ t.contains n then some (n, s) else none

/-- A whole number of any type. -/
def anyInteger : Reader Int := fun s => do
  let ((n, _), s) ← typed s
  if IntegerType.all.any (·.contains n) then some (n, s) else none

/-! ## Other numbers -/

/-- Whether a character goes on with a decimal number. -/
def isDecimalLike (c : Char) : Bool := c.isDigit || "eE.+-_".toList.contains c

/-- The characters that go on with a decimal number, and the rest. Two points end it. -/
def decimalRun : List Char → List Char × List Char
  | [] => ([], [])
  | c :: s =>
    if !isDecimalLike c || (c == '.' && s.head? == some '.') then ([], c :: s)
    else
      let (run, rest) := decimalRun s
      (c :: run, rest)

/-- A text without its underscores, which may stand after digits and exponent marks only. -/
def dropUnderscores? (allowed : Bool) : List Char → Option (List Char)
  | [] => some []
  | c :: s =>
    if c = '_' then if allowed then dropUnderscores? true s else none
    else
      let allowed := c != '.' && (allowed || c.isDigit || c == 'e' || c == 'E')
      (dropUnderscores? allowed s).map (c :: ·)

/-- The widths that a decimal number can name. -/
def widths : List (String × Unit) := [("f32", ()), ("f64", ())]

/-- The words for infinity and for no number. -/
def nonFinite : List (String × Unit) :=
  [("inf", ()), ("inff32", ()), ("inff64", ()), ("NaN", ()), ("NaNf32", ()), ("NaNf64", ())]

/-- A decimal number. -/
def decimal : Reader Unit := fun s =>
  let (_, unsigned) := Single.splitSign s
  match oneOf nonFinite unsigned with
  | some (_, rest) => some ((), rest)
  | none => do
    let (run, rest) := decimalRun s
    let (negative, run) := Single.splitSign (← dropUnderscores? false run)
    let _ ← Single.decimal? negative run
    return ((oneOf widths rest).getD ((), rest))

/-- A number. It is a whole one unless a point, sign or exponent outruns its digits. -/
def number : Reader Unit := fun s =>
  let (_, unsigned) := Single.splitSign s
  if (unsigned.takeWhile isDigitLike).length < (decimalRun unsigned).1.length then decimal s
  else ((anyInteger s).map fun (_, rest) => ((), rest)) <|> decimal s

/-- Two points and the number that a span ends with. It can be left out, unless an equals sign stands
before it. -/
def spanEnd : Reader Unit := fun s => do
  let (_, s) ← word "..".toList s
  match s with
  | '=' :: s => number s
  | s => number s <|> some ((), s)

/-- A number, or a span of numbers, which may lack its beginning. -/
def numberOrSpan : Reader Unit := fun s =>
  match number s with
  | some (_, rest) => spanEnd rest <|> some ((), rest)
  | none => spanEnd s

/-! ## What is read -/

/-- A whole number that is read is one of the type asked for. -/
theorem contains_of_integer {t : IntegerType} {n : Int} {s rest : List Char}
    (h : integer t s = some (n, rest)) : t.contains n = true := by
  unfold integer at h
  cases hs : typed s with
  | none => simp [hs] at h
  | some p =>
    obtain ⟨⟨m, named⟩, r⟩ := p
    simp only [hs, Option.bind_eq_bind, Option.bind_some] at h
    split at h
    · rename_i hm
      simp only [Option.some.injEq, Prod.mk.injEq] at h
      exact h.1 ▸ hm.2
    · cases h

end Pursuit.Numeral
