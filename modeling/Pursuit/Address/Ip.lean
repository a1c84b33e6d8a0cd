import Pursuit.Text.Digits
import Pursuit.Text.Reader

/-! # Internet addresses and their texts

* **`IPv4`, `IPv6`, `IpAddress`** — four bytes, eight groups of 16 bits, and either.
* **`IPv4.text`, `IPv6.text`** — dotted decimals; and the canonical text of RFC 5952, in which the
  longest run of two or more zero groups, the first of the longest, is left out, and a mapped
  version 4 address ends in dotted decimals.
* **`IPv4.read?`, `IPv6.read?`** — the address at the front of a text, and the rest.
* **`IpAddress.ofText?`** — the address that a whole text stands for. -/

namespace Pursuit

/-- An address of version 4. -/
structure IPv4 where
  /-- The four bytes, the highest first. -/
  bytes : Vector UInt8 4
deriving DecidableEq

/-- An address of version 6. -/
structure IPv6 where
  /-- The eight groups of 16 bits, the highest first. -/
  groups : Vector UInt16 8
deriving DecidableEq

/-- An address of either version. -/
inductive IpAddress where
  /-- A version 4 address. -/
  | v4 (address : IPv4)
  /-- A version 6 address. -/
  | v6 (address : IPv6)
deriving DecidableEq

/-! ## Reading -/

namespace Address

open Reader

/-- A number in at most `most` digits. -/
def number (radix most : Nat) : Reader Nat := fun s =>
  let (digits, rest) := digitRun radix s
  if digits = [] ∨ most < digits.length then none else some (ofDigits radix digits, rest)

/-- A number below `bound` in any number of digits. -/
def boundedNumber (bound : Nat) : Reader Nat := fun s =>
  let (digits, rest) := digitRun 10 s
  let n := ofDigits 10 digits
  if digits = [] ∨ bound ≤ n then none else some (n, rest)

/-- A byte in decimal digits, without idle zeros in front. -/
def decimalByte : Reader UInt8 := fun s =>
  match number 10 3 s with
  | some (n, rest) =>
    if n < 256 ∧ (s.head? ≠ some '0' ∨ (digitRun 10 s).1.length = 1) then
      some (UInt8.ofNat n, rest)
    else none
  | none => none

/-- What follows a separator; the first value of a row has none in front. -/
def separated {α : Type} (c : Char) (isFirst : Bool) (r : Reader α) : Reader α := fun s =>
  if isFirst then r s else (char c s).bind fun (_, rest) => r rest

end Address

open Address Reader in
/-- The version 4 address at the front of a text: four bytes with dots between. -/
def IPv4.read? : Reader IPv4 := fun s => do
  let (a, s) ← decimalByte s
  let (b, s) ← separated '.' false decimalByte s
  let (c, s) ← separated '.' false decimalByte s
  let (d, s) ← separated '.' false decimalByte s
  return (⟨#v[a, b, c, d]⟩, s)

namespace IPv6

open Address Reader

/-- The two groups of a version 4 address. -/
def groupsOf (a : IPv4) : List UInt16 :=
  let pair (hi lo : UInt8) : UInt16 := UInt16.ofNat (256 * hi.toNat + lo.toNat)
  [pair a.bytes[0] a.bytes[1], pair a.bytes[2] a.bytes[3]]

/-- Up to `limit` groups with colons between, and whether they end in a version 4 address, which
takes the place of two groups. -/
def readGroups (isFirst : Bool) : Nat → List Char → (List UInt16 × Bool) × List Char
  | 0, s => (([], false), s)
  | limit + 1, s =>
    match if limit = 0 then none else separated ':' isFirst IPv4.read? s with
    | some (a, rest) => ((groupsOf a, true), rest)
    | none =>
      match separated ':' isFirst (number 16 4) s with
      | some (g, rest) =>
        let ((gs, mapped), rest) := readGroups false limit rest
        ((UInt16.ofNat g :: gs, mapped), rest)
      | none => (([], false), s)

/-- The address with these groups, filled up with zero groups between front and back. -/
def ofFrontBack (front back : List UInt16) : IPv6 :=
  let zeros := List.replicate (8 - front.length - back.length) (0 : UInt16)
  let all := front ++ zeros ++ back
  ⟨Vector.ofFn fun i => all.getD i 0⟩

/-- The version 6 address at the front of a text: eight groups, or fewer around two colons that
stand for at least one zero group. -/
def read? : Reader IPv6 := fun s =>
  let ((front, mapped), rest) := readGroups true 8 s
  if front.length = 8 then some (ofFrontBack front [], rest)
  else if mapped then none
  else do
    let (_, rest) ← char ':' rest
    let (_, rest) ← char ':' rest
    let ((back, _), rest) := readGroups true (7 - front.length) rest
    return (ofFrontBack front back, rest)

end IPv6

namespace IpAddress

open Address Reader

/-- The address at the front of a text; version 4 is tried first. -/
def read? : Reader IpAddress := fun s =>
  match IPv4.read? s with
  | some (a, rest) => some (.v4 a, rest)
  | none => (IPv6.read? s).map fun (a, rest) => (.v6 a, rest)

/-- The address that a whole text stands for. -/
def ofText? (s : String) : Option IpAddress :=
  match read? s.toList with
  | some (a, []) => some a
  | _ => none

/-- Whether the address stands for every address of the machine. -/
def isUnspecified : IpAddress → Bool
  | v4 a => a.bytes.all (· == 0)
  | v6 a => a.groups.all (· == 0)

/-- The address by which a machine reaches itself. -/
def loopback : IpAddress := .v4 ⟨#v[127, 0, 0, 1]⟩

end IpAddress

/-! ## Writing -/

/-- The four bytes in decimal digits, with dots between. -/
def IPv4.text (a : IPv4) : String :=
  ".".intercalate (a.bytes.toList.map fun b => toString b.toNat)

namespace IPv6

/-- Groups in hexadecimal digits without idle zeros, with colons between. -/
def groupsText (groups : List UInt16) : String :=
  ":".intercalate (groups.map fun g => String.ofList (Nat.toDigits 16 g.toNat))

/-- How many zero groups there are in front. -/
def zerosInFront (groups : List UInt16) : Nat := (groups.takeWhile (· == 0)).length

/-- Where the longest run of zero groups begins, the first of the longest, and its length. -/
def longestZeros (groups : List UInt16) : Nat × Nat :=
  (List.range groups.length).foldl (fun (start, length) i =>
    let here := zerosInFront (groups.drop i)
    if length < here then (i, here) else (start, length)) (0, 0)

/-- The version 4 address that a mapped address holds. -/
def mapped? (a : IPv6) : Option IPv4 :=
  match a.groups.toList with
  | [0, 0, 0, 0, 0, 0xffff, hi, lo] =>
    some ⟨#v[UInt8.ofNat (hi.toNat / 256), UInt8.ofNat hi.toNat,
      UInt8.ofNat (lo.toNat / 256), UInt8.ofNat lo.toNat]⟩
  | _ => none

/-- The canonical text. -/
def text (a : IPv6) : String :=
  match a.mapped? with
  | some v4 => "::ffff:" ++ v4.text
  | none =>
    let groups := a.groups.toList
    let (start, length) := longestZeros groups
    if 1 < length then
      groupsText (groups.take start) ++ "::" ++ groupsText (groups.drop (start + length))
    else groupsText groups

end IPv6

/-- The text of an address of either version. -/
def IpAddress.text : IpAddress → String
  | v4 a => a.text
  | v6 a => a.text

end Pursuit
