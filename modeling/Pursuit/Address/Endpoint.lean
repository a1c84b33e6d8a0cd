import Pursuit.Address.Ip

/-! # Endpoints: an address and a number on it

* **`Endpoint`** — where a server listens; its text has brackets around a version 6 address.
* **`Endpoint.ofText?`** — the endpoint that a text stands for. A zone after a version 6 address is
  read and dropped.
* **`withDefaultNumber`** — the address that a client dials when its player names none.
* **`Endpoint.fromHere`** — where a host's own client finds the server. -/

namespace Pursuit

/-- An internet address and a number on it. -/
structure Endpoint where
  /-- The machine. -/
  ip : IpAddress
  /-- The number of the service. -/
  number : UInt16
deriving DecidableEq

/-- The number that a server listens on unless told otherwise. -/
def defaultNumber : UInt16 := 8642

namespace Endpoint

open Address Reader

/-- The text of an endpoint. -/
def text (e : Endpoint) : String :=
  match e.ip with
  | .v4 a => a.text ++ ":" ++ toString e.number.toNat
  | .v6 a => "[" ++ a.text ++ "]:" ++ toString e.number.toNat

/-- A colon and the number of the service. -/
def readNumber : Reader UInt16 := fun s => do
  let (_, s) ← char ':' s
  let (n, s) ← boundedNumber UInt16.size s
  return (UInt16.ofNat n, s)

/-- A percent sign and the zone of a version 6 address, if there are any. -/
def skipZone (s : List Char) : List Char :=
  match char '%' s with
  | some (_, rest) =>
    match boundedNumber UInt32.size rest with
    | some (_, rest) => rest
    | none => s
  | none => s

/-- A version 4 address and a number. -/
def readV4? : Reader Endpoint := fun s => do
  let (a, s) ← IPv4.read? s
  let (n, s) ← readNumber s
  return (⟨.v4 a, n⟩, s)

/-- A version 6 address in brackets, perhaps with a zone, and a number. -/
def readV6? : Reader Endpoint := fun s => do
  let (_, s) ← char '[' s
  let (a, s) ← IPv6.read? s
  let (_, s) ← char ']' (skipZone s)
  let (n, s) ← readNumber s
  return (⟨.v6 a, n⟩, s)

/-- The endpoint that a whole text stands for. -/
def ofText? (s : String) : Option Endpoint :=
  match readV4? s.toList <|> readV6? s.toList with
  | some (e, []) => some e
  | _ => none

/-- Where a client on the same machine reaches a server that listens here. A server that listens on
all addresses is reached on the loopback address. -/
def fromHere (bound : Endpoint) : Endpoint :=
  if bound.ip.isUnspecified then { bound with ip := .loopback } else bound

end Endpoint

/-- What stands before the last colon of a text, and what follows it. -/
def splitLastColon? (s : List Char) : Option (List Char × List Char) :=
  let (after, before) := s.reverse.span (· ≠ ':')
  match before with
  | _ :: front => some (front.reverse, after.reverse)
  | [] => none

/-- The address to dial: the given one if it names a number, otherwise with the default number. -/
def withDefaultNumber (address : String) : String :=
  if (Endpoint.ofText? address).isSome then address
  else
    match IpAddress.ofText? address with
    | some ip => (Endpoint.mk ip defaultNumber).text
    | none =>
      let hasNumber :=
        match splitLastColon? address.toList with
        | some (_, number) => (unsigned? UInt16.size number).isSome
        | none => false
      if hasNumber then address else address ++ ":" ++ toString defaultNumber.toNat

end Pursuit
