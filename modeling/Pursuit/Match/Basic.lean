import Pursuit.Match.Guest
import Pursuit.Match.Host

/-! # A match in one process

The host and its guests reach each other through memory: what one side of a connection writes comes
in on the other.

* **`Match`** — a host, its guests, and the connections between them.
* **`Match.connect`** — lets a guest that dials reach the host.
* **`Match.settle`** — carries everything there is to carry, and lets both sides follow it. -/

namespace Pursuit

/-- A connection between a guest and the host. -/
structure Call where
  /-- The place of the guest. -/
  guest : Nat
  /-- Which of the guest's connections it is. -/
  connection : Nat
  /-- The host's session. -/
  session : SessionId
  /-- How many bytes have been carried to the host. -/
  up : Nat := 0
  /-- How many bytes have been carried to the guest. -/
  down : Nat := 0
deriving DecidableEq

/-- A host and its guests. -/
structure Match where
  /-- The host. -/
  host : Host
  /-- Where guests reach it. -/
  address : String
  /-- The guests, the first to come first. -/
  guests : List Guest := []
  /-- The connections that last. -/
  calls : List Call := []

namespace Match

/-- The match with one guest changed. -/
def modifyGuest (m : Match) (place : Nat) (f : Guest → Guest) : Match :=
  { m with guests := m.guests.modify place f }

/-- Lets a guest that dials reach the host. One that finds no room is connected for a moment, and a
host that has stopped is reached no more than another address. -/
def connect (m : Match) (place : Nat) : Match :=
  match m.guests[place]? with
  | none => m
  | some g =>
    if g.dialer.phase ≠ .dialing then m
    else if g.dialer.address ≠ some m.address ∨ m.host.stopped then
      m.modifyGuest place (·.act [.resolve, .fail .steady])
    else
      match m.host.accept with
      | (some session, host) =>
        let call : Call := { guest := place, connection := g.dialer.wires.length, session }
        { m with host := host, calls := m.calls ++ [call] }.modifyGuest place
          (·.act [.resolve, .succeed])
      | (none, host) =>
        { m with host := host }.modifyGuest place
          (·.act [.resolve, .succeed, .hangUp, .lose])

/-- Lets a guest ask its connection's task for something. -/
def order (m : Match) (place : Nat) (o : Dialer.Order) : Match :=
  (m.modifyGuest place (·.order o)).connect place

/-! ## Carrying bytes -/

/-- The guest's side of a call. -/
def wire? (m : Match) (c : Call) : Option Wire :=
  m.guests[c.guest]?.bind fun g => g.dialer.wire? c.connection

/-- Whether the guest still looks after a call. -/
def isKept (m : Match) (c : Call) : Bool :=
  m.guests[c.guest]?.any fun g =>
    g.dialer.phase = .serving && g.dialer.wires.length = c.connection + 1

/-- Carries to the host what a guest has written, and that it has hung up. -/
def carryUp (m : Match) (c : Call) : Match :=
  let written := ((m.wire? c).map (·.written)).getD []
  let host := m.host.act c.session (.arrive (written.drop c.up))
  let host := if m.isKept c then host else host.act c.session .hangUp
  { m with host := host, calls := m.calls ++ [{ c with up := written.length }] }

/-- Carries to a guest what the host has written, and that it has hung up. The call goes on if
neither side has. -/
def carryDown (m : Match) (c : Call) : Match :=
  match m.host.lobby.listener.session? c.session with
  | none => m
  | some s =>
    if m.isKept c then
      let bytes := s.written.drop c.down
      let ending : List Dialer.Action := if s.closed then [.hangUp, .lose] else []
      let reads := List.replicate bytes.length Dialer.Action.read
      let m := m.modifyGuest c.guest (·.act (.arrive bytes :: reads ++ ending))
      if s.closed then m else { m with calls := m.calls ++ [{ c with down := s.written.length }] }
    else if s.closed then m
    else { m with calls := m.calls ++ [c] }

/-- Lets every guest write what it has queued. -/
def flush (m : Match) : Match :=
  { m with guests := m.guests.map fun g =>
      g.act (List.replicate g.dialer.queue.length .write) }

/-- Welcomes all who have joined. -/
def welcomeAll (h : Host) : Host := h.arrivals.foldl (fun h _ => h.welcomeNext) h

/-- Carries everything there is to carry, and lets both sides follow it. Guests do not answer what
they are told, so one turn in each direction is enough. -/
def settle (m : Match) : Match :=
  let m := m.flush
  let m := m.calls.foldl carryUp { m with calls := [] }
  let m := { m with host := (welcomeAll m.host.settle).settle }
  m.calls.foldl carryDown { m with calls := [] }

end Match

end Pursuit
