import Pursuit.Command
import Pursuit.Match.Basic
import Pursuit.Text.Lines

/-! # Commands given in a match

* **`Match.apply`** — what a command does. Only the host's own guest can load and start.
* **`Match.follow`** — applies the lines of a stream until one of them leaves.
* **`Match.statusText`** — how things stand, in a line. -/

namespace Pursuit.Match

/-- What a guest's command does, and whether the guest stays. -/
def apply (m : Match) (place : Nat) (isHost : Bool) (c : Command) : Bool × Match :=
  match c with
  | .start => (true, if isHost then { m with host := m.host.start } else m)
  | .load level => (true, if isHost then { m with host := m.host.load level } else m)
  | .move order => (true, m.modifyGuest place (·.request order))
  | .highlight order => (true, m.modifyGuest place (·.request order))
  | .status => (true, m)
  | .reconnect => (true, m.order place .reconnect)
  | .quit => (false, m)

/-- Applies a line. A blank line does nothing, and neither does one that is no command. -/
def applyLine (m : Match) (place : Nat) (isHost : Bool) (line : String) : Bool × Match :=
  match Command.parse line with
  | .ok (some c) => m.apply place isHost c
  | _ => (true, m)

/-- Applies lines one after the other until one of them leaves, and tells whether all those were
texts. -/
def applyLines (m : Match) (place : Nat) (isHost : Bool) : List (List UInt8) → Bool × Match
  | [] => (true, m)
  | line :: rest =>
    match lineText? line with
    | none => (false, m)
    | some text =>
      match m.applyLine place isHost text with
      | (true, m) => m.applyLines place isHost rest
      | (false, m) => (true, m)

/-- Applies the lines of a stream until one of them leaves, and tells whether all those were
texts. -/
def follow (m : Match) (place : Nat) (isHost : Bool) (stream : List UInt8) : Bool × Match :=
  m.applyLines place isHost (lines stream)

/-- How things stand for a guest, in a line. -/
def statusText (m : Match) (place : Nat) : String :=
  match m.guests[place]? with
  | none => "nobody"
  | some g =>
    let state := if g.dialer.isConnected then "connected" else "not connected"
    match g.game? with
    | none => state
    | some game =>
      state ++ " as " ++ game.ownPlayer.text ++ ": " ++ toString game.pieces.length ++ " units, "
        ++ toString game.obstacles.length ++ " obstacles"

/-- A guest who is not the host's own can do nothing to the host's round. -/
theorem host_apply_of_guest (m : Match) (place : Nat) {c : Command} (h : c ≠ .reconnect) :
    (m.apply place false c).2.host = m.host := by
  cases c <;> simp_all [apply, modifyGuest]

end Pursuit.Match
