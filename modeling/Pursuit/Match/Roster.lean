import Pursuit.Connection.Listener

/-! # The players of a server

* **`Profile`** — a player and the session it plays on.
* **`Roster`** — the profiles in the order of joining, and the counter behind the player ids.
* **`Roster.handle`** — what the report of a server makes of the roster, and who joined or left. -/

namespace Pursuit

/-- A player and its session. -/
structure Profile where
  /-- The player. -/
  player : PlayerId
  /-- The session it plays on. -/
  session : SessionId
deriving DecidableEq, Repr

/-- Players that come and go. -/
inductive PlayerEvent where
  /-- A player came. -/
  | joined (profile : Profile)
  /-- A player went. -/
  | left (profile : Profile)
deriving DecidableEq, Repr

/-- The players of a server. -/
structure Roster where
  /-- The players, the first to join first. -/
  profiles : List Profile := []
  /-- The id of the next player: a counter of 16 bits. -/
  nextPlayer : UInt16 := PlayerId.firstClient.code
deriving DecidableEq

instance : Inhabited Roster := ⟨{}⟩

namespace Roster

/-- The profile of a player. -/
def byPlayer? (r : Roster) (player : PlayerId) : Option Profile :=
  r.profiles.find? (·.player = player)

/-- The profile of the player on a session. -/
def bySession? (r : Roster) (session : SessionId) : Option Profile :=
  r.profiles.find? (·.session = session)

/-- The player on a session; one without a profile counts as a new client. -/
def sender (r : Roster) (session : SessionId) : PlayerId :=
  ((r.bySession? session).map (·.player)).getD .newClient

/-- The players, the first to join first. -/
def players (r : Roster) : List PlayerId := r.profiles.map (·.player)

/-- Gives the player on a session the next id. -/
def join (r : Roster) (session : SessionId) : Profile × Roster :=
  let profile : Profile := ⟨⟨r.nextPlayer⟩, session⟩
  (profile, { profiles := r.profiles ++ [profile], nextPlayer := r.nextPlayer + 1 })

/-- Strikes out the player on a session. -/
def leave (r : Roster) (session : SessionId) : Option Profile × Roster :=
  (r.bySession? session, { r with profiles := r.profiles.eraseP (·.session = session) })

/-- What a report makes of the roster, and who joined or left. -/
def handle (r : Roster) : ServerEvent → Roster × Option PlayerEvent
  | .accepted session => ((r.join session).2, some (.joined (r.join session).1))
  | .received _ _ => (r, none)
  | .closed session => ((r.leave session).2, (r.leave session).1.map .left)

/-- What reports make of the roster one after the other, and all who joined or left. -/
def run (r : Roster) : List ServerEvent → Roster × List PlayerEvent
  | [] => (r, [])
  | e :: rest =>
    let (r, event) := r.handle e
    let (r, more) := r.run rest
    (r, event.toList ++ more)

/-- A player that joins comes last. -/
@[simp] theorem players_join (r : Roster) (session : SessionId) :
    (r.join session).2.players = r.players ++ [⟨r.nextPlayer⟩] := by
  simp [join, players]

end Roster

end Pursuit
