import Pursuit.Proofs.Clients
import Pursuit.Proofs.Sessions

/-! # A server and its clients

Messages wait on the session of a player, are written one after the other, come in as bytes, and are
read and followed by the client in the order in which they were sent.

* **`Network`** — a server, any number of clients, and what is known of the connections between them.
* **`Network.Move`, `Network.Reachable`** — whatever can happen, in any order.
* **`Game.writable_of_mem_reports`** — all that a server tells its players is what a reader accepts.
* **`UpToDate`** — what was sent to a player shows a client how the game stood when it was last sent.
* **`UpToDate.reports`, `UpToDate.welcome`** — a broadcast and a welcome keep it so. -/

namespace Pursuit

/-- A server and its clients. -/
structure Network where
  /-- The server. -/
  host : Host
  /-- The clients. -/
  clients : Nat → Client
  /-- The server's game as it was when it was last sent to a session. -/
  told : SessionId → Option Game := fun _ => none
  /-- The messages that clients sent and the server heard, the oldest first. -/
  asked : List Message := []

namespace Network

/-- What can happen. -/
inductive Move where
  /-- Something happens to a client that neither reaches the server nor comes from there. -/
  | client (client : Nat) (a : Dialer.Action)
  /-- A client's attempt to connect reaches the server. -/
  | reach (client : Nat)
  /-- No more than so many bytes that were written on its session come in at a client. -/
  | carry (client count : Nat)
  /-- The next message that waits on a session is written. -/
  | write (session : SessionId)
  /-- Anything else happens to a session: bytes come in, it is closed, a worker stops. -/
  | session (session : SessionId) (a : Session.Action)
  /-- The player who has waited longest is welcomed. -/
  | welcome
  /-- A level is loaded. -/
  | load (level : UInt32)
  /-- The round is started. -/
  | start
  /-- The game is stepped. -/
  | step (dt : Duration)
  /-- The game is stepped and sent to all players. -/
  | tick (dt : Duration)

/-- The network with one client changed. -/
def modifyClient (n : Network) (client : Nat) (f : Client → Client) : Network :=
  { n with clients := fun i => if i = client then f (n.clients i) else n.clients i }

/-- The network after the server sent its game to some sessions. -/
def tell (n : Network) (host : Host) (sessions : List SessionId) : Network :=
  { n with host, told := fun session => if session ∈ sessions then host.game? else n.told session }

/-- The sessions of all players. -/
def playing (n : Network) : List SessionId := n.host.lobby.roster.profiles.map (·.session)

/-- An attempt reaches the server, if the client makes one. Without room the client is connected for a
moment, and no session begins. -/
def reach (n : Network) (client : Nat) : Network :=
  if (n.clients client).guest.dialer.phase = .dialing then
    let (session?, host) := n.host.accept
    { n with host }.modifyClient client (·.enter (session?.bind host.lobby.roster.bySession?))
  else n

/-- Bytes that were written on a client's session come in. -/
def carry (n : Network) (client count : Nat) : Network :=
  match (n.clients client).profile? with
  | some p => n.modifyClient client (·.carry (n.host.lobby.listener.writtenOn p.session) count)
  | none => n

/-- Something happens to a session, and the server hears what its peer has sent. -/
def act (n : Network) (session : SessionId) (a : Session.Action) : Network :=
  { n with
    host := n.host.act session a
    asked := n.asked ++ (n.host.lobby.listener.act session a).2.filterMap ServerEvent.message? }

/-- What a move makes of the network. Nobody but the server sends on its sessions. -/
def move (n : Network) : Move → Network
  | .client client a => if a.isOwn then n.modifyClient client (·.act a) else n
  | .reach client => n.reach client
  | .carry client count => n.carry client count
  | .write session => n.act session .write
  | .session session a => if a.isQuiet then n.act session a else n
  | .welcome =>
    n.tell n.host.welcomeNext
      ((n.host.arrivals.head?.toList.map (·.session)).filter (· ∈ n.playing))
  | .load level => n.tell (n.host.load level) n.playing
  | .start => { n with host := n.host.start }
  | .step dt => { n with host := n.host.step dt }
  | .tick dt => n.tell (n.host.tick dt) n.playing

/-- What moves make of the network one after the other. -/
def run (n : Network) (moves : List Move) : Network := moves.foldl move n

/-- The networks that there can be. The server was opened, and no client was connected at first. -/
inductive Reachable : Network → Prop where
  /-- The server has just been opened. -/
  | opened {h : Host} (settings : Nat → DialerSettings) (rules : Nat → Rules) : h.Unopened →
      Reachable { host := h.prepare, clients := fun i => .new (settings i) (rules i) }
  /-- Something happened. -/
  | moved {n : Network} (m : Move) : Reachable n → Reachable (n.move m)

/-- Whatever is done one thing after the other leads to a network that there can be. -/
theorem Reachable.run {n : Network} (hr : n.Reachable) (moves : List Move) :
    (n.run moves).Reachable := by
  induction moves generalizing n with
  | nil => exact hr
  | cons m moves ih => exact ih (.moved m hr)

/-- No client has stated a piece. -/
def Unstated (n : Network) : Prop := ∀ m ∈ n.asked, m.type ≠ .gameUnit

end Network

/-! ## What may be written -/

/-- A message with a valid header and a payload as long as declared may be written. -/
theorem Message.writable_of_validate {m : Message} (hlength : m.payload.length = m.header.length.toNat)
    (hvalid : m.header.validate = .ok ()) : m.writable = true := by
  refine writable_iff.2 ⟨hlength.symm, ?_⟩
  rw [check_eq, hvalid]

/-- A greeting may be written. -/
theorem Profile.writable_greeting (p : Profile) : p.greeting.writable = true :=
  Message.writable_of_validate (Payload.length_toBytes (⟨p.player⟩ : Greeting)) rfl

/-- Whatever a synchronization says may be written. -/
theorem Game.writable_of_mem_reports {g : Game} {m : Message} (hm : m ∈ g.reports) :
    m.writable = true := by
  rcases List.mem_append.1 hm with hm | hm
  · obtain ⟨p, _, rfl⟩ := List.mem_map.1 hm
    exact Message.writable_of_validate (Payload.length_toBytes p.state) rfl
  · obtain ⟨o, _, rfl⟩ := List.mem_map.1 hm
    exact Message.writable_of_validate (Payload.length_toBytes o.state) rfl

/-- Whatever a welcome says may be written. -/
theorem Profile.writable_of_mem_welcome {p : Profile} {g : Game} {m : Message}
    (hm : m ∈ p.greeting :: g.reports) : m.writable = true := by
  rcases List.mem_cons.1 hm with rfl | hm
  · exact p.writable_greeting
  · exact Game.writable_of_mem_reports hm

/-! ## What was sent to a player -/

/-- What was sent to a player shows it how the server's game was when it was last sent, once the
player was greeted. As long as the player is on the roster, it is the present level that was sent, and
the present owners if they are `kept`. -/
structure UpToDate (sent : List Message) (p : Profile) (told : Option Game) (listed kept : Prop)
    (now : Game) : Prop where
  /-- The player was greeted as itself. -/
  greetings : ∀ m ∈ sent, m.type = .newPlayerId → m = p.greeting
  /-- What was sent shows the game. -/
  told : p.greeting ∈ sent → ∃ g, told = some g ∧ g.ownPlayer = .none ∧
    sent.foldl View.receive {} = { g.view with ownPlayer := p.player } ∧ (listed → g.GoesOn kept now)

namespace UpToDate

variable {sent : List Message} {p : Profile} {told : Option Game} {listed listed' kept kept' : Prop}
  {now now' : Game}

/-- To whom nothing was sent is shown no game. -/
theorem nil : UpToDate [] p told listed kept now :=
  ⟨fun _ hm => absurd hm List.not_mem_nil, fun hm => absurd hm List.not_mem_nil⟩

/-- Nothing is sent while the level stays, or to somebody who is not on the roster. -/
theorem mono (h : UpToDate sent p told listed kept now) (hkept : kept' → kept)
    (hlisted : listed' → listed ∧ now.GoesOn kept' now') :
    UpToDate sent p told listed' kept' now' := by
  refine ⟨h.greetings, fun hm => ?_⟩
  obtain ⟨g, htold, hown, hview, hgoes⟩ := h.told hm
  exact ⟨g, htold, hown, hview, fun hl =>
    ((hgoes (hlisted hl).1).mono hkept).trans (hlisted hl).2⟩

/-- **A broadcast shows the game to a player who was greeted.** -/
theorem reports (h : UpToDate sent p told listed kept now) (hlisted : listed) (hids : now.Identified)
    (hown : now.ownPlayer = .none) :
    UpToDate (sent ++ now.reports) p (some now) listed kept now := by
  constructor
  · intro m hm htype
    rcases List.mem_append.1 hm with hm | hm
    · exact h.greetings m hm htype
    · exact absurd htype (Game.not_greeting_of_mem_reports hm)
  · intro hm
    -- A broadcast greets nobody, so the greeting came earlier.
    have hgreeted : p.greeting ∈ sent :=
      (List.mem_append.1 hm).resolve_right fun hm => Game.not_greeting_of_mem_reports hm rfl
    obtain ⟨g, _, _, hview, hgoes⟩ := h.told hgreeted
    -- The level has not changed since the game was last sent.
    have hbooks := (hgoes hlisted).books
    have hfits : View.FitsIds { g.view with ownPlayer := p.player } now :=
      ⟨.inr (g.ids_view_pieces.trans hbooks.pieceIds.symm),
        .inr (g.ids_view_obstacles.trans hbooks.obstacleIds.symm)⟩
    refine ⟨now, rfl, hown, ?_, fun _ => .refl kept now⟩
    rw [List.foldl_append, hview, View.foldl_reports hids hfits]

/-- **A welcome shows the game to anybody.** -/
theorem welcome (h : UpToDate sent p told listed kept now) (hids : now'.Identified)
    (hown : now'.ownPlayer = .none) :
    UpToDate (sent ++ p.greeting :: now'.reports) p (some now') listed' kept' now' := by
  constructor
  · intro m hm htype
    rcases List.mem_append.1 hm with hm | hm
    · exact h.greetings m hm htype
    · rcases List.mem_cons.1 hm with rfl | hm
      · rfl
      · exact absurd htype (Game.not_greeting_of_mem_reports hm)
  · intro _
    refine ⟨now', rfl, hown, ?_, fun _ => .refl kept' now'⟩
    rw [List.foldl_append, View.foldl_welcome _ hids]

end UpToDate

/-! ## Late reports -/

/-- A player stays who it was greeted as. -/
theorem View.ownPlayer_foldl {p : Profile} {ms : List Message}
    (hms : ∀ m ∈ ms, m.type = .newPlayerId → m = p.greeting) (v : View)
    (hv : v.ownPlayer = p.player ∨ p.greeting ∈ ms) :
    (ms.foldl View.receive v).ownPlayer = p.player := by
  -- Along the messages, the view is the player's already or the greeting is still to come.
  induction ms generalizing v with
  | nil => exact hv.resolve_right List.not_mem_nil
  | cons m ms ih =>
    refine ih (fun m' hm' => hms m' (List.mem_cons_of_mem _ hm')) (v.receive m) ?_
    by_cases htype : m.type = .newPlayerId
    · left
      rw [hms m List.mem_cons_self htype, View.receive, Profile.news_greeting]
    · have hkept : (v.receive m).ownPlayer = v.ownPlayer := by
        unfold View.receive
        cases hnews : m.news with
        | greeting greeting =>
          exact absurd (Message.type_of_contents (Message.news_eq_greeting_iff.1 hnews)) htype
        | _ => rfl
      rw [hkept]
      refine hv.imp_right fun hm => ?_
      rcases List.mem_cons.1 hm with rfl | hm
      · exact absurd rfl htype
      · exact hm

/-- **A greeting takes away whatever was reported late before it.** Unless more is reported late
afterwards, the client shows what its connection has told it. -/
theorem Client.undisturbed_of_greeted {c : Client} {p : Profile} {connection : Nat}
    {before after : List Dialer.Report}
    (hreports : c.reports = before ++ ⟨connection, false, .received p.greeting⟩ :: after)
    (hafter : ∀ r ∈ after, r.late = false) : c.Undisturbed := by
  have htimely : c.reports.filter (!·.late) =
      before.filter (!·.late) ++ ⟨connection, false, .received p.greeting⟩ :: after := by
    have hkept : after.filter (!·.late) = after :=
      List.filter_eq_self.2 fun r hr => by simp [hafter r hr]
    rw [hreports, List.filter_append, List.filter_cons_of_pos (by rfl), hkept]
  have hgreeted (v : View) : v.receive p.greeting = { ownPlayer := p.player } := by
    rw [View.receive, Profile.news_greeting]
  rw [Undisturbed, followed, heard, htimely, hreports, Dialer.recent_append, Dialer.recent_append,
    List.foldl_cons, List.foldl_cons]
  refine Dialer.view_foldl_follow after ?_
  rw [Dialer.Report.follow, Dialer.Report.follow]
  simp only [List.foldl_append, List.foldl_cons, List.foldl_nil, hgreeted]

end Pursuit
