import Pursuit.Match.Host
import Pursuit.Proofs.Ownership

/-! # Who changes the server's game

* **`Host.Move`, `Host.Reachable`** — whatever happens to a server until it is stopped, in any order.
* **`Host.exists_decides`** — the invariant of a deciding game holds throughout.
* **`Host.received_changes`** — what a message of a client makes of the game: what its player may ask
  for, and besides that whatever it tells the entities under its id. -/

namespace Pursuit

/-- The message that a report is about. -/
def ServerEvent.message? : ServerEvent → Option Message
  | .received _ m => some m
  | _ => none

namespace Host

/-! ## Reachable servers -/

/-- A server that nobody can reach yet. -/
inductive Unopened : Host → Prop where
  /-- It is new. -/
  | new (rules : Rules) (capacity : Nat) : Unopened (.new rules capacity)
  /-- A level was loaded. -/
  | load {h : Host} (level : UInt32) : Unopened h → Unopened (h.load level)
  /-- The round was started. -/
  | start {h : Host} : Unopened h → Unopened h.start
  /-- The game was stepped. -/
  | step {h : Host} (dt : Duration) : Unopened h → Unopened (h.step dt)

/-- What can happen to a server that has been opened. -/
inductive Move where
  /-- Its sessions report something. -/
  | report (e : ServerEvent)
  /-- Somebody connects. -/
  | accept
  /-- Something happens to a session. -/
  | act (session : SessionId) (a : Session.Action)
  /-- The sessions do what there is to do. -/
  | settle
  /-- The player who has waited longest is welcomed. -/
  | welcome
  /-- A level is loaded. -/
  | load (level : UInt32)
  /-- The round is started. -/
  | start
  /-- The game is stepped. -/
  | step (dt : Duration)
  /-- The game is stepped and all players are told. -/
  | tick (dt : Duration)

/-- What a move makes of a server. -/
def move (h : Host) : Move → Host
  | .report e => h.handle e
  | .accept => h.accept.2
  | .act session a => h.act session a
  | .settle => h.settle
  | .welcome => h.welcomeNext
  | .load level => h.load level
  | .start => h.start
  | .step dt => h.step dt
  | .tick dt => h.tick dt

/-- The servers that there can be between opening and stopping. -/
inductive Reachable : Host → Prop where
  /-- It has just been opened. -/
  | opened {h : Host} : Unopened h → Reachable h.prepare
  /-- Something happened to it. -/
  | moved {h : Host} (m : Move) : Reachable h → Reachable (h.move m)

/-! ## The invariant -/

section Invariant

variable {h : Host} {reserved : List (Handler Action)} {g : Game}

/-- To greet a player does nothing to the station. -/
@[simp] theorem station_welcome (h : Host) (p : Profile) : (h.welcome p).station = h.station := rfl

/-- To greet the next player does nothing to the station. -/
@[simp] theorem station_welcomeNext (h : Host) : h.welcomeNext.station = h.station := by
  unfold welcomeNext
  split
  · split
    · rfl
    · exact station_welcome _ _
  · rfl

/-- Welcomes leave alone whatever each of them leaves alone. -/
theorem foldl_welcome {α : Type} {f : Host → α} (hf : ∀ h p, f (h.welcome p) = f h)
    (ps : List Profile) (h : Host) : f (ps.foldl welcome h) = f h := by
  induction ps generalizing h with
  | nil => rfl
  | cons p ps ih => rw [List.foldl_cons, ih, hf]

/-- A server loads a level at its station. -/
@[simp] theorem station_load (h : Host) (level : UInt32) :
    (h.load level).station = h.station.load level :=
  foldl_welcome (f := Host.station) (fun _ _ => rfl) _ _

/-- A level that is loaded keeps nobody from being greeted. -/
@[simp] theorem arrivals_load (h : Host) (level : UInt32) : (h.load level).arrivals = h.arrivals :=
  foldl_welcome (f := Host.arrivals) (fun _ _ => rfl) _ _

/-- A level that is loaded does not stop the server. -/
@[simp] theorem stopped_load (h : Host) (level : UInt32) : (h.load level).stopped = h.stopped :=
  foldl_welcome (f := Host.stopped) (fun _ _ => rfl) _ _

/-- The start of a round leaves a station that decides. -/
theorem decides_start (hd : h.station.Decides reserved g) : h.start.station.Decides reserved g.start :=
  hd.mapGame ⟨g.sameBooks_start, g.ownPlayer_start⟩

/-- A step leaves a game that decides, on the same level and with the same owners. -/
theorem exists_decides_step (hd : h.station.Decides reserved g) (dt : Duration) :
    ∃ g', (h.step dt).station.Decides reserved g' ∧ g.GoesOn True g' := by
  have hstays : g.GoesOn True ((g.step? dt).getD g) ∧
      ((g.step? dt).getD g).ownPlayer = g.ownPlayer := by
    cases hstep : g.step? dt with
    | none => exact ⟨.refl True g, rfl⟩
    | some g' => exact ⟨.step? True hstep, (Game.sameBooks_step? hstep).2⟩
  exact ⟨_, hd.mapGame (f := fun g => (g.step? dt).getD g) ⟨hstays.1.books, hstays.2⟩, hstays.1⟩

/-- Before it is opened, a server decides its game without any handler for requests. -/
theorem Unopened.exists_decides (hu : Unopened h) : ∃ g, h.station.Decides [] g := by
  induction hu with
  | new rules capacity => exact ⟨_, .of_authority rules⟩
  | load level _ ih =>
    obtain ⟨g, hd⟩ := ih
    rw [station_load]
    exact hd.load level
  | start _ ih =>
    obtain ⟨g, hd⟩ := ih
    exact ⟨_, decides_start hd⟩
  | step dt _ ih =>
    obtain ⟨g, hd⟩ := ih
    obtain ⟨g', hd', _⟩ := exists_decides_step hd dt
    exact ⟨g', hd'⟩

/-- Opening installs the handlers for requests. -/
theorem decides_prepare (hd : h.station.Decides [] g) :
    ∃ a b, h.prepare.station.Decides (Station.requestHandlers a b) g :=
  ⟨_, _, (hd.addHandler .moveRequest MessageId.isAssigned_event .steer).addHandler
    .highlightRequest MessageId.isAssigned_event .highlight⟩

/-- The end of a session strikes out its player and does nothing else. -/
theorem handle_closed (h : Host) (session : SessionId) :
    h.handle (.closed session) =
      { h with lobby := { h.lobby with roster := (h.lobby.roster.leave session).2 } } := by
  simp only [handle, Lobby.handle, Roster.handle]
  cases (h.lobby.roster.leave session).1 <;> rfl

/-- A message goes to the handlers and nowhere else. -/
theorem handle_received (h : Host) (session : SessionId) (m : Message) :
    h.handle (.received session m) =
      { h with station := (h.handle (.received session m)).station } := by
  simp only [handle, Lobby.handle, Roster.handle]
  split <;> rfl

/-- Players that come and go do not touch the game. -/
theorem station_handle_of_not_received {e : ServerEvent} (he : ∀ session m, e ≠ .received session m) :
    (h.handle e).station = h.station := by
  cases e with
  | accepted session => rfl
  | received session m => exact absurd rfl (he session m)
  | closed session => rw [handle_closed]

/-- A message from a session goes to the station, as from the player on it. -/
theorem station_handle_received (h : Host) (session : SessionId) {m : Message}
    (hm : m.type ≠ .undefined) :
    (h.handle (.received session m)).station =
      (h.station.receive m ⟨h.lobby.roster.sender session, some session⟩).2 := by
  simp only [handle, Lobby.handle, Roster.handle, if_neg hm]

/-- A message of no defined type does not reach the station. -/
theorem station_handle_undefined (h : Host) (session : SessionId) {m : Message}
    (hm : m.type = .undefined) : (h.handle (.received session m)).station = h.station := by
  simp only [handle, Lobby.handle, Roster.handle, if_pos hm]

/-- A report leaves a game that decides, on the same level. Unless it states a piece, all pieces stay
with their owners. -/
theorem exists_decides_handle {a b : UInt64} (hd : h.station.Decides (Station.requestHandlers a b) g)
    (e : ServerEvent) :
    ∃ g', (h.handle e).station.Decides (Station.requestHandlers a b) g' ∧
      g.GoesOn (∀ m ∈ e.message?, m.type ≠ .gameUnit) g' := by
  cases e with
  | received session m =>
    by_cases hm : m.type = .undefined
    · rw [station_handle_undefined h session hm]
      exact ⟨g, hd, .refl _ g⟩
    · rw [station_handle_received h session hm]
      refine ⟨_, hd.receive m _, hd.sameBooks_receive _ m, fun hkept => ?_⟩
      have hbooks := g.sameBooks_asRequested (h.lobby.roster.sender session) m
      have hreg := (Game.Registered.of_wired hd.wired).of_sameBooks hbooks.1
      exact (Game.owners_told hreg (hkept m rfl)).trans (g.owners_asRequested _ m)
  | accepted session =>
    rw [station_handle_of_not_received (by simp)]
    exact ⟨g, hd, .refl _ g⟩
  | closed session =>
    rw [station_handle_of_not_received (by simp)]
    exact ⟨g, hd, .refl _ g⟩

/-- The same for all that a step of the sessions reports. -/
theorem exists_decides_follow {a b : UInt64} (hd : h.station.Decides (Station.requestHandlers a b) g)
    (r : Listener × List ServerEvent) :
    ∃ g', (h.follow r).station.Decides (Station.requestHandlers a b) g' ∧
      g.GoesOn (∀ m ∈ r.2.filterMap ServerEvent.message?, m.type ≠ .gameUnit) g' := by
  obtain ⟨listener, events⟩ := r
  have hall (events : List ServerEvent) (h : Host) (g : Game)
      (hd : h.station.Decides (Station.requestHandlers a b) g) :
      ∃ g', (h.handleAll events).station.Decides (Station.requestHandlers a b) g' ∧
        g.GoesOn (∀ m ∈ events.filterMap ServerEvent.message?, m.type ≠ .gameUnit) g' := by
    induction events generalizing h g with
    | nil => exact ⟨g, hd, .refl _ g⟩
    | cons e events ih =>
      obtain ⟨g', hd', hfirst⟩ := exists_decides_handle hd e
      obtain ⟨g'', hd'', hrest⟩ := ih (h.handle e) g' hd'
      -- No message about pieces among all events means none in the first and none in the others.
      have hhead : ∀ m ∈ e.message?, m ∈ (e :: events).filterMap ServerEvent.message? :=
        fun m hm => List.mem_filterMap.2 ⟨e, List.mem_cons_self, hm⟩
      have htail : events.filterMap ServerEvent.message? ⊆
          (e :: events).filterMap ServerEvent.message? :=
        List.filterMap_subset _ (List.subset_cons_self e events)
      exact ⟨g'', hd'', (hfirst.mono fun hkept m hm => hkept m (hhead m hm)).trans
        (hrest.mono fun hkept m hm => hkept m (htail hm))⟩
  exact hall events _ g hd

/-- **Whatever happens to a server, its game decides**: handlers and entities agree, and there are no
other handlers than those of the entities and of the two kinds of requests. -/
theorem Reachable.exists_decides (hr : Reachable h) :
    ∃ a b g, h.station.Decides (Station.requestHandlers a b) g := by
  induction hr with
  | opened hu =>
    obtain ⟨g, hd⟩ := hu.exists_decides
    obtain ⟨a, b, hd'⟩ := decides_prepare hd
    exact ⟨a, b, g, hd'⟩
  | @moved h m _ ih =>
    obtain ⟨a, b, g, hd⟩ := ih
    refine ⟨a, b, ?_⟩
    -- Whatever the sessions report, the game is as it is or has been sent messages.
    have hfollow (r : Listener × List ServerEvent) :
        ∃ g', (h.follow r).station.Decides (Station.requestHandlers a b) g' := by
      obtain ⟨g', hd', _⟩ := exists_decides_follow hd r
      exact ⟨g', hd'⟩
    cases m with
    | report e =>
      obtain ⟨g', hd', _⟩ := exists_decides_handle hd e
      exact ⟨g', hd'⟩
    | accept => exact hfollow _
    | act session action => exact hfollow _
    | settle => exact hfollow _
    | welcome => exact ⟨g, (station_welcomeNext h).symm ▸ hd⟩
    | load level =>
      obtain ⟨g', hd'⟩ := hd.load level
      exact ⟨g', (station_load h level).symm ▸ hd'⟩
    | start => exact ⟨_, decides_start hd⟩
    | step dt =>
      obtain ⟨g', hd', _⟩ := exists_decides_step hd dt
      exact ⟨g', hd'⟩
    | tick dt =>
      by_cases hs : h.stopped = true
      · exact ⟨g, by rw [move, tick, if_pos hs]; exact hd⟩
      · obtain ⟨g', hd', _⟩ := exists_decides_step hd dt
        refine ⟨g', ?_⟩
        rw [move, tick, if_neg hs]
        exact hd'

end Invariant

/-! ## What a client's message changes -/

/-- A message without a layout is neither a request nor anything for an entity. -/
theorem told_asRequested_of_undefined (g : Game) (player : PlayerId) {reserved : List (Handler Action)}
    {s : Station} (hd : s.Decides reserved g) {m : Message} (hm : m.type = .undefined) :
    (g.asRequested player m).told m = g := by
  have hreg := Game.Registered.of_wired hd.wired
  have hasked : g.asRequested player m = g :=
    Station.Decides.asRequested_of_other g player (.inr (by rw [hm]; decide))
  have hp : (m.contents? : Option PieceState) = none :=
    Message.contents?_of_type_ne (by rw [hm]; decide)
  have ho : (m.contents? : Option ObstacleState) = none :=
    Message.contents?_of_type_ne (by rw [hm]; decide)
  rw [hasked]
  refine Game.told_eq_self_iff.2 ⟨fun p hmem _ => ?_, fun o hmem _ => ?_⟩
  · rw [Piece.taking_eq (hreg.pieces p hmem), hp]
    rfl
  · rw [Obstacle.taking_eq (hreg.obstacles o hmem), ho]
    rfl

/-- A message that is dispatched, or passed over for want of a layout, makes of the game what it asks
for and what it tells. -/
theorem game?_handle_received {h : Host} {a b : UInt64} {g : Game}
    (hd : h.station.Decides (Station.requestHandlers a b) g) (session : SessionId) (m : Message) :
    (h.handle (.received session m)).game? =
      some ((g.asRequested (h.lobby.roster.sender session) m).told m) := by
  by_cases hm : m.type = .undefined
  · rw [game?, station_handle_undefined h session hm, told_asRequested_of_undefined g _ hd hm]
    exact hd.wired.game
  · rw [game?, station_handle_received h session hm, hd.receive_eq]

/-- The session's player asks, and a session without one asks for nothing. -/
theorem asRequested_sender (r : Roster) (session : SessionId) (g : Game) (m : Message) :
    g.asRequested (r.sender session) m =
      (r.bySession? session).elim g fun p => g.asRequested p.player m := by
  unfold Roster.sender
  cases r.bySession? session with
  | some p => rfl
  | none =>
    have hplayer : ¬PlayerId.newClient.isPlayer = true := by decide
    exact if_neg fun h => hplayer h.1

/-- What an entity's own data says of a message under its id: the message says the same, or it says
nothing that the entity understands. -/
theorem told_asRequested_eq_iff {g : Game} {reserved : List (Handler Action)} {s : Station}
    (hd : s.Decides reserved g) (player : PlayerId) (m : Message) :
    (g.asRequested player m).told m = g.asRequested player m ↔
      (∀ p ∈ g.pieces, Entity.id p = m.id → ∀ state, m.contents? = some state → p.state = state) ∧
        ∀ o ∈ g.obstacles, Entity.id o = m.id → ∀ state, m.contents? = some state →
          o.state = state := by
  have hreg := Game.Registered.of_wired hd.wired
  cases hm : m.id.isAssigned with
  | false =>
    -- Neither side says anything about a message under a reserved id.
    have hids : ∀ id ∈ g.ids, id ≠ m.id := by
      intro id hid heq
      have := hd.identified.assigned id hid
      rw [heq, hm] at this
      cases this
    refine iff_of_true ?_ ⟨fun p hp hid => ?_, fun o ho hid => ?_⟩
    · exact Game.told_eq_self_iff.2 ⟨fun p _ hp => absurd hp.2 (by rw [hm]; decide),
        fun o _ ho => absurd ho.2 (by rw [hm]; decide)⟩
    · exact absurd hid (hids _ (List.mem_append_left _ (List.mem_map_of_mem hp)))
    · exact absurd hid (hids _ (List.mem_append_right _ (List.mem_map_of_mem ho)))
  | true =>
    have hevent : m.id ≠ .event := fun heq => by
      rw [heq] at hm
      exact absurd hm (by decide)
    rw [Station.Decides.asRequested_of_other g player (.inl hevent), Game.told_eq_self_iff]
    refine and_congr (forall₂_congr fun p hp => ?_) (forall₂_congr fun o ho => ?_)
    · rw [Piece.taking_eq (hreg.pieces p hp), hm, and_iff_left rfl]
      refine imp_congr_right fun _ => ?_
      cases (m.contents? : Option PieceState) with
      | none => simp
      | some state =>
        simp only [Option.getD_some, Option.some.injEq, forall_eq']
        exact ⟨fun h => (congrArg Piece.state h).symm, fun h => by rw [← h]⟩
    · rw [Obstacle.taking_eq (hreg.obstacles o ho), hm, and_iff_left rfl]
      refine imp_congr_right fun _ => ?_
      cases (m.contents? : Option ObstacleState) with
      | none => simp
      | some state =>
        simp only [Option.getD_some, Option.some.injEq, forall_eq']
        exact ⟨fun h => (congrArg Obstacle.state h).symm, fun h => by rw [← h]⟩

/-- **What any message of a client makes of the server's game**, in any state of the server: what the
session's player asks for with it, and after that what it tells the entities under its id. It comes
to no more than the request exactly if no entity lives under the message's id whose data the message
states otherwise. -/
theorem received_changes {h : Host} (hr : Reachable h) (session : SessionId) (m : Message) :
    ∃ g asked : Game, h.game? = some g ∧
      asked = ((h.lobby.roster.bySession? session).elim g fun p => g.asRequested p.player m) ∧
      (h.handle (.received session m)).game? = some (asked.told m) ∧
      ((h.handle (.received session m)).game? = some asked ↔
        (∀ p ∈ g.pieces, Entity.id p = m.id → ∀ state, m.contents? = some state →
            p.state = state) ∧
          ∀ o ∈ g.obstacles, Entity.id o = m.id → ∀ state, m.contents? = some state →
            o.state = state) := by
  obtain ⟨a, b, g, hd⟩ := hr.exists_decides
  refine ⟨g, _, hd.wired.game, rfl, ?_, ?_⟩
  · rw [game?_handle_received hd, asRequested_sender]
  · rw [game?_handle_received hd, ← asRequested_sender, Option.some_inj]
    exact told_asRequested_eq_iff hd _ m

/-- The first player of a level marks a piece. -/
theorem received_changes_joined :
    let h := ((Host.new {} 16).load 1).prepare.move .accept
    let m : Message := ⟨⟨.event, .highlightRequest, 2⟩, [2, 1]⟩
    Reachable h ∧ ∃ g : Game, h.game? = some g ∧
      (h.handle (.received ⟨1⟩ m)).game? = some ((g.asRequested .firstClient m).told m) := by
  intro h m
  have hr : Reachable h := .moved .accept (.opened (.load 1 (.new {} 16)))
  have hprofile : h.lobby.roster.bySession? ⟨1⟩ = some ⟨.firstClient, ⟨1⟩⟩ := by decide
  obtain ⟨g, asked, hgame, hasked, htold, _⟩ := received_changes hr ⟨1⟩ m
  rw [hprofile] at hasked
  refine ⟨hr, g, hgame, ?_⟩
  rw [htold, hasked]
  rfl

/-- **A client overwrites a piece.** A message that is no request takes the first piece of a level
away from its player, because the piece's own handler follows it. -/
theorem received_overwrites :
    let h := ((Host.new {} 16).load 1).prepare.move .accept
    let m : Message := ⟨⟨.first, .gameUnit, 14⟩, [0, 0, 128, 63, 0, 0, 0, 64, 1, 9, 0, 0, 1, 0]⟩
    let owners (h : Host) := h.game?.map fun g => g.pieces.map (·.state.owner)
    Reachable h ∧ m.type ≠ .moveRequest ∧ m.type ≠ .highlightRequest ∧
      owners h = some (List.replicate 5 ⟨4⟩ ++ List.replicate 5 ⟨5⟩) ∧
      owners (h.handle (.received ⟨1⟩ m)) =
        some (⟨9⟩ :: List.replicate 4 ⟨4⟩ ++ List.replicate 5 ⟨5⟩) := by
  intro h m owners
  have hr : Reachable h := .moved .accept (.opened (.load 1 (.new {} 16)))
  exact ⟨hr, by decide, by decide, by decide +kernel, by decide +kernel⟩

end Host

end Pursuit
