import Pursuit.Proofs.Network

/-! # Clients come to see the server's game

* **`Network.Sound`** — the invariant of a server with its clients: what was sent to a client, whether
  it has followed it or not, shows the server's game as it was when it was last sent.
* **`Network.Sound.ages`, `Network.Sound.tells`, `Network.Sound.reach`** — the kinds of moves keep it.
* **`Network.Reachable.exists_sound`** — it holds throughout.
* **`Network.clients_converge`** — a client that has followed everything shows that game, exactly if
  late reports of earlier connections make no difference. -/

namespace Pursuit

namespace Network

/-- The bytes on their way to a client that is a player. -/
def underWay (n : Network) (client : Nat) (p : Profile) : List UInt8 :=
  (n.clients client).underWay (n.host.lobby.listener.writtenOn p.session)

/-- What was sent to a client that is a player is what it has heard, what is under way to it and what
waits on its session. -/
def Sent (n : Network) (client : Nat) (p : Profile) (sent : List Message) : Prop :=
  (n.clients client).Hears (n.host.lobby.listener.writtenOn p.session)
    (n.host.lobby.listener.queueOf p.session) sent

/-- The profiles that there still are anywhere. -/
def Knows (n : Network) (p : Profile) : Prop :=
  p ∈ n.host.lobby.roster.profiles ∨ p ∈ n.host.arrivals ∨ ∃ i, (n.clients i).profile? = some p

/-- **The invariant of a server with its clients.** -/
structure Sound (now : Game) (n : Network) : Prop where
  /-- The server's game decides. -/
  decides : ∃ a b, n.host.station.Decides (Station.requestHandlers a b) now
  /-- Every player can be sent to. -/
  serves : n.host.lobby.Serves
  /-- The server goes on. -/
  running : n.host.stopped = false
  /-- The sessions are numbered. -/
  numbered : n.host.lobby.listener.Numbered
  /-- Every profile is on a session that has begun. -/
  begun : ∀ p, n.Knows p → p.session ∈ n.host.lobby.listener.sessions.map (·.id)
  /-- A session is one player's. -/
  single : ∀ p q, n.Knows p → n.Knows q → p.session = q.session → p = q
  /-- The clients show what they followed. -/
  follows : ∀ i, (n.clients i).Follows
  /-- What was sent to them shows the game. -/
  upToDate : ∀ i p, (n.clients i).profile? = some p → ∃ sent, n.Sent i p sent ∧
    UpToDate sent p (n.told p.session) (p ∈ n.host.lobby.roster.profiles) n.Unstated now

namespace Sound

variable {n n' : Network} {now now' : Game} {p : Profile} {i : Nat}

/-- A move after which nobody is new keeps the invariant, if it does so with what was sent. -/
theorem keep (hn : n.Sound now)
    (hdecides : ∃ a b, n'.host.station.Decides (Station.requestHandlers a b) now')
    (hserves : n'.host.lobby.Serves) (hstopped : n'.host.stopped = n.host.stopped)
    (hids : n'.host.lobby.listener.sessions.map (·.id) = n.host.lobby.listener.sessions.map (·.id))
    (hnumbering : n'.host.lobby.listener.numbering = n.host.lobby.listener.numbering)
    (hknows : ∀ p, n'.Knows p → n.Knows p) (hfollows : ∀ i, (n'.clients i).Follows)
    (hsent : ∀ i p, (n'.clients i).profile? = some p → ∃ sent, n'.Sent i p sent ∧
      UpToDate sent p (n'.told p.session) (p ∈ n'.host.lobby.roster.profiles) n'.Unstated now') :
    n'.Sound now' where
  decides := hdecides
  serves := hserves
  running := hstopped.trans hn.running
  numbered := hn.numbered.congr hids hnumbering
  begun p hp := hids ▸ hn.begun p (hknows p hp)
  single p q hp hq := hn.single p q (hknows p hp) (hknows q hq)
  follows := hfollows
  upToDate := hsent

/-! ### Moves that send nothing -/

/-- **Whatever sends nothing keeps the invariant**: the level stays, and messages only go from one
place to the next. -/
theorem ages (hn : n.Sound now) {host : Host} {clients : Nat → Client} {asked : List Message}
    (hlobby : n.host.lobby.Ages host.lobby) (harrivals : host.arrivals = n.host.arrivals)
    (hstopped : host.stopped = n.host.stopped)
    (hdecides : ∃ a b, host.station.Decides (Station.requestHandlers a b) now')
    (hgoes : now.GoesOn (∀ m ∈ asked, m.type ≠ .gameUnit) now')
    (hasked : n.asked ⊆ asked) (hfollows : ∀ i, (clients i).Follows)
    (hsent : ∀ i p sent, (clients i).profile? = some p → (n.clients i).profile? = some p ∧
      (n.Sent i p sent → Network.Sent { n with host, clients, asked } i p sent)) :
    Sound now' { n with host, clients, asked } := by
  refine hn.keep hdecides hlobby.serves hstopped hlobby.ids hlobby.numbering ?_ hfollows ?_
  · rintro p (hp | hp | ⟨i, hp⟩)
    · exact .inl (hlobby.roster p hp)
    · exact .inr (.inl (harrivals ▸ hp))
    · exact .inr (.inr ⟨i, (hsent i p [] hp).1⟩)
  · intro i p hp
    obtain ⟨sent, hplaces, hshown⟩ := hn.upToDate i p (hsent i p [] hp).1
    exact ⟨sent, (hsent i p sent hp).2 hplaces,
      hshown.mono (fun hunstated m hm => hunstated m (hasked hm)) fun hl =>
        ⟨hlobby.roster p hl, hgoes⟩⟩

/-- Nothing happens to the sessions when the server's game goes on, or a client does. -/
theorem ages_refl (hn : n.Sound now) : n.host.lobby.Ages n.host.lobby :=
  ⟨fun _ hp => hp, hn.serves, rfl, rfl⟩

/-- Whatever happens to a session leaves a game that decides, on the same level. -/
theorem exists_act (hn : n.Sound now) (session : SessionId) (a : Session.Action) :
    ∃ now', (∃ x y, (n.act session a).host.station.Decides (Station.requestHandlers x y) now') ∧
      now.GoesOn (n.act session a).Unstated now' := by
  obtain ⟨x, y, hd⟩ := hn.decides
  obtain ⟨now', hd', hgoes⟩ := Host.exists_decides_follow hd (n.host.lobby.listener.act session a)
  exact ⟨now', ⟨x, y, hd'⟩, hgoes.mono fun hunstated m hm =>
    hunstated m (List.mem_append_right _ hm)⟩

/-- A quiet action moves no message. -/
theorem act (hn : n.Sound now) (session : SessionId) {a : Session.Action} (ha : a.isQuiet = true) :
    ∃ now', (n.act session a).Sound now' := by
  obtain ⟨now', hdecides, hgoes⟩ := hn.exists_act session a
  obtain ⟨hages, harrivals, hstopped, hlistener⟩ := Host.ages_act hn.serves session a
  refine ⟨now', hn.ages hages harrivals hstopped hdecides hgoes (List.subset_append_left _ _)
    hn.follows fun i p sent hp => ⟨hp, fun hsent => ?_⟩⟩
  rw [Network.Sent, hlistener, Listener.queueOf_act ha, Listener.writtenOn_act ha]
  exact hsent

/-- What is written goes from the queue to the bytes under way. -/
theorem write (hn : n.Sound now) (session : SessionId) :
    ∃ now', (n.move (.write session)).Sound now' := by
  -- Nothing is reported of a write, so the game is what it was.
  obtain ⟨now', hdecides, hgoes⟩ := hn.exists_act session .write
  obtain ⟨hages, harrivals, hstopped, hlistener⟩ := Host.ages_act hn.serves session .write
  refine ⟨now', hn.ages hages harrivals hstopped hdecides hgoes (List.subset_append_left _ _)
    hn.follows fun i p sent hp => ⟨hp, fun hsent => ?_⟩⟩
  rw [Network.Sent, hlistener]
  by_cases hsession : p.session = session
  · have hqueue := n.host.lobby.listener.queueOf_write session
    rw [Network.Sent, hsession, hqueue] at hsent
    rw [hsession, Listener.writtenOn_write]
    cases hnext : n.host.lobby.listener.outgoing? session with
    | none =>
      rw [hnext] at hsent
      rw [show (writeStream (none : Option Message).toList).2 = [] from rfl, List.append_nil]
      exact hsent
    | some m =>
      rw [hnext] at hsent
      -- What waits was sent, so a reader would accept it and it is written whole.
      have hm : m.writable = true := by
        obtain ⟨pending, _, hplaces⟩ := hsent.places
        exact hsent.writable m (by simp [hplaces])
      have hbytes : (writeStream (some m).toList).2 = m.encode := by
        simp [writeStream, toOption_writeMessage, hm]
      rw [hbytes]
      exact Client.Hears.write hsent
  · rw [Listener.queueOf_write_of_ne hsession, Listener.writtenOn_write_of_ne hsession]
    exact hsent

/-- **What a client does of its own** takes messages from those under way to those that it heard. -/
theorem client (hn : n.Sound now) (client : Nat) {a : Dialer.Action} (ha : a.isOwn = true) :
    (n.modifyClient client (·.act a)).Sound now := by
  refine hn.ages hn.ages_refl rfl rfl hn.decides (.refl _ now) (List.Subset.refl _) (fun i => ?_)
    fun i p sent hp => ?_
  · split
    · exact (hn.follows i).act a
    · exact hn.follows i
  · dsimp only [modifyClient, Network.Sent] at hp ⊢
    by_cases hi : i = client
    · rw [if_pos hi] at hp ⊢
      obtain ⟨hup, hentered⟩ := Client.profile?_eq_some_iff.1 hp
      exact ⟨Client.profile?_eq_some_iff.2 ⟨(hn.follows i).serving_of_act ha hup, hentered⟩,
        fun hsent => hsent.act (hn.follows i) ha hup⟩
    · rw [if_neg hi] at hp ⊢
      exact ⟨hp, fun hsent => hsent⟩

/-- Bytes that come in are under way as they were before. -/
theorem carry (hn : n.Sound now) (client count : Nat) : (n.carry client count).Sound now := by
  unfold Network.carry
  split
  · rename_i q hq
    refine hn.ages hn.ages_refl rfl rfl hn.decides (.refl _ now) (List.Subset.refl _) (fun i => ?_)
      fun i p sent hp => ?_
    · dsimp only [modifyClient]
      split
      · exact (hn.follows i).carry _ count
      · exact hn.follows i
    · dsimp only [modifyClient, Network.Sent] at hp ⊢
      by_cases hi : i = client
      · rw [if_pos hi, Client.profile?_carry] at hp
        rw [if_pos hi]
        -- The bytes are those of the client's own session.
        obtain rfl : p = q := by
          rw [hi, hq] at hp
          exact (Option.some.inj hp).symm
        have hserving := (Client.profile?_eq_some_iff.1 hp).1
        exact ⟨hp, fun hsent => hsent.carry hserving (hn.follows i) count⟩
      · rw [if_neg hi] at hp ⊢
        exact ⟨hp, fun hsent => hsent⟩
  · exact hn

/-- The start of a round sends nothing, and the level stays. -/
theorem start (hn : n.Sound now) : ∃ now', (n.move .start).Sound now' := by
  obtain ⟨x, y, hd⟩ := hn.decides
  exact ⟨_, hn.ages hn.ages_refl rfl rfl ⟨x, y, Host.decides_start hd⟩ (.start _ now)
    (List.Subset.refl _) hn.follows fun i p _ hp => ⟨hp, fun hsent => hsent⟩⟩

/-- A step sends nothing, and the level stays. -/
theorem step (hn : n.Sound now) (dt : Duration) : ∃ now', (n.move (.step dt)).Sound now' := by
  obtain ⟨x, y, hd⟩ := hn.decides
  obtain ⟨now', hd', hgoes⟩ := Host.exists_decides_step hd dt
  exact ⟨now', hn.ages hn.ages_refl rfl rfl ⟨x, y, hd'⟩ (hgoes.mono fun _ => trivial)
    (List.Subset.refl _) hn.follows fun i p _ hp => ⟨hp, fun hsent => hsent⟩⟩

/-! ### Moves that send the game -/

/-- A client's player is on the roster exactly if its session is one that is played on. -/
theorem mem_playing_iff (hn : n.Sound now) (hp : (n.clients i).profile? = some p) :
    p.session ∈ n.playing ↔ p ∈ n.host.lobby.roster.profiles := by
  constructor
  · intro hmem
    obtain ⟨q, hq, hsession⟩ := List.mem_map.1 hmem
    rwa [hn.single p q (.inr (.inr ⟨i, hp⟩)) (.inl hq) hsession.symm]
  · exact fun hmem => List.mem_map_of_mem hmem

/-- The player found on a client's session is the client's, if that is on the roster. -/
theorem bySession?_eq (hn : n.Sound now) (hp : (n.clients i).profile? = some p) :
    n.host.lobby.roster.bySession? p.session =
      if p ∈ n.host.lobby.roster.profiles then some p else none := by
  by_cases hmem : p ∈ n.host.lobby.roster.profiles
  · rw [if_pos hmem]
    exact (Roster.bySession?_eq_some_iff hn.serves.nodup).2 ⟨hmem, rfl⟩
  · rw [if_neg hmem]
    exact Roster.bySession?_eq_none_iff.2 fun hplaying => hmem ((hn.mem_playing_iff hp).1 hplaying)

/-- **A server that tells its game keeps the invariant**, if what it tells each client shows the
game. -/
theorem tells (hn : n.Sound now) {host : Host} {out : SessionId → List Message}
    {sessions : List SessionId} (hlobby : Lobby.Sent out n.host.lobby host.lobby)
    (harrivals : ∀ p ∈ host.arrivals, p ∈ n.host.arrivals)
    (hstopped : host.stopped = n.host.stopped)
    (hdecides : ∃ a b, host.station.Decides (Station.requestHandlers a b) now')
    (hwritable : ∀ session, ∀ m ∈ out session, m.writable = true)
    (hshown : ∀ i p sent, (n.clients i).profile? = some p →
      UpToDate sent p (n.told p.session) (p ∈ n.host.lobby.roster.profiles) n.Unstated now →
      UpToDate (sent ++ out p.session) p
        (if p.session ∈ sessions then some now' else n.told p.session)
        (p ∈ n.host.lobby.roster.profiles) n.Unstated now') :
    (n.tell host sessions).Sound now' := by
  have hgame : host.game? = some now' := by
    obtain ⟨a, b, hd⟩ := hdecides
    exact hd.wired.game
  refine hn.keep hdecides hlobby.serves hstopped hlobby.ids hlobby.numbering ?_ hn.follows ?_
  · rintro p (hp | hp | hp)
    · exact .inl (hlobby.roster ▸ hp)
    · exact .inr (.inl (harrivals p hp))
    · exact .inr (.inr hp)
  · intro i p hp
    -- What the server tells a client goes behind all that was sent to it.
    obtain ⟨sent, hplaces, hupToDate⟩ := hn.upToDate i p hp
    have hroster : (n.tell host sessions).host.lobby.roster = n.host.lobby.roster := hlobby.roster
    refine ⟨sent ++ out p.session, ?_, ?_⟩
    · rw [Network.Sent, tell, hlobby.queues, hlobby.written]
      exact Client.Hears.send hplaces (hwritable p.session)
    · rw [hroster, tell, hgame]
      exact hshown i p sent hp hupToDate

/-- A client that is told nothing has lost its player. -/
theorem untold {sent : List Message} {told : Option Game} {kept : Prop}
    (h : UpToDate sent p told (p ∈ n.host.lobby.roster.profiles) kept now)
    (hmem : p ∉ n.host.lobby.roster.profiles) :
    UpToDate (sent ++ []) p told (p ∈ n.host.lobby.roster.profiles) kept now' := by
  rw [List.append_nil]
  exact h.mono id fun hl => absurd hl hmem

/-- A tick goes on with the level and shows the game as it is then. -/
theorem tick (hn : n.Sound now) (dt : Duration) : ∃ now', (n.move (.tick dt)).Sound now' := by
  obtain ⟨x, y, hd⟩ := hn.decides
  obtain ⟨now', hd', hgoes⟩ := Host.exists_decides_step hd dt
  -- The server is running, so a tick is a step and a broadcast.
  have htick : n.host.tick dt = (n.host.step dt).broadcast.2 := by
    rw [Host.tick, if_neg (by rw [hn.running]; decide)]
  have hlobby := Host.sent_broadcast (h := n.host.step dt) hn.serves hd'
  refine ⟨now', ?_⟩
  rw [move, htick]
  refine hn.tells hlobby (fun _ hp => hp) rfl ⟨x, y, hd'⟩ (fun session m hm => ?_)
    fun i p sent hp hupToDate => ?_
  · exact Game.writable_of_mem_reports (Lobby.mem_of_mem_toPlayer hm)
  · have hfound := hn.bySession?_eq hp
    by_cases hmem : p ∈ n.host.lobby.roster.profiles
    · have hout : (n.host.step dt).lobby.toPlayer now'.reports p.session = now'.reports := by
        rw [Lobby.toPlayer, show (n.host.step dt).lobby = n.host.lobby from rfl, hfound, if_pos hmem]
        rfl
      rw [hout, if_pos ((hn.mem_playing_iff hp).2 hmem)]
      exact (hupToDate.mono id fun hl => ⟨hl, hgoes.mono fun _ => trivial⟩).reports hmem
        hd'.identified hd'.ownPlayer
    · have hout : (n.host.step dt).lobby.toPlayer now'.reports p.session = [] := by
        rw [Lobby.toPlayer, show (n.host.step dt).lobby = n.host.lobby from rfl, hfound, if_neg hmem]
        rfl
      rw [hout, if_neg fun hplaying => hmem ((hn.mem_playing_iff hp).1 hplaying)]
      exact untold hupToDate hmem

/-- A new level is shown to everybody on the roster. -/
theorem load (hn : n.Sound now) (level : UInt32) : ∃ now', (n.move (.load level)).Sound now' := by
  obtain ⟨x, y, hd⟩ := hn.decides
  obtain ⟨now', hd'⟩ := hd.load level
  have hlobby := Host.sent_load hn.serves level hd'
  refine ⟨now', hn.tells hlobby (fun p hp => ?_) ?_ ⟨x, y, ?_⟩ (fun session m hm => ?_)
    fun i p sent hp hupToDate => ?_⟩
  · rwa [Host.arrivals_load] at hp
  · exact Host.stopped_load _ _
  · rwa [Host.station_load]
  · cases hfound : n.host.lobby.roster.bySession? session with
    | none =>
      rw [hfound] at hm
      cases hm
    | some q =>
      rw [hfound] at hm
      exact Profile.writable_of_mem_welcome hm
  · have hfound := hn.bySession?_eq hp
    -- A client whose player is gone is told nothing of the new level.
    by_cases hmem : p ∈ n.host.lobby.roster.profiles
    · rw [hfound, if_pos hmem, if_pos ((hn.mem_playing_iff hp).2 hmem)]
      exact hupToDate.welcome hd'.identified hd'.ownPlayer
    · rw [hfound, if_neg hmem, if_neg fun hplaying => hmem ((hn.mem_playing_iff hp).1 hplaying)]
      exact untold hupToDate hmem

/-- A welcome shows the game to one player. -/
theorem welcome (hn : n.Sound now) : ∃ now', (n.move .welcome).Sound now' := by
  obtain ⟨x, y, hd⟩ := hn.decides
  refine ⟨now, ?_⟩
  cases harrivals : n.host.arrivals with
  | nil =>
    -- Nobody has to be welcomed, so the server tells nobody anything.
    have hhost : n.host.welcomeNext = n.host := by rw [Host.welcomeNext, harrivals]
    rw [move, hhost, harrivals]
    refine hn.tells (Lobby.Sent.refl hn.serves) (fun _ hp => hp) rfl hn.decides
      (fun _ m hm => absurd hm List.not_mem_nil) fun i p sent hp hupToDate => ?_
    rw [List.append_nil]
    exact hupToDate
  | cons p₀ rest =>
    have hhost : n.host.welcomeNext = { n.host with arrivals := rest }.welcome p₀ := by
      rw [Host.welcomeNext, harrivals]
      exact if_neg (by rw [hn.running]; decide)
    have hlobby := Host.sent_welcome (h := { n.host with arrivals := rest }) hn.serves hd p₀
    -- Whoever is to be welcomed has a session, though perhaps not on the roster any more.
    have hknown : n.Knows p₀ := .inr (.inl (harrivals ▸ List.mem_cons_self))
    have htold (session : SessionId) :
        session ∈ ((p₀ :: rest).head?.toList.map (·.session)).filter (· ∈ n.playing) ↔
          session = p₀.session ∧ session ∈ n.playing := by
      simp [eq_comm]
    rw [move, hhost, harrivals]
    refine hn.tells hlobby (fun p hp => ?_) rfl hn.decides (fun session m hm => ?_)
      fun i p sent hp hupToDate => ?_
    · rw [harrivals]
      exact List.mem_cons_of_mem _ hp
    · split at hm
      · exact Profile.writable_of_mem_welcome (Lobby.mem_of_mem_toPlayer hm)
      · cases hm
    · -- Only the player who is welcomed is on that session.
      by_cases hsession : p.session = p₀.session
      · obtain rfl := hn.single p p₀ (.inr (.inr ⟨i, hp⟩)) hknown hsession
        have hfound := hn.bySession?_eq hp
        rw [if_pos rfl, Lobby.toPlayer, hfound]
        by_cases hmem : p ∈ n.host.lobby.roster.profiles
        · rw [if_pos hmem, if_pos ((htold _).2 ⟨rfl, (hn.mem_playing_iff hp).2 hmem⟩)]
          exact hupToDate.welcome hd.identified hd.ownPlayer
        · rw [if_neg hmem, if_neg fun h => hmem ((hn.mem_playing_iff hp).1 ((htold _).1 h).2)]
          exact untold hupToDate hmem
      · rw [if_neg hsession, if_neg fun h => hsession ((htold _).1 h).1, List.append_nil]
        exact hupToDate

end Sound

/-! ### Clients that join -/

/-- What becomes of an attempt: nothing, a connection without a session, or a session. -/
theorem reach_cases (n : Network) (client : Nat) :
    n.reach client = n ∨ (n.clients client).guest.dialer.phase = .dialing ∧
      (n.reach client = n.modifyClient client (·.enter none) ∨
        ∃ session, n.host.accept.1 = some session ∧
          n.reach client = { n with host := n.host.accept.2 }.modifyClient client
            (·.enter (n.host.accept.2.lobby.roster.bySession? session))) := by
  unfold reach
  split
  · rename_i hdialing
    refine .inr ⟨hdialing, ?_⟩
    rcases n.host.lobby.listener.accept_cases with hrefused | ⟨live, haccepted⟩
    · have haccept : n.host.accept = (none, n.host) := by
        rw [Host.accept, hrefused]
        rfl
      rw [haccept]
      exact .inl rfl
    · refine .inr ⟨⟨n.host.lobby.listener.numbering.upcoming⟩, ?_, ?_⟩
      · rw [Host.accept, haccepted]
      · rw [Host.accept, haccepted]
        rfl
  · exact .inl rfl

namespace Sound

variable {n : Network} {now : Game}

/-- A client that finds no room is nobody, and all others stay who they are. -/
theorem refused (hn : n.Sound now) (client : Nat) :
    (n.modifyClient client (·.enter none)).Sound now := by
  refine hn.ages hn.ages_refl rfl rfl hn.decides (.refl _ now) (List.Subset.refl _) (fun i => ?_)
    fun i p sent hp => ?_
  · split
    · exact (hn.follows i).enter none
    · exact hn.follows i
  · dsimp only [modifyClient, Network.Sent] at hp ⊢
    by_cases hi : i = client
    · rw [if_pos hi] at hp
      exact absurd (Client.profile?_eq_some_iff.1 hp).2 (by simp [Client.enter])
    · rw [if_neg hi] at hp ⊢
      exact ⟨hp, fun hsent => hsent⟩

/-- **A client that joins starts from nothing**, on a session that nobody had. -/
theorem reach (hn : n.Sound now)
    (hfew : n.host.lobby.listener.sessions.length < UInt64.size) (client : Nat) :
    (n.reach client).Sound now := by
  rcases n.reach_cases client with hsame | ⟨hdialing, hrefused | ⟨session, haccept, hreach⟩⟩
  · rwa [hsame]
  · rw [hrefused]
    exact hn.refused client
  have hj := Host.joined_accept haccept
  have hfresh : session ∉ n.host.lobby.listener.sessions.map (·.id) := by
    rw [hj.number]
    exact hn.numbered.upcoming_notMem hfew
  have hserves := hj.serves hn.serves hfresh
  have hprofile : n.host.accept.2.lobby.roster.bySession? session =
      some (n.host.lobby.roster.join session).1 := by
    refine (Roster.bySession?_eq_some_iff hserves.nodup).2 ⟨?_, rfl⟩
    rw [hj.roster]
    exact List.mem_append_right _ (List.mem_singleton_self _)
  -- The session is one that nobody known is on, so no queue and no view is touched.
  have hold : ∀ p, n.Knows p → p.session ≠ session := fun p hp heq =>
    hfresh (heq ▸ hn.begun p hp)
  have hids : n.host.accept.2.lobby.listener.sessions.map (·.id) =
      n.host.lobby.listener.sessions.map (·.id) ++ [session] := by
    rw [hj.sessions, List.map_append]
    rfl
  rw [hreach, hprofile]
  have hentered {p : Profile} {q : Profile}
      (hp : ((n.clients client).enter (some q)).profile? = some p) : p = q :=
    (Option.some.inj (Client.profile?_eq_some_iff.1 hp).2).symm
  -- Besides those who were known before there is the new player.
  have hknows : ∀ p, (({ n with host := n.host.accept.2 } : Network).modifyClient client
      (·.enter (some (n.host.lobby.roster.join session).1))).Knows p →
      n.Knows p ∨ p = (n.host.lobby.roster.join session).1 := by
    rintro p (hp | hp | ⟨i, hp⟩)
    · change p ∈ n.host.accept.2.lobby.roster.profiles at hp
      rw [hj.roster, List.mem_append, List.mem_singleton] at hp
      exact hp.imp_left .inl
    · change p ∈ n.host.accept.2.arrivals at hp
      rw [hj.arrivals, List.mem_append, List.mem_singleton] at hp
      exact hp.imp_left fun hp => .inr (.inl hp)
    · dsimp only [modifyClient] at hp
      by_cases hi : i = client
      · rw [if_pos hi, hi] at hp
        exact .inr (hentered hp)
      · rw [if_neg hi] at hp
        exact .inl (.inr (.inr ⟨i, hp⟩))
  constructor
  · obtain ⟨a, b, hd⟩ := hn.decides
    exact ⟨a, b, hj.station ▸ hd⟩
  · exact hserves
  · exact hj.stopped.trans hn.running
  · exact hn.numbered.joined (hj.number ▸ hj.sessions) hj.numbering
  · intro p hp
    change p.session ∈ n.host.accept.2.lobby.listener.sessions.map (·.id)
    rw [hids, List.mem_append, List.mem_singleton]
    rcases hknows p hp with hp | rfl
    · exact .inl (hn.begun p hp)
    · exact .inr rfl
  · intro p q hp hq hsession
    rcases hknows p hp with hp | rfl
    · rcases hknows q hq with hq | rfl
      · exact hn.single p q hp hq hsession
      · exact absurd hsession (hold p hp)
    · rcases hknows q hq with hq | rfl
      · exact absurd hsession.symm (hold q hq)
      · rfl
  · intro i
    dsimp only [modifyClient]
    split
    · exact (hn.follows i).enter _
    · exact hn.follows i
  · intro i p hp
    dsimp only [modifyClient, Network.Sent] at hp ⊢
    rw [hj.queueOf hfresh, hj.writtenOn hfresh]
    by_cases hi : i = client
    · rw [if_pos hi] at hp ⊢
      rw [hi] at hp ⊢
      obtain rfl := hentered hp
      have hnone := Listener.session?_eq_none hfresh
      refine ⟨[], ?_, .nil⟩
      rw [show (n.host.lobby.roster.join session).1.session = session from rfl, Listener.queueOf,
        Listener.writtenOn, hnone]
      exact .enter (hn.follows client) hdialing _
    · rw [if_neg hi] at hp ⊢
      obtain ⟨sent, hplaces, hupToDate⟩ := hn.upToDate i p hp
      refine ⟨sent, hplaces, hupToDate.mono id fun hl => ⟨?_, .refl _ now⟩⟩
      rw [hj.roster, List.mem_append, List.mem_singleton] at hl
      refine hl.resolve_right fun heq => hold p (.inr (.inr ⟨i, hp⟩)) ?_
      rw [heq]
      rfl

end Sound

/-! ### Whatever happens -/

/-- Only a client that joins adds to the connections. -/
theorem connections_le_move (n : Network) (m : Move) :
    n.host.connections ≤ (n.move m).host.connections := by
  cases m with
  | client client a =>
    rw [move]
    split <;> exact Nat.le_refl _
  | reach client =>
    rw [move]
    -- The client does not dial, finds no room, or is let in.
    rcases n.reach_cases client with hsame | ⟨_, hrefused | ⟨session, _, hreach⟩⟩
    · exact Nat.le_of_eq (by rw [hsame])
    · exact Nat.le_of_eq (by rw [hrefused]; rfl)
    · rw [hreach]
      exact n.host.connections_le_accept
  | carry client count =>
    rw [move, carry]
    split <;> exact Nat.le_refl _
  | write session => exact Nat.le_of_eq (n.host.connections_act session .write).symm
  | session session a =>
    rw [move]
    split
    · exact Nat.le_of_eq (n.host.connections_act session a).symm
    · exact Nat.le_refl _
  | welcome => exact Nat.le_of_eq n.host.connections_welcomeNext.symm
  | load level => exact Nat.le_of_eq (n.host.connections_load level).symm
  | tick dt => exact Nat.le_of_eq (n.host.connections_tick dt).symm
  | start => exact Nat.le_refl _
  | step dt => exact Nat.le_refl _

end Network

/-- Nobody has reached a server that has not been opened. -/
theorem Host.Unopened.lobby_eq {h : Host} (hu : h.Unopened) :
    ∃ capacity, h.lobby = .new capacity ∧ h.arrivals = [] ∧ h.stopped = false := by
  induction hu with
  | new rules capacity => exact ⟨capacity, rfl, rfl, rfl⟩
  | load level _ ih =>
    obtain ⟨capacity, hlobby, harrivals, hstopped⟩ := ih
    refine ⟨capacity, ?_, (Host.arrivals_load _ _).trans harrivals,
      (Host.stopped_load _ _).trans hstopped⟩
    rename_i h _
    have hnobody : h.lobby.roster.profiles = [] := by
      rw [hlobby]
      rfl
    rw [Host.load, hnobody]
    exact hlobby
  | start _ ih => exact ih
  | step _ _ ih => exact ih

namespace Network

/-- A server that has just been opened has nobody to tell anything. -/
theorem exists_sound_opened {h : Host} (hu : h.Unopened) (settings : Nat → DialerSettings)
    (rules : Nat → Rules) :
    ∃ now, Sound now { host := h.prepare, clients := fun i => .new (settings i) (rules i) } := by
  obtain ⟨now, hd⟩ := hu.exists_decides
  obtain ⟨a, b, hd'⟩ := Host.decides_prepare hd
  obtain ⟨capacity, hlobby, harrivals, hstopped⟩ := hu.lobby_eq
  have hlobby' : h.prepare.lobby = .new capacity := hlobby
  -- Nobody is on the roster, nobody waits for a welcome and no client has entered.
  have hunknown : ∀ p, ¬Knows
      { host := h.prepare, clients := fun i => .new (settings i) (rules i) } p := by
    rintro p (hp | hp | ⟨i, hp⟩)
    · dsimp only at hp
      rw [hlobby'] at hp
      cases hp
    · rw [show h.prepare.arrivals = h.arrivals from rfl, harrivals] at hp
      cases hp
    · cases hp
  refine ⟨now, ⟨a, b, hd'⟩, ?_, hstopped, ?_, fun p hp => absurd hp (hunknown p),
    fun p _ hp => absurd hp (hunknown p), fun i => .new _ _, fun _ _ hp => by cases hp⟩
  · dsimp only
    rw [hlobby']
    exact ⟨fun _ hp => absurd hp List.not_mem_nil, List.nodup_nil⟩
  · dsimp only
    rw [hlobby']
    exact .new capacity

/-- **The invariant holds whatever happens**, as long as the numbers of sessions last. -/
theorem Reachable.exists_sound {n : Network} (hr : n.Reachable)
    (hfew : n.host.connections ≤ UInt64.size) : ∃ now, n.Sound now := by
  induction hr with
  | opened settings rules hu => exact exists_sound_opened hu settings rules
  | @moved n m _ ih =>
    obtain ⟨now, hn⟩ := ih (Nat.le_trans (n.connections_le_move m) hfew)
    cases m with
    | client client a =>
      rw [move]
      split
      · exact ⟨now, hn.client client ‹_›⟩
      · exact ⟨now, hn⟩
    | reach client =>
      rw [move] at hfew ⊢
      -- Only a client that is let in takes a new number, which is then still free.
      rcases n.reach_cases client with hsame | ⟨_, hrefused | ⟨session, haccept, hreach⟩⟩
      · rw [hsame]
        exact ⟨now, hn⟩
      · rw [hrefused]
        exact ⟨now, hn.refused client⟩
      · refine ⟨now, hn.reach ?_ client⟩
        rw [hreach] at hfew
        change n.host.accept.2.lobby.listener.sessions.length ≤ _ at hfew
        rw [(Host.joined_accept haccept).sessions, List.length_append] at hfew
        exact hfew
    | carry client count => exact ⟨now, hn.carry client count⟩
    | write session => exact hn.write session
    | session session a =>
      rw [move]
      split
      · rename_i ha
        exact hn.act session ha
      · exact ⟨now, hn⟩
    | welcome => exact hn.welcome
    | load level => exact hn.load level
    | start => exact hn.start
    | step dt => exact hn.step dt
    | tick dt => exact hn.tick dt

end Network

/-! ## What a client that has followed everything shows -/

namespace Game

variable {mirror g : Game} {player : PlayerId}

/-- **A client's game shows a server's game to a player**: the same pieces and the same obstacles in
the same order, with the same ids and the same data, and the same names for the player's own
pieces. -/
structure Shows (mirror : Game) (player : PlayerId) (g : Game) : Prop where
  /-- The pieces are the same. -/
  pieces : mirror.pieces.map (fun p => (Entity.id p, p.state)) =
    g.pieces.map fun p => (Entity.id p, p.state)
  /-- The obstacles are the same. -/
  obstacles : mirror.obstacles.map (fun o => (Entity.id o, o.state)) =
    g.obstacles.map fun o => (Entity.id o, o.state)
  /-- The player's own pieces go by the same indices. -/
  own : ∀ index, (mirror.ownPieceByIndex? index).bind mirror.idAt? =
    (g.pieceByIndex? player index).bind g.idAt?

/-- **To show a player a game** is to look the same, but for who the player is. -/
theorem shows_iff_view (hown : g.ownPlayer = .none) :
    mirror.Shows player g ∧ mirror.ownPlayer = player ↔
      mirror.view = { g.view with ownPlayer := player } := by
  constructor
  · rintro ⟨hshows, hplayer⟩
    show View.mk _ _ _ = View.mk _ _ _
    rw [hshows.pieces, hshows.obstacles, hplayer]
    rfl
  · intro hview
    have hpieces : mirror.view.pieces = g.view.pieces := by rw [hview]
    have hobstacles : mirror.view.obstacles = g.view.obstacles := by rw [hview]
    have hplayer : mirror.ownPlayer = player := congrArg View.ownPlayer hview
    have howners : mirror.owners = g.owners := by
      have howners := congrArg (List.map fun x => x.2.owner) hpieces
      rw [view, view, List.map_map, List.map_map] at howners
      exact howners
    refine ⟨⟨hpieces, hobstacles, fun index => ?_⟩, hplayer⟩
    rw [ownPieceByIndex?, hplayer]
    refine names_congr ?_ howners (.inr hplayer) (.inl hown) index
    rw [← ids_view_pieces, ← ids_view_pieces, hpieces]

end Game

namespace Network

/-- **Clients come to see the server's game, unless a connection that has ended tells them more.** In
any run of a server with any number of clients, in which the numbers of sessions have not run out, let
a client be connected as a player and greeted on this connection.

Its session is the player's own. As long as late reports make no difference to it, it is the player.
Late reports make none that came before a greeting after which there were no more of them.

Once nothing that was sent to it is under way or waits, its game shows the server's game as it was when
it was last sent to the session, exactly if late reports make no difference to it. As long as the player
is on the roster, that is still the level that the server plays, and the player's own pieces go by the
same indices now unless a piece has another owner, which takes a client that stated a piece. -/
theorem clients_converge {n : Network} (hr : n.Reachable) (hfew : n.host.connections ≤ UInt64.size)
    {client : Nat} {p : Profile} (hp : (n.clients client).profile? = some p)
    (hgreeted : ∃ m ∈ (n.clients client).heard, m.type = .newPlayerId) :
    ∃ mirror, (n.clients client).guest.game? = some mirror ∧
      (∀ q ∈ n.host.lobby.roster.profiles, q.session = p.session → q = p) ∧
      ((n.clients client).Undisturbed → mirror.ownPlayer = p.player) ∧
      (∀ (connection : Nat) (before after : List Dialer.Report),
        (n.clients client).reports =
            before ++ ⟨connection, false, .received p.greeting⟩ :: after →
          (∀ r ∈ after, r.late = false) → (n.clients client).Undisturbed) ∧
      (n.underWay client p = [] → n.host.lobby.listener.queueOf p.session = [] →
        ∃ g, n.told p.session = some g ∧
          (mirror.Shows p.player g ∧ mirror.ownPlayer = p.player ↔
            (n.clients client).Undisturbed) ∧
          (p ∈ n.host.lobby.roster.profiles → ∃ now, n.host.game? = some now ∧
            now.pieces.map Entity.id = g.pieces.map Entity.id ∧
            now.obstacles.map Entity.id = g.obstacles.map Entity.id ∧
            (n.Unstated → now.owners = g.owners) ∧
            (now.owners = g.owners → ∀ index,
              (g.pieceByIndex? p.player index).bind g.idAt? =
                (now.pieceByIndex? p.player index).bind now.idAt?))) := by
  obtain ⟨now, hn⟩ := hr.exists_sound hfew
  obtain ⟨a, b, hd⟩ := hn.decides
  obtain ⟨mirror, hlistens, hview⟩ := (hn.follows client).listens
  obtain ⟨sent, hplaces, hsent⟩ := hn.upToDate client p hp
  have hheard : ∀ m ∈ (n.clients client).heard, m ∈ sent := fun m hm => by
    obtain ⟨pending, _, hall⟩ := hplaces.places
    rw [hall]
    exact List.mem_append_left _ (List.mem_append_left _ hm)
  have hgreeting : p.greeting ∈ (n.clients client).heard := by
    obtain ⟨m, hm, htype⟩ := hgreeted
    rwa [← hsent.greetings m (hheard m hm) htype]
  refine ⟨mirror, hlistens.mirrors.wired.game, fun q hq hsession => ?_, fun hcalm => ?_,
    fun connection before after hreports hafter => Client.undisturbed_of_greeted hreports hafter,
    fun hunder hqueue => ?_⟩
  · exact hn.single q p (.inl hq) (.inr (.inr ⟨client, hp⟩)) hsession
  · have hplayer := View.ownPlayer_foldl (fun m hm => hsent.greetings m (hheard m hm)) {}
      (.inr hgreeting)
    rwa [← hcalm, ← hview] at hplayer
  · -- All that was sent has been heard.
    rw [Sent, hqueue] at hplaces
    have hall : sent = (n.clients client).heard := hplaces.eq_heard hunder
    obtain ⟨g, htold, hown, hshown, hgoes⟩ := hsent.told (hheard _ hgreeting)
    refine ⟨g, htold, ?_, fun hlisted => ?_⟩
    · rw [Game.shows_iff_view hown, hview, ← hshown, hall]
      rfl
    · have hsame := hgoes hlisted
      exact ⟨now, hd.wired.game, hsame.books.pieceIds, hsame.books.obstacleIds, hsame.owners,
        fun howners => Game.names_congr hsame.books.pieceIds.symm howners.symm (.inl hown)
          (.inl hd.ownPlayer)⟩

/-- A client is asked to connect and reaches the server. -/
def dials (client : Nat) (order : Dialer.Order) : List Move :=
  [.client client (.post order), .client client .handle, .client client .resolve, .reach client]

/-- Two clients join. One is told of a step before it is welcomed, then a level is loaded, and it
follows all of that. -/
theorem clients_converge_reloaded :
    let opened : Network :=
      { host := ((Host.new {} 16).load 1).prepare, clients := fun _ => .new {} {} }
    let n := opened.run (dials 0 (.connect "server") ++ dials 1 (.connect "server") ++
      [.tick .zero, .welcome, .load 1] ++ List.replicate 50 (.write ⟨1⟩) ++ [.carry 0 2000] ++
      List.replicate 50 (.client 0 .read))
    let p : Profile := ⟨.firstClient, ⟨1⟩⟩
    n.Reachable ∧ n.host.connections ≤ UInt64.size ∧ (n.clients 0).profile? = some p ∧
      n.underWay 0 p = [] ∧ n.host.lobby.listener.queueOf p.session = [] ∧
      ∃ mirror g, (n.clients 0).guest.game? = some mirror ∧ mirror.ownPlayer = p.player ∧
        n.told p.session = some g ∧ mirror.Shows p.player g := by
  intro opened n p
  have hr : n.Reachable := .run (.opened _ _ (.load 1 (.new {} 16))) _
  have hfew : n.host.connections ≤ UInt64.size := by decide +kernel
  have hp : (n.clients 0).profile? = some p := by decide +kernel
  have hunder : n.underWay 0 p = [] := by decide +kernel
  have hqueue : n.host.lobby.listener.queueOf p.session = [] := by decide +kernel
  have hgreeting : (n.clients 0).heard[16]?.map (·.type) = some .newPlayerId := by decide +kernel
  -- The greeting of the reload is the last one, and no reader was called off.
  have hreports : (n.clients 0).reports = (n.clients 0).reports.take 34 ++
      ⟨0, false, .received p.greeting⟩ :: (n.clients 0).reports.drop 35 := by decide +kernel
  have htimely : ∀ r ∈ (n.clients 0).reports.drop 35, r.late = false := by decide +kernel
  obtain ⟨m, hm, htype⟩ := Option.map_eq_some_iff.1 hgreeting
  obtain ⟨mirror, hmirror, _, hplayer, hcalm, hshows⟩ :=
    clients_converge hr hfew hp ⟨m, List.mem_of_getElem? hm, htype⟩
  have hundisturbed := hcalm 0 _ _ hreports htimely
  obtain ⟨g, htold, hshown, _⟩ := hshows hunder hqueue
  exact ⟨hr, hfew, hp, hunder, hqueue, mirror, g, hmirror, hplayer hundisturbed, htold,
    (hshown.2 hundisturbed).1⟩

/-- **A client shows a piece of a level that is gone.** It is told to disconnect while its reader has the
first piece of a level in hand. A level is loaded, the client connects again, is greeted and follows all
that was sent to it. Then the reader that was called off reports the piece, and the client shows it
behind those of the new level. -/
theorem clients_converge_late :
    let opened : Network :=
      { host := ((Host.new {} 16).load 1).prepare, clients := fun _ => .new {} {} }
    let n := opened.run (dials 0 (.connect "server") ++
      [.welcome, .write ⟨1⟩, .write ⟨1⟩, .carry 0 100, .client 0 .read,
        .client 0 (.post .disconnect), .client 0 .handle,
        .session ⟨1⟩ .hangUp, .session ⟨1⟩ .read, .session ⟨1⟩ .readerLeaves, .load 1] ++
      dials 0 .reconnect ++ [.welcome] ++ List.replicate 17 (.write ⟨2⟩) ++ [.carry 0 2000] ++
      List.replicate 17 (.client 0 .read) ++ [.client 0 (.linger 0)])
    let p : Profile := ⟨⟨5⟩, ⟨2⟩⟩
    n.Reachable ∧ n.host.connections ≤ UInt64.size ∧ n.host.lobby.roster.profiles = [p] ∧
      (n.clients 0).profile? = some p ∧ (∃ m ∈ (n.clients 0).heard, m.type = .newPlayerId) ∧
      n.underWay 0 p = [] ∧ n.host.lobby.listener.queueOf ⟨2⟩ = [] ∧
      ∃ mirror g, (n.clients 0).guest.game? = some mirror ∧ n.told ⟨2⟩ = some g ∧
        mirror.pieces.map Entity.id = g.pieces.map Entity.id ++ [⟨3⟩] ∧ ¬mirror.Shows ⟨5⟩ g := by
  intro opened n p
  have hr : n.Reachable := .run (.opened _ _ (.load 1 (.new {} 16))) _
  have hgreeting : (n.clients 0).heard[0]?.map (·.type) = some .newPlayerId := by decide +kernel
  obtain ⟨m, hm, htype⟩ := Option.map_eq_some_iff.1 hgreeting
  have hgames : ((n.clients 0).guest.game?.map fun g => g.pieces.map Entity.id) =
      (n.told ⟨2⟩).map fun g => g.pieces.map Entity.id ++ [⟨3⟩] := by decide +kernel
  have htold : (n.told ⟨2⟩).isSome = true := by decide +kernel
  obtain ⟨g, hg⟩ := Option.isSome_iff_exists.1 htold
  rw [hg, Option.map_some, Option.map_eq_some_iff] at hgames
  obtain ⟨mirror, hmirror, hids⟩ := hgames
  refine ⟨hr, by decide +kernel, by decide +kernel, by decide +kernel,
    ⟨m, List.mem_of_getElem? hm, htype⟩, by decide +kernel, by decide +kernel, mirror, g, hmirror, hg,
    hids, fun hshows => ?_⟩
  have hpieces := congrArg List.length hshows.pieces
  have hmore := congrArg List.length hids
  simp only [List.length_map, List.length_append, List.length_singleton] at hpieces hmore
  omega

end Network

end Pursuit
