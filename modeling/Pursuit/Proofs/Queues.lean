import Pursuit.Proofs.Authority
import Pursuit.Proofs.Reports

/-! # What is queued for whom

* **`Listener.queueOf`** — the messages that wait on a session.
* **`Lobby.Serves`** — each player has a session of its own that takes messages.
* **`Lobby.Sent`** — a lobby after some messages were queued, told session by session.
* **`Host.sent_welcome`, `Host.sent_load`, `Host.sent_broadcast`** — what a welcome, a reload and a
  broadcast queue. -/

namespace Pursuit

/-! ## Sessions -/

namespace Listener

variable {l : Listener}

/-- The messages that wait on a session, the oldest first. -/
def queueOf (l : Listener) (id : SessionId) : List Message :=
  ((l.session? id).map (·.queue)).getD []

/-- The bytes written on a session. -/
def writtenOn (l : Listener) (id : SessionId) : List UInt8 :=
  ((l.session? id).map (·.written)).getD []

/-- A change to one session changes what is found under its id and nothing else. -/
theorem session?_modify {id : SessionId} {f : Session → Session}
    (hf : ∀ s, s.id = id → (f s).id = id) (id' : SessionId) :
    (l.modify id f).session? id' =
      (l.session? id').map fun s => if s.id = id then f s else s := by
  have hid (s : Session) : (if s.id = id then f s else s).id = s.id := by
    by_cases h : s.id = id
    · rw [if_pos h, hf s h, h]
    · rw [if_neg h]
  unfold session? modify
  rw [List.find?_map]
  congr 2
  funext s
  simp only [Function.comp_apply, hid]

/-- A session that is found under a number has it. -/
theorem id_of_session? {id : SessionId} {s : Session} (h : l.session? id = some s) : s.id = id := by
  have := List.find?_some h
  simpa using this

/-- No session is found under a number that none has. -/
theorem session?_eq_none {id : SessionId} (h : id ∉ l.sessions.map (·.id)) :
    l.session? id = none := by
  simpa [session?] using h

/-- A session that is changed is found as it was changed. -/
theorem session?_modify_self {id : SessionId} {f : Session → Session}
    (hf : ∀ s, s.id = id → (f s).id = id) {s : Session} (h : l.session? id = some s) :
    (l.modify id f).session? id = some (f s) := by
  rw [session?_modify hf, h, Option.map_some, if_pos (id_of_session? h)]

/-- The other sessions are found as they were. -/
theorem session?_modify_of_ne {id id' : SessionId} {f : Session → Session}
    (hf : ∀ s, s.id = id → (f s).id = id) (hne : id' ≠ id) :
    (l.modify id f).session? id' = l.session? id' := by
  rw [session?_modify hf]
  cases h : l.session? id' with
  | none => rfl
  | some s => rw [Option.map_some, if_neg (fun heq => hne ((id_of_session? h).symm.trans heq))]

/-- Changing a session leaves the numbers of all. -/
theorem ids_modify {id : SessionId} {f : Session → Session} (hf : ∀ s, s.id = id → (f s).id = id) :
    (l.modify id f).sessions.map (·.id) = l.sessions.map (·.id) := by
  rw [modify, List.map_map]
  refine List.map_congr_left fun s _ => ?_
  simp only [Function.comp_apply]
  by_cases h : s.id = id
  · rw [if_pos h, hf s h, h]
  · rw [if_neg h]

/-- A session keeps its number when something is sent on it. -/
theorem id_send (s : Session) (m : Message) : (s.send m).id = s.id := by
  unfold Session.send
  split <;> rfl

end Listener

/-! ## Players on their sessions -/

namespace Roster

/-- The profile found under a session is the one that there is. -/
theorem bySession?_eq_some_iff {r : Roster} (hnodup : (r.profiles.map (·.session)).Nodup)
    {session : SessionId} {p : Profile} :
    r.bySession? session = some p ↔ p ∈ r.profiles ∧ p.session = session := by
  constructor
  · intro h
    have hsession := List.find?_some h
    exact ⟨List.mem_of_find?_eq_some h, by simpa using hsession⟩
  · rintro ⟨hp, hsession⟩
    cases h : r.bySession? session with
    | none =>
      have := List.find?_eq_none.1 h p hp
      simp [hsession] at this
    | some q =>
      have hq := List.find?_some h
      rw [decide_eq_true_eq] at hq
      rw [List.inj_on_of_nodup_map hnodup (List.mem_of_find?_eq_some h) hp (hq.trans hsession.symm)]

/-- Nobody is found under a session exactly if no profile is on it. -/
theorem bySession?_eq_none_iff {r : Roster} {session : SessionId} :
    r.bySession? session = none ↔ session ∉ r.profiles.map (·.session) := by
  simp [bySession?]

end Roster

namespace Lobby

/-- Each player has a session of its own, which takes messages. -/
structure Serves (l : Lobby) : Prop where
  /-- It takes messages. -/
  takes : ∀ p ∈ l.roster.profiles, ∃ s, l.listener.session? p.session = some s ∧
    s.closed = false ∧ s.writer ≠ .gone
  /-- It is the player's own. -/
  nodup : (l.roster.profiles.map (·.session)).Nodup

/-- A lobby `l'` that comes from `l` by queueing messages, those of `out` on each session. -/
structure Sent (out : SessionId → List Message) (l l' : Lobby) : Prop where
  /-- The players are the same. -/
  roster : l'.roster = l.roster
  /-- Their sessions still take messages. -/
  serves : l'.Serves
  /-- The sessions are the same. -/
  ids : l'.listener.sessions.map (·.id) = l.listener.sessions.map (·.id)
  /-- The next session will have the same number. -/
  numbering : l'.listener.numbering = l.listener.numbering
  /-- The messages wait behind those that waited before. -/
  queues : ∀ session, l'.listener.queueOf session = l.listener.queueOf session ++ out session
  /-- Nothing is written yet. -/
  written : ∀ session, l'.listener.writtenOn session = l.listener.writtenOn session

namespace Sent

variable {l l' l'' : Lobby} {out out' : SessionId → List Message}

/-- A lobby that sends nothing is as it was. -/
theorem refl (h : l.Serves) : Sent (fun _ => []) l l :=
  ⟨rfl, h, rfl, rfl, fun _ => (List.append_nil _).symm, fun _ => rfl⟩

/-- What is sent after something else waits behind it. -/
theorem trans (h : Sent out l l') (h' : Sent out' l' l'') :
    Sent (fun session => out session ++ out' session) l l'' :=
  ⟨h'.roster.trans h.roster, h'.serves, h'.ids.trans h.ids, h'.numbering.trans h.numbering,
    fun session => by rw [h'.queues, h.queues, List.append_assoc],
    fun session => (h'.written session).trans (h.written session)⟩

/-- What was sent is told session by session. -/
theorem congr (h : Sent out l l') (hout : ∀ session, out session = out' session) :
    Sent out' l l' :=
  ⟨h.roster, h.serves, h.ids, h.numbering, fun session => by rw [h.queues, hout], h.written⟩

end Sent

variable {l : Lobby}

/-- **A message for a player waits on the player's session.** -/
theorem sent_queue (h : l.Serves) {p : Profile} (hp : p ∈ l.roster.profiles) (m : Message) :
    Sent (fun session => if session = p.session then [m] else []) l (l.queue m p) := by
  have hf : ∀ s : Session, s.id = p.session → (s.send m).id = p.session :=
    fun s hs => (Listener.id_send s m).trans hs
  refine ⟨rfl, ⟨fun q hq => ?_, h.nodup⟩, Listener.ids_modify hf, rfl, fun session => ?_,
    fun session => ?_⟩
  · -- Whoever took messages before still does.
    obtain ⟨s, hs, hclosed, hwriter⟩ := h.takes q hq
    by_cases hqp : q.session = p.session
    · rw [hqp] at hs ⊢
      refine ⟨s.send m, Listener.session?_modify_self hf hs, ?_, ?_⟩
      · rw [Session.send]
        split <;> exact hclosed
      · rw [Session.send]
        split <;> exact hwriter
    · exact ⟨s, (Listener.session?_modify_of_ne hf hqp).trans hs, hclosed, hwriter⟩
  · -- The message waits on the player's own session and on no other.
    by_cases hsession : session = p.session
    · obtain ⟨s, hs, hclosed, hwriter⟩ := h.takes p hp
      have hsent : s.send m = { s with queue := s.queue ++ [m] } := by
        rw [Session.send, if_neg (by simp [hclosed, hwriter])]
      have hfound : (l.queue m p).listener.session? p.session = some (s.send m) :=
        Listener.session?_modify_self hf hs
      rw [if_pos hsession, hsession, Listener.queueOf, Listener.queueOf, hs, hfound, hsent]
      rfl
    · have hfound : (l.queue m p).listener.session? session = l.listener.session? session :=
        Listener.session?_modify_of_ne hf hsession
      rw [if_neg hsession, List.append_nil, Listener.queueOf, hfound]
      rfl
  · -- Queueing a message writes nothing.
    have hsame (s : Session) :
        (if s.id = p.session then s.send m else s).written = s.written := by
      split
      · rw [Session.send]
        split <;> rfl
      · rfl
    rw [Listener.writtenOn, Listener.writtenOn, queue, Listener.send, Listener.session?_modify hf,
      Option.map_map]
    simp only [Function.comp_def, hsame]

/-- A message for several players waits on each of their sessions. -/
theorem sent_foldl_queue (h : l.Serves) (m : Message) {ps : List Profile}
    (hps : ∀ p ∈ ps, p ∈ l.roster.profiles) (hnodup : (ps.map (·.session)).Nodup) :
    Sent (fun session => if session ∈ ps.map (·.session) then [m] else []) l
      (ps.foldl (·.queue m) l) := by
  -- The queues grow with each player, so the lobby varies; no session is served twice.
  induction ps generalizing l with
  | nil => exact Sent.refl h
  | cons p ps ih =>
    have hfirst := sent_queue h (hps p List.mem_cons_self) m
    rw [List.map_cons, List.nodup_cons] at hnodup
    have hrest := ih hfirst.serves
      (fun q hq => by rw [hfirst.roster]; exact hps q (List.mem_cons_of_mem _ hq)) hnodup.2
    refine (hfirst.trans hrest).congr fun session => ?_
    rw [List.map_cons]
    by_cases hsession : session = p.session
    · rw [hsession, if_pos rfl, if_neg hnodup.1, if_pos List.mem_cons_self]
      rfl
    · rw [if_neg hsession, List.nil_append]
      simp [hsession]

/-- What messages come to on a session, if a player is on it. -/
def toPlayer (l : Lobby) (ms : List Message) (session : SessionId) : List Message :=
  if (l.roster.bySession? session).isSome then ms else []

/-- A session gets nothing but what is sent. -/
theorem mem_of_mem_toPlayer {ms : List Message} {session : SessionId} {m : Message}
    (h : m ∈ l.toPlayer ms session) : m ∈ ms := by
  unfold toPlayer at h
  split at h
  · exact h
  · cases h

/-- What is sent one after the other comes to a session one after the other. -/
theorem toPlayer_append (l : Lobby) (ms ms' : List Message) (session : SessionId) :
    l.toPlayer (ms ++ ms') session = l.toPlayer ms session ++ l.toPlayer ms' session := by
  unfold toPlayer
  split <;> rfl

/-- Who gets what is a matter of the roster only. -/
theorem toPlayer_congr {l l' : Lobby} (h : l'.roster = l.roster) : l'.toPlayer = l.toPlayer := by
  funext ms session
  rw [toPlayer, toPlayer, h]

/-- A message offered to all clients is queued for every player. -/
theorem sent_offer_all (h : l.Serves) {m : Message} (hm : m.isAddressed = true) :
    Sent (l.toPlayer [m]) l (l.offer m (.player .allClients)).2 := by
  have hoffer : (l.offer m (.player .allClients)).2 = l.roster.profiles.foldl (·.queue m) l := by
    rw [offer, if_pos hm]
    rfl
  rw [hoffer]
  refine (sent_foldl_queue h m (fun _ hp => hp) h.nodup).congr fun session => ?_
  unfold toPlayer
  cases hfound : l.roster.bySession? session with
  | none => rw [if_neg (Roster.bySession?_eq_none_iff.1 hfound)]; rfl
  | some p =>
    obtain ⟨hp, hsession⟩ := (Roster.bySession?_eq_some_iff h.nodup).1 hfound
    rw [if_pos (hsession ▸ List.mem_map_of_mem hp)]
    rfl

/-- A message offered to a session is queued there, if a player is on it. -/
theorem sent_offer_session (h : l.Serves) {m : Message} (hm : m.isAddressed = true)
    (target : SessionId) :
    Sent (fun session => if session = target then l.toPlayer [m] session else []) l
      (l.offer m (.session target)).2 := by
  have hoffer : (l.offer m (.session target)).2 =
      (l.queueOn m (l.roster.bySession? target)).2 := by
    rw [offer, if_pos hm]
  rw [hoffer]
  cases hfound : l.roster.bySession? target with
  | none =>
    -- Nobody is on the session, so the message goes nowhere.
    refine (Sent.refl h).congr fun session => ?_
    by_cases hsession : session = target
    · rw [if_pos hsession, hsession, toPlayer, hfound]
      rfl
    · rw [if_neg hsession]
  | some p =>
    obtain ⟨hp, hsession⟩ := (Roster.bySession?_eq_some_iff h.nodup).1 hfound
    refine (sent_queue h hp m).congr fun session => ?_
    rw [hsession]
    by_cases heq : session = target
    · rw [if_pos heq, if_pos heq, heq, toPlayer, hfound]
      rfl
    · rw [if_neg heq, if_neg heq]

/-- Messages for all players wait on all their sessions, in order. -/
theorem sent_offerAll_all (h : l.Serves) {ms : List Message}
    (hms : ∀ m ∈ ms, m.isAddressed = true) :
    Sent (l.toPlayer ms) l (offerAll offer (ms.map (·, .player .allClients)) l).2 := by
  induction ms generalizing l with
  | nil =>
    refine (Sent.refl h).congr fun session => ?_
    rw [toPlayer, ite_self]
  | cons m ms ih =>
    have hfirst := sent_offer_all h (hms m List.mem_cons_self)
    have hrest := ih hfirst.serves fun m' hm' => hms m' (List.mem_cons_of_mem _ hm')
    refine (hfirst.trans hrest).congr fun session => ?_
    rw [toPlayer_congr hfirst.roster]
    exact (l.toPlayer_append [m] ms session).symm

/-- Messages for one session wait there, in order, if a player is on it. -/
theorem sent_offerAll_session (h : l.Serves) {ms : List Message}
    (hms : ∀ m ∈ ms, m.isAddressed = true) (target : SessionId) :
    Sent (fun session => if session = target then l.toPlayer ms session else []) l
      (offerAll offer (ms.map (·, .session target)) l).2 := by
  induction ms generalizing l with
  | nil =>
    refine (Sent.refl h).congr fun session => ?_
    rw [toPlayer, ite_self, ite_self]
  | cons m ms ih =>
    have hfirst := sent_offer_session h (hms m List.mem_cons_self) target
    have hrest := ih hfirst.serves fun m' hm' => hms m' (List.mem_cons_of_mem _ hm')
    refine (hfirst.trans hrest).congr fun session => ?_
    by_cases hsession : session = target
    · rw [if_pos hsession, if_pos hsession, if_pos hsession, toPlayer_congr hfirst.roster]
      exact (l.toPlayer_append [m] ms session).symm
    · rw [if_neg hsession, if_neg hsession, if_neg hsession]
      rfl

end Lobby

namespace Host

variable {h : Host} {reserved : List (Handler Action)} {g : Game}

/-! ## What a server sends -/

/-- A synchronization of one session queues the game's reports there. -/
theorem sent_synchronize_session (hs : h.lobby.Serves) (hd : h.station.Decides reserved g)
    (target : SessionId) (threshold : Urgency) :
    Lobby.Sent (fun session => if session = target then h.lobby.toPlayer g.reports session else [])
      h.lobby (h.synchronize (.session target) threshold).2.lobby := by
  have hoffers : (h.game?.map fun g => g.offers (.session target) threshold).getD [] =
      g.reports.map (·, .session target) := by
    rw [game?, hd.wired.game, Option.map_some, Option.getD_some, Game.offers_eq hd.wired]
    exact (List.map_eq_flatMap).symm
  rw [synchronize, hoffers]
  exact Lobby.sent_offerAll_session hs (fun m hm => Game.isAddressed_of_mem_reports hd.identified hm)
    target

/-- **A broadcast queues the game's reports for every player.** -/
theorem sent_broadcast (hs : h.lobby.Serves) (hd : h.station.Decides reserved g) :
    Lobby.Sent (h.lobby.toPlayer g.reports) h.lobby h.broadcast.2.lobby := by
  have hoffers : (h.game?.map fun g => g.offers (.player .allClients) .always).getD [] =
      g.reports.map (·, .player .allClients) := by
    rw [game?, hd.wired.game, Option.map_some, Option.getD_some, Game.offers_eq hd.wired]
    exact (List.map_eq_flatMap).symm
  rw [broadcast, synchronize, hoffers]
  exact Lobby.sent_offerAll_all hs fun m hm => Game.isAddressed_of_mem_reports hd.identified hm

/-- **A welcome queues a greeting and the game's reports**, if the player is still there. -/
theorem sent_welcome (hs : h.lobby.Serves) (hd : h.station.Decides reserved g) (p : Profile) :
    Lobby.Sent (fun session =>
        if session = p.session then h.lobby.toPlayer (p.greeting :: g.reports) session else [])
      h.lobby (h.welcome p).lobby := by
  have haddressed : ∀ m ∈ [p.greeting], m.isAddressed = true := fun m hm => by
    rw [List.mem_singleton.1 hm]
    rfl
  have hgreeted := Lobby.sent_offerAll_session hs haddressed p.session
  have htold := sent_synchronize_session (h := (h.send (greeting p)).2) hgreeted.serves hd p.session
    .once
  refine (hgreeted.trans htold).congr fun session => ?_
  by_cases hsession : session = p.session
  · have hroster : (h.send (greeting p)).2.lobby.roster = h.lobby.roster := hgreeted.roster
    rw [if_pos hsession, if_pos hsession, if_pos hsession, Lobby.toPlayer_congr hroster]
    exact (h.lobby.toPlayer_append [p.greeting] g.reports session).symm
  · rw [if_neg hsession, if_neg hsession, if_neg hsession]
    rfl

/-- Welcomes one after the other queue a greeting and the game's reports for each. -/
theorem sent_foldl_welcome (hs : h.lobby.Serves) (hd : h.station.Decides reserved g)
    {ps : List Profile} (hps : ∀ p ∈ ps, p ∈ h.lobby.roster.profiles)
    (hnodup : (ps.map (·.session)).Nodup) :
    Lobby.Sent (fun session =>
        ((ps.find? (·.session = session)).map fun p => p.greeting :: g.reports).getD [])
      h.lobby (ps.foldl welcome h).lobby := by
  induction ps generalizing h with
  | nil => exact Lobby.Sent.refl hs
  | cons p ps ih =>
    have hfirst := sent_welcome hs hd p
    rw [List.map_cons, List.nodup_cons] at hnodup
    have hrest := ih (h := h.welcome p) hfirst.serves hd
      (fun q hq => by rw [hfirst.roster]; exact hps q (List.mem_cons_of_mem _ hq)) hnodup.2
    refine (hfirst.trans hrest).congr fun session => ?_
    by_cases hsession : session = p.session
    · have hlisted : h.lobby.roster.bySession? session = some p :=
        (Roster.bySession?_eq_some_iff hs.nodup).2 ⟨hps p List.mem_cons_self, hsession.symm⟩
      have hfound : (p :: ps).find? (·.session = session) = some p :=
        List.find?_cons_of_pos (by simpa using hsession.symm)
      -- No other player is on the session, so nothing more follows there.
      have hnone : ps.find? (·.session = session) = none := by
        rw [List.find?_eq_none]
        intro q hq heq
        rw [decide_eq_true_eq, hsession] at heq
        exact hnodup.1 (heq ▸ List.mem_map_of_mem hq)
      rw [if_pos hsession, Lobby.toPlayer, hlisted, hnone, hfound]
      exact List.append_nil _
    · have hfound : (p :: ps).find? (·.session = session) = ps.find? (·.session = session) :=
        List.find?_cons_of_neg (by simpa using Ne.symm hsession)
      rw [if_neg hsession, hfound]
      rfl

/-- **A new level queues a greeting and its reports for every player.** -/
theorem sent_load (hs : h.lobby.Serves) (level : UInt32)
    (hd : (h.station.load level).Decides reserved g) :
    Lobby.Sent (fun session =>
        ((h.lobby.roster.bySession? session).map fun p => p.greeting :: g.reports).getD [])
      h.lobby (h.load level).lobby :=
  sent_foldl_welcome (h := { h with station := h.station.load level }) hs hd (fun _ hp => hp)
    hs.nodup

end Host

end Pursuit
