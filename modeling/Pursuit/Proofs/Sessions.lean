import Pursuit.Proofs.Queues

/-! # Players come, go, and are written to

Between what a server sends, its sessions go on by themselves: bytes come in, either side hangs up, the
workers stop. None of this moves a queue, and a player whose session ends is struck out.

* **`Session.Outcome`** — what any action leaves of a session.
* **`Listener.queueOf_act`, `Listener.queueOf_write`** — what it makes of the queues;
  **`Listener.writtenOn_act`, `Listener.writtenOn_write`** — and of what was written.
* **`Lobby.Ages`, `Host.ages_act`** — a lobby after something happened to its sessions.
* **`Host.Joined`** — a server after somebody joined.
* **`Listener.Numbered`** — the sessions are numbered from one upwards. -/

namespace Pursuit

/-! ## Actions on one session -/

namespace Session

/-- Whether an action leaves the queue alone. -/
def Action.isQuiet : Action → Bool
  | .send _ => false
  | .write => false
  | _ => true

/-- What any action leaves of a session, and what it may report. -/
structure Outcome (a : Action) (s : Session) (r : Session × List SessionEvent) : Prop where
  /-- The number stays. -/
  id : r.1.id = s.id
  /-- Only sending and writing touch the queue. -/
  queue : a.isQuiet = true → r.1.queue = s.queue
  /-- Only writing adds to what was written. -/
  written : a.isQuiet = true → r.1.written = s.written
  /-- A session that takes messages takes them afterwards too, or reports its end. -/
  takes : s.closed = false → s.writer ≠ .gone →
    .closed ∈ r.2 ∨ r.1.closed = false ∧ r.1.writer ≠ .gone
  /-- No session begins twice. -/
  accepted : .accepted ∉ r.2

section Outcome

variable {a : Action} {s s' : Session}

/-- An action that reports nothing closes nothing. -/
theorem outcome_of_silent (hid : s'.id = s.id)
    (hquiet : a.isQuiet = true → s'.queue = s.queue ∧ s'.written = s.written)
    (hclosed : s'.closed = s.closed) (hwriter : s.writer ≠ .gone → s'.writer ≠ .gone) :
    Outcome a s (s', []) :=
  ⟨hid, fun ha => (hquiet ha).1, fun ha => (hquiet ha).2,
    fun hopen hworks => .inr ⟨hclosed.trans hopen, hwriter hworks⟩, List.not_mem_nil⟩

/-- An action that does nothing has nothing to answer for. -/
theorem outcome_refl (a : Action) (s : Session) : Outcome a s (s, []) :=
  outcome_of_silent rfl (fun _ => ⟨rfl, rfl⟩) rfl fun h => h

/-- Closing an open session reports its end. -/
theorem outcome_close (hid : s'.id = s.id) (hqueue : s'.queue = s.queue)
    (hwritten : s'.written = s.written) (hclosed : s'.closed = s.closed) : Outcome a s s'.close := by
  unfold close
  split
  · rename_i hended
    exact ⟨hid, fun _ => hqueue, fun _ => hwritten, fun hopen => by simp [← hclosed, hended] at hopen,
      List.not_mem_nil⟩
  · exact ⟨hid, fun _ => hqueue, fun _ => hwritten, fun _ _ => .inl (List.mem_singleton_self _), by simp⟩

/-- Reading moves bytes to the reports and leaves the rest of a session alone. -/
theorem outcome_read (a : Action) (s : Session) : Outcome a s s.read := by
  unfold read
  split
  · exact ⟨rfl, fun _ => rfl, fun _ => rfl, fun hopen hworks => .inr ⟨hopen, hworks⟩, by simp⟩
  · split
    · exact outcome_of_silent rfl (fun _ => ⟨rfl, rfl⟩) rfl fun h => h
    · exact outcome_refl a s

/-- **What any action leaves of a session.** -/
theorem outcome_step (a : Action) (s : Session) : Outcome a s (step a s) := by
  cases a with
  | hangUp => exact outcome_of_silent rfl (fun _ => ⟨rfl, rfl⟩) rfl fun h => h
  | shutDown => exact outcome_of_silent rfl (fun _ => ⟨rfl, rfl⟩) rfl fun h => h
  | close => exact outcome_close rfl rfl rfl rfl
  | send m =>
    refine outcome_of_silent (Listener.id_send s m) (fun ha => by cases ha) ?_ fun hworks => ?_
    · unfold send
      split <;> rfl
    · unfold send
      split <;> exact hworks
  | write =>
    simp only [step]
    split
    · refine outcome_of_silent ?_ (fun ha => by cases ha) ?_ fun hworks => ?_
      · unfold write
        split <;> rfl
      · unfold write
        split <;> rfl
      · unfold write
        split <;> exact hworks
    · exact outcome_refl _ s
  | read =>
    simp only [step]
    split
    · exact outcome_read _ s
    · exact outcome_refl _ s
  | readerLeaves =>
    simp only [step]
    split
    · exact outcome_close rfl rfl rfl rfl
    · exact outcome_refl _ s
  | writerLeaves =>
    simp only [step]
    split
    · exact outcome_close rfl rfl rfl rfl
    · exact outcome_refl _ s
  | writeFails =>
    simp only [step]
    split
    · exact outcome_of_silent rfl (fun _ => ⟨rfl, rfl⟩) rfl fun _ => by simp
    · exact outcome_refl _ s
  | writerStops =>
    simp only [step]
    split
    · exact outcome_of_silent rfl (fun _ => ⟨rfl, rfl⟩) rfl fun _ => by simp
    · exact outcome_refl _ s
  | _ =>
    -- What is left concerns the reader and what comes in.
    simp only [step]
    split <;> exact outcome_of_silent rfl (fun _ => ⟨rfl, rfl⟩) rfl fun h => h

end Outcome

end Session

namespace Listener

variable {l : Listener} {id : SessionId} {a : Session.Action}

/-- The message that a session writes next. -/
def outgoing? (l : Listener) (id : SessionId) : Option Message :=
  (l.session? id).bind fun s => if s.writer = .working then s.queue.head? else none

/-- Forgetting the sessions that have closed changes neither the list of sessions nor the next
number. -/
theorem sessions_forget (l : Listener) (events : List ServerEvent) :
    (l.forget events).sessions = l.sessions ∧ (l.forget events).numbering = l.numbering := by
  induction events generalizing l with
  | nil => exact ⟨rfl, rfl⟩
  | cons e events ih =>
    cases e with
    | accepted session => exact ih l
    | received session m => exact ih l
    | closed session => exact ih _

/-- Nothing happens on a session that there never was. -/
theorem act_of_none (h : l.session? id = none) (a : Session.Action) : l.act id a = (l, []) := by
  rw [act, h]

/-- What happens to a session happens to its entry in the list, and its reports go out under its
number. -/
theorem act_of_some {s : Session} (h : l.session? id = some s) (a : Session.Action) :
    l.act id a = ((l.modify id fun _ => (s.step a).1).forget ((s.step a).2.map (·.of id)),
      (s.step a).2.map (·.of id)) := by
  rw [act, h]

/-- An action makes of a session what it makes of it. -/
theorem session?_act_self {s : Session} (h : l.session? id = some s) :
    (l.act id a).1.session? id = some (s.step a).1 := by
  have hid : (s.step a).1.id = id := (Session.outcome_step a s).id.trans (id_of_session? h)
  rw [act_of_some h, session?, (sessions_forget _ _).1]
  exact session?_modify_self (fun _ _ => hid) h

/-- It leaves the other sessions alone. -/
theorem session?_act_of_ne {id' : SessionId} (hne : id' ≠ id) :
    (l.act id a).1.session? id' = l.session? id' := by
  cases h : l.session? id with
  | none => rw [act_of_none h]
  | some s =>
    have hid : (s.step a).1.id = id := (Session.outcome_step a s).id.trans (id_of_session? h)
    rw [act_of_some h, session?, (sessions_forget _ _).1]
    exact session?_modify_of_ne (fun _ _ => hid) hne

/-- Whatever happens to a session, the same sessions are listed and the next number is the same. -/
theorem ids_act (l : Listener) (id : SessionId) (a : Session.Action) :
    (l.act id a).1.sessions.map (·.id) = l.sessions.map (·.id) ∧
      (l.act id a).1.numbering = l.numbering := by
  cases h : l.session? id with
  | none => rw [act_of_none h]; exact ⟨rfl, rfl⟩
  | some s =>
    have hid : (s.step a).1.id = id := (Session.outcome_step a s).id.trans (id_of_session? h)
    rw [act_of_some h, (sessions_forget _ _).1, (sessions_forget _ _).2]
    exact ⟨ids_modify fun _ _ => hid, rfl⟩

/-- Nothing that happens to a session makes another one begin. -/
theorem accepted_notMem_act (l : Listener) (id : SessionId) (a : Session.Action)
    (id' : SessionId) : .accepted id' ∉ (l.act id a).2 := by
  intro hmem
  cases h : l.session? id with
  | none =>
    rw [act_of_none h] at hmem
    cases hmem
  | some s =>
    rw [act_of_some h, List.mem_map] at hmem
    obtain ⟨e, he, heq⟩ := hmem
    cases e with
    | accepted => exact (Session.outcome_step a s).accepted he
    | received m => cases heq
    | closed => cases heq

/-- A quiet action moves no queue. -/
theorem queueOf_act (ha : a.isQuiet = true) (id' : SessionId) :
    (l.act id a).1.queueOf id' = l.queueOf id' := by
  by_cases hid : id' = id
  · cases h : l.session? id with
    | none => rw [act_of_none h]
    | some s =>
      rw [hid, queueOf, queueOf, session?_act_self h, h, Option.map_some, Option.map_some,
        (Session.outcome_step a s).queue ha]
  · rw [queueOf, queueOf, session?_act_of_ne hid]

/-- Nor does it write anything. -/
theorem writtenOn_act (ha : a.isQuiet = true) (id' : SessionId) :
    (l.act id a).1.writtenOn id' = l.writtenOn id' := by
  by_cases hid : id' = id
  · cases h : l.session? id with
    | none => rw [act_of_none h]
    | some s =>
      rw [hid, writtenOn, writtenOn, session?_act_self h, h, Option.map_some, Option.map_some,
        (Session.outcome_step a s).written ha]
  · rw [writtenOn, writtenOn, session?_act_of_ne hid]

/-- A connection is dropped, or a session begins under the next number. -/
theorem accept_cases (l : Listener) :
    l.accept = (none, l, []) ∨ ∃ live, l.accept =
      (some ⟨l.numbering.upcoming⟩,
        { l with
          live
          sessions := l.sessions ++ [{ id := ⟨l.numbering.upcoming⟩ }]
          numbering := l.numbering.next.2 },
        [.accepted ⟨l.numbering.upcoming⟩]) := by
  unfold accept
  split
  · exact .inl rfl
  · exact .inr ⟨_, rfl⟩

/-- Writing takes the next message off the queue. -/
theorem queueOf_write (l : Listener) (id : SessionId) :
    l.queueOf id = (l.outgoing? id).toList ++ (l.act id .write).1.queueOf id := by
  cases h : l.session? id with
  | none =>
    rw [act_of_none h, outgoing?, h]
    rfl
  | some s =>
    rw [queueOf, queueOf, outgoing?, session?_act_self h, h, Option.map_some, Option.map_some,
      Option.bind_some, Option.getD_some, Option.getD_some, Session.step]
    by_cases hwriter : s.writer = .working
    · rw [if_pos hwriter, if_pos hwriter, Session.write]
      cases hqueue : s.queue with
      | nil => exact hqueue.symm
      | cons m rest => rfl
    · rw [if_neg hwriter, if_neg hwriter]
      rfl

/-- Writing on one session leaves the queue of another as it is. -/
theorem queueOf_write_of_ne {id' : SessionId} (hne : id' ≠ id) :
    (l.act id .write).1.queueOf id' = l.queueOf id' := by
  rw [queueOf, queueOf, session?_act_of_ne hne]

/-- What a session writes comes behind what it has written. -/
theorem writtenOn_write (l : Listener) (id : SessionId) :
    (l.act id .write).1.writtenOn id = l.writtenOn id ++ (writeStream (l.outgoing? id).toList).2 := by
  cases h : l.session? id with
  | none =>
    rw [act_of_none h, outgoing?, h]
    exact (List.append_nil _).symm
  | some s =>
    rw [writtenOn, writtenOn, outgoing?, session?_act_self h, h, Option.map_some, Option.map_some,
      Option.bind_some, Option.getD_some, Option.getD_some, Session.step]
    by_cases hwriter : s.writer = .working
    · rw [if_pos hwriter, if_pos hwriter, Session.write]
      cases hqueue : s.queue with
      | nil => exact (List.append_nil _).symm
      | cons m rest =>
        refine congrArg (s.written ++ ·) ?_
        exact (List.append_nil _).symm
    · rw [if_neg hwriter, if_neg hwriter]
      exact (List.append_nil _).symm

/-- Writing on one session writes nothing on another. -/
theorem writtenOn_write_of_ne {id' : SessionId} (hne : id' ≠ id) :
    (l.act id .write).1.writtenOn id' = l.writtenOn id' := by
  rw [writtenOn, writtenOn, session?_act_of_ne hne]

end Listener

/-! ## Players whose sessions go on -/

namespace Roster

variable {r : Roster} {session : SessionId} {p : Profile}

/-- Whoever stays was there before. -/
theorem sublist_leave (r : Roster) (session : SessionId) :
    (r.leave session).2.profiles.Sublist r.profiles :=
  List.eraseP_sublist

/-- The player on a session that ended is gone. -/
theorem session_ne_of_mem_leave (hnodup : (r.profiles.map (·.session)).Nodup)
    (hp : p ∈ (r.leave session).2.profiles) : p.session ≠ session := by
  have herase (ps : List Profile) (hnodup : (ps.map (·.session)).Nodup)
      (hp : p ∈ ps.eraseP (·.session = session)) : p.session ≠ session := by
    induction ps with
    | nil => cases hp
    | cons q ps ih =>
      rw [List.map_cons, List.nodup_cons] at hnodup
      by_cases hq : q.session = session
      · rw [List.eraseP_cons_of_pos (by simpa using hq)] at hp
        intro heq
        exact hnodup.1 (hq.trans heq.symm ▸ List.mem_map_of_mem hp)
      · rw [List.eraseP_cons_of_neg (by simpa using hq)] at hp
        rcases List.mem_cons.1 hp with rfl | hp
        · exact hq
        · exact ih hnodup.2 hp
  exact herase r.profiles hnodup hp

end Roster

/-- A lobby `l'` that comes from `l` by something that happened to its sessions. -/
structure Lobby.Ages (l l' : Lobby) : Prop where
  /-- Nobody came. -/
  roster : ∀ p ∈ l'.roster.profiles, p ∈ l.roster.profiles
  /-- Whoever stays can still be sent to. -/
  serves : l'.Serves
  /-- The sessions are the same. -/
  ids : l'.listener.sessions.map (·.id) = l.listener.sessions.map (·.id)
  /-- The next session will have the same number. -/
  numbering : l'.listener.numbering = l.listener.numbering

namespace Host

variable {h : Host}

/-- Handling a report changes no more of a lobby than its roster. -/
theorem lobby_handle (h : Host) (e : ServerEvent) :
    (h.handle e).lobby = { h.lobby with roster := (h.lobby.roster.handle e).1 } := by
  cases e with
  | accepted session => rfl
  | received session m => rw [handle_received]; rfl
  | closed session => rw [handle_closed]; rfl

/-- Only a player that joins has to be greeted. -/
theorem arrivals_handle {e : ServerEvent} (he : ∀ session, e ≠ .accepted session) :
    (h.handle e).arrivals = h.arrivals := by
  cases e with
  | accepted session => exact absurd rfl (he session)
  | received session m => rw [handle_received]
  | closed session => rw [handle_closed]

/-- Handling a report neither stops a server nor starts it again. -/
theorem stopped_handle (h : Host) (e : ServerEvent) : (h.handle e).stopped = h.stopped := by
  cases e with
  | accepted session => rfl
  | received session m => rw [handle_received]
  | closed session => rw [handle_closed]

/-- What reports leave of a server, if none of them is of a new session. -/
structure Outlives (events : List ServerEvent) (h h' : Host) : Prop where
  /-- The sessions are as they are. -/
  listener : h'.lobby.listener = h.lobby.listener
  /-- The same players are to be greeted. -/
  arrivals : h'.arrivals = h.arrivals
  /-- It goes on. -/
  stopped : h'.stopped = h.stopped
  /-- Nobody came. -/
  roster : h'.lobby.roster.profiles.Sublist h.lobby.roster.profiles
  /-- Those whose sessions ended are gone. -/
  ended : ∀ p ∈ h'.lobby.roster.profiles, .closed p.session ∉ events

/-- A server that handles reports of which none is of a new session only loses players. -/
theorem outlives_handleAll {events : List ServerEvent}
    (hevents : ∀ session, .accepted session ∉ events)
    (hnodup : (h.lobby.roster.profiles.map (·.session)).Nodup) :
    Outlives events h (h.handleAll events) := by
  -- Whoever is struck out stays out, because the roster only shrinks.
  induction events generalizing h with
  | nil => exact ⟨rfl, rfl, rfl, List.Sublist.refl _, fun _ _ => List.not_mem_nil⟩
  | cons e events ih =>
    have he : ∀ session, e ≠ .accepted session := fun session heq =>
      hevents session (heq ▸ List.mem_cons_self)
    have hroster : (h.handle e).lobby.roster = (h.lobby.roster.handle e).1 := by rw [lobby_handle]
    have hsub : (h.handle e).lobby.roster.profiles.Sublist h.lobby.roster.profiles := by
      rw [hroster]
      cases e with
      | accepted session => exact absurd rfl (he session)
      | received session m => exact List.Sublist.refl _
      | closed session => exact h.lobby.roster.sublist_leave session
    have hrest := ih (h := h.handle e)
      (fun session hmem => hevents session (List.mem_cons_of_mem _ hmem))
      (hnodup.sublist (hsub.map _))
    refine ⟨?_, hrest.arrivals.trans (arrivals_handle he), hrest.stopped.trans (stopped_handle h e),
      hrest.roster.trans hsub, fun p hp hmem => ?_⟩
    · rw [show (h.handleAll (e :: events)) = (h.handle e).handleAll events from rfl, hrest.listener,
        lobby_handle]
    · rcases List.mem_cons.1 hmem with heq | hmem
      · have hmem' := hrest.roster.subset hp
        rw [hroster, ← heq] at hmem'
        exact Roster.session_ne_of_mem_leave hnodup hmem' rfl
      · exact hrest.ended p hp hmem

/-- **What happens to a session** does not touch the others, and if it ends, so does its player's
part in the match. -/
theorem ages_act (hs : h.lobby.Serves) (session : SessionId) (a : Session.Action) :
    h.lobby.Ages (h.act session a).lobby ∧ (h.act session a).arrivals = h.arrivals ∧
      (h.act session a).stopped = h.stopped ∧
      (h.act session a).lobby.listener = (h.lobby.listener.act session a).1 := by
  have hevents := h.lobby.listener.accepted_notMem_act session a
  have hout := outlives_handleAll
    (h := { h with lobby := { h.lobby with listener := (h.lobby.listener.act session a).1 } })
    hevents hs.nodup
  have hlistener : (h.act session a).lobby.listener = (h.lobby.listener.act session a).1 :=
    hout.listener
  obtain ⟨hids, hnumbering⟩ := h.lobby.listener.ids_act session a
  refine ⟨⟨fun p hp => hout.roster.subset hp, ⟨fun p hp => ?_, hs.nodup.sublist (hout.roster.map _)⟩,
    by rw [hlistener, hids], by rw [hlistener, hnumbering]⟩, hout.arrivals, hout.stopped, hlistener⟩
  obtain ⟨s, hfound, hclosed, hwriter⟩ := hs.takes p (hout.roster.subset hp)
  rw [hlistener]
  by_cases hsession : p.session = session
  · rw [hsession] at hfound ⊢
    refine ⟨(s.step a).1, Listener.session?_act_self hfound, ?_⟩
    rcases (Session.outcome_step a s).takes hclosed hwriter with hended | htakes
    · -- The session reported its end, so the player would be gone.
      refine absurd ?_ (hout.ended p hp)
      rw [Listener.act_of_some hfound, hsession]
      exact List.mem_map_of_mem (f := (SessionEvent.of session)) hended
    · exact htakes
  · exact ⟨s, (Listener.session?_act_of_ne hsession).trans hfound, hclosed, hwriter⟩

/-! ## Players who join -/

/-- A server after somebody joined it on a session. -/
structure Joined (session : SessionId) (h h' : Host) : Prop where
  /-- The session has the next number. -/
  number : session = ⟨h.lobby.listener.numbering.upcoming⟩
  /-- The game is the same. -/
  station : h'.station = h.station
  /-- It goes on. -/
  stopped : h'.stopped = h.stopped
  /-- The player is on the roster. -/
  roster : h'.lobby.roster.profiles =
    h.lobby.roster.profiles ++ [(h.lobby.roster.join session).1]
  /-- The player is still to be greeted. -/
  arrivals : h'.arrivals = h.arrivals ++ [(h.lobby.roster.join session).1]
  /-- The session has begun. -/
  sessions : h'.lobby.listener.sessions = h.lobby.listener.sessions ++ [{ id := session }]
  /-- Its number is used up. -/
  numbering : h'.lobby.listener.numbering = h.lobby.listener.numbering.next.2

/-- A connection that finds room is a player's. -/
theorem joined_accept {session : SessionId} (ha : h.accept.1 = some session) :
    Joined session h h.accept.2 := by
  rcases h.lobby.listener.accept_cases with hrefused | ⟨live, haccepted⟩
  · rw [accept, hrefused] at ha
    cases ha
  · rw [accept, haccepted] at ha ⊢
    rw [← Option.some.inj ha]
    exact ⟨rfl, rfl, rfl, rfl, rfl, rfl, rfl⟩

namespace Joined

variable {session : SessionId} {h' : Host}

/-- The session on which a player has joined is fresh. -/
theorem session?_self (hj : Joined session h h')
    (hfresh : session ∉ h.lobby.listener.sessions.map (·.id)) :
    h'.lobby.listener.session? session = some { id := session } := by
  have hnone : h.lobby.listener.sessions.find? (·.id = session) = none :=
    Listener.session?_eq_none hfresh
  rw [Listener.session?, hj.sessions, List.find?_append, hnone, Option.none_or,
    List.find?_singleton]
  simp

/-- The other sessions are as they were before a player joined. -/
theorem session?_of_ne (hj : Joined session h h') {id : SessionId} (hne : id ≠ session) :
    h'.lobby.listener.session? id = h.lobby.listener.session? id := by
  rw [Listener.session?, hj.sessions, List.find?_append, List.find?_singleton]
  simp [Listener.session?, Ne.symm hne]

/-- Nothing waits on a session that has just begun, and the others are as they were. -/
theorem queueOf (hj : Joined session h h')
    (hfresh : session ∉ h.lobby.listener.sessions.map (·.id)) (id : SessionId) :
    h'.lobby.listener.queueOf id = h.lobby.listener.queueOf id := by
  by_cases hid : id = session
  · rw [hid, Listener.queueOf, Listener.queueOf, hj.session?_self hfresh,
      Listener.session?_eq_none hfresh]
    rfl
  · rw [Listener.queueOf, Listener.queueOf, hj.session?_of_ne hid]

/-- Nothing has been written on it either. -/
theorem writtenOn (hj : Joined session h h')
    (hfresh : session ∉ h.lobby.listener.sessions.map (·.id)) (id : SessionId) :
    h'.lobby.listener.writtenOn id = h.lobby.listener.writtenOn id := by
  by_cases hid : id = session
  · rw [hid, Listener.writtenOn, Listener.writtenOn, hj.session?_self hfresh,
      Listener.session?_eq_none hfresh]
    rfl
  · rw [Listener.writtenOn, Listener.writtenOn, hj.session?_of_ne hid]

/-- Every player can be sent to after another one has joined. -/
theorem serves (hj : Joined session h h') (hs : h.lobby.Serves)
    (hfresh : session ∉ h.lobby.listener.sessions.map (·.id)) : h'.lobby.Serves := by
  -- Everybody else is on a session that began before.
  have hold : ∀ p ∈ h.lobby.roster.profiles, p.session ≠ session := by
    intro p hp heq
    obtain ⟨s, hfound, _⟩ := hs.takes p hp
    rw [heq] at hfound
    exact hfresh (List.mem_map.2 ⟨s, List.mem_of_find?_eq_some hfound, Listener.id_of_session? hfound⟩)
  constructor
  · intro p hp
    rw [hj.roster, List.mem_append, List.mem_singleton] at hp
    rcases hp with hp | rfl
    · rw [hj.session?_of_ne (hold p hp)]
      exact hs.takes p hp
    · exact ⟨_, hj.session?_self hfresh, rfl, by simp⟩
  · rw [hj.roster, List.map_append, List.nodup_append]
    refine ⟨hs.nodup, List.nodup_singleton _, fun a ha b hb hab => ?_⟩
    obtain ⟨p, hp, rfl⟩ := List.mem_map.1 ha
    rw [List.map_singleton, List.mem_singleton] at hb
    exact hold p hp (hab.trans hb)

end Joined

end Host

/-! ## Session numbers -/

/-- The sessions are numbered from one upwards, as far as 64 bits go. -/
structure Listener.Numbered (l : Listener) : Prop where
  /-- Each has the number of its place. -/
  ids : l.sessions.map (·.id) =
    (List.range l.sessions.length).map fun i => ⟨UInt64.ofNat (i + 1)⟩
  /-- The next will have the next. -/
  upcoming : l.numbering.upcoming = UInt64.ofNat (l.sessions.length + 1)

namespace Listener.Numbered

variable {l l' : Listener}

/-- A listener that has accepted nobody is numbered. -/
theorem new (capacity : Nat) : (Listener.new capacity).Numbered := ⟨rfl, rfl⟩

/-- Numbers are a matter of the listed sessions and of the next number only. -/
theorem congr (hn : l.Numbered) (hids : l'.sessions.map (·.id) = l.sessions.map (·.id))
    (hnumbering : l'.numbering = l.numbering) : l'.Numbered := by
  have hlength : l'.sessions.length = l.sessions.length := by
    simpa using congrArg List.length hids
  constructor
  · rw [hids, hlength, hn.ids]
  · rw [hnumbering, hlength, hn.upcoming]

/-- **As long as 64 bits suffice for them, the next number is a new one.** -/
theorem upcoming_notMem (hn : l.Numbered) (hfew : l.sessions.length < UInt64.size) :
    (⟨l.numbering.upcoming⟩ : SessionId) ∉ l.sessions.map (·.id) := by
  rw [hn.ids, hn.upcoming]
  intro hmem
  obtain ⟨i, hi, heq⟩ := List.mem_map.1 hmem
  rw [List.mem_range] at hi
  rw [SessionId.mk.injEq, ← UInt64.toNat_inj, UInt64.toNat_ofNat', UInt64.toNat_ofNat'] at heq
  have hsize : UInt64.size = 18446744073709551616 := rfl
  omega

/-- A session that takes the next number leaves a listener numbered. -/
theorem joined (hn : l.Numbered)
    (hsessions : l'.sessions = l.sessions ++ [{ id := ⟨l.numbering.upcoming⟩ }])
    (hnumbering : l'.numbering = l.numbering.next.2) : l'.Numbered := by
  constructor
  · rw [hsessions, List.map_append, List.length_append, List.length_singleton, List.range_succ,
      List.map_append, hn.ids, List.map_singleton, List.map_singleton, hn.upcoming]
  · rw [hnumbering, hsessions, List.length_append, List.length_singleton, Numbering.next,
      hn.upcoming, UInt64.ofNat_add (l.sessions.length + 1)]
    rfl

end Listener.Numbered

/-! ## How many sessions there have been -/

/-- How many sessions have ever begun. -/
def Host.connections (h : Host) : Nat := h.lobby.listener.sessions.length

namespace Lobby

/-- Queuing a message begins no session. -/
theorem length_sessions_queue (m : Message) (p : Profile) (l : Lobby) :
    (l.queue m p).listener.sessions.length = l.listener.sessions.length :=
  List.length_map _

/-- Offering a message begins no session. -/
theorem length_sessions_offer (m : Message) (receiver : Receiver) (l : Lobby) :
    (l.offer m receiver).2.listener.sessions.length = l.listener.sessions.length := by
  -- Queueing changes the queue of a session, never how many sessions there are.
  have hon (p? : Option Profile) :
      (l.queueOn m p?).2.listener.sessions.length = l.listener.sessions.length := by
    cases p? with
    | none => rfl
    | some p => exact length_sessions_queue m p l
  have hall (ps : List Profile) (l : Lobby) :
      (ps.foldl (·.queue m) l).listener.sessions.length = l.listener.sessions.length := by
    induction ps generalizing l with
    | nil => rfl
    | cons p ps ih => rw [List.foldl_cons, ih, length_sessions_queue]
  unfold offer
  split
  · cases receiver with
    | player player =>
      dsimp only
      split
      · rfl
      · split
        · exact hall _ l
        · exact hon _
    | session session => exact hon _
  · rfl

/-- Offering messages begins no session. -/
theorem length_sessions_offerAll (offers : List (Message × Receiver)) (l : Lobby) :
    (offerAll offer offers l).2.listener.sessions.length = l.listener.sessions.length := by
  induction offers generalizing l with
  | nil => rfl
  | cons o offers ih => exact (ih _).trans (length_sessions_offer o.1 o.2 l)

end Lobby

namespace Host

variable (h : Host)

/-- No session begins when a server sends. -/
theorem connections_send (offers : List (Message × Receiver)) :
    (h.send offers).2.connections = h.connections :=
  Lobby.length_sessions_offerAll offers h.lobby

/-- No session begins when a server tells its game. -/
theorem connections_synchronize (target : Target) (threshold : Urgency) :
    (h.synchronize target threshold).2.connections = h.connections :=
  connections_send h _

/-- No session begins when a player is greeted. -/
theorem connections_welcome (p : Profile) : (h.welcome p).connections = h.connections :=
  (connections_synchronize _ _ _).trans (connections_send h _)

/-- No session begins when the next player in line is greeted. -/
theorem connections_welcomeNext : h.welcomeNext.connections = h.connections := by
  unfold welcomeNext
  split
  · split
    · rfl
    · exact connections_welcome _ _
  · rfl

/-- No session begins when a level is loaded. -/
theorem connections_load (level : UInt32) : (h.load level).connections = h.connections :=
  foldl_welcome (f := connections) connections_welcome _ _

/-- No session begins with a tick. -/
theorem connections_tick (dt : Duration) : (h.tick dt).connections = h.connections := by
  unfold tick
  split
  · rfl
  · exact connections_synchronize _ _ _

/-- A server that follows its listener has as many sessions as that. -/
theorem connections_follow (r : Listener × List ServerEvent) :
    (h.follow r).connections = r.1.sessions.length := by
  have hall (events : List ServerEvent) (h : Host) :
      (h.handleAll events).connections = h.connections := by
    induction events generalizing h with
    | nil => rfl
    | cons e events ih =>
      refine (ih (h.handle e)).trans ?_
      rw [connections, connections, lobby_handle]
  exact hall r.2 _

/-- No session begins by what happens to another one. -/
theorem connections_act (session : SessionId) (a : Session.Action) :
    (h.act session a).connections = h.connections := by
  refine (connections_follow h _).trans ?_
  rw [connections, ← List.length_map (·.id), (h.lobby.listener.ids_act session a).1,
    List.length_map]

/-- Only somebody who joins adds to them. -/
theorem connections_le_accept : h.connections ≤ h.accept.2.connections := by
  cases haccept : h.accept.1 with
  | none =>
    rcases h.lobby.listener.accept_cases with hrefused | ⟨live, haccepted⟩
    · rw [accept, hrefused]
      exact Nat.le_refl _
    · rw [accept, haccepted] at haccept
      cases haccept
  | some session =>
    rw [connections, connections, (joined_accept haccept).sessions, List.length_append]
    exact Nat.le_add_right _ _

end Host

end Pursuit
