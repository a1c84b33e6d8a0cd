import Pursuit.Proofs.PlayerIds
import Pursuit.Proofs.Sessions

/-! # What becomes of a message that is sent

A server follows the reports of its sessions one after the other, so it may list a player whose session
was closed already. Whoever sends is told whether the receiver is somebody who can be sent to, which is
not always whether anybody takes the message.

* **`Reception`** — a lobby and the reports that it has not followed yet. `Reception.Move` is what can
  happen, and `Reception.Reachable` what comes of it.
* **`Reception.Orderly`** — what is true of it throughout, as `Reception.Orderly.of_reachable` says.
* **`Lobby.takers`** — the sessions that take a message. `Reception.Orderly.offer_eq` says that it is
  queued on them and nothing else happens.
* **`Lobby.Lost`** — the messages that are answered for and not queued.
* **`Reception.offer_truthful_iff`** — every answer but theirs is true, and so is every count of messages
  without any of them. -/

namespace Pursuit

/-! ## Sessions -/

/-- **A session whose writer is gone is closed**, whatever happens to it. -/
theorem Session.closed_step {s : Session} (h : s.writer = .gone → s.closed = true) (a : Action) :
    (s.step a).1.writer = .gone → (s.step a).1.closed = true := by
  cases a with
  -- A writer only goes by leaving, which closes the session.
  | close => exact fun _ => s.closed_close
  | hangUp | shutDown => exact h
  | readerLeaves | writerLeaves =>
    simp only [step]
    split
    · exact fun _ => closed_close _
    · exact h
  | writeFails | writerStops =>
    simp only [step]
    split
    · exact fun hgone => by cases hgone
    · exact h
  | read =>
    simp only [step, read]
    split
    · split
      · exact h
      · split <;> exact h
    · exact h
  | write =>
    simp only [step, write]
    split
    · split <;> exact h
    · exact h
  | arrive | send | readFails | readerStops =>
    simp only [step, send]
    split <;> exact h

namespace Listener

variable {l : Listener}

/-- No report of what happens to a session is of a new one. -/
theorem accepted?_act (l : Listener) (id : SessionId) (a : Session.Action) :
    (l.act id a).2.filterMap ServerEvent.accepted? = [] := by
  rw [List.filterMap_eq_nil_iff]
  intro e he
  cases e with
  | accepted id' => exact absurd he (l.accepted_notMem_act id a id')
  | received | closed => rfl

/-- A session afterwards is one of before, or what the action made of one. -/
theorem mem_sessions_act {id : SessionId} {a : Session.Action} {s : Session}
    (hs : s ∈ (l.act id a).1.sessions) :
    s ∈ l.sessions ∨ ∃ s' ∈ l.sessions, s = (s'.step a).1 := by
  cases h : l.session? id with
  | none =>
    rw [act_of_none h] at hs
    exact .inl hs
  | some s' =>
    rw [act_of_some h, (sessions_forget _ _).1, modify, List.mem_map] at hs
    obtain ⟨s'', hs'', rfl⟩ := hs
    split
    · exact .inr ⟨s', List.mem_of_find?_eq_some h, rfl⟩
    · exact .inl hs''

/-- A session is found under its number, if no other has it. -/
theorem session?_eq_of_mem (hnodup : (l.sessions.map (·.id)).Nodup) {s : Session}
    (hs : s ∈ l.sessions) : l.session? s.id = some s := by
  cases h : l.session? s.id with
  | none => exact absurd (List.find?_eq_none.1 h s hs) (by simp)
  | some s' =>
    rw [List.inj_on_of_nodup_map hnodup (List.mem_of_find?_eq_some h) hs (id_of_session? h)]

/-- **As long as 64 bits suffice for them, the numbers differ.** -/
theorem Numbered.nodup (hn : l.Numbered) (hfew : l.sessions.length ≤ UInt64.size) :
    (l.sessions.map (·.id)).Nodup := by
  rw [hn.ids]
  refine List.Nodup.map_on (fun i hi j hj heq => ?_) List.nodup_range
  rw [List.mem_range] at hi hj
  rw [SessionId.mk.injEq, ← UInt64.toNat_inj, UInt64.toNat_ofNat', UInt64.toNat_ofNat'] at heq
  have hsize : UInt64.size = 18446744073709551616 := rfl
  omega

end Listener

/-! ## Messages and their takers -/

namespace Lobby

/-- The players that a receiver stands for. A player is found by its id, and by its session. -/
def addressed (l : Lobby) : Receiver → List Profile
  | .player player =>
    if player = .server then []
    else if player = .allClients then l.roster.profiles
    else (l.roster.byPlayer? player).toList
  | .session session => (l.roster.bySession? session).toList

/-- Whether a session has not been closed. -/
def isOpen (l : Lobby) (session : SessionId) : Bool :=
  (l.listener.session? session).any (!·.closed)

/-- The sessions that take a message: those of its receivers that are open, if it may be sent at all. -/
def takers (l : Lobby) (m : Message) (receiver : Receiver) : List SessionId :=
  if m.isAddressed then ((l.addressed receiver).map (·.session)).filter l.isOpen else []

/-- The lobby with its sessions changed. -/
def change (l : Lobby) (f : Session → Session) : Lobby :=
  { l with listener := { l.listener with sessions := l.listener.sessions.map f } }

/-- The lobby with a message queued on some sessions. -/
def deliver (l : Lobby) (m : Message) (takers : List SessionId) : Lobby :=
  l.change fun s => if s.id ∈ takers then { s with queue := s.queue ++ [m] } else s

/-- A message is lost if it may be sent, to all clients or to somebody who is listed, and nobody who is
listed has a session that is open. -/
def Lost (l : Lobby) (m : Message) (receiver : Receiver) : Prop :=
  m.isAddressed = true ∧ (receiver = .player .allClients ∨ l.addressed receiver ≠ []) ∧
    ∀ p ∈ l.addressed receiver, l.isOpen p.session = false

instance (l : Lobby) (m : Message) (receiver : Receiver) : Decidable (l.Lost m receiver) :=
  inferInstanceAs (Decidable (_ ∧ _ ∧ _))

section Change

variable {f g : Session → Session}

/-- Changes that do the same to the sessions there are do the same. -/
theorem change_congr {l : Lobby} (h : ∀ s ∈ l.listener.sessions, f s = g s) :
    l.change f = l.change g := by
  rw [change, change, List.map_congr_left h]

/-- Two changes one after the other are one. -/
theorem change_change (l : Lobby) : (l.change f).change g = l.change (g ∘ f) := by
  rw [change, change, change, List.map_map]

/-- A change that changes no session is none. -/
theorem change_id (l : Lobby) : (l.change fun s => s) = l := by
  rw [change, List.map_id']

/-- A session that is found after a change is the one found before it, changed. -/
theorem session?_change (hf : ∀ s, (f s).id = s.id) (l : Lobby) (id : SessionId) :
    (l.change f).listener.session? id = (l.listener.session? id).map f := by
  unfold Listener.session? change
  rw [List.find?_map]
  congr 2
  funext s
  simp only [Function.comp_apply, hf]

end Change

variable {l : Lobby} {m : Message} {receiver : Receiver} {ids : List SessionId}

/-- A message that nobody takes is queued nowhere. -/
@[simp] theorem deliver_nil (l : Lobby) (m : Message) : l.deliver m [] = l := by
  simp only [deliver, List.not_mem_nil, if_false, change_id]

/-- A message that is delivered waits at the end of the queues of its takers, and of no others. -/
theorem session?_deliver (l : Lobby) (m : Message) (ids : List SessionId) (id : SessionId) :
    (l.deliver m ids).listener.session? id = (l.listener.session? id).map fun s =>
      if s.id ∈ ids then { s with queue := s.queue ++ [m] } else s :=
  session?_change (fun s => by split <;> rfl) l id

/-- What is delivered waits behind what waited before. -/
theorem queueOf_deliver (hids : ∀ id ∈ ids, l.isOpen id = true) (id : SessionId) :
    (l.deliver m ids).listener.queueOf id =
      l.listener.queueOf id ++ if id ∈ ids then [m] else [] := by
  unfold Listener.queueOf
  rw [session?_deliver]
  cases h : l.listener.session? id with
  | none =>
    have hid : id ∉ ids := fun hmem => by simpa [isOpen, h] using hids id hmem
    simp [hid]
  | some s =>
    simp only [Option.map_some, Option.getD_some, Listener.id_of_session? h]
    split <;> simp

/-- Deliveries close nothing. -/
@[simp] theorem isOpen_deliver (l : Lobby) (m : Message) (ids : List SessionId) :
    (l.deliver m ids).isOpen = l.isOpen := by
  funext id
  rw [isOpen, isOpen, session?_deliver]
  cases l.listener.session? id with
  | none => rfl
  | some s =>
    rw [Option.map_some, Option.any_some, Option.any_some]
    split <;> rfl

/-- Delivering a message changes nothing about who is addressed. -/
@[simp] theorem addressed_deliver (l : Lobby) (m : Message) (ids : List SessionId) :
    (l.deliver m ids).addressed = l.addressed := by
  funext receiver
  cases receiver <;> rfl

/-- Delivering a message closes no session, so the takers stay the same. -/
@[simp] theorem takers_deliver (l : Lobby) (m : Message) (ids : List SessionId) :
    (l.deliver m ids).takers = l.takers := by
  funext m' receiver
  simp only [takers, addressed_deliver, isOpen_deliver]

/-- Delivering one message neither saves nor loses another one. -/
theorem lost_deliver_iff {m' : Message} : (l.deliver m' ids).Lost m receiver ↔ l.Lost m receiver := by
  simp only [Lost, addressed_deliver, isOpen_deliver]

/-- Whoever takes a message has an open session. -/
theorem isOpen_of_mem_takers {id : SessionId} (h : id ∈ l.takers m receiver) :
    l.isOpen id = true := by
  unfold takers at h
  split at h
  · exact (List.mem_filter.1 h).2
  · cases h

/-- A message waits on each of its takers. -/
theorem queueOf_deliver_takers (l : Lobby) (m : Message) (receiver : Receiver) (id : SessionId) :
    (l.deliver m (l.takers m receiver)).listener.queueOf id =
      l.listener.queueOf id ++ if id ∈ l.takers m receiver then [m] else [] :=
  queueOf_deliver (fun _ => isOpen_of_mem_takers) id

/-- Some queue has grown if there is a taker. -/
theorem exists_queueOf_deliver_takers_iff :
    (∃ id, (l.deliver m (l.takers m receiver)).listener.queueOf id ≠ l.listener.queueOf id) ↔
      l.takers m receiver ≠ [] := by
  simp only [queueOf_deliver_takers]
  constructor
  · rintro ⟨id, hid⟩ hnone
    simp [hnone] at hid
  · intro hsome
    obtain ⟨id, hmem⟩ := List.exists_mem_of_ne_nil _ hsome
    exact ⟨id, by simp [hmem]⟩

/-! ### Offers -/

/-- A message is queued for the players that its receiver stands for, one after the other. -/
theorem offer_eq_foldl (l : Lobby) (m : Message) (receiver : Receiver) :
    (l.offer m receiver).2 =
      if m.isAddressed then (l.addressed receiver).foldl (·.queue m) l else l := by
  have hon (p? : Option Profile) : (l.queueOn m p?).2 = p?.toList.foldl (·.queue m) l := by
    cases p? <;> rfl
  unfold offer addressed
  split
  · cases receiver with
    | player player =>
      dsimp only
      split
      · rfl
      · split
        · rfl
        · exact hon _
    | session session => exact hon _
  · rfl

/-- **The answer** tells whether the message may be sent, to all clients or to somebody who is listed. -/
theorem offer_answer_iff (l : Lobby) (m : Message) (receiver : Receiver) :
    (l.offer m receiver).1 = true ↔
      m.isAddressed = true ∧ (receiver = .player .allClients ∨ l.addressed receiver ≠ []) := by
  have hon (p? : Option Profile) : (l.queueOn m p?).1 = true ↔ p?.toList ≠ [] := by
    cases p? <;> simp [queueOn]
  unfold offer addressed
  by_cases hm : m.isAddressed = true
  · -- The three kinds of players that a message may be for are told apart in the same order.
    rw [if_pos hm]
    cases receiver with
    | player player =>
      dsimp only
      by_cases hserver : player = .server
      · have hne : player ≠ .allClients := by rw [hserver]; decide
        rw [if_pos hserver, if_pos hserver]
        simp [hne]
      · rw [if_neg hserver, if_neg hserver]
        by_cases hall : player = .allClients
        · rw [if_pos hall]
          simp [hm, hall]
        · rw [if_neg hall, if_neg hall]
          simp [hm, hall, hon]
    | session session => simp [hm, hon]
  · simp [hm]

/-- Messages for players on sessions of their own are sent to each once. -/
theorem foldl_queue_eq (m : Message) {ps : List Profile} (hnodup : (ps.map (·.session)).Nodup)
    (l : Lobby) :
    ps.foldl (·.queue m) l =
      l.change fun s => if s.id ∈ ps.map (·.session) then s.send m else s := by
  -- The queues grow with each player, so the lobby varies; no session is served twice.
  induction ps generalizing l with
  | nil => simp only [List.foldl_nil, List.map_nil, List.not_mem_nil, if_false, change_id]
  | cons p ps ih =>
    rw [List.map_cons, List.nodup_cons] at hnodup
    have hqueue : l.queue m p = l.change fun s => if s.id = p.session then s.send m else s := rfl
    rw [List.foldl_cons, ih hnodup.2, hqueue, change_change]
    refine change_congr fun s _ => ?_
    simp only [Function.comp_apply, List.map_cons, List.mem_cons]
    by_cases hs : s.id = p.session
    · rw [if_pos hs, Listener.id_send, if_neg (hs ▸ hnodup.1), if_pos (.inl hs)]
    · simp only [hs, if_false, false_or]

/-- No session is addressed twice. -/
theorem nodup_addressed (hnodup : (l.roster.profiles.map (·.session)).Nodup) (receiver : Receiver) :
    ((l.addressed receiver).map (·.session)).Nodup := by
  have hlist (p? : Option Profile) : (p?.toList.map (·.session)).Nodup := by
    cases p? <;> simp
  cases receiver with
  | player player =>
    simp only [addressed]
    split
    · exact List.nodup_nil
    · split
      · exact hnodup
      · exact hlist _
  | session session => exact hlist _

/-- Nobody takes a message exactly if it may not be sent or all who are addressed are gone. -/
theorem takers_eq_nil_iff : l.takers m receiver = [] ↔
    m.isAddressed = true → ∀ p ∈ l.addressed receiver, l.isOpen p.session = false := by
  unfold takers
  by_cases hm : m.isAddressed = true
  · simp [hm, List.filter_eq_nil_iff]
  · simp [hm]

/-- What is lost is not taken. -/
theorem Lost.takers_eq_nil (h : l.Lost m receiver) : l.takers m receiver = [] :=
  takers_eq_nil_iff.2 fun _ => h.2.2

/-- **A message that is answered for** is taken by somebody, or it is lost. -/
theorem offer_answer_iff_or : (l.offer m receiver).1 = true ↔
    l.takers m receiver ≠ [] ∨ l.Lost m receiver := by
  rw [offer_answer_iff]
  constructor
  · rintro ⟨hm, hlisted⟩
    by_cases htakers : l.takers m receiver = []
    · exact .inr ⟨hm, hlisted, takers_eq_nil_iff.1 htakers hm⟩
    · exact .inl htakers
  · rintro (htakers | hlost)
    · have hm : m.isAddressed = true := by
        by_contra hm
        exact htakers (if_neg hm)
      refine ⟨hm, .inr fun hnone => htakers (takers_eq_nil_iff.2 fun _ p hp => ?_)⟩
      rw [hnone] at hp
      cases hp
    · exact ⟨hlost.1, hlost.2.1⟩

/-- What an offer adds to the count. -/
theorem offer_count (l : Lobby) (m : Message) (receiver : Receiver) :
    (if (l.offer m receiver).1 then 1 else 0) =
      (if l.takers m receiver ≠ [] then 1 else 0) + if l.Lost m receiver then 1 else 0 := by
  by_cases hlost : l.Lost m receiver
  · rw [if_pos (offer_answer_iff_or.2 (.inr hlost)), if_neg (not_not.2 hlost.takers_eq_nil),
      if_pos hlost]
  · have hanswer : (l.offer m receiver).1 = true ↔ l.takers m receiver ≠ [] := by
      rw [offer_answer_iff_or, or_iff_left hlost]
    simp only [hanswer, if_neg hlost, Nat.add_zero]

end Lobby

/-! ## Receptions -/

/-- A lobby and the reports of its sessions that it has not followed yet, the oldest first. -/
structure Reception where
  /-- The lobby. -/
  lobby : Lobby
  /-- The reports. -/
  pending : List ServerEvent := []

namespace Reception

/-- What can happen. -/
inductive Move where
  /-- A client connects. -/
  | accept
  /-- Something happens to a session: bytes come in, it is closed, a worker stops. -/
  | act (session : SessionId) (a : Session.Action)
  /-- The next report is followed. -/
  | follow
  /-- A message is sent. -/
  | offer (m : Message) (receiver : Receiver)
  /-- The server shuts down. -/
  | stop

/-- What a move makes of a reception. -/
def move (r : Reception) : Move → Reception
  | .accept =>
    let (_, listener, events) := r.lobby.listener.accept
    { lobby := { r.lobby with listener }, pending := r.pending ++ events }
  | .act session a =>
    let (listener, events) := r.lobby.listener.act session a
    { lobby := { r.lobby with listener }, pending := r.pending ++ events }
  | .follow =>
    match r.pending with
    | [] => r
    | e :: rest => { lobby := (r.lobby.handle e).1, pending := rest }
  | .offer m receiver => { r with lobby := (r.lobby.offer m receiver).2 }
  | .stop => { r with lobby := { r.lobby with listener := r.lobby.listener.stop } }

/-- The receptions that there can be. -/
inductive Reachable : Reception → Prop where
  /-- Nobody has come yet. -/
  | new (capacity : Nat) : Reachable { lobby := .new capacity }
  /-- Something happened. -/
  | moved {r : Reception} (move : Move) : Reachable r → Reachable (r.move move)

/-- Whatever happens, a reception stays one that there can be. -/
theorem Reachable.run {r : Reception} (hr : r.Reachable) (moves : List Move) :
    (moves.foldl move r).Reachable := by
  induction moves generalizing r with
  | nil => exact hr
  | cons m moves ih => exact ih (.moved m hr)

/-- The sessions of the players who are listed, and of those who will be. -/
def guests (r : Reception) : List SessionId :=
  r.lobby.roster.profiles.map (·.session) ++ r.pending.filterMap ServerEvent.accepted?

/-- What is true of every reception, as long as 64 bits suffice for the numbers of the sessions. -/
structure Orderly (r : Reception) : Prop where
  /-- The sessions are numbered. -/
  numbered : r.lobby.listener.Numbered
  /-- Everybody has a session of their own. -/
  nodup : r.guests.Nodup
  /-- It has begun. -/
  began : ∀ id ∈ r.guests, id ∈ r.lobby.listener.sessions.map (·.id)
  /-- Sessions without a writer are closed. -/
  closed : ∀ s ∈ r.lobby.listener.sessions, s.writer = .gone → s.closed = true

/-- Whoever begins to be listed was to be listed before. -/
theorem guests_follow (r : Reception) : (r.move .follow).guests.Sublist r.guests := by
  obtain ⟨l, pending⟩ := r
  cases pending with
  | nil => exact List.Sublist.refl _
  | cons e rest =>
    cases e with
    | accepted session =>
      -- The guest goes from the reports to the roster, and keeps its place among all.
      have hguests : (move ⟨l, .accepted session :: rest⟩ .follow).guests =
          guests ⟨l, .accepted session :: rest⟩ := by
        simp [guests, move, Lobby.handle, Roster.handle, Roster.join, ServerEvent.accepted?]
      exact hguests ▸ List.Sublist.refl _
    | received session m => exact List.Sublist.refl _
    | closed session =>
      exact ((l.roster.sublist_leave session).map _).append_right _

/-- No session is forgotten. -/
theorem length_sessions_le_move (r : Reception) (m : Move) :
    r.lobby.listener.sessions.length ≤ (r.move m).lobby.listener.sessions.length := by
  cases m with
  | accept =>
    rcases r.lobby.listener.accept_cases with heq | ⟨live, heq⟩
    · simp only [move, heq, Nat.le_refl]
    · simp only [move, heq, List.length_append, Nat.le_add_right]
  | act session a =>
    refine Nat.le_of_eq ?_
    rw [← List.length_map (·.id), ← (r.lobby.listener.ids_act session a).1, List.length_map]
    rfl
  | follow =>
    simp only [move]
    split <;> exact Nat.le_refl _
  | offer m receiver => exact Nat.le_of_eq (Lobby.length_sessions_offer m receiver _).symm
  | stop => exact Nat.le_of_eq (List.length_map _).symm

namespace Orderly

variable {r : Reception}

/-- **A message is queued on its takers**, on each of them once, and nothing else happens. -/
theorem offer_eq (h : r.Orderly) (hfew : r.lobby.listener.sessions.length ≤ UInt64.size)
    (m : Message) (receiver : Receiver) :
    (r.lobby.offer m receiver).2 = r.lobby.deliver m (r.lobby.takers m receiver) := by
  rw [Lobby.offer_eq_foldl, Lobby.takers]
  split
  · rw [Lobby.foldl_queue_eq m (Lobby.nodup_addressed (List.nodup_append.1 h.nodup).1 receiver),
      Lobby.deliver]
    refine Lobby.change_congr fun s hs => ?_
    -- No other session has the number, so this one is open exactly if it is not closed.
    have hfound := Listener.session?_eq_of_mem (h.numbered.nodup hfew) hs
    have hopen : r.lobby.isOpen s.id = !s.closed := by
      rw [Lobby.isOpen, hfound, Option.any_some]
    simp only [List.mem_filter, hopen]
    cases hclosed : s.closed with
    | true => simp [Session.send_of_closed m hclosed]
    | false =>
      have hwriter : s.writer ≠ .gone := fun hgone => by
        simpa [hclosed] using h.closed s hs hgone
      simp [Session.send, hclosed, hwriter]
  · rw [Lobby.deliver_nil]

/-- What changes neither the number of a session nor that it is closed keeps a reception orderly. -/
theorem map (h : r.Orderly) {r' : Reception} {f : Session → Session} (hf : ∀ s, (f s).id = s.id)
    (hclosed : ∀ s, (s.writer = .gone → s.closed = true) →
      (f s).writer = .gone → (f s).closed = true)
    (hguests : r'.guests = r.guests)
    (hsessions : r'.lobby.listener.sessions = r.lobby.listener.sessions.map f)
    (hnumbering : r'.lobby.listener.numbering = r.lobby.listener.numbering) : r'.Orderly := by
  have hids : r'.lobby.listener.sessions.map (·.id) = r.lobby.listener.sessions.map (·.id) := by
    rw [hsessions, List.map_map]
    exact List.map_congr_left fun s _ => hf s
  refine ⟨h.numbered.congr hids hnumbering, hguests ▸ h.nodup,
    fun id hid => hids ▸ h.began id (hguests ▸ hid), fun s hs => ?_⟩
  rw [hsessions] at hs
  obtain ⟨s', hs', rfl⟩ := List.mem_map.1 hs
  exact hclosed s' (h.closed s' hs')

/-- Another client keeps it so: its session has a number that nobody has. -/
theorem accept (h : r.Orderly)
    (hfew : (r.move .accept).lobby.listener.sessions.length ≤ UInt64.size) :
    (r.move .accept).Orderly := by
  rcases r.lobby.listener.accept_cases with heq | ⟨live, heq⟩
  · have hmove : r.move .accept = r := by
      simp only [Reception.move, heq, List.append_nil]
    rwa [hmove]
  · have hguests : (r.move .accept).guests =
        r.guests ++ [⟨r.lobby.listener.numbering.upcoming⟩] := by
      simp only [Reception.move, heq, guests, List.filterMap_append, List.append_assoc]
      rfl
    have hsessions : (r.move .accept).lobby.listener.sessions =
        r.lobby.listener.sessions ++ [{ id := ⟨r.lobby.listener.numbering.upcoming⟩ }] := by
      simp only [Reception.move, heq]
    have hnumbering : (r.move .accept).lobby.listener.numbering =
        r.lobby.listener.numbering.next.2 := by
      simp only [Reception.move, heq]
    -- Numbers have not come round yet, so nobody has the next one.
    have hfresh : ⟨r.lobby.listener.numbering.upcoming⟩ ∉
        r.lobby.listener.sessions.map (·.id) := by
      rw [hsessions, List.length_append] at hfew
      exact h.numbered.upcoming_notMem (Nat.lt_of_lt_of_le (Nat.lt_succ_self _) hfew)
    refine ⟨h.numbered.joined hsessions hnumbering, ?_, fun id hid => ?_, fun s hs => ?_⟩
    · rw [hguests]
      exact h.nodup.append (List.nodup_singleton _)
        (List.disjoint_singleton.2 fun hmem => hfresh (h.began _ hmem))
    · rw [hguests, List.mem_append] at hid
      rw [hsessions, List.map_append, List.mem_append]
      exact hid.imp (h.began id) fun hid => hid
    · rw [hsessions, List.mem_append, List.mem_singleton] at hs
      rcases hs with hs | rfl
      · exact h.closed s hs
      · exact fun hgone => by cases hgone

/-- **A move keeps a reception orderly.** -/
theorem move (h : r.Orderly) (move : Move)
    (hfew : (r.move move).lobby.listener.sessions.length ≤ UInt64.size) : (r.move move).Orderly := by
  cases move with
  | accept => exact h.accept hfew
  | act session a =>
    have hguests : (r.move (.act session a)).guests = r.guests := by
      simp only [guests, Reception.move, List.filterMap_append, Listener.accepted?_act,
        List.append_nil]
    obtain ⟨hids, hnumbering⟩ := r.lobby.listener.ids_act session a
    refine ⟨h.numbered.congr hids hnumbering, hguests ▸ h.nodup, fun id hid => ?_, fun s hs => ?_⟩
    · rw [hguests] at hid
      exact hids ▸ h.began id hid
    · rcases Listener.mem_sessions_act hs with hs | ⟨s', hs', rfl⟩
      · exact h.closed s hs
      · exact Session.closed_step (h.closed s' hs') a
  | follow =>
    -- A report that is followed only takes somebody off the lists.
    have hlistener : (r.move .follow).lobby.listener = r.lobby.listener := by
      simp only [Reception.move]
      split <;> rfl
    have hguests := r.guests_follow
    refine ⟨hlistener ▸ h.numbered, h.nodup.sublist hguests, fun id hid => ?_, fun s hs => ?_⟩
    · rw [hlistener]
      exact h.began id (hguests.subset hid)
    · rw [hlistener] at hs
      exact h.closed s hs
  | offer m receiver =>
    have hfew' : r.lobby.listener.sessions.length ≤ UInt64.size := by
      rwa [Reception.move, Lobby.length_sessions_offer] at hfew
    have hmove : r.move (.offer m receiver) =
        { r with lobby := r.lobby.deliver m (r.lobby.takers m receiver) } := by
      rw [Reception.move, h.offer_eq hfew']
    rw [hmove]
    exact h.map (fun s => by split <;> rfl) (fun s => by split <;> exact fun hs => hs) rfl rfl rfl
  | stop =>
    exact h.map (f := fun s => (s.step .shutDown).1) (fun _ => rfl) (fun _ hs => hs) rfl rfl rfl

/-- **Receptions are orderly**, as long as 64 bits suffice for the numbers of the sessions. -/
theorem of_reachable (hr : r.Reachable) (hfew : r.lobby.listener.sessions.length ≤ UInt64.size) :
    r.Orderly := by
  induction hr with
  | new capacity =>
    exact ⟨.new capacity, List.nodup_nil, fun _ hid => absurd hid List.not_mem_nil,
      fun _ hs => absurd hs List.not_mem_nil⟩
  | @moved r move _ ih => exact (ih (Nat.le_trans (r.length_sessions_le_move move) hfew)).move move hfew

/-- **Messages offered one after the other**: those that are taken are counted, and so are those that are
lost. On each session those wait that it takes. -/
theorem offerAll_eq (h : r.Orderly) (hfew : r.lobby.listener.sessions.length ≤ UInt64.size)
    (offers : List (Message × Receiver)) :
    (offerAll Lobby.offer offers r.lobby).1 =
        offers.countP (fun o => r.lobby.takers o.1 o.2 ≠ []) +
          offers.countP (fun o => r.lobby.Lost o.1 o.2) ∧
      ∀ session, (offerAll Lobby.offer offers r.lobby).2.listener.queueOf session =
        r.lobby.listener.queueOf session ++
          (offers.filter fun o => session ∈ r.lobby.takers o.1 o.2).map (·.1) := by
  -- The queues grow with each offer, so the reception varies, but not who takes what.
  induction offers generalizing r with
  | nil => exact ⟨rfl, fun _ => (List.append_nil _).symm⟩
  | cons o offers ih =>
    obtain ⟨m, receiver⟩ := o
    have hnext : (r.lobby.offer m receiver).2 = r.lobby.deliver m (r.lobby.takers m receiver) :=
      h.offer_eq hfew m receiver
    have hfew' : (r.move (.offer m receiver)).lobby.listener.sessions.length ≤ UInt64.size :=
      Nat.le_trans (Nat.le_of_eq (Lobby.length_sessions_offer m receiver _)) hfew
    obtain ⟨hcount, hqueues⟩ := ih (h.move (.offer m receiver) hfew') hfew'
    simp only [Reception.move, hnext, Lobby.takers_deliver, Lobby.lost_deliver_iff] at hcount hqueues
    simp only [offerAll, hnext]
    refine ⟨?_, fun session => ?_⟩
    · rw [hcount, Lobby.offer_count, List.countP_cons, List.countP_cons]
      simp only [decide_eq_true_eq]
      omega
    · rw [hqueues, Lobby.queueOf_deliver_takers, List.append_assoc]
      by_cases hmem : session ∈ r.lobby.takers m receiver
      · rw [if_pos hmem, List.filter_cons_of_pos (by simpa using hmem)]
        rfl
      · rw [if_neg hmem, List.filter_cons_of_neg (by simpa using hmem)]
        rfl

end Orderly

/-! ## The truth of an answer -/

variable {r : Reception}

/-- **An answer is true of every message that is not lost.** Whatever has happened: a message is queued on
the open sessions of its receivers, on each of them once and behind what waited before, and nothing else
changes; after a refusal nothing has changed at all. That it was accepted means that somebody took it, if
and only if it is not lost. So it is with a synchronization: its messages wait on the sessions that take
them, and the count is that of the messages taken if and only if none of them is lost. -/
theorem offer_truthful_iff (hr : r.Reachable)
    (hfew : r.lobby.listener.sessions.length ≤ UInt64.size) (m : Message) (receiver : Receiver) :
    (r.lobby.offer m receiver).2 = r.lobby.deliver m (r.lobby.takers m receiver) ∧
    (∀ session, (r.lobby.offer m receiver).2.listener.queueOf session =
      r.lobby.listener.queueOf session ++
        if session ∈ r.lobby.takers m receiver then [m] else []) ∧
    ((r.lobby.offer m receiver).1 = false → (r.lobby.offer m receiver).2 = r.lobby) ∧
    (((r.lobby.offer m receiver).1 = true ↔
        ∃ session, (r.lobby.offer m receiver).2.listener.queueOf session ≠
          r.lobby.listener.queueOf session) ↔
      ¬ r.lobby.Lost m receiver) ∧
    ∀ {ε : Type} [Entity ε] (e : ε) (target : Target) (threshold : Urgency),
      let offers := Entity.offers e target threshold
      let result := Entity.synchronize Lobby.offer e target threshold r.lobby
      (∀ session, result.2.listener.queueOf session = r.lobby.listener.queueOf session ++
        (offers.filter fun o => session ∈ r.lobby.takers o.1 o.2).map (·.1)) ∧
      (result.1 = offers.countP (fun o => r.lobby.takers o.1 o.2 ≠ []) ↔
        ∀ o ∈ offers, ¬ r.lobby.Lost o.1 o.2) := by
  have h := Orderly.of_reachable hr hfew
  have hoffer := h.offer_eq hfew m receiver
  refine ⟨hoffer, fun session => ?_, fun hrefused => ?_, ?_, fun e target threshold => ⟨?_, ?_⟩⟩
  · rw [hoffer, Lobby.queueOf_deliver_takers]
  · have htakers : r.lobby.takers m receiver = [] := by
      by_contra htakers
      rw [Lobby.offer_answer_iff_or.2 (.inl htakers)] at hrefused
      cases hrefused
    rw [hoffer, htakers, Lobby.deliver_nil]
  · -- The answer is that somebody takes the message or that it is lost, and never both.
    rw [hoffer, Lobby.exists_queueOf_deliver_takers_iff, Lobby.offer_answer_iff_or]
    constructor
    · exact fun htrue hlost => htrue.1 (.inr hlost) hlost.takers_eq_nil
    · exact fun hkept => or_iff_left hkept
  · exact (h.offerAll_eq hfew _).2
  · rw [Entity.synchronize, (h.offerAll_eq hfew _).1, Nat.add_eq_left, List.countP_eq_zero]
    simp only [decide_eq_true_eq]

/-- Two clients have joined. The session of the second was closed, which has not been followed yet. -/
def parting : Reception :=
  [.accept, .accept, .follow, .follow, .act ⟨2⟩ .close].foldl move { lobby := .new 16 }

/-- What is sent to all clients is taken by the first, which is still there, and the answer is true. -/
theorem offer_truthful_iff_parting :
    let m : Message := ⟨⟨.first, ⟨9⟩, 0⟩, []⟩
    parting.Reachable ∧ parting.pending = [.closed ⟨2⟩] ∧
      parting.lobby.takers m (.player .allClients) = [⟨1⟩] ∧
      ((parting.lobby.offer m (.player .allClients)).1 = true ↔
        ∃ session, (parting.lobby.offer m (.player .allClients)).2.listener.queueOf session ≠
          parting.lobby.listener.queueOf session) := by
  intro m
  have hr : parting.Reachable := .run (.new 16) _
  exact ⟨hr, by decide, by decide, (offer_truthful_iff hr (by decide) m _).2.2.2.1.2 (by decide)⟩

/-- **A server without clients answers for a message to all of them**, which is queued nowhere. So does
one for a message to a player whose session was closed. -/
theorem offer_answers_for_nobody :
    let m : Message := ⟨⟨.first, ⟨9⟩, 0⟩, []⟩
    (Reachable { lobby := .new 16 } ∧ (Lobby.new 16).offer m (.player .allClients) = (true, .new 16)) ∧
      parting.Reachable ∧ parting.lobby.offer m (.player ⟨5⟩) = (true, parting.lobby) := by
  intro m
  exact ⟨⟨.new 16, rfl⟩, .run (.new 16) _, rfl⟩

end Reception

end Pursuit
