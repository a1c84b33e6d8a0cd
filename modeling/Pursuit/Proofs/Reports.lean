import Pursuit.Match.Roster
import Pursuit.Proofs.Loading
import Pursuit.Proofs.Mirror

/-! # What a synchronization says

A synchronization sends one message for each entity, pieces first. To a follower that knows nothing,
or that knows exactly the ids of the game, these messages say how the game stands.

* **`Piece.report`, `Obstacle.report`, `Game.reports`** — the messages of a synchronization, whatever
  it is for.
* **`Game.offers_eq`** — each of them goes to each receiver.
* **`noteAll_of_fresh`, `noteAll_of_known`** — records noted one after the other, under ids that
  are all new or all known.
* **`View.foldl_reports`** — a view after the messages of a synchronization. -/

namespace Pursuit

/-! ## The messages -/

/-- The message that tells the state of a piece. -/
def Piece.report (p : Piece) : Message :=
  ⟨⟨Entity.id p, .gameUnit, 14⟩, Payload.toBytes p.state⟩

/-- The message that tells the state of an obstacle. -/
def Obstacle.report (o : Obstacle) : Message :=
  ⟨⟨Entity.id o, .gameObstacle, 12⟩, Payload.toBytes o.state⟩

/-- The message that tells a player its id. -/
def Profile.greeting (p : Profile) : Message :=
  ⟨⟨.event, .newPlayerId, 2⟩, Payload.toBytes (⟨p.player⟩ : Greeting)⟩

/-- The report of a piece tells its state. -/
theorem Piece.news_report (p : Piece) : p.report.news = .piece p.state :=
  Message.news_eq_piece_iff.2 (Message.contents?_eq_some_iff.2 ⟨rfl, rfl⟩)

/-- The report of an obstacle tells its state. -/
theorem Obstacle.news_report (o : Obstacle) : o.report.news = .obstacle o.state :=
  Message.news_eq_obstacle_iff.2 (Message.contents?_eq_some_iff.2 ⟨rfl, rfl⟩)

/-- The greeting of a player tells which player it is. -/
theorem Profile.news_greeting (p : Profile) : p.greeting.news = .greeting ⟨p.player⟩ :=
  Message.news_eq_greeting_iff.2 (Message.contents?_eq_some_iff.2 ⟨rfl, rfl⟩)

/-- Every urgency reaches what is sent always. -/
theorem Urgency.le_always (u : Urgency) : u ≤ .always := by
  cases u <;> decide

/-- A piece offers its report to each receiver, however urgent the synchronization. -/
theorem Piece.offers_eq {p : Piece} (hattached : p.replication.link.isAttached = true)
    (hregistered : p.replication.registrations = Piece.registrations) (target : Target)
    (threshold : Urgency) :
    Entity.offers p target threshold = target.receivers.map (p.report, ·) := by
  have hlength := Payload.length_toBytes p.state
  have hout : Entity.outgoing? p .gameUnit = some p.report := by
    have hencode : Entity.encode p .gameUnit = .ok (Payload.toBytes p.state) := by
      simp only [Entity.encode, if_true, Payload.encode_eq]
      rfl
    rw [Entity.outgoing?, hencode]
    change (Message.ofPayload (Entity.id p) .gameUnit (Payload.toBytes p.state)).toOption = _
    rw [Message.ofPayload, if_neg (by rw [hlength]; decide), hlength]
    rfl
  have hdue : Entity.isDue threshold ⟨.gameUnit, 14, .always, true⟩ = true := by
    simp [Entity.isDue, Urgency.le_always]
  have hattached' : (Entity.replication p).link.isAttached = true := hattached
  have hregistered' : (Entity.replication p).registrations = Piece.registrations := hregistered
  rw [Entity.offers, if_pos hattached', hregistered', Piece.registrations, List.filter_singleton,
    hdue, cond_true, List.flatMap_singleton, hout, Option.toList_some, List.flatMap_singleton]

/-- An obstacle on an endpoint is reported to every receiver, whatever the threshold. -/
theorem Obstacle.offers_eq {o : Obstacle} (hattached : o.replication.link.isAttached = true)
    (hregistered : o.replication.registrations = Obstacle.registrations) (target : Target)
    (threshold : Urgency) :
    Entity.offers o target threshold = target.receivers.map (o.report, ·) := by
  have hlength := Payload.length_toBytes o.state
  have hout : Entity.outgoing? o .gameObstacle = some o.report := by
    have hencode : Entity.encode o .gameObstacle = .ok (Payload.toBytes o.state) := by
      simp only [Entity.encode, if_true, Payload.encode_eq]
      rfl
    rw [Entity.outgoing?, hencode]
    change (Message.ofPayload (Entity.id o) .gameObstacle (Payload.toBytes o.state)).toOption = _
    rw [Message.ofPayload, if_neg (by rw [hlength]; decide), hlength]
    rfl
  have hdue : Entity.isDue threshold ⟨.gameObstacle, 12, .always, true⟩ = true := by
    simp [Entity.isDue, Urgency.le_always]
  have hattached' : (Entity.replication o).link.isAttached = true := hattached
  have hregistered' : (Entity.replication o).registrations = Obstacle.registrations := hregistered
  rw [Entity.offers, if_pos hattached', hregistered', Obstacle.registrations,
    List.filter_singleton, hdue, cond_true, List.flatMap_singleton, hout, Option.toList_some,
    List.flatMap_singleton]

namespace Game

/-- The messages of a synchronization. -/
def reports (g : Game) : List Message :=
  g.pieces.map Piece.report ++ g.obstacles.map Obstacle.report

/-- **A synchronization offers the game's reports to each receiver.** -/
theorem offers_eq {reserved : List (Handler Action)} {g : Game} {s : Station}
    (hw : s.Wired reserved g) (target : Target) (threshold : Urgency) :
    g.offers target threshold = g.reports.flatMap fun m => target.receivers.map (m, ·) := by
  have hp : g.pieces.flatMap (Entity.offers · target threshold) =
      (g.pieces.map Piece.report).flatMap fun m => target.receivers.map (m, ·) := by
    rw [List.flatMap_map]
    refine List.flatMap_congr fun p hmem => ?_
    have hbelongs := hw.pieces p.replication (List.mem_map_of_mem hmem)
    exact Piece.offers_eq (hbelongs.link ▸ hw.attached) hbelongs.registrations target threshold
  have ho : g.obstacles.flatMap (Entity.offers · target threshold) =
      (g.obstacles.map Obstacle.report).flatMap fun m => target.receivers.map (m, ·) := by
    rw [List.flatMap_map]
    refine List.flatMap_congr fun o hmem => ?_
    have hbelongs := hw.obstacles o.replication (List.mem_map_of_mem hmem)
    exact Obstacle.offers_eq (hbelongs.link ▸ hw.attached) hbelongs.registrations target threshold
  rw [offers, reports, hp, ho, List.flatMap_append]

/-- The reports of an identified game are about entities. -/
theorem isAddressed_of_mem_reports {g : Game} (hg : g.Identified) {m : Message}
    (hm : m ∈ g.reports) : m.isAddressed = true := by
  have haddressed (m : Message) (htype : m.type ≠ .undefined) (hid : m.id ∈ g.ids) :
      m.isAddressed = true := by
    have hne : m.id ≠ .none := fun heq => by
      have := hg.assigned m.id hid
      rw [heq] at this
      exact absurd this (by decide)
    simp [Message.isAddressed, htype, hne]
  rcases List.mem_append.1 hm with hm | hm
  · obtain ⟨p, hp, rfl⟩ := List.mem_map.1 hm
    exact haddressed _ (by change ContentType.gameUnit ≠ .undefined; decide)
      (List.mem_append_left _ (List.mem_map_of_mem hp))
  · obtain ⟨o, ho, rfl⟩ := List.mem_map.1 hm
    exact haddressed _ (by change ContentType.gameObstacle ≠ .undefined; decide)
      (List.mem_append_right _ (List.mem_map_of_mem ho))

/-- None of them greets. -/
theorem not_greeting_of_mem_reports {g : Game} {m : Message} (hm : m ∈ g.reports) :
    m.type ≠ .newPlayerId := by
  rcases List.mem_append.1 hm with hm | hm
  · obtain ⟨p, _, rfl⟩ := List.mem_map.1 hm
    change ContentType.gameUnit ≠ .newPlayerId
    decide
  · obtain ⟨o, _, rfl⟩ := List.mem_map.1 hm
    change ContentType.gameObstacle ≠ .newPlayerId
    decide

end Game

/-! ## Records noted one after the other -/

section Note

variable {α : Type}

/-- Records noted one after the other. -/
def noteAll (xs ys : List (MessageId × α)) : List (MessageId × α) :=
  xs.foldl (fun ys x => note x.1 x.2 ys) ys

/-- Records under new ids go to the end. -/
theorem noteAll_of_fresh {ys xs : List (MessageId × α)}
    (hnodup : ((ys ++ xs).map (·.1)).Nodup) :
    noteAll xs ys = ys ++ xs := by
  induction xs generalizing ys with
  | nil => rw [noteAll, List.foldl_nil, List.append_nil]
  | cons x xs ih =>
    rw [List.append_cons] at hnodup ⊢
    have hfresh : x.1 ∉ ys.map (·.1) := by
      rw [List.map_append, List.map_append, List.map_singleton] at hnodup
      have hdisjoint := (List.nodup_append.1 (List.nodup_append.1 hnodup).1).2.2
      exact fun hmem => hdisjoint x.1 hmem x.1 (List.mem_singleton_self _) rfl
    rw [noteAll, List.foldl_cons, note, if_neg hfresh]
    exact ih hnodup

/-- A record under an id that is known takes the place of the one before. -/
theorem note_of_known {id : MessageId} {a b : α} {done rest : List (MessageId × α)}
    (hassigned : id.isAssigned = true) (hdone : id ∉ done.map (·.1))
    (hrest : id ∉ rest.map (·.1)) :
    note id a (done ++ (id, b) :: rest) = done ++ (id, a) :: rest := by
  have hsame (xs : List (MessageId × α)) (hxs : id ∉ xs.map (·.1)) :
      xs.map (fun x => if x.1 = id then (id, a) else x) = xs := by
    refine (List.map_congr_left fun x hx => ?_).trans (List.map_id _)
    have hne : x.1 ≠ id := fun heq => hxs (heq ▸ List.mem_map_of_mem hx)
    rw [if_neg hne]
    rfl
  have hmem : id ∈ (done ++ (id, b) :: rest).map (·.1) := by simp
  rw [note, if_pos hmem, if_pos hassigned, List.map_append, List.map_cons, hsame done hdone,
    hsame rest hrest, if_pos rfl]

/-- Records under exactly the known ids, in their order, take the places of those before. -/
theorem noteAll_of_known {ys xs : List (MessageId × α)} (hids : ys.map (·.1) = xs.map (·.1))
    (hassigned : ∀ x ∈ xs, x.1.isAssigned = true) (hnodup : (xs.map (·.1)).Nodup) :
    noteAll xs ys = xs := by
  -- The records noted so far stand in front of those that are still to be replaced.
  have hfold (done ys xs : List (MessageId × α)) (hids : ys.map (·.1) = xs.map (·.1))
      (hassigned : ∀ x ∈ xs, x.1.isAssigned = true)
      (hnodup : ((done ++ xs).map (·.1)).Nodup) :
      noteAll xs (done ++ ys) = done ++ xs := by
    induction xs generalizing done ys with
    | nil => rw [List.map_eq_nil_iff.1 hids, noteAll, List.foldl_nil]
    | cons x xs ih =>
      obtain ⟨y, ys, rfl⟩ : ∃ y ys', ys = y :: ys' := by
        cases ys with
        | nil => simp at hids
        | cons y ys => exact ⟨y, ys, rfl⟩
      rw [List.map_cons, List.map_cons, List.cons.injEq] at hids
      obtain ⟨hhead, htail⟩ := hids
      have hsplit := hnodup
      rw [List.map_append, List.map_cons, List.nodup_append, List.nodup_cons] at hsplit
      obtain ⟨_, ⟨hrest, _⟩, hdone⟩ := hsplit
      have hfresh : x.1 ∉ done.map (·.1) := fun hmem =>
        hdone x.1 hmem x.1 List.mem_cons_self rfl
      have hstep : note x.1 x.2 (done ++ y :: ys) = (done ++ [x]) ++ ys := by
        rw [show y = (x.1, y.2) from Prod.ext hhead rfl,
          note_of_known (hassigned x List.mem_cons_self) hfresh (by rw [htail]; exact hrest)]
        simp
      have hrest := ih (done ++ [x]) ys htail (fun z hz => hassigned z (List.mem_cons_of_mem _ hz))
        (by simpa using hnodup)
      rw [noteAll, List.foldl_cons, hstep]
      exact hrest.trans (List.append_cons done x xs).symm
  exact hfold [] ys xs hids hassigned hnodup

end Note

/-! ## Views after a synchronization -/

/-- The view of a game has the ids of its pieces. -/
theorem Game.ids_view_pieces (g : Game) : g.view.pieces.map (·.1) = g.pieces.map Entity.id := by
  rw [view, List.map_map]
  rfl

/-- The view of a game has the ids of its obstacles. -/
theorem Game.ids_view_obstacles (g : Game) :
    g.view.obstacles.map (·.1) = g.obstacles.map Entity.id := by
  rw [view, List.map_map]
  rfl

/-- A view knows nothing, or exactly the ids of a game. -/
structure View.FitsIds (v : View) (g : Game) : Prop where
  /-- So it is with the pieces. -/
  pieces : v.pieces = [] ∨ v.pieces.map (·.1) = g.pieces.map Entity.id
  /-- So it is with the obstacles. -/
  obstacles : v.obstacles = [] ∨ v.obstacles.map (·.1) = g.obstacles.map Entity.id

/-- Records noted under ids of entities, when none of them or all of them are known. -/
theorem noteAll_eq {α : Type} {ys xs : List (MessageId × α)}
    (hids : ys = [] ∨ ys.map (·.1) = xs.map (·.1)) (hassigned : ∀ x ∈ xs, x.1.isAssigned = true)
    (hnodup : (xs.map (·.1)).Nodup) : noteAll xs ys = xs := by
  rcases hids with rfl | hids
  · exact noteAll_of_fresh hnodup
  · exact noteAll_of_known hids hassigned hnodup

/-- Reports of pieces are noted among the pieces, one after the other. -/
theorem View.foldl_pieces (v : View) (ps : List Piece) :
    (ps.map Piece.report).foldl View.receive v =
      { v with pieces := noteAll (ps.map fun p => (Entity.id p, p.state)) v.pieces } := by
  induction ps generalizing v with
  | nil => rfl
  | cons p ps ih =>
    have hstep : v.receive p.report = { v with pieces := note (Entity.id p) p.state v.pieces } := by
      rw [View.receive, Piece.news_report]
      rfl
    rw [List.map_cons, List.foldl_cons, hstep, ih]
    rfl

/-- Reports of obstacles are noted among the obstacles, one after the other. -/
theorem View.foldl_obstacles (v : View) (os : List Obstacle) :
    (os.map Obstacle.report).foldl View.receive v =
      { v with obstacles := noteAll (os.map fun o => (Entity.id o, o.state)) v.obstacles } := by
  induction os generalizing v with
  | nil => rfl
  | cons o os ih =>
    have hstep : v.receive o.report =
        { v with obstacles := note (Entity.id o) o.state v.obstacles } := by
      rw [View.receive, Obstacle.news_report]
      rfl
    rw [List.map_cons, List.foldl_cons, hstep, ih]
    rfl

/-- **A synchronization brings a view up to date**, if it knows nothing yet or exactly the ids of the
game. It does not touch the player. -/
theorem View.foldl_reports {v : View} {g : Game} (hg : g.Identified) (hv : v.FitsIds g) :
    g.reports.foldl View.receive v = { g.view with ownPlayer := v.ownPlayer } := by
  have hnodup := List.nodup_append.1 hg.nodup
  have hpieces : noteAll (g.pieces.map fun p => (Entity.id p, p.state)) v.pieces =
      g.pieces.map fun p => (Entity.id p, p.state) := by
    refine noteAll_eq (hv.pieces.imp_right fun h => h.trans g.ids_view_pieces.symm)
      (fun x hx => ?_) (g.ids_view_pieces ▸ hnodup.1)
    obtain ⟨p, hp, rfl⟩ := List.mem_map.1 hx
    exact hg.assigned _ (List.mem_append_left _ (List.mem_map_of_mem hp))
  have hobstacles : noteAll (g.obstacles.map fun o => (Entity.id o, o.state)) v.obstacles =
      g.obstacles.map fun o => (Entity.id o, o.state) := by
    refine noteAll_eq (hv.obstacles.imp_right fun h => h.trans g.ids_view_obstacles.symm)
      (fun x hx => ?_) (g.ids_view_obstacles ▸ hnodup.2.1)
    obtain ⟨o, ho, rfl⟩ := List.mem_map.1 hx
    exact hg.assigned _ (List.mem_append_right _ (List.mem_map_of_mem ho))
  rw [Game.reports, List.foldl_append, View.foldl_pieces, View.foldl_obstacles, hpieces, hobstacles]
  rfl

/-- **A welcome brings any view up to date**: the greeting takes away what it showed, and the
synchronization that follows shows the game. -/
theorem View.foldl_welcome (v : View) {g : Game} (hg : g.Identified) (p : Profile) :
    (p.greeting :: g.reports).foldl View.receive v = { g.view with ownPlayer := p.player } := by
  have hgreeted : v.receive p.greeting = { ownPlayer := p.player } := by
    rw [View.receive, Profile.news_greeting]
  rw [List.foldl_cons, hgreeted, View.foldl_reports hg ⟨.inl rfl, .inl rfl⟩]

end Pursuit
