import Mathlib.Data.List.Nodup
import Pursuit.Game.Station
import Pursuit.Proofs.Contents

/-! # Handlers and the entities they lead to

An endpoint's handlers and its game are two records of the same thing: each entity with an id of its
own has one handler, which leads to it by its key, and beyond these there are only the handlers for
reserved ids. This file states that as an invariant and carries it through everything a station does
to its entities.

* **`Game.routes`** — the handlers that the entities of a game ask for.
* **`Station.Wired`** — the handlers for ids of entities are exactly these, once each.
* **`Station.Wired.reset`, `Station.Wired.addPiece`, `Station.Wired.congr`** — what keeps it. -/

namespace Pursuit

/-! ## Handlers without their numbers -/

/-- Where a handler listens and what it does. -/
def Handler.route {α : Type} (h : Handler α) : ContentType × MessageId × α :=
  (h.type, h.id, h.action)

namespace Replication

variable {α : Type}

/-- The handler that an entity asks for: all messages under its id, if the id is one of its own. -/
def routes (f : Nat → α) (r : Replication) : List (ContentType × MessageId × α) :=
  if r.handles r.id then [(.allTypes, r.id, f r.key)] else []

/-- The handlers that entities ask for are those that one of them asks for. -/
theorem mem_flatMap_routes {f : Nat → α} {rs : List Replication}
    {x : ContentType × MessageId × α} :
    x ∈ rs.flatMap (routes f) ↔ ∃ r ∈ rs, r.handles r.id = true ∧ x = (.allTypes, r.id, f r.key) := by
  simp only [List.mem_flatMap, routes]
  refine exists_congr fun r => and_congr_right fun _ => ?_
  by_cases h : r.handles r.id = true <;> simp [h]

/-! ## What retiring and assigning do to the handlers -/

/-- Handlers are asked for under ids of entities only. -/
theorem isAssigned_of_handles {r : Replication} {id : MessageId} (h : r.handles id = true) :
    id.isAssigned = true := by
  simp only [handles, Bool.and_eq_true] at h
  exact h.1

/-- An entity that goes gives no id back. -/
@[simp] theorem ids_retire (r : Replication) (hub : Hub α) : (r.retire hub).ids = hub.ids := by
  unfold retire; split <;> rfl

/-- An entity that goes takes the handlers for its id with it. -/
theorem handlers_retire (r : Replication) (hub : Hub α) :
    (r.retire hub).registry.handlers =
      hub.registry.handlers.filter fun h => !(r.handles r.id && h.id = r.id) := by
  unfold retire
  by_cases hr : r.handles r.id = true
  · simp [hr]
  · rw [if_neg hr]
    simp [hr]

/-- Retiring entities one after the other removes the handlers for all their ids. -/
theorem handlers_foldl_retire (rs : List Replication) (hub : Hub α) :
    (rs.foldl (fun hub r => r.retire hub) hub).registry.handlers =
      hub.registry.handlers.filter fun h => rs.all fun r => !(r.handles r.id && h.id = r.id) := by
  induction rs generalizing hub with
  | nil => simp
  | cons r rs ih =>
    rw [List.foldl_cons, ih, handlers_retire, List.filter_filter]
    refine List.filter_congr fun h _ => ?_
    rw [List.all_cons, Bool.and_comm]

/-- An entity that is assigned an id has it, and is as it was otherwise. -/
@[simp] theorem assign_fst (r : Replication) (id : MessageId) (action : α) (hub : Hub α) :
    (r.assign id action hub).1 = { r with id := id } := by
  unfold assign
  by_cases h : r.id = id
  · subst h
    rw [if_pos rfl]
  · rw [if_neg h]

/-- Assigning an id takes none from those that are given out. -/
@[simp] theorem ids_assign (r : Replication) (id : MessageId) (action : α) (hub : Hub α) :
    (r.assign id action hub).2.ids = hub.ids := by
  unfold assign
  by_cases h : r.id = id
  · rw [if_pos h]
  · rw [if_neg h]
    by_cases hr : r.handles id = true <;> simp [hr]

/-- The handler that is installed for an entity when it is given its id, under a number. -/
def newHandlers (r : Replication) (n : UInt64) (action : α) : List (Handler α) :=
  if r.handles r.id then [⟨n, .allTypes, r.id, action⟩] else []

/-- The handler that is installed for an entity is the one that it asks for. -/
theorem map_route_newHandlers (r : Replication) (n : UInt64) (f : Nat → α) :
    ((r.newHandlers n (f r.key)).filter (·.id.isAssigned)).map Handler.route = r.routes f := by
  unfold newHandlers routes
  by_cases h : r.handles r.id = true
  · simp [h, isAssigned_of_handles h, Handler.route]
  · simp [h]

/-- No entity brings a handler for a reserved id. -/
@[simp] theorem newHandlers_filter_reserved (r : Replication) (n : UInt64) (action : α) :
    (r.newHandlers n action).filter (fun h => !h.id.isAssigned) = [] := by
  unfold newHandlers
  by_cases h : r.handles r.id = true
  · simp [h, isAssigned_of_handles h]
  · simp [h]

/-- **Another id** removes the handlers for the old one and adds the entity's handler at the end. -/
theorem handlers_assign_of_ne {r : Replication} {id : MessageId} (hne : r.id ≠ id) (action : α)
    (hub : Hub α) :
    (r.assign id action hub).2.registry.handlers =
      (hub.registry.handlers.filter fun h => !(r.handles r.id && h.id = r.id)) ++
        { r with id := id }.newHandlers hub.registry.nextNumber action := by
  have hnumber : (r.retire hub).registry.nextNumber = hub.registry.nextNumber := by
    unfold retire; split <;> rfl
  unfold assign newHandlers
  rw [if_neg hne, ← handlers_retire, ← hnumber]
  by_cases hr : r.handles id = true
  · simp [hr, show ({ r with id := id } : Replication).handles id = true from hr]
  · simp [hr, show ({ r with id := id } : Replication).handles id = false from
      Bool.eq_false_iff.2 hr]

/-- An entity's first id adds its handler at the end. -/
theorem handlers_assign {r : Replication} (hreserved : r.id.isAssigned = false) (id : MessageId)
    (action : α) (hub : Hub α) :
    (r.assign id action hub).2.registry.handlers =
      hub.registry.handlers ++
        { r with id := id }.newHandlers hub.registry.nextNumber action := by
  -- An entity with a reserved id has no handler that could be removed.
  have hhandles : r.handles r.id = false := by rw [handles, hreserved, Bool.false_and]
  by_cases h : r.id = id
  · subst h
    unfold assign newHandlers
    simp [hhandles]
  · rw [handlers_assign_of_ne h]
    simp [hhandles]

/-- On an endpoint an entity is given the next id there is. -/
theorem generate_of_attached {r : Replication} (hattached : r.link.isAttached = true) (action : α)
    (hub : Hub α) :
    r.generate action hub =
      (some hub.ids.next.1, { r with id := hub.ids.next.1 },
        (r.assign hub.ids.next.1 action { hub with ids := hub.ids.next.2 }).2) := by
  rw [generate, if_pos hattached, ← assign_fst r hub.ids.next.1 action { hub with ids := hub.ids.next.2 }]

end Replication

/-- A piece as it is when a station has given it a key and an id. -/
def Piece.entered (p : Piece) (key : Nat) (id : MessageId) : Piece :=
  { p with replication := { p.replication with key := key, id := id } }

/-- An obstacle as it is when a station has given it a key and an id. -/
def Obstacle.entered (o : Obstacle) (key : Nat) (id : MessageId) : Obstacle :=
  { o with replication := { o.replication with key := key, id := id } }

/-! ## Games and their handlers -/

namespace Game

/-- The bookkeeping of the pieces. -/
def pieceBooks (g : Game) : List Replication := g.pieces.map (·.replication)

/-- The bookkeeping of the obstacles. -/
def obstacleBooks (g : Game) : List Replication := g.obstacles.map (·.replication)

/-- The handlers that the entities of a game ask for. -/
def routes (g : Game) : List (ContentType × MessageId × Action) :=
  g.pieceBooks.flatMap (Replication.routes .updatePiece) ++
    g.obstacleBooks.flatMap (Replication.routes .updateObstacle)

/-- The handlers that lead to pieces are for all messages under the ids of pieces. -/
theorem updatePiece_mem_routes {g : Game} {t : ContentType} {id : MessageId} {key : Nat} :
    (t, id, Action.updatePiece key) ∈ g.routes ↔
      ∃ r ∈ g.pieceBooks, r.handles r.id = true ∧ t = .allTypes ∧ id = r.id ∧ key = r.key := by
  rw [routes, List.mem_append, Replication.mem_flatMap_routes, Replication.mem_flatMap_routes]
  simp

/-- The handlers that lead to obstacles are for all messages under the ids of obstacles. -/
theorem updateObstacle_mem_routes {g : Game} {t : ContentType} {id : MessageId} {key : Nat} :
    (t, id, Action.updateObstacle key) ∈ g.routes ↔
      ∃ r ∈ g.obstacleBooks, r.handles r.id = true ∧ t = .allTypes ∧ id = r.id ∧ key = r.key := by
  rw [routes, List.mem_append, Replication.mem_flatMap_routes, Replication.mem_flatMap_routes]
  simp

/-- Two games with the same bookkeeping, whatever their entities are like. -/
structure SameBooks (g g' : Game) : Prop where
  /-- They are on the same kind of endpoint. -/
  link : g'.link = g.link
  /-- They have the same pieces. -/
  pieces : g'.pieceBooks = g.pieceBooks
  /-- They have the same obstacles. -/
  obstacles : g'.obstacleBooks = g.obstacleBooks

/-- A game has its own bookkeeping. -/
theorem SameBooks.refl (g : Game) : g.SameBooks g := ⟨rfl, rfl, rfl⟩

/-- Bookkeeping that stays the same twice stays the same. -/
theorem SameBooks.trans {g g' g'' : Game} (h : g.SameBooks g') (h' : g'.SameBooks g'') :
    g.SameBooks g'' :=
  ⟨h'.link.trans h.link, h'.pieces.trans h.pieces, h'.obstacles.trans h.obstacles⟩

end Game

/-- An entity of a station: it is on the station's endpoint, its key was given out by the station,
and it has registered its one record. -/
structure Replication.BelongsTo (r : Replication) (link : Link) (nextKey : Nat)
    (registrations : List Registration) : Prop where
  /-- It is on the endpoint. -/
  link : r.link = link
  /-- Its key was given out before. -/
  key_lt : r.key < nextKey
  /-- It replicates its one record. -/
  registrations : r.registrations = registrations

/-- The next key is one that no entity has. -/
theorem Replication.nodup_keys_append {rs : List Replication} {r : Replication} {link : Link}
    {nextKey : Nat} {registrations : List Registration}
    (hrs : ∀ r ∈ rs, r.BelongsTo link nextKey registrations) (hkey : r.key = nextKey)
    (hnodup : (rs.map (·.key)).Nodup) : ((rs ++ [r]).map (·.key)).Nodup := by
  rw [List.map_append, List.nodup_append]
  refine ⟨hnodup, List.nodup_singleton _, fun a ha b hb hab => ?_⟩
  obtain ⟨r', hr', rfl⟩ := List.mem_map.1 ha
  rw [List.map_singleton, List.mem_singleton] at hb
  have := (hrs r' hr').key_lt
  omega

/-- An entity of a station stays one when more keys are given out. -/
theorem Replication.BelongsTo.mono {r : Replication} {link : Link} {n n' : Nat}
    {registrations : List Registration} (h : r.BelongsTo link n registrations) (hn : n ≤ n') :
    r.BelongsTo link n' registrations :=
  ⟨h.link, Nat.lt_of_lt_of_le h.key_lt hn, h.registrations⟩

/-- If nobody else holds a piece, letting all entities go clears the game and retires them. -/
theorem Station.reset_eq_of_holds {g : Game} {s : Station} (hgame : s.game = some g)
    (hholds : s.holds = []) :
    s.reset = { s with
      game := some g.cleared
      hub := (g.pieceBooks ++ g.obstacleBooks).foldl (fun hub r => r.retire hub) s.hub } := by
  -- Nobody holds a piece, so letting go of it retires it.
  have hpieces (ps : List Piece) (t : Station) (ht : t.holds = []) :
      ps.foldl Station.letGo t =
        { t with hub := (ps.map (·.replication)).foldl (fun hub r => r.retire hub) t.hub } := by
    induction ps generalizing t with
    | nil => rfl
    | cons p ps ih =>
      have hgo : t.letGo p = { t with hub := p.replication.retire t.hub } := by
        simp [Station.letGo, ht]
      rw [List.foldl_cons, hgo, ih _ (by simpa using ht)]
      rfl
  have hobstacles (os : List Obstacle) (t : Station) :
      os.foldl (fun s o => { s with hub := o.replication.retire s.hub }) t =
        { t with hub := (os.map (·.replication)).foldl (fun hub r => r.retire hub) t.hub } := by
    induction os generalizing t with
    | nil => rfl
    | cons o os ih =>
      rw [List.foldl_cons, ih]
      rfl
  rw [Station.reset, hgame]
  simp only
  rw [hpieces _ _ (by simpa using hholds), hobstacles, List.foldl_append]
  rfl

/-- **A station whose handlers and entities agree.** Nobody holds a piece but the game, the handlers
for reserved ids are the given ones, and every entity with an id of its own has exactly one handler,
which leads to it. -/
structure Station.Wired (reserved : List (Handler Action)) (g : Game) (s : Station) : Prop where
  /-- The game is there. -/
  game : s.game = some g
  /-- Nobody holds a piece. -/
  holds : s.holds = []
  /-- Nobody has kept a piece. -/
  kept : s.kept = []
  /-- The game is on an endpoint. -/
  attached : g.link.isAttached = true
  /-- The pieces are the station's. -/
  pieces : ∀ r ∈ g.pieceBooks, r.BelongsTo g.link s.nextKey Piece.registrations
  /-- The obstacles are the station's. -/
  obstacles : ∀ r ∈ g.obstacleBooks, r.BelongsTo g.link s.nextKey Obstacle.registrations
  /-- No two pieces share a key. -/
  pieceKeys : (g.pieceBooks.map (·.key)).Nodup
  /-- No two obstacles share a key. -/
  obstacleKeys : (g.obstacleBooks.map (·.key)).Nodup
  /-- The handlers for reserved ids. -/
  reserved : s.hub.registry.handlers.filter (fun h => !h.id.isAssigned) = reserved
  /-- The handlers for ids of entities. -/
  routes : ((s.hub.registry.handlers.filter (·.id.isAssigned)).map Handler.route).Perm g.routes

namespace Station.Wired

variable {reserved : List (Handler Action)} {g g' : Game} {s : Station}

/-- The invariant sees the bookkeeping of the entities only. -/
theorem congr (hw : Wired reserved g s) (hg : g.SameBooks g') :
    Wired reserved g' { s with game := some g' } where
  game := rfl
  holds := hw.holds
  kept := hw.kept
  attached := by rw [hg.link]; exact hw.attached
  pieces := by rw [hg.pieces, hg.link]; exact hw.pieces
  obstacles := by rw [hg.obstacles, hg.link]; exact hw.obstacles
  pieceKeys := by rw [hg.pieces]; exact hw.pieceKeys
  obstacleKeys := by rw [hg.obstacles]; exact hw.obstacleKeys
  reserved := hw.reserved
  routes := by rw [Game.routes, hg.pieces, hg.obstacles]; exact hw.routes

/-- A change to the game that keeps the bookkeeping keeps handlers and entities in agreement. -/
theorem mapGame (hw : Wired reserved g s) {f : Game → Game} (hg : g.SameBooks (f g)) :
    Wired reserved (f g) (s.mapGame f) := by
  have h := hw.congr hg
  rwa [Station.mapGame, hw.game, Option.map_some]

/-! ### A new entity -/

/-- A piece that joins the game with its handler, under a key that the station has not given out. -/
theorem appendPiece (hw : Wired reserved g s) {p : Piece} {hub : Hub Action} {n : UInt64}
    (hbelongs : p.replication.BelongsTo g.link (s.nextKey + 1) Piece.registrations)
    (hkey : p.replication.key = s.nextKey)
    (hhub : hub.registry.handlers = s.hub.registry.handlers ++
      p.replication.newHandlers n (.updatePiece s.nextKey)) :
    Wired reserved { g with pieces := g.pieces ++ [p] }
      { s with hub := hub, nextKey := s.nextKey + 1,
               game := some { g with pieces := g.pieces ++ [p] } } where
  game := rfl
  holds := hw.holds
  kept := hw.kept
  attached := hw.attached
  pieces := by
    simp only [Game.pieceBooks, List.map_append, List.forall_mem_append, List.map_cons, List.map_nil,
      List.forall_mem_singleton]
    exact ⟨fun r hr => (hw.pieces r hr).mono (Nat.le_succ _), hbelongs⟩
  obstacles := fun r hr => (hw.obstacles r hr).mono (Nat.le_succ _)
  pieceKeys := by
    rw [Game.pieceBooks, List.map_append]
    exact Replication.nodup_keys_append hw.pieces hkey hw.pieceKeys
  obstacleKeys := hw.obstacleKeys
  reserved := by
    rw [hhub, List.filter_append, Replication.newHandlers_filter_reserved, List.append_nil]
    exact hw.reserved
  routes := by
    rw [hhub, List.filter_append, List.map_append, ← hkey, Replication.map_route_newHandlers]
    simp only [Game.routes, Game.pieceBooks, Game.obstacleBooks, List.map_append,
      List.flatMap_append, List.map_cons, List.map_nil, List.flatMap_cons, List.flatMap_nil,
      List.append_nil, List.append_assoc]
    -- The handler stands behind those of the obstacles, the piece before the obstacles.
    refine (hw.routes.append_right _).trans ?_
    rw [Game.routes, List.append_assoc]
    exact List.perm_append_comm.append_left _

/-- An obstacle that joins the game likewise. -/
theorem appendObstacle (hw : Wired reserved g s) {o : Obstacle} {hub : Hub Action} {n : UInt64}
    (hbelongs : o.replication.BelongsTo g.link (s.nextKey + 1) Obstacle.registrations)
    (hkey : o.replication.key = s.nextKey)
    (hhub : hub.registry.handlers = s.hub.registry.handlers ++
      o.replication.newHandlers n (.updateObstacle s.nextKey)) :
    Wired reserved { g with obstacles := g.obstacles ++ [o] }
      { s with hub := hub, nextKey := s.nextKey + 1,
               game := some { g with obstacles := g.obstacles ++ [o] } } where
  game := rfl
  holds := hw.holds
  kept := hw.kept
  attached := hw.attached
  pieces := fun r hr => (hw.pieces r hr).mono (Nat.le_succ _)
  obstacles := by
    simp only [Game.obstacleBooks, List.map_append, List.forall_mem_append, List.map_cons,
      List.map_nil, List.forall_mem_singleton]
    exact ⟨fun r hr => (hw.obstacles r hr).mono (Nat.le_succ _), hbelongs⟩
  pieceKeys := hw.pieceKeys
  obstacleKeys := by
    rw [Game.obstacleBooks, List.map_append]
    -- All keys so far are below the next one.
    exact Replication.nodup_keys_append hw.obstacles hkey hw.obstacleKeys
  reserved := by
    rw [hhub, List.filter_append, Replication.newHandlers_filter_reserved, List.append_nil]
    exact hw.reserved
  routes := by
    rw [hhub, List.filter_append, List.map_append, ← hkey, Replication.map_route_newHandlers]
    simp only [Game.routes, Game.pieceBooks, Game.obstacleBooks, List.map_append,
      List.flatMap_append, List.map_cons, List.map_nil, List.flatMap_cons, List.flatMap_nil,
      List.append_nil, ← List.append_assoc]
    exact hw.routes.append_right _

/-- A piece that has no id yet joins the game under the next one. -/
theorem addPiece (hw : Wired reserved g s) {p : Piece} (hlink : p.replication.link = g.link)
    (hregistered : p.replication.registrations = Piece.registrations)
    (hnone : p.replication.id = .none) :
    Wired reserved { g with pieces := g.pieces ++ [p.entered s.nextKey s.hub.ids.next.1] }
      (s.addPiece p) ∧ (s.addPiece p).hub.ids = s.hub.ids.next.2 := by
  have hattached : ({ p.replication with key := s.nextKey } : Replication).link.isAttached = true := by
    rw [show ({ p.replication with key := s.nextKey } : Replication).link = g.link from hlink]
    exact hw.attached
  rw [Station.addPiece]
  simp only [Replication.generate_of_attached hattached, Station.mapGame, hw.game, Option.map_some]
  exact ⟨hw.appendPiece (p := p.entered s.nextKey s.hub.ids.next.1)
    ⟨hlink, Nat.lt_succ_self _, hregistered⟩ rfl
    (Replication.handlers_assign (r := { p.replication with key := s.nextKey })
      (by rw [hnone, MessageId.isAssigned_none]) _ _ _),
    Replication.ids_assign _ _ _ _⟩

/-- An obstacle that has no id yet joins the game under the next one. -/
theorem addObstacle (hw : Wired reserved g s) {o : Obstacle} (hlink : o.replication.link = g.link)
    (hregistered : o.replication.registrations = Obstacle.registrations)
    (hnone : o.replication.id = .none) :
    Wired reserved { g with obstacles := g.obstacles ++ [o.entered s.nextKey s.hub.ids.next.1] }
      (s.addObstacle o) ∧ (s.addObstacle o).hub.ids = s.hub.ids.next.2 := by
  have hattached : ({ o.replication with key := s.nextKey } : Replication).link.isAttached = true := by
    rw [show ({ o.replication with key := s.nextKey } : Replication).link = g.link from hlink]
    exact hw.attached
  rw [Station.addObstacle]
  simp only [Replication.generate_of_attached hattached, Station.mapGame, hw.game, Option.map_some]
  exact ⟨hw.appendObstacle (o := o.entered s.nextKey s.hub.ids.next.1)
    ⟨hlink, Nat.lt_succ_self _, hregistered⟩ rfl
    (Replication.handlers_assign (r := { o.replication with key := s.nextKey })
      (by rw [hnone, MessageId.isAssigned_none]) _ _ _),
    Replication.ids_assign _ _ _ _⟩

/-! ### No entities -/

/-- **Letting all entities go** clears the game and retires what belonged to it. -/
theorem reset_eq (hw : Wired reserved g s) :
    s.reset = { s with
      game := some g.cleared
      hub := (g.pieceBooks ++ g.obstacleBooks).foldl (fun hub r => r.retire hub) s.hub } :=
  Station.reset_eq_of_holds hw.game hw.holds

/-- A handler for an entity's id goes when the entities go. -/
theorem filter_assigned_retired (hw : Wired reserved g s) :
    (((g.pieceBooks ++ g.obstacleBooks).foldl (fun hub r => r.retire hub)
      s.hub).registry.handlers.filter (·.id.isAssigned)) = [] := by
  rw [Replication.handlers_foldl_retire, List.filter_filter, List.filter_eq_nil_iff]
  intro h hmem hcon
  simp only [Bool.and_eq_true, List.all_eq_true] at hcon
  obtain ⟨hassigned, hall⟩ := hcon
  -- The handler is one that an entity asked for, and that entity has been retired.
  have hroute : h.route ∈ g.routes :=
    hw.routes.mem_iff.1 (List.mem_map_of_mem (List.mem_filter.2 ⟨hmem, hassigned⟩))
  obtain ⟨r, hr, hhandles, hid⟩ : ∃ r ∈ g.pieceBooks ++ g.obstacleBooks,
      r.handles r.id = true ∧ h.id = r.id := by
    rw [Game.routes, List.mem_append, Replication.mem_flatMap_routes,
      Replication.mem_flatMap_routes] at hroute
    rcases hroute with ⟨r, hr, hhandles, heq⟩ | ⟨r, hr, hhandles, heq⟩
    · exact ⟨r, List.mem_append_left _ hr, hhandles, congrArg (·.2.1) heq⟩
    · exact ⟨r, List.mem_append_right _ hr, hhandles, congrArg (·.2.1) heq⟩
  simpa [hhandles, hid] using hall r hr

/-- **Without its entities a station has the handlers for reserved ids and no others.** -/
theorem reset (hw : Wired reserved g s) : Wired reserved g.cleared s.reset := by
  rw [hw.reset_eq]
  exact {
    game := rfl
    holds := hw.holds
    kept := hw.kept
    attached := hw.attached
    pieces := fun r hr => absurd hr List.not_mem_nil
    obstacles := fun r hr => absurd hr List.not_mem_nil
    pieceKeys := List.nodup_nil
    obstacleKeys := List.nodup_nil
    reserved := by
      -- Retiring an entity only removes handlers under the entity's own id.
      refine Eq.trans ?_ hw.reserved
      rw [Replication.handlers_foldl_retire, List.filter_filter]
      refine List.filter_congr fun h _ => ?_
      cases hassigned : h.id.isAssigned with
      | true => rfl
      | false =>
        rw [Bool.not_false, Bool.true_and, List.all_eq_true]
        intro r _
        by_cases hhandles : r.handles r.id = true
        · have hne : h.id ≠ r.id := fun hid => by
            rw [hid, Replication.isAssigned_of_handles hhandles] at hassigned
            cases hassigned
          simp [hne]
        · simp [hhandles]
    routes := by rw [hw.filter_assigned_retired]; exact List.Perm.nil }

/-- A station whose entities ask for no handlers has those for reserved ids and no others. -/
theorem handlers_eq_of_no_route (hw : Wired reserved g s) (hroutes : g.routes = []) :
    s.hub.registry.handlers = reserved := by
  have hassigned : s.hub.registry.handlers.filter (·.id.isAssigned) = [] := by
    have hperm := hw.routes
    rw [hroutes] at hperm
    exact List.map_eq_nil_iff.1 hperm.eq_nil
  have hall : ∀ h ∈ s.hub.registry.handlers, (!h.id.isAssigned) = true := by
    intro h hh
    simpa using List.filter_eq_nil_iff.1 hassigned h hh
  exact (List.filter_eq_self.2 hall).symm.trans hw.reserved

end Station.Wired

end Pursuit
