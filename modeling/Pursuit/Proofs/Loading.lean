import Pursuit.Proofs.Allocation
import Pursuit.Proofs.Wiring

/-! # Levels come with ids of their own

* **`Game.Identified`** — all entities have ids of their own, no two the same.
* **`Station.Wired.foldl_addPiece`, `Station.Wired.foldl_addObstacle`** — entities that join one after
  the other get the ids of the counter one after the other.
* **`Station.Wired.load`** — a level keeps handlers and entities in agreement, and its entities are
  identified. -/

namespace Pursuit

/-- An entity as it is before it joins a game: it has registered its record and has no id. -/
structure Replication.Unplaced (r : Replication) (link : Link) (registrations : List Registration) :
    Prop where
  /-- It is meant for the endpoint. -/
  link : r.link = link
  /-- It has registered its record. -/
  registrations : r.registrations = registrations
  /-- It has no id. -/
  id : r.id = .none

namespace Game

/-- The ids of all entities. -/
def ids (g : Game) : List MessageId := g.pieces.map Entity.id ++ g.obstacles.map Entity.id

/-- Every entity has an id of its own. -/
structure Identified (g : Game) : Prop where
  /-- They are not reserved ones. -/
  assigned : ∀ id ∈ g.ids, id.isAssigned = true
  /-- No two entities share one. -/
  nodup : g.ids.Nodup

/-- The ids of pieces are in their bookkeeping. -/
theorem ids_pieceBooks (g : Game) : g.pieceBooks.map (·.id) = g.pieces.map Entity.id := by
  rw [pieceBooks, List.map_map]
  rfl

/-- The ids of obstacles are in their bookkeeping. -/
theorem ids_obstacleBooks (g : Game) :
    g.obstacleBooks.map (·.id) = g.obstacles.map Entity.id := by
  rw [obstacleBooks, List.map_map]
  rfl

/-- Pieces with the same bookkeeping have the same ids. -/
theorem SameBooks.pieceIds {g g' : Game} (h : g.SameBooks g') :
    g'.pieces.map Entity.id = g.pieces.map Entity.id := by
  rw [← ids_pieceBooks, ← ids_pieceBooks, h.pieces]

/-- Obstacles with the same bookkeeping have the same ids. -/
theorem SameBooks.obstacleIds {g g' : Game} (h : g.SameBooks g') :
    g'.obstacles.map Entity.id = g.obstacles.map Entity.id := by
  rw [← ids_obstacleBooks, ← ids_obstacleBooks, h.obstacles]

/-- Games with the same bookkeeping have the same ids. -/
theorem SameBooks.ids {g g' : Game} (h : g.SameBooks g') : g'.ids = g.ids := by
  rw [Game.ids, Game.ids, h.pieceIds, h.obstacleIds]

/-- Whether entities have ids of their own is a matter of the bookkeeping. -/
theorem SameBooks.identified {g g' : Game} (h : g.SameBooks g') (hg : g.Identified) :
    g'.Identified := by
  constructor
  · rw [h.ids]
    exact hg.assigned
  · rw [h.ids]
    exact hg.nodup

/-- Where there are no entities, none is without an id of its own. -/
theorem identified_of_no_entity {g : Game} (hp : g.pieces = []) (ho : g.obstacles = []) :
    g.Identified := by
  have hids : g.ids = [] := by rw [ids, hp, ho]; rfl
  constructor
  · rw [hids]
    exact fun id hid => absurd hid List.not_mem_nil
  · rw [hids]
    exact List.nodup_nil

end Game

namespace Station

/-- The pieces that a level begins with have neither a key nor an id yet. -/
theorem unplaced_of_mem_piecesOf {link : Link} {level : Level} {p : Piece}
    (hp : p ∈ piecesOf link level) : p.replication.Unplaced link Piece.registrations := by
  have hside (owner : PlayerId) (hunting : Bool) (places : List Vec)
      (hp : p ∈ side link owner hunting places) :
      p.replication.Unplaced link Piece.registrations := by
    obtain ⟨x, _, rfl⟩ := List.mem_map.1 hp
    exact ⟨rfl, rfl, rfl⟩
  rcases List.mem_append.1 hp with hp | hp
  · exact hside _ _ _ hp
  · exact hside _ _ _ hp

/-- The obstacles that a level begins with have neither a key nor an id yet. -/
theorem unplaced_of_mem_obstaclesOf {link : Link} {level : Level} {o : Obstacle}
    (ho : o ∈ obstaclesOf link level) : o.replication.Unplaced link Obstacle.registrations := by
  obtain ⟨x, _, rfl⟩ := List.mem_map.1 ho
  exact ⟨rfl, rfl, rfl⟩

/-- No level has more entities than there are ids. -/
theorem entities_le_count (link : Link) (number : UInt32) :
    (piecesOf link (Level.number number)).length +
      (obstaclesOf link (Level.number number)).length ≤ MessageId.count := by
  have hlength (level : Level) : (piecesOf link level).length + (obstaclesOf link level).length =
      level.prey.length + level.hunters.length + level.obstacles.length := by
    simp [piecesOf, side, obstaclesOf]
  rw [hlength]
  unfold Level.number
  split
  · decide
  · split
    · decide
    · split
      · decide
      · split <;> decide

namespace Wired

variable {reserved : List (Handler Action)} {g : Game} {s : Station}

/-- **Pieces that join one after the other** get the counter's ids one after the other. -/
theorem foldl_addPiece (hw : Wired reserved g s) {ps : List Piece}
    (hps : ∀ p ∈ ps, p.replication.Unplaced g.link Piece.registrations) :
    ∃ ps' : List Piece,
      Wired reserved { g with pieces := g.pieces ++ ps' } (ps.foldl Station.addPiece s) ∧
        ps'.map Entity.id = (s.hub.ids.take ps.length).1 ∧
        (ps.foldl Station.addPiece s).hub.ids = (s.hub.ids.take ps.length).2 := by
  -- Each piece takes an id from the counter, so game and station vary.
  induction ps generalizing g s with
  | nil =>
    refine ⟨[], ?_, rfl, rfl⟩
    rw [List.append_nil]
    exact hw
  | cons p ps ih =>
    have hp := hps p List.mem_cons_self
    obtain ⟨hw', hids'⟩ := hw.addPiece hp.link hp.registrations hp.id
    obtain ⟨ps', hwired, hps', hids⟩ := ih hw' fun q hq => hps q (List.mem_cons_of_mem _ hq)
    refine ⟨p.entered s.nextKey s.hub.ids.next.1 :: ps', ?_, ?_, ?_⟩
    · rw [List.append_cons]
      exact hwired
    · rw [List.map_cons, hps', hids']
      rfl
    · rw [List.foldl_cons, hids, hids']
      rfl

/-- **Obstacles that join one after the other** likewise. -/
theorem foldl_addObstacle (hw : Wired reserved g s) {os : List Obstacle}
    (hos : ∀ o ∈ os, o.replication.Unplaced g.link Obstacle.registrations) :
    ∃ os' : List Obstacle,
      Wired reserved { g with obstacles := g.obstacles ++ os' } (os.foldl Station.addObstacle s) ∧
        os'.map Entity.id = (s.hub.ids.take os.length).1 := by
  induction os generalizing g s with
  | nil =>
    refine ⟨[], ?_, rfl⟩
    rw [List.append_nil]
    exact hw
  | cons o os ih =>
    have ho := hos o List.mem_cons_self
    obtain ⟨hw', hids'⟩ := hw.addObstacle ho.link ho.registrations ho.id
    obtain ⟨os', hwired, hos'⟩ := ih hw' fun q hq => hos q (List.mem_cons_of_mem _ hq)
    refine ⟨o.entered s.nextKey s.hub.ids.next.1 :: os', ?_, ?_⟩
    · rw [List.append_cons]
      exact hwired
    · rw [List.map_cons, hos', hids']
      rfl

/-- **A level comes with handlers and ids of its own.** It keeps the endpoint, the player and the
handlers that feed the game. -/
theorem load (hw : Wired reserved g s) (number : UInt32) :
    ∃ g', Wired reserved g' (s.load number) ∧ g'.Identified ∧ g'.link = g.link ∧
      g'.ownPlayer = g.ownPlayer ∧ g'.feeders = g.feeders := by
  have hpieces : ∀ p ∈ piecesOf g.link (.number number),
      p.replication.Unplaced g.cleared.link Piece.registrations :=
    fun p hp => unplaced_of_mem_piecesOf hp
  have hobstacles : ∀ o ∈ obstaclesOf g.link (.number number),
      o.replication.Unplaced g.cleared.link Obstacle.registrations :=
    fun o ho => unplaced_of_mem_obstaclesOf ho
  obtain ⟨ps', hps, hpids, hids⟩ := hw.reset.foldl_addPiece hpieces
  obtain ⟨os', hos, hoids⟩ := hps.foldl_addObstacle hobstacles
  have hload : s.load number = ((obstaclesOf g.link (.number number)).foldl Station.addObstacle
      ((piecesOf g.link (.number number)).foldl Station.addPiece s.reset)).mapGame fun g =>
        { g with phase := .loaded, level := some number } := by
    rw [Station.load, hw.reset.game]
    rfl
  have hwired := hos.mapGame (f := fun g => { g with phase := .loaded, level := some number })
    ⟨rfl, rfl, rfl⟩
  rw [hload]
  refine ⟨_, hwired, ?_, rfl, rfl, rfl⟩
  -- The obstacles' ids follow those of the pieces, so all come from one way around the counter.
  have hall : Game.ids { g.cleared with pieces := ps', obstacles := os' } =
      (s.reset.hub.ids.take ((piecesOf g.link (.number number)).length +
        (obstaclesOf g.link (.number number)).length)).1 := by
    rw [IdAllocator.take_add, Game.ids, hpids, hoids, hids]
  have hidentified : Game.Identified { g.cleared with pieces := ps', obstacles := os' } := by
    constructor
    · rw [hall]
      exact fun id hid => IdAllocator.isAssigned_of_mem_take hid
    · rw [hall]
      exact IdAllocator.nodup_take (entities_le_count g.link number) _
  exact ⟨hidentified.assigned, hidentified.nodup⟩

end Wired

end Station

end Pursuit
