import Pursuit.Proofs.Telling

/-! # A game that follows what it is told

A follower's game is built by three handlers for all ids and one handler for each entity, which come
and go while messages are dispatched. Seen from outside it is much simpler: a list of records by ids
for the pieces, another for the obstacles, and a player.

* **`Message.news`** — what a message tells a follower.
* **`View`** — a game as a follower knows it, with **`View.receive`**, what news make of it.
* **`Station.Mirrors`** — the invariant of a follower's station.
* **`Station.Mirrors.exists_receive`** — a message that is dispatched makes of the game what its news
  make of the view.
* **`Station.Mirrors.receive_of_nothing`** — a message that tells nothing changes nothing at all. -/

namespace Pursuit

/-! ## News -/

/-- What a message tells a follower. -/
inductive News where
  /-- The state of a piece. -/
  | piece (state : PieceState)
  /-- The state of an obstacle. -/
  | obstacle (state : ObstacleState)
  /-- Which player the follower is. -/
  | greeting (greeting : Greeting)
  /-- Nothing that a follower understands. -/
  | nothing

namespace Message

/-- What a message tells a follower, whatever its id. -/
def news (m : Message) : News :=
  match (m.contents? : Option PieceState) with
  | some state => .piece state
  | none =>
    match (m.contents? : Option ObstacleState) with
    | some state => .obstacle state
    | none =>
      match (m.contents? : Option Greeting) with
      | some greeting => .greeting greeting
      | none => .nothing

variable {m : Message}

/-- A message with contents is of their type. -/
theorem type_of_contents {α : Type} [Payload α] [LawfulPayload α] {a : α}
    (h : m.contents? = some a) : m.type = Payload.type α := (contents?_eq_some_iff.1 h).1

/-- The news is of a piece exactly if the message holds the state of one. -/
theorem news_eq_piece_iff {state : PieceState} :
    m.news = .piece state ↔ m.contents? = some state := by
  unfold news
  cases (m.contents? : Option PieceState) with
  | some state' => simp
  | none =>
    cases (m.contents? : Option ObstacleState) with
    | some state' => simp
    | none => cases (m.contents? : Option Greeting) <;> simp

/-- The news is of an obstacle exactly if the message holds the state of one. -/
theorem news_eq_obstacle_iff {state : ObstacleState} :
    m.news = .obstacle state ↔ m.contents? = some state := by
  unfold news
  cases hp : (m.contents? : Option PieceState) with
  | some state' =>
    -- A message has one content type, so it cannot tell of an obstacle as well.
    have hne : m.type ≠ Payload.type ObstacleState := by
      rw [type_of_contents hp]
      decide
    simp [contents?_of_type_ne hne]
  | none =>
    cases (m.contents? : Option ObstacleState) with
    | some state' => simp
    | none => cases (m.contents? : Option Greeting) <;> simp

/-- The news is a greeting exactly if the message holds one. -/
theorem news_eq_greeting_iff {greeting : Greeting} :
    m.news = .greeting greeting ↔ m.contents? = some greeting := by
  unfold news
  cases hp : (m.contents? : Option PieceState) with
  | some state' =>
    have hne : m.type ≠ Payload.type Greeting := by
      rw [type_of_contents hp]
      decide
    simp [contents?_of_type_ne hne]
  | none =>
    cases ho : (m.contents? : Option ObstacleState) with
    | some state' =>
      have hne : m.type ≠ Payload.type Greeting := by
        rw [type_of_contents ho]
        decide
      simp [contents?_of_type_ne hne]
    | none => cases (m.contents? : Option Greeting) <;> simp

/-- There is no news exactly if the message holds nothing that a follower understands. -/
theorem news_eq_nothing_iff :
    m.news = .nothing ↔ (m.contents? : Option PieceState) = none ∧
      (m.contents? : Option ObstacleState) = none ∧ (m.contents? : Option Greeting) = none := by
  unfold news
  cases (m.contents? : Option PieceState) with
  | some state => simp
  | none =>
    cases (m.contents? : Option ObstacleState) with
    | some state => simp
    | none => cases (m.contents? : Option Greeting) <;> simp

end Message

/-! ## Views -/

/-- Records by their ids after one came in. An id that is new goes to the end. A known one takes the
record, but only if it is one of an entity: what is under a reserved id stays as it was first. -/
def note {α : Type} (id : MessageId) (a : α) (xs : List (MessageId × α)) :
    List (MessageId × α) :=
  if id ∈ xs.map (·.1) then
    if id.isAssigned then xs.map fun x => if x.1 = id then (id, a) else x else xs
  else xs ++ [(id, a)]

/-- A game as a follower knows it. -/
structure View where
  /-- The pieces, each with its id, the first heard of first. -/
  pieces : List (MessageId × PieceState) := []
  /-- The obstacles likewise. -/
  obstacles : List (MessageId × ObstacleState) := []
  /-- The player that the follower is. -/
  ownPlayer : PlayerId := .none

/-- A view after a message. -/
def View.receive (v : View) (m : Message) : View :=
  match m.news with
  | .piece state => { v with pieces := note m.id state v.pieces }
  | .obstacle state => { v with obstacles := note m.id state v.obstacles }
  | .greeting greeting => { ownPlayer := greeting.player }
  | .nothing => v

/-- What a follower knows of a game. -/
def Game.view (g : Game) : View where
  pieces := g.pieces.map fun p => (Entity.id p, p.state)
  obstacles := g.obstacles.map fun o => (Entity.id o, o.state)
  ownPlayer := g.ownPlayer

namespace Game

variable {g : Game} {id : MessageId}

/-- Every piece of a game is in its view under its id. -/
theorem id_mem_view_pieces {p : Piece} (hp : p ∈ g.pieces) :
    Entity.id p ∈ g.view.pieces.map (·.1) :=
  List.mem_map_of_mem (List.mem_map_of_mem hp)

/-- Every obstacle of a game is in its view under its id. -/
theorem id_mem_view_obstacles {o : Obstacle} (ho : o ∈ g.obstacles) :
    Entity.id o ∈ g.view.obstacles.map (·.1) :=
  List.mem_map_of_mem (List.mem_map_of_mem ho)

/-- A piece is found by an id exactly if the view knows the id. -/
theorem isSome_pieceById?_iff : (g.pieceById? id).isSome = true ↔ id ∈ g.view.pieces.map (·.1) := by
  simp [pieceById?, view]

/-- An obstacle is found by an id exactly if the view knows the id. -/
theorem isSome_obstacleById?_iff :
    (g.obstacleById? id).isSome = true ↔ id ∈ g.view.obstacles.map (·.1) := by
  simp [obstacleById?, view]

/-- The game with one more piece, as a follower creates it. -/
def withPiece (g : Game) (key : Nat) (id : MessageId) (state : PieceState) : Game :=
  { g with pieces := g.pieces ++ [{ Piece.new key g.link with state := state }.entered key id] }

/-- The game with one more obstacle, as a follower creates it. -/
def withObstacle (g : Game) (key : Nat) (id : MessageId) (state : ObstacleState) : Game :=
  { g with
    obstacles := g.obstacles ++ [{ Obstacle.new key g.link with state := state }.entered key id] }

end Game

namespace Station

/-! ## What a follower's game makes of news

Here nothing is asked of the handlers. -/

section News

variable {g : Game} {s : Station} {m : Message}

/-- A piece that is known is not discovered again. -/
theorem discoverPiece_of_known (hgame : s.game = some g) (hid : m.id ∈ g.view.pieces.map (·.1)) :
    discoverPiece m s = s := by
  simp only [discoverPiece, hgame]
  rw [if_pos (Game.isSome_pieceById?_iff.2 hid)]

/-- No piece is discovered by a message that holds the state of none. -/
theorem discoverPiece_of_none (hm : (m.contents? : Option PieceState) = none) :
    discoverPiece m s = s := by
  unfold discoverPiece
  split
  · rename_i g _
    have hnone : Entity.update? (Piece.new s.nextKey g.link) m = none := by
      rw [Piece.update?_eq rfl, hm]
      rfl
    simp [Entity.create?, hnone]
  · rfl

/-- A piece that has not been heard of joins the game under the next key. -/
theorem discoverPiece_of_new (hgame : s.game = some g) (hid : m.id ∉ g.view.pieces.map (·.1))
    {state : PieceState} (hm : m.contents? = some state) :
    discoverPiece m s = { s with
      hub := ((Piece.new s.nextKey g.link).replication.assign m.id (.updatePiece s.nextKey) s.hub).2
      nextKey := s.nextKey + 1
      game := some (g.withPiece s.nextKey m.id state) } := by
  have hcreate : Entity.create? (Piece.new s.nextKey g.link) m (.updatePiece s.nextKey) s.hub =
      some ({ Piece.new s.nextKey g.link with state := state }.entered s.nextKey m.id,
        ((Piece.new s.nextKey g.link).replication.assign m.id (.updatePiece s.nextKey) s.hub).2) := by
    rw [Entity.create?, Piece.update?_eq rfl, hm]
    simp only [Option.map_some]
    change some (({ ({ Piece.new s.nextKey g.link with state := state } : Piece) with
      replication := ((Piece.new s.nextKey g.link).replication.assign m.id _ s.hub).1 } : Piece),
      _) = _
    rw [Replication.assign_fst]
    rfl
  simp only [discoverPiece, hgame]
  rw [if_neg (fun hsome => hid (Game.isSome_pieceById?_iff.1 hsome)), hcreate]
  rfl

/-- An obstacle that is known is not discovered again. -/
theorem discoverObstacle_of_known (hgame : s.game = some g)
    (hid : m.id ∈ g.view.obstacles.map (·.1)) : discoverObstacle m s = s := by
  simp only [discoverObstacle, hgame]
  rw [if_pos (Game.isSome_obstacleById?_iff.2 hid)]

/-- No obstacle is discovered by a message that holds the state of none. -/
theorem discoverObstacle_of_none (hm : (m.contents? : Option ObstacleState) = none) :
    discoverObstacle m s = s := by
  unfold discoverObstacle
  split
  · rename_i g _
    have hnone : Entity.update? (Obstacle.new s.nextKey g.link) m = none := by
      rw [Obstacle.update?_eq rfl, hm]
      rfl
    simp [Entity.create?, hnone]
  · rfl

/-- An obstacle that has not been heard of joins the game likewise. -/
theorem discoverObstacle_of_new (hgame : s.game = some g)
    (hid : m.id ∉ g.view.obstacles.map (·.1)) {state : ObstacleState}
    (hm : m.contents? = some state) :
    discoverObstacle m s = { s with
      hub := ((Obstacle.new s.nextKey g.link).replication.assign m.id
        (.updateObstacle s.nextKey) s.hub).2
      nextKey := s.nextKey + 1
      game := some (g.withObstacle s.nextKey m.id state) } := by
  -- It takes the data first and only then its id, which adds the handler.
  have hcreate : Entity.create? (Obstacle.new s.nextKey g.link) m (.updateObstacle s.nextKey) s.hub =
      some ({ Obstacle.new s.nextKey g.link with state := state }.entered s.nextKey m.id,
        ((Obstacle.new s.nextKey g.link).replication.assign m.id
          (.updateObstacle s.nextKey) s.hub).2) := by
    rw [Entity.create?, Obstacle.update?_eq rfl, hm]
    simp only [Option.map_some]
    change some (({ ({ Obstacle.new s.nextKey g.link with state := state } : Obstacle) with
      replication := ((Obstacle.new s.nextKey g.link).replication.assign m.id _ s.hub).1 } :
        Obstacle), _) = _
    rw [Replication.assign_fst]
    rfl
  simp only [discoverObstacle, hgame]
  rw [if_neg (fun hsome => hid (Game.isSome_obstacleById?_iff.1 hsome)), hcreate]
  rfl

/-- Nobody is greeted by a message that holds no greeting. -/
theorem greet_of_none (hm : (m.contents? : Option Greeting) = none) : greet m s = s := by
  rw [greet, Request.ofMessage?_eq, hm]
  rfl

/-- A greeting takes everything away and tells the player. -/
theorem greet_of_some {greeting : Greeting} (hm : m.contents? = some greeting) :
    greet m s = s.reset.mapGame fun g => { g with ownPlayer := greeting.player } := by
  rw [greet, Request.ofMessage?_eq, hm]
  rfl

end News

/-! ## The invariant -/

/-- The handlers that feed a follower's game. -/
def feeders : List (Handler Action) :=
  [⟨1, .gameUnit, .all, .discoverPiece⟩, ⟨2, .gameObstacle, .all, .discoverObstacle⟩,
    ⟨3, .newPlayerId, .all, .greet⟩]

/-- A station whose game follows what it is told: its handlers and entities agree, the handlers that
feed the game come before those of the entities, and the game has no round of its own. -/
structure Mirrors (g : Game) (s : Station) : Prop where
  /-- Handlers and entities agree. -/
  wired : s.Wired feeders g
  /-- The feeding handlers come first. -/
  first : feeders <+: s.hub.registry.handlers
  /-- No level is loaded. -/
  phase : g.phase = .empty
  /-- No level is known. -/
  level : g.level = none

/-- The actions of the feeding handlers that a message goes to. -/
def feeding (m : Message) : List Action :=
  (feeders.filter (·.accepts m)).map (·.action)

namespace Mirrors

variable {g : Game} {s : Station} {m : Message}

/-- A fresh follower has heard of nothing. -/
theorem of_follower {link : Link} (hlink : link.isAttached = true) (rules : Rules) :
    (Station.follower link rules).Mirrors { rules, link, feeders := [1, 2, 3] } where
  wired := {
    game := rfl
    holds := rfl
    kept := rfl
    attached := hlink
    pieces := fun _ hr => absurd hr List.not_mem_nil
    obstacles := fun _ hr => absurd hr List.not_mem_nil
    pieceKeys := List.nodup_nil
    obstacleKeys := List.nodup_nil
    reserved := rfl
    routes := List.Perm.nil }
  first := List.prefix_rfl
  phase := rfl
  level := rfl

/-- The handlers behind the feeding ones are those of the entities. -/
theorem matching_eq (h : s.Mirrors g) (m : Message) :
    (s.hub.registry.matching m).map (·.action) = feeding m ++ s.entityActions m := by
  obtain ⟨rest, hrest⟩ := h.first
  -- The feeding handlers are all there are for reserved ids, so what follows them is for entities.
  have hreserved := h.wired.reserved
  rw [← hrest, List.filter_append] at hreserved
  have hnone : rest.filter (fun h => !h.id.isAssigned) = [] :=
    List.append_right_eq_self.1 hreserved
  have hassigned : ∀ h ∈ rest, h.id.isAssigned = true := by
    intro h hh
    have := List.filter_eq_nil_iff.1 hnone h hh
    simpa using this
  have hfeeders : feeders.filter (fun h => h.id.isAssigned && h.accepts m) = [] := rfl
  rw [Registry.matching, entityActions, ← hrest, List.filter_append, List.filter_append, hfeeders,
    List.map_append, List.nil_append, feeding]
  congr 2
  refine List.filter_congr fun h hh => ?_
  rw [hassigned h hh, Bool.true_and]

/-- A message is dispatched to the feeding handlers first and to those of the entities then. -/
theorem receive_eq (h : s.Mirrors g) (m : Message) (ctx : Context) :
    (s.receive m ctx).2 =
      (s.entityActions m).foldl (fun s a => perform a m ctx s)
        ((feeding m).foldl (fun s a => perform a m ctx s) s) := by
  rw [receive_snd, h.matching_eq, List.foldl_append]

/-- A station without entities has only the feeding handlers. -/
theorem of_empty (hw : s.Wired feeders g) (hroutes : g.routes = []) (hphase : g.phase = .empty)
    (hlevel : g.level = none) : s.Mirrors g where
  wired := hw
  first := (hw.handlers_eq_of_no_route hroutes) ▸ List.prefix_rfl
  phase := hphase
  level := hlevel

/-! ### What the entities make of news -/

/-- The state of a piece goes to the pieces with the id of the message, and to nothing else. -/
theorem told_of_piece (h : s.Mirrors g) {state : PieceState} (hm : m.contents? = some state) :
    g.told m =
      { g with pieces := g.pieces.map fun p =>
          if Entity.id p = m.id ∧ m.id.isAssigned = true then { p with state := state } else p } := by
  have hreg := Game.Registered.of_wired h.wired
  have hother : (m.contents? : Option ObstacleState) = none :=
    Message.contents?_of_type_ne (by rw [Message.type_of_contents hm]; decide)
  unfold Game.told
  congr 1
  · refine List.map_congr_left fun p hp => ?_
    rw [Piece.taking_eq (hreg.pieces p hp), hm]
    rfl
  · refine (List.map_congr_left fun o ho => ?_).trans (List.map_id _)
    rw [Obstacle.taking_eq (hreg.obstacles o ho), hother]
    exact ite_self _

/-- The state of an obstacle goes to the obstacles with the id of the message, and to nothing else.
-/
theorem told_of_obstacle (h : s.Mirrors g) {state : ObstacleState}
    (hm : m.contents? = some state) :
    g.told m =
      { g with obstacles := g.obstacles.map fun o =>
          if Entity.id o = m.id ∧ m.id.isAssigned = true then { o with state := state } else o } := by
  have hreg := Game.Registered.of_wired h.wired
  have hother : (m.contents? : Option PieceState) = none :=
    Message.contents?_of_type_ne (by rw [Message.type_of_contents hm]; decide)
  unfold Game.told
  congr 1
  · refine (List.map_congr_left fun p hp => ?_).trans (List.map_id _)
    rw [Piece.taking_eq (hreg.pieces p hp), hother]
    exact ite_self _
  · refine List.map_congr_left fun o ho => ?_
    rw [Obstacle.taking_eq (hreg.obstacles o ho), hm]
    rfl

/-- A message that holds the state of no entity leaves the entities as they are. -/
theorem told_of_no_entity (h : s.Mirrors g) (hp : (m.contents? : Option PieceState) = none)
    (ho : (m.contents? : Option ObstacleState) = none) : g.told m = g := by
  have hreg := Game.Registered.of_wired h.wired
  refine Game.told_eq_self_iff.2 ⟨fun p hmem _ => ?_, fun o hmem _ => ?_⟩
  · rw [Piece.taking_eq (hreg.pieces p hmem), hp]
    rfl
  · rw [Obstacle.taking_eq (hreg.obstacles o hmem), ho]
    rfl

/-- A follower whose entities have been told a message still follows. -/
theorem told (h : s.Mirrors g) (m : Message) :
    ({ s with game := some (g.told m) } : Station).Mirrors (g.told m) where
  wired := h.wired.congr (h.wired.sameBooks_told m)
  first := h.first
  phase := h.phase
  level := h.level

/-! ### What the feeding handlers make of news -/

/-- A message goes to the feeding handler for its content type, whatever its id. -/
theorem feeding_eq (m : Message) :
    feeding m = (feeders.filter fun h => h.type = m.type).map (·.action) := by
  have haccepts : ∀ h ∈ feeders, h.accepts m = decide (h.type = m.type) := by
    intro h hh
    have hfilter : h.id = .all ∧ h.type ≠ .allTypes := by
      revert h
      decide
    simp [Handler.accepts, hfilter.1, hfilter.2]
  rw [feeding, List.filter_congr haccepts]

/-- A message about a piece is for the handler that discovers pieces. -/
theorem feeding_of_piece (hm : m.type = .gameUnit) : feeding m = [.discoverPiece] := by
  rw [feeding_eq, hm]
  rfl

/-- A message about an obstacle is for the handler that discovers obstacles. -/
theorem feeding_of_obstacle (hm : m.type = .gameObstacle) : feeding m = [.discoverObstacle] := by
  rw [feeding_eq, hm]
  rfl

/-- A greeting is for the handler that takes greetings. -/
theorem feeding_of_greeting (hm : m.type = .newPlayerId) : feeding m = [.greet] := by
  rw [feeding_eq, hm]
  rfl

/-- No feeding handler takes a message of another type. -/
theorem feeding_of_other (hp : m.type ≠ .gameUnit) (ho : m.type ≠ .gameObstacle)
    (hg : m.type ≠ .newPlayerId) : feeding m = [] := by
  rw [feeding_eq]
  simp [feeders, hp.symm, ho.symm, hg.symm]

/-- A piece that has not been heard of joins the game with its handler, behind all others. -/
theorem exists_discoverPiece (h : s.Mirrors g) (hid : m.id ∉ g.view.pieces.map (·.1))
    {state : PieceState} (hm : m.contents? = some state) :
    ∃ hub, discoverPiece m s = { s with
        hub := hub
        nextKey := s.nextKey + 1
        game := some (g.withPiece s.nextKey m.id state) } ∧
      (discoverPiece m s).Mirrors (g.withPiece s.nextKey m.id state) := by
  have hstep := discoverPiece_of_new h.wired.game hid hm
  have hhandlers := Replication.handlers_assign (r := (Piece.new s.nextKey g.link).replication)
    rfl m.id (Action.updatePiece s.nextKey) s.hub
  refine ⟨_, hstep, ?_⟩
  rw [hstep]
  exact {
    wired := h.wired.appendPiece ⟨rfl, Nat.lt_succ_self _, rfl⟩ rfl hhandlers
    first := hhandlers ▸ h.first.trans (List.prefix_append _ _)
    phase := h.phase
    level := h.level }

/-- An obstacle that has not been heard of joins the game likewise. -/
theorem exists_discoverObstacle (h : s.Mirrors g) (hid : m.id ∉ g.view.obstacles.map (·.1))
    {state : ObstacleState} (hm : m.contents? = some state) :
    ∃ hub, discoverObstacle m s = { s with
        hub := hub
        nextKey := s.nextKey + 1
        game := some (g.withObstacle s.nextKey m.id state) } ∧
      (discoverObstacle m s).Mirrors (g.withObstacle s.nextKey m.id state) := by
  have hstep := discoverObstacle_of_new h.wired.game hid hm
  have hhandlers := Replication.handlers_assign (r := (Obstacle.new s.nextKey g.link).replication)
    rfl m.id (Action.updateObstacle s.nextKey) s.hub
  refine ⟨_, hstep, ?_⟩
  rw [hstep]
  exact {
    wired := h.wired.appendObstacle ⟨rfl, Nat.lt_succ_self _, rfl⟩ rfl hhandlers
    first := hhandlers ▸ h.first.trans (List.prefix_append _ _)
    phase := h.phase
    level := h.level }

/-! ### Greetings -/

/-- **A greeting takes everything away** but the player. -/
theorem mirrors_greet (h : s.Mirrors g) {greeting : Greeting} (hm : m.contents? = some greeting) :
    (greet m s).Mirrors { g.cleared with ownPlayer := greeting.player } := by
  rw [greet_of_some hm]
  exact of_empty (h.wired.reset.mapGame (f := fun g => { g with ownPlayer := greeting.player })
    ⟨rfl, rfl, rfl⟩) rfl rfl rfl

/-- Losing the server takes the player away, too. -/
theorem leave (h : s.Mirrors g) : s.leave.Mirrors { g.cleared with ownPlayer := .none } :=
  of_empty (h.wired.reset.mapGame (f := fun g => { g with ownPlayer := .none }) ⟨rfl, rfl, rfl⟩)
    rfl rfl rfl

/-! ### One message -/

/-- No handler that matched leads to an entity that comes later. -/
theorem nextKey_notMem_entityActions (h : s.Mirrors g) (m : Message) :
    Action.updatePiece s.nextKey ∉ s.entityActions m ∧
      Action.updateObstacle s.nextKey ∉ s.entityActions m := by
  constructor
  · rw [h.wired.mem_entityActions_iff, Game.updatePiece_mem_routes]
    rintro ⟨_, r, hr, _, _, _, hkey⟩
    exact absurd (h.wired.pieces r hr).key_lt (by omega)
  · rw [h.wired.mem_entityActions_iff, Game.updateObstacle_mem_routes]
    rintro ⟨_, r, hr, _, _, _, hkey⟩
    exact absurd (h.wired.obstacles r hr).key_lt (by omega)

/-- **A message that tells nothing changes nothing**: neither the game nor its handlers. -/
theorem receive_of_nothing (h : s.Mirrors g) (hm : m.news = .nothing) (ctx : Context) :
    (s.receive m ctx).2 = s := by
  obtain ⟨hp, ho, hg⟩ := Message.news_eq_nothing_iff.1 hm
  -- A feeding handler may match by the content type, but then the payload is malformed.
  have hfeeding : (feeding m).foldl (fun s a => perform a m ctx s) s = s := by
    by_cases hpiece : m.type = .gameUnit
    · rw [feeding_of_piece hpiece]
      exact discoverPiece_of_none hp
    · by_cases hobstacle : m.type = .gameObstacle
      · rw [feeding_of_obstacle hobstacle]
        exact discoverObstacle_of_none ho
      · by_cases hgreeting : m.type = .newPlayerId
        · rw [feeding_of_greeting hgreeting]
          exact greet_of_none hg
        · rw [feeding_of_other hpiece hobstacle hgreeting]
          rfl
  rw [h.receive_eq, hfeeding, h.wired.foldl_entityActions, h.told_of_no_entity hp ho,
    ← h.wired.game]

/-- A piece that is known is told the message. -/
theorem receive_known_piece (h : s.Mirrors g) {state : PieceState} (hm : m.contents? = some state)
    (hid : m.id ∈ g.view.pieces.map (·.1)) (ctx : Context) :
    (s.receive m ctx).2 = { s with game := some (g.told m) } := by
  rw [h.receive_eq, feeding_of_piece (Message.type_of_contents hm), List.foldl_cons, List.foldl_nil]
  change (s.entityActions m).foldl _ (discoverPiece m s) = _
  rw [discoverPiece_of_known h.wired.game hid, h.wired.foldl_entityActions]

/-- A piece that is new joins, and the handlers that matched pass it over. -/
theorem receive_new_piece (h : s.Mirrors g) {state : PieceState} (hm : m.contents? = some state)
    (hid : m.id ∉ g.view.pieces.map (·.1)) (ctx : Context) :
    (s.receive m ctx).2 = discoverPiece m s := by
  obtain ⟨hub, hstep, hmirrors⟩ := h.exists_discoverPiece hid hm
  have hreg := Game.Registered.of_wired h.wired
  have hheard : (g.withPiece s.nextKey m.id state).heard (s.entityActions m) m =
      g.withPiece s.nextKey m.id state := by
    -- The handlers matched before the piece was there: they lead to others, whose id is another.
    refine Game.heard_eq_self (fun p hp hmem => ?_) (fun o ho _ => ?_)
    · rcases List.mem_append.1 hp with hp | hp
      · rw [h.wired.updatePiece_mem_entityActions_iff hp] at hmem
        exact absurd (hmem.1 ▸ Game.id_mem_view_pieces hp) hid
      · rw [List.mem_singleton] at hp
        rw [hp] at hmem
        exact absurd hmem (h.nextKey_notMem_entityActions m).1
    · have hother : (m.contents? : Option ObstacleState) = none :=
        Message.contents?_of_type_ne (by rw [Message.type_of_contents hm]; decide)
      rw [Obstacle.taking_eq (hreg.obstacles o ho), hother]
      rfl
  rw [h.receive_eq, feeding_of_piece (Message.type_of_contents hm), List.foldl_cons, List.foldl_nil]
  change (s.entityActions m).foldl _ (discoverPiece m s) = _
  rw [foldl_updates hmirrors.wired.game hmirrors.wired.kept
    (Game.Registered.of_wired hmirrors.wired) m ctx (h.wired.isUpdate_entityActions m), hheard,
    ← hmirrors.wired.game]

/-- What a known piece is told is noted in the view. -/
theorem view_told_of_piece (h : s.Mirrors g) {state : PieceState} (hm : m.contents? = some state)
    (hid : m.id ∈ g.view.pieces.map (·.1)) :
    (g.told m).view = { g.view with pieces := note m.id state g.view.pieces } := by
  rw [h.told_of_piece hm, note, if_pos hid]
  by_cases hassigned : m.id.isAssigned = true
  · simp only [Game.view, hassigned, and_true, if_true, List.map_map]
    congr 1
    refine List.map_congr_left fun p _ => ?_
    by_cases hp : Entity.id p = m.id
    · simp only [Function.comp_apply, if_pos hp]
      rw [← hp]
      rfl
    · simp only [Function.comp_apply, if_neg hp]
  · -- Nobody listens under a reserved id, so the record stays what it was first.
    simp [Game.view, hassigned]

/-- A piece that is new to a game is noted at the end of the view. -/
theorem view_withPiece {state : PieceState} {key : Nat} {id : MessageId}
    (hid : id ∉ g.view.pieces.map (·.1)) :
    (g.withPiece key id state).view = { g.view with pieces := note id state g.view.pieces } := by
  rw [note, if_neg hid]
  simp [Game.view, Game.withPiece, Piece.entered, Entity.id, Entity.replication]

/-- A message about a piece is noted. -/
theorem exists_receive_piece (h : s.Mirrors g) {state : PieceState}
    (hm : m.contents? = some state) (ctx : Context) :
    ∃ g', (s.receive m ctx).2.Mirrors g' ∧
      g'.view = { g.view with pieces := note m.id state g.view.pieces } := by
  by_cases hid : m.id ∈ g.view.pieces.map (·.1)
  · refine ⟨g.told m, ?_, h.view_told_of_piece hm hid⟩
    rw [h.receive_known_piece hm hid]
    exact h.told m
  · obtain ⟨_, _, hmirrors⟩ := h.exists_discoverPiece hid hm
    refine ⟨g.withPiece s.nextKey m.id state, ?_, view_withPiece hid⟩
    rw [h.receive_new_piece hm hid]
    exact hmirrors

/-- An obstacle that is known is told the message. -/
theorem receive_known_obstacle (h : s.Mirrors g) {state : ObstacleState} (hm : m.contents? = some state)
    (hid : m.id ∈ g.view.obstacles.map (·.1)) (ctx : Context) :
    (s.receive m ctx).2 = { s with game := some (g.told m) } := by
  rw [h.receive_eq, feeding_of_obstacle (Message.type_of_contents hm), List.foldl_cons, List.foldl_nil]
  change (s.entityActions m).foldl _ (discoverObstacle m s) = _
  rw [discoverObstacle_of_known h.wired.game hid, h.wired.foldl_entityActions]

/-- An obstacle that is new joins, and the handlers that matched pass it over. -/
theorem receive_new_obstacle (h : s.Mirrors g) {state : ObstacleState} (hm : m.contents? = some state)
    (hid : m.id ∉ g.view.obstacles.map (·.1)) (ctx : Context) :
    (s.receive m ctx).2 = discoverObstacle m s := by
  obtain ⟨hub, hstep, hmirrors⟩ := h.exists_discoverObstacle hid hm
  have hreg := Game.Registered.of_wired h.wired
  -- No piece takes it, the other obstacles have other ids, and the new one's handler came too late.
  have hheard : (g.withObstacle s.nextKey m.id state).heard (s.entityActions m) m =
      g.withObstacle s.nextKey m.id state := by
    refine Game.heard_eq_self (fun p hp _ => ?_) (fun o ho hmem => ?_)
    · have hother : (m.contents? : Option PieceState) = none :=
        Message.contents?_of_type_ne (by rw [Message.type_of_contents hm]; decide)
      rw [Piece.taking_eq (hreg.pieces p hp), hother]
      rfl
    · rcases List.mem_append.1 ho with ho | ho
      · rw [h.wired.updateObstacle_mem_entityActions_iff ho] at hmem
        exact absurd (hmem.1 ▸ Game.id_mem_view_obstacles ho) hid
      · rw [List.mem_singleton] at ho
        rw [ho] at hmem
        exact absurd hmem (h.nextKey_notMem_entityActions m).2
  rw [h.receive_eq, feeding_of_obstacle (Message.type_of_contents hm), List.foldl_cons, List.foldl_nil]
  change (s.entityActions m).foldl _ (discoverObstacle m s) = _
  rw [foldl_updates hmirrors.wired.game hmirrors.wired.kept
    (Game.Registered.of_wired hmirrors.wired) m ctx (h.wired.isUpdate_entityActions m), hheard,
    ← hmirrors.wired.game]

/-- What a known obstacle is told is noted in the view. -/
theorem view_told_of_obstacle (h : s.Mirrors g) {state : ObstacleState} (hm : m.contents? = some state)
    (hid : m.id ∈ g.view.obstacles.map (·.1)) :
    (g.told m).view = { g.view with obstacles := note m.id state g.view.obstacles } := by
  rw [h.told_of_obstacle hm, note, if_pos hid]
  by_cases hassigned : m.id.isAssigned = true
  · simp only [Game.view, hassigned, and_true, if_true, List.map_map]
    congr 1
    refine List.map_congr_left fun o _ => ?_
    by_cases ho : Entity.id o = m.id
    · simp only [Function.comp_apply, if_pos ho]
      rw [← ho]
      rfl
    · simp only [Function.comp_apply, if_neg ho]
  · -- Nobody listens under a reserved id, so the record stays what it was first.
    simp [Game.view, hassigned]

/-- An obstacle that is new to a game is noted at the end of the view. -/
theorem view_withObstacle {state : ObstacleState} {key : Nat} {id : MessageId}
    (hid : id ∉ g.view.obstacles.map (·.1)) :
    (g.withObstacle key id state).view = { g.view with obstacles := note id state g.view.obstacles } := by
  rw [note, if_neg hid]
  simp [Game.view, Game.withObstacle, Obstacle.entered, Entity.id, Entity.replication]

/-- A message about an obstacle is noted. -/
theorem exists_receive_obstacle (h : s.Mirrors g) {state : ObstacleState}
    (hm : m.contents? = some state) (ctx : Context) :
    ∃ g', (s.receive m ctx).2.Mirrors g' ∧
      g'.view = { g.view with obstacles := note m.id state g.view.obstacles } := by
  by_cases hid : m.id ∈ g.view.obstacles.map (·.1)
  · refine ⟨g.told m, ?_, h.view_told_of_obstacle hm hid⟩
    rw [h.receive_known_obstacle hm hid]
    exact h.told m
  · obtain ⟨_, _, hmirrors⟩ := h.exists_discoverObstacle hid hm
    refine ⟨g.withObstacle s.nextKey m.id state, ?_, view_withObstacle hid⟩
    rw [h.receive_new_obstacle hm hid]
    exact hmirrors

/-- A greeting leaves the player and nothing else: the handlers that matched have lost their
entities. -/
theorem exists_receive_greeting (h : s.Mirrors g) {greeting : Greeting}
    (hm : m.contents? = some greeting) (ctx : Context) :
    ∃ g', (s.receive m ctx).2.Mirrors g' ∧ g'.view = { ownPlayer := greeting.player } := by
  have hmirrors := h.mirrors_greet hm
  refine ⟨{ g.cleared with ownPlayer := greeting.player }, ?_, rfl⟩
  rw [h.receive_eq, feeding_of_greeting (Message.type_of_contents hm), List.foldl_cons,
    List.foldl_nil]
  change ((s.entityActions m).foldl _ (greet m s)).Mirrors _
  rw [foldl_updates hmirrors.wired.game hmirrors.wired.kept
    (Game.Registered.of_wired hmirrors.wired) m ctx (h.wired.isUpdate_entityActions m)]
  exact hmirrors.wired.game ▸ hmirrors

/-- **A follower makes of a message what its news make of the view.** -/
theorem exists_receive (h : s.Mirrors g) (m : Message) (ctx : Context) :
    ∃ g', (s.receive m ctx).2.Mirrors g' ∧ g'.view = g.view.receive m := by
  cases hnews : m.news with
  | piece state =>
    rw [View.receive, hnews]
    exact h.exists_receive_piece (Message.news_eq_piece_iff.1 hnews) ctx
  | obstacle state =>
    rw [View.receive, hnews]
    exact h.exists_receive_obstacle (Message.news_eq_obstacle_iff.1 hnews) ctx
  | greeting greeting =>
    rw [View.receive, hnews]
    exact h.exists_receive_greeting (Message.news_eq_greeting_iff.1 hnews) ctx
  | nothing =>
    rw [View.receive, hnews, h.receive_of_nothing hnews]
    exact ⟨g, h, rfl⟩

/-- **Messages one after the other** make of the game what their news make of the view. -/
theorem exists_foldl_receive (h : s.Mirrors g) (messages : List (Message × Context)) :
    ∃ g', (messages.foldl (fun s x => (s.receive x.1 x.2).2) s).Mirrors g' ∧
      g'.view = (messages.map (·.1)).foldl View.receive g.view := by
  induction messages generalizing g s with
  | nil => exact ⟨g, h, rfl⟩
  | cons x messages ih =>
    obtain ⟨g', hg', hview⟩ := h.exists_receive x.1 x.2
    rw [List.foldl_cons, List.map_cons, List.foldl_cons, ← hview]
    exact ih hg'

end Mirrors

end Station

end Pursuit
