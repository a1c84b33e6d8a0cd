import Pursuit.Proofs.Mirror
import Pursuit.Proofs.Requests

/-! # No handler is leaked or lost

Whatever is done with a game, its endpoint has the handlers that others have put there, those that
feed the game, and one for each entity with an id of its own. Once the game is gone, only the others'
are left.

* **`Station.Turn`, `Station.Happening`** — what is done with a game, and the messages that come in
  meanwhile, in any order.
* **`Station.Keeps`** — the invariant, for a game that decides as for one that follows.
* **`Station.Keeps.exists_perform`, `Station.Keeps.exists_happen`** — whatever any handler does, and
  whatever happens, keeps it.
* **`Station.Vacant.tended_run`** — handlers and entities agree throughout, and dropping the game
  leaves the handlers that were there before it. -/

namespace Pursuit

/-- The handler that a piece asks for: all messages under its id lead to it. -/
def Piece.route (p : Piece) : ContentType × MessageId × Action :=
  (.allTypes, Entity.id p, .updatePiece (Entity.key p))

/-- The handler that an obstacle asks for likewise. -/
def Obstacle.route (o : Obstacle) : ContentType × MessageId × Action :=
  (.allTypes, Entity.id o, .updateObstacle (Entity.key o))

namespace Replication

variable {α : Type}

/-- On an endpoint, exactly the entities with ids of their own ask for handlers. -/
theorem flatMap_routes_eq {f : Nat → α} {rs : List Replication}
    (hattached : ∀ r ∈ rs, r.link.isAttached = true) :
    rs.flatMap (routes f) =
      (rs.filter (·.id.isAssigned)).map fun r => (.allTypes, r.id, f r.key) := by
  induction rs with
  | nil => rfl
  | cons r rs ih =>
    have hhandles : r.handles r.id = r.id.isAssigned := by
      rw [handles, hattached r List.mem_cons_self, Bool.and_true]
    rw [List.flatMap_cons, ih fun r' hr' => hattached r' (List.mem_cons_of_mem _ hr'), routes,
      hhandles]
    cases hassigned : r.id.isAssigned <;> simp [hassigned]

/-- A first id of its own adds to the handlers and takes none away. -/
theorem handlers_first_generate {r : Replication} (hreserved : r.id.isAssigned = false) (action : α)
    (hub : Hub α) :
    hub.registry.handlers <+: (r.generate action hub).2.2.registry.handlers := by
  unfold generate
  split
  · simp only [handlers_assign hreserved]
    exact List.prefix_append _ _
  · exact List.prefix_rfl

end Replication

namespace Game

/-- Requests do not touch the bookkeeping. -/
theorem sameBooks_granted (g : Game) (player : PlayerId) (index : UInt8) {f : Piece → Piece}
    (hf : ∀ p, (f p).replication = p.replication) :
    g.SameBooks (((g.requested player index).map fun i => g.modifyPiece i f).toOption.getD g) := by
  cases g.requested player index with
  | error => exact .refl g
  | ok place => exact sameBooks_modifyPiece g place hf

/-- A request, granted or not, changes nothing about who feeds the game. -/
theorem feeders_granted (g : Game) (player : PlayerId) (index : UInt8) (f : Piece → Piece) :
    (((g.requested player index).map fun i => g.modifyPiece i f).toOption.getD g).feeders =
      g.feeders := by
  cases g.requested player index <;> rfl

/-- Neither a start nor a step of the clock touches the handlers that feed the game. -/
theorem feeders_start (g : Game) : g.start.feeders = g.feeders := by
  unfold start
  split <;> rfl

/-- A step, made or not, changes nothing about who feeds the game. -/
theorem feeders_step (g : Game) (dt : Duration) : ((g.step? dt).getD g).feeders = g.feeders := by
  unfold step?
  split
  · cases g.elapsed.add? dt with
    | none => rfl
    | some elapsed =>
      simp only [Option.map_some, Option.getD_some]
      split <;> rfl
  · rfl

/-- A step, made or not, keeps the bookkeeping. -/
theorem sameBooks_step (g : Game) (dt : Duration) : g.SameBooks ((g.step? dt).getD g) := by
  cases h : g.step? dt with
  | none => exact .refl g
  | some g' => exact (sameBooks_step? h).1

end Game

namespace Station

/-! ## What is done with a game -/

/-- What is done with a game by the one whose game it is. -/
inductive Turn where
  /-- A level is loaded. -/
  | load (number : UInt32)
  /-- The round is started. -/
  | start
  /-- The game is stepped. -/
  | step (dt : Duration)
  /-- The round is stopped. -/
  | stop
  /-- All entities are let go. -/
  | reset
  /-- The round and the player are forgotten. -/
  | leave

/-- What a turn makes of a station. There is no step to a time that the clock cannot show. -/
def turn (s : Station) : Turn → Station
  | .load number => s.load number
  | .start => s.mapGame Game.start
  | .step dt => s.mapGame fun g => (g.step? dt).getD g
  | .stop | .reset => s.reset
  | .leave => s.leave

/-- What happens at an endpoint with a game. -/
inductive Happening where
  /-- Something is done with the game. -/
  | turn (t : Turn)
  /-- A message comes in. -/
  | receive (m : Message) (ctx : Context)

/-- What a happening makes of a station. -/
def happen (s : Station) : Happening → Station
  | .turn t => s.turn t
  | .receive m ctx => (s.receive m ctx).2

/-- What happenings make of a station one after the other. -/
def run (s : Station) (happenings : List Happening) : Station := happenings.foldl happen s

/-! ## The invariant -/

/-- A station whose handlers and entities agree: the handlers of others come first, each entity with
an id of its own has its handler behind them, and entities of one kind have different ids. -/
structure Keeps (others : List (Handler Action)) (feeders : List UInt64) (g : Game) (s : Station) :
    Prop where
  /-- Handlers and entities agree. -/
  wired : s.Wired others g
  /-- The others' handlers come first. -/
  first : others <+: s.hub.registry.handlers
  /-- No two pieces share an id. -/
  pieceIds : (g.pieces.map Entity.id).Nodup
  /-- No two obstacles share an id. -/
  obstacleIds : (g.obstacles.map Entity.id).Nodup
  /-- The numbers of the handlers that feed the game. -/
  feeders : g.feeders = feeders

/-- A piece that joins under its first id gets its handler behind all others. -/
theorem handlers_first_addPiece {p : Piece} (hnone : p.replication.id = .none) (s : Station) :
    s.hub.registry.handlers <+: (s.addPiece p).hub.registry.handlers :=
  Replication.handlers_first_generate (r := { p.replication with key := s.nextKey })
    (by rw [hnone, MessageId.isAssigned_none]) _ _

/-- An obstacle that joins under its first id gets its handler behind all others. -/
theorem handlers_first_addObstacle {o : Obstacle} (hnone : o.replication.id = .none) (s : Station) :
    s.hub.registry.handlers <+: (s.addObstacle o).hub.registry.handlers :=
  Replication.handlers_first_generate (r := { o.replication with key := s.nextKey })
    (by rw [hnone, MessageId.isAssigned_none]) _ _

/-- Entities that join one after the other take no handler away. -/
theorem handlers_first_foldl {ε : Type} {add : Station → ε → Station} {es : List ε}
    (hadd : ∀ e ∈ es, ∀ s : Station,
      s.hub.registry.handlers <+: (add s e).hub.registry.handlers) (s : Station) :
    s.hub.registry.handlers <+: (es.foldl add s).hub.registry.handlers := by
  induction es generalizing s with
  | nil => exact List.prefix_rfl
  | cons e es ih =>
    exact (hadd e List.mem_cons_self s).trans
      (ih (fun e' he' => hadd e' (List.mem_cons_of_mem _ he')) (add s e))

/-- A level adds to the handlers that are left when all entities are gone. -/
theorem handlers_first_load {s : Station} {g : Game} (hgame : s.reset.game = some g)
    (number : UInt32) :
    s.reset.hub.registry.handlers <+: (s.load number).hub.registry.handlers := by
  have hpieces (t : Station) : t.hub.registry.handlers <+:
      ((piecesOf g.link (.number number)).foldl addPiece t).hub.registry.handlers :=
    handlers_first_foldl (fun p hp => handlers_first_addPiece (unplaced_of_mem_piecesOf hp).id) t
  have hobstacles (t : Station) : t.hub.registry.handlers <+:
      ((obstaclesOf g.link (.number number)).foldl addObstacle t).hub.registry.handlers :=
    handlers_first_foldl (fun o ho => handlers_first_addObstacle (unplaced_of_mem_obstaclesOf ho).id) t
  unfold load
  rw [hgame]
  exact (hpieces s.reset).trans (hobstacles _)

namespace Keeps

variable {others : List (Handler Action)} {feeders : List UInt64} {g g' : Game} {s : Station}
  {m : Message}

/-- The invariant sees the bookkeeping and the numbers of the feeding handlers only. -/
theorem congr (h : s.Keeps others feeders g) (hbooks : g.SameBooks g')
    (hfeeders : g'.feeders = g.feeders) :
    ({ s with game := some g' } : Station).Keeps others feeders g' where
  wired := h.wired.congr hbooks
  first := h.first
  pieceIds := by rw [hbooks.pieceIds]; exact h.pieceIds
  obstacleIds := by rw [hbooks.obstacleIds]; exact h.obstacleIds
  feeders := hfeeders.trans h.feeders

/-- A change to the game that keeps the bookkeeping keeps the invariant. -/
theorem mapGame (h : s.Keeps others feeders g) {f : Game → Game} (hbooks : g.SameBooks (f g))
    (hfeeders : (f g).feeders = g.feeders) : (s.mapGame f).Keeps others feeders (f g) := by
  rw [Station.mapGame, h.wired.game]
  exact h.congr hbooks hfeeders

/-- A station without entities has the others' handlers and no more. -/
theorem of_empty (hw : s.Wired others g) (hpieces : g.pieces = []) (hobstacles : g.obstacles = [])
    (hfeeders : g.feeders = feeders) : s.Keeps others feeders g where
  wired := hw
  first := by
    have hroutes : g.routes = [] := by
      rw [Game.routes, Game.pieceBooks, Game.obstacleBooks, hpieces, hobstacles]
      rfl
    exact hw.handlers_eq_of_no_route hroutes ▸ List.prefix_rfl
  pieceIds := by rw [hpieces]; exact List.nodup_nil
  obstacleIds := by rw [hobstacles]; exact List.nodup_nil
  feeders := hfeeders

/-! ### Entities that go and come -/

/-- Letting all entities go keeps the invariant. -/
theorem reset (h : s.Keeps others feeders g) : s.reset.Keeps others feeders g.cleared :=
  of_empty h.wired.reset rfl rfl h.feeders

/-- Leaving the game keeps the invariant. -/
theorem leave (h : s.Keeps others feeders g) :
    s.leave.Keeps others feeders { g.cleared with ownPlayer := .none } :=
  h.reset.mapGame (f := fun g => { g with ownPlayer := .none }) ⟨rfl, rfl, rfl⟩ rfl

/-- A level comes with ids that are all different. -/
theorem exists_load (h : s.Keeps others feeders g) (number : UInt32) :
    ∃ g', (s.load number).Keeps others feeders g' ∧ g'.Identified := by
  obtain ⟨g', hwired, hidentified, _, _, hfeeders⟩ := h.wired.load number
  have hnodup := hidentified.nodup
  rw [Game.ids, List.nodup_append] at hnodup
  refine ⟨g', ?_, hidentified⟩
  exact {
    wired := hwired
    first := h.reset.first.trans (handlers_first_load h.reset.wired.game number)
    pieceIds := hnodup.1
    obstacleIds := hnodup.2.1
    feeders := hfeeders.trans h.feeders }

/-- A message about a piece adds the piece with its handler, unless the id is known. -/
theorem exists_discoverPiece (h : s.Keeps others feeders g) (m : Message) :
    ∃ g', (discoverPiece m s).Keeps others feeders g' := by
  cases hm : (m.contents? : Option PieceState) with
  | none =>
    rw [discoverPiece_of_none hm]
    exact ⟨g, h⟩
  | some state =>
    by_cases hid : m.id ∈ g.view.pieces.map (·.1)
    · rw [discoverPiece_of_known h.wired.game hid]
      -- A piece of this id is there, so that no other is added.
      exact ⟨g, h⟩
    · have hhandlers := Replication.handlers_assign
        (r := (Piece.new s.nextKey g.link).replication) rfl m.id (Action.updatePiece s.nextKey) s.hub
      rw [discoverPiece_of_new h.wired.game hid hm]
      refine ⟨g.withPiece s.nextKey m.id state, ?_⟩
      exact {
        wired := h.wired.appendPiece ⟨rfl, Nat.lt_succ_self _, rfl⟩ rfl hhandlers
        first := hhandlers ▸ h.first.trans (List.prefix_append _ _)
        pieceIds := by
          have hnew : m.id ∉ g.pieces.map Entity.id := by
            simpa [Game.view] using hid
          rw [Game.withPiece, List.map_append, List.map_singleton, ← List.concat_eq_append,
            List.nodup_concat]
          exact ⟨hnew, h.pieceIds⟩
        obstacleIds := h.obstacleIds
        feeders := h.feeders }

/-- A message about an obstacle likewise. -/
theorem exists_discoverObstacle (h : s.Keeps others feeders g) (m : Message) :
    ∃ g', (discoverObstacle m s).Keeps others feeders g' := by
  cases hm : (m.contents? : Option ObstacleState) with
  | none =>
    rw [discoverObstacle_of_none hm]
    exact ⟨g, h⟩
  | some state =>
    by_cases hid : m.id ∈ g.view.obstacles.map (·.1)
    · rw [discoverObstacle_of_known h.wired.game hid]
      -- An obstacle of this id is there, so that no other is added.
      exact ⟨g, h⟩
    · have hhandlers := Replication.handlers_assign
        (r := (Obstacle.new s.nextKey g.link).replication) rfl m.id
        (Action.updateObstacle s.nextKey) s.hub
      rw [discoverObstacle_of_new h.wired.game hid hm]
      refine ⟨g.withObstacle s.nextKey m.id state, ?_⟩
      exact {
        wired := h.wired.appendObstacle ⟨rfl, Nat.lt_succ_self _, rfl⟩ rfl hhandlers
        first := hhandlers ▸ h.first.trans (List.prefix_append _ _)
        pieceIds := h.pieceIds
        obstacleIds := by
          have hnew : m.id ∉ g.obstacles.map Entity.id := by
            simpa [Game.view] using hid
          rw [Game.withObstacle, List.map_append, List.map_singleton, ← List.concat_eq_append,
            List.nodup_concat]
          exact ⟨hnew, h.obstacleIds⟩
        feeders := h.feeders }

/-- A greeting lets all entities go. -/
theorem exists_greet (h : s.Keeps others feeders g) (m : Message) :
    ∃ g', (greet m s).Keeps others feeders g' := by
  cases hm : (m.contents? : Option Greeting) with
  | none =>
    rw [greet_of_none hm]
    exact ⟨g, h⟩
  | some greeting =>
    rw [greet_of_some hm]
    exact ⟨_, h.reset.mapGame (f := fun g => { g with ownPlayer := greeting.player })
      ⟨rfl, rfl, rfl⟩ rfl⟩

/-! ### Messages -/

/-- The invariant does not see what was kept of the messages. -/
theorem observed (h : s.Keeps others feeders g) (seen : List (Message × Context)) :
    ({ s with seen } : Station).Keeps others feeders g where
  wired := {
    game := h.wired.game
    holds := h.wired.holds
    kept := h.wired.kept
    attached := h.wired.attached
    pieces := h.wired.pieces
    obstacles := h.wired.obstacles
    pieceKeys := h.wired.pieceKeys
    obstacleKeys := h.wired.obstacleKeys
    reserved := h.wired.reserved
    routes := h.wired.routes }
  first := h.first
  pieceIds := h.pieceIds
  obstacleIds := h.obstacleIds
  feeders := h.feeders

/-- A request keeps the invariant if granting it does. -/
theorem exists_obey {α : Type} [Payload α] [LawfulPayload α] [Inhabited α]
    (h : s.Keeps others feeders g) {apply : Game → PlayerId → α → Except RequestError Game}
    (ctx : Context)
    (happly : ∀ a, g.SameBooks ((apply g ctx.sender a).toOption.getD g) ∧
      ((apply g ctx.sender a).toOption.getD g).feeders = g.feeders) (m : Message) :
    ∃ g', (obey apply m ctx s).Keeps others feeders g' := by
  rw [Decides.obey_eq h.wired.game]
  refine ⟨_, h.congr ?_ ?_⟩
  · cases (m.contents? : Option α) with
    | none => exact .refl g
    | some a => exact (happly a).1
  · cases (m.contents? : Option α) with
    | none => rfl
    | some a => exact (happly a).2

/-- The handler of an entity keeps the invariant, whether or not there is such an entity. -/
theorem exists_update (h : s.Keeps others feeders g) {a : Action} (ha : a.isUpdate = true)
    (m : Message) (ctx : Context) : ∃ g', (perform a m ctx s).Keeps others feeders g' := by
  have hone := foldl_updates h.wired.game h.wired.kept (.of_wired h.wired) m ctx
    fun b (hb : b ∈ [a]) => List.mem_singleton.1 hb ▸ ha
  rw [List.foldl_cons, List.foldl_nil] at hone
  rw [hone]
  exact ⟨_, h.congr (Game.sameBooks_heard g [a] m) rfl⟩

/-- **Whatever a handler does** keeps handlers and entities in agreement. -/
theorem exists_perform (h : s.Keeps others feeders g) (a : Action) (m : Message) (ctx : Context) :
    ∃ g', (perform a m ctx s).Keeps others feeders g' := by
  cases a with
  | updatePiece key => exact h.exists_update rfl m ctx
  | updateObstacle key => exact h.exists_update rfl m ctx
  | discoverPiece => exact h.exists_discoverPiece m
  | discoverObstacle => exact h.exists_discoverObstacle m
  | greet => exact h.exists_greet m
  | steer =>
    refine h.exists_obey ctx (fun o => ⟨?_, ?_⟩) m
    · exact g.sameBooks_granted ctx.sender o.unitIndex
        (f := fun p => { p with acceleration := o.acceleration }) fun _ => rfl
    · exact g.feeders_granted ctx.sender o.unitIndex _
  | highlight =>
    refine h.exists_obey ctx (fun o => ⟨?_, ?_⟩) m
    · exact g.sameBooks_granted ctx.sender o.unitIndex
        (f := fun p => { p with state := { p.state with highlighted := o.highlighted } })
        fun _ => rfl
    · exact g.feeders_granted ctx.sender o.unitIndex _
  | observe => exact ⟨g, h.observed _⟩

/-- A message is dispatched to the handlers that matched when it came in. Each of them keeps the
invariant, whatever those before it have added or taken away. -/
theorem exists_receive (h : s.Keeps others feeders g) (m : Message) (ctx : Context) :
    ∃ g', (s.receive m ctx).2.Keeps others feeders g' := by
  have hall (actions : List Action) {g : Game} {s : Station} (h : s.Keeps others feeders g) :
      ∃ g', (actions.foldl (fun s a => perform a m ctx s) s).Keeps others feeders g' := by
    induction actions generalizing g s with
    | nil => exact ⟨g, h⟩
    | cons a actions ih =>
      obtain ⟨g', h'⟩ := h.exists_perform a m ctx
      exact ih h'
  rw [receive_snd]
  exact hall _ h

/-! ### Whatever happens -/

/-- What is done with the game keeps the invariant, and entities that all have ids of their own go on
having them. -/
theorem exists_turn (h : s.Keeps others feeders g) (t : Turn) :
    ∃ g', (s.turn t).Keeps others feeders g' ∧ (g.Identified → g'.Identified) := by
  cases t with
  | load number =>
    obtain ⟨g', h', hidentified⟩ := h.exists_load number
    exact ⟨g', h', fun _ => hidentified⟩
  | start =>
    exact ⟨_, h.mapGame g.sameBooks_start g.feeders_start, g.sameBooks_start.identified⟩
  | step dt =>
    exact ⟨_, h.mapGame (f := fun g => (g.step? dt).getD g) (g.sameBooks_step dt)
      (g.feeders_step dt), (g.sameBooks_step dt).identified⟩
  | stop => exact ⟨_, h.reset, fun _ => Game.identified_of_no_entity rfl rfl⟩
  | reset => exact ⟨_, h.reset, fun _ => Game.identified_of_no_entity rfl rfl⟩
  | leave => exact ⟨_, h.leave, fun _ => Game.identified_of_no_entity rfl rfl⟩

/-- Whatever happens keeps the invariant. -/
theorem exists_happen (h : s.Keeps others feeders g) (e : Happening) :
    ∃ g', (s.happen e).Keeps others feeders g' := by
  cases e with
  | turn t =>
    obtain ⟨g', h', _⟩ := h.exists_turn t
    exact ⟨g', h'⟩
  | receive m ctx => exact h.exists_receive m ctx

/-- **Whatever happens** keeps handlers and entities in agreement. -/
theorem exists_run (h : s.Keeps others feeders g) (happenings : List Happening) :
    ∃ g', (s.run happenings).Keeps others feeders g' := by
  induction happenings generalizing g s with
  | nil => exact ⟨g, h⟩
  | cons e happenings ih =>
    obtain ⟨g', h'⟩ := h.exists_happen e
    exact ih h'

/-- Without messages, all entities have ids of their own throughout. -/
theorem exists_run_turns (h : s.Keeps others feeders g) (hg : g.Identified) (turns : List Turn) :
    ∃ g', (s.run (turns.map .turn)).Keeps others feeders g' ∧ g'.Identified := by
  induction turns generalizing g s with
  | nil => exact ⟨g, h, hg⟩
  | cons t turns ih =>
    obtain ⟨g', h', hg'⟩ := h.exists_turn t
    exact ih h' (hg' hg)

/-! ### Entities and their handlers, one by one -/

/-- The entities with ids of their own ask for one handler each. -/
theorem routes_eq (h : s.Keeps others feeders g) :
    g.routes = (g.pieces.filter (Entity.id · |>.isAssigned)).map Piece.route ++
      (g.obstacles.filter (Entity.id · |>.isAssigned)).map Obstacle.route := by
  have hpieces : ∀ r ∈ g.pieceBooks, r.link.isAttached = true := fun r hr =>
    (h.wired.pieces r hr).link ▸ h.wired.attached
  have hobstacles : ∀ r ∈ g.obstacleBooks, r.link.isAttached = true := fun r hr =>
    (h.wired.obstacles r hr).link ▸ h.wired.attached
  rw [Game.routes, Replication.flatMap_routes_eq hpieces, Replication.flatMap_routes_eq hobstacles,
    Game.pieceBooks, Game.obstacleBooks, List.filter_map, List.filter_map, List.map_map,
    List.map_map]
  rfl

/-- Behind the others' handlers there is exactly one for each entity with an id of its own. -/
theorem exists_own (h : s.Keeps others feeders g) :
    ∃ own, s.hub.registry.handlers = others ++ own ∧
      (own.map Handler.route).Perm
        ((g.pieces.filter (Entity.id · |>.isAssigned)).map Piece.route ++
          (g.obstacles.filter (Entity.id · |>.isAssigned)).map Obstacle.route) := by
  obtain ⟨own, hown⟩ := h.first
  have hreserved := h.wired.reserved
  rw [← hown, List.filter_append] at hreserved
  -- All handlers for reserved ids are among the others', and nothing else is.
  have hothers : others.filter (fun x => x.id.isAssigned) = [] := by
    rw [List.filter_eq_nil_iff]
    intro x hx
    rw [← h.wired.reserved, List.mem_filter] at hx
    simpa using hx.2
  have hall : others.filter (fun x => !x.id.isAssigned) = others := by
    refine List.filter_eq_self.2 fun x hx => ?_
    rw [← h.wired.reserved, List.mem_filter] at hx
    exact hx.2
  have hnone : own.filter (fun x => !x.id.isAssigned) = [] := by
    rw [hall] at hreserved
    exact List.append_right_eq_self.1 hreserved
  have hassigned : own.filter (fun x => x.id.isAssigned) = own := by
    refine List.filter_eq_self.2 fun x hx => ?_
    simpa using List.filter_eq_nil_iff.1 hnone x hx
  have hroutes := h.wired.routes
  rw [← hown, List.filter_append, hothers, List.nil_append, hassigned, h.routes_eq] at hroutes
  exact ⟨own, hown.symm, hroutes⟩

end Keeps

/-! ## Dropping the game -/

/-- Handlers are removed by their numbers, and nothing else changes. -/
theorem removeHandlers_eq (s : Station) (numbers : List UInt64) :
    s.removeHandlers numbers =
      { s with hub := { s.hub with registry := { s.hub.registry with
          handlers := s.hub.registry.handlers.filter fun h => h.number ∉ numbers } } } := by
  induction numbers generalizing s with
  | nil => simp [removeHandlers]
  | cons n numbers ih =>
    have hcons : s.removeHandlers (n :: numbers) =
        ({ s with hub := { s.hub with registry := (s.hub.registry.remove n).2 } } :
          Station).removeHandlers numbers := rfl
    rw [hcons, ih]
    simp only [Registry.remove, List.filter_filter]
    congr 3
    simp [Bool.and_comm]

/-- **Dropping the game** takes the handlers of its entities away, and those that fed it. -/
theorem Keeps.handlers_dropGame {others : List (Handler Action)} {feeders : List UInt64} {g : Game}
    {s : Station} (h : s.Keeps others feeders g) :
    s.dropGame.2.hub.registry.handlers = others.filter fun h => h.number ∉ feeders := by
  -- What the entities leave behind when they go is the others' handlers.
  have hreset := h.reset.wired.handlers_eq_of_no_route rfl
  rw [h.wired.reset_eq, Replication.handlers_foldl_retire] at hreset
  have hgame : (s.removeHandlers g.feeders).game = some g := by
    rw [removeHandlers_eq]
    exact h.wired.game
  have hholds : (s.removeHandlers g.feeders).holds = [] := by
    rw [removeHandlers_eq]
    exact h.wired.holds
  -- It does not matter whether the feeding handlers go before the entities' or after them.
  rw [dropGame, h.wired.game]
  simp only
  rw [reset_eq_of_holds hgame hholds, Replication.handlers_foldl_retire, removeHandlers_eq,
    ← h.feeders, ← hreset, List.filter_filter, List.filter_filter]
  simp only [Bool.and_comm]

/-! ## Games come and go -/

/-- The handlers that feed a game, under three numbers one after the other. -/
def feedersFrom (n : UInt64) : List (Handler Action) :=
  [⟨n, .gameUnit, .all, .discoverPiece⟩, ⟨n + 1, .gameObstacle, .all, .discoverObstacle⟩,
    ⟨n + 1 + 1, .newPlayerId, .all, .greet⟩]

/-- A station that has no game. All its handlers are for reserved ids, and none has a number that comes
up again for the handlers that feed a game. -/
structure Vacant (s : Station) : Prop where
  /-- There is no game. -/
  game : s.game = none
  /-- Nobody holds a piece. -/
  holds : s.holds = []
  /-- Nobody has kept a piece. -/
  kept : s.kept = []
  /-- The handlers are for reserved ids. -/
  reserved : ∀ h ∈ s.hub.registry.handlers, h.id.isAssigned = false
  /-- The next numbers are new ones. -/
  fresh : ∀ h ∈ s.hub.registry.handlers,
    h.number ∉ (feedersFrom s.hub.registry.nextNumber).map (·.number)

/-- **Three numbers are left** as long as the counter does not start over: numbers that were given out
before do not come up again. -/
theorem number_notMem_feedersFrom {r : Registry Action}
    (hroom : r.nextNumber.toNat + 2 < UInt64.size)
    (hgiven : ∀ h ∈ r.handlers, h.number < r.nextNumber) :
    ∀ h ∈ r.handlers, h.number ∉ (feedersFrom r.nextNumber).map (·.number) := by
  intro h hh hmem
  have hlt : h.number.toNat < r.nextNumber.toNat := UInt64.lt_iff_toNat_lt.1 (hgiven h hh)
  have hsucc (n : UInt64) (hn : n.toNat + 1 < UInt64.size) : (n + 1).toNat = n.toNat + 1 := by
    rw [UInt64.toNat_add]
    exact Nat.mod_eq_of_lt hn
  have hone := hsucc r.nextNumber (by omega)
  have htwo := hsucc (r.nextNumber + 1) (by omega)
  simp only [feedersFrom, List.map_cons, List.map_nil, List.mem_cons, List.not_mem_nil, or_false]
    at hmem
  rcases hmem with heq | heq | heq <;> rw [heq] at hlt <;> omega

/-- Opens a game that decides. -/
def joinAsAuthority (s : Station) (link : Link) (rules : Rules) : Station :=
  { s with game := some { rules, link } }

/-- **Handlers as they should be**: those that were there before the game, those that feed it, and
behind them one for each entity with an id of its own. Pieces have different ids, and so have
obstacles. Dropping the game leaves the handlers that were there before. -/
structure Tended (before feeders : List (Handler Action)) (g : Game) (s : Station) : Prop where
  /-- The game is there. -/
  game : s.game = some g
  /-- No two pieces share an id. -/
  pieceIds : (g.pieces.map Entity.id).Nodup
  /-- No two obstacles share an id. -/
  obstacleIds : (g.obstacles.map Entity.id).Nodup
  /-- The handlers, those of entities in any order. -/
  handlers : ∃ own, s.hub.registry.handlers = before ++ feeders ++ own ∧
    (own.map Handler.route).Perm
      ((g.pieces.filter (Entity.id · |>.isAssigned)).map Piece.route ++
        (g.obstacles.filter (Entity.id · |>.isAssigned)).map Obstacle.route)
  /-- What is left when the game is dropped. -/
  dropped : s.dropGame.2.hub.registry.handlers = before

/-- Where no other handler has the number of a feeding one, a station that keeps the invariant is
tended. -/
theorem Keeps.tended {before feeders : List (Handler Action)} {g : Game} {s : Station}
    (h : s.Keeps (before ++ feeders) (feeders.map (·.number)) g)
    (hbefore : ∀ x ∈ before, x.number ∉ feeders.map (·.number)) : s.Tended before feeders g where
  game := h.wired.game
  pieceIds := h.pieceIds
  obstacleIds := h.obstacleIds
  handlers := h.exists_own
  dropped := by
    have hfed : ∀ x ∈ feeders, x.number ∈ feeders.map (·.number) := fun x hx =>
      List.mem_map_of_mem hx
    rw [h.handlers_dropGame, List.filter_append,
      List.filter_eq_self.2 fun x hx => decide_eq_true (hbefore x hx),
      List.filter_eq_nil_iff.2 fun x hx => by simpa using hfed x hx, List.append_nil]

namespace Vacant

variable {s : Station} {link : Link}

/-- A game without entities on a station whose handlers are for reserved ids. -/
theorem keeps {t : Station} (rules : Rules) (hlink : link.isAttached = true) {numbers : List UInt64}
    (hgame : t.game = some { rules, link, feeders := numbers }) (hholds : t.holds = [])
    (hkept : t.kept = []) (hreserved : ∀ h ∈ t.hub.registry.handlers, h.id.isAssigned = false) :
    t.Keeps t.hub.registry.handlers numbers { rules, link, feeders := numbers } :=
  .of_empty {
    game := hgame
    holds := hholds
    kept := hkept
    attached := hlink
    pieces := fun _ hr => absurd hr List.not_mem_nil
    obstacles := fun _ hr => absurd hr List.not_mem_nil
    pieceKeys := List.nodup_nil
    obstacleKeys := List.nodup_nil
    reserved := List.filter_eq_self.2 fun h hh => by rw [hreserved h hh]; rfl
    routes := by
      rw [List.filter_eq_nil_iff.2 fun h hh => by rw [hreserved h hh]; exact Bool.false_ne_true]
      exact List.Perm.nil } rfl rfl rfl

/-- A new game that decides. -/
theorem keeps_authority (hs : s.Vacant) (hlink : link.isAttached = true) (rules : Rules) :
    (s.joinAsAuthority link rules).Keeps (s.hub.registry.handlers ++ []) [] { rules, link } := by
  rw [List.append_nil]
  exact keeps (t := s.joinAsAuthority link rules) rules hlink rfl hs.holds hs.kept hs.reserved

/-- A new game that follows. -/
theorem keeps_follower (hs : s.Vacant) (hlink : link.isAttached = true) (rules : Rules) :
    (s.joinAsFollower link rules).Keeps
      (s.hub.registry.handlers ++ feedersFrom s.hub.registry.nextNumber)
      ((feedersFrom s.hub.registry.nextNumber).map (·.number))
      { rules, link, feeders := (feedersFrom s.hub.registry.nextNumber).map (·.number) } := by
  have hhandlers : (s.joinAsFollower link rules).hub.registry.handlers =
      s.hub.registry.handlers ++ feedersFrom s.hub.registry.nextNumber := by
    simp [joinAsFollower, addHandler, Registry.add, feedersFrom]
  rw [← hhandlers]
  refine keeps rules hlink rfl hs.holds hs.kept fun h hh => ?_
  rw [hhandlers, List.mem_append] at hh
  rcases hh with hh | hh
  · exact hs.reserved h hh
  · simp only [feedersFrom, List.mem_cons, List.not_mem_nil, or_false] at hh
    rcases hh with rfl | rfl | rfl <;> rfl

/-- **No handler is leaked or lost.** A game that decides has different ids for all its entities,
whatever is done with it, and a game that follows has different ids for its pieces and for its
obstacles, whatever messages come in besides. In either case the endpoint's handlers are as they
should be. -/
theorem tended_run (hs : s.Vacant) (hlink : link.isAttached = true) (rules : Rules)
    (turns : List Turn) (happenings : List Happening) :
    (∃ g, ((s.joinAsAuthority link rules).run (turns.map .turn)).Tended
        s.hub.registry.handlers [] g ∧ g.Identified) ∧
      ∃ g, ((s.joinAsFollower link rules).run happenings).Tended
        s.hub.registry.handlers (feedersFrom s.hub.registry.nextNumber) g := by
  constructor
  · obtain ⟨g, hg, hidentified⟩ := (hs.keeps_authority hlink rules).exists_run_turns
      (Game.identified_of_no_entity rfl rfl) turns
    exact ⟨g, hg.tended fun _ _ => List.not_mem_nil, hidentified⟩
  · obtain ⟨g, hg⟩ := (hs.keeps_follower hlink rules).exists_run happenings
    exact ⟨g, hg.tended hs.fresh⟩

end Vacant

/-- An endpoint that only observes has no game. -/
theorem vacant_observing : observing.Vacant where
  game := rfl
  holds := rfl
  kept := rfl
  reserved := by decide
  fresh := number_notMem_feedersFrom (by decide) (by decide)

/-- Beside a handler that keeps a record, a game is loaded, started and loaded again; another hears of
a piece under its own id, of one under a reserved id, and loses the server. -/
theorem tended_run_observing :
    let piece (id : MessageId) : Happening :=
      .receive ⟨⟨id, .gameUnit, 14⟩, List.replicate 14 0⟩ .fromServer
    observing.Vacant ∧ Link.isAttached .client = true ∧ Link.isAttached .server = true ∧
      (∃ g, ((observing.joinAsAuthority .server {}).run
        ([.load 1, .start, .step (.ofMillis 20), .load 2].map .turn)).Tended
          observing.hub.registry.handlers [] g ∧ g.Identified) ∧
      ∃ g, ((observing.joinAsFollower .client {}).run
        [piece ⟨7⟩, piece .event, .turn .leave, piece ⟨9⟩]).Tended
          observing.hub.registry.handlers (feedersFrom 2) g := by
  intro piece
  have hclient : Link.isAttached .client = true := rfl
  have hserver : Link.isAttached .server = true := rfl
  refine ⟨vacant_observing, hclient, hserver, ?_, ?_⟩
  · exact (vacant_observing.tended_run hserver {}
      [.load 1, .start, .step (.ofMillis 20), .load 2] []).1
  · exact (vacant_observing.tended_run hclient {} []
      [piece ⟨7⟩, piece .event, .turn .leave, piece ⟨9⟩]).2

end Station

end Pursuit
