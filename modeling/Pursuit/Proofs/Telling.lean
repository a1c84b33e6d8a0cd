import Pursuit.Proofs.Lists
import Pursuit.Proofs.Wiring

/-! # Messages under the id of an entity

A dispatch performs the handlers that matched when it began. Those of entities lead to the entities
by their keys, and this file says what they come to: the entities whose id the message carries take
the message, and nothing else changes.

* **`Entity.taking`** — an entity after a message, which it takes or refuses. A message does not touch
  the bookkeeping of a **`LawfulEntity`**.
* **`Game.told`** — a game whose entities with the message's id have taken it.
* **`Station.entityActions`** — what the entities' handlers do with a message.
* **`Station.Wired.foldl_entityActions`** — performing them makes the game the one told. -/

namespace Pursuit

/-! ## Taking a message -/

/-- An entity after a message. It stays as it is if the message does not fit it. -/
def Entity.taking {ε : Type} [Entity ε] (m : Message) (e : ε) : ε := (Entity.update? e m).getD e

/-- An update reaches the entity with the key, which takes the message, and no other one. -/
theorem Station.updated_eq {ε : Type} [Entity ε] (key : Nat) (m : Message) (e : ε) :
    Station.updated key m e = if Entity.key e = key then Entity.taking m e else e := rfl

/-- A type of entities that keep the bookkeeping apart from their data. -/
class LawfulEntity (ε : Type) [Entity ε] : Prop where
  /-- The bookkeeping that an entity is given is the one it has. -/
  replication_withReplication (e : ε) (r : Replication) :
    Entity.replication (Entity.withReplication e r) = r
  /-- Other data leaves the bookkeeping alone. -/
  replication_decode {e e' : ε} {type : ContentType} {bytes : List UInt8}
    (h : Entity.decode e type bytes = .ok e') : Entity.replication e' = Entity.replication e
  /-- So does the note of what came in. -/
  replication_noted (e : ε) (type : ContentType) :
    Entity.replication (Entity.noted e type) = Entity.replication e

attribute [simp] LawfulEntity.replication_withReplication LawfulEntity.replication_noted

instance : LawfulEntity Piece where
  replication_withReplication _ _ := rfl
  replication_decode h := by
    simp only [Entity.decode] at h
    split at h
    · split at h <;> cases h
      rfl
    · cases h
  replication_noted _ _ := rfl

instance : LawfulEntity Obstacle where
  replication_withReplication _ _ := rfl
  replication_decode h := by
    simp only [Entity.decode] at h
    split at h
    · split at h <;> cases h
      rfl
    · cases h
  replication_noted _ _ := rfl

section LawfulEntity

variable {ε : Type} [Entity ε] [LawfulEntity ε]

/-- An entity keeps its bookkeeping when it takes a message. -/
theorem Entity.replication_of_update? {e e' : ε} {m : Message} (h : update? e m = some e') :
    replication e' = replication e := by
  obtain ⟨_, _, h⟩ := Option.bind_eq_some_iff.1 h
  split at h
  · obtain ⟨e₁, hdecode, rfl⟩ := Option.map_eq_some_iff.1 h
    rw [LawfulEntity.replication_noted]
    cases hresult : decode e m.type m.payload with
    | error => simp [hresult, Except.toOption] at hdecode
    | ok =>
      rw [hresult] at hdecode
      cases hdecode
      exact LawfulEntity.replication_decode hresult
  · cases h

/-- What comes in does not touch the bookkeeping. -/
@[simp] theorem Entity.replication_taking (m : Message) (e : ε) :
    replication (taking m e) = replication e := by
  unfold taking
  cases h : update? e m with
  | none => rfl
  | some => exact replication_of_update? h

end LawfulEntity

namespace Piece

variable {p : Piece}

/-- A piece takes the state that a message holds, if it holds one. -/
theorem taking_eq (h : p.replication.registrations = registrations) (m : Message) :
    Entity.taking m p = { p with state := m.contents?.getD p.state } := by
  rw [Entity.taking, update?_eq h]
  cases (m.contents? : Option PieceState) <;> rfl

/-- Taking a message twice is taking it once. -/
theorem taking_taking (h : p.replication.registrations = registrations) (m : Message) :
    Entity.taking m (Entity.taking m p) = Entity.taking m p := by
  have htaken : (Entity.taking m p).replication = p.replication := Entity.replication_taking m p
  rw [taking_eq (by rw [htaken, h]), taking_eq h]
  cases (m.contents? : Option PieceState) <;> rfl

end Piece

namespace Obstacle

variable {o : Obstacle}

/-- An obstacle takes the state that a message holds, if it holds one. -/
theorem taking_eq (h : o.replication.registrations = registrations) (m : Message) :
    Entity.taking m o = { o with state := m.contents?.getD o.state } := by
  rw [Entity.taking, update?_eq h]
  cases (m.contents? : Option ObstacleState) <;> rfl

/-- Taking a message twice is taking it once. -/
theorem taking_taking (h : o.replication.registrations = registrations) (m : Message) :
    Entity.taking m (Entity.taking m o) = Entity.taking m o := by
  have htaken : (Entity.taking m o).replication = o.replication := Entity.replication_taking m o
  rw [taking_eq (by rw [htaken, h]), taking_eq h]
  cases (m.contents? : Option ObstacleState) <;> rfl

end Obstacle

/-! ## Performing the handlers of entities -/

/-- Whether an action is that of an entity's handler. -/
def Action.isUpdate : Action → Bool
  | .updatePiece _ | .updateObstacle _ => true
  | _ => false

namespace Game

/-- The game after a message went to the entities that the given actions lead to. -/
def heard (actions : List Action) (m : Message) (g : Game) : Game :=
  { g with
    pieces := g.pieces.map fun p =>
      if .updatePiece (Entity.key p) ∈ actions then Entity.taking m p else p
    obstacles := g.obstacles.map fun o =>
      if .updateObstacle (Entity.key o) ∈ actions then Entity.taking m o else o }

/-- The game after a message that its entities with the message's id take. Messages under a reserved
id go to no entity. -/
def told (m : Message) (g : Game) : Game :=
  { g with
    pieces := g.pieces.map fun p =>
      if Entity.id p = m.id ∧ m.id.isAssigned = true then Entity.taking m p else p
    obstacles := g.obstacles.map fun o =>
      if Entity.id o = m.id ∧ m.id.isAssigned = true then Entity.taking m o else o }

/-- A game whose entities take nothing new is as it was. -/
theorem heard_eq_self {g : Game} {actions : List Action} {m : Message}
    (hp : ∀ p ∈ g.pieces, .updatePiece (Entity.key p) ∈ actions → Entity.taking m p = p)
    (ho : ∀ o ∈ g.obstacles, .updateObstacle (Entity.key o) ∈ actions → Entity.taking m o = o) :
    g.heard actions m = g := by
  have hpieces := List.map_eq_self_iff.2 fun p hmem => ite_eq_right_iff.2 (hp p hmem)
  have hobstacles := List.map_eq_self_iff.2 fun o hmem => ite_eq_right_iff.2 (ho o hmem)
  rw [heard, hpieces, hobstacles]

/-- **A message changes nothing** exactly if no entity with its id takes anything new from it. -/
theorem told_eq_self_iff {g : Game} {m : Message} :
    g.told m = g ↔
      (∀ p ∈ g.pieces, Entity.id p = m.id ∧ m.id.isAssigned = true → Entity.taking m p = p) ∧
        ∀ o ∈ g.obstacles, Entity.id o = m.id ∧ m.id.isAssigned = true → Entity.taking m o = o := by
  constructor
  · intro h
    have hp := congrArg Game.pieces h
    have ho := congrArg Game.obstacles h
    exact ⟨fun p hmem => ite_eq_right_iff.1 (List.map_eq_self_iff.1 hp p hmem),
      fun o hmem => ite_eq_right_iff.1 (List.map_eq_self_iff.1 ho o hmem)⟩
  · rintro ⟨hp, ho⟩
    have hpieces := List.map_eq_self_iff.2 fun p hmem => ite_eq_right_iff.2 (hp p hmem)
    have hobstacles := List.map_eq_self_iff.2 fun o hmem => ite_eq_right_iff.2 (ho o hmem)
    rw [told, hpieces, hobstacles]

/-- All entities have registered their one record. -/
structure Registered (g : Game) : Prop where
  /-- The pieces have. -/
  pieces : ∀ p ∈ g.pieces, p.replication.registrations = Piece.registrations
  /-- The obstacles have. -/
  obstacles : ∀ o ∈ g.obstacles, o.replication.registrations = Obstacle.registrations

/-- Where handlers and entities agree, all entities have registered their record. -/
theorem Registered.of_wired {reserved : List (Handler Action)} {g : Game} {s : Station}
    (hw : s.Wired reserved g) : g.Registered where
  pieces _ hp := (hw.pieces _ (List.mem_map_of_mem hp)).registrations
  obstacles _ ho := (hw.obstacles _ (List.mem_map_of_mem ho)).registrations

/-- Registrations are a matter of the bookkeeping. -/
theorem Registered.of_sameBooks {g g' : Game} (hg : g.Registered) (hbooks : g.SameBooks g') :
    g'.Registered := by
  constructor
  · intro p hp
    have hmem : p.replication ∈ g.pieceBooks := hbooks.pieces ▸ List.mem_map_of_mem hp
    obtain ⟨q, hq, hqp⟩ := List.mem_map.1 hmem
    rw [← hqp]
    exact hg.pieces q hq
  · intro o ho
    have hmem : o.replication ∈ g.obstacleBooks := hbooks.obstacles ▸ List.mem_map_of_mem ho
    obtain ⟨q, hq, hqo⟩ := List.mem_map.1 hmem
    rw [← hqo]
    exact hg.obstacles q hq

/-- Entities that take a message keep their bookkeeping. -/
theorem sameBooks_heard (g : Game) (actions : List Action) (m : Message) :
    g.SameBooks (g.heard actions m) where
  link := rfl
  pieces := by
    simp only [pieceBooks, heard, List.map_map]
    refine List.map_congr_left fun p _ => ?_
    simp only [Function.comp_apply]
    split
    · exact Entity.replication_taking m p
    · rfl
  obstacles := by
    simp only [obstacleBooks, heard, List.map_map]
    refine List.map_congr_left fun o _ => ?_
    simp only [Function.comp_apply]
    split
    · exact Entity.replication_taking m o
    · rfl

end Game

namespace Station

/-- **Performing the handlers of entities**, in any number and order, hands the message once to each
entity that one of them leads to. -/
theorem foldl_updates {g : Game} {s : Station} (hgame : s.game = some g) (hkept : s.kept = [])
    (hg : g.Registered) (m : Message) (ctx : Context) {actions : List Action}
    (hupdates : ∀ a ∈ actions, a.isUpdate = true) :
    actions.foldl (fun s a => perform a m ctx s) s =
      { s with game := some (g.heard actions m) } := by
  induction actions generalizing g s with
  | nil =>
    have hheard : g.heard [] m = g := by simp [Game.heard]
    rw [List.foldl_nil, hheard, ← hgame]
  | cons a actions ih =>
    have hrest : ∀ b ∈ actions, b.isUpdate = true := fun b hb =>
      hupdates b (List.mem_cons_of_mem _ hb)
    -- One action is the case of a single handler; taking the message again changes nothing.
    have hone : perform a m ctx s = { s with game := some (g.heard [a] m) } := by
      cases a with
      | updatePiece key =>
        simp [perform, mapGame, hgame, hkept, Game.heard, updated_eq, eq_comm]
      | updateObstacle key =>
        simp [perform, mapGame, hgame, Game.heard, updated_eq, eq_comm]
      | _ => exact absurd (hupdates _ List.mem_cons_self) (by simp [Action.isUpdate])
    have hreg := hg.of_sameBooks (Game.sameBooks_heard g [a] m)
    rw [List.foldl_cons, hone, ih (g := g.heard [a] m) rfl (by simpa using hkept) hreg hrest]
    congr 2
    simp only [Game.heard, List.map_map]
    congr 1
    · refine List.map_congr_left fun p hp => ?_
      have hkey : Entity.key (Entity.taking m p) = Entity.key p :=
        congrArg (·.key) (Entity.replication_taking m p)
      simp only [Function.comp_apply, List.mem_cons, List.not_mem_nil, or_false]
      by_cases ha : Action.updatePiece (Entity.key p) = a
      · rw [if_pos ha, hkey, if_pos (Or.inl ha), Piece.taking_taking (hg.pieces p hp), ite_self]
      · simp [ha]
    · refine List.map_congr_left fun o ho => ?_
      have hkey : Entity.key (Entity.taking m o) = Entity.key o :=
        congrArg (·.key) (Entity.replication_taking m o)
      simp only [Function.comp_apply, List.mem_cons, List.not_mem_nil, or_false]
      by_cases ha : Action.updateObstacle (Entity.key o) = a
      · rw [if_pos ha, hkey, if_pos (Or.inl ha), Obstacle.taking_taking (hg.obstacles o ho),
          ite_self]
      · simp [ha]

/-- What the entities' handlers do with a message, in their order. -/
def entityActions (s : Station) (m : Message) : List Action :=
  (s.hub.registry.handlers.filter fun h => h.id.isAssigned && h.accepts m).map (·.action)

/-- A message is dispatched by performing the actions of the handlers that match it. -/
theorem receive_snd (s : Station) (m : Message) (ctx : Context) :
    (s.receive m ctx).2 =
      ((s.hub.registry.matching m).map (·.action)).foldl (fun s a => perform a m ctx s) s := by
  rw [List.foldl_map]
  rfl

namespace Wired

variable {reserved : List (Handler Action)} {g : Game} {s : Station}

/-- The handlers under ids of entities are those of entities. -/
theorem isUpdate_entityActions (hw : Wired reserved g s) (m : Message) :
    ∀ a ∈ s.entityActions m, a.isUpdate = true := by
  intro a ha
  obtain ⟨h, hh, rfl⟩ := List.mem_map.1 ha
  rw [List.mem_filter, Bool.and_eq_true] at hh
  have hroute : h.route ∈ g.routes :=
    hw.routes.mem_iff.1 (List.mem_map_of_mem (List.mem_filter.2 ⟨hh.1, hh.2.1⟩))
  rw [Game.routes, List.mem_append, Replication.mem_flatMap_routes,
    Replication.mem_flatMap_routes] at hroute
  rcases hroute with ⟨r, _, _, heq⟩ | ⟨r, _, _, heq⟩
  · rw [show h.action = _ from congrArg (·.2.2) heq]
    rfl
  · rw [show h.action = _ from congrArg (·.2.2) heq]
    rfl

/-- The entities' handlers that match a message are those of the routes under the message's id. -/
theorem mem_entityActions_iff (hw : Wired reserved g s) (m : Message) (a : Action) :
    a ∈ s.entityActions m ↔ m.id.isAssigned = true ∧ (.allTypes, m.id, a) ∈ g.routes := by
  have hall (r : ContentType × MessageId × Action) (hr : r ∈ g.routes) : r.1 = .allTypes := by
    rw [Game.routes, List.mem_append, Replication.mem_flatMap_routes,
      Replication.mem_flatMap_routes] at hr
    rcases hr with ⟨_, _, _, rfl⟩ | ⟨_, _, _, rfl⟩ <;> rfl
  simp only [entityActions, List.mem_map, List.mem_filter, Bool.and_eq_true]
  constructor
  · rintro ⟨h, ⟨hh, hassigned, haccepts⟩, rfl⟩
    have hroute : h.route ∈ g.routes :=
      hw.routes.mem_iff.1 (List.mem_map_of_mem (List.mem_filter.2 ⟨hh, hassigned⟩))
    have htype : h.type = .allTypes := hall _ hroute
    -- A handler for an entity does not listen to all ids.
    have hid : h.id = m.id := by
      simp only [Handler.accepts, Bool.and_eq_true, decide_eq_true_eq] at haccepts
      refine haccepts.2.resolve_left fun hid => ?_
      rw [hid] at hassigned
      exact absurd hassigned (by simp)
    refine ⟨hid ▸ hassigned, ?_⟩
    rwa [Handler.route, htype, hid] at hroute
  · rintro ⟨hassigned, hroute⟩
    obtain ⟨h, hh, hrouteEq⟩ := List.mem_map.1 (hw.routes.mem_iff.2 hroute)
    rw [List.mem_filter] at hh
    have htype : h.type = .allTypes := congrArg (·.1) hrouteEq
    have hid : h.id = m.id := congrArg (·.2.1) hrouteEq
    exact ⟨h, ⟨hh.1, hh.2, by simp [Handler.accepts, htype, hid]⟩, congrArg (·.2.2) hrouteEq⟩

/-- A message is for a piece exactly if it carries the piece's id. -/
theorem updatePiece_mem_entityActions_iff (hw : Wired reserved g s) {p : Piece}
    (hp : p ∈ g.pieces) (m : Message) :
    .updatePiece (Entity.key p) ∈ s.entityActions m ↔
      Entity.id p = m.id ∧ m.id.isAssigned = true := by
  have hr : p.replication ∈ g.pieceBooks := List.mem_map_of_mem hp
  rw [hw.mem_entityActions_iff, Game.updatePiece_mem_routes]
  constructor
  · rintro ⟨hassigned, r, hr', _, _, hid, hkey⟩
    -- Keys tell the pieces apart, so the handler's entity is this one.
    rw [List.inj_on_of_nodup_map hw.pieceKeys hr' hr hkey.symm] at hid
    exact ⟨hid.symm, hassigned⟩
  · rintro ⟨hid, hassigned⟩
    refine ⟨hassigned, p.replication, hr, ?_, rfl, hid.symm, rfl⟩
    rw [Replication.handles, show p.replication.id = m.id from hid, hassigned,
      (hw.pieces _ hr).link, hw.attached]
    rfl

/-- A message is for an obstacle exactly if it carries the obstacle's id. -/
theorem updateObstacle_mem_entityActions_iff (hw : Wired reserved g s) {o : Obstacle}
    (ho : o ∈ g.obstacles) (m : Message) :
    .updateObstacle (Entity.key o) ∈ s.entityActions m ↔
      Entity.id o = m.id ∧ m.id.isAssigned = true := by
  have hr : o.replication ∈ g.obstacleBooks := List.mem_map_of_mem ho
  rw [hw.mem_entityActions_iff, Game.updateObstacle_mem_routes]
  constructor
  · rintro ⟨hassigned, r, hr', _, _, hid, hkey⟩
    rw [List.inj_on_of_nodup_map hw.obstacleKeys hr' hr hkey.symm] at hid
    exact ⟨hid.symm, hassigned⟩
  · rintro ⟨hid, hassigned⟩
    refine ⟨hassigned, o.replication, hr, ?_, rfl, hid.symm, rfl⟩
    rw [Replication.handles, show o.replication.id = m.id from hid, hassigned,
      (hw.obstacles _ hr).link, hw.attached]
    rfl

/-- What the entities' handlers make of the game is the game told. -/
theorem heard_entityActions (hw : Wired reserved g s) (m : Message) :
    g.heard (s.entityActions m) m = g.told m := by
  unfold Game.heard Game.told
  congr 1
  · refine List.map_congr_left fun p hp => ?_
    simp only [hw.updatePiece_mem_entityActions_iff hp]
  · refine List.map_congr_left fun o ho => ?_
    simp only [hw.updateObstacle_mem_entityActions_iff ho]

/-- A message that the entities take leaves the bookkeeping alone. -/
theorem sameBooks_told (hw : Wired reserved g s) (m : Message) : g.SameBooks (g.told m) := by
  rw [← hw.heard_entityActions m]
  exact Game.sameBooks_heard g _ m

/-- **The entities' handlers tell the game a message**: every entity with the message's id takes it,
and nothing else changes. -/
theorem foldl_entityActions (hw : Wired reserved g s) (m : Message) (ctx : Context) :
    (s.entityActions m).foldl (fun s a => perform a m ctx s) s =
      { s with game := some (g.told m) } := by
  rw [foldl_updates hw.game hw.kept (Game.Registered.of_wired hw) m ctx
    (hw.isUpdate_entityActions m), hw.heard_entityActions]

end Wired

end Station

end Pursuit
