import Mathlib.Data.List.Induction
import Mathlib.Data.List.Nodup
import Pursuit.Proofs.Telling
import Pursuit.Replica.Record

/-! # What an endpoint knows of its entities

Handlers see no more of an entity than its key, its id and whether it is on an endpoint. This file
says what each move of a colony does to that and to the handlers, and which invariant they keep.

* **`Entity.post`, `Colony.posts`** — what an endpoint knows of an entity, and of all of them.
* **`Colony.Change`, `Colony.change_step`** — the four things that a move can do: nothing, let an
  entity in, let one go, or give one another id.
* **`Colony.Wired`, `Colony.wired_run`** — every handler leads to an entity that lives, under its id,
  and no two lead to the same. `Colony.mem_handles_run_iff` reads off it which entities live.
* **`Colony.Wired.deliver_eq`** — who takes a message: the entities that a matching handler leads to. -/

namespace Pursuit

/-! ## More lawful entities -/

instance : LawfulEntity Record where
  replication_withReplication _ _ := rfl
  replication_decode h := by
    simp only [Entity.decode, Record.overwrite] at h
    split at h <;> cases h
    rfl
  replication_noted _ _ := rfl

/-- What is mapped to a result was one. -/
theorem exists_of_map_eq_ok {ε α β : Type} {f : α → β} {x : Except ε α} {b : β}
    (h : x.map f = .ok b) : ∃ a, x = .ok a ∧ f a = b := by
  cases x with
  | error => cases h
  | ok a =>
    cases h
    exact ⟨a, rfl, rfl⟩

/-- Entities of two types on one endpoint. -/
instance {ε ε' : Type} [Entity ε] [Entity ε'] : Entity (ε ⊕ ε') where
  replication := Sum.elim Entity.replication Entity.replication
  withReplication e r := e.map (Entity.withReplication · r) (Entity.withReplication · r)
  encode e type := e.elim (Entity.encode · type) (Entity.encode · type)
  decode e type bytes :=
    e.elim (fun e => (Entity.decode e type bytes).map .inl)
      (fun e => (Entity.decode e type bytes).map .inr)
  noted e type := e.map (Entity.noted · type) (Entity.noted · type)

instance {ε ε' : Type} [Entity ε] [Entity ε'] [LawfulEntity ε] [LawfulEntity ε'] :
    LawfulEntity (ε ⊕ ε') where
  replication_withReplication e r := by
    cases e with
    | inl e => exact LawfulEntity.replication_withReplication e r
    | inr e => exact LawfulEntity.replication_withReplication e r
  replication_decode {e _ _ _} h := by
    cases e with
    | inl e =>
      obtain ⟨e', hdecode, rfl⟩ := exists_of_map_eq_ok h
      exact (LawfulEntity.replication_decode hdecode : _ = Entity.replication e)
    | inr e =>
      obtain ⟨e', hdecode, rfl⟩ := exists_of_map_eq_ok h
      exact (LawfulEntity.replication_decode hdecode : _ = Entity.replication e)
  replication_noted e type := by
    cases e with
    | inl e => exact LawfulEntity.replication_noted e type
    | inr e => exact LawfulEntity.replication_noted e type

/-! ## Posts -/

/-- What an endpoint knows of an entity: its bookkeeping without the registrations. -/
def Entity.post {ε : Type} [Entity ε] (e : ε) : Replication :=
  { replication e with registrations := [] }

/-- An endpoint tells entities apart by their bookkeeping only. -/
theorem Entity.post_congr {ε : Type} [Entity ε] {e e' : ε} (h : replication e' = replication e) :
    post e' = post e := by
  rw [post, h, post]

/-- The post of an entity that is given an id. -/
theorem Entity.post_assign {ε α : Type} [Entity ε] [LawfulEntity ε] (e : ε) (id : MessageId)
    (action : α) (hub : Hub α) :
    post (withReplication e ((replication e).assign id action hub).1) =
      { post e with id := id } := by
  rw [post, LawfulEntity.replication_withReplication, Replication.assign_fst]
  rfl

/-- Whether a handler is the one that an entity with this bookkeeping has asked for. -/
structure Handler.LeadsTo (h : Handler Nat) (p : Replication) : Prop where
  /-- The entity has an id for which there are handlers. -/
  handles : p.handles p.id = true
  /-- The handler is for all content types. -/
  type : h.type = .allTypes
  /-- It is for the entity's id. -/
  id : h.id = p.id
  /-- It leads to the entity. -/
  action : h.action = p.key

/-- The handlers that are left when those for an entity's id are removed. -/
def Replication.spared {α : Type} (p : Replication) (handlers : List (Handler α)) :
    List (Handler α) :=
  handlers.filter fun h => !(p.handles p.id && h.id = p.id)

/-- The new handlers of an entity are those that lead to it under the given number. -/
theorem Replication.mem_newHandlers_iff {p : Replication} {n : UInt64} {h : Handler Nat} :
    h ∈ p.newHandlers n p.key ↔ h.LeadsTo p ∧ h.number = n := by
  unfold newHandlers
  split
  · rename_i hhandles
    rw [List.mem_singleton]
    constructor
    · rintro rfl
      exact ⟨⟨hhandles, rfl, rfl, rfl⟩, rfl⟩
    · rintro ⟨hleads, hnumber⟩
      cases h
      cases hleads.type
      cases hleads.id
      cases hleads.action
      cases hnumber
      rfl
  · rename_i hhandles
    simp only [List.not_mem_nil, false_iff]
    rintro ⟨hleads, _⟩
    exact hhandles hleads.handles

/-- An entity with an id for which there are handlers has one among its new handlers. -/
theorem Replication.exists_mem_newHandlers {p : Replication} (hhandles : p.handles p.id = true)
    (n : UInt64) : ∃ h ∈ p.newHandlers n p.key, h.LeadsTo p := by
  have hleads : Handler.LeadsTo ⟨n, .allTypes, p.id, p.key⟩ p := ⟨hhandles, rfl, rfl, rfl⟩
  exact ⟨_, mem_newHandlers_iff.2 ⟨hleads, rfl⟩, hleads⟩

/-- The posts when one of them is given another id. -/
theorem Replication.mem_map_rename_iff {ps : List Replication} {p : Replication} (hp : p ∈ ps)
    (id : MessageId) (q : Replication) :
    q ∈ ps.map (fun q => if q.key = p.key then { p with id := id } else q) ↔
      q ∈ ps ∧ q.key ≠ p.key ∨ q = { p with id := id } := by
  rw [List.mem_map]
  constructor
  · rintro ⟨r, hr, rfl⟩
    split
    · exact Or.inr rfl
    · rename_i hkey
      exact Or.inl ⟨hr, hkey⟩
  · rintro (⟨hq, hkey⟩ | rfl)
    · exact ⟨q, hq, if_neg hkey⟩
    · exact ⟨p, hp, if_pos rfl⟩

namespace Colony

variable {ε : Type} [Entity ε]

/-- What an endpoint knows of its entities. -/
def posts (c : Colony ε) : List Replication := c.members.map Entity.post

/-- The handlers of an endpoint. -/
def handlers (c : Colony ε) : List (Handler Nat) := c.hub.registry.handlers

/-- The endpoint knows the entities by their keys. -/
theorem keys_posts (c : Colony ε) : c.posts.map (·.key) = c.members.map Entity.key := by
  rw [posts, List.map_map]
  rfl

/-- An entity that is found under a key lives, and has the key. -/
theorem mem_of_member? {c : Colony ε} {key : Nat} {e : ε} (h : c.member? key = some e) :
    e ∈ c.members ∧ Entity.key e = key :=
  ⟨List.mem_of_find?_eq_some h, by simpa using List.find?_some h⟩

/-- An entity that is replaced by another one under its key has that one's post. -/
theorem posts_replace (c : Colony ε) (key : Nat) (e : ε) :
    (c.replace key e).posts = c.posts.map fun p => if p.key = key then Entity.post e else p := by
  rw [posts, posts, replace, List.map_map, List.map_map]
  refine List.map_congr_left fun x _ => ?_
  rw [Function.comp_apply, Function.comp_apply, apply_ite Entity.post]
  rfl

/-! ## What a move can do -/

/-- **What a move can do** to the entities of an endpoint, as far as the endpoint knows them, to its
handlers, and to the handles that others have to the entities. -/
inductive Change (c c' : Colony ε) : Prop where
  /-- The endpoint notices nothing. -/
  | stays (posts : c'.posts = c.posts) (handlers : c'.handlers = c.handlers)
    (held : ∀ key, key ∈ c'.handles ↔ key ∈ c.handles) (nextKey : c'.nextKey = c.nextKey)
  /-- An entity joins the others. -/
  | joins (p : Replication) (n : UInt64) (key : p.key = c.nextKey)
    (posts : c'.posts = c.posts ++ [p])
    (handlers : c'.handlers = c.handlers ++ p.newHandlers n p.key)
    (held : ∀ key, key ∈ c'.handles ↔ key ∈ c.handles ∨ key = p.key)
    (nextKey : c'.nextKey = c.nextKey + 1)
  /-- An entity is gone, and with it the handlers for its id. -/
  | leaves (p : Replication) (mem : p ∈ c.posts)
    (posts : c'.posts = c.posts.filter (·.key ≠ p.key))
    (handlers : c'.handlers = p.spared c.handlers)
    (held : ∀ key, key ∈ c'.handles ↔ key ∈ c.handles ∧ key ≠ p.key)
    (nextKey : c'.nextKey = c.nextKey)
  /-- An entity has another id. The handlers for the old one are gone. -/
  | renames (p : Replication) (id : MessageId) (n : UInt64) (mem : p ∈ c.posts) (ne : p.id ≠ id)
    (posts : c'.posts = c.posts.map fun q => if q.key = p.key then { p with id := id } else q)
    (handlers : c'.handlers = p.spared c.handlers ++ { p with id := id }.newHandlers n p.key)
    (held : ∀ key, key ∈ c'.handles ↔ key ∈ c.handles) (nextKey : c'.nextKey = c.nextKey)

/-! ## The invariant -/

/-- **Handlers that lead to entities.** No two entities share a key, those that live are those that
somebody has a handle to, every handler leads to one of them, and no two lead to the same. -/
structure Wired (c : Colony ε) : Prop where
  /-- No two entities share a key. -/
  keys : (c.posts.map (·.key)).Nodup
  /-- Their keys were given out before. -/
  key_lt : ∀ p ∈ c.posts, p.key < c.nextKey
  /-- The entities that live are those that somebody has a handle to. -/
  held : ∀ key, key ∈ c.handles ↔ key ∈ c.posts.map (·.key)
  /-- Every handler leads to an entity. -/
  leads : ∀ h ∈ c.handlers, ∃ p ∈ c.posts, h.LeadsTo p
  /-- No two lead to the same. -/
  once : (c.handlers.map (·.action)).Nodup

namespace Wired

variable {c c' : Colony ε}

/-- On an endpoint without entities no handler leads astray. -/
theorem new (ids : IdAllocator) : Wired ({ hub := { ids := ids } } : Colony ε) where
  keys := List.nodup_nil
  key_lt _ hp := absurd hp List.not_mem_nil
  held key := by simp [posts]
  leads _ hh := absurd hh List.not_mem_nil
  once := List.nodup_nil

/-- Keys tell the entities apart. -/
theorem eq_of_key (hw : Wired c) {p q : Replication} (hp : p ∈ c.posts) (hq : q ∈ c.posts)
    (hkey : p.key = q.key) : p = q :=
  List.inj_on_of_nodup_map hw.keys hp hq hkey

/-- An entity that lives is found under its key. -/
theorem member?_eq (hw : Wired c) {e : ε} (he : e ∈ c.members) :
    c.member? (Entity.key e) = some e := by
  have hkeys : (c.members.map Entity.key).Nodup := keys_posts c ▸ hw.keys
  have hsome : (c.member? (Entity.key e)).isSome := List.find?_isSome.2 ⟨e, he, by simp⟩
  obtain ⟨x, hx⟩ := Option.isSome_iff_exists.1 hsome
  obtain ⟨hmem, hkey⟩ := mem_of_member? hx
  rw [hx, List.inj_on_of_nodup_map hkeys hmem he hkey]

/-- A handler that leads to an entity's key is the one that it asked for. -/
theorem leadsTo (hw : Wired c) {h : Handler Nat} (hh : h ∈ c.handlers) {p : Replication}
    (hp : p ∈ c.posts) (hkey : h.action = p.key) : h.LeadsTo p := by
  obtain ⟨q, hq, hleads⟩ := hw.leads h hh
  rwa [hw.eq_of_key hp hq (hkey.symm.trans hleads.action)]

/-- The handlers that are spared when an entity gives its id up lead to others. -/
theorem leads_of_mem_spared (hw : Wired c) {p : Replication} (hp : p ∈ c.posts) {h : Handler Nat}
    (hh : h ∈ p.spared c.handlers) : ∃ q ∈ c.posts, q.key ≠ p.key ∧ h.LeadsTo q := by
  obtain ⟨hmem, hspared⟩ := List.mem_filter.1 hh
  obtain ⟨q, hq, hleads⟩ := hw.leads h hmem
  refine ⟨q, hq, fun hkey => ?_, hleads⟩
  -- The entity's own handler is for its own id, and has been removed.
  cases hw.eq_of_key hq hp hkey
  simp [hleads.handles, hleads.id] at hspared

/-- No two handlers that match a message lead to the same entity. -/
theorem once_matching (hw : Wired c) (m : Message) :
    ((c.hub.registry.matching m).map (·.action)).Nodup :=
  hw.once.sublist (List.filter_sublist.map _)

/-- No two of the handlers that are left lead to the same entity. -/
theorem once_spared (hw : Wired c) (p : Replication) :
    ((p.spared c.handlers).map (·.action)).Nodup :=
  hw.once.sublist (List.filter_sublist.map _)

/-- Handlers with one more, for an entity that none of them leads to. -/
theorem once_append {hs : List (Handler Nat)} (honce : (hs.map (·.action)).Nodup) {p : Replication}
    (hnone : ∀ h ∈ hs, h.action ≠ p.key) (n : UInt64) :
    ((hs ++ p.newHandlers n p.key).map (·.action)).Nodup := by
  rw [List.map_append, List.nodup_append]
  refine ⟨honce, ?_, ?_⟩
  · unfold Replication.newHandlers
    split
    · exact List.nodup_singleton _
    · exact List.nodup_nil
  · -- The new handler leads to the entity itself.
    intro a ha b hb hab
    obtain ⟨h, hh, rfl⟩ := List.mem_map.1 ha
    obtain ⟨h', hh', rfl⟩ := List.mem_map.1 hb
    exact hnone h hh (hab.trans (Replication.mem_newHandlers_iff.1 hh').1.action)

/-- An entity joins the others under a key that none of them has. -/
theorem join (hw : Wired c) {p : Replication} {n : UInt64} (hkey : p.key = c.nextKey)
    (hposts : c'.posts = c.posts ++ [p])
    (hhandlers : c'.handlers = c.handlers ++ p.newHandlers n p.key)
    (hheld : ∀ key, key ∈ c'.handles ↔ key ∈ c.handles ∨ key = p.key)
    (hnext : c'.nextKey = c.nextKey + 1) : Wired c' := by
  -- The new key is the next one, and all others were given out before.
  have hfresh : ∀ q ∈ c.posts, q.key ≠ p.key := by
    intro q hq
    have := hw.key_lt q hq
    omega
  have hmem (q : Replication) : q ∈ c'.posts ↔ q ∈ c.posts ∨ q = p := by
    rw [hposts, List.mem_append, List.mem_singleton]
  refine { keys := ?keys, key_lt := ?bound, held := ?held, leads := ?leads, once := ?once }
  case keys =>
    rw [hposts, List.map_append, List.nodup_append]
    refine ⟨hw.keys, List.nodup_singleton _, ?_⟩
    intro a ha b hb
    obtain ⟨q, hq, rfl⟩ := List.mem_map.1 ha
    cases List.mem_singleton.1 hb
    exact hfresh q hq
  case bound =>
    intro q hq
    rcases (hmem q).1 hq with hq | rfl
    · have := hw.key_lt q hq
      omega
    · omega
  case held =>
    intro key
    rw [hheld, hw.held, hposts, List.map_append, List.mem_append, List.map_singleton,
      List.mem_singleton]
  case leads =>
    intro h hh
    rw [hhandlers, List.mem_append, Replication.mem_newHandlers_iff] at hh
    -- The handler was there before, or it is the newcomer's own.
    rcases hh with hh | hh
    · obtain ⟨q, hq, hleads⟩ := hw.leads h hh
      exact ⟨q, (hmem q).2 (Or.inl hq), hleads⟩
    · exact ⟨p, (hmem p).2 (Or.inr rfl), hh.1⟩
  case once =>
    rw [hhandlers]
    refine once_append hw.once ?_ n
    intro h hh haction
    obtain ⟨q, hq, hleads⟩ := hw.leads h hh
    exact hfresh q hq (hleads.action.symm.trans haction)

/-- An entity goes, and the handlers for its id with it. -/
theorem leave (hw : Wired c) {p : Replication} (hp : p ∈ c.posts)
    (hposts : c'.posts = c.posts.filter (·.key ≠ p.key))
    (hhandlers : c'.handlers = p.spared c.handlers)
    (hheld : ∀ key, key ∈ c'.handles ↔ key ∈ c.handles ∧ key ≠ p.key)
    (hnext : c'.nextKey = c.nextKey) : Wired c' := by
  have hmem (q : Replication) : q ∈ c'.posts ↔ q ∈ c.posts ∧ q.key ≠ p.key := by
    rw [hposts, List.mem_filter, decide_eq_true_eq]
  refine { keys := ?keys, key_lt := ?bound, held := ?held, leads := ?leads, once := ?once }
  case keys =>
    rw [hposts]
    exact hw.keys.sublist (List.filter_sublist.map _)
  case bound =>
    intro q hq
    rw [hnext]
    exact hw.key_lt q ((hmem q).1 hq).1
  case held =>
    intro key
    rw [hheld, hw.held, List.mem_map, List.mem_map]
    constructor
    · rintro ⟨⟨q, hq, rfl⟩, hkey⟩
      exact ⟨q, (hmem q).2 ⟨hq, hkey⟩, rfl⟩
    · rintro ⟨q, hq, rfl⟩
      exact ⟨⟨q, ((hmem q).1 hq).1, rfl⟩, ((hmem q).1 hq).2⟩
  case leads =>
    intro h hh
    rw [hhandlers] at hh
    -- A handler that is left leads to another entity.
    obtain ⟨q, hq, hne, hleads⟩ := hw.leads_of_mem_spared hp hh
    exact ⟨q, (hmem q).2 ⟨hq, hne⟩, hleads⟩
  case once =>
    rw [hhandlers]
    exact hw.once_spared p

/-- An entity is given another id: the handlers for the old one go, and its own is added. -/
theorem rename (hw : Wired c) {p : Replication} {id : MessageId} {n : UInt64} (hp : p ∈ c.posts)
    (hposts : c'.posts = c.posts.map fun q => if q.key = p.key then { p with id := id } else q)
    (hhandlers : c'.handlers = p.spared c.handlers ++ { p with id := id }.newHandlers n p.key)
    (hheld : ∀ key, key ∈ c'.handles ↔ key ∈ c.handles) (hnext : c'.nextKey = c.nextKey) :
    Wired c' := by
  -- The keys are the same as before.
  have hkeys : c'.posts.map (·.key) = c.posts.map (·.key) := by
    rw [hposts, List.map_map]
    refine List.map_congr_left fun q _ => ?_
    rw [Function.comp_apply]
    split
    · rename_i h
      exact h.symm
    · rfl
  refine { keys := ?keys, key_lt := ?bound, held := ?held, leads := ?leads, once := ?once }
  case keys =>
    rw [hkeys]
    exact hw.keys
  case bound =>
    intro q hq
    have hmem : q.key ∈ c.posts.map (·.key) := hkeys ▸ List.mem_map_of_mem hq
    obtain ⟨r, hr, hkey⟩ := List.mem_map.1 hmem
    rw [hnext, ← hkey]
    exact hw.key_lt r hr
  case held =>
    intro key
    rw [hheld, hw.held, hkeys]
  case leads =>
    intro h hh
    rw [hhandlers, List.mem_append] at hh
    simp only [hposts, Replication.mem_map_rename_iff hp]
    rcases hh with hh | hh
    · obtain ⟨q, hq, hother, hleads⟩ := hw.leads_of_mem_spared hp hh
      exact ⟨q, Or.inl ⟨hq, hother⟩, hleads⟩
    · exact ⟨{ p with id := id }, Or.inr rfl, (Replication.mem_newHandlers_iff.1 hh).1⟩
  case once =>
    rw [hhandlers]
    refine once_append (p := { p with id := id }) (hw.once_spared p) ?_ n
    intro h hh haction
    obtain ⟨q, _, hother, hleads⟩ := hw.leads_of_mem_spared hp hh
    exact hother (hleads.action.symm.trans haction)

/-- **What a move can do keeps the invariant.** -/
theorem change (hw : Wired c) (hchange : Change c c') : Wired c' := by
  cases hchange with
  | stays hposts hhandlers hheld hnext =>
    exact {
      keys := by rw [hposts]; exact hw.keys
      key_lt := by rw [hposts, hnext]; exact hw.key_lt
      held := fun key => by rw [hposts, hheld, hw.held]
      leads := by rw [hposts, hhandlers]; exact hw.leads
      once := by rw [hhandlers]; exact hw.once }
  | joins p n hkey hposts hhandlers hheld hnext =>
    exact hw.join hkey hposts hhandlers hheld hnext
  | leaves p hp hposts hhandlers hheld hnext =>
    exact hw.leave hp hposts hhandlers hheld hnext
  | renames p id n hp _ hposts hhandlers hheld hnext =>
    exact hw.rename hp hposts hhandlers hheld hnext

end Wired

/-! ## Taking messages -/

section Lawful

variable [LawfulEntity ε] {c : Colony ε}

/-- An entity keeps its key when it takes a message. -/
@[simp] theorem key_taking (m : Message) (e : ε) :
    Entity.key (Entity.taking m e) = Entity.key e :=
  congrArg (·.key) (Entity.replication_taking m e)

/-- Entities whose keys are named once each take a message once. -/
theorem foldl_receive {keys : List Nat} (hkeys : keys.Nodup) (m : Message) (ctx : Context)
    (c : Colony ε) :
    keys.foldl (fun c key => receive key m ctx c) c =
      { c with members := c.members.map fun e =>
          if Entity.key e ∈ keys then Entity.taking m e else e } := by
  induction keys generalizing c with
  | nil => simp
  | cons key keys ih =>
    obtain ⟨hkey, hkeys⟩ := List.nodup_cons.1 hkeys
    rw [List.foldl_cons, ih hkeys]
    simp only [receive, List.map_map]
    congr 1
    refine List.map_congr_left fun e _ => ?_
    rw [Function.comp_apply]
    by_cases he : Entity.key e = key
    · -- The entity takes the message now, and is not named again.
      have htaking : (Entity.update? e m).getD e = Entity.taking m e := rfl
      simp [he, htaking, hkey]
    · simp [he]

/-- **Who takes a message**: the entities that a matching handler leads to. -/
theorem Wired.deliver_eq (hw : Wired c) (m : Message) (ctx : Context) :
    c.deliver m ctx = ((c.hub.registry.matching m).length,
      { c with members := c.members.map fun e =>
          if Entity.key e ∈ (c.hub.registry.matching m).map (·.action) then Entity.taking m e
          else e }) := by
  rw [← foldl_receive (hw.once_matching m) m ctx c, List.foldl_map]
  rfl

/-- A message that is delivered changes nothing that the endpoint knows of its entities. -/
theorem Wired.posts_deliver (hw : Wired c) (m : Message) (ctx : Context) :
    (c.deliver m ctx).2.posts = c.posts := by
  rw [hw.deliver_eq, posts, posts, List.map_map]
  refine List.map_congr_left fun e _ => ?_
  rw [Function.comp_apply]
  split
  · exact Entity.post_congr (Entity.replication_taking m e)
  · rfl

/-! ## What the moves do -/

/-- A newcomer has no id of its own. -/
theorem isAssigned_newcomer (c : Colony ε) (e : ε) (isEvent : Bool) :
    (Entity.replication (c.newcomer e isEvent)).id.isAssigned = false := by
  rw [newcomer, LawfulEntity.replication_withReplication]
  cases isEvent <;> rfl

/-- A newcomer is the entity with the next key. -/
theorem key_newcomer (c : Colony ε) (e : ε) (isEvent : Bool) :
    (Entity.replication (c.newcomer e isEvent)).key = c.nextKey := by
  rw [newcomer, LawfulEntity.replication_withReplication]

omit [Entity ε] [LawfulEntity ε] in
/-- An entity that enters is held under the next key, and all others as they were. -/
theorem mem_handles_enter (c : Colony ε) (e : ε) (hub : Hub Nat) (key : Nat) :
    key ∈ (c.enter e hub).handles ↔ key ∈ c.handles ∨ key = c.nextKey := by
  rw [enter, List.mem_append, List.mem_singleton]

/-- Creating an entity lets one in. -/
theorem change_create (c : Colony ε) (e : ε) (isEvent : Bool) :
    Change c (c.create e isEvent).2 := by
  have hkey : (Entity.post (c.newcomer e isEvent)).key = c.nextKey := key_newcomer c e isEvent
  refine .joins (Entity.post (c.newcomer e isEvent)) 0 hkey List.map_append ?_ ?_ rfl
  · -- Without an id of its own it asks for no handler.
    have hhandles : (Entity.post (c.newcomer e isEvent)).handles
        (Entity.post (c.newcomer e isEvent)).id = false := by
      show (_ && _) = false
      rw [show (Entity.post (c.newcomer e isEvent)).id.isAssigned = false from
        isAssigned_newcomer c e isEvent, Bool.false_and]
    rw [Replication.newHandlers, hhandles]
    exact (List.append_nil _).symm
  · rw [hkey]
    exact mem_handles_enter c _ _

/-- Creating an entity from a message lets one in, if the message is understood. -/
theorem change_createFrom (c : Colony ε) (e : ε) (isEvent : Bool) (m : Message) :
    Change c (c.createFrom e isEvent m).2 := by
  unfold createFrom Entity.create?
  cases htaken : Entity.update? (c.newcomer e isEvent) m with
  | none => exact .stays rfl rfl (fun _ => Iff.rfl) rfl
  | some e₁ =>
    -- What came in has left key and id of the newcomer alone.
    have hreplication : Entity.replication e₁ = Entity.replication (c.newcomer e isEvent) :=
      Entity.replication_of_update? htaken
    have hkey : (Entity.replication e₁).key = c.nextKey := by
      rw [hreplication, key_newcomer]
    have hreserved : (Entity.replication e₁).id.isAssigned = false := by
      rw [hreplication]
      exact isAssigned_newcomer c e isEvent
    refine .joins { Entity.post e₁ with id := m.id } c.hub.registry.nextNumber hkey ?_ ?_ ?_ rfl
    · rw [← Entity.post_assign e₁ m.id c.nextKey c.hub]
      exact List.map_append
    · refine (Replication.handlers_assign hreserved m.id c.nextKey c.hub).trans ?_
      rw [← hkey]
      rfl
    · rw [show ({ Entity.post e₁ with id := m.id } : Replication).key = c.nextKey from hkey]
      exact mem_handles_enter c _ _

omit [LawfulEntity ε] in
/-- Sharing a handle changes nothing that the endpoint notices. -/
theorem change_share (c : Colony ε) (key : Nat) : Change c (c.share key) := by
  unfold share
  split
  · rename_i hheld
    refine .stays rfl rfl (fun k => ?_) rfl
    rw [List.mem_append, List.mem_singleton, or_iff_left_of_imp]
    rintro rfl
    exact hheld
  · exact .stays rfl rfl (fun _ => Iff.rfl) rfl

omit [LawfulEntity ε] in
/-- Giving a handle back lets the entity go, if nobody else has one. -/
theorem change_release (hw : Wired c) (key : Nat) : Change c (c.release key) := by
  have herase (k : Nat) (hk : k ≠ key) : k ∈ c.handles.erase key ↔ k ∈ c.handles :=
    List.mem_erase_of_ne hk
  unfold release
  dsimp only
  split
  · rename_i hheld
    refine .stays rfl rfl (fun k => ?_) rfl
    by_cases hk : k = key
    · subst hk
      exact iff_of_true hheld (List.mem_of_mem_erase hheld)
    · exact herase k hk
  · rename_i hlast
    split
    · rename_i e hmember
      obtain ⟨he, hkey⟩ := mem_of_member? hmember
      refine .leaves (Entity.post e) (List.mem_map_of_mem he) ?_
        (Replication.handlers_retire _ c.hub) (fun k => ?_) rfl
      · rw [posts, posts, List.filter_map, ← hkey]
        rfl
      · show k ∈ c.handles.erase key ↔ k ∈ c.handles ∧ k ≠ Entity.key e
        rw [hkey]
        by_cases hk : k = key
        · subst hk
          exact iff_of_false hlast fun h => h.2 rfl
        · rw [herase k hk, and_iff_left hk]
    · rename_i hmember
      -- Nobody has a handle to an entity that is gone.
      have hgone : key ∉ c.handles := by
        rw [hw.held, keys_posts]
        intro hkey
        obtain ⟨e, he, hkey⟩ := List.mem_map.1 hkey
        exact List.find?_eq_none.1 hmember e he (decide_eq_true hkey)
      refine .stays rfl rfl (fun k => ?_) rfl
      show k ∈ c.handles.erase key ↔ k ∈ c.handles
      rw [List.erase_of_not_mem hgone]

omit [LawfulEntity ε] in
/-- An entity that is replaced by one with the same post. -/
theorem posts_replace_of_post (hw : Wired c) {e e' : ε} (he : e ∈ c.members)
    (hpost : Entity.post e' = Entity.post e) :
    (c.replace (Entity.key e) e').posts = c.posts := by
  rw [posts_replace, hpost]
  refine (List.map_congr_left fun p hp => ?_).trans (List.map_id _)
  split
  · rename_i hkey
    exact (hw.eq_of_key hp (List.mem_map_of_mem he) hkey).symm
  · rfl

/-- An entity that is given an id, with the hub that comes of it. -/
theorem change_assign (hw : Wired c) {e : ε} (he : e ∈ c.members) (id : MessageId)
    (hub : Hub Nat) (hhub : hub.registry = c.hub.registry) (outbox : Outbox) :
    Change c ({ c with
      hub := ((Entity.replication e).assign id (Entity.key e) hub).2
      outbox := outbox }.replace (Entity.key e)
        (Entity.withReplication e
          ((Entity.replication e).assign id (Entity.key e) hub).1)) := by
  have hpost := Entity.post_assign e id (Entity.key e) hub
  by_cases hid : (Entity.replication e).id = id
  · -- The id that the entity has already changes nothing.
    have hsame : ((Entity.replication e).assign id (Entity.key e) hub).2 = hub := by
      rw [Replication.assign, if_pos hid]
    refine .stays (posts_replace_of_post hw he ?_) ?_ (fun _ => Iff.rfl) rfl
    · rw [hpost, ← hid]
      rfl
    · show ((Entity.replication e).assign id (Entity.key e) hub).2.registry.handlers = _
      rw [hsame, hhub]
      rfl
  · refine .renames (Entity.post e) id hub.registry.nextNumber (List.mem_map_of_mem he) hid ?_ ?_
      (fun _ => Iff.rfl) rfl
    · rw [posts_replace, hpost]
      rfl
    · refine (Replication.handlers_assign_of_ne hid (Entity.key e) hub).trans ?_
      rw [hhub]
      rfl

/-- A command gives an entity another id, or changes nothing that the endpoint notices. -/
theorem change_perform (hw : Wired c) (key : Nat) (command : EntityCommand) :
    Change c (((c.perform key command).map (·.2)).getD c) := by
  cases hmember : c.member? key with
  | none =>
    rw [perform, hmember]
    exact .stays rfl rfl (fun _ => Iff.rfl) rfl
  | some e =>
    obtain ⟨he, rfl⟩ := mem_of_member? hmember
    rw [perform, hmember, Option.map_some, Option.map_some, Option.getD_some]
    -- All commands but two leave id and handlers alone.
    have hkeep (e' : ε) (hpost : Entity.post e' = Entity.post e) (outbox : Outbox) :
        Change c ({ c with outbox := outbox }.replace (Entity.key e) e') :=
      .stays (posts_replace_of_post hw he hpost) rfl (fun _ => Iff.rfl) rfl
    have hbooks (r : Replication) (hr : { r with registrations := [] } = Entity.post e) :
        Entity.post (Entity.withReplication e r) = Entity.post e := by
      rw [Entity.post, LawfulEntity.replication_withReplication, hr]
    cases command with
    | assign id => exact change_assign hw he id c.hub rfl c.outbox
    | generate =>
      simp only [Entity.perform, Replication.generate]
      split
      · exact change_assign hw he c.hub.ids.next.1 { c.hub with ids := c.hub.ids.next.2 } rfl c.outbox
      · exact hkeep _ (hbooks _ rfl) _
    | register type size urgency =>
      exact hkeep _ (hbooks ((Entity.replication e).register type size urgency) rfl) _
    | setSending type enabled =>
      exact hkeep _ (hbooks ((Entity.replication e).setSending type enabled) rfl) _
    | registrations => exact hkeep e rfl _
    | encode type => exact hkeep e rfl _
    | decode type bytes =>
      cases hdecode : Entity.decode e type bytes with
      | error =>
        simp only [Entity.perform, hdecode]
        exact hkeep e rfl _
      | ok e' =>
        simp only [Entity.perform, hdecode]
        exact hkeep e' (Entity.post_congr (LawfulEntity.replication_decode hdecode)) _
    | update m =>
      cases hupdate : Entity.update? e m with
      | none =>
        simp only [Entity.perform, hupdate]
        exact hkeep e rfl _
      | some e' =>
        simp only [Entity.perform, hupdate]
        exact hkeep e' (Entity.post_congr (Entity.replication_of_update? hupdate)) _
    | synchronize target threshold => exact hkeep e rfl _
    | debug => exact hkeep e rfl _

/-- Delivering a message changes nothing that the endpoint notices. -/
theorem change_deliver (hw : Wired c) (m : Message) (ctx : Context) :
    Change c (c.deliver m ctx).2 := by
  refine .stays (hw.posts_deliver m ctx) ?_ (fun key => ?_) ?_
  · rw [hw.deliver_eq]
    rfl
  · rw [hw.deliver_eq]
  · rw [hw.deliver_eq]

/-- **Every move does one of the four things.** -/
theorem change_step (hw : Wired c) (move : Move ε) : Change c (c.step move) := by
  cases move with
  | create e isEvent => exact change_create c e isEvent
  | createFrom e isEvent m => exact change_createFrom c e isEvent m
  | share key => exact change_share c key
  | release key => exact change_release hw key
  | command key command => exact change_perform hw key command
  | deliver m ctx => exact change_deliver hw m ctx

/-- **Every history keeps the invariant.** -/
theorem wired_run (ids : IdAllocator) (moves : List (Move ε)) : Wired (run ids moves) := by
  -- The last move is made in what has come of the others.
  induction moves using List.reverseRecOn with
  | nil => exact Wired.new ids
  | append_singleton moves move ih =>
    rw [run, List.foldl_append]
    exact ih.change (change_step ih move)

/-- **An entity lives** exactly as long as somebody has a handle to it. -/
theorem mem_handles_run_iff (ids : IdAllocator) (moves : List (Move ε)) (key : Nat) :
    key ∈ (run ids moves).handles ↔ ∃ e ∈ (run ids moves).members, Entity.key e = key := by
  rw [(wired_run ids moves).held, keys_posts, List.mem_map]

end Lawful

end Colony

end Pursuit
