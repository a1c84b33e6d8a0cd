import Pursuit.Proofs.Colonies

/-! # When an entity goes, who is still reached

An entity that goes, or that is given another id, takes the handlers for its id with it, whomever
they lead to. Ids may coincide, so this can cut others off from their messages. This file says when.

* **`Colony.Reached`** — an entity that exactly one handler leads the messages under its id to.
* **`Colony.Deafens`** — what is wrong with a move: an entity gives up an id that another has too.
* **`Colony.reached_throughout_iff`** — all entities are reached throughout a history exactly if no
  move of it does that.
* **`Colony.successor_unreached`** — a history with such a move: a unit is let go of after another has
  been made under its id. -/

namespace Pursuit

/-- Whether messages can be addressed to an entity: it is on an endpoint, under an id that entities
may have. -/
def Entity.isAddressable {ε : Type} [Entity ε] (e : ε) : Bool :=
  (replication e).handles (Entity.id e)

namespace Colony

variable {ε : Type} [Entity ε]

/-! ## Who is reached -/

/-- **An entity that is reached**: of the handlers that match a message under its id, exactly one leads
to it, and after the message has been dispatched it has taken it, if it fits. -/
structure Reached (c : Colony ε) (e : ε) : Prop where
  /-- One handler leads to it. -/
  once : ∀ m : Message, m.id = Entity.id e →
    ((c.hub.registry.matching m).filter (·.action = Entity.key e)).length = 1
  /-- It takes what comes in. -/
  taken : ∀ (m : Message) (ctx : Context), m.id = Entity.id e →
    (c.deliver m ctx).2.member? (Entity.key e) = some (Entity.taking m e)

/-- All entities that messages can be addressed to are reached. -/
def AllReached (c : Colony ε) : Prop :=
  ∀ e ∈ c.members, Entity.isAddressable e = true → c.Reached e

/-- **An entity gives up an id that another has too**: it is gone, or has another id. -/
def Deafens (c c' : Colony ε) : Prop :=
  ∃ g ∈ c.members, ∃ e ∈ c.members, Entity.key e ≠ Entity.key g ∧
    Entity.isAddressable g = true ∧ Entity.isAddressable e = true ∧ Entity.id e = Entity.id g ∧
      ∀ g' ∈ c'.members, Entity.key g' = Entity.key g → Entity.id g' ≠ Entity.id g

instance (c c' : Colony ε) : Decidable (Deafens c c') :=
  inferInstanceAs (Decidable (∃ g ∈ c.members, ∃ e ∈ c.members, Entity.key e ≠ Entity.key g ∧
    Entity.isAddressable g = true ∧ Entity.isAddressable e = true ∧ Entity.id e = Entity.id g ∧
      ∀ g' ∈ c'.members, Entity.key g' = Entity.key g → Entity.id g' ≠ Entity.id g))

/-- Every entity that asks for a handler has one. -/
def Tuned (c : Colony ε) : Prop :=
  ∀ p ∈ c.posts, p.handles p.id = true → ∃ h ∈ c.handlers, h.LeadsTo p

variable {c c' : Colony ε}

section Reached

variable [LawfulEntity ε]

/-- **An entity is reached** exactly if a handler leads to it. -/
theorem Wired.reached_iff (hw : Wired c) {e : ε} (he : e ∈ c.members) :
    c.Reached e ↔ ∃ h ∈ c.handlers, h.LeadsTo (Entity.post e) := by
  have hpost : Entity.post e ∈ c.posts := List.mem_map_of_mem he
  constructor
  · intro hreached
    -- Any message under the id will do, whether it fits or not.
    let m : Message := ⟨⟨Entity.id e, .allTypes, 0⟩, []⟩
    obtain ⟨h, hh⟩ := List.exists_mem_of_length_pos (hreached.once m rfl ▸ Nat.one_pos)
    obtain ⟨hmatching, haction⟩ := List.mem_filter.1 hh
    have hmem : h ∈ c.handlers := List.mem_of_mem_filter hmatching
    exact ⟨h, hmem, hw.leadsTo hmem hpost (of_decide_eq_true haction)⟩
  · rintro ⟨h, hh, hleads⟩
    have hmatching (m : Message) (hm : m.id = Entity.id e) :
        Entity.key e ∈ (c.hub.registry.matching m).map (·.action) := by
      refine List.mem_map.2 ⟨h, List.mem_filter.2 ⟨hh, ?_⟩, hleads.action⟩
      have hid : h.id = m.id := hleads.id.trans hm.symm
      simp [Handler.accepts, hleads.type, hid]
    constructor
    · intro m hm
      have hcount := List.count_eq_one_of_mem (hw.once_matching m) (hmatching m hm)
      rw [List.count, List.countP_map, List.countP_eq_length_filter] at hcount
      exact hcount
    · intro m ctx hm
      -- Keys still tell the entities apart, so it is found under its own.
      have hw' : Wired (c.deliver m ctx).2 := hw.change (change_deliver hw m ctx)
      rw [← key_taking m e]
      refine hw'.member?_eq ?_
      rw [hw.deliver_eq]
      exact List.mem_map.2 ⟨e, he, if_pos (hmatching m hm)⟩

/-- All entities are reached exactly if each that asks for a handler has one. -/
theorem Wired.allReached_iff (hw : Wired c) : c.AllReached ↔ c.Tuned := by
  constructor
  · intro hall p hp hhandles
    obtain ⟨e, he, rfl⟩ := List.mem_map.1 hp
    exact (hw.reached_iff he).1 (hall e he hhandles)
  · intro htuned e he haddressable
    exact (hw.reached_iff he).2 (htuned _ (List.mem_map_of_mem he) haddressable)

end Reached

/-! ## What a move does to the others -/

/-- Whether a shared id is given up is told by what the endpoint knows of its entities. -/
theorem deafens_iff : Deafens c c' ↔
    ∃ p ∈ c.posts, ∃ q ∈ c.posts, q.key ≠ p.key ∧ p.handles p.id = true ∧
      q.handles q.id = true ∧ q.id = p.id ∧ ∀ p' ∈ c'.posts, p'.key = p.key → p'.id ≠ p.id := by
  constructor
  · rintro ⟨g, hg, e, he, hkey, hg', he', hid, hgone⟩
    exact ⟨Entity.post g, List.mem_map_of_mem hg, Entity.post e, List.mem_map_of_mem he, hkey, hg',
      he', hid, List.forall_mem_map.2 hgone⟩
  · rintro ⟨p, hp, q, hq, hkey, hp', hq', hid, hgone⟩
    obtain ⟨g, hg, rfl⟩ := List.mem_map.1 hp
    obtain ⟨e, he, rfl⟩ := List.mem_map.1 hq
    exact ⟨g, hg, e, he, hkey, hp', hq', hid, List.forall_mem_map.1 hgone⟩

/-- Nothing is given up where all posts are still there. -/
theorem not_deafens_of_subset (hposts : c.posts ⊆ c'.posts) : ¬ Deafens c c' := by
  rw [deafens_iff]
  rintro ⟨p, hp, -, -, -, -, -, -, hgone⟩
  exact hgone p (hposts hp) rfl rfl

/-- Where one entity alone gives its id up, only those who have the same id can miss it. -/
theorem Wired.deafens_iff_of_one (hw : Wired c) {p : Replication} (hp : p ∈ c.posts)
    (hothers : ∀ q ∈ c.posts, q.key ≠ p.key → q ∈ c'.posts)
    (hgone : ∀ p' ∈ c'.posts, p'.key = p.key → p'.id ≠ p.id) :
    Deafens c c' ↔
      ∃ q ∈ c.posts, q.key ≠ p.key ∧ q.handles q.id = true ∧ p.handles p.id = true ∧ q.id = p.id := by
  rw [deafens_iff]
  constructor
  · rintro ⟨p₀, hp₀, q, hq, hkey, hhandles, hhandles', hid, hgone₀⟩
    -- All others are as they were, so it is this one that gave its id up.
    have hkey₀ : p₀.key = p.key := by
      by_contra hne
      exact hgone₀ p₀ (hothers p₀ hp₀ hne) rfl rfl
    cases hw.eq_of_key hp₀ hp hkey₀
    exact ⟨q, hq, hkey, hhandles', hhandles, hid⟩
  · rintro ⟨q, hq, hkey, hhandles', hhandles, hid⟩
    exact ⟨p, hp, q, hq, hkey, hhandles, hhandles', hid, hgone⟩

/-- The entities that still have their handler when one of them gives its id up. -/
theorem Tuned.exists_spared_iff (ht : Tuned c) {p q : Replication} (hq : q ∈ c.posts)
    (hhandles : q.handles q.id = true) :
    (∃ h ∈ p.spared c.handlers, h.LeadsTo q) ↔ ¬ (p.handles p.id = true ∧ q.id = p.id) := by
  constructor
  · rintro ⟨h, hh, hleads⟩ ⟨hp, hid⟩
    have hspared := (List.mem_filter.1 hh).2
    simp [hp, hleads.id, hid] at hspared
  · intro hother
    obtain ⟨h, hh, hleads⟩ := ht q hq hhandles
    refine ⟨h, List.mem_filter.2 ⟨hh, ?_⟩, hleads⟩
    rw [hleads.id, Bool.not_eq_true', ← Bool.not_eq_true, Bool.and_eq_true, decide_eq_true_eq]
    exact hother

/-- An entity that joins deafens nobody, and has its own handler. -/
theorem Tuned.join (ht : Tuned c) {p : Replication} {n : UInt64} (hposts : c'.posts = c.posts ++ [p])
    (hhandlers : c'.handlers = c.handlers ++ p.newHandlers n p.key) : Tuned c' := by
  intro q hq hhandles
  rw [hposts, List.mem_append, List.mem_singleton] at hq
  rw [hhandlers]
  rcases hq with hq | rfl
  · obtain ⟨h, hh, hleads⟩ := ht q hq hhandles
    exact ⟨h, List.mem_append_left _ hh, hleads⟩
  · obtain ⟨h, hh, hleads⟩ := Replication.exists_mem_newHandlers hhandles n
    exact ⟨h, List.mem_append_right _ hh, hleads⟩

/-- **An entity that goes** deafens those who have its id. -/
theorem Wired.tuned_leave_iff (hw : Wired c) (ht : Tuned c) {p : Replication} (hp : p ∈ c.posts)
    (hposts : c'.posts = c.posts.filter (·.key ≠ p.key))
    (hhandlers : c'.handlers = p.spared c.handlers) : Tuned c' ↔ ¬ Deafens c c' := by
  have hmem (q : Replication) : q ∈ c'.posts ↔ q ∈ c.posts ∧ q.key ≠ p.key := by
    rw [hposts, List.mem_filter, decide_eq_true_eq]
  rw [hw.deafens_iff_of_one hp (fun q hq hkey => (hmem q).2 ⟨hq, hkey⟩)
    (fun q hq hkey => absurd hkey ((hmem q).1 hq).2)]
  unfold Tuned
  rw [hhandlers]
  constructor
  · rintro htuned ⟨q, hq, hkey, hhandles, hgone⟩
    exact (ht.exists_spared_iff hq hhandles).1 (htuned q ((hmem q).2 ⟨hq, hkey⟩) hhandles) hgone
  · intro hnone q hq hhandles
    obtain ⟨hq, hkey⟩ := (hmem q).1 hq
    exact (ht.exists_spared_iff hq hhandles).2 fun hgone => hnone ⟨q, hq, hkey, hhandles, hgone⟩

/-- **An entity that is given another id** deafens those who have its old one. -/
theorem Wired.tuned_rename_iff (hw : Wired c) (ht : Tuned c) {p : Replication} {id : MessageId}
    {n : UInt64} (hp : p ∈ c.posts) (hne : p.id ≠ id)
    (hposts : c'.posts = c.posts.map fun q => if q.key = p.key then { p with id := id } else q)
    (hhandlers : c'.handlers = p.spared c.handlers ++ { p with id := id }.newHandlers n p.key) :
    Tuned c' ↔ ¬ Deafens c c' := by
  have hmem (q : Replication) :
      q ∈ c'.posts ↔ q ∈ c.posts ∧ q.key ≠ p.key ∨ q = { p with id := id } := by
    rw [hposts]
    exact Replication.mem_map_rename_iff hp id q
  have hgone : ∀ q ∈ c'.posts, q.key = p.key → q.id ≠ p.id := by
    intro q hq hkey
    rcases (hmem q).1 hq with ⟨-, hother⟩ | rfl
    · exact absurd hkey hother
    · exact hne.symm
  rw [hw.deafens_iff_of_one hp (fun q hq hkey => (hmem q).2 (Or.inl ⟨hq, hkey⟩)) hgone]
  unfold Tuned
  rw [hhandlers]
  constructor
  · rintro htuned ⟨q, hq, hkey, hhandles, hgone⟩
    obtain ⟨h, hh, hleads⟩ := htuned q ((hmem q).2 (Or.inl ⟨hq, hkey⟩)) hhandles
    refine (ht.exists_spared_iff hq hhandles).1 ⟨h, ?_, hleads⟩ hgone
    -- The new handler leads to the entity with the new id.
    refine (List.mem_append.1 hh).resolve_right fun hnew => hkey ?_
    have hnew := (Replication.mem_newHandlers_iff (p := { p with id := id })).1 hnew
    exact hleads.action.symm.trans hnew.1.action
  · intro hnone q hq hhandles
    rcases (hmem q).1 hq with ⟨hq, hkey⟩ | rfl
    · obtain ⟨h, hh, hleads⟩ := (ht.exists_spared_iff (p := p) hq hhandles).2 fun hgone =>
        hnone ⟨q, hq, hkey, hhandles, hgone⟩
      exact ⟨h, List.mem_append_left _ hh, hleads⟩
    · obtain ⟨h, hh, hleads⟩ := Replication.exists_mem_newHandlers hhandles n
      exact ⟨h, List.mem_append_right _ hh, hleads⟩

/-- **What a move can do** leaves every entity its handler exactly if no entity gives up an id that
another has too. -/
theorem Wired.tuned_iff (hw : Wired c) (ht : Tuned c) (hchange : Change c c') :
    Tuned c' ↔ ¬ Deafens c c' := by
  cases hchange with
  | stays hposts hhandlers _ _ =>
    refine iff_of_true ?_ (not_deafens_of_subset (by rw [hposts]; exact List.Subset.refl _))
    unfold Tuned
    rw [hposts, hhandlers]
    exact ht
  | joins p n _ hposts hhandlers _ _ =>
    exact iff_of_true (ht.join hposts hhandlers)
      (not_deafens_of_subset (by rw [hposts]; exact List.subset_append_left _ _))
  | leaves p hp hposts hhandlers _ _ => exact hw.tuned_leave_iff ht hp hposts hhandlers
  | renames p id n hp hne hposts hhandlers _ _ =>
    exact hw.tuned_rename_iff ht hp hne hposts hhandlers

/-! ## Histories -/

section Histories

variable [LawfulEntity ε]

omit [LawfulEntity ε] in
/-- A run goes on by its next move. -/
theorem run_take_succ (ids : IdAllocator) {moves : List (Move ε)} {n : Nat}
    (hn : n < moves.length) :
    run ids (moves.take (n + 1)) = (run ids (moves.take n)).step moves[n] := by
  rw [run, ← List.take_append_getElem hn, List.foldl_append]
  rfl

/-- **All entities are reached throughout a history** exactly if no move of it lets an entity go, or
gives it another id, while another entity has the same id. -/
theorem reached_throughout_iff (ids : IdAllocator) (moves : List (Move ε)) :
    (∀ n ≤ moves.length, (run ids (moves.take n)).AllReached) ↔
      ∀ n < moves.length, ¬ Deafens (run ids (moves.take n)) (run ids (moves.take (n + 1))) := by
  have hwired (n : Nat) : Wired (run ids (moves.take n)) := wired_run ids _
  have hchange (n : Nat) (hn : n < moves.length) :
      Change (run ids (moves.take n)) (run ids (moves.take (n + 1))) := by
    rw [run_take_succ ids hn]
    exact change_step (hwired n) _
  constructor
  · intro hall n hn
    have hbefore := (hwired n).allReached_iff.1 (hall n (Nat.le_of_lt hn))
    have hafter := (hwired (n + 1)).allReached_iff.1 (hall (n + 1) hn)
    exact ((hwired n).tuned_iff hbefore (hchange n hn)).1 hafter
  · intro hnone n
    -- Whether everybody has a handler is decided move by move.
    induction n with
    | zero =>
      intro _ e he
      exact absurd he List.not_mem_nil
    | succ n ih =>
      intro hn
      have hbefore := (hwired n).allReached_iff.1 (ih (Nat.le_of_succ_le hn))
      exact (hwired (n + 1)).allReached_iff.2
        (((hwired n).tuned_iff hbefore (hchange n hn)).2 (hnone n hn))

end Histories

/-- A unit is seen under the first id. -/
def sighting : Message := ⟨⟨.first, .gameUnit, 14⟩, Payload.toBytes (default : PieceState)⟩

/-- A unit and an obstacle are made under the same id, and hear from it. -/
def coincidence : List (Move (Piece ⊕ Obstacle)) :=
  [.createFrom (.inl (.new 0 .client)) false sighting,
    .createFrom (.inr (.new 0 .client)) false
      ⟨⟨.first, .gameObstacle, 12⟩, Payload.toBytes (default : ObstacleState)⟩,
    .deliver sighting .fromServer]

/-- Two entities under one id are both reached as long as both are there. -/
theorem reached_throughout_coincidence :
    (run {} coincidence).members.map Entity.id = [.first, .first] ∧
      ∀ n ≤ coincidence.length, (run {} (coincidence.take n)).AllReached :=
  ⟨by decide, (reached_throughout_iff {} coincidence).2 (by decide)⟩

/-- A unit is made and let go of by its game, while somebody keeps it. Another is made under the same
id, and then the first is given back. -/
def succession : List (Move Piece) :=
  [.createFrom (.new 0 .client) false sighting, .share 0, .release 0,
    .createFrom (.new 0 .client) false sighting, .release 0]

/-- **A unit loses its handler to its predecessor**: it lives under the first id, and messages under
that id go to nobody. -/
theorem successor_unreached :
    ((run {} succession).members.map fun e => (Entity.key e, Entity.id e)) = [(1, .first)] ∧
      ((run {} succession).deliver sighting .fromServer).1 = 0 ∧
        ¬ (run {} succession).AllReached := by
  refine ⟨by decide, by decide, fun hall => ?_⟩
  have hnobody : (run {} succession).hub.registry.matching sighting = [] := rfl
  obtain ⟨e, he, haddressable, hid⟩ : ∃ e ∈ (run {} succession).members,
      Entity.isAddressable e = true ∧ Entity.id e = .first := by decide
  have honce := (hall e he haddressable).once sighting hid.symm
  rw [hnobody] at honce
  cases honce

end Colony

end Pursuit
