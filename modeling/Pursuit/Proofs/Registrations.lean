import Mathlib.Data.List.Induction
import Mathlib.Data.List.Nodup
import Pursuit.Replica.Replication

/-! # What an entity has been told to replicate

Content types are registered, their sending is allowed and stopped, in any order and any number of
times. What stands in the bookkeeping afterwards can be read off the calls without following them one
by one: only the last registration of a content type counts, and what came after it.

* **`Replication.Setting`** — such a call. `Replication.set` makes it.
* **`Replication.Told`** — bookkeeping that came about by given calls.
* **`Setting.LastRegistered`, `Setting.KeepsSending`** — the calls that decide about a content type.
* **`Replication.Records`** — the registrations that calls come to.
* **`Replication.Told.records`** — bookkeeping holds the registrations of the calls it came about
  by. -/

namespace Pursuit

/-- A list that ends in `x`, taken apart at some element `y`: either `y` is the last one, or what
follows it ends in `x` as well. -/
theorem concat_eq_append_cons_iff {α : Type} {xs ys zs : List α} {x y : α} :
    xs ++ [x] = ys ++ y :: zs ↔
      (zs = [] ∧ xs = ys ∧ x = y) ∨ ∃ zs', zs = zs' ++ [x] ∧ xs = ys ++ y :: zs' := by
  constructor
  · -- The two lists end alike, so it matters whether anything comes after the second's middle.
    intro h
    rcases List.eq_nil_or_concat zs with rfl | ⟨zs', z, rfl⟩
    · exact .inl ⟨rfl, List.append_singleton_inj.1 h⟩
    · rw [List.concat_eq_append, ← List.cons_append, ← List.append_assoc] at h
      obtain ⟨hxs, rfl⟩ := List.append_singleton_inj.1 h
      exact .inr ⟨zs', List.concat_eq_append, hxs⟩
  · rintro (⟨rfl, rfl, rfl⟩ | ⟨zs', rfl, rfl⟩)
    · rfl
    · rw [List.append_assoc, List.cons_append]

/-- One more element is kept if it was not there before. -/
theorem eraseDups_concat {α : Type} [BEq α] [LawfulBEq α] [DecidableEq α] (xs : List α) (x : α) :
    (xs ++ [x]).eraseDups = xs.eraseDups ++ if x ∈ xs then [] else [x] := by
  rw [List.eraseDups_append, List.removeAll]
  by_cases h : x ∈ xs <;> simp [h, List.eraseDups_cons]

namespace Replication

/-! ## Calls -/

/-- A call that changes what an entity replicates. -/
inductive Setting where
  /-- Registers a content type. -/
  | register (type : ContentType) (size : Nat) (urgency : Urgency)
  /-- Allows the sending of a content type. -/
  | enable (type : ContentType)
  /-- Stops the sending of a content type. -/
  | disable (type : ContentType)
deriving DecidableEq, Repr

/-- The bookkeeping after a call. -/
def set (r : Replication) : Setting → Replication
  | .register type size urgency => r.register type size urgency
  | .enable type => r.setSending type true
  | .disable type => r.setSending type false

/-- Bookkeeping that came about by the given calls, the first one first. Its key and its id may have
changed meanwhile. -/
inductive Told : List Setting → Replication → Prop where
  /-- A new entity has registered nothing. -/
  | new (key : Nat) (id : MessageId) (link : Link) : Told [] ⟨key, id, [], link⟩
  /-- One more call. -/
  | set {calls : List Setting} {r : Replication} (call : Setting) :
      Told calls r → Told (calls ++ [call]) (r.set call)
  /-- The entity is known by another name. -/
  | renamed {calls : List Setting} {r : Replication} (key : Nat) (id : MessageId) :
      Told calls r → Told calls { r with key, id }

namespace Setting

variable {calls after : List Setting} {c : Setting} {type : ContentType} {size : Nat}
  {urgency : Urgency}

/-- The content type that a call registers. -/
def registered? : Setting → Option ContentType
  | register type _ _ => some type
  | _ => none

/-- What a call makes of a registration that is there already. -/
def change : Setting → Registration → Registration
  | register type size urgency, x => if x.type = type then ⟨type, size, urgency, true⟩ else x
  | enable type, x => if x.type = type then { x with sending := true } else x
  | disable type, x => if x.type = type then { x with sending := false } else x

/-- No setting changes the content type of a registration. -/
@[simp] theorem type_change (c : Setting) (x : Registration) : (c.change x).type = x.type := by
  cases c <;> simp only [change] <;> split <;> simp_all

/-! ## The calls that count -/

/-- Among the calls, the last registration of a content type gave it this size and urgency, and
`after` are the calls that came later. -/
def LastRegistered (calls : List Setting) (type : ContentType) (size : Nat) (urgency : Urgency)
    (after : List Setting) : Prop :=
  (∃ before, calls = before ++ register type size urgency :: after) ∧
    type ∉ after.filterMap registered?

/-- Calls after which a content type is sent, if it was sent before: none of them stops it, or one of
them allows it that comes after all that stop it. -/
def KeepsSending (type : ContentType) (after : List Setting) : Prop :=
  disable type ∉ after ∨
    ∃ before rest, after = before ++ enable type :: rest ∧ disable type ∉ rest

/-- The last registration of a type is the one just made, if one was. -/
theorem lastRegistered_concat_of_registered (hc : c.registered? = some type) :
    LastRegistered (calls ++ [c]) type size urgency after ↔
      c = register type size urgency ∧ after = [] := by
  unfold LastRegistered
  simp only [concat_eq_append_cons_iff]
  constructor
  · rintro ⟨⟨before, ⟨rfl, _, rfl⟩ | ⟨after', rfl, _⟩⟩, hlast⟩
    · exact ⟨rfl, rfl⟩
    · simp [hc] at hlast
  · rintro ⟨rfl, rfl⟩
    exact ⟨⟨calls, .inl ⟨rfl, rfl, rfl⟩⟩, by simp⟩

/-- A call that does not register the type leaves its last registration, one call further back. -/
theorem lastRegistered_concat_of_ne (hc : c.registered? ≠ some type) :
    LastRegistered (calls ++ [c]) type size urgency after ↔
      ∃ after', after = after' ++ [c] ∧ LastRegistered calls type size urgency after' := by
  unfold LastRegistered
  simp only [concat_eq_append_cons_iff]
  constructor
  · rintro ⟨⟨before, ⟨rfl, _, rfl⟩ | ⟨after', rfl, hcalls⟩⟩, hlast⟩
    · exact absurd rfl hc
    · refine ⟨after', rfl, ⟨before, hcalls⟩, fun hmem => hlast ?_⟩
      rw [List.filterMap_append]
      exact List.mem_append_left _ hmem
  · rintro ⟨after', rfl, ⟨before, hcalls⟩, hlast⟩
    refine ⟨⟨before, .inr ⟨after', rfl, hcalls⟩⟩, ?_⟩
    rw [List.filterMap_append, List.mem_append, not_or]
    refine ⟨hlast, fun hmem => ?_⟩
    obtain ⟨_, hd, htype⟩ := List.mem_filterMap.1 hmem
    rw [List.mem_singleton] at hd
    exact hc (hd ▸ htype)

/-- What was registered at all was registered a last time. -/
theorem exists_lastRegistered (h : type ∈ calls.filterMap registered?) :
    ∃ size urgency after, LastRegistered calls type size urgency after := by
  -- From the end: either the last call registers the type, or the last one that does is an earlier one.
  induction calls using List.reverseRecOn with
  | nil => cases h
  | append_singleton calls c ih =>
    by_cases hc : c.registered? = some type
    · cases c with
      | register type' size urgency =>
        cases hc
        exact ⟨size, urgency, [], (lastRegistered_concat_of_registered rfl).2 ⟨rfl, rfl⟩⟩
      | enable | disable => cases hc
    · rw [List.filterMap_append, List.mem_append] at h
      have hearlier : type ∈ calls.filterMap registered? := h.resolve_right fun hmem => by
        obtain ⟨_, hd, htype⟩ := List.mem_filterMap.1 hmem
        rw [List.mem_singleton] at hd
        exact hc (hd ▸ htype)
      obtain ⟨size, urgency, after, hlast⟩ := ih hearlier
      exact ⟨size, urgency, after ++ [c], (lastRegistered_concat_of_ne hc).2 ⟨after, rfl, hlast⟩⟩

/-- A type is sent before anything is said about it. -/
theorem keepsSending_nil : KeepsSending type [] := .inl List.not_mem_nil

/-- A type is sent once it has been enabled. -/
theorem keepsSending_concat_enable : KeepsSending type (after ++ [enable type]) :=
  .inr ⟨after, [], rfl, List.not_mem_nil⟩

/-- A type is not sent once it has been disabled. -/
theorem not_keepsSending_concat_disable : ¬ KeepsSending type (after ++ [disable type]) := by
  rintro (hnone | ⟨before, rest, heq, hrest⟩)
  · exact hnone List.mem_concat_self
  · rcases concat_eq_append_cons_iff.1 heq with ⟨_, _, hlast⟩ | ⟨rest', rfl, _⟩
    · cases hlast
    · exact hrest List.mem_concat_self

/-- Whether a type is sent is not changed by calls that neither enable nor disable it. -/
theorem keepsSending_concat_of_ne (henable : c ≠ enable type) (hdisable : c ≠ disable type) :
    KeepsSending type (after ++ [c]) ↔ KeepsSending type after := by
  have hmem (rest : List Setting) : disable type ∈ rest ++ [c] ↔ disable type ∈ rest := by
    simp [Ne.symm hdisable]
  unfold KeepsSending
  rw [hmem]
  refine or_congr_right ⟨?_, ?_⟩
  · rintro ⟨before, rest, heq, hrest⟩
    rcases concat_eq_append_cons_iff.1 heq with ⟨_, _, hlast⟩ | ⟨rest', rfl, hafter⟩
    · exact absurd hlast henable
    · exact ⟨before, rest', hafter, fun h => hrest ((hmem _).2 h)⟩
  · rintro ⟨before, rest, rfl, hrest⟩
    exact ⟨before, rest ++ [c], by simp, fun h => hrest ((hmem _).1 h)⟩

end Setting

/-! ## The registrations that calls come to -/

open Setting

variable {r : Replication} {calls : List Setting} {type : ContentType} {x : Registration}

/-- The content types that are registered. -/
def types (r : Replication) : List ContentType := r.registrations.map (·.type)

/-- A registration is found exactly for the types that are registered. -/
theorem isSome_find?_iff : (r.find? type).isSome ↔ type ∈ r.types := by
  simp [find?, types]

/-- A registration found under its content type is the one that there is. -/
theorem find?_eq_some_iff (hnodup : r.types.Nodup) :
    r.find? type = some x ↔ x ∈ r.registrations ∧ x.type = type := by
  constructor
  · intro h
    exact ⟨List.mem_of_find?_eq_some h, by simpa using List.find?_some h⟩
  · -- Something is found, and no other registration has the type.
    rintro ⟨hx, rfl⟩
    obtain ⟨y, hy⟩ := Option.isSome_iff_exists.1 (isSome_find?_iff.2 (List.mem_map_of_mem hx))
    have htype : y.type = x.type := by simpa using List.find?_some hy
    rw [hy, List.inj_on_of_nodup_map hnodup (List.mem_of_find?_eq_some hy) hx htype]

/-- A call moves no registration. -/
theorem map_change (r : Replication) (c : Setting) :
    (r.registrations.map c.change).map (·.type) = r.types := by
  rw [List.map_map]
  exact List.map_congr_left fun x _ => c.type_change x

/-- A registration stands where the first one of its content type was put. -/
theorem types_set_register (r : Replication) (type : ContentType) (size : Nat) (urgency : Urgency) :
    (r.set (.register type size urgency)).types =
      r.types ++ if type ∈ r.types then [] else [type] := by
  by_cases h : (r.find? type).isSome
  · have hset : (r.set (.register type size urgency)).registrations =
        r.registrations.map (Setting.register type size urgency).change := if_pos h
    rw [types, hset, map_change, if_pos (isSome_find?_iff.1 h), List.append_nil]
  · have hset : (r.set (.register type size urgency)).registrations =
        r.registrations ++ [⟨type, size, urgency, true⟩] := if_neg h
    rw [types, hset, List.map_append, if_neg (mt isSome_find?_iff.2 h)]
    rfl

/-- A call that registers nothing leaves the types that are registered. -/
theorem types_set_of_none {c : Setting} (hc : c.registered? = none) : (r.set c).types = r.types := by
  cases c with
  | register => cases hc
  | enable type => exact r.map_change (.enable type)
  | disable type => exact r.map_change (.disable type)

/-- A call changes the registrations that are there, and takes none away. -/
theorem change_mem_set (hx : x ∈ r.registrations) (c : Setting) :
    c.change x ∈ (r.set c).registrations := by
  cases c with
  | register type size urgency =>
    simp only [set, register]
    split
    · exact List.mem_map_of_mem hx
    · rename_i h
      have hne : x.type ≠ type := fun heq =>
        h (isSome_find?_iff.2 (heq ▸ List.mem_map_of_mem hx))
      rw [change, if_neg hne]
      exact List.mem_append_left _ hx
  | enable type => exact List.mem_map_of_mem hx
  | disable type => exact List.mem_map_of_mem hx

/-- What is registered now is there, and is sent. -/
theorem mem_set_register (r : Replication) (type : ContentType) (size : Nat) (urgency : Urgency) :
    ⟨type, size, urgency, true⟩ ∈ (r.set (.register type size urgency)).registrations := by
  simp only [set, register]
  split
  · rename_i h
    obtain ⟨x, hx, htype⟩ := List.mem_map.1 (isSome_find?_iff.1 h)
    exact List.mem_map.2 ⟨x, hx, if_pos htype⟩
  · exact List.mem_append_right _ (List.mem_singleton_self _)

/-- The registrations that calls come to. -/
structure Records (calls : List Setting) (r : Replication) : Prop where
  /-- They stand in the order in which their content types were first registered. -/
  types_eq : r.types = (calls.filterMap registered?).eraseDups
  /-- No content type has two. -/
  nodup : r.types.Nodup
  /-- Each is what the last registration of its content type made it, and is sent unless that was
  stopped later and not allowed again. -/
  latest : ∀ {type size urgency after}, LastRegistered calls type size urgency after →
    ∃ x ∈ r.registrations, x.type = type ∧ x.size = size ∧ x.urgency = urgency ∧
      (x.sending = true ↔ KeepsSending type after)

/-- **One more call** keeps the registrations what the calls come to. -/
theorem Records.set (h : Records calls r) (c : Setting) : Records (calls ++ [c]) (r.set c) := by
  refine ⟨?_, ?_, fun {type size urgency after} hlast => ?_⟩
  · rw [List.filterMap_append]
    cases c with
    | register type size urgency =>
      change _ = (calls.filterMap registered? ++ [type]).eraseDups
      rw [types_set_register, eraseDups_concat]
      simp only [h.types_eq, List.mem_eraseDups]
    | enable type | disable type =>
      change _ = (calls.filterMap registered? ++ []).eraseDups
      rw [types_set_of_none rfl, List.append_nil, h.types_eq]
  · cases c with
    | register type size urgency =>
      rw [types_set_register]
      split
      · rw [List.append_nil]
        exact h.nodup
      · rename_i hnew
        exact h.nodup.append (List.nodup_singleton _) (List.disjoint_singleton.2 hnew)
    | enable | disable =>
      rw [types_set_of_none rfl]
      exact h.nodup
  · -- The call is the last registration itself, or it comes after it.
    by_cases hc : c.registered? = some type
    · obtain ⟨rfl, rfl⟩ := (lastRegistered_concat_of_registered hc).1 hlast
      exact ⟨_, r.mem_set_register type size urgency, rfl, rfl, rfl,
        iff_of_true rfl keepsSending_nil⟩
    · obtain ⟨after', rfl, hlast'⟩ := (lastRegistered_concat_of_ne hc).1 hlast
      obtain ⟨x, hx, rfl, rfl, rfl, hsending⟩ := h.latest hlast'
      refine ⟨c.change x, change_mem_set hx c, c.type_change x, ?_⟩
      cases c with
      | register type' size' urgency' =>
        have hne : x.type ≠ type' := fun heq => hc (heq ▸ rfl)
        rw [change, if_neg hne, keepsSending_concat_of_ne (by simp) (by simp)]
        exact ⟨rfl, rfl, hsending⟩
      | enable type' =>
        by_cases htype : x.type = type'
        · subst htype
          rw [change, if_pos rfl]
          exact ⟨rfl, rfl, iff_of_true rfl keepsSending_concat_enable⟩
        · rw [change, if_neg htype,
            keepsSending_concat_of_ne (by simpa using Ne.symm htype) (by simp)]
          exact ⟨rfl, rfl, hsending⟩
      | disable type' =>
        by_cases htype : x.type = type'
        · subst htype
          rw [change, if_pos rfl]
          exact ⟨rfl, rfl, iff_of_false (by simp) not_keepsSending_concat_disable⟩
        · rw [change, if_neg htype,
            keepsSending_concat_of_ne (by simp) (by simpa using Ne.symm htype)]
          exact ⟨rfl, rfl, hsending⟩

/-- **Bookkeeping holds what the calls come to** that it came about by. -/
theorem Told.records (h : Told calls r) : Records calls r := by
  induction h with
  | new key id link =>
    refine ⟨rfl, List.nodup_nil, fun {type size urgency after} hlast => ?_⟩
    obtain ⟨before, heq⟩ := hlast.1
    simp at heq
  | set call _ ih => exact ih.set call
  | renamed key id _ ih => exact ⟨ih.types_eq, ih.nodup, ih.latest⟩

/-- Calls made one after the other are all told. -/
theorem Told.run {before : List Setting} (calls : List Setting) (h : Told before r) :
    Told (before ++ calls) (calls.foldl Replication.set r) := by
  induction calls generalizing before r with
  | nil => rwa [List.append_nil]
  | cons c calls ih => simpa using ih (h.set c)

/-- A content type is registered with a size if its last registration says so. -/
theorem Records.find?_eq_some_iff (h : Records calls r) :
    (∃ x, r.find? type = some x ∧ x.size = size) ↔
      ∃ urgency after, LastRegistered calls type size urgency after := by
  constructor
  · rintro ⟨x, hx, rfl⟩
    have htypes : type ∈ r.types := isSome_find?_iff.1 (Option.isSome_of_eq_some hx)
    rw [h.types_eq, List.mem_eraseDups] at htypes
    obtain ⟨size, urgency, after, hlast⟩ := exists_lastRegistered htypes
    obtain ⟨y, hy, htype, rfl, _⟩ := h.latest hlast
    have hxy : some x = some y := by
      rw [← hx]
      exact (Replication.find?_eq_some_iff h.nodup).2 ⟨hy, htype⟩
    cases hxy
    exact ⟨urgency, after, hlast⟩
  · rintro ⟨urgency, after, hlast⟩
    obtain ⟨x, hx, htype, hsize, _⟩ := h.latest hlast
    exact ⟨x, (Replication.find?_eq_some_iff h.nodup).2 ⟨hx, htype⟩, hsize⟩

end Replication

end Pursuit
