import Mathlib.Data.List.Nodup
import Mathlib.Data.List.Rotate
import Mathlib.Data.Nat.ModEq
import Pursuit.Message.Allocator

/-! # Ids of entities in turn

The counter behind the ids of entities goes around, passing over the reserved ones.

* **`IdAllocator.turn`, `IdAllocator.Yields`** — the counter moves on by one candidate, again and
  again until one is not reserved. **`IdAllocator.yields_iff`**: that comes to an end from everywhere,
  with the next id.
* **`IdAllocator.place`** — how far the counter has come on its way around.
* **`IdAllocator.take_fst_eq`** — the ids that it hands out from there.
* **`IdAllocator.nodup_take`** — on one way around, no id is handed out twice.
* **`IdAllocator.take_count_fst`** — one way around hands out all ids of entities, in increasing order
  but for where it begins.
* **`IdAllocator.ids_go_around`** — all of this together. -/

namespace Pursuit

/-- How many ids there are for entities. -/
def MessageId.count : Nat := UInt16.size - MessageId.first.code.toNat

namespace IdAllocator

/-! ## Candidates one after the other -/

/-- One turn at the counter: it moves on, and hands out its candidate unless that is reserved. -/
def turn (a : IdAllocator) : Option MessageId × IdAllocator :=
  (if MessageId.first.code ≤ a.candidate then some ⟨a.candidate⟩ else none, ⟨a.candidate + 1⟩)

/-- **Turn after turn until an id is handed out**: after so many turns it is this one, and the counter
stands there. -/
inductive Yields : IdAllocator → Nat → MessageId → IdAllocator → Prop where
  /-- The turn hands out an id. -/
  | found {a b : IdAllocator} {id : MessageId} (h : a.turn = (some id, b)) : Yields a 1 id b
  /-- The turn passes over a reserved candidate. -/
  | passed {a b c : IdAllocator} {turns : Nat} {id : MessageId} (h : a.turn = (none, b))
      (rest : Yields b turns id c) : Yields a (turns + 1) id c

/-- How many reserved candidates come before the next id. -/
def passes (a : IdAllocator) : Nat := MessageId.first.code.toNat - a.candidate.toNat

/-- A turn that hands out an id hands out the next one. -/
theorem next_of_turn_some {a b : IdAllocator} {id : MessageId} (h : a.turn = (some id, b)) :
    a.next = (id, b) ∧ a.passes = 0 := by
  obtain ⟨hid, rfl⟩ := Prod.mk.inj h
  split at hid
  case isTrue hle =>
    cases hid
    refine ⟨?_, Nat.sub_eq_zero_of_le (UInt16.le_iff_toNat_le.1 hle)⟩
    simp only [next, if_neg (UInt16.not_lt.2 hle)]
  case isFalse => cases hid

/-- A turn that passes over a reserved candidate leaves the next id as it is. -/
theorem next_of_turn_none {a b : IdAllocator} (h : a.turn = (none, b)) :
    a.next = b.next ∧ a.passes = b.passes + 1 := by
  obtain ⟨hid, rfl⟩ := Prod.mk.inj h
  split at hid
  case isTrue => cases hid
  case isFalse hle =>
    have hlt : a.candidate.toNat < 3 := UInt16.lt_iff_toNat_lt.1 (UInt16.not_le.1 hle)
    -- The candidate after a reserved one is reserved as well, or the first that is not.
    have hcandidate : a.candidate = 0 ∨ a.candidate = 1 ∨ a.candidate = 2 := by
      simp only [← UInt16.toNat_inj]
      change a.candidate.toNat = 0 ∨ a.candidate.toNat = 1 ∨ a.candidate.toNat = 2
      omega
    obtain ⟨candidate⟩ := a
    rcases hcandidate with rfl | rfl | rfl <;> exact ⟨rfl, rfl⟩

/-- **The turns come to an end**, with the next id. -/
theorem yields_next (a : IdAllocator) : a.Yields (a.passes + 1) a.next.1 a.next.2 := by
  -- Each turn leaves one reserved candidate less, so the counter varies.
  induction hk : a.passes generalizing a with
  | zero =>
    rcases hturn : a.turn with ⟨_ | id, b⟩
    · have hpasses := (next_of_turn_none hturn).2
      omega
    · rw [(next_of_turn_some hturn).1]
      exact .found hturn
  | succ k ih =>
    rcases hturn : a.turn with ⟨_ | id, b⟩
    · obtain ⟨hnext, hpasses⟩ := next_of_turn_none hturn
      rw [hnext]
      exact .passed hturn (ih b (by omega))
    · have hpasses := (next_of_turn_some hturn).2
      omega

/-- Where the turns come to an end, **it is with the next id**. -/
theorem Yields.eq_next {a b : IdAllocator} {turns : Nat} {id : MessageId}
    (h : a.Yields turns id b) : turns = a.passes + 1 ∧ a.next = (id, b) := by
  induction h with
  | found hturn =>
    obtain ⟨hnext, hpasses⟩ := next_of_turn_some hturn
    exact ⟨by rw [hpasses], hnext⟩
  | passed hturn _ ih =>
    obtain ⟨hnext, hpasses⟩ := next_of_turn_none hturn
    exact ⟨by rw [ih.1, hpasses], hnext.trans ih.2⟩

/-- The loop behind an id ends after one turn more than there are ids to pass over, with the next
id. -/
theorem yields_iff {a b : IdAllocator} {turns : Nat} {id : MessageId} :
    a.Yields turns id b ↔ turns = a.passes + 1 ∧ a.next = (id, b) := by
  constructor
  · exact Yields.eq_next
  · rintro ⟨rfl, hnext⟩
    have h := a.yields_next
    rwa [hnext] at h

/-! ## Places -/

/-- How many ids of entities come before the next one. -/
def place (a : IdAllocator) : Nat := a.candidate.toNat - MessageId.first.code.toNat

/-- The id of an entity at a place. -/
def idAt (place : Nat) : MessageId := ⟨.ofNat (MessageId.first.code.toNat + place)⟩

/-- There are 65533 ids for entities. -/
theorem count_eq : MessageId.count = 65533 := rfl

/-- The place of a counter is one of the ids'. -/
theorem place_lt (a : IdAllocator) : a.place < MessageId.count := by
  have h := a.candidate.toNat_lt
  change a.candidate.toNat - 3 < 65533
  omega

/-- The ids for entities begin at three. -/
theorem toNat_idAt {k : Nat} (hk : k < MessageId.count) : (idAt k).code.toNat = 3 + k := by
  change (UInt16.ofNat (3 + k)).toNat = 3 + k
  rw [UInt16.toNat_ofNat']
  rw [count_eq] at hk
  omega

/-- Places are told apart by their ids. -/
theorem idAt_inj {j k : Nat} (hj : j < MessageId.count) (hk : k < MessageId.count)
    (h : idAt j = idAt k) : j = k := by
  have h' : (idAt j).code.toNat = (idAt k).code.toNat := by rw [h]
  rw [toNat_idAt hj, toNat_idAt hk] at h'
  omega

/-- At every place there is an id for entities. -/
theorem isAssigned_idAt {k : Nat} (hk : k < MessageId.count) : (idAt k).isAssigned = true := by
  refine decide_eq_true (UInt16.le_iff_toNat_le.2 ?_)
  rw [toNat_idAt hk]
  exact Nat.le_add_right 3 k

/-- Each id of an entity is at a place. -/
theorem exists_idAt {id : MessageId} (h : id.isAssigned = true) :
    ∃ k < MessageId.count, idAt k = id := by
  have hle : 3 ≤ id.code.toNat := UInt16.le_iff_toNat_le.1 (of_decide_eq_true h)
  have hlt := id.code.toNat_lt
  have hk : id.code.toNat - 3 < MessageId.count := by rw [count_eq]; omega
  have hcode : (idAt (id.code.toNat - 3)).code.toNat = id.code.toNat := by
    rw [toNat_idAt hk]
    omega
  exact ⟨_, hk, congrArg MessageId.mk (UInt16.toNat_inj.1 hcode)⟩

/-- The next id is the one at the counter's place. -/
theorem next_fst (a : IdAllocator) : a.next.1 = idAt a.place := by
  have ha := a.candidate.toNat_lt
  have hcode : a.next.1.code.toNat = (idAt a.place).code.toNat := by
    rw [toNat_idAt a.place_lt]
    change (if a.candidate < 3 then 3 else a.candidate : UInt16).toNat =
      3 + (a.candidate.toNat - 3)
    -- A reserved candidate is passed over and counts as the first place.
    by_cases h : a.candidate < 3
    · have hlt : a.candidate.toNat < 3 := UInt16.lt_iff_toNat_lt.1 h
      rw [if_pos h, show (3 : UInt16).toNat = 3 from rfl]
      omega
    · have hle : 3 ≤ a.candidate.toNat := UInt16.le_iff_toNat_le.1 (UInt16.not_lt.1 h)
      rw [if_neg h]
      omega
  exact congrArg MessageId.mk (UInt16.toNat_inj.1 hcode)

/-- Each id brings the counter one place on, from the last one back to the first. -/
theorem place_next (a : IdAllocator) : a.next.2.place = (a.place + 1) % MessageId.count := by
  have hcode : a.next.2.candidate = a.next.1.code + 1 := rfl
  have hplace := a.place_lt
  rw [count_eq] at hplace
  rw [place, hcode, next_fst, UInt16.toNat_add, toNat_idAt a.place_lt, count_eq]
  change (3 + a.place + 1) % 2 ^ 16 - 3 = (a.place + 1) % 65533
  -- Only the last id makes the counter wrap, to a reserved candidate.
  by_cases hlast : a.place = 65532
  · rw [hlast]
  · rw [Nat.mod_eq_of_lt (by omega), Nat.mod_eq_of_lt (by omega)]
    omega

/-- **The ids handed out are those at the places from the counter's on**, around and around. -/
theorem take_fst_eq (n : Nat) (a : IdAllocator) :
    (a.take n).1 = (List.range n).map fun k => idAt ((a.place + k) % MessageId.count) := by
  induction n generalizing a with
  | zero => rfl
  | succ n ih =>
    have hfirst : a.next.1 = idAt ((a.place + 0) % MessageId.count) := by
      rw [Nat.add_zero, Nat.mod_eq_of_lt a.place_lt, next_fst]
    change a.next.1 :: (a.next.2.take n).1 = _
    rw [hfirst, ih, place_next, List.range_succ_eq_map, List.map_cons, List.map_map]
    congr 1
    refine List.map_congr_left fun k _ => ?_
    rw [Nat.mod_add_mod]
    simp only [Function.comp_apply, Nat.succ_eq_add_one]
    congr 2
    omega

/-- As many ids are taken as are asked for. -/
theorem length_take (n : Nat) (a : IdAllocator) : (a.take n).1.length = n := by
  rw [take_fst_eq, List.length_map, List.length_range]

/-- Ids are taken in turn, and the first follows the last. -/
theorem getElem?_take {k n : Nat} (h : k < n) (a : IdAllocator) :
    (a.take n).1[k]? = some (idAt ((a.place + k) % MessageId.count)) := by
  rw [take_fst_eq, List.getElem?_map, List.getElem?_range h]
  rfl

/-- **Two calls give the same id exactly if they are whole ways around apart.** -/
theorem getElem?_take_eq_iff {i j n : Nat} (hij : i ≤ j) (hj : j < n) (a : IdAllocator) :
    (a.take n).1[i]? = (a.take n).1[j]? ↔ MessageId.count ∣ j - i := by
  have hpos : 0 < MessageId.count := by decide
  rw [getElem?_take (Nat.lt_of_le_of_lt hij hj), getElem?_take hj, Option.some_inj,
    ← Nat.modEq_iff_dvd' hij]
  constructor
  · exact fun h => Nat.ModEq.add_left_cancel' a.place
      (idAt_inj (Nat.mod_lt _ hpos) (Nat.mod_lt _ hpos) h)
  · exact fun h => congrArg idAt (h.add_left a.place)

/-- Between two calls that give the same id there is at least one way around. -/
theorem add_count_le_of_eq {i j n : Nat} (hij : i < j) (hj : j < n) {a : IdAllocator}
    (h : (a.take n).1[i]? = (a.take n).1[j]?) : i + MessageId.count ≤ j := by
  have hdvd := (getElem?_take_eq_iff hij.le hj a).1 h
  have hle := Nat.le_of_dvd (Nat.sub_pos_of_lt hij) hdvd
  omega

/-- **No id comes twice on one way around.** -/
theorem nodup_take {n : Nat} (hn : n ≤ MessageId.count) (a : IdAllocator) : (a.take n).1.Nodup := by
  refine List.nodup_iff_getElem?_ne_getElem?.2 fun i j hij hj h => ?_
  rw [length_take] at hj
  have hapart := add_count_le_of_eq hij hj h
  omega

/-- Every id that is taken is one for entities. -/
theorem isAssigned_of_mem_take {n : Nat} {a : IdAllocator} {id : MessageId}
    (h : id ∈ (a.take n).1) : id.isAssigned = true := by
  rw [take_fst_eq] at h
  obtain ⟨k, _, rfl⟩ := List.mem_map.1 h
  exact isAssigned_idAt (Nat.mod_lt _ (by decide))

/-- Ids are handed out one after the other. -/
theorem take_add (j k : Nat) (a : IdAllocator) :
    a.take (j + k) =
      ((a.take j).1 ++ ((a.take j).2.take k).1, ((a.take j).2.take k).2) := by
  induction j generalizing a with
  | zero => simp [take]
  | succ j ih =>
    rw [Nat.succ_add]
    simp only [take, ih, List.cons_append]

/-! ## One way around -/

/-- The ids of one way around that begins at the first place. -/
def round : List MessageId := (List.range MessageId.count).map idAt

/-- They are all ids that an entity may have. -/
theorem mem_round {id : MessageId} : id ∈ round ↔ id.isAssigned = true := by
  rw [round, List.mem_map]
  constructor
  · rintro ⟨k, hk, rfl⟩
    exact isAssigned_idAt (List.mem_range.1 hk)
  · intro h
    obtain ⟨k, hk, rfl⟩ := exists_idAt h
    exact ⟨k, List.mem_range.2 hk, rfl⟩

/-- They increase. -/
theorem pairwise_round : round.Pairwise (·.code < ·.code) := by
  refine List.pairwise_map.2 (List.pairwise_lt_range.imp_of_mem ?_)
  intro j k hj hk hjk
  rw [UInt16.lt_iff_toNat_lt, toNat_idAt (List.mem_range.1 hj), toNat_idAt (List.mem_range.1 hk)]
  exact Nat.add_lt_add_left hjk 3

/-- **One way around hands out them all, turned to where it begins.** -/
theorem take_count_fst (a : IdAllocator) : (a.take MessageId.count).1 = round.rotate a.place := by
  rw [take_fst_eq, round, ← List.map_rotate]
  -- Both lists begin at the counter's place and come back to the first place after the last.
  have hrange : (List.range MessageId.count).rotate a.place =
      (List.range MessageId.count).map fun k => (a.place + k) % MessageId.count := by
    refine List.ext_getElem (by simp) fun k _ _ => ?_
    rw [List.getElem_rotate, List.getElem_map, List.getElem_range, List.getElem_range,
      List.length_range, Nat.add_comm]
  rw [hrange, List.map_map]
  rfl

/-- The ids increase, but that after some of them they may begin again from below the first. -/
def CyclicallyIncreasing (ids : List MessageId) : Prop :=
  ∃ sorted : List MessageId, sorted.Pairwise (·.code < ·.code) ∧ sorted.IsRotated ids

/-- **The ids of entities go around.** Wherever the counter stands, its turns come to an end, with an
id that an entity may have. After any number of calls, one way around hands out each such id once, in
cyclically increasing order. So two calls of a run give the same id only if they are at least one way
around apart. -/
theorem ids_go_around (a : IdAllocator) :
    ((∀ turns id b, a.Yields turns id b ↔ turns = a.passes + 1 ∧ a.next = (id, b)) ∧
        a.next.1.isAssigned = true) ∧
      (∀ n, ((a.take n).2.take MessageId.count).1.Nodup ∧
        (∀ id, id ∈ ((a.take n).2.take MessageId.count).1 ↔ id.isAssigned = true) ∧
        CyclicallyIncreasing ((a.take n).2.take MessageId.count).1) ∧
      ∀ n i j, i < j → j < n → (a.take n).1[i]? = (a.take n).1[j]? → i + MessageId.count ≤ j := by
  refine ⟨⟨fun turns id b => yields_iff, a.isAssigned_next⟩, ?_, ?_⟩
  · intro n
    refine ⟨nodup_take le_rfl _, fun id => ?_, round, pairwise_round, _, (take_count_fst _).symm⟩
    rw [take_count_fst, List.mem_rotate, mem_round]
  · intro n i j hij hj h
    exact add_count_le_of_eq hij hj h

/-- A counter that has just wrapped passes over the three reserved candidates, and after one way
around it comes back to the same id. -/
theorem ids_go_around_wrapped :
    (⟨0⟩ : IdAllocator).Yields 4 .first ⟨4⟩ ∧
      ((⟨0⟩ : IdAllocator).take 65534).1[0]? = ((⟨0⟩ : IdAllocator).take 65534).1[65533]? ∧
      0 + MessageId.count ≤ 65533 := by
  have hsame : ((⟨0⟩ : IdAllocator).take 65534).1[0]? = ((⟨0⟩ : IdAllocator).take 65534).1[65533]? :=
    (getElem?_take_eq_iff (Nat.zero_le _) (by decide) _).2 (Nat.dvd_refl _)
  obtain ⟨⟨hyields, _⟩, _, happart⟩ := ids_go_around ⟨0⟩
  exact ⟨(hyields 4 .first ⟨4⟩).2 ⟨rfl, rfl⟩, hsame, happart _ _ _ (by decide) (by decide) hsame⟩

end IdAllocator

end Pursuit
