import Mathlib.Data.List.Basic
import Mathlib.Data.List.Forall2

/-! # Lists

Facts about lists that hold whatever stands in them.

* **`List.map_foldlM`**, **`List.foldlM_mono`** — folds that may fail, seen through a function and
  against a fold that fails less often.
* **`List.Forall₂.comp`**, **`List.Forall₂.map_eq`**, **`List.Forall₂.countP_le`** — what two lists
  have in common that agree place by place.
* **`List.map_modify_of_comm`**, **`List.flatten_modify_last`** — a change of one entry, seen through a
  function and in a list of lists.
* **`List.getElem?_filter_range`** — the numbers that pass a test, by their places. -/

namespace List

variable {α β ι : Type}

/-! ## Folds that may fail -/

/-- What is forgotten after each step may be forgotten at the end. -/
theorem map_foldlM {f : α → ι → Option α} {g : β → ι → Option β} {π : α → β}
    (h : ∀ a x, (f a x).map π = g (π a) x) (xs : List ι) (a : α) :
    (xs.foldlM f a).map π = xs.foldlM g (π a) := by
  induction xs generalizing a with
  | nil => rfl
  | cons x xs ih =>
    simp only [foldlM_cons, ← h, Option.bind_eq_bind]
    cases f a x with
    | none => rfl
    | some b => exact ih b

/-- A fold that ends goes on ending where its steps do. -/
theorem foldlM_mono {f g : α → ι → Option α} (hfg : ∀ a x b, f a x = some b → g a x = some b)
    {xs : List ι} {a b : α} (h : xs.foldlM f a = some b) : xs.foldlM g a = some b := by
  induction xs generalizing a with
  | nil => exact h
  | cons x xs ih =>
    rw [foldlM_cons, Option.bind_eq_bind, Option.bind_eq_some_iff] at h ⊢
    obtain ⟨c, hfirst, hrest⟩ := h
    exact ⟨c, hfg a x c hfirst, ih hrest⟩

/-! ## Lists that agree place by place -/

namespace Forall₂

variable {r : α → α → Prop} {as bs cs : List α}

/-- A transitive relation holds of the first and the last of three lists if it holds along them. -/
theorem comp (hr : ∀ a b c, r a b → r b c → r a c) (h : Forall₂ r as bs) (h' : Forall₂ r bs cs) :
    Forall₂ r as cs := by
  induction h generalizing cs with
  | nil => exact h'
  | cons hab _ ih =>
    cases h' with
    | cons hbc hrest => exact .cons (hr _ _ _ hab hbc) (ih hrest)

/-- What each pair agrees on, both lists agree on. -/
theorem map_eq {f : α → β} (hf : ∀ a b, r a b → f b = f a) (h : Forall₂ r as bs) :
    bs.map f = as.map f := by
  induction h with
  | nil => rfl
  | cons hr _ ih => rw [map_cons, map_cons, hf _ _ hr, ih]

/-- Where the first of a pair counts only if the second does, the second list counts no fewer. -/
theorem countP_le {f : α → Bool} (hf : ∀ a b, r a b → f a = true → f b = true)
    (h : Forall₂ r as bs) : as.countP f ≤ bs.countP f := by
  induction h with
  | nil => exact Nat.le_refl _
  | @cons a b as bs hr _ ih =>
    rw [countP_cons, countP_cons]
    by_cases ha : f a = true
    · rw [if_pos ha, if_pos (hf _ _ hr ha)]
      omega
    · rw [if_neg ha]
      omega

end Forall₂

/-! ## Changes of an entry -/

/-- A list is mapped to itself if none of its entries changes. -/
theorem map_eq_self_iff {f : α → α} {xs : List α} : xs.map f = xs ↔ ∀ x ∈ xs, f x = x := by
  have h := map_inj_left (f := f) (g := id) (l := xs)
  rwa [map_id] at h

/-- A change of one entry shows in the image of the list as the change that it is there. -/
theorem map_modify_of_comm {f : α → α} {g : α → β} {h : β → β} (hfg : ∀ a, g (f a) = h (g a))
    (xs : List α) (i : Nat) : (xs.modify i f).map g = (xs.map g).modify i h := by
  refine ext_getElem? fun j => ?_
  rw [getElem?_map, getElem?_modify, getElem?_modify, getElem?_map]
  cases xs[j]? with
  | none => rfl
  | some a => by_cases hj : i = j <;> simp [hj, hfg]

/-- More at the end of the last list is more at the end of all of them. -/
theorem flatten_modify_last {xss : List (List α)} (hxss : xss ≠ []) (xs : List α) :
    (xss.modify (xss.length - 1) (· ++ xs)).flatten = xss.flatten ++ xs := by
  obtain ⟨init, last, rfl⟩ := (eq_nil_or_concat' xss).resolve_left hxss
  rw [modify_eq_take_cons_drop (by simp)]
  simp

/-! ## Numbers that pass a test -/

/-- The numbers of a range that pass a test, one after the other. -/
theorem getElem?_filter_range {f : Nat → Bool} {n k i : Nat} :
    ((range n).filter f)[k]? = some i ↔
      i < n ∧ f i = true ∧ (range i).countP f = k := by
  induction n with
  | zero => simp
  | succ n ih =>
    rw [range_succ, filter_append, filter_singleton]
    cases hn : f n with
    | false =>
      rw [cond_false, List.append_nil, ih]
      refine and_congr_left fun h => ⟨fun hi => Nat.lt_succ_of_lt hi, fun hi => ?_⟩
      refine Nat.lt_of_le_of_ne (Nat.le_of_lt_succ hi) ?_
      rintro rfl
      exact absurd h.1 (by rw [hn]; decide)
    | true =>
      -- The last number of the range comes behind all others that pass.
      rw [cond_true]
      have hlength : ((range n).filter f).length = (range n).countP f :=
        countP_eq_length_filter.symm
      constructor
      · intro h
        rcases Nat.lt_or_ge k ((range n).filter f).length with hk | hk
        · rw [getElem?_append_left hk, ih] at h
          exact ⟨Nat.lt_succ_of_lt h.1, h.2⟩
        · rw [getElem?_append_right hk, getElem?_singleton] at h
          split at h
          · cases h
            exact ⟨Nat.lt_succ_self _, hn, by omega⟩
          · cases h
      · rintro ⟨hi, hfi, hk⟩
        rcases Nat.lt_or_ge i n with hi' | hi'
        · have h := ih.2 ⟨hi', hfi, hk⟩
          rwa [getElem?_append_left (getElem?_eq_some_iff.1 h).1]
        · have hin : i = n := by omega
          subst hin
          rw [getElem?_append_right (by omega), getElem?_singleton, if_pos (by omega)]

end List
