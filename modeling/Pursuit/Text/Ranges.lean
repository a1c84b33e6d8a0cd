/-! # Ranges of characters

A table of a character property is a list of ranges of character numbers, in ascending order.

* **`inRanges`** — whether a number lies in one of the ranges of a table. -/

namespace Pursuit

/-- Whether a number lies in one of some ranges, ends included. -/
def inRanges (ranges : Array (Nat × Nat)) (n : Nat) : Bool :=
  ranges.any fun (lo, hi) => lo ≤ n && n ≤ hi

/-- A number lies in ranges exactly if there is one of them that it lies in. -/
theorem inRanges_iff {ranges : Array (Nat × Nat)} {n : Nat} :
    inRanges ranges n = true ↔ ∃ r ∈ ranges, r.1 ≤ n ∧ n ≤ r.2 := by
  rw [inRanges, Array.any_eq_true']
  simp only [Bool.and_eq_true, decide_eq_true_eq]

end Pursuit
