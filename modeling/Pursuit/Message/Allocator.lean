import Pursuit.Message.Identity

/-! # Handing out ids

* **`IdAllocator`** — a counter of 16 bits that hands out entity ids, around and around, without
  the reserved ones.
* **`Numbering`** — a counter that hands out the numbers from one upwards. -/

namespace Pursuit

/-- The counter behind the ids of entities: the next candidate. -/
structure IdAllocator where
  /-- The candidate for the next id. It may be a reserved one, just after the counter wraps. -/
  candidate : UInt16 := MessageId.first.code
deriving DecidableEq, Repr

namespace IdAllocator

instance : Inhabited IdAllocator := ⟨{}⟩

/-- The next id, and the counter after it. A reserved candidate is passed over. -/
def next (a : IdAllocator) : MessageId × IdAllocator :=
  let id := if a.candidate < MessageId.first.code then MessageId.first.code else a.candidate
  (⟨id⟩, ⟨id + 1⟩)

/-- Every id handed out may belong to an entity, wherever the counter stands. -/
theorem isAssigned_next (a : IdAllocator) : a.next.1.isAssigned = true := by
  simp only [next, MessageId.isAssigned]
  split
  · decide
  · rename_i h; exact decide_eq_true (UInt16.not_lt.mp h)

/-- The first `n` ids, and the counter after them. -/
def take : Nat → IdAllocator → List MessageId × IdAllocator
  | 0, a => ([], a)
  | n + 1, a =>
    let (id, a) := a.next
    let (rest, a) := a.take n
    (id :: rest, a)

end IdAllocator

/-- A counter of 64 bits that hands out numbers. -/
structure Numbering where
  /-- The next number. -/
  upcoming : UInt64 := 1
deriving DecidableEq, Repr

/-- The next number, and the counter after it. -/
def Numbering.next (n : Numbering) : UInt64 × Numbering := (n.upcoming, ⟨n.upcoming + 1⟩)

instance : Inhabited Numbering := ⟨{}⟩

end Pursuit
