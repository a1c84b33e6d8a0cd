/-! # Readers of text

* **`Reader`** — takes a value off the front of a text, or fails and has taken nothing.
* **`Reader.char`, `Reader.word`** — characters that have to be there. -/

namespace Pursuit

/-- A reader takes a value off the front of a text. One that fails has taken nothing. -/
abbrev Reader (α : Type) := List Char → Option (α × List Char)

namespace Reader

/-- A character that has to be there. -/
def char (c : Char) : Reader Unit
  | d :: rest => if d = c then some ((), rest) else none
  | [] => none

/-- Characters that have to be there, in this order. -/
def word : List Char → Reader Unit
  | [], s => some ((), s)
  | c :: w, s => (char c s).bind fun (_, rest) => word w rest

/-- A reader that always fails. -/
def fail {α : Type} : Reader α := fun _ => none

/-- What a reader leaves, where only that matters. -/
def rest? {α : Type} (r : Reader α) (s : List Char) : Option (List Char) := (r s).map (·.2)

/-- A character is read exactly where the text begins with it. -/
theorem char_eq_some_iff {c : Char} {s rest : List Char} :
    char c s = some ((), rest) ↔ s = c :: rest := by
  cases s with
  | nil => simp [char]
  | cons d t =>
    simp only [char, List.cons.injEq]
    split <;> simp_all

/-- A word is read exactly where the text begins with it. -/
theorem word_eq_some_iff {w s rest : List Char} :
    word w s = some ((), rest) ↔ s = w ++ rest := by
  induction w generalizing s with
  | nil => simp [word]
  | cons c w ih =>
    cases h : char c s with
    | none =>
      simp only [word, h, Option.bind_none, List.cons_append]
      constructor
      · simp
      · intro hs
        rw [char_eq_some_iff.2 hs] at h
        cases h
    | some p =>
      obtain ⟨⟨⟩, t⟩ := p
      simp only [word, h, Option.bind_some, ih, List.cons_append]
      rw [char_eq_some_iff.1 h]
      simp

end Reader

end Pursuit
