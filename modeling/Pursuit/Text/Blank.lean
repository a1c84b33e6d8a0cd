/-! # Blank characters and words

* **`isBlank`** — the characters with the Unicode property `White_Space`.
* **`words`** — the longest runs of other characters, in order.
* **`trim`** — a text without the blanks at its ends. -/

namespace Pursuit

/-- Whether a character has the Unicode property `White_Space`. -/
def isBlank (c : Char) : Bool :=
  let n := c.toNat
  (9 ≤ n && n ≤ 13) || n == 0x20 || n == 0x85 || n == 0xa0 || n == 0x1680
    || (0x2000 ≤ n && n ≤ 0x200a) || n == 0x2028 || n == 0x2029 || n == 0x202f || n == 0x205f
    || n == 0x3000

/-- Every blank that the core library knows is one. -/
theorem isBlank_of_isWhitespace {c : Char} (h : c.isWhitespace = true) : isBlank c = true := by
  simp only [Char.isWhitespace, Bool.or_eq_true, decide_eq_true_eq] at h
  rcases h with ((h | h) | h) | h <;> subst h <;> decide

/-- The words of a text, where `word` holds the characters of the word that is being read, the last
one first. -/
def wordsFrom (word : List Char) : List Char → List (List Char)
  | [] => if word.isEmpty then [] else [word.reverse]
  | c :: rest =>
    if isBlank c then
      if word.isEmpty then wordsFrom [] rest else word.reverse :: wordsFrom [] rest
    else wordsFrom (c :: word) rest

/-- The words of a text. -/
def words (s : List Char) : List (List Char) := wordsFrom [] s

/-- A text without the blanks at its ends. -/
def trim (s : List Char) : List Char :=
  ((s.dropWhile isBlank).reverse.dropWhile isBlank).reverse

/-- No word is empty, and none holds a blank. -/
theorem ne_nil_and_not_isBlank_of_mem_wordsFrom {word s w : List Char}
    (hword : ∀ c ∈ word, isBlank c = false) (h : w ∈ wordsFrom word s) :
    w ≠ [] ∧ ∀ c ∈ w, isBlank c = false := by
  induction s generalizing word with
  | nil =>
    unfold wordsFrom at h
    split at h
    · cases h
    · rename_i hne
      simp only [List.mem_singleton] at h
      subst h
      simpa [List.isEmpty_iff] using ⟨by simpa [List.isEmpty_iff] using hne, hword⟩
  | cons c rest ih =>
    unfold wordsFrom at h
    -- A blank ends the word that was being read; any other character goes on with it.
    split at h
    · split at h
      · exact ih (by simp) h
      · rename_i hne
        rcases List.mem_cons.1 h with h | h
        · subst h
          exact ⟨by simpa [List.isEmpty_iff] using hne, by simpa using hword⟩
        · exact ih (by simp) h
    · rename_i hc
      exact ih (by simpa [List.forall_mem_cons] using ⟨by simpa using hc, hword⟩) h

end Pursuit
