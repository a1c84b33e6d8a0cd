import Mathlib.Data.List.TakeWhile
import Pursuit.Text.Blank

/-! # The words of a text

A text is blank but for its words: each word stands between blanks or the ends of the text and holds
none itself. How many blanks there are between two words, and which, says nothing about the words.

* **`Spells`** — a text with the words in it. **`words_eq_iff`**: there is one way to tell them.
* **`Named`** — a word that is a given one, in letters of either case.
* **`Trimmed`** — a text with what is left of it without the blanks at its ends. **`trim_eq_iff`**. -/

namespace Pursuit

/-- Blanks, of any kind and number. -/
def Blank (s : List Char) : Prop := ∀ c ∈ s, isBlank c = true

/-- At least one character, and no blank among them. -/
structure IsWord (w : List Char) : Prop where
  ne_nil : w ≠ []
  not_blank : ∀ c ∈ w, isBlank c = false

/-- A text with the words in it. -/
inductive Spells : List Char → List (List Char) → Prop
  /-- Blanks spell no word. -/
  | blank {gap : List Char} (hgap : Blank gap) : Spells gap []
  /-- A word goes on until there is a blank, or no more text. -/
  | word {gap w rest : List Char} {ws : List (List Char)} (hgap : Blank gap) (hw : IsWord w)
      (hend : ∀ c ∈ rest.head?, isBlank c = true) (hrest : Spells rest ws) :
      Spells (gap ++ w ++ rest) (w :: ws)

/-- No character at all is blank. -/
theorem Blank.nil : Blank [] := by
  simp [Blank]

/-- Blanks behind blanks are blank. -/
theorem Blank.append {s t : List Char} (hs : Blank s) (ht : Blank t) : Blank (s ++ t) := by
  intro c hc
  rcases List.mem_append.1 hc with h | h
  · exact hs c h
  · exact ht c h

/-- Blanks in front of a text change nothing about its words. -/
theorem Spells.append_left {gap s : List Char} {ws : List (List Char)} (h : Spells s ws)
    (hgap : Blank gap) : Spells (gap ++ s) ws := by
  cases h with
  | blank hgap' => exact .blank (hgap.append hgap')
  | word hgap' hw hend hrest =>
    rw [← List.append_assoc, ← List.append_assoc]
    exact .word (hgap.append hgap') hw hend hrest

/-! ## Names -/

/-- Whether a word is a given one in letters of either case. -/
def Named (w : List Char) (name : String) : Prop := w.map Char.toLower = name.toList

instance (w : List Char) (name : String) : Decidable (Named w name) :=
  inferInstanceAs (Decidable (_ = _))

/-- A word is named by comparing it in lower case. -/
theorem ofList_toLower_eq_iff {w : List Char} {name : String} :
    String.ofList (w.map Char.toLower) = name ↔ Named w name := by
  rw [Named, ← String.toList_inj, String.toList_ofList]

/-- A named word begins with the first letter of the name, in either case. -/
theorem Named.head? {w : List Char} {name : String} (h : Named w name) :
    w.head?.map Char.toLower = name.toList.head? := by
  rw [← h, List.head?_map]

/-- No word has two names. -/
theorem Named.unique {w : List Char} {a b : String} (ha : Named w a) (hb : Named w b) : a = b :=
  String.toList_inj.1 (ha.symm.trans hb)

/-! ## Reading words -/

/-- Blanks in front of a text change nothing about the words that are read. -/
theorem words_blank_append {gap : List Char} (hgap : Blank gap) (s : List Char) :
    words (gap ++ s) = words s := by
  induction gap with
  | nil => rfl
  | cons c gap ih =>
    obtain ⟨hc, hgap⟩ := List.forall_mem_cons.1 hgap
    rw [← ih hgap, words, List.cons_append, wordsFrom, if_pos hc]
    rfl

/-- Characters that are not blank go on the word that has begun. -/
theorem wordsFrom_append {w : List Char} (hw : ∀ c ∈ w, isBlank c = false) (word s : List Char) :
    wordsFrom word (w ++ s) = wordsFrom (w.reverse ++ word) s := by
  induction w generalizing word with
  | nil => rfl
  | cons c w ih =>
    obtain ⟨hc, hw⟩ := List.forall_mem_cons.1 hw
    rw [List.cons_append, wordsFrom, if_neg (by simp [hc]), ih hw, List.reverse_cons,
      List.append_assoc]
    rfl

/-- A word that has been begun ends where the text ends or a blank stands. -/
theorem wordsFrom_of_end {word s : List Char} (hword : word ≠ [])
    (hend : ∀ c ∈ s.head?, isBlank c = true) : wordsFrom word s = word.reverse :: words s := by
  cases s with
  | nil => rw [wordsFrom, if_neg (by simpa using hword)]; rfl
  | cons c rest =>
    have hc : isBlank c = true := hend c rfl
    rw [words, wordsFrom, wordsFrom, if_pos hc, if_pos hc, if_neg (by simpa using hword)]
    rfl

/-- The words that a text spells are read. -/
theorem Spells.words_eq {s : List Char} {ws : List (List Char)} (h : Spells s ws) :
    words s = ws := by
  induction h with
  | @blank gap hgap =>
    rw [← List.append_nil gap, words_blank_append hgap]
    rfl
  | @word gap w rest ws hgap hw hend _ ih =>
    have hne : w.reverse ++ [] ≠ [] := by simpa using hw.ne_nil
    rw [List.append_assoc, words_blank_append hgap, words, wordsFrom_append hw.not_blank,
      wordsFrom_of_end hne hend, ih, List.append_nil, List.reverse_reverse]

/-- A text spells the words that are read. -/
theorem spells_wordsFrom {word : List Char} (hword : ∀ c ∈ word, isBlank c = false)
    (s : List Char) : Spells (word.reverse ++ s) (wordsFrom word s) := by
  have hisWord (hne : word ≠ []) : IsWord word.reverse :=
    ⟨by simpa using hne, by simpa using hword⟩
  -- The induction is on the text that is still to be read, for any word that has been begun.
  induction s generalizing word with
  | nil =>
    by_cases hne : word = []
    · subst hne
      exact .blank .nil
    · rw [wordsFrom, if_neg (by simpa using hne)]
      exact .word .nil (hisWord hne) (by simp) (.blank .nil)
  | cons c rest ih =>
    rw [wordsFrom]
    split
    · rename_i hc
      have hgap : Blank [c] := by simpa [Blank] using hc
      have hrest : Spells (c :: rest) (wordsFrom [] rest) :=
        (@ih [] (by simp) (by simp)).append_left hgap
      by_cases hne : word = []
      · subst hne
        exact hrest
      · rw [if_neg (by simpa using hne)]
        exact .word .nil (hisWord hne) (by simpa using hc) hrest
    · rename_i hc
      have hword' : ∀ d ∈ c :: word, isBlank d = false :=
        List.forall_mem_cons.2 ⟨by simpa using hc, hword⟩
      have h := ih hword' fun _ => ⟨by simp, by simpa [or_imp, forall_and, and_comm] using hword'⟩
      rwa [List.reverse_cons, List.append_assoc] at h

/-- **The words of a text are those that it spells.** -/
theorem words_eq_iff {s : List Char} {ws : List (List Char)} : words s = ws ↔ Spells s ws := by
  constructor
  · rintro rfl
    exact @spells_wordsFrom [] (by simp) s
  · exact Spells.words_eq

/-! ## The ends of a text -/

/-- A text with what is left of it without the blanks at its ends. -/
inductive Trimmed : List Char → List Char → Prop
  /-- What is left neither begins nor ends with a blank. -/
  | mk {front t back : List Char} (hfront : Blank front) (hback : Blank back)
      (hfirst : ∀ c ∈ t.head?, isBlank c = false) (hlast : ∀ c ∈ t.getLast?, isBlank c = false) :
      Trimmed (front ++ t ++ back) t

/-- Dropping blanks stops at the first character that is none. -/
theorem dropWhile_blank_append {gap s : List Char} (hgap : Blank gap)
    (hs : ∀ c ∈ s.head?, isBlank c = false) : (gap ++ s).dropWhile isBlank = s := by
  rw [List.dropWhile_append_of_pos hgap]
  cases s with
  | nil => rfl
  | cons c s => exact List.dropWhile_cons_of_neg (by simp [hs c rfl])

/-- A text is blanks and then one that does not begin with a blank. -/
theorem exists_dropWhile_isBlank (s : List Char) :
    ∃ gap, Blank gap ∧ s = gap ++ s.dropWhile isBlank ∧
      ∀ c ∈ (s.dropWhile isBlank).head?, isBlank c = false := by
  refine ⟨s.takeWhile isBlank, fun _ => List.mem_takeWhile_imp,
    List.takeWhile_append_dropWhile.symm, ?_⟩
  intro c hc
  have h := List.head?_dropWhile_not isBlank s
  rw [hc] at h
  simpa using h

/-- Blanks are blank from either end. -/
theorem Blank.reverse {s : List Char} (h : Blank s) : Blank s.reverse := by
  simpa [Blank] using h

/-- **Trimming takes the blanks at the ends, all of them and nothing else.** -/
theorem trim_eq_iff {s t : List Char} : trim s = t ↔ Trimmed s t := by
  constructor
  · rintro rfl
    -- The blanks in front are taken first, and those at the end from the text reversed.
    obtain ⟨front, hfront, hs, hfirst⟩ := exists_dropWhile_isBlank s
    obtain ⟨back, hback, hrest, hlast⟩ := exists_dropWhile_isBlank (s.dropWhile isBlank).reverse
    have hrest : s.dropWhile isBlank = trim s ++ back.reverse := by
      rw [trim, ← List.reverse_append, ← hrest, List.reverse_reverse]
    rw [hrest] at hs hfirst
    have htrimmed : Trimmed (front ++ trim s ++ back.reverse) (trim s) := by
      refine .mk hfront hback.reverse (fun c hc => hfirst c ?_) (fun c hc => hlast c ?_)
      · rw [List.head?_append, hc]
        rfl
      · rwa [← List.getLast?_reverse]
    rwa [List.append_assoc, ← hs] at htrimmed
  · rintro ⟨hfront, hback, hfirst, hlast⟩
    rename_i front back
    by_cases ht : t = []
    · -- Nothing but blanks: the first pass takes them all.
      subst ht
      have hall : Blank (front ++ [] ++ back) := (hfront.append .nil).append hback
      rw [trim, List.dropWhile_eq_nil_iff.2 hall]
      rfl
    · obtain ⟨c, hc⟩ := Option.ne_none_iff_exists'.1 (mt List.head?_eq_none_iff.1 ht)
      rw [trim, List.append_assoc, dropWhile_blank_append hfront, List.reverse_append,
        dropWhile_blank_append hback.reverse (by simpa using hlast), List.reverse_reverse]
      simpa [List.head?_append, hc] using hfirst c hc

end Pursuit
