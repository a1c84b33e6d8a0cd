import Mathlib.Tactic.SplitIfs
import Pursuit.Address.Ip

/-! # Numerals read back

A number that is written in digits is read back in front of anything that does not go on with a
digit. And what the readers of numbers make of a text does not change if a colon follows it.

* **`NoDigit`** — a text that does not begin with a digit.
* **`exists_toDigits`** — the characters of a numeral and the values of its digits.
* **`Address.number_toDigits`, `Address.decimalByte_toDigits`, `unsigned?_toDigits`** — numerals read
  back.
* **`Reader.Stable`** — a reader for which the text ends where a colon stands. -/

namespace Pursuit

/-! ## Digits -/

/-- A text that does not begin with a digit. -/
def NoDigit (radix : Nat) (s : List Char) : Prop := ∀ c ∈ s.head?, digit? radix c = none

/-- No digit is at the end of a text. -/
theorem NoDigit.nil (radix : Nat) : NoDigit radix [] := by
  simp [NoDigit]

/-- A text that begins with another character does not begin with a digit. -/
theorem NoDigit.cons {radix : Nat} {c : Char} (h : digit? radix c = none) (s : List Char) :
    NoDigit radix (c :: s) := by
  simpa [NoDigit] using h

/-- Where no digit is in a greater radix, none is in a smaller one. -/
theorem NoDigit.mono {radix radix' : Nat} {s : List Char} (h : NoDigit radix' s)
    (hle : radix ≤ radix') : NoDigit radix s := by
  intro c hc
  have hnot := h c hc
  simp only [digit?, ite_eq_right_iff, reduceCtorEq, imp_false] at hnot ⊢
  split_ifs at hnot ⊢ <;> omega

/-- Where there is no digit, none is read. -/
theorem digitRun_of_noDigit {radix : Nat} {s : List Char} (h : NoDigit radix s) :
    digitRun radix s = ([], s) := by
  cases s with
  | nil => rfl
  | cons c s =>
    have hc : digit? radix c = none := h c rfl
    simp [digitRun, hc]

/-- The character of a digit is read as the digit. -/
theorem digit?_digitChar {radix d : Nat} (hradix : radix ≤ 16) (hd : d < radix) :
    digit? radix d.digitChar = some d := by
  have hall : ∀ radix ≤ 16, ∀ d < radix, digit? radix d.digitChar = some d := by decide
  exact hall radix hradix d hd

/-- One more digit behind a number lifts it by a place and adds the digit. -/
theorem ofDigits_concat (radix : Nat) (ds : List Nat) (d : Nat) :
    ofDigits radix (ds ++ [d]) = radix * ofDigits radix ds + d := by
  simp [ofDigits]

/-- The characters of digits are read back in front of anything that is no digit. -/
theorem digitRun_digitChars (radix : Nat) {ds : List Nat} {rest : List Char} (hradix : radix ≤ 16)
    (hds : ∀ d ∈ ds, d < radix) (hrest : NoDigit radix rest) :
    digitRun radix (ds.map Nat.digitChar ++ rest) = (ds, rest) := by
  induction ds with
  | nil => exact digitRun_of_noDigit hrest
  | cons d ds ih =>
    have hd := digit?_digitChar hradix (hds d List.mem_cons_self)
    have hrun := ih fun d' hd' => hds d' (List.mem_cons_of_mem d hd')
    simp [digitRun, hd, hrun]

/-- The characters of a numeral and the values of its digits. -/
theorem exists_toDigits (radix : Nat) (hradix : 1 < radix) (n : Nat) :
    ∃ ds, Nat.toDigits radix n = ds.map Nat.digitChar ∧ ds ≠ [] ∧ (∀ d ∈ ds, d < radix) ∧
      ofDigits radix ds = n := by
  induction n using Nat.strongRecOn with
  | ind n ih =>
    by_cases hn : n < radix
    · exact ⟨[n], by rw [Nat.toDigits_of_lt_base hn]; rfl, by simp, by simpa using hn,
        by simp [ofDigits]⟩
    · have hle := Nat.le_of_not_lt hn
      obtain ⟨ds, htext, _, hlt, hvalue⟩ := ih (n / radix) (Nat.div_lt_self (by omega) hradix)
      refine ⟨ds ++ [n % radix], ?_, by simp, ?_, ?_⟩
      · rw [Nat.toDigits_of_base_le hradix hle, htext, List.map_append]
        rfl
      · simpa [or_imp, forall_and] using ⟨hlt, Nat.mod_lt n (by omega)⟩
      · rw [ofDigits_concat, hvalue, Nat.div_add_mod]

/-- The digits of a number are read back in front of anything that is no digit. -/
theorem digitRun_toDigits {radix n : Nat} {rest : List Char} (hradix : 1 < radix)
    (hradix' : radix ≤ 16) (hrest : NoDigit radix rest) :
    ∃ ds, digitRun radix (Nat.toDigits radix n ++ rest) = (ds, rest) ∧ ds ≠ [] ∧
      ds.length = (Nat.toDigits radix n).length ∧ ofDigits radix ds = n := by
  obtain ⟨ds, htext, hds, hlt, hvalue⟩ := exists_toDigits radix hradix n
  exact ⟨ds, by rw [htext, digitRun_digitChars radix hradix' hlt hrest], hds,
    by rw [htext, List.length_map], hvalue⟩

/-- Only digits are written. -/
theorem not_mem_toDigits {radix n : Nat} {c : Char} (hradix : 1 < radix) (hradix' : radix ≤ 16)
    (hc : digit? radix c = none) : c ∉ Nat.toDigits radix n := by
  obtain ⟨ds, htext, _, hlt, _⟩ := exists_toDigits radix hradix n
  rw [htext, List.mem_map]
  rintro ⟨d, hd, rfl⟩
  rw [digit?_digitChar hradix' (hlt d hd)] at hc
  cases hc

/-- What `unsigned?` reads of a numeral is its number. -/
theorem unsigned?_toDigits {bound n : Nat} (h : n < bound) :
    unsigned? bound (Nat.toDigits 10 n) = some n := by
  have hplus : dropPlus (Nat.toDigits 10 n) = Nat.toDigits 10 n := by
    unfold dropPlus
    split
    · rename_i rest htext
      exact absurd (htext ▸ List.mem_cons_self)
        (not_mem_toDigits (c := '+') (n := n) (by decide) (by decide) (by decide))
    · rfl
  obtain ⟨ds, hrun, hds, _, hvalue⟩ :=
    digitRun_toDigits (n := n) (by decide) (by decide) (NoDigit.nil 10)
  rw [List.append_nil] at hrun
  have hall : allDigits? 10 (Nat.toDigits 10 n) = some ds := by
    rw [allDigits?, hrun]
    cases ds with
    | nil => exact absurd rfl hds
    | cons d ds => rfl
  rw [unsigned?, hplus, hall, Option.bind_some]
  simp only [hvalue, if_pos h]

namespace Address

/-- Where there is no digit, no number is read. -/
theorem number_of_noDigit {radix most : Nat} {s : List Char} (h : NoDigit radix s) :
    number radix most s = none := by
  simp [number, digitRun_of_noDigit h]

/-- A numeral of few enough digits is read back. -/
theorem number_toDigits {radix most n : Nat} {rest : List Char} (hradix : 1 < radix)
    (hradix' : radix ≤ 16) (hrest : NoDigit radix rest) :
    number radix most (Nat.toDigits radix n ++ rest) =
      if (Nat.toDigits radix n).length ≤ most then some (n, rest) else none := by
  obtain ⟨ds, hrun, hds, hlength, hvalue⟩ := digitRun_toDigits (n := n) hradix hradix' hrest
  simp only [number, hrun, hds, false_or, hvalue, hlength, ← Nat.not_le, ite_not]

/-- A byte is read back. -/
theorem decimalByte_toDigits (b : UInt8) {rest : List Char} (hrest : NoDigit 10 rest) :
    decimalByte (Nat.toDigits 10 b.toNat ++ rest) = some (b, rest) := by
  have hlt : b.toNat < 256 := b.toNat_lt
  have hshape : ∀ n < 256, (Nat.toDigits 10 n).length ≤ 3 ∧
      ((Nat.toDigits 10 n).head? ≠ some '0' ∨ (Nat.toDigits 10 n).length = 1) := by
    decide +kernel
  obtain ⟨hmost, hzeros⟩ := hshape b.toNat hlt
  obtain ⟨ds, hrun, _, hlength, _⟩ :=
    digitRun_toDigits (n := b.toNat) (by decide) (by decide) hrest
  have hhead : (Nat.toDigits 10 b.toNat ++ rest).head? = (Nat.toDigits 10 b.toNat).head? := by
    rw [List.head?_append, Option.or_of_isSome (by simp [Nat.toDigits_ne_nil])]
  rw [decimalByte, number_toDigits (by decide) (by decide) hrest, if_pos hmost]
  simp only [hlt, hhead, hrun, hlength, hzeros, true_and, if_true, UInt8.ofNat_toNat]

end Address

/-! ## Readers that stop at a colon -/

namespace Reader

variable {α β : Type}

/-- A reader for which the text ends where a colon stands. -/
def Stable (r : Reader α) : Prop :=
  ∀ s t, r (s ++ ':' :: t) = (r s).map fun p => (p.1, p.2 ++ ':' :: t)

/-- Readers one after the other stop at a colon if each of them does. -/
theorem Stable.bind {r : Reader α} {f : α → Reader β} (hr : r.Stable) (hf : ∀ a, (f a).Stable) :
    Stable fun s => (r s).bind fun p => f p.1 p.2 := by
  intro s t
  simp only [hr s t]
  cases r s with
  | none => rfl
  | some p => exact hf p.1 p.2 t

/-- A reader that reads nothing stops at a colon. -/
theorem stable_pure (a : α) : Stable fun s => some (a, s) := fun _ _ => rfl

/-- A reader of a character other than the colon stops at one. -/
theorem stable_char {c : Char} (hc : ':' ≠ c) : Stable (char c) := by
  intro s t
  cases s with
  | nil => simp [char, hc]
  | cons d s =>
    simp only [List.cons_append, char]
    split <;> rfl

end Reader

namespace Address

open Reader

/-- A colon is no digit. -/
theorem digit?_colon (radix : Nat) : digit? radix ':' = none := by
  simp [digit?]

/-- A run of digits ends where a colon stands. -/
theorem digitRun_append_colon (radix : Nat) (s t : List Char) :
    digitRun radix (s ++ ':' :: t) =
      ((digitRun radix s).1, (digitRun radix s).2 ++ ':' :: t) := by
  induction s with
  | nil => simp [digitRun, digit?_colon]
  | cons c s ih =>
    simp only [List.cons_append, digitRun, ih]
    split <;> rfl

/-- The readers of numbers stop at a colon. -/
theorem stable_number (radix most : Nat) : Stable (number radix most) := by
  intro s t
  simp only [number, digitRun_append_colon]
  split <;> rfl

/-- The reader of decimal bytes stops at a colon. -/
theorem stable_decimalByte : Stable decimalByte := by
  intro s t
  have hnumber := stable_number 10 3 s t
  unfold decimalByte
  cases s with
  | nil => simp [number, digitRun, digit?_colon]
  | cons c s =>
    have hhead : (c :: s ++ ':' :: t).head? = (c :: s).head? := rfl
    rw [hnumber, hhead, digitRun_append_colon]
    cases number 10 3 (c :: s) with
    | none => rfl
    | some p =>
      simp only [Option.map_some]
      split <;> rfl

/-- A reader behind another separator stops at a colon. -/
theorem Stable.separated {c : Char} {r : Reader UInt8} (hc : ':' ≠ c) (hr : r.Stable) :
    Stable (separated c false r) :=
  (stable_char hc).bind fun _ => hr

end Address

/-- A colon ends a version 4 address, or what was to be one. -/
theorem IPv4.stable_read? : Reader.Stable IPv4.read? := by
  have hdot := Address.Stable.separated (c := '.') (by decide) Address.stable_decimalByte
  exact Address.stable_decimalByte.bind fun a => hdot.bind fun b => hdot.bind fun c =>
    hdot.bind fun d => Reader.stable_pure (⟨#v[a, b, c, d]⟩ : IPv4)

end Pursuit
