import Mathlib.Data.Nat.Digits.Defs
import Mathlib.Tactic.SplitIfs
import Pursuit.Numeric.Literal
import Pursuit.Proofs.Numerals
import Pursuit.Proofs.Roundings
import Pursuit.Proofs.Words

/-! # The numbers that words write

The grammars of numbers, with what they stand for, and that the readers accept just these.

```text
numeral   digit {digit}
unsigned  [+] numeral
literal   [+|-] (inf | infinity | nan)           in letters of either case
        | [+|-] [numeral] [. [numeral]] [exponent]   with a digit in front of the exponent
exponent  (e | E) [+|-] numeral
```

* **`Unsigned`** — a number in decimal digits. **`unsigned?_eq_some_iff`**.
* **`Single.Literal`** — a number of the format, nearest to what is written.
  **`Single.ofLiteral?_eq_some_iff`**. -/

namespace Pursuit

/-! ## Numerals -/

/-- Digits in a row, as they are written. -/
def numeral (ds : List (Fin 10)) : List Char := ds.map fun d => d.val.digitChar

/-- The number that digits in a row stand for, the last one for ones. -/
def numeralValue (ds : List (Fin 10)) : Nat := Nat.ofDigits 10 (ds.map Fin.val).reverse

/-- A number in decimal digits, perhaps after a plus sign. -/
inductive Unsigned : List Char → Nat → Prop
  /-- Digits alone. -/
  | plain {ds : List (Fin 10)} (hds : ds ≠ []) : Unsigned (numeral ds) (numeralValue ds)
  /-- Digits after a plus sign. -/
  | plus {ds : List (Fin 10)} (hds : ds ≠ []) : Unsigned ('+' :: numeral ds) (numeralValue ds)

/-- The value of digits is that of the library, for which the last one comes first. -/
theorem ofDigits_eq (radix : Nat) (ds : List Nat) :
    ofDigits radix ds = Nat.ofDigits radix ds.reverse := by
  induction ds using List.reverseRecOn with
  | nil => rfl
  | append_singleton ds d ih =>
    rw [ofDigits_concat, ih, List.reverse_append, List.reverse_singleton, List.singleton_append,
      Nat.ofDigits_cons, Nat.add_comm]

/-- The digits are the ten characters that stand for them, and no others. -/
theorem digit?_eq_some_iff {c : Char} {d : Nat} :
    digit? 10 c = some d ↔ d < 10 ∧ c = d.digitChar := by
  constructor
  · intro h
    have hlt := digit?_lt h
    have hchars : ∀ d < 10, d.digitChar.toNat = 48 + d := by decide
    refine ⟨hlt, Char.toNat_inj.1 ?_⟩
    rw [hchars d hlt]
    simp only [digit?, Option.ite_none_right_eq_some, Option.some.injEq] at h
    obtain ⟨-, h⟩ := h
    split_ifs at h with hdigit
    · have hlow : 48 ≤ c.toNat := hdigit.1
      have hvalue : c.toNat - 48 = d := h
      omega
    all_goals omega
  · rintro ⟨hd, rfl⟩
    exact digit?_digitChar (by decide) hd

/-- No digit is read exactly where none is written. -/
theorem digit?_eq_none_iff {c : Char} : digit? 10 c = none ↔ ∀ d : Fin 10, c ≠ d.val.digitChar := by
  rw [Option.eq_none_iff_forall_ne_some]
  constructor
  · intro h d hc
    exact h d (digit?_eq_some_iff.2 ⟨d.isLt, hc⟩)
  · intro h d hd
    obtain ⟨hlt, hc⟩ := digit?_eq_some_iff.1 hd
    exact h ⟨d, hlt⟩ hc

/-- No numeral begins with a character that is no digit. -/
theorem numeral_ne_cons {c : Char} (hc : digit? 10 c = none) (ds : List (Fin 10)) (s : List Char) :
    numeral ds ≠ c :: s := by
  intro h
  cases ds with
  | nil => cases h
  | cons d ds => exact digit?_eq_none_iff.1 hc d (List.cons.inj h).1.symm

/-- A numeral is read to its last digit. -/
theorem digitRun_numeral (ds : List (Fin 10)) {rest : List Char} (hrest : NoDigit 10 rest) :
    digitRun 10 (numeral ds ++ rest) = (ds.map Fin.val, rest) := by
  have hlt : ∀ d ∈ ds.map Fin.val, d < 10 := by simp
  have h := digitRun_digitChars 10 (by decide) hlt hrest
  rwa [List.map_map] at h

/-- A text is the digits at its front and a rest that begins with none. -/
theorem exists_digitRun (s : List Char) :
    ∃ ds rest, digitRun 10 s = (ds.map Fin.val, rest) ∧ s = numeral ds ++ rest ∧
      NoDigit 10 rest := by
  -- The induction is on the text; the run ends at the first character that is no digit.
  induction s with
  | nil => exact ⟨[], [], rfl, rfl, NoDigit.nil 10⟩
  | cons c s ih =>
    cases hc : digit? 10 c with
    | none => exact ⟨[], c :: s, by simp [digitRun, hc], rfl, NoDigit.cons hc s⟩
    | some d =>
      obtain ⟨hd, rfl⟩ := digit?_eq_some_iff.1 hc
      obtain ⟨ds, rest, hrun, rfl, hrest⟩ := ih
      exact ⟨⟨d, hd⟩ :: ds, rest, by simp [digitRun, hc, hrun], rfl, hrest⟩

/-- The value of the digits that are read is that of the numeral. -/
theorem ofDigits_map_val (ds : List (Fin 10)) : ofDigits 10 (ds.map Fin.val) = numeralValue ds :=
  ofDigits_eq 10 _

/-- A text of digits only is a numeral. -/
theorem allDigits?_eq_some_iff {s : List Char} {ns : List Nat} :
    allDigits? 10 s = some ns ↔ ∃ ds, ds ≠ [] ∧ s = numeral ds ∧ ns = ds.map Fin.val := by
  constructor
  · obtain ⟨ds, rest, hrun, rfl, -⟩ := exists_digitRun s
    rw [allDigits?, hrun]
    intro h
    cases ds with
    | nil => cases h
    | cons d ds =>
      cases rest with
      | cons => cases h
      | nil =>
        rw [List.append_nil]
        exact ⟨d :: ds, by simp, rfl, (Option.some.inj h).symm⟩
  · rintro ⟨ds, hds, rfl, rfl⟩
    have hrun := digitRun_numeral ds (NoDigit.nil 10)
    rw [List.append_nil] at hrun
    rw [allDigits?, hrun]
    cases ds with
    | nil => exact absurd rfl hds
    | cons => rfl

/-- A numeral has no plus sign to drop. -/
theorem dropPlus_numeral (ds : List (Fin 10)) : dropPlus (numeral ds) = numeral ds := by
  unfold dropPlus
  split
  · exact absurd ‹_› (numeral_ne_cons (by decide) ds _)
  · rfl

/-- **What is read of a word is the number that it writes in digits**, as long as it is below the
bound. -/
theorem unsigned?_eq_some_iff {bound n : Nat} {s : List Char} :
    unsigned? bound s = some n ↔ Unsigned s n ∧ n < bound := by
  -- One sign may stand in front of the digits.
  have hdrop : (∃ ds, ds ≠ [] ∧ dropPlus s = numeral ds ∧ numeralValue ds = n) ↔ Unsigned s n := by
    constructor
    · rintro ⟨ds, hds, hs, rfl⟩
      unfold dropPlus at hs
      split at hs <;> subst hs
      · exact .plus hds
      · exact .plain hds
    · rintro (hds | hds)
      · exact ⟨_, hds, dropPlus_numeral _, rfl⟩
      · exact ⟨_, hds, rfl, rfl⟩
  rw [unsigned?, ← hdrop]
  simp only [Option.bind_eq_some_iff, Option.ite_none_right_eq_some, Option.some.injEq,
    allDigits?_eq_some_iff]
  constructor
  · rintro ⟨_, ⟨ds, hds, hs, rfl⟩, hlt, rfl⟩
    rw [ofDigits_map_val] at hlt ⊢
    exact ⟨⟨ds, hds, hs, rfl⟩, hlt⟩
  · rintro ⟨⟨ds, hds, hs, rfl⟩, hlt⟩
    refine ⟨_, ⟨ds, hds, hs, rfl⟩, ?_⟩
    rw [ofDigits_map_val]
    exact ⟨hlt, rfl⟩

namespace Single

/-! ## Literals -/

/-- The sign in front of a number, and whether it negates it. -/
inductive SignMark : List Char → Bool → Prop
  /-- There may be none. -/
  | none : SignMark [] false
  /-- The plus sign. -/
  | plus : SignMark ['+'] false
  /-- The minus sign. -/
  | minus : SignMark ['-'] true

/-- The point of a number with the digits behind it. -/
inductive Fraction : List Char → List (Fin 10) → Prop
  /-- There may be none. -/
  | none : Fraction [] []
  /-- A point, with digits or without. -/
  | pointed (fs : List (Fin 10)) : Fraction ('.' :: numeral fs) fs

/-- The power of ten that a number is multiplied by. -/
inductive Exponent : List Char → Int → Prop
  /-- There may be none. -/
  | none : Exponent [] 0
  /-- A letter of either case, a sign and digits. -/
  | written {letter : Char} {mark : List Char} {negative : Bool} {ds : List (Fin 10)}
      (hletter : letter = 'e' ∨ letter = 'E') (hmark : SignMark mark negative) (hds : ds ≠ []) :
      Exponent (letter :: (mark ++ numeral ds))
        (if negative then -numeralValue ds else numeralValue ds)

/-- A literal and the number that it stands for. -/
inductive Literal : List Char → Single → Prop
  /-- An infinity. -/
  | infinity {mark name : List Char} {negative : Bool} (hmark : SignMark mark negative)
      (hname : Named name "inf" ∨ Named name "infinity") :
      Literal (mark ++ name) (infinity negative)
  /-- No number, with a sign. -/
  | nan {mark name : List Char} {negative : Bool} (hmark : SignMark mark negative)
      (hname : Named name "nan") :
      Literal (mark ++ name) ⟨if negative then 0xffc00000 else 0x7fc00000⟩
  /-- The number nearest to what is written, with a digit on one side of the point at least. -/
  | number {mark point exponent : List Char} {negative : Bool} {ds fs : List (Fin 10)} {e : Int}
      {x : Single} (hmark : SignMark mark negative) (hpoint : Fraction point fs)
      (hdigits : ¬ (ds = [] ∧ fs = [])) (hexponent : Exponent exponent e)
      (hx : Nearest negative ((numeralValue ds + numeralValue fs / 10 ^ fs.length) * 10 ^ e) x) :
      Literal (mark ++ (numeral ds ++ (point ++ exponent))) x

/-! ## Powers of ten -/

/-- A number is below the power of ten after its first digit. -/
theorem natCast_lt_ten_zpow_length (m : Nat) :
    (m : ℚ) < 10 ^ ((Nat.toDigits 10 m).length : Int) := by
  have h : m < 10 ^ (Nat.toDigits 10 m).length :=
    (Nat.length_toDigits_le_iff (by decide) Nat.length_toDigits_pos).1 le_rfl
  rw [zpow_natCast]
  exact_mod_cast h

/-- A number other than zero has reached the power of ten of its first digit. -/
theorem ten_zpow_length_le {m : Nat} (hm : m ≠ 0) :
    (10 : ℚ) ^ (((Nat.toDigits 10 m).length : Int) - 1) ≤ m := by
  obtain ⟨k, hk⟩ := Nat.exists_eq_succ_of_ne_zero
    (Nat.length_toDigits_pos (b := 10) (n := m)).ne'
  have hle : 10 ^ k ≤ m := by
    rcases Nat.eq_zero_or_pos k with rfl | hpos
    · exact Nat.pos_of_ne_zero hm
    · rw [← Nat.not_lt, ← Nat.length_toDigits_le_iff (by decide) hpos, hk]
      omega
  rw [hk, Nat.cast_succ, Int.add_sub_cancel, zpow_natCast]
  exact_mod_cast hle

/-- Powers of ten grow with their exponent. -/
theorem ten_zpow_le {a b : Int} (h : a ≤ b) : (10 : ℚ) ^ a ≤ 10 ^ b :=
  zpow_le_zpow_right₀ (by norm_num) h

/-- What is below half the least number is rounded to zero. -/
theorem nearest_zero_of_lt (negative : Bool) {q : ℚ} (hq : 0 ≤ q) (hlt : q < 2 ^ (-150 : Int)) :
    Nearest negative q (zero negative) := by
  have hunits : q / 2 ^ (-149 : Int) < 1 / 2 := by
    rw [div_lt_iff₀ (two_zpow_pos _)]
    refine hlt.trans_eq ?_
    norm_num
  have hnonneg : 0 ≤ q / 2 ^ (-149 : Int) := div_nonneg hq (two_zpow_pos _).le
  have habs : |((0 : Nat) : ℚ) - q / 2 ^ (-149 : Int)| < 1 / 2 :=
    abs_lt.2 ⟨by push_cast; linarith, by push_cast; linarith⟩
  rw [zero_eq]
  exact nearest_ofPattern negative ⟨habs.le, fun _ => rfl⟩ ⟨le_rfl, by decide, .inr rfl⟩ (.inl rfl)
    rfl (by decide)

/-- **A whole number with a power of ten is rounded to the number nearest to it.** -/
theorem nearest_ofDecimal (negative : Bool) (m : Nat) (e : Int) :
    Nearest negative (m * 10 ^ e) (ofDecimal negative m e) := by
  have hten : (10 : ℚ) ≠ 0 := by norm_num
  have hpos : (0 : ℚ) < 10 ^ e := by positivity
  unfold ofDecimal
  extract_lets magnitude
  have hmagnitude : magnitude = (Nat.toDigits 10 m).length + e := rfl
  clear_value magnitude
  split
  · rename_i hsmall
    rcases hsmall with rfl | hsmall
    · exact nearest_zero negative (by rw [Nat.cast_zero, zero_mul])
    · -- What is below the sixtieth place behind the point is far below the least number.
      refine nearest_zero_of_lt negative (by positivity) ?_
      calc (m : ℚ) * 10 ^ e < 10 ^ ((Nat.toDigits 10 m).length : Int) * 10 ^ e :=
            mul_lt_mul_of_pos_right (natCast_lt_ten_zpow_length m) hpos
        _ = 10 ^ magnitude := by rw [← zpow_add₀ hten, hmagnitude]
        _ ≤ 10 ^ (-61 : Int) := ten_zpow_le (by omega)
        _ < 2 ^ (-150 : Int) := by norm_num
  · rename_i hlarge
    obtain ⟨hm, -⟩ := not_or.1 hlarge
    split
    · -- And with more than sixty digits in front of the point it is far above the largest.
      refine nearest_infinity negative ?_
      calc (2 : ℚ) ^ (128 : Int) ≤ 10 ^ (60 : Int) := by norm_num
        _ ≤ 10 ^ ((Nat.toDigits 10 m).length - 1 + e) := ten_zpow_le (by omega)
        _ = 10 ^ (((Nat.toDigits 10 m).length : Int) - 1) * 10 ^ e := zpow_add₀ hten _ _
        _ ≤ m * 10 ^ e := mul_le_mul_of_nonneg_right (ten_zpow_length_le hm) hpos.le
    · split
      · rename_i he
        obtain ⟨k, rfl⟩ := Int.eq_ofNat_of_zero_le he
        have h := nearest_ofRatio negative (m * 10 ^ k) Nat.one_ne_zero
        rw [Nat.cast_one, div_one, Nat.cast_mul, Nat.cast_pow, ← zpow_natCast] at h
        exact h
      · rename_i he
        obtain ⟨k, hk⟩ := Int.eq_ofNat_of_zero_le (show 0 ≤ -e by omega)
        obtain rfl : e = -k := by omega
        have h := nearest_ofRatio negative m (show 10 ^ k ≠ 0 by positivity)
        rw [neg_neg, Int.toNat_natCast, zpow_neg, zpow_natCast, ← div_eq_mul_inv]
        rwa [Nat.cast_pow] at h

/-! ## Reading literals -/

/-- Every text is its sign, if there is one, and what is left. -/
theorem exists_splitSign (s : List Char) :
    ∃ mark negative rest, splitSign s = (negative, rest) ∧ SignMark mark negative ∧
      s = mark ++ rest := by
  fun_cases splitSign s with
  | case1 rest => exact ⟨['-'], true, rest, rfl, .minus, rfl⟩
  | case2 rest => exact ⟨['+'], false, rest, rfl, .plus, rfl⟩
  | case3 => exact ⟨[], false, s, rfl, .none, rfl⟩

/-- A sign is split off a text that does not begin with one. -/
theorem splitSign_append {mark s : List Char} {negative : Bool} (hmark : SignMark mark negative)
    (hs : ∀ c ∈ s.head?, c ≠ '-' ∧ c ≠ '+') : splitSign (mark ++ s) = (negative, s) := by
  cases hmark with
  | plus => rfl
  | minus => rfl
  | none =>
    rw [List.nil_append]
    fun_cases splitSign s with
    | case1 rest => exact absurd rfl (hs '-' rfl).1
    | case2 rest => exact absurd rfl (hs '+' rfl).2
    | case3 => rfl

/-- Neither a digit nor the point is a sign, or the first letter of a name. -/
theorem first_of_number {c : Char} (h : c = '.' ∨ ∃ d : Fin 10, c = d.val.digitChar) :
    (c ≠ '-' ∧ c ≠ '+') ∧ c.toLower ≠ 'i' ∧ c.toLower ≠ 'n' := by
  rcases h with rfl | ⟨d, rfl⟩
  · decide
  · revert d
    decide

/-- The texts that are read as exponents are exponents. -/
theorem exponent?_eq_some_iff {s : List Char} {e : Int} : exponent? s = some e ↔ Exponent s e := by
  constructor
  · intro h
    cases s with
    | nil =>
      cases h
      exact .none
    | cons c rest =>
      obtain ⟨mark, negative, s, hsplit, hmark, rfl⟩ := exists_splitSign rest
      simp only [exponent?, hsplit, Option.ite_none_right_eq_some, Option.map_eq_some_iff,
        allDigits?_eq_some_iff] at h
      obtain ⟨hletter, _, ⟨ds, hds, rfl, rfl⟩, rfl⟩ := h
      rw [ofDigits_map_val]
      exact .written hletter hmark hds
  · rintro (_ | ⟨hletter, hmark, hds⟩)
    · rfl
    · rename_i ds
      -- No digit is taken for a sign.
      have hsplit := splitSign_append (s := numeral ds) hmark fun c hc => by
        obtain ⟨d, -, rfl⟩ := List.mem_map.1 (List.mem_of_mem_head? hc)
        exact (first_of_number (.inr ⟨d, rfl⟩)).1
      have hall := allDigits?_eq_some_iff.2 ⟨ds, hds, rfl, rfl⟩
      simp only [exponent?, if_pos hletter, hsplit, hall, Option.map_some, ofDigits_map_val]

/-- An exponent does not go on with the mantissa. -/
theorem Exponent.head {s : List Char} {e : Int} (h : Exponent s e) :
    NoDigit 10 s ∧ s.head? ≠ some '.' := by
  rcases h with _ | ⟨hletter, _, _⟩
  · exact ⟨NoDigit.nil 10, by simp⟩
  · rcases hletter with rfl | rfl <;> exact ⟨NoDigit.cons (by decide) _, by simp⟩

/-- The digits on both sides of the point are those of one whole number. -/
theorem nearest_ofDecimal_digits (negative : Bool) (ds fs : List (Fin 10)) (e : Int) :
    Nearest negative ((numeralValue ds + numeralValue fs / 10 ^ fs.length) * 10 ^ e)
      (ofDecimal negative (ofDigits 10 (ds.map Fin.val ++ fs.map Fin.val)) (e - fs.length)) := by
  have hten : (10 : ℚ) ≠ 0 := by norm_num
  have hvalue : ofDigits 10 (ds.map Fin.val ++ fs.map Fin.val) =
      numeralValue fs + 10 ^ fs.length * numeralValue ds := by
    rw [ofDigits_eq, List.reverse_append, Nat.ofDigits_append, List.length_reverse,
      List.length_map]
    rfl
  have h := nearest_ofDecimal negative (ofDigits 10 (ds.map Fin.val ++ fs.map Fin.val))
    (e - fs.length)
  rw [hvalue, zpow_sub₀ hten, zpow_natCast] at h
  push_cast at h
  rw [hvalue]
  convert h using 1
  field_simp
  ring

/-- What is read of digits, a point and what follows them. -/
theorem decimal?_append (negative : Bool) (ds : List (Fin 10)) {fs : List (Fin 10)}
    {point rest : List Char} (hpoint : Fraction point fs) (hrest : NoDigit 10 rest)
    (hnext : point = [] → rest.head? ≠ some '.') :
    decimal? negative (numeral ds ++ (point ++ rest)) =
      if ds = [] ∧ fs = [] then none
      else (exponent? rest).map fun e =>
        ofDecimal negative (ofDigits 10 (ds.map Fin.val ++ fs.map Fin.val)) (e - fs.length) := by
  cases hpoint with
  | none =>
    simp only [decimal?, List.nil_append, digitRun_numeral ds hrest]
    split
    · -- A point would have been read with the digits behind it.
      exact absurd rfl (hnext rfl)
    · simp only [List.map_eq_nil_iff, List.map_nil, List.length_nil]
  | pointed =>
    rw [decimal?, List.cons_append, digitRun_numeral ds (NoDigit.cons (by decide) _)]
    simp only [digitRun_numeral fs hrest, List.map_eq_nil_iff, List.length_map]

/-- Any text is digits, a point and what follows them. -/
theorem exists_fraction (s : List Char) :
    ∃ ds point fs rest, s = numeral ds ++ (point ++ rest) ∧ Fraction point fs ∧
      NoDigit 10 rest ∧ (point = [] → rest.head? ≠ some '.') := by
  obtain ⟨ds, rest, -, rfl, hrest⟩ := exists_digitRun s
  by_cases hpoint : rest.head? = some '.'
  · obtain ⟨rest, rfl⟩ := List.head?_eq_some_iff.1 hpoint
    obtain ⟨fs, rest, -, rfl, hrest'⟩ := exists_digitRun rest
    exact ⟨ds, '.' :: numeral fs, fs, rest, rfl, .pointed fs, hrest', by simp⟩
  · exact ⟨ds, [], [], rest, rfl, .none, hrest, fun _ => hpoint⟩

/-- The first character of a number is a digit or the point. -/
theorem exists_mem_head?_number {ds fs : List (Fin 10)} {point : List Char}
    (hpoint : Fraction point fs) (hdigits : ¬ (ds = [] ∧ fs = [])) (exponent : List Char) :
    ∃ c ∈ (numeral ds ++ (point ++ exponent)).head?,
      c = '.' ∨ ∃ d : Fin 10, c = d.val.digitChar := by
  cases ds with
  | cons d ds => exact ⟨d.val.digitChar, rfl, .inr ⟨d, rfl⟩⟩
  | nil =>
    cases hpoint with
    | pointed => exact ⟨'.', rfl, .inl rfl⟩
    | none => exact absurd ⟨rfl, rfl⟩ hdigits

/-- The first letter of a name is no sign. -/
theorem ne_sign_of_toLower {c : Char} (h : c.toLower = 'i' ∨ c.toLower = 'n') :
    c ≠ '-' ∧ c ≠ '+' := by
  constructor <;> rintro rfl <;> revert h <;> decide

/-- What is read of a word is decided by what follows its sign. -/
theorem ofLiteral?_eq {s rest : List Char} {negative : Bool}
    (hsplit : splitSign s = (negative, rest)) :
    ofLiteral? s =
      if Named rest "inf" ∨ Named rest "infinity" then some (infinity negative)
      else if Named rest "nan" then some ⟨if negative then 0xffc00000 else 0x7fc00000⟩
      else decimal? negative rest := by
  simp only [ofLiteral?, hsplit, ofList_toLower_eq_iff]

/-- A literal is read as the number that it stands for. -/
theorem ofLiteral?_of_literal {s : List Char} {x : Single} (h : Literal s x) :
    ofLiteral? s = some x := by
  cases h with
  | @infinity mark name negative hmark hname =>
    have hhead : name.head?.map Char.toLower = some 'i' := hname.elim Named.head? Named.head?
    have hsplit := splitSign_append (s := name) hmark fun c hc => by
      rw [hc] at hhead
      exact ne_sign_of_toLower (.inl (Option.some.inj hhead))
    rw [ofLiteral?_eq hsplit, if_pos hname]
  | @nan mark name negative hmark hname =>
    have hhead : name.head?.map Char.toLower = some 'n' := hname.head?
    have hsplit := splitSign_append (s := name) hmark fun c hc => by
      rw [hc] at hhead
      exact ne_sign_of_toLower (.inr (Option.some.inj hhead))
    have hnot : ¬ (Named name "inf" ∨ Named name "infinity") := by
      rintro (h | h) <;> exact absurd (hhead.symm.trans h.head?) (by decide)
    rw [ofLiteral?_eq hsplit, if_neg hnot, if_pos hname]
  | @number mark point exponent negative ds fs e x hmark hpoint hdigits hexponent hx =>
    -- Its first character tells a number from a sign and from the names.
    obtain ⟨c, hc, hfirst⟩ := exists_mem_head?_number hpoint hdigits exponent
    obtain ⟨hsign, hi, hn⟩ := first_of_number hfirst
    have hsplit := splitSign_append hmark fun d hd => Option.some.inj (hc.symm.trans hd) ▸ hsign
    have hnot {name : String} (h : Named (numeral ds ++ (point ++ exponent)) name) :
        name.toList.head? = some c.toLower := by
      rw [← h.head?, hc, Option.map_some]
    have hinf : ¬ (Named (numeral ds ++ (point ++ exponent)) "inf" ∨
        Named (numeral ds ++ (point ++ exponent)) "infinity") := by
      rintro (h | h) <;> exact hi (Option.some.inj (hnot h)).symm
    have hnan : ¬ Named (numeral ds ++ (point ++ exponent)) "nan" := fun h =>
      hn (Option.some.inj (hnot h)).symm
    have hhead := hexponent.head
    rw [ofLiteral?_eq hsplit, if_neg hinf, if_neg hnan,
      decimal?_append negative ds hpoint hhead.1 fun _ => hhead.2, if_neg hdigits,
      exponent?_eq_some_iff.2 hexponent, Option.map_some, Option.some.injEq]
    exact (nearest_ofDecimal_digits negative ds fs e).unique hx

/-- **What is read of a word is the number that it is a literal of.** -/
theorem ofLiteral?_eq_some_iff {s : List Char} {x : Single} :
    ofLiteral? s = some x ↔ Literal s x := by
  refine ⟨?_, ofLiteral?_of_literal⟩
  obtain ⟨mark, negative, rest, hsplit, hmark, rfl⟩ := exists_splitSign s
  rw [ofLiteral?_eq hsplit]
  split
  · rename_i hname
    intro h
    cases h
    exact .infinity hmark hname
  · split
    · rename_i hname
      intro h
      cases h
      exact .nan hmark hname
    · obtain ⟨ds, point, fs, exponent, rfl, hpoint, hrest, hnext⟩ := exists_fraction rest
      rw [decimal?_append negative ds hpoint hrest hnext]
      simp only [Option.ite_none_left_eq_some, Option.map_eq_some_iff, exponent?_eq_some_iff]
      rintro ⟨hdigits, e, hexponent, rfl⟩
      exact .number hmark hpoint hdigits hexponent (nearest_ofDecimal_digits negative ds fs e)

end Single

end Pursuit
