import Pursuit.Proofs.Numerals

/-! # Addresses read back

The text of an address, in front of anything that cannot go on it, is read as that address. For the
canonical text of version 6 this rests on the run of zero groups that is left out: two colons stand
for as many as are missing.

* **`Address.EndsGroup`, `Address.EndsAddress`** — what may follow a group, and what an address.
* **`IPv6.readGroups_groupsChars`** — groups read back.
* **`IPv4.read?_text`, `IPv6.read?_text`** — addresses read back.
* **`IpAddress.ofText?_text`** — whole texts read back. -/

namespace Pursuit

namespace Address

open Reader

/-- A text that does not go on a group of hexadecimal digits, nor makes it the first byte of a
version 4 address. -/
def EndsGroup (s : List Char) : Prop := ∀ c ∈ s.head?, digit? 16 c = none ∧ c ≠ '.'

/-- A text that does not go on an address. -/
def EndsAddress (s : List Char) : Prop :=
  ∀ c ∈ s.head?, digit? 16 c = none ∧ c ≠ '.' ∧ c ≠ ':'

variable {s : List Char}

/-- Nothing goes on an address at the end of a text. -/
theorem EndsAddress.nil : EndsAddress [] := by
  simp [EndsAddress]

/-- What does not go on an address does not go on a group of it. -/
theorem EndsAddress.endsGroup (h : EndsAddress s) : EndsGroup s :=
  fun c hc => ⟨(h c hc).1, (h c hc).2.1⟩

/-- Where an address ends there is no colon. -/
theorem EndsAddress.char_colon (h : EndsAddress s) : char ':' s = none := by
  cases s with
  | nil => rfl
  | cons c s => exact if_neg (h c rfl).2.2

/-- A colon ends a group. -/
theorem EndsGroup.colon (s : List Char) : EndsGroup (':' :: s) := by
  simp [EndsGroup, digit?_colon]

/-- Where a group ends there is no digit. -/
theorem EndsGroup.noDigit (h : EndsGroup s) : NoDigit 16 s := fun c hc => (h c hc).1

/-- Where a group ends there is no dot. -/
theorem EndsGroup.char_dot (h : EndsGroup s) : char '.' s = none := by
  cases s with
  | nil => rfl
  | cons c s => exact if_neg (h c rfl).2

end Address

/-! ## Version 4 -/

namespace IPv4

open Address Reader

/-- The first byte of an address is followed by a dot. -/
theorem read?_eq_none {s : List Char} (h : char '.' (digitRun 10 s).2 = none) : read? s = none := by
  have hrest {b : UInt8} {rest : List Char} (hb : decimalByte s = some (b, rest)) :
      rest = (digitRun 10 s).2 := by
    simp only [decimalByte, number] at hb
    split at hb
    · rename_i n rest' hnumber
      simp only [Option.ite_none_left_eq_some, Option.some.injEq, Prod.mk.injEq,
        Option.ite_none_right_eq_some] at hb hnumber
      rw [← hb.2.2, hnumber.2.2]
    · cases hb
  cases hb : decimalByte s with
  | none => simp [read?, hb]
  | some p => simp [read?, hb, separated, hrest hb, h]

/-- No address of version 4 begins where a group ends. -/
theorem read?_of_endsGroup {s : List Char} (h : EndsGroup s) : read? s = none := by
  refine read?_eq_none ?_
  have hten : NoDigit 10 s := h.noDigit.mono (by decide)
  rw [digitRun_of_noDigit hten]
  exact h.char_dot

/-- Hexadecimal digits begin no version 4 address if what follows does not. -/
theorem read?_digits {n : Nat} {rest : List Char} (h : EndsGroup rest) :
    read? (Nat.toDigits 16 n ++ rest) = none := by
  obtain ⟨ds, htext, hds, hlt, hvalue⟩ := exists_toDigits 16 (by decide) n
  rw [htext]
  refine read?_eq_none ?_
  clear htext hds hvalue
  -- The decimal digits in front end at a hexadecimal one, or where all digits end.
  induction ds with
  | nil =>
    have hten : NoDigit 10 rest := h.noDigit.mono (by decide)
    exact digitRun_of_noDigit hten ▸ h.char_dot
  | cons d ds ih =>
    have hdot : ∀ d < 16, d.digitChar ≠ '.' := by decide
    simp only [List.map_cons, List.cons_append, digitRun]
    split
    · exact ih fun d' hd' => hlt d' (List.mem_cons_of_mem d hd')
    · exact if_neg (hdot d (hlt d List.mem_cons_self))

/-- An address of version 4 is its four bytes. -/
theorem exists_bytes (a : IPv4) : ∃ b₀ b₁ b₂ b₃, a = ⟨#v[b₀, b₁, b₂, b₃]⟩ := by
  refine ⟨a.bytes[0], a.bytes[1], a.bytes[2], a.bytes[3], ?_⟩
  obtain ⟨bytes⟩ := a
  congr 1
  ext i hi
  obtain rfl | rfl | rfl | rfl : i = 0 ∨ i = 1 ∨ i = 2 ∨ i = 3 := by omega
  all_goals rfl

/-- An address of version 4 is written as its bytes in decimal digits, with dots between them. -/
theorem toList_text (b₀ b₁ b₂ b₃ : UInt8) : (text ⟨#v[b₀, b₁, b₂, b₃]⟩).toList =
    Nat.toDigits 10 b₀.toNat ++ '.' :: (Nat.toDigits 10 b₁.toNat ++
      '.' :: (Nat.toDigits 10 b₂.toNat ++ '.' :: Nat.toDigits 10 b₃.toNat)) := by
  simp [text]

/-- A version 4 address is read back. -/
theorem read?_text (a : IPv4) {rest : List Char} (h : NoDigit 10 rest) :
    read? (a.text.toList ++ rest) = some (a, rest) := by
  have hdot (s : List Char) : NoDigit 10 ('.' :: s) := NoDigit.cons (by decide) s
  have hbyte (b : UInt8) {s : List Char} (hs : NoDigit 10 s) :
      separated '.' false decimalByte ('.' :: (Nat.toDigits 10 b.toNat ++ s)) = some (b, s) := by
    simp [separated, char, decimalByte_toDigits b hs]
  obtain ⟨b₀, b₁, b₂, b₃, rfl⟩ := a.exists_bytes
  simp [toList_text, read?, decimalByte_toDigits b₀ (hdot _), hbyte b₁ (hdot _),
    hbyte b₂ (hdot _), hbyte b₃ h]

end IPv4

/-! ## Version 6 -/

namespace IPv6

open Address Reader

/-- Groups as they are written: each but the first has a colon in front. -/
def groupsChars (isFirst : Bool) : List UInt16 → List Char
  | [] => []
  | g :: gs =>
    (if isFirst then [] else [':']) ++ (Nat.toDigits 16 g.toNat ++ groupsChars false gs)

/-- Groups are written one after the other, with colons between them. -/
theorem toList_groupsText (gs : List UInt16) : (groupsText gs).toList = groupsChars true gs := by
  have htail (g : UInt16) (gs : List UInt16) :
      List.intercalate [':'] (Nat.toDigits 16 g.toNat :: gs.map fun g => Nat.toDigits 16 g.toNat) =
        Nat.toDigits 16 g.toNat ++ groupsChars false gs := by
    induction gs generalizing g with
    | nil => simp [groupsChars]
    | cons g' gs ih => simp [groupsChars, List.intercalate_cons_cons, ih]
  rw [groupsText, String.toList_intercalate]
  cases gs with
  | nil => rfl
  | cons g gs => simpa [groupsChars, Function.comp_def] using htail g gs

/-- Further groups in front of a rest do not go on the group before them, if the rest does not. -/
theorem endsGroup_groupsChars (gs : List UInt16) {rest : List Char} (h : EndsGroup rest) :
    EndsGroup (groupsChars false gs ++ rest) := by
  cases gs with
  | nil => exact h
  | cons g gs => exact EndsGroup.colon _

/-- A group is read, and then those with colons in front. -/
theorem readGroups_group (isFirst : Bool) (limit : Nat) (g : UInt16) {rest : List Char}
    (h : EndsGroup rest) :
    readGroups isFirst (limit + 1)
        ((if isFirst then [] else [':']) ++ (Nat.toDigits 16 g.toNat ++ rest)) =
      ((g :: (readGroups false limit rest).1.1, (readGroups false limit rest).1.2),
        (readGroups false limit rest).2) := by
  have hlength : (Nat.toDigits 16 g.toNat).length ≤ 4 :=
    (Nat.length_toDigits_le_iff (by decide) (by decide)).2 g.toNat_lt
  have hdotted : separated ':' isFirst IPv4.read?
      ((if isFirst then [] else [':']) ++ (Nat.toDigits 16 g.toNat ++ rest)) = none := by
    cases isFirst <;> simp [separated, char, IPv4.read?_digits h]
  have hgroup : separated ':' isFirst (number 16 4)
      ((if isFirst then [] else [':']) ++ (Nat.toDigits 16 g.toNat ++ rest)) =
        some (g.toNat, rest) := by
    cases isFirst <;>
      simp [separated, char, number_toDigits (by decide) (by decide) h.noDigit, hlength]
  simp [readGroups, hdotted, hgroup]

/-- Groups are read back, and after them whatever follows that can be read as groups. -/
theorem readGroups_groupsChars {isFirst : Bool} {limit : Nat} {gs : List UInt16} {rest : List Char}
    (hgs : gs ≠ []) (hlimit : gs.length ≤ limit) (hrest : EndsGroup rest) :
    readGroups isFirst limit (groupsChars isFirst gs ++ rest) =
      ((gs ++ (readGroups false (limit - gs.length) rest).1.1,
        (readGroups false (limit - gs.length) rest).1.2),
        (readGroups false (limit - gs.length) rest).2) := by
  induction gs generalizing isFirst limit with
  | nil => exact absurd rfl hgs
  | cons g gs ih =>
    obtain ⟨limit, rfl⟩ : ∃ n, limit = n + 1 := ⟨limit - 1, by simp at hlimit; omega⟩
    rw [groupsChars, List.append_assoc, List.append_assoc,
      readGroups_group isFirst limit g (endsGroup_groupsChars gs hrest)]
    by_cases hempty : gs = []
    · subst hempty
      simp [groupsChars]
    · rw [ih hempty (Nat.le_of_succ_le_succ hlimit)]
      simp

/-- Where no group can be there is none. -/
theorem readGroups_true_of_endsGroup (limit : Nat) {s : List Char} (h : EndsGroup s) :
    readGroups true limit s = (([], false), s) := by
  cases limit with
  | zero => rfl
  | succ limit =>
    simp [readGroups, separated, IPv4.read?_of_endsGroup h,
      number_of_noDigit h.noDigit]

/-- Where there is no colon, no further groups are read. -/
theorem readGroups_false_of_char (limit : Nat) {s : List Char} (h : char ':' s = none) :
    readGroups false limit s = (([], false), s) := by
  cases limit with
  | zero => rfl
  | succ limit => simp [readGroups, separated, h]

/-- A colon with no group behind it is left unread. -/
theorem readGroups_false_of_endsGroup (limit : Nat) {s : List Char} (h : EndsGroup s) :
    readGroups false limit (':' :: s) = (([], false), ':' :: s) := by
  cases limit with
  | zero => rfl
  | succ limit =>
    simp [readGroups, separated, char, IPv4.read?_of_endsGroup h,
      number_of_noDigit h.noDigit]

/-- Groups are read back in front of two colons. -/
theorem readGroups_colons (limit : Nat) (gs : List UInt16) (hlimit : gs.length ≤ limit)
    (s : List Char) :
    readGroups true limit (groupsChars true gs ++ ':' :: ':' :: s) =
      ((gs, false), ':' :: ':' :: s) := by
  have hcolon := EndsGroup.colon (':' :: s)
  by_cases hgs : gs = []
  · subst hgs
    exact readGroups_true_of_endsGroup limit hcolon
  · rw [readGroups_groupsChars hgs hlimit hcolon,
      readGroups_false_of_endsGroup _ (EndsGroup.colon s), List.append_nil]

/-- Groups are read back at the end of an address. -/
theorem readGroups_last (limit : Nat) (gs : List UInt16) (hlimit : gs.length ≤ limit)
    {rest : List Char} (h : EndsAddress rest) :
    readGroups true limit (groupsChars true gs ++ rest) = ((gs, false), rest) := by
  by_cases hgs : gs = []
  · subst hgs
    exact readGroups_true_of_endsGroup limit h.endsGroup
  · rw [readGroups_groupsChars hgs hlimit h.endsGroup, readGroups_false_of_char _ h.char_colon,
      List.append_nil]

/-! ### The groups that are left out -/

/-- Where the longest run of zeros is found, there are as many zeros as it is long. -/
theorem longestZeros_le (groups : List UInt16) :
    (longestZeros groups).2 ≤ zerosInFront (groups.drop (longestZeros groups).1) := by
  -- Each run that is kept while looking for a longer one is a run of zero groups.
  refine List.foldlRecOn (motive := fun run : Nat × Nat =>
    run.2 ≤ zerosInFront (groups.drop run.1)) _ _ (Nat.zero_le _) fun run hrun i _ => ?_
  simp only
  split
  · exact Nat.le_refl _
  · exact hrun

/-- Groups that have zeros in front are these zeros and what comes after them. -/
theorem eq_zeros_append {groups : List UInt16} {n : Nat} (h : n ≤ zerosInFront groups) :
    groups = List.replicate n 0 ++ groups.drop n := by
  induction n generalizing groups with
  | zero => rfl
  | succ n ih =>
    cases groups with
    | nil => simp [zerosInFront] at h
    | cons g gs =>
      by_cases hg : g = 0
      · subst hg
        rw [List.replicate_succ, List.cons_append, List.drop_succ_cons, ← ih]
        simpa [zerosInFront] using h
      · simp [zerosInFront, hg] at h

/-- The groups of an address are those in front of its longest run of zero groups, that run, and
those behind it. -/
theorem eq_around_longestZeros (groups : List UInt16) :
    groups = groups.take (longestZeros groups).1 ++
      (List.replicate (longestZeros groups).2 0 ++
        groups.drop ((longestZeros groups).1 + (longestZeros groups).2)) := by
  rw [← List.drop_drop, ← eq_zeros_append (longestZeros_le groups), List.take_append_drop]

/-- An address is filled up with the zeros that were left out of it. -/
theorem ofFrontBack_of_eq {a : IPv6} (front back : List UInt16) {n : Nat}
    (h : a.groups.toList = front ++ (List.replicate n 0 ++ back)) : ofFrontBack front back = a := by
  have hlength := congrArg List.length h
  have hzeros : 8 - front.length - back.length = n := by simp at hlength; omega
  obtain ⟨groups⟩ := a
  rw [ofFrontBack, hzeros, List.append_assoc, ← h]
  congr 1
  ext i hi
  simp

/-- A group is its high and its low byte. -/
theorem ofNat_bytes (g : UInt16) :
    UInt16.ofNat (256 * (UInt8.ofNat (g.toNat / 256)).toNat + (UInt8.ofNat g.toNat).toNat) = g := by
  have hlt : g.toNat < 65536 := g.toNat_lt
  have hvalue : 256 * (UInt8.ofNat (g.toNat / 256)).toNat + (UInt8.ofNat g.toNat).toNat =
      g.toNat := by
    simp only [UInt8.toNat_ofNat']
    omega
  rw [hvalue, UInt16.ofNat_toNat]

/-- The four bytes of two groups are taken for these groups. -/
theorem groupsOf_bytes (hi lo : UInt16) :
    groupsOf ⟨#v[UInt8.ofNat (hi.toNat / 256), UInt8.ofNat hi.toNat, UInt8.ofNat (lo.toNat / 256),
      UInt8.ofNat lo.toNat]⟩ = [hi, lo] :=
  List.cons_eq_cons.2 ⟨ofNat_bytes hi, List.cons_eq_cons.2 ⟨ofNat_bytes lo, rfl⟩⟩

/-- What a mapped address holds is its last two groups. -/
theorem toList_of_mapped? {a : IPv6} {v4 : IPv4} (h : a.mapped? = some v4) :
    a.groups.toList = List.replicate 5 0 ++ 0xffff :: groupsOf v4 := by
  unfold mapped? at h
  split at h
  · rename_i hi lo hgroups
    cases h
    rw [hgroups, groupsOf_bytes]
    rfl
  · cases h

/-- The three forms of the canonical text. -/
theorem text_cases (a : IPv6) :
    (∃ v4, a.groups.toList = List.replicate 5 0 ++ 0xffff :: groupsOf v4 ∧
      a.text.toList = "::ffff:".toList ++ v4.text.toList) ∨
    (∃ front back n, 1 < n ∧ a.groups.toList = front ++ (List.replicate n 0 ++ back) ∧
      a.text.toList = groupsChars true front ++ ':' :: ':' :: groupsChars true back) ∨
    a.text.toList = groupsChars true a.groups.toList := by
  unfold text
  split
  · rename_i v4 hmapped
    exact .inl ⟨v4, toList_of_mapped? hmapped, String.toList_append⟩
  · simp only
    split
    · rename_i hlong
      exact .inr (.inl ⟨_, _, _, hlong, eq_around_longestZeros a.groups.toList,
        by simp [toList_groupsText]⟩)
    · exact .inr (.inr (toList_groupsText _))

/-! ### Reading back -/

/-- Groups in front of two colons and groups behind them are read as one address. -/
theorem read?_of_readGroups {s s' rest : List Char} {front back : List UInt16} {isMapped : Bool}
    (hfront : readGroups true 8 s = ((front, false), ':' :: ':' :: s')) (hlength : front.length ≠ 8)
    (hback : readGroups true (7 - front.length) s' = ((back, isMapped), rest)) :
    read? s = some (ofFrontBack front back, rest) := by
  simp [read?, hfront, hlength, hback, char]

/-- The end of a mapped address is read back. -/
theorem readGroups_mapped (v4 : IPv4) {rest : List Char} (h : EndsAddress rest) :
    readGroups true 7 ("ffff:".toList ++ (v4.text.toList ++ rest)) =
      ((0xffff :: groupsOf v4, true), rest) := by
  have hten : NoDigit 10 rest := h.endsGroup.noDigit.mono (by decide)
  have hread := IPv4.read?_text v4 hten
  have htail : readGroups false 6 (':' :: (v4.text.toList ++ rest)) =
      ((groupsOf v4, true), rest) := by
    simp [readGroups, separated, char, hread]
  have hgroup := readGroups_group true 6 0xffff (EndsGroup.colon (v4.text.toList ++ rest))
  rw [htail] at hgroup
  exact hgroup

/-- A version 6 address is read back. -/
theorem read?_text (a : IPv6) {rest : List Char} (h : EndsAddress rest) :
    read? (a.text.toList ++ rest) = some (a, rest) := by
  obtain ⟨v4, hgroups, htext⟩ | ⟨front, back, n, hn, hgroups, htext⟩ | htext := a.text_cases
  · have hfront := readGroups_true_of_endsGroup 8
      (EndsGroup.colon (':' :: ("ffff:".toList ++ (v4.text.toList ++ rest))))
    have hread := read?_of_readGroups hfront (by decide) (readGroups_mapped v4 h)
    rw [ofFrontBack_of_eq [] _ (n := 5) hgroups] at hread
    rw [htext, List.append_assoc]
    exact hread
  · have hlength := congrArg List.length hgroups
    simp only [Vector.length_toList, List.length_append, List.length_replicate] at hlength
    have hfront := readGroups_colons 8 front (by omega)
      (groupsChars true back ++ rest)
    have hback := readGroups_last (7 - front.length) back (by omega) h
    have hread := read?_of_readGroups hfront (by omega) hback
    rw [ofFrontBack_of_eq front back hgroups] at hread
    simpa [htext] using hread
  · have hall := readGroups_last 8 a.groups.toList (by simp) h
    have hwhole : ofFrontBack a.groups.toList [] = a := ofFrontBack_of_eq _ _ (n := 0) (by simp)
    simp [read?, htext, hall, hwhole]

/-- It does not begin with a version 4 address. -/
theorem read?_v4_text (a : IPv6) {rest : List Char} (h : EndsAddress rest) :
    IPv4.read? (a.text.toList ++ rest) = none := by
  have hgroups (gs : List UInt16) {s : List Char} (hs : EndsGroup s) :
      IPv4.read? (groupsChars true gs ++ s) = none := by
    cases gs with
    | nil => exact IPv4.read?_of_endsGroup hs
    | cons g gs =>
      have hread := IPv4.read?_digits (n := g.toNat) (endsGroup_groupsChars gs hs)
      simpa [groupsChars] using hread
  obtain ⟨v4, _, htext⟩ | ⟨front, back, n, _, _, htext⟩ | htext := a.text_cases
  · rw [htext]
    exact IPv4.read?_of_endsGroup (EndsGroup.colon _)
  · rw [htext, List.append_assoc]
    exact hgroups front (EndsGroup.colon _)
  · rw [htext]
    exact hgroups a.groups.toList h.endsGroup

end IPv6

namespace IpAddress

open Address

/-- An address is read back. -/
theorem read?_text (a : IpAddress) {rest : List Char} (h : EndsAddress rest) :
    read? (a.text.toList ++ rest) = some (a, rest) := by
  cases a with
  | v4 a => simp [read?, text, a.read?_text (h.endsGroup.noDigit.mono (by decide))]
  | v6 a => simp [read?, text, a.read?_v4_text h, a.read?_text h]

/-- The text of an address stands for that address. -/
theorem ofText?_text (a : IpAddress) : ofText? a.text = some a := by
  have hread := a.read?_text EndsAddress.nil
  rw [List.append_nil] at hread
  simp [ofText?, hread]

end IpAddress

end Pursuit
