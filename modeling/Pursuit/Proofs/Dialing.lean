import Mathlib.Data.List.TakeDrop
import Pursuit.Config.Basic
import Pursuit.Proofs.Addresses

/-! # Dialing what is listened on

The server listens on the configured address and number. A client dials the text of the two with a
colon between, which goes through the reading of texts that lack a number. The two agree unless the
number can be taken for one more group of a version 6 address.

* **`Endpoint.denoted?`** — the endpoint that the text of an address and a number is for.
* **`IPv6.hasRoom`** — the texts that a group can follow.
* **`IPv6.readGroups_append_of_ended`, `IPv6.readGroups_append_of_open`** — what a colon behind a
  text does to the groups that are read of it.
* **`IpAddress.ofText?_number_of_hasRoom`, `IpAddress.ofText?_number_of_not`** — what an address with
  a number behind is if it is taken for an address.
* **`Config.dials_listener_iff`** — when the client dials what the server listens on. -/

namespace Pursuit

/-! ## Texts of an address and a number -/

/-- What is left of a text when brackets around it are removed. -/
def unbracketed : List Char → List Char
  | '[' :: s => if s.getLast? = some ']' then s.dropLast else '[' :: s
  | s => s

/-- The endpoint that a text is for: the address in front of its last colon, perhaps in brackets, and
the number behind. -/
def Endpoint.denoted? (s : String) : Option Endpoint := do
  let (host, number) ← splitLastColon? s.toList
  let ip ← IpAddress.ofText? (String.ofList (unbracketed host))
  let n ← unsigned? UInt16.size number
  return ⟨ip, UInt16.ofNat n⟩

/-- Whether a text of a version 6 address leaves groups out, ends in a group of hexadecimal digits
and would still leave out groups with one more behind. -/
def IPv6.hasRoom (s : String) : Bool :=
  match readGroups true 8 s.toList with
  | ((front, false), ':' :: ':' :: s) =>
    match readGroups true (7 - front.length) s with
    | ((back, false), []) => back ≠ [] && front.length + back.length < 7
    | _ => false
  | _ => false

/-- A text is split at a colon behind which there is no other one. -/
theorem splitLastColon?_append (s : List Char) {t : List Char} (h : ':' ∉ t) :
    splitLastColon? (s ++ ':' :: t) = some (s, t) := by
  have hall : ∀ c ∈ t.reverse, decide (c ≠ ':') = true := by
    intro c hc
    rw [List.mem_reverse] at hc
    exact decide_eq_true fun heq => h (heq ▸ hc)
  rw [splitLastColon?, List.span_eq_takeWhile_dropWhile, List.reverse_append, List.reverse_cons,
    List.append_assoc, List.takeWhile_append_of_pos hall, List.dropWhile_append_of_pos hall]
  simp

/-- A number is all that follows the colon in front of it. -/
theorem splitLastColon?_number (s : List Char) (n : Nat) :
    splitLastColon? (s ++ ':' :: Nat.toDigits 10 n) = some (s, Nat.toDigits 10 n) :=
  splitLastColon?_append s (not_mem_toDigits (by decide) (by decide) (Address.digit?_colon 10))

/-- The text of an address is read to its end. -/
theorem IpAddress.read?_of_ofText? {s : String} {ip : IpAddress} (h : ofText? s = some ip) :
    read? s.toList = some (ip, []) := by
  unfold ofText? at h
  split at h
  · rename_i hread
    rwa [Option.some.inj h] at hread
  · cases h

/-- No address begins with a bracket. -/
theorem IpAddress.read?_bracket (s : List Char) : read? ('[' :: s) = none := by
  have hend : Address.EndsGroup ('[' :: s) := by simp [Address.EndsGroup, digit?]
  simp [read?, IPv4.read?_of_endsGroup hend, IPv6.read?, IPv6.readGroups_true_of_endsGroup 8 hend,
    Reader.char]

/-- The text of an address has no brackets. -/
theorem unbracketed_of_ofText? {s : String} {a : IpAddress} (h : IpAddress.ofText? s = some a) :
    unbracketed s.toList = s.toList := by
  unfold unbracketed
  split
  · rename_i rest hs
    simp [IpAddress.ofText?, hs, IpAddress.read?_bracket] at h
  · rfl

/-- Brackets that are put around a text are removed again. -/
theorem unbracketed_bracketed (s : List Char) : unbracketed ('[' :: (s ++ [']'])) = s := by
  simp [unbracketed]

namespace Endpoint

/-- An address with a number behind is for the two. -/
theorem denoted?_colon (host : List Char) {number : UInt16} {ip : IpAddress} {s : String}
    (hs : s.toList = host ++ ':' :: Nat.toDigits 10 number.toNat)
    (hip : IpAddress.ofText? (String.ofList (unbracketed host)) = some ip) :
    denoted? s = some ⟨ip, number⟩ := by
  have hnumber : unsigned? UInt16.size (Nat.toDigits 10 number.toNat) = some number.toNat :=
    unsigned?_toDigits number.toNat_lt
  simp [denoted?, hs, splitLastColon?_number, hip, hnumber]

/-- The text of an endpoint is for that endpoint. -/
theorem denoted?_text (e : Endpoint) : denoted? e.text = some e := by
  obtain ⟨ip, number⟩ := e
  have hip := IpAddress.ofText?_text ip
  cases ip with
  | v4 a =>
    have hplain : unbracketed a.text.toList = a.text.toList := unbracketed_of_ofText? hip
    refine denoted?_colon a.text.toList ?_ ?_
    · simp [text]
    · rw [hplain, String.ofList_toList]
      exact hip
  | v6 a =>
    refine denoted?_colon ('[' :: (a.text.toList ++ [']'])) ?_ ?_
    · simp [text]
    · rw [unbracketed_bracketed, String.ofList_toList]
      exact hip

/-- What is an address and nothing else is no endpoint. -/
theorem ofText?_of_address {s : String} {a : IpAddress} (h : IpAddress.ofText? s = some a) :
    ofText? s = none := by
  have hread := IpAddress.read?_of_ofText? h
  have hv6 : readV6? s.toList = none := by
    cases hbracket : Reader.char '[' s.toList with
    | none => simp [readV6?, hbracket]
    | some p =>
      rw [Reader.char_eq_some_iff.1 hbracket, IpAddress.read?_bracket] at hread
      cases hread
  have hv4 : readV4? s.toList = none := by
    unfold IpAddress.read? at hread
    split at hread
    · rename_i a' rest hv4
      cases hread
      simp [readV4?, hv4, readNumber, Reader.char]
    · rename_i hv4
      simp [readV4?, hv4]
  simp [ofText?, hv4, hv6]

end Endpoint

/-! ## One more group -/

namespace IPv6

open Address Reader

/-- What a colon does not change for a reader, it does not change behind a separator. -/
theorem separated_append_colon {α : Type} {r : Reader α} (hr : r.Stable) {isFirst : Bool}
    {s : List Char} (hs : isFirst = true ∨ s ≠ []) (t : List Char) :
    separated ':' isFirst r (s ++ ':' :: t) =
      (separated ':' isFirst r s).map fun p => (p.1, p.2 ++ ':' :: t) := by
  cases isFirst with
  | true => exact hr s t
  | false =>
    cases s with
    | nil => simp at hs
    | cons c s =>
      by_cases hc : c = ':'
      · simpa [separated, char, hc] using hr s t
      · simp [separated, char, hc]

/-- What is read behind a separator is not read at the end of a text. -/
theorem separated_ne_nil {α : Type} {r : Reader α} {isFirst : Bool} {s : List Char}
    {p : α × List Char} (h : separated ':' isFirst r s = some p) : isFirst = true ∨ s ≠ [] := by
  cases isFirst with
  | true => exact .inl rfl
  | false =>
    refine .inr ?_
    rintro rfl
    cases h

/-- A colon behind a text changes nothing about an address of version 4 that is read in it. -/
theorem dotted_append_colon {isFirst : Bool} {s : List Char} (hs : isFirst = true ∨ s ≠ [])
    (limit : Nat) (t : List Char) :
    (if limit = 0 then none else separated ':' isFirst IPv4.read? (s ++ ':' :: t)) =
      (if limit = 0 then none else separated ':' isFirst IPv4.read? s).map
        fun p => (p.1, p.2 ++ ':' :: t) := by
  split
  · rfl
  · exact separated_append_colon IPv4.stable_read? hs t

variable {isFirst isMapped : Bool} {limit : Nat} {s rest : List Char} {gs : List UInt16}

/-- A group in front of a text with a colon is read as it is without one. -/
theorem readGroups_append_of_group {g : Nat}
    (hdotted : (if limit = 0 then none else separated ':' isFirst IPv4.read? s) = none)
    (hgroup : separated ':' isFirst (number 16 4) s = some (g, rest)) (t : List Char) :
    readGroups isFirst (limit + 1) (s ++ ':' :: t) =
      ((UInt16.ofNat g :: (readGroups false limit (rest ++ ':' :: t)).1.1,
        (readGroups false limit (rest ++ ':' :: t)).1.2),
        (readGroups false limit (rest ++ ':' :: t)).2) := by
  have hs := separated_ne_nil hgroup
  have hdotted' := dotted_append_colon hs limit t
  have hgroup' := separated_append_colon (stable_number 16 4) hs t
  rw [hdotted] at hdotted'
  rw [hgroup] at hgroup'
  simp only [readGroups, hdotted', hgroup', Option.map_none, Option.map_some]

/-- Where something ends the groups, a colon behind does not matter. -/
theorem readGroups_append_of_ended (h : readGroups isFirst limit s = ((gs, isMapped), rest))
    (hended : rest ≠ [] ∨ isMapped = true ∨ isFirst = true ∧ gs = []) (t : List Char) :
    readGroups isFirst limit (s ++ ':' :: t) = ((gs, isMapped), rest ++ ':' :: t) := by
  -- With the colon behind, the reader takes the same branches, and what stopped it stops it again:
  -- text that is left over, a version 4 address, or that no group came first.
  fun_induction readGroups isFirst limit s generalizing gs rest with
  | case1 isFirst s =>
    cases h
    rfl
  | case2 isFirst limit s a rest' hdotted =>
    cases h
    have hs := separated_ne_nil (Option.ite_none_left_eq_some.1 hdotted).2
    have hdotted' := dotted_append_colon hs limit t
    rw [hdotted] at hdotted'
    simp only [readGroups, hdotted', Option.map_some]
  | case3 isFirst limit s hdotted g rest' hgroup gs' isMapped' rest'' hrest ih =>
    cases h
    rw [readGroups_append_of_group hdotted hgroup, ih hrest (by simpa using hended)]
  | case4 isFirst limit s hdotted hgroup =>
    cases h
    have hs : isFirst = true ∨ s ≠ [] := by
      simpa [or_comm] using hended
    have hdotted' := dotted_append_colon hs limit t
    have hgroup' := separated_append_colon (stable_number 16 4) hs t
    rw [hdotted] at hdotted'
    rw [hgroup] at hgroup'
    simp only [readGroups, hdotted', hgroup', Option.map_none]

/-- Where the groups end with the text, a colon behind lets them go on. -/
theorem readGroups_append_of_open (h : readGroups isFirst limit s = ((gs, false), []))
    (hopen : isFirst = true → gs ≠ []) (t : List Char) :
    readGroups isFirst limit (s ++ ':' :: t) =
      ((gs ++ (readGroups false (limit - gs.length) (':' :: t)).1.1,
        (readGroups false (limit - gs.length) (':' :: t)).1.2),
        (readGroups false (limit - gs.length) (':' :: t)).2) := by
  fun_induction readGroups isFirst limit s generalizing gs with
  | case1 isFirst s =>
    cases h
    rfl
  | case2 isFirst limit s a rest' hdotted => cases h
  | case3 isFirst limit s hdotted g rest' hgroup gs' isMapped' rest'' hrest ih =>
    cases h
    rw [readGroups_append_of_group hdotted hgroup, ih hrest (by simp), List.length_cons,
      Nat.succ_sub_succ]
    rfl
  | case4 isFirst limit s hdotted hgroup =>
    cases h
    cases isFirst with
    | true => exact absurd rfl (hopen rfl)
    | false => simp

/-! ### The number as a group -/

/-- The group that the decimal digits of a number are if they are taken for hexadecimal ones. -/
def groupOfNumber (n : Nat) : UInt16 :=
  UInt16.ofNat (ofDigits 16 (digitRun 10 (Nat.toDigits 10 n)).1)

/-- The digits of a number are taken for those of a group if there are four of them at most. -/
theorem number_hex_toDigits (n : Nat) :
    number 16 4 (Nat.toDigits 10 n) =
      if n < 10000 then some (ofDigits 16 (digitRun 10 (Nat.toDigits 10 n)).1, []) else none := by
  obtain ⟨ds, htext, hds, hlt, _⟩ := exists_toDigits 10 (by decide) n
  have hten := digitRun_digitChars 10 (by decide) hlt (NoDigit.nil 10)
  have hsixteen := digitRun_digitChars 16 (by decide)
    (fun d hd => Nat.lt_trans (hlt d hd) (by decide)) (NoDigit.nil 16)
  have hlength : ds.length ≤ 4 ↔ n < 10000 := by
    have hiff := Nat.length_toDigits_le_iff (n := n) (b := 10) (k := 4) (by decide) (by decide)
    rwa [htext, List.length_map] at hiff
  rw [List.append_nil] at hten hsixteen
  simp only [number, htext, hten, hsixteen, hds, false_or, ← hlength, ← Nat.not_le, ite_not]

/-- A number behind a colon is taken for a group if there may be one and it has few enough digits. -/
theorem readGroups_number (limit n : Nat) :
    readGroups false limit (':' :: Nat.toDigits 10 n) =
      if limit ≠ 0 ∧ n < 10000 then (([groupOfNumber n], false), [])
      else (([], false), ':' :: Nat.toDigits 10 n) := by
  cases limit with
  | zero => rfl
  | succ limit =>
    have hdotted : IPv4.read? (Nat.toDigits 10 n) = none := by
      obtain ⟨ds, hrun, _⟩ := digitRun_toDigits (n := n) (by decide) (by decide) (NoDigit.nil 10)
      rw [List.append_nil] at hrun
      exact IPv4.read?_eq_none (by rw [hrun]; rfl)
    by_cases hn : n < 10000
    · have hend : readGroups false limit [] = (([], false), []) :=
        readGroups_false_of_char limit rfl
      simp [readGroups, separated, char, hdotted, number_hex_toDigits, hn, hend, groupOfNumber]
    · simp [readGroups, separated, char, hdotted, number_hex_toDigits, hn]

/-- The two forms of a text with a version 6 address in front. -/
theorem read?_cases {a : IPv6} (h : read? s = some (a, rest)) :
    (∃ front isMapped, readGroups true 8 s = ((front, isMapped), rest) ∧ front.length = 8) ∨
    ∃ front s' back isMapped, readGroups true 8 s = ((front, false), ':' :: ':' :: s') ∧
      front.length ≠ 8 ∧ readGroups true (7 - front.length) s' = ((back, isMapped), rest) := by
  obtain ⟨⟨⟨front, isMapped⟩, rest'⟩, hfront⟩ : ∃ p, readGroups true 8 s = p := ⟨_, rfl⟩
  simp only [read?, hfront] at h
  split at h
  · rename_i hlength
    cases h
    exact .inl ⟨front, isMapped, hfront, hlength⟩
  · rename_i hlength
    split at h
    · cases h
    · rename_i hmapped
      simp only [Option.bind_eq_bind, Option.bind_eq_some_iff, Prod.exists, Option.pure_def,
        Option.some.injEq, Prod.mk.injEq] at h
      obtain ⟨⟨⟩, _, hcolon, ⟨⟩, s', hcolon', _, rfl⟩ := h
      rw [char_eq_some_iff.1 hcolon, char_eq_some_iff.1 hcolon',
        Bool.eq_false_iff.2 hmapped] at hfront
      exact .inr ⟨front, s', _, _, hfront, hlength, rfl⟩

/-- A text has room for a group if it leaves out two groups or more and ends in one. -/
theorem hasRoom_iff {s : String} : hasRoom s = true ↔
    ∃ front s' back, readGroups true 8 s.toList = ((front, false), ':' :: ':' :: s') ∧
      readGroups true (7 - front.length) s' = ((back, false), []) ∧ back ≠ [] ∧
      front.length + back.length < 7 := by
  unfold hasRoom
  constructor
  · intro h
    split at h
    · rename_i front s' hfront
      split at h
      · rename_i back hback
        simp only [Bool.and_eq_true, decide_eq_true_eq] at h
        exact ⟨front, s', back, hfront, hback, h⟩
      · cases h
    · cases h
  · rintro ⟨front, s', back, hfront, hback, hne, hlt⟩
    simp [hfront, hback, hne, hlt]

variable {text : String} {n : Nat}

/-- Where there is room and the number has few enough digits, it is one more group. -/
theorem read?_number_of_hasRoom (h : hasRoom text = true) (hn : n < 10000) :
    ∃ front back, front.length + back.length < 7 ∧
      read? text.toList = some (ofFrontBack front back, []) ∧
      read? (text.toList ++ ':' :: Nat.toDigits 10 n) =
        some (ofFrontBack front (back ++ [groupOfNumber n]), []) := by
  obtain ⟨front, s', back, hfront, hback, hne, hlt⟩ := hasRoom_iff.1 h
  have hlength : front.length ≠ 8 := by omega
  have hfront' := readGroups_append_of_ended hfront (.inl (by simp)) (Nat.toDigits 10 n)
  have hback' := readGroups_append_of_open hback (fun _ => hne) (Nat.toDigits 10 n)
  have hlimit : 7 - front.length - back.length ≠ 0 := by omega
  rw [readGroups_number, if_pos ⟨hlimit, hn⟩] at hback'
  exact ⟨front, back, hlt, read?_of_readGroups hfront hlength hback,
    read?_of_readGroups hfront' hlength hback'⟩

/-- Otherwise something is left over behind the address. -/
theorem read?_number_of_not {a : IPv6} (hs : read? text.toList = some (a, []))
    (h : ¬ (hasRoom text = true ∧ n < 10000)) :
    ∃ a' rest, read? (text.toList ++ ':' :: Nat.toDigits 10 n) = some (a', rest) ∧ rest ≠ [] := by
  obtain ⟨front, isMapped, hfront, hlength⟩ |
    ⟨front, s', back, isMapped, hfront, hlength, hback⟩ := read?_cases hs
  · -- All eight groups are there already, so that the colon cannot go on with the address.
    have hfront' : readGroups true 8 (text.toList ++ ':' :: Nat.toDigits 10 n) =
        ((front, isMapped), ':' :: Nat.toDigits 10 n) := by
      cases isMapped with
      | true => exact readGroups_append_of_ended hfront (.inr (.inl rfl)) _
      | false =>
        have hne : front ≠ [] := by
          rintro rfl
          cases hlength
        rw [readGroups_append_of_open hfront (fun _ => hne), hlength, Nat.sub_self, readGroups,
          List.append_nil]
    exact ⟨ofFrontBack front [], ':' :: Nat.toDigits 10 n, by simp [read?, hfront', hlength],
      List.cons_ne_nil _ _⟩
  · -- Zeros are left out, and the groups behind them are at their end or have no room for `n`.
    have hfront' := readGroups_append_of_ended hfront (.inl (by simp)) (Nat.toDigits 10 n)
    have hback' : readGroups true (7 - front.length) (s' ++ ':' :: Nat.toDigits 10 n) =
        ((back, isMapped), ':' :: Nat.toDigits 10 n) := by
      by_cases hended : isMapped = true ∨ back = []
      · exact readGroups_append_of_ended hback (.inr (hended.imp_right fun h => ⟨rfl, h⟩)) _
      · obtain ⟨hmapped, hne⟩ := not_or.1 hended
        rw [Bool.eq_false_iff.2 hmapped] at hback ⊢
        have hfull : ¬ (7 - front.length - back.length ≠ 0 ∧ n < 10000) := fun hroom =>
          h ⟨hasRoom_iff.2 ⟨front, s', back, hfront, hback, hne, by omega⟩, hroom.2⟩
        rw [readGroups_append_of_open hback (fun _ => hne), readGroups_number, if_neg hfull,
          List.append_nil]
    exact ⟨_, _, read?_of_readGroups hfront' hlength hback', List.cons_ne_nil _ _⟩

/-- The groups in front and those behind have zeros between them. -/
theorem toList_ofFrontBack (front back : List UInt16) (h : front.length + back.length ≤ 8) :
    (ofFrontBack front back).groups.toList =
      front ++ (List.replicate (8 - front.length - back.length) 0 ++ back) := by
  have hlength :
      (front ++ (List.replicate (8 - front.length - back.length) 0 ++ back)).length = 8 := by
    simp only [List.length_append, List.length_replicate]
    omega
  rw [ofFrontBack_of_eq front back (a := ⟨⟨_, hlength⟩⟩) rfl]
  rfl

/-- A list that can be moved on by a zero in front ends in one. -/
theorem eq_zero_of_concat_eq {g : UInt16} {back : List UInt16} (h : back ++ [g] = 0 :: back) :
    g = 0 := by
  induction back with
  | nil => exact (List.cons.inj h).1
  | cons b back ih =>
    obtain ⟨rfl, hrest⟩ := List.cons.inj h
    exact ih hrest

/-- An address with one more group is another one, unless that group is zero. -/
theorem ofFrontBack_concat_ne {front back : List UInt16} {g : UInt16}
    (hroom : front.length + back.length < 7) (hg : g ≠ 0) :
    ofFrontBack front (back ++ [g]) ≠ ofFrontBack front back := by
  intro heq
  have hgroups := congrArg (·.groups.toList) heq
  have hzeros : 8 - front.length - back.length =
      8 - front.length - (back ++ [g]).length + 1 := by
    simp only [List.length_append, List.length_singleton]
    omega
  simp only [toList_ofFrontBack front (back ++ [g]) (by simp; omega),
    toList_ofFrontBack front back (by omega), hzeros, List.append_cancel_left_eq,
    List.replicate_succ', List.append_assoc, List.singleton_append] at hgroups
  exact hg (eq_zero_of_concat_eq hgroups)

end IPv6

namespace IpAddress

variable {text s : String} {ip : IpAddress} {n : Nat}

/-- Where the number can be taken for a group, an address with a number behind is another address. -/
theorem ofText?_number_of_hasRoom (h : ofText? text = some ip) (hroom : IPv6.hasRoom text = true)
    (hn : n < 10000) (hs : s.toList = text.toList ++ ':' :: Nat.toDigits 10 n) :
    ∃ front back, front.length + back.length < 7 ∧ ip = .v6 (.ofFrontBack front back) ∧
      ofText? s = some (.v6 (.ofFrontBack front (back ++ [IPv6.groupOfNumber n]))) := by
  have hdotted : IPv4.read? text.toList = none := by
    by_contra hsome
    obtain ⟨⟨a, rest⟩, ha⟩ := Option.ne_none_iff_exists'.1 hsome
    obtain ⟨front, s', back, hfront, _⟩ := IPv6.hasRoom_iff.1 hroom
    simp [IPv6.readGroups, Address.separated, ha] at hfront
  have hdotted' := IPv4.stable_read? text.toList (Nat.toDigits 10 n)
  rw [hdotted, Option.map_none] at hdotted'
  obtain ⟨front, back, hlt, hread, hread'⟩ := IPv6.read?_number_of_hasRoom hroom hn
  refine ⟨front, back, hlt, ?_, by simp [ofText?, read?, hs, hdotted', hread']⟩
  have hip := read?_of_ofText? h
  simp only [read?, hdotted, hread, Option.map_some, Option.some.injEq, Prod.mk.injEq] at hip
  exact hip.1.symm

/-- Otherwise it is none. -/
theorem ofText?_number_of_not (h : ofText? text = some ip)
    (hnot : ¬ (IPv6.hasRoom text = true ∧ n < 10000))
    (hs : s.toList = text.toList ++ ':' :: Nat.toDigits 10 n) : ofText? s = none := by
  have hip := read?_of_ofText? h
  have hdotted := IPv4.stable_read? text.toList (Nat.toDigits 10 n)
  unfold read? at hip
  split at hip
  · rename_i a rest hread
    cases hip
    rw [hread, Option.map_some] at hdotted
    simp [ofText?, read?, hs, hdotted]
  · rename_i hnone
    rw [hnone, Option.map_none] at hdotted
    obtain ⟨⟨a, rest⟩, hread, hp⟩ := Option.map_eq_some_iff.1 hip
    cases hp
    obtain ⟨a', rest, hread', hrest⟩ := IPv6.read?_number_of_not hread hnot
    obtain ⟨c, rest, rfl⟩ := List.exists_cons_of_ne_nil hrest
    simp [ofText?, read?, hs, hdotted, hread']

end IpAddress

/-! ## The address that is dialed -/

/-- A text that is an address is dialed with the default number. -/
theorem withDefaultNumber_of_address {s : String} {ip : IpAddress}
    (h : IpAddress.ofText? s = some ip) :
    withDefaultNumber s = (Endpoint.mk ip defaultNumber).text := by
  simp [withDefaultNumber, Endpoint.ofText?_of_address h, h]

/-- A text that is no address and ends in a number is dialed as it is. -/
theorem withDefaultNumber_of_not_address {s : String} {host : List Char} {number : UInt16}
    (hs : s.toList = host ++ ':' :: Nat.toDigits 10 number.toNat) (h : IpAddress.ofText? s = none) :
    withDefaultNumber s = s := by
  have hnumber : unsigned? UInt16.size (Nat.toDigits 10 number.toNat) = some number.toNat :=
    unsigned?_toDigits number.toNat_lt
  simp [withDefaultNumber, h, hs, splitLastColon?_number, hnumber]

namespace Config

/-- **When the client dials what the server listens on**, for every address that a server can listen
on and every number: always, but for a version 6 address that one more group can follow and a number
of at most four digits, which is then taken for that group. -/
theorem dials_listener_iff {c : Config} {l : ListenerSettings} (h : c.listener = .ok l) :
    Endpoint.denoted? (withDefaultNumber c.endpointText) = some l.endpoint ↔
      ¬ (IPv6.hasRoom c.network.address = true ∧ c.network.number < 10000) := by
  obtain ⟨ip, hip, rfl⟩ : ∃ ip, IpAddress.ofText? c.network.address = some ip ∧
      l = ⟨⟨ip, c.network.number⟩, c.network.capacity⟩ := by
    unfold listener at h
    split at h
    · rename_i ip hip
      exact ⟨ip, hip, (Except.ok.inj h).symm⟩
    · cases h
  have htext : c.endpointText.toList =
      c.network.address.toList ++ ':' :: Nat.toDigits 10 c.network.number.toNat := by
    simp [endpointText]
  rw [UInt16.lt_iff_toNat_lt]
  by_cases hroom : IPv6.hasRoom c.network.address = true ∧ c.network.number.toNat < 10000
  · refine iff_of_false (fun hsame => ?_) (fun hnot => hnot hroom)
    -- The text is an address, so the client adds the default number to it.
    obtain ⟨front, back, hlt, rfl, hother⟩ :=
      IpAddress.ofText?_number_of_hasRoom hip hroom.1 hroom.2 htext
    rw [withDefaultNumber_of_address hother, Endpoint.denoted?_text] at hsame
    -- If the numbers are the same, the group that the number was taken for is in the way.
    obtain ⟨haddress, hnumber⟩ := Endpoint.mk.inj (Option.some.inj hsame)
    have hgroup : IPv6.groupOfNumber c.network.number.toNat ≠ 0 := by
      rw [← hnumber]
      decide
    exact IPv6.ofFrontBack_concat_ne hlt hgroup (IpAddress.v6.inj haddress)
  · refine iff_of_true ?_ hroom
    have hnone := IpAddress.ofText?_number_of_not hip hroom htext
    have hplain := unbracketed_of_ofText? hip
    rw [withDefaultNumber_of_not_address htext hnone]
    refine Endpoint.denoted?_colon c.network.address.toList htext ?_
    rw [hplain, String.ofList_toList, hip]

/-- A number of five digits is never taken for a group. -/
theorem dials_listener_iff_five_digits :
    let c : Config := { network := { address := "fe80::1", number := 50000 } }
    let l : ListenerSettings := ⟨⟨.v6 ⟨#v[0xfe80, 0, 0, 0, 0, 0, 0, 1]⟩, 50000⟩, 16⟩
    c.listener = .ok l ∧ Endpoint.denoted? (withDefaultNumber c.endpointText) = some l.endpoint := by
  intro c l
  have hlistener : c.listener = .ok l := by decide +kernel
  exact ⟨hlistener, (dials_listener_iff hlistener).2 (by decide +kernel)⟩

/-- Where the server listens on the loopback address of version 6 and the default number, the client
dials another machine. -/
theorem dials_number_as_group :
    let c : Config := { network := { address := "::1" } }
    c.listener = .ok ⟨⟨.v6 ⟨#v[0, 0, 0, 0, 0, 0, 0, 1]⟩, 8642⟩, 16⟩ ∧
      withDefaultNumber c.endpointText = "[::1:8642]:8642" ∧
      Endpoint.denoted? (withDefaultNumber c.endpointText) =
        some ⟨.v6 ⟨#v[0, 0, 0, 0, 0, 0, 1, 0x8642]⟩, 8642⟩ := by
  decide +kernel

end Config

end Pursuit
