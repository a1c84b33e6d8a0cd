import Pursuit.Proofs.Dialing

/-! # Endpoints read back

The text of an endpoint is read as that endpoint: the number behind a version 4 address is the one
behind its only colon, and the brackets around a version 6 address keep the number apart from its
groups. So a client that is handed such a text dials that endpoint, and what names a number is never
given the default one.

* **`Endpoint.readNumber_toDigits`** — numbers read back.
* **`Endpoint.readV4?_text`, `Endpoint.readV6?_text`** — endpoints read back in front of other text.
* **`Endpoint.ofText?_text`** — whole texts read back.
* **`Endpoint.own_client_dials_bound`** — a host's own client dials what its server listens on. -/

namespace Pursuit

open Address Reader

/-- A number below the bound is read back. -/
theorem Address.boundedNumber_toDigits {bound n : Nat} (hn : n < bound) {rest : List Char}
    (hrest : NoDigit 10 rest) :
    boundedNumber bound (Nat.toDigits 10 n ++ rest) = some (n, rest) := by
  obtain ⟨ds, hrun, hds, _, hvalue⟩ :=
    digitRun_toDigits (n := n) (by decide) (by decide) hrest
  have hle : ¬ bound ≤ n := Nat.not_le.2 hn
  simp [boundedNumber, hrun, hds, hvalue, hle]

namespace Endpoint

variable {rest : List Char}

/-- A number behind a colon is read back in front of anything that is no digit. -/
theorem readNumber_toDigits (number : UInt16) (hrest : NoDigit 10 rest) :
    readNumber (':' :: (Nat.toDigits 10 number.toNat ++ rest)) = some (number, rest) := by
  simp [readNumber, char, boundedNumber_toDigits number.toNat_lt hrest]

/-- A version 4 address with a number is read back. -/
theorem readV4?_text (a : IPv4) (number : UInt16) (hrest : NoDigit 10 rest) :
    readV4? ((Endpoint.mk (.v4 a) number).text.toList ++ rest) = some (⟨.v4 a, number⟩, rest) := by
  have hcolon : NoDigit 10 (':' :: (Nat.toDigits 10 number.toNat ++ rest)) :=
    NoDigit.cons (digit?_colon 10) _
  simp [readV4?, text, a.read?_text hcolon, readNumber_toDigits number hrest]

/-- A bracket ends an address, and no zone begins with it. -/
theorem endsAddress_bracket (s : List Char) : EndsAddress (']' :: s) := by
  simp [EndsAddress, digit?]

/-- No zone is skipped where the bracket closes. -/
theorem skipZone_bracket (s : List Char) : skipZone (']' :: s) = ']' :: s := by
  simp [skipZone, char]

/-- A version 6 address in brackets with a number is read back. -/
theorem readV6?_text (a : IPv6) (number : UInt16) (hrest : NoDigit 10 rest) :
    readV6? ((Endpoint.mk (.v6 a) number).text.toList ++ rest) = some (⟨.v6 a, number⟩, rest) := by
  have hread := a.read?_text
    (endsAddress_bracket (':' :: (Nat.toDigits 10 number.toNat ++ rest)))
  simp [readV6?, text, char, hread, skipZone_bracket, readNumber_toDigits number hrest]

/-- No version 4 address begins with a bracket. -/
theorem readV4?_bracket (s : List Char) : readV4? ('[' :: s) = none := by
  have hend : EndsGroup ('[' :: s) := by simp [EndsGroup, digit?]
  simp [readV4?, IPv4.read?_of_endsGroup hend]

/-- The text of an endpoint stands for that endpoint. -/
theorem ofText?_text (e : Endpoint) : ofText? e.text = some e := by
  obtain ⟨ip, number⟩ := e
  cases ip with
  | v4 a =>
    have hread := readV4?_text a number (NoDigit.nil 10)
    rw [List.append_nil] at hread
    simp [ofText?, hread]
  | v6 a =>
    have hread := readV6?_text a number (NoDigit.nil 10)
    have hbracket : ∃ s, (Endpoint.mk (.v6 a) number).text.toList = '[' :: s := by simp [text]
    obtain ⟨s, hs⟩ := hbracket
    rw [List.append_nil, hs] at hread
    simp [ofText?, hs, readV4?_bracket, hread]

/-- What names an address and a number is dialed as it is. -/
theorem withDefaultNumber_of_endpoint {s : String} {e : Endpoint} (h : ofText? s = some e) :
    withDefaultNumber s = s := by
  simp [withDefaultNumber, h]

/-- **A host's own client dials what its server listens on**, with the loopback address in place of an
unspecified one: the text that it is handed stands for that endpoint, and is dialed as it is. An
address without a number is dialed with the default number, and the text of an endpoint, however it is
written, as it is. -/
theorem own_client_dials_bound :
    (∀ bound : Endpoint,
      withDefaultNumber bound.fromHere.text = bound.fromHere.text ∧
      ofText? bound.fromHere.text =
        some ⟨if bound.ip.isUnspecified then .v4 ⟨#v[127, 0, 0, 1]⟩ else bound.ip,
          bound.number⟩) ∧
    (∀ ip : IpAddress, ofText? (withDefaultNumber ip.text) = some ⟨ip, 8642⟩) ∧
    ∀ (s : String) (e : Endpoint), ofText? s = some e → withDefaultNumber s = s := by
  refine ⟨fun bound => ⟨withDefaultNumber_of_endpoint (ofText?_text _), ?_⟩, fun ip => ?_,
    fun s e h => withDefaultNumber_of_endpoint h⟩
  · rw [ofText?_text, fromHere]
    split <;> rfl
  · rw [withDefaultNumber_of_address ip.ofText?_text, ofText?_text]
    rfl

/-- An endpoint with a zone, capitals and idle zeros in it is dialed as it is written. -/
theorem own_client_dials_bound_zone :
    let s := "[FE80:0::01%2]:0080"
    ofText? s = some ⟨.v6 ⟨#v[0xfe80, 0, 0, 0, 0, 0, 0, 1]⟩, 80⟩ ∧ withDefaultNumber s = s := by
  intro s
  have hread : ofText? s = some ⟨.v6 ⟨#v[0xfe80, 0, 0, 0, 0, 0, 0, 1]⟩, 80⟩ := by decide +kernel
  exact ⟨hread, own_client_dials_bound.2.2 s _ hread⟩

end Endpoint

end Pursuit
