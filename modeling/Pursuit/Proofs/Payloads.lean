import Pursuit.Proofs.Contents
import Pursuit.Proofs.Framing

/-! # The five payloads on the wire

The size of a record stands in three places: with the record, in the table of content types, and in
what its bytes come to. This file says that they agree, and that bytes and records correspond.

* **`Payload.Exact`** — records of a type and their bytes determine each other, and the messages that
  carry them are sent.
* **`Payload.Exact.of_flagsAt`** — what has to be known of a type for that.
* **`payloads_exact`** — it holds of all five. -/

namespace Pursuit

namespace Payload

/-- Records of a type correspond to byte strings of the declared size that have truth values, 0 or 1,
at the given places; and the messages that carry them are valid. -/
structure Exact (α : Type) [Payload α] (flags : List Nat) : Prop where
  /-- A record is written, in the declared size, and reads back. -/
  encode_eq_ok : ∀ a : α, ∃ bytes,
    encode a = .ok bytes ∧ bytes.length = size α ∧ ofBytes bytes = .ok a
  /-- A byte string is read if it is of the declared size and its truth values are. -/
  ofBytes_eq_ok : ∀ bytes, (∃ a : α, ofBytes bytes = .ok a) ↔
    bytes.length = size α ∧ ∀ i ∈ flags, bytes[i]? = some 0 ∨ bytes[i]? = some 1
  /-- A record has no other bytes than those it is written as. -/
  encode_ofBytes : ∀ bytes (a : α), ofBytes bytes = .ok a → encode a = .ok bytes
  /-- A record is carried by a message under any id, which is valid and is sent as it is. -/
  toMessage_eq_ok : ∀ (a : α) (id : MessageId), ∃ m, toMessage a id = .ok m ∧ m.id = id ∧
    m.type = type α ∧ encode a = .ok m.payload ∧ m.header.validate = .ok () ∧
    writeMessage m = .ok m.encode
  /-- The table of content types has the declared size. -/
  payloadSize?_eq : (type α).payloadSize? = some (size α)

variable {α : Type} [Payload α] [LawfulPayload α]

/-- **A lawful record corresponds to its bytes** if its size is that of the table and not too great. -/
theorem Exact.of_flagsAt {flags : List Nat} (hflags : (layout : Layout α).FlagsAt flags)
    (hsize : (type α).payloadSize? = some (size α)) (hmax : size α ≤ maxPayload) :
    Exact α flags where
  encode_eq_ok a := ⟨toBytes a, encode_eq a, length_toBytes a, ofBytes_eq_ok_iff.2 rfl⟩
  ofBytes_eq_ok bytes := by
    simp only [ofBytes_eq_ok_iff]
    exact exists_toBytes_iff hflags bytes
  encode_ofBytes bytes a h := by
    rw [encode_eq, ofBytes_eq_ok_iff.1 h]
  toMessage_eq_ok a id := by
    -- The declared size is a length that a header can state.
    have hlength : (UInt16.ofNat (size α)).toNat = size α := by
      rw [UInt16.toNat_ofNat']
      exact Nat.mod_eq_of_lt (Nat.lt_of_le_of_lt hmax (by decide))
    let m : Message := ⟨⟨id, type α, .ofNat (size α)⟩, toBytes a⟩
    have hvalid : m.header.validate = .ok () := by
      change Header.validate ⟨id, type α, .ofNat (size α)⟩ = .ok ()
      rw [Header.validate, hlength, if_neg (Nat.not_lt_of_le hmax), hsize]
      exact if_pos rfl
    have hconsistent : m.Consistent := hlength.trans (length_toBytes a).symm
    have hcheck : m.check = .ok m := by
      rw [Message.check_eq, hvalid]
    refine ⟨m, ?_, rfl, rfl, encode_eq a, hvalid,
      writeMessage_eq_ok_iff.2 ⟨hconsistent, hcheck, rfl⟩⟩
    rw [toMessage, encode_eq]
    rfl
  payloadSize?_eq := hsize

end Payload

open Payload in
/-- **Each of the five payloads corresponds to its bytes.** Writing a record never fails, gives the
declared number of bytes and reads back; the byte strings that are read are those of the declared
size in which the bytes that stand for truth values are 0 or 1, and what is read from one is written
as the same; the message of a record is valid and is sent, under any id; and the sizes agree. -/
theorem payloads_exact :
    Exact PieceState [11, 12, 13] ∧ Exact SteerOrder [] ∧ Exact HighlightOrder [1] ∧
      Exact ObstacleState [] ∧ Exact Greeting [] :=
  ⟨.of_flagsAt PieceState.flagsAt rfl (by decide), .of_flagsAt SteerOrder.flagsAt rfl (by decide),
    .of_flagsAt HighlightOrder.flagsAt rfl (by decide),
    .of_flagsAt ObstacleState.flagsAt rfl (by decide), .of_flagsAt Greeting.flagsAt rfl (by decide)⟩

/-- The low byte of a player's id comes first. -/
example : Payload.encode (⟨⟨0x0104⟩⟩ : Greeting) = .ok [0x04, 0x01] := rfl

end Pursuit
