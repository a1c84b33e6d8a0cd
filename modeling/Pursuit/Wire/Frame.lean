import Pursuit.Message.Identity
import Pursuit.Message.Layout

/-! # Frames on the wire

A frame is a header of five bytes and a payload:

```text
message id (2, low byte first) | content type (1) | payload length (2, low byte first) | payload
```

* **`Header`** — the three fields in front of a payload, with `Header.encode`, `Header.decode` and
  the check `Header.validate` of the declared length.
* **`Message`** — a header with a payload. Nothing forces the declared length to be the true one;
  `Message.Consistent` says that it is.
* **`WireError`** — why a message is refused. -/

namespace Pursuit

/-- The greatest payload length. -/
def maxPayload : Nat := 512

/-- The number of bytes of a header. -/
def headerLength : Nat := 5

/-- Why a message could not be read or written. -/
inductive WireError where
  /-- The declared payload is longer than any may be. -/
  | payloadTooLarge (size : Nat)
  /-- The payload length is not the one that its layout has. -/
  | lengthMismatch (type : ContentType) (expected actual : Nat)
  /-- There are too few bytes for a header. -/
  | truncatedHeader (size : Nat)
  /-- A truth value is neither 0 nor 1. -/
  | invalidFlag
  /-- The stream ended before the message was complete. -/
  | connectionClosed
deriving DecidableEq, Repr

namespace WireError

/-- What the error tells its reader. -/
def message : WireError → String
  | payloadTooLarge size =>
    "payload size " ++ toString size ++ " exceeds maximum " ++ toString maxPayload
  | lengthMismatch type expected actual =>
    type.text ++ " expects " ++ toString expected ++ " bytes, got " ++ toString actual
  | truncatedHeader size =>
    "header needs " ++ toString headerLength ++ " bytes, got " ++ toString size
  | invalidFlag => "payload codec error: Found a bool that wasn't 0 or 1"
  | connectionClosed => "connection closed"

/-- Whether the stream is of no more use after the error. -/
def isFatal : WireError → Bool
  | connectionClosed => true
  | _ => false

end WireError

/-! ## Headers -/

/-- What stands in front of a payload. -/
structure Header where
  /-- The entity that the message is about. -/
  id : MessageId
  /-- The layout of the payload. -/
  type : ContentType
  /-- The declared payload length. -/
  length : UInt16
deriving DecidableEq, Inhabited, Repr

namespace Header

/-- The five bytes of a header. -/
def encode (h : Header) : List UInt8 :=
  Layout.word.write h.id.code ++ [h.type.tag] ++ Layout.word.write h.length

/-- The header in the first five bytes. -/
def decode : List UInt8 → Except WireError Header
  | id₀ :: id₁ :: tag :: len₀ :: len₁ :: _ =>
    .ok
      { id := ⟨UInt16.ofNat (id₀.toNat + 256 * id₁.toNat)⟩
        type := ⟨tag⟩
        length := UInt16.ofNat (len₀.toNat + 256 * len₁.toNat) }
  | bytes => .error (.truncatedHeader bytes.length)

/-- Checks the declared length: first against the greatest length, then against the size of a known
layout. -/
def validate (h : Header) : Except WireError Unit :=
  if maxPayload < h.length.toNat then .error (.payloadTooLarge h.length.toNat)
  else
    match h.type.payloadSize? with
    | some size =>
      if size = h.length.toNat then .ok ()
      else .error (.lengthMismatch h.type size h.length.toNat)
    | none => .ok ()

@[simp] theorem length_encode (h : Header) : h.encode.length = headerLength := rfl

/-- A header reads back, whatever follows it. -/
@[simp] theorem decode_encode (h : Header) (rest : List UInt8) :
    decode (h.encode ++ rest) = .ok h := by
  have word (w : UInt16) : UInt16.ofNat
      ((UInt8.ofNat w.toNat).toNat + 256 * (UInt8.ofNat (w.toNat / 256)).toNat) = w := by
    have hw := w.toNat_lt
    apply UInt16.toNat_inj.1
    simp only [UInt8.toNat_ofNat', UInt16.toNat_ofNat']
    omega
  simp only [encode, Layout.word, List.cons_append, List.nil_append, decode, word]

end Header

/-! ## Messages -/

/-- A header with a payload. -/
structure Message where
  /-- What stands in front. -/
  header : Header
  /-- The body. -/
  payload : List UInt8
deriving DecidableEq, Inhabited, Repr

namespace Message

/-- The entity that the message is about. -/
def id (m : Message) : MessageId := m.header.id

/-- The layout of the payload. -/
def type (m : Message) : ContentType := m.header.type

/-- The declared length is the true one. -/
def Consistent (m : Message) : Prop := m.header.length.toNat = m.payload.length

instance (m : Message) : Decidable m.Consistent :=
  inferInstanceAs (Decidable (m.header.length.toNat = m.payload.length))

/-- Whether an endpoint may send the message: it says what its layout is and what it is about. -/
def isAddressed (m : Message) : Bool := m.type ≠ .undefined && m.id ≠ .none

/-- A message with the given payload and its true length. Of a payload that is too long the size is
told as far as a header can state it. -/
def ofPayload (id : MessageId) (type : ContentType) (payload : List UInt8) :
    Except WireError Message :=
  if maxPayload < payload.length then .error (.payloadTooLarge (min payload.length 65535))
  else .ok ⟨⟨id, type, UInt16.ofNat payload.length⟩, payload⟩

/-- The bytes of a message: those of its header, then its payload. -/
def encode (m : Message) : List UInt8 := m.header.encode ++ m.payload

/-- A message built from a payload declares its true length. -/
theorem consistent_of_ofPayload {id : MessageId} {type : ContentType} {payload : List UInt8}
    {m : Message} (h : ofPayload id type payload = .ok m) : m.Consistent := by
  unfold ofPayload at h
  split at h
  · cases h
  · rename_i hlen
    cases h
    simp only [maxPayload] at hlen
    simp only [Consistent, UInt16.toNat_ofNat']
    omega

end Message

end Pursuit
