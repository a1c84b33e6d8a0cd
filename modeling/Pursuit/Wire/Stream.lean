import Pursuit.Wire.Frame

/-! # Reading and writing streams of frames

* **`takeFrame`** — takes one whole frame off a byte stream, whatever its header says.
* **`readMessage`** — takes one frame off and checks its header. What follows an invalid frame is
  read as if the frame had been a valid one.
* **`readStream`** — the results of reading until the stream is of no more use.
* **`writeMessage`** — the bytes of a message that a reader would accept; any other is refused.
* **`writeStream`** — the results of writing several messages, and all bytes written. -/

namespace Pursuit

/-! ## Reading -/

/-- Takes so many bytes off a stream. A stream that has fewer is at its end. -/
def readExact (count : Nat) (stream : List UInt8) : Except WireError (List UInt8 × List UInt8) :=
  if stream.length < count then .error .connectionClosed else .ok (stream.splitAt count)

/-- **What is taken off a stream** is its beginning, and the rest is left. -/
theorem readExact_eq_ok_iff {count : Nat} {stream bytes rest : List UInt8} :
    readExact count stream = .ok (bytes, rest) ↔ bytes.length = count ∧ stream = bytes ++ rest := by
  unfold readExact
  constructor
  · intro h
    split at h
    · cases h
    · rename_i hlen
      rw [List.splitAt_eq] at h
      cases h
      exact ⟨List.length_take_of_le (Nat.le_of_not_lt hlen), (List.take_append_drop _ _).symm⟩
  · rintro ⟨rfl, rfl⟩
    rw [if_neg (by simp), List.splitAt_eq, List.take_left, List.drop_left]

/-- Reading bytes fails at the end of the stream only. -/
theorem readExact_eq_error_iff {count : Nat} {stream : List UInt8} {e : WireError} :
    readExact count stream = .error e ↔ stream.length < count ∧ e = .connectionClosed := by
  unfold readExact
  by_cases hlen : stream.length < count
  · simp [hlen, eq_comm]
  · simp [hlen]

/-- Takes one frame off a stream: a header and as many bytes as it declares. -/
def takeFrame (stream : List UInt8) : Except WireError (Message × List UInt8) :=
  match readExact headerLength stream with
  | .error e => .error e
  | .ok (head, body) =>
    match Header.decode head with
    | .error e => .error e
    | .ok header =>
      match readExact header.length.toNat body with
      | .error e => .error e
      | .ok (payload, rest) => .ok (⟨header, payload⟩, rest)

/-- What is taken off a stream is a header with as many bytes as it declares. -/
theorem eq_append_of_takeFrame {stream rest : List UInt8} {frame : Message}
    (h : takeFrame stream = .ok (frame, rest)) :
    ∃ head, head.length = headerLength ∧ Header.decode head = .ok frame.header ∧
      frame.Consistent ∧ stream = head ++ (frame.payload ++ rest) := by
  unfold takeFrame at h
  split at h
  · cases h
  · rename_i head body hhead
    obtain ⟨hlength, rfl⟩ := readExact_eq_ok_iff.1 hhead
    split at h
    · cases h
    · rename_i header hheader
      split at h
      · cases h
      · rename_i payload rest' hpayload
        obtain ⟨hdeclared, rfl⟩ := readExact_eq_ok_iff.1 hpayload
        cases h
        exact ⟨head, hlength, hheader, hdeclared.symm, rfl⟩

/-- The frame that a stream begins with, and what follows it. There is none where the stream ends
before that. -/
def nextFrame? (stream : List UInt8) : Option (Message × List UInt8) := (takeFrame stream).toOption

/-- There is a next frame if one can be taken. -/
theorem nextFrame?_eq_some_iff_takeFrame {stream rest : List UInt8} {frame : Message} :
    nextFrame? stream = some (frame, rest) ↔ takeFrame stream = .ok (frame, rest) := by
  unfold nextFrame?
  cases takeFrame stream <;> simp [Except.toOption]

/-- The message itself, if its header is valid. -/
def Message.check (m : Message) : Except WireError Message := m.header.validate.map fun _ => m

/-- Takes one frame off a stream: the message or the reason to drop it, and what follows the frame.
A stream that ends inside the frame is used up. Of a header that cannot be read the bytes are
taken. -/
def readMessage (stream : List UInt8) : Except WireError Message × List UInt8 :=
  match takeFrame stream with
  | .ok (frame, rest) => (frame.check, rest)
  | .error e => (.error e, if e.isFatal then [] else stream.drop headerLength)

/-- The results of reading a stream up to its end, which is the last of them. -/
def readStream (stream : List UInt8) : List (Except WireError Message) :=
  match h : takeFrame stream with
  | .error e => [.error e]
  | .ok (frame, rest) =>
    have : rest.length < stream.length := by
      obtain ⟨head, hlength, _, _, rfl⟩ := eq_append_of_takeFrame h
      simp only [List.length_append, hlength, headerLength]
      omega
    frame.check :: readStream rest
termination_by stream.length

/-- The messages among the results of reading. -/
def accepted (results : List (Except WireError Message)) : List Message :=
  results.filterMap Except.toOption

/-! ## Writing -/

/-- The bytes of a message. A message whose declared length is not its true one is refused before
its header is checked. -/
def writeMessage (m : Message) : Except WireError (List UInt8) :=
  if m.Consistent then m.header.validate.map fun _ => m.encode
  else .error (.lengthMismatch m.type m.header.length.toNat m.payload.length)

/-- Whether a message may be written. -/
def Message.writable (m : Message) : Bool := (writeMessage m).isOk

/-- Writes messages one after the other: the result for each, and all bytes written. A refused
message adds none. -/
def writeStream (ms : List Message) : List (Except WireError Unit) × List UInt8 :=
  (ms.map fun m => (writeMessage m).map fun _ => (),
    ms.flatMap fun m => (writeMessage m).toOption.getD [])

end Pursuit
