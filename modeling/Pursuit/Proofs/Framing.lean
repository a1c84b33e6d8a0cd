import Pursuit.Wire.Stream

/-! # Frames in a byte stream

Headers cut a stream into frames, whether or not they are valid: each frame is a header and as many
bytes as it declares, and what is left in the end is the beginning of a frame.

* **`Framed`** — a stream cut into frames and an unfinished rest. `exists_framed` and
  `Framed.unique` say that there is one way to do so.
* **`takeFrame_eq_ok_iff`, `eq_connectionClosed_of_takeFrame`** — what is taken off a stream is its
  first frame, and the only reason not to take one is the end of the stream.
* **`nextFrame?_eq_none_iff`** — nothing is taken off an unfinished stream.
* **`Reads`** — messages read one after the other until the stream is of no more use.
* **`reading_follows_framing`** — the results of reading are one for each frame, and the end.
* **`Message.writable_iff`** — what is written is what a reader accepts and leaves nothing of.
* **`reading_returns_what_was_written`** — the messages written are read back, the others leave no
  trace. -/

namespace Pursuit

/-! ## Headers -/

namespace Header

/-- Five bytes are a header. -/
theorem exists_decode_eq_ok {bytes : List UInt8} (h : headerLength ≤ bytes.length) :
    ∃ header, decode bytes = .ok header := by
  match bytes, h with
  | _ :: _ :: _ :: _ :: _ :: _, _ => exact ⟨_, rfl⟩

/-- **A header is read from what it is written as**, and nothing else. -/
theorem decode_eq_ok_iff {bytes : List UInt8} {header : Header} :
    decode bytes = .ok header ↔ bytes = header.encode ++ bytes.drop headerLength := by
  constructor
  · intro h
    unfold decode at h
    split at h
    · rename_i id₀ id₁ tag len₀ len₁ rest
      cases h
      have hid : [id₀, id₁] = Layout.word.write _ ++ [] := Layout.word_lawful.eq_of_read rfl
      have hlen : [len₀, len₁] = Layout.word.write _ ++ [] := Layout.word_lawful.eq_of_read rfl
      rw [List.append_nil] at hid hlen
      rw [encode, ← hid, ← hlen]
      rfl
    · cases h
  · intro h
    rw [h, decode_encode]

/-- **Why a header is refused**: it declares more than any payload may have, or else something other
than the size of its layout. -/
theorem validate_eq_error_iff {header : Header} {e : WireError} :
    header.validate = .error e ↔
      (maxPayload < header.length.toNat ∧ e = .payloadTooLarge header.length.toNat) ∨
        (header.length.toNat ≤ maxPayload ∧ ∃ size, header.type.payloadSize? = some size ∧
          size ≠ header.length.toNat ∧ e = .lengthMismatch header.type size header.length.toNat) := by
  unfold validate
  by_cases hmax : maxPayload < header.length.toNat
  · simp [hmax, Nat.not_le_of_lt hmax, eq_comm]
  · rw [if_neg hmax]
    cases hsize : header.type.payloadSize? with
    | none => simp [hmax]
    | some size =>
      by_cases hlen : size = header.length.toNat
      · simp [hmax, hlen]
      · simp [hmax, Nat.le_of_not_lt hmax, hlen, eq_comm]

/-- The stream is of use after a refused header. -/
theorem isFatal_of_validate {header : Header} {e : WireError} (h : header.validate = .error e) :
    e.isFatal = false := by
  rcases validate_eq_error_iff.1 h with ⟨_, rfl⟩ | ⟨_, _, _, _, rfl⟩ <;> rfl

end Header

/-! ## Taking one frame off a stream -/

/-- **What is taken off a stream is a frame**, a header with as many bytes as it declares, and what
follows it is left. -/
theorem takeFrame_eq_ok_iff {stream rest : List UInt8} {frame : Message} :
    takeFrame stream = .ok (frame, rest) ↔ frame.Consistent ∧ stream = frame.encode ++ rest := by
  constructor
  · intro h
    obtain ⟨head, hlength, hheader, hframe, rfl⟩ := eq_append_of_takeFrame h
    have hhead := Header.decode_eq_ok_iff.1 hheader
    rw [List.drop_eq_nil_of_le (Nat.le_of_eq hlength), List.append_nil] at hhead
    rw [Message.encode, ← hhead, List.append_assoc]
    exact ⟨hframe, rfl⟩
  · rintro ⟨hframe, rfl⟩
    obtain ⟨header, payload⟩ := frame
    have hdeclared : header.length.toNat = payload.length := hframe
    have hhead : readExact headerLength (Message.encode ⟨header, payload⟩ ++ rest) =
        .ok (header.encode, payload ++ rest) :=
      readExact_eq_ok_iff.2 ⟨header.length_encode, List.append_assoc _ _ _⟩
    have hheader : Header.decode header.encode = .ok header := by
      simpa using header.decode_encode []
    have hpayload : readExact header.length.toNat (payload ++ rest) = .ok (payload, rest) :=
      readExact_eq_ok_iff.2 ⟨hdeclared.symm, rfl⟩
    simp only [takeFrame, hhead, hheader, hpayload]

/-- **Taking a frame fails at the end of the stream only**: five bytes are a header, whatever they
are. -/
theorem eq_connectionClosed_of_takeFrame {stream : List UInt8} {e : WireError}
    (h : takeFrame stream = .error e) : e = .connectionClosed := by
  unfold takeFrame at h
  split at h
  · rename_i e' hhead
    cases h
    exact (readExact_eq_error_iff.1 hhead).2
  · rename_i head body hhead
    obtain ⟨header, hheader⟩ :=
      Header.exists_decode_eq_ok (Nat.le_of_eq (readExact_eq_ok_iff.1 hhead).1.symm)
    rw [hheader] at h
    split at h
    · rename_i hrefused
      cases hrefused
    · split at h
      · rename_i hpayload
        cases h
        exact (readExact_eq_error_iff.1 hpayload).2
      · cases h

/-- There is a next frame if the stream begins with one. -/
theorem nextFrame?_eq_some_iff {stream rest : List UInt8} {frame : Message} :
    nextFrame? stream = some (frame, rest) ↔ frame.Consistent ∧ stream = frame.encode ++ rest :=
  nextFrame?_eq_some_iff_takeFrame.trans takeFrame_eq_ok_iff

/-- There is none if the stream ends before that. -/
theorem nextFrame?_eq_none_iff_takeFrame {stream : List UInt8} :
    nextFrame? stream = none ↔ takeFrame stream = .error .connectionClosed := by
  unfold nextFrame?
  cases htake : takeFrame stream with
  | ok next => simp [Except.toOption]
  | error e =>
    rw [eq_connectionClosed_of_takeFrame htake]
    simp [Except.toOption]

/-- A frame at the front of a stream is taken off it. -/
theorem nextFrame?_encode_append {frame : Message} (h : frame.Consistent) (rest : List UInt8) :
    nextFrame? (frame.encode ++ rest) = some (frame, rest) :=
  nextFrame?_eq_some_iff.2 ⟨h, rfl⟩

/-- What follows a frame is shorter than the stream. -/
theorem length_lt_of_nextFrame? {stream rest : List UInt8} {frame : Message}
    (h : nextFrame? stream = some (frame, rest)) : rest.length < stream.length := by
  obtain ⟨_, rfl⟩ := nextFrame?_eq_some_iff.1 h
  simp only [Message.encode, List.length_append, Header.length_encode, headerLength]
  omega

/-- The beginning of a frame that lacks at least one byte. -/
def Unfinished (bytes : List UInt8) : Prop :=
  ∃ (frame : Message) (more : List UInt8),
    frame.Consistent ∧ more ≠ [] ∧ frame.encode = bytes ++ more

/-- Less than a header is unfinished: zeros make it a header, and more zeros a frame. -/
theorem unfinished_of_length_lt {bytes : List UInt8} (h : bytes.length < headerLength) :
    Unfinished bytes := by
  let zeros : List UInt8 := .replicate (headerLength - bytes.length) 0
  have hlen : (bytes ++ zeros).length = headerLength := by
    rw [List.length_append, List.length_replicate]
    omega
  obtain ⟨header, hheader⟩ := Header.exists_decode_eq_ok (Nat.le_of_eq hlen.symm)
  have hbytes := Header.decode_eq_ok_iff.1 hheader
  rw [List.drop_eq_nil_of_le (Nat.le_of_eq hlen), List.append_nil] at hbytes
  refine ⟨⟨header, .replicate header.length.toNat 0⟩, zeros ++ .replicate header.length.toNat 0,
    List.length_replicate.symm, ?_, ?_⟩
  · intro hnil
    have hzeros := congrArg List.length (List.append_eq_nil_iff.1 hnil).1
    rw [List.length_replicate] at hzeros
    simp only [List.length_nil] at hzeros
    omega
  · rw [Message.encode, ← hbytes, List.append_assoc]

/-- A header with less than it declares is unfinished. -/
theorem unfinished_of_payload {header : Header} {payload : List UInt8}
    (h : payload.length < header.length.toNat) : Unfinished (header.encode ++ payload) := by
  let zeros : List UInt8 := .replicate (header.length.toNat - payload.length) 0
  have hzeros : zeros.length = header.length.toNat - payload.length := List.length_replicate
  refine ⟨⟨header, payload ++ zeros⟩, zeros, ?_, ?_, ?_⟩
  · simp only [Message.Consistent, List.length_append, hzeros]
    omega
  · intro hnil
    rw [hnil, List.length_nil] at hzeros
    omega
  · rw [Message.encode, List.append_assoc]

/-- **Nothing is taken off a stream that is unfinished**, and only off such a one. -/
theorem nextFrame?_eq_none_iff {stream : List UInt8} :
    nextFrame? stream = none ↔ Unfinished stream := by
  constructor
  · intro h
    by_cases hlen : stream.length < headerLength
    · exact unfinished_of_length_lt hlen
    · obtain ⟨header, hheader⟩ := Header.exists_decode_eq_ok (Nat.le_of_not_lt hlen)
      have hbytes := Header.decode_eq_ok_iff.1 hheader
      rw [hbytes]
      -- With a payload as long as declared there would be a frame.
      refine unfinished_of_payload (Nat.lt_of_not_le fun hpayload => ?_)
      have hframe : nextFrame? stream = some
          (⟨header, (stream.drop headerLength).take header.length.toNat⟩,
            (stream.drop headerLength).drop header.length.toNat) := by
        refine nextFrame?_eq_some_iff.2 ⟨(List.length_take_of_le hpayload).symm, ?_⟩
        rw [Message.encode, List.append_assoc, List.take_append_drop]
        exact hbytes
      rw [h] at hframe
      cases hframe
  · rintro ⟨frame, more, hframe, hmore, hencode⟩
    cases hnext : nextFrame? stream with
    | none => rfl
    | some next =>
      obtain ⟨first, rest⟩ := next
      -- The frame that `stream` begins with would be all of the longer one.
      obtain ⟨hfirst, rfl⟩ := nextFrame?_eq_some_iff.1 hnext
      have hlonger := nextFrame?_encode_append hfirst (rest ++ more)
      have hwhole := nextFrame?_encode_append hframe []
      rw [List.append_nil, hencode, List.append_assoc, hlonger] at hwhole
      simp only [Option.some.injEq, Prod.mk.injEq] at hwhole
      exact absurd (List.append_eq_nil_iff.1 hwhole.2).2 hmore

/-! ## Cutting a stream into frames -/

/-- A stream cut into frames and an unfinished rest. -/
structure Framed (stream : List UInt8) (frames : List Message) (tail : List UInt8) : Prop where
  /-- Each frame has as many bytes as its header declares. -/
  whole : ∀ frame ∈ frames, frame.Consistent
  /-- What is left is the beginning of a frame, or nothing. -/
  unfinished : Unfinished tail
  /-- Together they are the stream. -/
  bytes : stream = frames.flatMap Message.encode ++ tail

namespace Framed

variable {stream tail : List UInt8} {frames : List Message}

/-- Bytes that make no frame are all tail. -/
theorem nil (h : Unfinished tail) : Framed tail [] tail :=
  ⟨fun _ hmem => absurd hmem List.not_mem_nil, h, rfl⟩

/-- One more consistent frame goes in front. -/
theorem cons {frame : Message} (hframe : frame.Consistent) (h : Framed stream frames tail) :
    Framed (frame.encode ++ stream) (frame :: frames) tail :=
  ⟨List.forall_mem_cons.2 ⟨hframe, h.whole⟩, h.unfinished, by
    rw [List.flatMap_cons, List.append_assoc, ← h.bytes]⟩

/-- The first frame is what is taken off the stream. -/
theorem of_cons {frame : Message} (h : Framed stream (frame :: frames) tail) :
    ∃ rest, nextFrame? stream = some (frame, rest) ∧ Framed rest frames tail := by
  obtain ⟨hframe, hframes⟩ := List.forall_mem_cons.1 h.whole
  refine ⟨frames.flatMap Message.encode ++ tail, ?_, hframes, h.unfinished, rfl⟩
  rw [h.bytes, List.flatMap_cons, List.append_assoc, nextFrame?_encode_append hframe]

/-- Without frames the stream is the rest, and nothing is taken off it. -/
theorem of_nil (h : Framed stream [] tail) : stream = tail ∧ nextFrame? stream = none := by
  obtain rfl : stream = tail := h.bytes
  exact ⟨rfl, nextFrame?_eq_none_iff.2 h.unfinished⟩

/-- **There is only one way to cut a stream.** -/
theorem unique {frames' : List Message} {tail' : List UInt8} (h : Framed stream frames tail)
    (h' : Framed stream frames' tail') : frames' = frames ∧ tail' = tail := by
  -- Both cuts begin with what is taken off the stream, and go on with the same rest.
  induction frames generalizing stream frames' with
  | nil =>
    obtain ⟨hstream, hnone⟩ := h.of_nil
    cases frames' with
    | nil => exact ⟨rfl, h'.of_nil.1.symm.trans hstream⟩
    | cons frame' frames' =>
      obtain ⟨rest', hnext', _⟩ := h'.of_cons
      rw [hnone] at hnext'
      cases hnext'
  | cons frame frames ih =>
    obtain ⟨rest, hnext, hrest⟩ := h.of_cons
    cases frames' with
    | nil =>
      rw [h'.of_nil.2] at hnext
      cases hnext
    | cons frame' frames' =>
      obtain ⟨rest', hnext', hrest'⟩ := h'.of_cons
      rw [hnext] at hnext'
      cases hnext'
      obtain ⟨rfl, rfl⟩ := ih hrest hrest'
      exact ⟨rfl, rfl⟩

end Framed

/-- **Every stream can be cut.** -/
theorem exists_framed (stream : List UInt8) : ∃ frames tail, Framed stream frames tail := by
  -- What follows a frame is shorter than the stream.
  induction hlen : stream.length using Nat.strongRecOn generalizing stream with
  | ind n ih =>
    cases hnext : nextFrame? stream with
    | none => exact ⟨[], stream, .nil (nextFrame?_eq_none_iff.1 hnext)⟩
    | some next =>
      obtain ⟨frame, rest⟩ := next
      obtain ⟨frames, tail, hrest⟩ :=
        ih rest.length (hlen ▸ length_lt_of_nextFrame? hnext) rest rfl
      obtain ⟨hframe, rfl⟩ := nextFrame?_eq_some_iff.1 hnext
      exact ⟨frame :: frames, tail, hrest.cons hframe⟩

/-! ## Reading -/

/-- What comes of a frame: the message, or why its header is refused. -/
theorem Message.check_eq (m : Message) :
    m.check = match m.header.validate with
      | .ok () => .ok m
      | .error e => .error e := by
  unfold check
  cases m.header.validate <;> rfl

/-- A refused frame is no reason to stop. -/
theorem Message.isFatal_of_check {m : Message} {e : WireError} (h : m.check = .error e) :
    e.isFatal = false := by
  rw [check_eq] at h
  cases hvalid : m.header.validate with
  | ok _ =>
    rw [hvalid] at h
    cases h
  | error e' =>
    rw [hvalid] at h
    cases h
    exact Header.isFatal_of_validate hvalid

/-- A whole frame is read as what its header makes of it. -/
theorem readMessage_of_nextFrame? {stream rest : List UInt8} {frame : Message}
    (h : nextFrame? stream = some (frame, rest)) : readMessage stream = (frame.check, rest) := by
  rw [readMessage, nextFrame?_eq_some_iff_takeFrame.1 h]

/-- A stream that is unfinished is at its end. -/
theorem readMessage_of_none {stream : List UInt8} (h : nextFrame? stream = none) :
    readMessage stream = (.error .connectionClosed, []) := by
  rw [readMessage, nextFrame?_eq_none_iff_takeFrame.1 h]
  rfl

/-- Messages read off a stream one after the other, until an error leaves it of no more use. -/
inductive Reads : List UInt8 → List (Except WireError Message) → Prop where
  /-- The stream is of no more use. -/
  | last {stream rest : List UInt8} {e : WireError} : readMessage stream = (.error e, rest) →
      e.isFatal = true → Reads stream [.error e]
  /-- There is a message, or one that is dropped, and reading goes on with what follows. -/
  | next {stream rest : List UInt8} {result : Except WireError Message}
      {results : List (Except WireError Message)} : readMessage stream = (result, rest) →
      (∀ e, result = .error e → e.isFatal = false) → Reads rest results →
      Reads stream (result :: results)

/-- **Reading follows the frames**, whatever their headers say. -/
theorem Reads.of_framed {stream tail : List UInt8} {frames : List Message}
    (h : Framed stream frames tail) :
    Reads stream (frames.map Message.check ++ [.error .connectionClosed]) := by
  induction frames generalizing stream with
  | nil => exact .last (readMessage_of_none h.of_nil.2) rfl
  | cons frame frames ih =>
    obtain ⟨rest, hnext, hrest⟩ := h.of_cons
    exact .next (readMessage_of_nextFrame? hnext) (fun _ => Message.isFatal_of_check) (ih hrest)

/-- Reading a stream has only one course. -/
theorem Reads.unique {stream : List UInt8} {results results' : List (Except WireError Message)}
    (h : Reads stream results) (h' : Reads stream results') : results' = results := by
  -- What is read first is given by the stream, and tells whether reading goes on.
  induction h generalizing results' with
  | last hread hfatal =>
    cases h' with
    | last hread' _ =>
      rw [hread] at hread'
      cases hread'
      rfl
    | next hread' hgoes' _ =>
      rw [hread] at hread'
      cases hread'
      rw [hgoes' _ rfl] at hfatal
      cases hfatal
  | next hread hgoes _ ih =>
    cases h' with
    | last hread' hfatal' =>
      rw [hread] at hread'
      cases hread'
      rw [hgoes _ rfl] at hfatal'
      cases hfatal'
    | next hread' _ hrest' =>
      rw [hread] at hread'
      cases hread'
      rw [ih hrest']

/-- The results of reading, computed, are those of reading message by message. -/
theorem readStream_of_framed {stream tail : List UInt8} {frames : List Message}
    (h : Framed stream frames tail) :
    readStream stream = frames.map Message.check ++ [.error .connectionClosed] := by
  induction frames generalizing stream with
  | nil =>
    -- Nothing more can be taken off the stream than the end of the connection.
    rw [readStream]
    split
    · rename_i htake
      rw [eq_connectionClosed_of_takeFrame htake]
      rfl
    · rename_i htake
      rw [nextFrame?_eq_none_iff_takeFrame.1 h.of_nil.2] at htake
      cases htake
  | cons frame frames ih =>
    obtain ⟨rest, hnext, hrest⟩ := h.of_cons
    have hfirst := nextFrame?_eq_some_iff_takeFrame.1 hnext
    -- The first frame is the one that is taken, whatever it holds.
    rw [readStream]
    split
    · rename_i htake
      rw [hfirst] at htake
      cases htake
    · rename_i htake
      rw [hfirst] at htake
      cases htake
      rw [ih hrest]
      rfl

/-- Reading message by message is what is computed. -/
theorem reads_iff {stream : List UInt8} {results : List (Except WireError Message)} :
    Reads stream results ↔ results = readStream stream := by
  obtain ⟨frames, tail, hframed⟩ := exists_framed stream
  have hreads := Reads.of_framed hframed
  rw [readStream_of_framed hframed]
  exact ⟨hreads.unique, fun h => h ▸ hreads⟩

/-- **A truncated header is never reported**: a stream that ends in a header ends, and a header that is
there can be read. -/
theorem readMessage_ne_truncatedHeader (stream : List UInt8) (size : Nat) :
    (readMessage stream).1 ≠ .error (.truncatedHeader size) := by
  intro h
  cases hnext : nextFrame? stream with
  | none =>
    rw [readMessage_of_none hnext] at h
    cases h
  | some next =>
    obtain ⟨frame, rest⟩ := next
    rw [readMessage_of_nextFrame? hnext] at h
    have hcheck : frame.check = .error (.truncatedHeader size) := h
    rw [Message.check_eq] at hcheck
    cases hvalid : frame.header.validate with
    | ok _ =>
      rw [hvalid] at hcheck
      cases hcheck
    | error e =>
      rw [hvalid] at hcheck
      cases hcheck
      rcases Header.validate_eq_error_iff.1 hvalid with ⟨_, he⟩ | ⟨_, _, _, _, he⟩ <;> cases he

/-- **Reading follows the framing.** A stream is cut into frames and an unfinished rest in exactly one
way. Reading until the stream is of no more use gives one result for each frame, which is the message
if its header is valid and otherwise the reason against the header, and then the end, whatever the
rest is. A reason against a header is no end, a length that is too great comes before one that does
not fit, and what follows a frame is read as it is read on its own. -/
theorem reading_follows_framing (stream : List UInt8) :
    ∃ (frames : List Message) (tail : List UInt8),
      (∀ frames' tail', Framed stream frames' tail' ↔ frames' = frames ∧ tail' = tail) ∧
      (∀ results, Reads stream results ↔
        results = (frames.map fun frame =>
          match frame.header.validate with
          | .ok () => .ok frame
          | .error e => .error e) ++ [.error .connectionClosed]) ∧
      (∀ frame ∈ frames, ∀ e, frame.header.validate = .error e ↔
        e.isFatal = false ∧
          ((maxPayload < frame.header.length.toNat ∧
              e = .payloadTooLarge frame.header.length.toNat) ∨
            (frame.header.length.toNat ≤ maxPayload ∧
              ∃ size, frame.type.payloadSize? = some size ∧ size ≠ frame.header.length.toNat ∧
                e = .lengthMismatch frame.type size frame.header.length.toNat))) ∧
      (∀ (frame : Message) (rest : List UInt8), frame.Consistent →
        ∃ result, readMessage (frame.encode ++ rest) = (result, rest) ∧
          ∀ later, Reads rest later → Reads (frame.encode ++ rest) (result :: later)) ∧
      ∀ size, (readMessage stream).1 ≠ .error (.truncatedHeader size) := by
  obtain ⟨frames, tail, hframed⟩ := exists_framed stream
  refine ⟨frames, tail, ?cut, ?results, ?reasons, ?later, readMessage_ne_truncatedHeader stream⟩
  case cut =>
    intro frames' tail'
    constructor
    · exact hframed.unique
    · rintro ⟨rfl, rfl⟩
      exact hframed
  case results =>
    intro results
    -- Reading takes the frames off one after the other and checks each header.
    rw [reads_iff, readStream_of_framed hframed, funext Message.check_eq]
  case reasons =>
    intro frame _ e
    constructor
    · intro h
      exact ⟨Header.isFatal_of_validate h, Header.validate_eq_error_iff.1 h⟩
    · rintro ⟨_, h⟩
      exact Header.validate_eq_error_iff.2 h
  case later =>
    intro frame rest hframe
    -- The first frame of the bytes is the one that was put there, whatever follows.
    have hread := readMessage_of_nextFrame? (nextFrame?_encode_append hframe rest)
    exact ⟨frame.check, hread, fun later hlater =>
      .next hread (fun _ => Message.isFatal_of_check) hlater⟩

/-! ## Writing -/

/-- **A message is written if a reader accepts it**: its declared length is the true one, and its
header is valid. Its bytes are written then. -/
theorem writeMessage_eq_ok_iff {m : Message} {bytes : List UInt8} :
    writeMessage m = .ok bytes ↔ m.Consistent ∧ m.check = .ok m ∧ bytes = m.encode := by
  unfold writeMessage
  by_cases hm : m.Consistent
  · rw [if_pos hm, Message.check_eq]
    cases m.header.validate with
    | ok _ => simp [hm, Except.map, eq_comm]
    | error e => simp [Except.map]
  · simp [hm]

namespace Message

/-- A message is written if its declared size is its size and its header is valid. -/
theorem writable_iff {m : Message} : m.writable = true ↔ m.Consistent ∧ m.check = .ok m := by
  unfold writable
  cases hwrite : writeMessage m with
  | ok bytes =>
    obtain ⟨hm, hcheck, _⟩ := writeMessage_eq_ok_iff.1 hwrite
    exact ⟨fun _ => ⟨hm, hcheck⟩, fun _ => rfl⟩
  | error e =>
    constructor
    · intro h
      cases h
    · rintro ⟨hm, hcheck⟩
      rw [writeMessage_eq_ok_iff.2 ⟨hm, hcheck, rfl⟩] at hwrite
      cases hwrite

/-- A message is not written exactly if writing it fails. -/
theorem writable_eq_false_iff {m : Message} :
    m.writable = false ↔ ∃ e, writeMessage m = .error e := by
  unfold writable
  cases writeMessage m <;> simp [Except.isOk, Except.toBool]

/-- **What may be written is what is read back** from its own bytes, with nothing left over. -/
theorem writable_iff_readMessage {m : Message} :
    m.writable = true ↔ readMessage m.encode = (.ok m, []) := by
  rw [writable_iff]
  constructor
  · rintro ⟨hm, hcheck⟩
    have hnext := nextFrame?_encode_append hm []
    rw [List.append_nil] at hnext
    rw [readMessage_of_nextFrame? hnext, hcheck]
  · intro hread
    cases hnext : nextFrame? m.encode with
    | none =>
      rw [readMessage_of_none hnext] at hread
      cases hread
    | some next =>
      obtain ⟨frame, rest⟩ := next
      rw [readMessage_of_nextFrame? hnext] at hread
      obtain ⟨hcheck, rfl⟩ := Prod.mk.inj hread
      -- A reader that accepts a message has read this message.
      obtain rfl : frame = m := by
        rw [check_eq] at hcheck
        cases hvalid : frame.header.validate <;> rw [hvalid] at hcheck <;> cases hcheck
        rfl
      exact ⟨(nextFrame?_eq_some_iff.1 hnext).1, hcheck⟩

end Message

/-- What a message adds to a stream: its bytes if it may be written, nothing otherwise. -/
theorem toOption_writeMessage (m : Message) :
    (writeMessage m).toOption.getD [] = if m.writable then m.encode else [] := by
  cases hwrite : writeMessage m with
  | ok bytes =>
    rw [Message.writable, hwrite, (writeMessage_eq_ok_iff.1 hwrite).2.2]
    rfl
  | error e =>
    rw [Message.writable, hwrite]
    rfl

/-- **A stream that was written is cut into the messages written**, and nothing is left. -/
theorem framed_writeStream (ms : List Message) :
    Framed (writeStream ms).2 (ms.filter Message.writable) [] := by
  induction ms with
  | nil => exact .nil (unfinished_of_length_lt (by decide))
  | cons m ms ih =>
    have hbytes : (writeStream (m :: ms)).2 =
        (writeMessage m).toOption.getD [] ++ (writeStream ms).2 := rfl
    rw [hbytes, toOption_writeMessage, List.filter_cons]
    by_cases hm : m.writable = true
    · rw [if_pos hm, if_pos hm]
      exact ih.cons (Message.writable_iff.1 hm).1
    · rw [if_neg hm, if_neg hm]
      exact ih

/-- **Reading returns what was written.** Of any messages, those that writing accepts are read back
from the stream unchanged and in order, and then the stream ends. Writing refuses a message exactly
if its bytes on their own are not read back as this message with nothing left over, and a refused
message adds no byte to the stream. -/
theorem reading_returns_what_was_written (ms : List Message) :
    (∀ results, Reads (writeStream ms).2 results ↔
      results = (ms.filter fun m => (writeMessage m).isOk).map .ok ++
        [.error .connectionClosed]) ∧
    (writeStream ms).1 = (ms.map fun m => (writeMessage m).map fun _ => ()) ∧
    (∀ m, (∃ e, writeMessage m = .error e) ↔ readMessage m.encode ≠ (.ok m, [])) ∧
    ∀ before m after, (∃ e, writeMessage m = .error e) →
      (writeStream (before ++ m :: after)).2 = (writeStream (before ++ after)).2 := by
  refine ⟨?read, rfl, ?refused, ?silent⟩
  case read =>
    intro results
    -- What is written frames the stream, and every written message passes its own check.
    have hcheck : (ms.filter Message.writable).map Message.check =
        (ms.filter Message.writable).map .ok :=
      List.map_congr_left fun m hm => (Message.writable_iff.1 (List.mem_filter.1 hm).2).2
    rw [reads_iff, readStream_of_framed (framed_writeStream ms), hcheck]
    rfl
  case refused =>
    intro m
    rw [← Message.writable_eq_false_iff, Ne, ← Message.writable_iff_readMessage,
      Bool.not_eq_true]
  case silent =>
    intro before m after hrefused
    have hm := Message.writable_eq_false_iff.2 hrefused
    have hnone : (writeMessage m).toOption.getD [] = [] := by
      rw [toOption_writeMessage, hm]
      rfl
    simp only [writeStream, List.flatMap_append, List.flatMap_cons, hnone, List.nil_append]

end Pursuit
