import Pursuit.Proofs.Connections
import Pursuit.Proofs.Framing
import Pursuit.Proofs.Lists

/-! # The queue that outlives connections

What a client sends waits in one queue, and whichever connection is up takes the next message from
it. Laid end to end, the connections have carried what was sent, in the order in which it was sent,
and what they have not carried still waits.

* **`Dialer.sent`** — the messages that were queued along a run.
* **`Dialer.outputs`** — the bytes written on each connection.
* **`Dialer.Handing`** — all that a step can do to the queue and to what was written.
* **`Dialer.Delivers`** — each connection has been given its share of what was sent, and the queue is
  what is left.
* **`Dialer.frames_in_order`** — the frames of all connections one after the other. -/

namespace Pursuit

namespace Dialer

/-! ## What was sent, and what was written -/

/-- The messages that an action queues. -/
def Action.sent (d : Dialer) : Action → List Message
  | .send m => if (d.send m).1 then [m] else []
  | _ => []

/-- The messages that were queued along a run, the oldest first. -/
def sent : List Action → Dialer → List Message
  | [], _ => []
  | a :: rest, d => a.sent d ++ sent rest (d.step a).1

/-- Whether an action is the failure of a write. -/
def Action.isBreak : Action → Bool
  | .break _ => true
  | _ => false

/-- The bytes written on each connection so far. -/
def outputs (d : Dialer) : List (List UInt8) := d.wires.map (·.written)

/-! ## What a step does to the queue -/

/-- **All that a step can do to the queue** and to what was written, and what it queues. -/
inductive Handing (d e : Dialer) : List Message → Prop
  /-- Nothing is queued, and nothing is written. -/
  | still : e.outputs = d.outputs → e.queue = d.queue → Handing d e []
  /-- A message is queued behind all others. -/
  | queued (m : Message) : e.outputs = d.outputs → e.queue = d.queue ++ [m] → Handing d e [m]
  /-- There is a new connection, on which nothing was written. -/
  | connected : e.outputs = d.outputs ++ [[]] → e.queue = d.queue → Handing d e []
  /-- The next message leaves the queue for the connection that is up. -/
  | written (m : Message) : d.phase = .serving → d.queue = m :: e.queue →
      e.outputs = d.outputs.modify (d.outputs.length - 1)
        (· ++ (writeMessage m).toOption.getD []) → Handing d e []

section Handing

variable {d e : Dialer}

/-- Where neither the connections nor the queue change, nothing is handed on. -/
theorem Handing.of_eq (hwires : e.wires = d.wires) (hqueue : e.queue = d.queue) :
    Handing d e [] :=
  .still (by rw [outputs, hwires, outputs]) hqueue

/-- A change of a connection that writes nothing. -/
theorem outputs_modify (ws : List Wire) (i : Nat) {f : Wire → Wire}
    (hf : ∀ w, (f w).written = w.written) :
    (ws.modify i f).map (·.written) = ws.map (·.written) := by
  rw [List.map_modify_of_comm (h := id) hf, List.modify_id]

/-- What happens on the newest connection hands nothing on, unless it writes. -/
theorem handing_modifyWire (d : Dialer) {f : Wire → Wire}
    (hf : ∀ w, (f w).written = w.written) : Handing d (d.modifyWire f) [] := by
  unfold modifyWire
  split
  · exact .still (outputs_modify _ _ hf) rfl
  · exact .of_eq rfl rfl

/-- Bytes that come in write nothing. -/
@[simp] theorem written_take (w : Wire) (bytes : List UInt8) :
    (w.take bytes).written = w.written := by
  unfold Wire.take
  split <;> rfl

/-- Bytes that are written come after those that were. -/
@[simp] theorem written_put (w : Wire) (bytes : List UInt8) :
    (w.put bytes).written = w.written ++ bytes := rfl

/-- To send queues the message, if it is accepted. -/
theorem handing_send (d : Dialer) (m : Message) :
    Handing d (d.send m).2 (if (d.send m).1 then [m] else []) := by
  unfold send
  split
  · exact .of_eq rfl rfl
  · exact .queued m rfl rfl

/-- Handling an order hands nothing on. -/
theorem handing_handle (d : Dialer) : Handing d d.handle.1 [] := by
  have hidle (order : Order) (e : Dialer) (hwires : e.wires = d.wires) (hqueue : e.queue = d.queue) :
      Handing d (e.handleIdle order) [] := by
    cases order with
    | connect address => exact .of_eq hwires hqueue
    | disconnect => exact .of_eq hwires hqueue
    | reconnect =>
      simp only [handleIdle, resetRetry, dial]
      split <;> exact .of_eq hwires hqueue
    | shutDown => exact .of_eq hwires hqueue
  unfold handle
  split
  · exact .of_eq rfl rfl
  · exact .of_eq rfl rfl
  · rename_i order rest _ _
    cases order <;> exact .of_eq rfl rfl
  · exact .of_eq rfl rfl
  · exact hidle _ _ rfl rfl
  · exact hidle _ _ rfl rfl
  · exact .of_eq rfl rfl

/-- An attempt that fails hands nothing on. -/
theorem handing_fail (d : Dialer) (c : Backoff.Chance) : Handing d (d.fail c).1 [] := by
  unfold fail
  split <;> exact .of_eq rfl rfl

/-- Reading hands nothing on. -/
theorem handing_readFrom (d : Dialer) (i : Nat) : Handing d (d.readFrom i).1 [] := by
  unfold readFrom
  split
  · exact .still (outputs_modify _ _ fun _ => rfl) rfl
  · exact .of_eq rfl rfl

/-- To write hands the next message on to the connection that is up. -/
theorem handing_write (hserving : d.phase = .serving) : Handing d d.write [] := by
  unfold write
  split
  · exact .of_eq rfl rfl
  · rename_i m rest hqueue
    refine .written m hserving ?_ ?_
    · simpa [modifyWire, hserving] using hqueue
    · simp only [modifyWire, hserving, if_true, outputs, List.length_map]
      exact List.map_modify_of_comm (written_put · _) _ _

/-- **What a step does to the queue** is one of these things, unless it is the failure of a write. -/
theorem handing_step {a : Action} (ha : a.isBreak = false) (d : Dialer) :
    Handing d (d.step a).1 (a.sent d) := by
  cases a with
  | post order =>
    simp only [step, post]
    split <;> exact .of_eq rfl rfl
  | send m => exact handing_send d m
  | handle => exact handing_handle d
  | resolve =>
    simp only [step]
    split <;> exact .of_eq rfl rfl
  | fail c =>
    simp only [step]
    split
    · exact handing_fail d c
    · exact .of_eq rfl rfl
  | succeed =>
    -- The only step after which there is one more connection.
    simp only [step]
    split
    · exact .connected (by simp [succeed, resetRetry, outputs]) rfl
    · exact .of_eq rfl rfl
  | retry =>
    simp only [step]
    split
    · unfold dial
      split <;> exact .of_eq rfl rfl
    · exact .of_eq rfl rfl
  | arrive bytes => exact handing_modifyWire d (written_take · bytes)
  | hangUp => exact handing_modifyWire d fun _ => rfl
  | read =>
    simp only [step]
    split
    · exact handing_readFrom d _
    · exact .of_eq rfl rfl
  | fault =>
    simp only [step]
    split <;> exact .of_eq rfl rfl
  | lose =>
    simp only [step]
    split <;> exact .of_eq rfl rfl
  | write =>
    -- The only step that takes a message out of the queue.
    simp only [step]
    split
    · exact handing_write ‹_›
    · exact .of_eq rfl rfl
  -- A write that breaks off may have put part of a message on the wire.
  | «break» count => cases ha
  | release =>
    simp only [step, release, post]
    split <;> exact .of_eq rfl rfl
  | starve =>
    simp only [step]
    split <;> exact .of_eq rfl rfl
  | linger i =>
    simp only [step]
    split
    · exact handing_readFrom d i
    · exact .of_eq rfl rfl
  | trickle i bytes =>
    simp only [step]
    split
    · exact .still (outputs_modify _ _ (written_take · bytes)) rfl
    · exact .of_eq rfl rfl
  | vanish i => exact .of_eq rfl rfl

end Handing

/-! ## Shares -/

/-- The message is written behind what was written before. -/
theorem writeStream_concat (ms : List Message) (m : Message) :
    (writeStream (ms ++ [m])).2 = (writeStream ms).2 ++ (writeMessage m).toOption.getD [] := by
  simp [writeStream]

/-- **Each connection has been given its share**: what was written on it is the stream of its share,
and the shares one after the other, followed by the queue, are what was sent. -/
structure Delivers (sent : List Message) (d : Dialer) : Prop where
  /-- There is a connection to look after. -/
  up : d.phase = .serving → d.wires ≠ []
  /-- The shares. -/
  shares : ∃ shares : List (List Message),
    d.outputs = shares.map (fun ms => (writeStream ms).2) ∧ sent = shares.flatten ++ d.queue

/-- Where a connection is up after a step, there is one. -/
theorem Passage.wires_ne_nil {d e : Dialer} {rs : List Report} (h : Passage d e rs)
    (hd : d.phase = .serving → d.wires ≠ []) : e.phase = .serving → e.wires ≠ [] := by
  intro he
  rw [← List.length_pos_iff_ne_nil]
  cases h with
  | quiet hphase hwires _ =>
    rw [hwires]
    exact List.length_pos_iff_ne_nil.2 (hd (hphase.1 he))
  | failed _ hdown _ _ => exact absurd he hdown
  | established _ _ hwires _ =>
    rw [hwires]
    exact Nat.succ_pos _
  | received m hup _ hwires _ =>
    rw [hwires]
    exact List.length_pos_iff_ne_nil.2 (hd hup)
  | closed reason _ hdown _ _ => exact absurd he hdown
  | late i m _ hphase hwires _ =>
    rw [hwires]
    exact List.length_pos_iff_ne_nil.2 (hd (hphase.1 he))

/-- **One step hands nothing out twice and leaves nothing out.** -/
theorem Delivers.step {ms : List Message} {d : Dialer} (h : d.Delivers ms) {a : Action}
    (ha : a.isBreak = false) : (d.step a).1.Delivers (ms ++ a.sent d) := by
  obtain ⟨shares, houtputs, hsent⟩ := h.shares
  refine ⟨(passage_step a d).wires_ne_nil h.up, ?_⟩
  have hstep := handing_step ha d
  generalize (d.step a).1 = e at hstep ⊢
  generalize a.sent d = queued at hstep ⊢
  cases hstep with
  | still hout hqueue => exact ⟨shares, hout.trans houtputs, by rw [hqueue, hsent, List.append_nil]⟩
  | queued m hout hqueue =>
    exact ⟨shares, hout.trans houtputs, by rw [hqueue, hsent, List.append_assoc]⟩
  | connected hout hqueue =>
    refine ⟨shares ++ [[]], ?_, ?_⟩
    · rw [hout, houtputs, List.map_append]
      rfl
    · rw [hqueue, hsent, List.flatten_concat, List.append_nil, List.append_nil]
  | written m hup hqueue hout =>
    -- The message leaves the front of the queue for the end of the last share.
    have hlength : d.outputs.length = shares.length := by rw [houtputs, List.length_map]
    have hshares : shares ≠ [] := by
      rw [← List.length_pos_iff_ne_nil, ← hlength, outputs, List.length_map,
        List.length_pos_iff_ne_nil]
      exact h.up hup
    refine ⟨shares.modify (shares.length - 1) (· ++ [m]), ?_, ?_⟩
    · rw [hout, hlength, houtputs]
      exact (List.map_modify_of_comm (fun ms => writeStream_concat ms m) _ _).symm
    · rw [List.flatten_modify_last hshares, hsent, hqueue]
      simp

/-- A run without failing writes keeps what was sent and what was written in step. -/
theorem Delivers.run {ms : List Message} {d : Dialer} (h : d.Delivers ms) {actions : List Action}
    (hactions : ∀ a ∈ actions, a.isBreak = false) :
    (d.run actions).1.Delivers (ms ++ sent actions d) := by
  induction actions generalizing ms d with
  | nil =>
    rw [sent, List.append_nil]
    exact h
  | cons a actions ih =>
    obtain ⟨ha, hrest⟩ := List.forall_mem_cons.1 hactions
    rw [sent, ← List.append_assoc]
    exact ih (h.step ha) hrest

/-- A client that begins has been sent nothing. -/
theorem delivers_new (retry : Option Backoff.Policy) : (new retry).Delivers [] :=
  ⟨by simp [new], [], rfl, rfl⟩

/-! ## The frames of all connections -/

/-- **The queue delivers once and in order, across connections.** If no write fails, what was written
on each connection is a sequence of whole frames. The frames of all connections one after the other
are the messages that were sent, in the order in which they were sent, without those that writing
refuses, up to the messages that wait in the queue. A refused message is passed over: nothing else
changes, and nothing is reported. -/
theorem frames_in_order (retry : Option Backoff.Policy) {actions : List Action}
    (hactions : ∀ a ∈ actions, a.isBreak = false) :
    (∃ (frames : List (List Message)) (taken : List Message),
      List.Forall₂ (fun w fs => Framed w.written fs []) ((new retry).run actions).1.wires frames ∧
        sent actions (new retry) = taken ++ ((new retry).run actions).1.queue ∧
        frames.flatten = taken.filter Message.writable) ∧
      ∀ (d : Dialer) (m : Message) (rest : List Message), d.phase = .serving →
        d.queue = m :: rest → m.writable = false →
          d.step .write = ({ d with queue := rest }, []) := by
  constructor
  · -- The frames of a connection are those of its share that writing did not refuse.
    obtain ⟨shares, houtputs, hsent⟩ := ((delivers_new retry).run hactions).shares
    refine ⟨shares.map (·.filter Message.writable), shares.flatten, ?_, hsent, ?_⟩
    · have hshares : List.Forall₂ (· = ·) ((new retry).run actions).1.outputs
          (shares.map fun ms => (writeStream ms).2) := by
        rw [houtputs]
        exact List.forall₂_refl _
      rw [outputs, List.forall₂_map_left_iff, List.forall₂_map_right_iff] at hshares
      rw [List.forall₂_map_right_iff]
      exact hshares.imp fun w ms hw => by
        rw [hw]
        exact framed_writeStream ms
    · exact List.filter_flatten.symm
  · -- A message that is refused adds no byte, so only the queue gets shorter.
    intro d m rest hserving hqueue hm
    have hnone : (writeMessage m).toOption.getD [] = [] := by
      rw [toOption_writeMessage, hm]
      rfl
    have hput : (fun w : Wire => w.put []) = id := by
      funext w
      simp [Wire.put]
    simp only [step, write, hserving, if_true, hqueue, hnone, modifyWire, hput, List.modify_id]

/-- A message that is sent before there is a connection, one that is refused, and one that is sent
between two connections: the second connection begins where the first has left off. -/
theorem frames_in_order_reconnected :
    let first : Message := ⟨⟨⟨3⟩, .gameUnit, 14⟩, List.replicate 14 0⟩
    let refused : Message := ⟨⟨⟨3⟩, .gameUnit, 15⟩, List.replicate 14 0⟩
    let last : Message := ⟨⟨.event, .newPlayerId, 2⟩, [4, 0]⟩
    let actions : List Action := [.send first, .post (.connect "server"), .handle, .resolve, .succeed,
      .write, .send refused, .write, .hangUp, .lose, .send last, .post .reconnect, .handle, .resolve,
      .succeed, .write]
    (∀ a ∈ actions, a.isBreak = false) ∧
      sent actions (new none) = [first, refused, last] ∧
      outputs ((new none).run actions).1 = [first.encode, last.encode] ∧
      ∃ (frames : List (List Message)) (taken : List Message),
        List.Forall₂ (fun w fs => Framed w.written fs []) ((new none).run actions).1.wires frames ∧
          [first, refused, last] = taken ++ ((new none).run actions).1.queue ∧
          frames.flatten = taken.filter Message.writable := by
  intro first refused last actions
  have hactions : ∀ a ∈ actions, a.isBreak = false := by simp [actions, Action.isBreak]
  have hsent : sent actions (new none) = [first, refused, last] := by decide +kernel
  refine ⟨hactions, hsent, by decide +kernel, ?_⟩
  rw [← hsent]
  exact (frames_in_order none hactions).1

end Dialer

end Pursuit
