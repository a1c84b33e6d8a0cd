import Mathlib.Data.List.Perm.Basic
import Mathlib.Data.List.Perm.Subperm
import Pursuit.Connection.Traffic
import Pursuit.Proofs.Outgoing

/-! # From the beginning of a session to its end

A session has two workers, any number of callers, a peer, and a server that may shut down, and all
of them go on side by side. This file says what holds in whatever order they do.

* **`Traffic.Log`** — what a run contributes: the bytes of the peer, the calls to send that found
  the session open, those that came to their end, and how often the session was closed.
* **`Traffic.Turn`** — all that a move can do.
* **`Traffic.Ended`** — the end of a session is reported once, however many close it.
* **`Traffic.Heard`** — what has been reported of the peer is what its frames hold.
* **`Traffic.Called`** — every call that found the session open has come to its end or is under way.
* **`Traffic.Spoken`** — what was written is what was queued, up to where the writer has come.
* **`Traffic.lifecycle`** — all of this for a whole session. -/

namespace Pursuit

namespace Traffic

/-! ## What a run contributes -/

/-- What came to a session. -/
structure Log where
  /-- The bytes of the peer. -/
  arrived : List UInt8 := []
  /-- The messages of the calls to send that found the session open. -/
  offered : List Message := []
  /-- Of these, the messages of the calls that have come to their end, in the order in which they
  did. -/
  returned : List Message := []
  /-- How often the session was closed. Only the first time has an effect. -/
  closings : Nat := 0

namespace Log

/-- What came first, and what came after that. -/
protected def append (log more : Log) : Log where
  arrived := log.arrived ++ more.arrived
  offered := log.offered ++ more.offered
  returned := log.returned ++ more.returned
  closings := log.closings + more.closings

instance : Append Log := ⟨Log.append⟩

variable (log more : Log)

/-- The bytes of two parts of a log arrive one after the other. -/
@[simp] theorem arrived_append : (log ++ more).arrived = log.arrived ++ more.arrived := rfl

/-- The calls of two parts of a log begin one after the other. -/
@[simp] theorem offered_append : (log ++ more).offered = log.offered ++ more.offered := rfl

/-- The calls of two parts of a log end one after the other. -/
@[simp] theorem returned_append : (log ++ more).returned = log.returned ++ more.returned := rfl

/-- The closings of two parts of a log add up. -/
@[simp] theorem closings_append : (log ++ more).closings = log.closings + more.closings := rfl

/-- Nothing is added to a log by an empty one behind it. -/
theorem append_empty : log ++ ({} : Log) = log := by
  show Log.append log {} = log
  simp [Log.append]

/-- Nothing is added to a log by an empty one in front of it. -/
theorem empty_append : ({} : Log) ++ log = log := by
  show Log.append {} log = log
  simp [Log.append]

/-- It makes no difference in which order the parts of a log are put together. -/
theorem append_assoc (last : Log) : log ++ more ++ last = log ++ (more ++ last) := by
  show Log.append (Log.append log more) last = Log.append log (Log.append more last)
  simp [Log.append, Nat.add_assoc]

end Log

/-- What a move contributes, as things stand. Bytes that follow the peer's hanging up do not come
from it. A worker that has stopped closes the session when it leaves. -/
def part (t : Traffic) : Move → Log
  | .act (.arrive bytes) => { arrived := if t.session.hungUp then [] else bytes }
  | .act (.send m) => if t.session.closed then {} else { offered := [m], returned := [m] }
  | .act .close => { closings := 1 }
  | .act .readerLeaves => { closings := if t.session.reader = .leaving then 1 else 0 }
  | .act .writerLeaves => { closings := if t.session.writer = .leaving then 1 else 0 }
  | .act _ => {}
  | .enter m => { offered := if t.session.closed then [] else [m] }
  | .push place => { returned := t.sending[place]?.toList }
  | .seize => { closings := 1 }
  | .announce => {}
  | .cut _ => {}

/-- What a run contributes, each part as things stand when it is made. -/
def log : List Move → Traffic → Log
  | [], _ => {}
  | move :: rest, t => t.part move ++ log rest (t.step move).1

/-- A run that goes on contributes what it did so far and what it does from there. -/
theorem log_append (before after : List Move) (t : Traffic) :
    t.log (before ++ after) = t.log before ++ (t.run before).1.log after := by
  induction before generalizing t with
  | nil => exact (Log.empty_append _).symm
  | cons move before ih => simp [log, run, ih, Log.append_assoc]

/-! ## What a move can do -/

/-- **All that a move can do** to a session and to the calls on it, with what it contributes and
what is reported. -/
inductive Turn (t : Traffic) : Traffic → Log → List SessionEvent → Prop
  /-- Somebody hangs up, shuts down or stops, or nothing happens. A worker that has stopped does not
  begin again, and none is gone that was not. -/
  | still (hungUp shutDown : Bool) (reader writer : Worker) :
      (reader = .gone → t.session.reader = .gone) → (writer = .gone → t.session.writer = .gone) →
      (writer = .working → t.session.writer = .working) →
      Turn t { t with session := { t.session with hungUp, shutDown, reader, writer } } {} []
  /-- Bytes come in. -/
  | arrived (bytes : List UInt8) :
      Turn t { t with session := { t.session with incoming := t.session.incoming ++ bytes } }
        { arrived := bytes } []
  /-- A frame is taken off the bytes that came in. -/
  | read (frame : Message) (rest : List UInt8) :
      nextFrame? t.session.incoming = some (frame, rest) →
      Turn t { t with session := { t.session with incoming := rest } } {}
        ((accepted [frame.check]).map .received)
  /-- A call to send finds the session open. -/
  | entered (m : Message) : t.session.closed = false →
      Turn t { t with sending := t.sending ++ [m] } { offered := [m] } []
  /-- A call to send ends. While there is a writer the message is queued. -/
  | pushed (place : Nat) (m : Message) (queue : List Message) : t.sending[place]? = some m →
      (t.session.writer ≠ .gone → queue = t.session.queue ++ [m]) →
      Turn t { t with sending := t.sending.eraseIdx place, session := { t.session with queue } }
        { returned := [m] } []
  /-- A call to send is made at one go. -/
  | sent (m : Message) (queue : List Message) : t.session.closed = false →
      (t.session.writer ≠ .gone → queue = t.session.queue ++ [m]) →
      Turn t { t with session := { t.session with queue } } { offered := [m], returned := [m] } []
  /-- The next message is written, if a reader would accept it. -/
  | written (m : Message) (queue : List Message) : t.session.writer = .working →
      t.session.queue = m :: queue →
      Turn t
        { t with
          session :=
            { t.session with
              queue
              written := t.session.written ++ (writeMessage m).toOption.getD [] } } {} []
  /-- Some bytes of the next message are written, and the writer stops. -/
  | broken (m : Message) (queue : List Message) (count : Nat) : t.session.writer = .working →
      t.session.queue = m :: queue → m.writable = true →
      Turn t
        { t with
          session :=
            { t.session with
              queue
              written := t.session.written ++ m.encode.take count
              writer := .leaving } } {} []
  /-- The session is closed, and its end is reported. -/
  | closed (reader writer : Worker) : t.session.closed = false →
      (writer = .working → t.session.writer = .working) →
      Turn t { t with session := { t.session with closed := true, reader, writer } }
        { closings := 1 } [.closed]
  /-- A closed session is closed once more. -/
  | again (reader writer : Worker) : t.session.closed = true →
      (writer = .working → t.session.writer = .working) →
      Turn t { t with session := { t.session with reader, writer } } { closings := 1 } []
  /-- The session is closed, and its end is to be reported. -/
  | seized : t.session.closed = false →
      Turn t { t with session := { t.session with closed := true }, unreported := true }
        { closings := 1 } []
  /-- The end is reported. -/
  | announced : t.unreported = true → Turn t { t with unreported := false } {} [.closed]

section Turn

variable (t : Traffic)

/-- To do nothing is a turn that contributes nothing. -/
theorem turn_refl : Turn t t {} [] := .still _ _ _ _ id id id

/-- Closing at one go, by anybody. -/
theorem turn_close (reader writer : Worker)
    (hworks : writer = .working → t.session.writer = .working) :
    Turn t { t with session := { t.session with reader, writer }.close.1 } { closings := 1 }
      { t.session with reader, writer }.close.2 := by
  unfold Session.close
  cases hclosed : t.session.closed with
  | true => exact .again reader writer hclosed hworks
  | false => exact .closed reader writer hclosed hworks

/-- Every action of a session is a turn. -/
theorem turn_act (a : Session.Action) :
    Turn t (t.step (.act a)).1 (t.part (.act a)) (t.step (.act a)).2 := by
  cases a with
  | arrive bytes =>
    simp only [step, part, Session.step]
    split
    · exact turn_refl t
    · exact .arrived bytes
  | hangUp => exact .still true _ _ _ id id id
  | send m =>
    simp only [step, part, Session.step]
    by_cases hclosed : t.session.closed = true
    · rw [if_pos hclosed, Session.send_of_closed m hclosed]
      exact turn_refl t
    · have hopen : t.session.closed = false := by simpa using hclosed
      rw [if_neg hclosed]
      -- Whether the message is queued hangs on the writer, that it was offered does not.
      unfold Session.send
      split
      · rename_i hgone
        exact .sent m _ hopen fun hwriter => absurd (hgone.resolve_left hclosed) hwriter
      · exact .sent m _ hopen fun _ => rfl
  | close => exact turn_close t _ _ id
  | shutDown => exact .still _ true _ _ id id id
  | read =>
    simp only [step, part, Session.step]
    split
    · unfold Session.read
      split
      · -- A whole frame has come in; without one, the end of the bytes sends the reader home.
        exact .read _ _ ‹_›
      · split
        · exact .still _ _ .leaving _ (fun hgone => by cases hgone) id id
        · exact turn_refl t
    · exact turn_refl t
  | readFails | readerStops =>
    simp only [step, part, Session.step]
    split
    · exact .still _ _ .leaving _ (fun hgone => by cases hgone) id id
    · exact turn_refl t
  | readerLeaves =>
    -- A worker that leaves closes the session, as a call to close does.
    simp only [step, part, Session.step]
    split
    · exact turn_close t .gone _ id
    · exact turn_refl t
  | write =>
    simp only [step, part, Session.step]
    split
    · unfold Session.write
      split
      · exact turn_refl t
      · exact .written _ _ ‹_› ‹_›
    · exact turn_refl t
  | writeFails | writerStops =>
    simp only [step, part, Session.step]
    split
    · exact .still _ _ _ .leaving id (fun hgone => by cases hgone) fun hworks => by cases hworks
    · exact turn_refl t
  | writerLeaves =>
    simp only [step, part, Session.step]
    split
    · exact turn_close t _ .gone fun hworks => by cases hworks
    · exact turn_refl t

/-- **What a move does** is one of these things. -/
theorem turn_step (move : Move) : Turn t (t.step move).1 (t.part move) (t.step move).2 := by
  cases move with
  | act a => exact turn_act t a
  | enter m =>
    simp only [step, part, enter]
    cases hclosed : t.session.closed with
    | true => exact turn_refl t
    | false => exact .entered m hclosed
  | push place =>
    -- The call comes back, whether its message was queued or the writer had gone.
    simp only [step, part, push]
    cases hplace : t.sending[place]? with
    | none => exact turn_refl t
    | some m =>
      by_cases hwriter : t.session.writer = .gone
      · simp only [hwriter, if_true]
        exact .pushed place m _ hplace fun hne => absurd hwriter hne
      · simp only [hwriter, if_false]
        exact .pushed place m _ hplace fun _ => rfl
  | seize =>
    simp only [step, part, seize]
    cases hclosed : t.session.closed with
    | true => exact .again _ _ hclosed id
    | false => exact .seized hclosed
  | announce =>
    -- Whoever was the first to close reports the end.
    simp only [step, part, announce]
    split
    · exact .announced ‹_›
    · exact turn_refl t
  | cut count =>
    simp only [step, part]
    split
    · unfold Session.cutOff
      split
      · exact turn_refl t
      · -- A message that writing refuses puts nothing on the wire before the write fails.
        rename_i m queue hqueue
        cases hwrite : writeMessage m with
        | ok bytes =>
          obtain ⟨hm, hcheck, rfl⟩ := writeMessage_eq_ok_iff.1 hwrite
          exact .broken m queue count ‹_› hqueue (Message.writable_iff.2 ⟨hm, hcheck⟩)
        | error e => exact turn_refl t
    · exact turn_refl t

end Turn

section Run

variable {P : Log → List SessionEvent → Traffic → Prop}
  (hturn : ∀ {log part : Log} {events more : List SessionEvent} {t u : Traffic},
    P log events t → Turn t u part more → P (log ++ part) (events ++ more) u)

include hturn

/-- **What every move keeps, a run keeps.** -/
theorem run_of_turn {log : Log} {events : List SessionEvent} {t : Traffic} (h : P log events t)
    (moves : List Move) :
    P (log ++ t.log moves) (events ++ (t.run moves).2) (t.run moves).1 := by
  induction moves generalizing log events t with
  | nil =>
    rw [Traffic.log, run, Log.append_empty, List.append_nil]
    exact h
  | cons move moves ih =>
    rw [Traffic.log, run, ← Log.append_assoc, ← List.append_assoc]
    exact ih (hturn h (turn_step t move))

/-- What holds at the beginning and is kept by every move holds of a whole session. -/
theorem of_turn {id : SessionId} (h : P {} [] (start id)) (moves : List Move) :
    P ((start id).log moves) ((start id).run moves).2 ((start id).run moves).1 := by
  have hrun := run_of_turn hturn h moves
  rwa [Log.empty_append, List.nil_append] at hrun

end Run

/-! ## The end of a session -/

/-- **The end is reported once**, by the first who closes the session, at the latest when nobody is
on the way to report it. A worker that is gone has closed the session. -/
structure Ended (log : Log) (events : List SessionEvent) (t : Traffic) : Prop where
  /-- The session is closed if anybody has closed it. -/
  closed : t.session.closed = true ↔ log.closings ≠ 0
  /-- Its end was reported, or will be. -/
  reported : events.count .closed + (if t.unreported then 1 else 0) =
    if t.session.closed then 1 else 0
  /-- It does not begin again. -/
  accepted : .accepted ∉ events
  /-- A worker that is gone has closed it. -/
  gone : t.session.reader = .gone ∨ t.session.writer = .gone → t.session.closed = true

section Ended

variable {log part : Log} {events more : List SessionEvent} {t u : Traffic}

/-- A move that closes nothing and reports nothing but messages. -/
theorem Ended.of_open (h : Ended log events t) (hpart : part.closings = 0)
    (hclosed : u.session.closed = t.session.closed) (hunreported : u.unreported = t.unreported)
    (hmore : ∀ e ∈ more, ∃ m, e = .received m)
    (hreader : u.session.reader = .gone → t.session.reader = .gone)
    (hwriter : u.session.writer = .gone → t.session.writer = .gone) :
    Ended (log ++ part) (events ++ more) u where
  closed := by rw [Log.closings_append, hpart, Nat.add_zero, hclosed, h.closed]
  reported := by
    have hcount : more.count .closed = 0 := List.count_eq_zero.2 fun hmem => by
      obtain ⟨m, hm⟩ := hmore _ hmem
      cases hm
    rw [List.count_append, hcount, Nat.add_zero, hunreported, hclosed, h.reported]
  accepted := fun hmem => by
    rcases List.mem_append.1 hmem with hmem | hmem
    · exact h.accepted hmem
    · obtain ⟨m, hm⟩ := hmore _ hmem
      cases hm
  gone := fun hgone => by
    rw [hclosed]
    exact h.gone (hgone.imp hreader hwriter)

/-- **Any move** keeps it so that the end is reported once. -/
theorem Ended.turn (h : Ended log events t) (hturn : Turn t u part more) :
    Ended (log ++ part) (events ++ more) u := by
  have hnone : ∀ e ∈ ([] : List SessionEvent), ∃ m, e = .received m := fun _ hmem =>
    absurd hmem List.not_mem_nil
  have hreported := h.reported
  cases hturn with
  | still _ _ _ _ hreader hwriter _ => exact h.of_open rfl rfl rfl hnone hreader hwriter
  | arrived | entered | pushed | sent | written => exact h.of_open rfl rfl rfl hnone id id
  | read frame rest _ =>
    refine h.of_open rfl rfl rfl (fun e hmem => ?_) id id
    obtain ⟨m, _, rfl⟩ := List.mem_map.1 hmem
    exact ⟨m, rfl⟩
  | broken => exact h.of_open rfl rfl rfl hnone id fun hgone => by cases hgone
  | closed reader writer hopen _ =>
    -- Nothing has been reported as long as nobody had closed the session.
    rw [hopen] at hreported
    exact {
      closed := by simp
      reported := by
        rw [List.count_append, List.count_singleton_self]
        simp only [Bool.false_eq_true, if_false, if_true] at hreported ⊢
        omega
      accepted := by simpa using h.accepted
      gone := fun _ => rfl }
  | again reader writer hclosed _ =>
    exact {
      closed := by simp [hclosed]
      reported := by rwa [List.append_nil]
      accepted := by simpa using h.accepted
      gone := fun _ => hclosed }
  | seized hopen =>
    rw [hopen] at hreported
    exact {
      closed := by simp
      reported := by
        rw [List.append_nil]
        simp only [Bool.false_eq_true, if_false, if_true] at hreported ⊢
        omega
      accepted := by simpa using h.accepted
      gone := fun _ => rfl }
  | announced hunreported =>
    rw [hunreported] at hreported
    exact {
      closed := by simpa using h.closed
      reported := by
        rw [List.count_append, List.count_singleton_self, ← hreported]
        rfl
      accepted := by simpa using h.accepted
      gone := h.gone }

/-- Nobody has closed a session that begins. -/
theorem ended_start (id : SessionId) : Ended {} [] (start id) where
  closed := by simp [start, Session.start]
  reported := rfl
  accepted := List.not_mem_nil
  gone := by simp [start, Session.start]

end Ended

/-! ## What the peer says -/

/-- The messages among the reports of a session. -/
def heard (events : List SessionEvent) : List Message :=
  events.filterMap fun
    | .received m => some m
    | _ => none

/-- What is heard in two parts is heard one after the other. -/
@[simp] theorem heard_append (events more : List SessionEvent) :
    heard (events ++ more) = heard events ++ heard more :=
  List.filterMap_append

/-- What is reported as received is heard. -/
@[simp] theorem heard_map_received (ms : List Message) : heard (ms.map .received) = ms := by
  simp [heard, List.filterMap_map]

/-- **What has been reported of the peer** is what the frames hold that were taken off its bytes,
and the other bytes are still to be read. -/
def Heard (log : Log) (events : List SessionEvent) (t : Traffic) : Prop :=
  ∃ frames : List Message, (∀ frame ∈ frames, frame.Consistent) ∧
    log.arrived = frames.flatMap Message.encode ++ t.session.incoming ∧
    heard events = accepted (frames.map Message.check)

section Heard

variable {log part : Log} {events more : List SessionEvent} {t u : Traffic}

/-- Whatever neither brings bytes nor takes any, and reports no message, keeps what has been heard.
-/
theorem Heard.of_eq (h : Heard log events t) (hpart : part.arrived = [])
    (hincoming : u.session.incoming = t.session.incoming) (hmore : heard more = []) :
    Heard (log ++ part) (events ++ more) u := by
  obtain ⟨frames, hwhole, harrived, hheard⟩ := h
  refine ⟨frames, hwhole, ?_, ?_⟩
  · rw [Log.arrived_append, hpart, List.append_nil, hincoming, harrived]
  · rw [heard_append, hmore, List.append_nil, hheard]

/-- Every turn keeps the reports in step with the frames that were taken off the bytes. -/
theorem Heard.turn (h : Heard log events t) (hturn : Turn t u part more) :
    Heard (log ++ part) (events ++ more) u := by
  cases hturn with
  | arrived bytes =>
    obtain ⟨frames, hwhole, harrived, hheard⟩ := h
    refine ⟨frames, hwhole, ?_, ?_⟩
    · rw [Log.arrived_append, harrived, List.append_assoc]
    · rw [List.append_nil, hheard]
  | read frame rest hnext =>
    obtain ⟨frames, hwhole, harrived, hheard⟩ := h
    obtain ⟨hframe, hincoming⟩ := nextFrame?_eq_some_iff.1 hnext
    refine ⟨frames ++ [frame], ?_, ?_, ?_⟩
    · intro f hf
      rcases List.mem_append.1 hf with hf | hf
      · exact hwhole f hf
      · rwa [List.mem_singleton.1 hf]
    · rw [Log.arrived_append, List.append_nil, harrived, hincoming]
      simp
    · rw [heard_append, heard_map_received, hheard]
      simp [Pursuit.accepted]
  | _ => exact h.of_eq rfl rfl rfl

/-- Nothing has been heard on a session that begins. -/
theorem heard_start (id : SessionId) : Heard {} [] (start id) :=
  ⟨[], fun _ hmem => absurd hmem List.not_mem_nil, rfl, rfl⟩

/-- A reader of all the bytes would have read the same messages, and may go on from there. -/
theorem Heard.prefix_accepted (h : Heard log events t) :
    heard events <+: accepted (readStream log.arrived) := by
  obtain ⟨frames, hwhole, harrived, hheard⟩ := h
  obtain ⟨others, tail, hothers⟩ := exists_framed t.session.incoming
  have hall : Framed log.arrived (frames ++ others) tail := by
    refine ⟨?_, hothers.unfinished, ?_⟩
    · intro f hf
      exact (List.mem_append.1 hf).elim (hwhole f) (hothers.whole f)
    · rw [harrived, hothers.bytes, List.flatMap_append, List.append_assoc]
  rw [readStream_of_framed hall, hheard, List.map_append, List.append_assoc]
  exact ⟨_, List.filterMap_append.symm⟩

end Heard

/-! ## What is said to the peer -/

/-- **Every call to send that found the session open** has come to its end or is under way. -/
def Called (log : Log) (_ : List SessionEvent) (t : Traffic) : Prop :=
  (log.returned ++ t.sending).Perm log.offered

/-- **What was written is what was queued**, up to where the writer has come. While it works, it
leaves out nothing, and the rest is in the queue. -/
def Spoken (log : Log) (_ : List SessionEvent) (t : Traffic) : Prop :=
  ∃ (taken rest : List Message) (tail : List UInt8),
    log.returned = taken ++ rest ∧ t.session.written = (writeStream taken).2 ++ tail ∧
      Unfinished tail ∧ (t.session.writer = .working → rest = t.session.queue ∧ tail = [])

section Spoken

variable {log part : Log} {events more : List SessionEvent} {t u : Traffic}

/-- Every turn keeps the calls that ended and those under way together all that began. -/
theorem Called.turn (h : Called log events t) (hturn : Turn t u part more) :
    Called (log ++ part) (events ++ more) u := by
  unfold Called at h ⊢
  cases hturn with
  | entered m _ =>
    rw [Log.returned_append, Log.offered_append, List.append_nil, ← List.append_assoc]
    exact h.append_right [m]
  | pushed place m _ hplace _ =>
    rw [Log.returned_append, Log.offered_append, List.append_nil, List.append_assoc]
    obtain ⟨hlt, rfl⟩ := List.getElem?_eq_some_iff.1 hplace
    exact ((List.getElem_cons_eraseIdx_perm hlt).append_left log.returned).trans h
  | sent m _ _ _ =>
    rw [Log.returned_append, Log.offered_append, List.append_assoc]
    exact (List.perm_append_comm.append_left log.returned).trans
      (by simpa using h.append_right [m])
  | _ => simpa using h

/-- Nobody has called on a session that begins. -/
theorem called_start (id : SessionId) : Called {} [] (start id) := List.Perm.refl []

/-- Whatever ends no call and neither queues nor writes keeps what has been written, unless a writer
begins to work. -/
theorem Spoken.of_eq (h : Spoken log events t) (hpart : part.returned = [])
    (hqueue : u.session.queue = t.session.queue) (hwritten : u.session.written = t.session.written)
    (hwriter : u.session.writer = .working → t.session.writer = .working) :
    Spoken (log ++ part) (events ++ more) u := by
  obtain ⟨taken, rest, tail, hreturned, hbytes, htail, hworks⟩ := h
  refine ⟨taken, rest, tail, ?_, hwritten.trans hbytes, htail, fun h => ?_⟩
  · rw [Log.returned_append, hpart, List.append_nil, hreturned]
  · rw [hqueue]
    exact hworks (hwriter h)

/-- One more message is behind all others. -/
theorem Spoken.queued (h : Spoken log events t) {m : Message} (hpart : part.returned = [m])
    (hqueue : t.session.writer ≠ .gone → u.session.queue = t.session.queue ++ [m])
    (hwritten : u.session.written = t.session.written)
    (hwriter : u.session.writer = t.session.writer) : Spoken (log ++ part) (events ++ more) u := by
  obtain ⟨taken, rest, tail, hreturned, hbytes, htail, hworks⟩ := h
  refine ⟨taken, rest ++ [m], tail, ?_, hwritten.trans hbytes, htail, fun h => ?_⟩
  · rw [Log.returned_append, hpart, hreturned, List.append_assoc]
  · rw [hwriter] at h
    obtain ⟨hrest, hnil⟩ := hworks h
    rw [hqueue (by simp [h]), hrest]
    exact ⟨rfl, hnil⟩

/-- The beginning of a message is the message or lacks some bytes. -/
theorem unfinished_take {m : Message} (hm : m.Consistent) {count : Nat}
    (hcount : count < m.encode.length) : Unfinished (m.encode.take count) :=
  ⟨m, m.encode.drop count, hm, by simpa using hcount, (List.take_append_drop count _).symm⟩

/-- No byte at all is an unfinished frame. -/
theorem unfinished_nil : Unfinished [] := unfinished_of_length_lt (by decide)

/-- Every turn keeps what was written in step with what was queued. -/
theorem Spoken.turn (h : Spoken log events t) (hturn : Turn t u part more) :
    Spoken (log ++ part) (events ++ more) u := by
  cases hturn with
  | pushed _ m _ _ hqueue => exact h.queued rfl hqueue rfl rfl
  | sent m _ _ hqueue => exact h.queued rfl hqueue rfl rfl
  | written m queue hworks hqueue =>
    -- The message is taken: it goes from those that wait to those that were written.
    obtain ⟨taken, rest, tail, hreturned, hbytes, htail, hup⟩ := h
    obtain ⟨rfl, rfl⟩ := hup hworks
    refine ⟨taken ++ [m], queue, [], ?_, ?_, htail, fun _ => ⟨rfl, rfl⟩⟩
    · rw [Log.returned_append, List.append_nil, hreturned, hqueue, List.append_assoc]
      rfl
    · rw [hbytes, Dialer.writeStream_concat, List.append_nil, List.append_nil]
  | broken m queue count hworks hqueue hm =>
    obtain ⟨taken, rest, tail, hreturned, hbytes, htail, hup⟩ := h
    obtain ⟨rfl, rfl⟩ := hup hworks
    by_cases hcount : count < m.encode.length
    · -- The message is not whole: it is not among those taken.
      refine ⟨taken, m :: queue, m.encode.take count, ?_, ?_,
        unfinished_take (Message.writable_iff.1 hm).1 hcount, fun hworks => by cases hworks⟩
      · rw [Log.returned_append, List.append_nil, hreturned, hqueue]
      · rw [hbytes, List.append_nil]
    · refine ⟨taken ++ [m], queue, [], ?_, ?_, unfinished_nil, fun hworks => by cases hworks⟩
      · rw [Log.returned_append, List.append_nil, hreturned, hqueue, List.append_assoc]
        rfl
      · rw [hbytes, Dialer.writeStream_concat, toOption_writeMessage, if_pos hm, List.append_nil,
          List.append_nil, List.take_of_length_le (Nat.le_of_not_lt hcount)]
  | still _ _ _ _ _ _ hwriter => exact h.of_eq rfl rfl rfl hwriter
  | closed _ _ _ hwriter => exact h.of_eq rfl rfl rfl hwriter
  | again _ _ _ hwriter => exact h.of_eq rfl rfl rfl hwriter
  | _ => exact h.of_eq rfl rfl rfl id

/-- Nothing has been written on a session that begins. -/
theorem spoken_start (id : SessionId) : Spoken {} [] (start id) :=
  ⟨[], [], [], rfl, rfl, unfinished_nil, fun _ => ⟨rfl, rfl⟩⟩

/-- The frames on the wire are the messages taken, without those that writing refuses. -/
theorem Spoken.framed (h : Spoken log events t) :
    ∃ frames tail, Framed t.session.written frames tail ∧
      frames <+: log.returned.filter Message.writable := by
  obtain ⟨taken, rest, tail, hreturned, hbytes, htail, _⟩ := h
  have htaken := framed_writeStream taken
  refine ⟨taken.filter Message.writable, tail, ⟨htaken.whole, htail, ?_⟩, ?_⟩
  · rw [hbytes, htaken.bytes, List.append_nil]
  · rw [hreturned, List.filter_append]
    exact List.prefix_append _ _

end Spoken

/-! ## Calls one after the other, and calls that come too late -/

/-- Nobody begins to send a message while somebody else does. -/
def OneByOne : List Move → Traffic → Prop
  | [], _ => True
  | move :: rest, t =>
    ((t.part move).offered ≠ [] → t.sending = []) ∧ OneByOne rest (t.step move).1

section OneByOne

variable {log part : Log} {events more : List SessionEvent} {t u : Traffic}

/-- Calls that begin one after the other end in that order, with at most one of them under way. -/
def InOrder (log : Log) (t : Traffic) : Prop :=
  log.returned ++ t.sending = log.offered ∧ t.sending.length ≤ 1

/-- A turn keeps calls in order if it begins none while another one is under way. -/
theorem InOrder.turn (h : InOrder log t) (hturn : Turn t u part more)
    (halone : part.offered ≠ [] → t.sending = []) : InOrder (log ++ part) u := by
  obtain ⟨horder, hlength⟩ := h
  cases hturn with
  | entered m | sent m =>
    have hnil : t.sending = [] := halone (List.cons_ne_nil m [])
    rw [hnil, List.append_nil] at horder
    exact ⟨by simp [hnil, horder], by simp [hnil]⟩
  | pushed place m _ hplace _ =>
    -- Only one call is under way, so this is the one that ends.
    obtain ⟨hlt, rfl⟩ := List.getElem?_eq_some_iff.1 hplace
    obtain ⟨m, hsending⟩ : ∃ m, t.sending = [m] := List.length_eq_one_iff.1 (by omega)
    obtain rfl : place = 0 := by omega
    rw [hsending] at horder
    exact ⟨by simp [hsending, horder], by simp [hsending]⟩
  | _ => simpa [InOrder] using ⟨horder, hlength⟩

/-- Calls that begin one after the other stay in order for a whole run. -/
theorem InOrder.run (h : InOrder log t) {moves : List Move} (hmoves : OneByOne moves t) :
    InOrder (log ++ t.log moves) (t.run moves).1 := by
  induction moves generalizing log t with
  | nil =>
    rw [Traffic.log, Log.append_empty]
    exact h
  | cons move moves ih =>
    obtain ⟨halone, hrest⟩ := hmoves
    rw [Traffic.log, ← Log.append_assoc]
    exact ih (h.turn (turn_step t move) halone) hrest

/-- Calls that begin one after the other end in that order, from the beginning of the session on. -/
theorem inOrder_run (id : SessionId) {moves : List Move} (hmoves : OneByOne moves (start id)) :
    InOrder ((start id).log moves) ((start id).run moves).1 := by
  have h : InOrder {} (start id) := ⟨rfl, Nat.zero_le 1⟩
  have hrun := h.run hmoves
  rwa [Log.empty_append] at hrun

/-- A closed session stays closed, and no call finds it open. -/
theorem Turn.of_closed (hturn : Turn t u part more) (hclosed : t.session.closed = true) :
    u.session.closed = true ∧ part.offered = [] := by
  cases hturn with
  | entered _ hopen | sent _ _ hopen _ =>
    rw [hclosed] at hopen
    cases hopen
  | closed | seized => exact ⟨rfl, rfl⟩
  | _ => exact ⟨hclosed, rfl⟩

/-- No call to send finds a session open that is closed. -/
theorem offered_of_closed (moves : List Move) (hclosed : t.session.closed = true) :
    (t.log moves).offered = [] := by
  induction moves generalizing t with
  | nil => rfl
  | cons move moves ih =>
    obtain ⟨hstays, hnone⟩ := (turn_step t move).of_closed hclosed
    rw [Traffic.log, Log.offered_append, hnone, ih hstays]
    rfl

end OneByOne

/-! ## From the beginning to the end -/

/-- **The life of a session**, whatever its workers, those who send and close, the peer and the
server do, and in whatever order.

* It begins once, before anything else is reported.
* Its end is reported once if anybody closes it, as soon as whoever was the first has got that far,
  and not at all if nobody does. No worker is gone before it is closed.
* The messages that are reported are, in order, the first of those that the peer's bytes hold.
* The whole frames that are written are, in order, the first of the messages whose calls to send
  came to their end after they had found the session open, without those that writing refuses. If
  the calls do not overlap, that is the order in which they were made.
* Whatever was passed to send after the session was closed is not among them. -/
theorem lifecycle (id : SessionId) (moves : List Move) :
    let t := ((start id).run moves).1
    let log := (start id).log moves
    (∃ events, reports id moves = .accepted :: events ∧ .accepted ∉ events ∧
      events.count .closed + (if t.unreported then 1 else 0) =
        (if log.closings = 0 then 0 else 1) ∧
      heard events <+: accepted (readStream log.arrived)) ∧
    (t.session.reader = .gone ∨ t.session.writer = .gone → log.closings ≠ 0) ∧
    (∃ frames tail, Framed t.session.written frames tail ∧
      frames <+: log.returned.filter Message.writable ∧
      ∀ before after, moves = before ++ after → ((start id).log before).closings ≠ 0 →
        frames.Subperm ((start id).log before).offered) ∧
    (log.returned ++ t.sending).Perm log.offered ∧
    (OneByOne moves (start id) → log.returned ++ t.sending = log.offered) := by
  intro t log
  have hended : Ended log _ t := of_turn Ended.turn (ended_start id) moves
  have hcalled : Called log _ t := of_turn Called.turn (called_start id) moves
  refine ⟨⟨((start id).run moves).2, rfl, hended.accepted, ?reported, ?heard⟩, ?gone, ?spoken,
    hcalled, ?inOrder⟩
  case reported =>
    rw [hended.reported]
    by_cases hclosings : log.closings = 0
    · rw [if_pos hclosings, if_neg fun hclosed => hended.closed.1 hclosed hclosings]
    · rw [if_neg hclosings, if_pos (hended.closed.2 hclosings)]
  case heard => exact (of_turn Heard.turn (heard_start id) moves).prefix_accepted
  case gone => exact fun hgone => hended.closed.1 (hended.gone hgone)
  case spoken =>
    obtain ⟨frames, tail, hframed, hfirst⟩ :=
      (of_turn Spoken.turn (spoken_start id) moves).framed
    refine ⟨frames, tail, hframed, hfirst, fun before after hmoves hclosings => ?_⟩
    -- Every frame is the message of some call, and no call began after that.
    have hbefore := (of_turn Ended.turn (ended_start id) before).closed.2 hclosings
    have hoffered : log.offered = ((start id).log before).offered := by
      simp only [log, hmoves, log_append, Log.offered_append, offered_of_closed after hbefore,
        List.append_nil]
    rw [← hoffered]
    exact (hfirst.sublist.trans List.filter_sublist).subperm.trans
      ((List.sublist_append_left _ _).subperm.trans hcalled.subperm)
  case inOrder => exact fun hmoves => (inOrder_run id hmoves).1

/-- Two close a session while a third is sending, and the writer is cut off. -/
theorem lifecycle_contested :
    let first : Message := ⟨⟨⟨3⟩, .gameUnit, 14⟩, List.replicate 14 0⟩
    let second : Message := ⟨⟨.event, .newPlayerId, 2⟩, [4, 0]⟩
    let before : List Move := [.act (.arrive first.encode), .enter second, .act .read, .push 0,
      .act .write, .enter first, .seize, .act .close]
    let after : List Move := [.push 0, .act (.send second), .cut 3, .act .writerLeaves,
      .act .readerStops, .act .readerLeaves, .announce]
    let t := ((start ⟨7⟩).run (before ++ after)).1
    let log := (start ⟨7⟩).log (before ++ after)
    OneByOne (before ++ after) (start ⟨7⟩) ∧ ((start ⟨7⟩).log before).closings = 2 ∧
      reports ⟨7⟩ (before ++ after) = [.accepted, .received first, .closed] ∧
      t.session.written = second.encode ++ first.encode.take 3 ∧
      log.returned ++ t.sending = log.offered ∧ log.offered = [second, first] := by
  intro first second before after t log
  have hmoves : OneByOne (before ++ after) (start ⟨7⟩) := by
    simp only [before, after, List.cons_append, List.nil_append, OneByOne]
    decide +kernel
  refine ⟨hmoves, by decide +kernel, by decide +kernel, by decide +kernel, ?_, by decide +kernel⟩
  obtain ⟨_, _, _, _, hinOrder⟩ := lifecycle ⟨7⟩ (before ++ after)
  exact hinOrder hmoves

end Traffic

end Pursuit
