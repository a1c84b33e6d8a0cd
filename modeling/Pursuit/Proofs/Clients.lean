import Pursuit.Match.Roster
import Pursuit.Proofs.Connections
import Pursuit.Proofs.Framing

/-! # Clients on their connections

A client shows what was reported to it since its last connection ended. The reader of the connection
that is up reports what the server wrote on its session, in that order. A reader that was called off
may put in messages of a connection that has ended.

* **`Client`** — a client, who it is to the server, and how far its connection has come.
* **`Dialer.recent`** — the messages reported since the last connection ended.
* **`Dialer.Draw`** — what becomes of the unread bytes of the connection that is up.
* **`Client.Follows`** — a client shows what it followed.
* **`Client.Hears`** — what was sent to a client is what it heard, what is under way and what waits.
* **`Client.Undisturbed`** — late reports make no difference to what it shows. -/

namespace Pursuit

/-- Every message has a header. -/
theorem Message.encode_ne_nil (m : Message) : m.encode ≠ [] := fun hnil => by
  have hlength := congrArg List.length hnil
  rw [encode, List.length_append, Header.length_encode] at hlength
  exact absurd hlength (by simp [headerLength])

namespace Dialer

/-! ## Recent reports -/

/-- The messages reported since the last connection ended, with one more report. -/
def Report.follow (ms : List Message) (r : Report) : List Message :=
  match r.event with
  | .received m => ms ++ [m]
  | .closed _ => []
  | .established | .failed => ms

/-- The messages reported since the last connection ended, the oldest first. -/
def recent (rs : List Report) : List Message := rs.foldl Report.follow []

/-- More reports go on where the earlier ones have come to. -/
theorem recent_append (rs rs' : List Report) :
    recent (rs ++ rs') = rs'.foldl Report.follow (recent rs) :=
  List.foldl_append

/-- An action reports what its step does. -/
theorem reports_singleton (a : Action) (d : Dialer) :
    reports [a] d = (d.step a).2.map (⟨a.connection d, a.isLate, ·⟩) :=
  List.append_nil _

/-- Lists of messages that show the same go on showing the same, whatever is reported. -/
theorem view_foldl_follow {ms ms' : List Message} (rs : List Report)
    (h : ms.foldl View.receive {} = ms'.foldl View.receive {}) :
    (rs.foldl Report.follow ms).foldl View.receive {} =
      (rs.foldl Report.follow ms').foldl View.receive {} := by
  induction rs generalizing ms ms' with
  | nil => exact h
  | cons r rs ih =>
    refine ih ?_
    unfold Report.follow
    split
    · rw [List.foldl_append, List.foldl_append, h]
    · rfl
    · exact h
    · exact h

/-! ## What is read -/

/-- The bytes that came in on the last connection and have not been read. -/
def unread (d : Dialer) : List UInt8 :=
  ((d.wire? (d.wires.length - 1)).map (·.incoming)).getD []

/-- Whether an action is the client's own. It is not its own doing that an attempt reaches the server,
and that bytes come in from there. -/
def Action.isOwn : Action → Bool
  | .succeed | .arrive _ => false
  | _ => true

/-- **What becomes of the unread bytes** of the connection that is up, and what is reported. -/
inductive Draw (d e : Dialer) : List Report → Prop
  /-- They stay as they are, and only a reader that was called off may report anything. -/
  | still {rs : List Report} : e.unread = d.unread → (∀ r ∈ rs, r.late = true) → Draw d e rs
  /-- The next frame is taken, and its message is reported if it is a valid one. -/
  | taken (frame : Message) (rest : List UInt8) : nextFrame? d.unread = some (frame, rest) →
      e.unread = rest →
      Draw d e ((accepted [frame.check]).map (⟨d.wires.length - 1, false, .received ·⟩))

section Draw

variable {d e : Dialer} {f : Wire → Wire} {n : Nat} {up : Bool}

/-- Nothing is reported, and the connections are as they are. -/
theorem Draw.of_eq (hwires : e.wires = d.wires) : Draw d e [] :=
  .still (by rw [unread, unread, wire?, wire?, hwires]) fun _ hr => absurd hr List.not_mem_nil

/-- A change of the connection that is up shows in what is unread on it. -/
theorem unread_modify (hwires : e.wires = d.wires.modify (d.wires.length - 1) f) :
    e.unread = ((d.wire? (d.wires.length - 1)).map fun w => (f w).incoming).getD [] := by
  rw [unread, wire?, wire?, hwires, List.length_modify, List.getElem?_modify_eq]
  cases d.wires[d.wires.length - 1]? <;> rfl

/-- What happens to an earlier connection does not touch what is unread on the last one. -/
theorem unread_modify_of_lt {i : Nat} (hi : i + 1 < d.wires.length)
    (hwires : e.wires = d.wires.modify i f) : e.unread = d.unread := by
  rw [unread, unread, wire?, wire?, hwires, List.length_modify,
    List.getElem?_modify_ne _ _ (by omega)]

/-- A change of the connection that is up that leaves its unread bytes alone. -/
theorem draw_modify (hwires : e.wires = d.wires.modify (d.wires.length - 1) f)
    (hf : ∀ w, (f w).incoming = w.incoming) : Draw d e [] := by
  refine .still ?_ fun _ hr => absurd hr List.not_mem_nil
  rw [unread_modify hwires, unread]
  simp only [hf]

/-- The reader of the connection that is up takes a frame, or there is none. -/
theorem draw_read (d : Dialer) :
    Draw d (d.readFrom (d.wires.length - 1)).1
      ((d.readFrom (d.wires.length - 1)).2.map (⟨d.wires.length - 1, false, ·⟩)) := by
  unfold readFrom
  split
  · rename_i frame rest hnext
    obtain ⟨w, hw, hframe⟩ := Option.bind_eq_some_iff.1 hnext
    rw [List.map_map]
    refine .taken frame rest ?_ ?_
    · rwa [unread, hw]
    · rw [unread_modify rfl, hw]
      rfl
  · exact .of_eq rfl

/-- A reader that was called off takes nothing off the connection that is up. -/
theorem draw_linger {i : Nat} (hi : i + 1 < d.wires.length) :
    Draw d (d.readFrom i).1 ((d.readFrom i).2.map (⟨i, true, ·⟩)) := by
  refine .still ?_ fun r hr => ?_
  · unfold readFrom
    split
    · exact unread_modify_of_lt hi rfl
    · rfl
  · obtain ⟨e, _, rfl⟩ := List.mem_map.1 hr
    rfl

/-- No order that is handled while no connection is up brings one up. -/
theorem phase_handleIdle (d : Dialer) (order : Order) : (d.handleIdle order).phase ≠ .serving := by
  cases order with
  | connect address => simp [handleIdle, resetRetry, dial]
  | disconnect => simp [handleIdle]
  | reconnect =>
    simp only [handleIdle, resetRetry, dial]
    split <;> simp
  | shutDown => simp [handleIdle]

/-- Whatever order is handled, no connection is up afterwards. -/
theorem phase_handle (d : Dialer) : d.handle = (d, []) ∨ d.handle.1.phase ≠ .serving := by
  unfold handle
  split
  · exact .inl rfl
  · exact .inl rfl
  · rename_i order rest _ _
    cases order <;> exact .inr (by simp [handleServing, hangUp])
  · exact .inl rfl
  · exact .inr (phase_handleIdle _ _)
  · exact .inr (phase_handleIdle _ _)
  · exact .inl rfl

/-- No connection is up after an attempt that failed. -/
theorem phase_fail (d : Dialer) (c : Backoff.Chance) : (d.fail c).1.phase ≠ .serving := by
  unfold fail
  split <;> simp

/-- What is broken off ends the connection, unless there is nothing to break off. -/
theorem phase_breakOff (d : Dialer) (count : Nat) :
    d.breakOff count = (d, []) ∨ (d.breakOff count).1.phase ≠ .serving := by
  unfold breakOff
  split
  · exact .inl rfl
  · split
    · exact .inr (by simp [hangUp])
    · exact .inl rfl

/-- Reading does not change what a client is doing. -/
theorem phase_readFrom (d : Dialer) (i : Nat) : (d.readFrom i).1.phase = d.phase := by
  unfold readFrom
  split <;> rfl

/-- No connection is up at the beginning of an attempt. -/
theorem phase_dial (d : Dialer) : d.dial.phase ≠ .serving := by
  unfold dial
  split <;> simp

/-- Bytes that come in wait to be read behind those that came before, unless the server has hung up. -/
theorem unread_arrive (hserving : d.phase = .serving) (hd : d.Stands n up)
    (hopen : ¬d.current?.any (·.hungUp) = true) (bytes : List UInt8) :
    (d.step (.arrive bytes)).1.unread = d.unread ++ bytes := by
  have hlast : d.current? = d.wire? (d.wires.length - 1) := by
    rw [current?, if_pos hserving, List.getLast?_eq_getElem?, wire?]
  have hwires : (d.step (.arrive bytes)).1.wires =
      d.wires.modify (d.wires.length - 1) (·.take bytes) := by
    simp only [step, modifyWire, if_pos hserving]
  rw [unread_modify hwires, unread]
  rw [hlast] at hopen
  cases hw : d.wire? (d.wires.length - 1) with
  | none =>
    rw [wire?, (hd.of_up hserving).2, List.getElem?_eq_none_iff, (hd.of_up hserving).2] at hw
    omega
  | some w =>
    rw [hw] at hopen
    have hhung : w.hungUp = false := by simpa using hopen
    simp [Wire.take, hhung]

/-- **If a connection is up after an action of the client's own**, it was up before, and no more than a
frame was taken off it. -/
theorem draw_step {a : Action} (ha : a.isOwn = true) (hd : d.Stands n up)
    (hup : (d.step a).1.phase = .serving) :
    d.phase = .serving ∧ Draw d (d.step a).1 (reports [a] d) := by
  rw [reports_singleton]
  -- A reader that lingers is one of an earlier connection.
  have hearlier (hserving : d.phase = .serving) {i : Nat} (hi : i ∈ d.lingering) :
      i + 1 < d.wires.length := by
    rw [(hd.of_up hserving).2]
    exact Nat.succ_lt_succ (hd.lingering i hi)
  have hquiet {e : Dialer} (hphase : e.phase = d.phase) (hwires : e.wires = d.wires)
      (hup : e.phase = .serving) : d.phase = .serving ∧ Draw d e [] :=
    ⟨hphase.symm.trans hup, .of_eq hwires⟩
  cases a with
  | post order =>
    refine hquiet ?_ ?_ hup <;>
    · simp only [step, post]
      split <;> rfl
  | send m =>
    refine hquiet ?_ ?_ hup <;>
    · simp only [step, send]
      split <;> rfl
  | handle =>
    rcases d.phase_handle with hsame | hdown
    · simp only [step, hsame] at hup ⊢
      exact hquiet rfl rfl hup
    · exact absurd hup hdown
  | resolve =>
    refine hquiet ?_ ?_ hup <;>
    · simp only [step]
      split <;> rfl
  | fail c =>
    simp only [step] at hup ⊢
    split at hup
    · exact absurd hup (d.phase_fail c)
    · rename_i hphase
      rw [if_neg hphase]
      exact hquiet rfl rfl hup
  | succeed => cases ha
  | retry =>
    simp only [step] at hup ⊢
    split at hup
    · exact absurd hup d.phase_dial
    · exact hquiet rfl rfl hup
  | arrive bytes => cases ha
  | hangUp =>
    have hserving : d.phase = .serving := (phase_modifyWire d _).symm.trans hup
    refine ⟨hserving, draw_modify (f := fun w => { w with hungUp := true }) ?_ fun _ => rfl⟩
    simp only [step, modifyWire, if_pos hserving]
  | read =>
    simp only [step] at hup ⊢
    split
    · exact ⟨‹_›, draw_read d⟩
    · rename_i hdown
      rw [if_neg hdown] at hup
      exact absurd hup hdown
  | fault =>
    simp only [step] at hup
    split at hup
    · cases hup
    · rename_i hdown
      exact absurd hup hdown
  | lose =>
    simp only [step] at hup ⊢
    split at hup
    · cases hup
    · rename_i hopen
      rw [if_neg hopen]
      exact hquiet rfl rfl hup
  | write =>
    simp only [step] at hup ⊢
    split at hup
    · rename_i hserving
      refine ⟨hserving, ?_⟩
      rw [if_pos hserving]
      unfold write
      split
      · exact .of_eq rfl
      · rename_i m rest _
        refine draw_modify (f := (·.put ((writeMessage m).toOption.getD []))) ?_ fun _ => rfl
        simp only [modifyWire, if_pos hserving]
    · rename_i hdown
      exact absurd hup hdown
  | «break» count =>
    simp only [step] at hup ⊢
    split at hup
    · rename_i hserving
      rw [if_pos hserving]
      rcases d.phase_breakOff count with hsame | hdown
      · rw [hsame]
        exact hquiet rfl rfl hserving
      · exact absurd hup hdown
    · rename_i hdown
      exact absurd hup hdown
  | release =>
    refine hquiet ?_ ?_ hup <;>
    · simp only [step, release, post]
      split <;> rfl
  | starve =>
    simp only [step] at hup ⊢
    split at hup
    · cases hup
    · rename_i hkept
      rw [if_neg hkept]
      exact hquiet rfl rfl hup
  | linger i =>
    simp only [step] at hup ⊢
    split
    · rename_i hi
      rw [if_pos hi, phase_readFrom] at hup
      exact ⟨hup, draw_linger (hearlier hup (List.contains_iff_mem.1 hi))⟩
    · rename_i hi
      rw [if_neg hi] at hup
      exact hquiet rfl rfl hup
  | trickle i bytes =>
    simp only [step] at hup ⊢
    split
    · rename_i hi
      rw [if_pos hi] at hup
      refine ⟨hup, .still ?_ fun _ hr => absurd hr List.not_mem_nil⟩
      exact unread_modify_of_lt (hearlier hup (List.contains_iff_mem.1 hi)) rfl
    · rename_i hi
      rw [if_neg hi] at hup
      exact hquiet rfl rfl hup
  | vanish i => exact hquiet rfl rfl hup

end Draw

end Dialer

/-! ## Clients -/

/-- A client with what a server knows of its connection. -/
structure Client where
  /-- The client. -/
  guest : Guest
  /-- The player that it was let in as on its last connection, if it was. -/
  entered? : Option Profile := none
  /-- How many of the bytes written on its session have come in. -/
  carried : Nat := 0
  /-- All that was reported to it, the oldest first. -/
  reports : List Dialer.Report := []

namespace Client

/-- A client that is not connected yet. -/
def new (settings : DialerSettings) (rules : Rules) : Client := { guest := .new settings rules }

/-- Something happens to the client's connection, and the client follows what is reported. -/
def act (c : Client) (a : Dialer.Action) : Client :=
  { c with
    guest := c.guest.act [a]
    reports := c.reports ++ Dialer.reports [a] c.guest.dialer }

/-- An attempt of the client reaches the server, which lets it in as a player or not at all. -/
def enter (c : Client) (entered? : Option Profile) : Client :=
  { c.act .succeed with entered?, carried := 0 }

/-- No more than so many of the bytes written on its session come in that have not come in before.
None do once the server's hanging up has been heard of. -/
def carry (c : Client) (written : List UInt8) (count : Nat) : Client :=
  if c.guest.dialer.current?.any (·.hungUp) then c
  else
    let bytes := (written.drop c.carried).take count
    { c.act (.arrive bytes) with carried := c.carried + bytes.length }

/-- The player that the client is while its connection is up. -/
def profile? (c : Client) : Option Profile :=
  if c.guest.dialer.phase = .serving then c.entered? else none

/-- The messages that the client followed since its last connection ended. -/
def followed (c : Client) : List Message := Dialer.recent c.reports

/-- Those of them that the connection that is up has told. -/
def heard (c : Client) : List Message := Dialer.recent (c.reports.filter (!·.late))

/-- The bytes on their way to the client: those that came in and have not been read, and those that
were written and have not come in. -/
def underWay (c : Client) (written : List UInt8) : List UInt8 :=
  c.guest.dialer.unread ++ written.drop c.carried

/-- What was reported late makes no difference to what the client shows. -/
def Undisturbed (c : Client) : Prop :=
  c.followed.foldl View.receive {} = c.heard.foldl View.receive {}

variable {c : Client} {a : Dialer.Action} {p : Profile}

/-- A client is a player while its connection is up, under the profile that it entered with. -/
theorem profile?_eq_some_iff :
    c.profile? = some p ↔ c.guest.dialer.phase = .serving ∧ c.entered? = some p := by
  unfold profile?
  split <;> simp [*]

/-- What an action makes of a client: its connection takes the step, and it follows the reports. -/
theorem guest_act (c : Client) (a : Dialer.Action) :
    (c.act a).guest =
      (Dialer.reports [a] c.guest.dialer).foldl (fun g r => g.handle r.event)
        { c.guest with
          dialer := (c.guest.dialer.step a).1
          log := c.guest.log ++ (Dialer.reports [a] c.guest.dialer).map (·.event) } := by
  rw [← List.foldl_map (f := fun r : Dialer.Report => r.event) (g := Guest.handle),
    Dialer.map_event_reports]
  rfl

/-- Following reports does not touch the connection. -/
theorem dialer_foldl_handle (rs : List Dialer.Report) (g : Guest) :
    (rs.foldl (fun g r => g.handle r.event) g).dialer = g.dialer := by
  induction rs generalizing g with
  | nil => rfl
  | cons r rs ih =>
    rw [List.foldl_cons, ih]
    unfold Guest.handle
    split
    · rfl
    · split <;> rfl
    · rfl

/-- A client's connections do what the client does. -/
@[simp] theorem dialer_act (c : Client) (a : Dialer.Action) :
    (c.act a).guest.dialer = (c.guest.dialer.step a).1 := by
  rw [guest_act, dialer_foldl_handle]

/-- A client goes on to follow what it reports. -/
theorem followed_act (c : Client) (a : Dialer.Action) :
    (c.act a).followed =
      (Dialer.reports [a] c.guest.dialer).foldl Dialer.Report.follow c.followed :=
  Dialer.recent_append _ _

/-- A client goes on to hear what it reports, unless it is late. -/
theorem heard_act (c : Client) (a : Dialer.Action) :
    (c.act a).heard = ((Dialer.reports [a] c.guest.dialer).filter (!·.late)).foldl
      Dialer.Report.follow c.heard := by
  rw [heard, act, List.filter_append, Dialer.recent_append]
  rfl

end Client

/-! ### What a client shows -/

/-- A client that shows what messages make of nothing goes on doing so with every report. -/
theorem Guest.Listens.exists_follow {g : Guest} {game : Game} {ms : List Message}
    (h : g.Listens game) (hview : game.view = ms.foldl View.receive {}) (r : Dialer.Report) :
    ∃ game', (g.handle r.event).Listens game' ∧ game'.view = (r.follow ms).foldl View.receive {} := by
  obtain ⟨connection, late, e⟩ := r
  cases e with
  | received m =>
    obtain ⟨game', hmirrors, hview'⟩ := h.mirrors.exists_receive m .fromServer
    refine ⟨game', ⟨hmirrors, h.tidies⟩, ?_⟩
    rw [Dialer.Report.follow, List.foldl_append, hview', hview]
    rfl
  | closed reason =>
    rw [Guest.handle, if_pos h.tidies]
    exact ⟨_, ⟨h.mirrors.leave, h.tidies⟩, rfl⟩
  | established => exact ⟨game, h, hview⟩
  | failed => exact ⟨game, h, hview⟩

namespace Client

variable {c : Client} {a : Dialer.Action} {p : Profile}

/-- **A client shows what it followed** since its last connection ended. -/
structure Follows (c : Client) : Prop where
  /-- The game is what the messages make of nothing. -/
  listens : ∃ mirror, c.guest.Listens mirror ∧ mirror.view = c.followed.foldl View.receive {}
  /-- Readers that linger are those of earlier connections. -/
  stands : ∃ n up, c.guest.dialer.Stands n up
  /-- While no connection is up none has told anything. -/
  idle : c.guest.dialer.phase ≠ .serving → c.heard = []

namespace Follows

/-- A client that begins shows nothing and has followed nothing. -/
theorem new (settings : DialerSettings) (rules : Rules) : (Client.new settings rules).Follows :=
  ⟨⟨_, Guest.listens_new settings rules, rfl⟩, ⟨0, false, Dialer.stands_new settings.retry⟩,
    fun _ => rfl⟩

/-- **A client follows whatever happens to its connection.** -/
theorem act (hc : c.Follows) (a : Dialer.Action) : (c.act a).Follows := by
  obtain ⟨mirror, hlistens, hview⟩ := hc.listens
  obtain ⟨n, up, hstands⟩ := hc.stands
  have hstep := Dialer.passage_step a c.guest.dialer
  rw [← Dialer.reports_singleton] at hstep
  have hfold (rs : List Dialer.Report) {g : Guest} {game : Game} {ms : List Message}
      (h : g.Listens game) (hview : game.view = ms.foldl View.receive {}) :
      ∃ game', (rs.foldl (fun g r => g.handle r.event) g).Listens game' ∧
        game'.view = (rs.foldl Dialer.Report.follow ms).foldl View.receive {} := by
    induction rs generalizing g game ms with
    | nil => exact ⟨game, h, hview⟩
    | cons r rs ih =>
      obtain ⟨game', h', hview'⟩ := h.exists_follow hview r
      exact ih h' hview'
  refine ⟨?_, by rw [dialer_act]; exact hstep.exists_stands hstands, fun hdown => ?_⟩
  · rw [guest_act, followed_act]
    exact hfold _ ⟨hlistens.mirrors, hlistens.tidies⟩ hview
  · -- A connection that ends takes away what it has told.
    rw [dialer_act] at hdown
    rw [heard_act]
    generalize Dialer.reports [a] c.guest.dialer = rs at hstep ⊢
    cases hstep with
    | quiet hphase _ _ => exact hc.idle fun hserving => hdown (hphase.2 hserving)
    | failed hdown' _ _ _ => exact hc.idle hdown'
    | established _ hup _ _ => exact absurd hup hdown
    | received m _ hup _ _ => exact absurd hup hdown
    | closed reason _ _ _ _ => rfl
    | late i m _ hphase _ _ => exact hc.idle fun hserving => hdown (hphase.2 hserving)

/-- An action of the client's own brings no connection up. -/
theorem serving_of_act (hc : c.Follows) (ha : a.isOwn = true)
    (hup : (c.act a).guest.dialer.phase = .serving) : c.guest.dialer.phase = .serving := by
  obtain ⟨n, up, hstands⟩ := hc.stands
  rw [dialer_act] at hup
  exact (Dialer.draw_step ha hstands hup).1

/-- Whoever a client is to the server, it shows what it followed. -/
theorem enter (hc : c.Follows) (entered? : Option Profile) : (c.enter entered?).Follows :=
  ⟨(hc.act .succeed).listens, (hc.act .succeed).stands, (hc.act .succeed).idle⟩

/-- Bytes that come in change nothing about what a client shows. -/
theorem carry (hc : c.Follows) (written : List UInt8) (count : Nat) :
    (c.carry written count).Follows := by
  unfold Client.carry
  split
  · exact hc
  · exact ⟨(hc.act _).listens, (hc.act _).stands, (hc.act _).idle⟩

end Follows

/-- Bytes that come in make nobody another player. -/
theorem profile?_carry (c : Client) (written : List UInt8) (count : Nat) :
    (c.carry written count).profile? = c.profile? := by
  unfold Client.carry
  split
  · rfl
  · have hphase (bytes : List UInt8) :
        (c.act (.arrive bytes)).guest.dialer.phase = c.guest.dialer.phase := by
      rw [dialer_act]
      exact Dialer.phase_modifyWire _ _
    simp only [profile?, hphase]
    rfl

/-! ### What a client hears -/

/-- **What was sent to a client** since it connected is what its connection has told it, what is under
way, and what waits in a queue. -/
structure Hears (c : Client) (written : List UInt8) (queue sent : List Message) : Prop where
  /-- No more has come in than was written. -/
  carried : c.carried ≤ written.length
  /-- A reader would accept all of it. -/
  writable : ∀ m ∈ sent, m.writable = true
  /-- It is in one of the three places. -/
  places : ∃ pending : List Message, c.underWay written = pending.flatMap Message.encode ∧
    sent = c.heard ++ pending ++ queue

namespace Hears

variable {written : List UInt8} {queue sent out : List Message} {m : Message}

/-- Once nothing is under way and nothing waits, all has been heard. -/
theorem eq_heard (h : c.Hears written [] sent) (hread : c.underWay written = []) :
    sent = c.heard := by
  obtain ⟨pending, hunder, hsent⟩ := h.places
  have hnone : pending = [] := by
    cases pending with
    | nil => rfl
    | cons m pending =>
      rw [hread, List.flatMap_cons] at hunder
      exact absurd (List.append_eq_nil_iff.1 hunder.symm).1 m.encode_ne_nil
  rw [hsent, hnone, List.append_nil, List.append_nil]

/-- The next message that waits is written. -/
theorem write (h : c.Hears written (m :: queue) sent) :
    c.Hears (written ++ m.encode) queue sent := by
  obtain ⟨pending, hunder, hsent⟩ := h.places
  refine ⟨Nat.le_trans h.carried (by simp), h.writable, pending ++ [m], ?_, by simp [hsent]⟩
  rw [underWay, List.drop_append_of_le_length h.carried, ← List.append_assoc, List.flatMap_append,
    ← hunder, underWay]
  simp

/-- More messages wait. -/
theorem send (h : c.Hears written queue sent) (hout : ∀ m ∈ out, m.writable = true) :
    c.Hears written (queue ++ out) (sent ++ out) := by
  obtain ⟨pending, hunder, hsent⟩ := h.places
  refine ⟨h.carried, fun m hm => (List.mem_append.1 hm).elim (h.writable m) (hout m), pending,
    hunder, ?_⟩
  rw [hsent, List.append_assoc _ queue out]

/-- **An action of the client's own** at most takes a frame off what came in. -/
theorem act (h : c.Hears written queue sent) (hc : c.Follows) (ha : a.isOwn = true)
    (hup : (c.act a).guest.dialer.phase = .serving) : (c.act a).Hears written queue sent := by
  obtain ⟨n, up, hstands⟩ := hc.stands
  obtain ⟨pending, hunder, hsent⟩ := h.places
  rw [dialer_act] at hup
  obtain ⟨hserving, hdraw⟩ := Dialer.draw_step ha hstands hup
  refine ⟨h.carried, h.writable, ?_⟩
  rw [underWay, dialer_act, heard_act]
  have hcarried : (c.act a).carried = c.carried := rfl
  rw [hcarried]
  generalize Dialer.reports [a] c.guest.dialer = rs at hdraw ⊢
  cases hdraw with
  | still hunread hlate =>
    refine ⟨pending, by rw [hunread]; exact hunder, ?_⟩
    rw [List.filter_eq_nil_iff.2 fun r hr => by simp [hlate r hr]]
    exact hsent
  | taken frame rest hnext hunread =>
    -- What is taken is the message that has been under way the longest.
    obtain ⟨hframe, hbytes⟩ := nextFrame?_eq_some_iff.1 hnext
    rw [underWay, hbytes, List.append_assoc] at hunder
    have hfirst := nextFrame?_encode_append hframe (rest ++ written.drop c.carried)
    cases pending with
    | nil => exact absurd (List.append_eq_nil_iff.1 hunder).1 frame.encode_ne_nil
    | cons m pending =>
      have hm : m.writable = true := h.writable m (by simp [hsent])
      rw [hunder, List.flatMap_cons,
        nextFrame?_encode_append (Message.writable_iff.1 hm).1] at hfirst
      obtain ⟨rfl, hrest⟩ := Prod.mk.inj (Option.some.inj hfirst)
      refine ⟨pending, by rw [hunread]; exact hrest.symm, ?_⟩
      rw [(Message.writable_iff.1 hm).2, hsent]
      change c.heard ++ m :: pending ++ queue = c.heard ++ [m] ++ pending ++ queue
      simp

/-- More of what was written comes in. -/
theorem carry (h : c.Hears written queue sent) (hserving : c.guest.dialer.phase = .serving)
    (hc : c.Follows) (count : Nat) : (c.carry written count).Hears written queue sent := by
  obtain ⟨n, up, hstands⟩ := hc.stands
  obtain ⟨pending, hunder, hsent⟩ := h.places
  unfold Client.carry
  split
  · exact h
  · rename_i hopen
    have hunread := Dialer.unread_arrive hserving hstands hopen ((written.drop c.carried).take count)
    refine ⟨?_, h.writable, pending, ?_, hsent.trans ?_⟩
    · have hle := List.length_take_le' count (written.drop c.carried)
      have hcarried := h.carried
      rw [List.length_drop] at hle
      show c.carried + ((written.drop c.carried).take count).length ≤ written.length
      omega
    · rw [← hunder, underWay, underWay, dialer_act, hunread, List.append_assoc, ← List.drop_drop,
        List.prefix_iff_eq_append.1 (List.take_prefix count _)]
    · -- Nothing is reported of bytes that come in.
      have hheard (bytes : List UInt8) : (c.act (.arrive bytes)).heard = c.heard :=
        c.heard_act (.arrive bytes)
      rw [← hheard]
      rfl

/-- A client that is let in has heard nothing yet. -/
theorem enter (hc : c.Follows) (hdialing : c.guest.dialer.phase = .dialing)
    (entered? : Option Profile) : (c.enter entered?).Hears [] [] [] := by
  have hstep : c.guest.dialer.step .succeed = c.guest.dialer.succeed := by
    simp only [Dialer.step, if_pos hdialing]
  refine ⟨Nat.le_refl 0, fun m hm => absurd hm List.not_mem_nil, [], ?_, ?_⟩
  · have hunread : c.guest.dialer.succeed.1.unread = [] := by
      simp [Dialer.unread, Dialer.wire?, Dialer.succeed, Dialer.resetRetry]
    rw [underWay, Client.enter, dialer_act, hstep, hunread]
    rfl
  · have hheard : (c.enter entered?).heard = c.heard := by
      rw [show (c.enter entered?).heard = (c.act .succeed).heard from rfl, heard_act,
        Dialer.reports_singleton, hstep]
      rfl
    rw [hheard, hc.idle (by rw [hdialing]; decide)]
    rfl

end Hears

end Client

end Pursuit
