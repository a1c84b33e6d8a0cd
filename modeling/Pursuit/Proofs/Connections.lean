import Pursuit.Match.Guest
import Pursuit.Proofs.Mirror

/-! # The order of what a client reports

A connection is reported when it is up, then its messages, then its end, and only then comes the next
attempt. The one who could break this order is a reader that has been called off: it is not waited
for, and what it still reports comes after the end of its connection.

* **`Dialer.Report`, `Dialer.reports`** — the reports of a run, each with the connection that it is
  about, and whether its reader had been called off.
* **`Dialer.Orderly`** — the order in which reports are meant to come.
* **`Dialer.Passage`** — all that a step can do to the connections, and what it reports.
* **`Dialer.reports_orderly_iff`** — without late reports the order is kept, with any of them it is
  broken; and as long as it is kept, a client shows nothing between two connections.
* **`Dialer.reports_late`** — a run with a late report, which fills the game of a lost server. -/

namespace Pursuit

namespace Dialer

/-! ## Reports and their order -/

/-- A report of a client. -/
structure Report where
  /-- The connection that it is about; a failed attempt is about the one that did not come up. -/
  connection : Nat
  /-- Whether it comes from a reader that had been called off. -/
  late : Bool
  /-- What is reported. -/
  event : ClientEvent
deriving DecidableEq

/-- The connection that an action is about. -/
def Action.connection (d : Dialer) : Action → Nat
  | .fail _ | .succeed => d.wires.length
  | .linger i => i
  | _ => d.wires.length - 1

/-- Whether an action is that of a reader that has been called off. -/
def Action.isLate : Action → Bool
  | .linger _ => true
  | _ => false

/-- What is reported along a run. -/
def reports : List Action → Dialer → List Report
  | [], _ => []
  | a :: rest, d =>
    (d.step a).2.map (⟨a.connection d, a.isLate, ·⟩) ++ reports rest (d.step a).1

/-- The reports are those of the run, in their order. -/
theorem map_event_reports (actions : List Action) (d : Dialer) :
    (reports actions d).map (·.event) = (d.run actions).2 := by
  induction actions generalizing d with
  | nil => rfl
  | cons a actions ih => simp [reports, run, ih, Function.comp_def]

/-- **The order of reports**, from the connection with a number on, which may be up already: attempts
that failed, and connections that are established, tell their messages, and are closed. The list may
end anywhere. -/
inductive Orderly : Nat → Bool → List Report → Prop
  /-- Nothing more is reported. -/
  | nil {n : Nat} {up : Bool} : Orderly n up []
  /-- An attempt fails. -/
  | failed {n : Nat} {late : Bool} {rs : List Report} :
      Orderly n false rs → Orderly n false (⟨n, late, .failed⟩ :: rs)
  /-- The connection is up. -/
  | established {n : Nat} {late : Bool} {rs : List Report} :
      Orderly n true rs → Orderly n false (⟨n, late, .established⟩ :: rs)
  /-- A message comes in on the connection that is up. -/
  | received {n : Nat} {late : Bool} {rs : List Report} (m : Message) :
      Orderly n true rs → Orderly n true (⟨n, late, .received m⟩ :: rs)
  /-- The connection ends; the next has the next number. -/
  | closed {n : Nat} {late : Bool} {rs : List Report} (reason : CloseReason) :
      Orderly (n + 1) false rs → Orderly n true (⟨n, late, .closed reason⟩ :: rs)

/-- What comes before the rest is orderly as well. -/
theorem Orderly.of_append {n : Nat} {up : Bool} {before after : List Report}
    (h : Orderly n up (before ++ after)) : Orderly n up before := by
  induction before generalizing n up with
  | nil => exact .nil
  | cons r before ih =>
    cases h with
    | failed h => exact .failed (ih h)
    | established h => exact .established (ih h)
    | received m h => exact .received m (ih h)
    | closed reason h => exact .closed reason (ih h)

/-! ## What a step does to the connections -/

/-- **All that a step can do to the connections**, and what is reported of it. -/
inductive Passage (d e : Dialer) : List Report → Prop
  /-- No connection comes or goes, and nothing is reported. -/
  | quiet : (e.phase = .serving ↔ d.phase = .serving) → e.wires.length = d.wires.length →
      e.lingering ⊆ d.lingering → Passage d e []
  /-- An attempt fails. -/
  | failed : d.phase ≠ .serving → e.phase ≠ .serving → e.wires.length = d.wires.length →
      e.lingering ⊆ d.lingering → Passage d e [⟨d.wires.length, false, .failed⟩]
  /-- A new connection is up. -/
  | established : d.phase ≠ .serving → e.phase = .serving →
      e.wires.length = d.wires.length + 1 → e.lingering ⊆ d.lingering →
      Passage d e [⟨d.wires.length, false, .established⟩]
  /-- The reader of the connection that is up reports a message. -/
  | received (m : Message) : d.phase = .serving → e.phase = .serving →
      e.wires.length = d.wires.length → e.lingering ⊆ d.lingering →
      Passage d e [⟨d.wires.length - 1, false, .received m⟩]
  /-- The connection ends, and its reader may linger. -/
  | closed (reason : CloseReason) : d.phase = .serving → e.phase ≠ .serving →
      e.wires.length = d.wires.length → e.lingering ⊆ (d.wires.length - 1) :: d.lingering →
      Passage d e [⟨d.wires.length - 1, false, .closed reason⟩]
  /-- A reader that has been called off reports a message all the same. -/
  | late (i : Nat) (m : Message) : i ∈ d.lingering → (e.phase = .serving ↔ d.phase = .serving) →
      e.wires.length = d.wires.length → e.lingering ⊆ d.lingering →
      Passage d e [⟨i, true, .received m⟩]

section Passage

variable {d e : Dialer}

/-- What happens on the newest connection does not change what the client is doing. -/
@[simp] theorem phase_modifyWire (d : Dialer) (f : Wire → Wire) :
    (d.modifyWire f).phase = d.phase := by
  unfold modifyWire
  split <;> rfl

/-- What happens on the newest connection calls no reader off. -/
@[simp] theorem lingering_modifyWire (d : Dialer) (f : Wire → Wire) :
    (d.modifyWire f).lingering = d.lingering := by
  unfold modifyWire
  split <;> rfl

/-- What happens on the newest connection makes no new one. -/
@[simp] theorem length_wires_modifyWire (d : Dialer) (f : Wire → Wire) :
    (d.modifyWire f).wires.length = d.wires.length := by
  unfold modifyWire
  split
  · exact List.length_modify _ _ _
  · rfl

/-- A step that leaves the connections alone. -/
theorem Passage.of_eq (hphase : e.phase = d.phase) (hwires : e.wires.length = d.wires.length)
    (hlingering : e.lingering = d.lingering) : Passage d e [] :=
  .quiet (by rw [hphase]) hwires (by rw [hlingering]; exact List.Subset.refl _)

/-- What happens on the newest connection is quiet. -/
theorem passage_modifyWire (d : Dialer) (f : Wire → Wire) : Passage d (d.modifyWire f) [] :=
  .of_eq (phase_modifyWire d f) (length_wires_modifyWire d f) (lingering_modifyWire d f)

/-- Sending is quiet: a message is queued, and nothing is reported. -/
theorem passage_send (d : Dialer) (m : Message) : Passage d (d.send m).2 [] := by
  unfold send
  split <;> exact .of_eq rfl rfl rfl

/-- Posting an order is quiet until it is handled. -/
theorem passage_post (d : Dialer) (order : Order) : Passage d (d.post order) [] := by
  unfold post
  split <;> exact .of_eq rfl rfl rfl

/-- Giving the client up is quiet until that is handled. -/
theorem passage_release (d : Dialer) : Passage d d.release [] := by
  unfold release post
  split <;> exact .of_eq rfl rfl rfl

/-- Writing is quiet. -/
theorem passage_write (d : Dialer) : Passage d d.write [] := by
  unfold write
  split
  · exact .of_eq rfl rfl rfl
  · exact .of_eq (by simp) (by simp) (by simp)

/-- The end of a connection, whatever has become of the order that ended it. -/
theorem passage_hangUp (hserving : d.phase = .serving) (hwires : e.wires.length = d.wires.length)
    (hlingering : e.lingering = d.lingering) (reason : CloseReason) (next : Option Order) :
    Passage d (e.hangUp reason next).1
      ((e.hangUp reason next).2.map (⟨d.wires.length - 1, false, ·⟩)) := by
  refine .closed reason hserving (fun h => by cases h) hwires ?_
  unfold hangUp
  rw [hwires, hlingering]
  split
  · exact List.subset_cons_self _ _
  · exact List.Subset.refl _

/-- No order that is handled while no connection is up brings one up. -/
theorem passage_handleIdle (hphase : d.phase ≠ .serving) (hwires : e.wires = d.wires)
    (hlingering : e.lingering = d.lingering) (order : Order) :
    Passage d (e.handleIdle order) [] := by
  have hquiet {f : Dialer} (hf : f.phase ≠ .serving) (hw : f.wires = d.wires)
      (hl : f.lingering = d.lingering) : Passage d f [] :=
    .quiet (by simp [hf, hphase]) (by rw [hw]) (by rw [hl]; exact List.Subset.refl _)
  cases order with
  | connect address =>
    simp only [handleIdle, resetRetry, dial]
    exact hquiet (by simp) hwires hlingering
  | disconnect => exact hquiet (by simp [handleIdle]) hwires hlingering
  | reconnect =>
    simp only [handleIdle, resetRetry, dial]
    split <;> exact hquiet (by simp) hwires hlingering
  | shutDown => exact hquiet (by simp [handleIdle]) hwires hlingering

/-- Any order that comes while a connection is up ends it. -/
theorem passage_handleServing (hserving : d.phase = .serving)
    (hwires : e.wires.length = d.wires.length) (hlingering : e.lingering = d.lingering)
    (order : Order) :
    Passage d (e.handleServing order).1
      ((e.handleServing order).2.map (⟨d.wires.length - 1, false, ·⟩)) := by
  cases order <;> exact passage_hangUp hserving hwires hlingering _ _

/-- An order that is handled ends the connection that is up, or does nothing to any. -/
theorem passage_handle (d : Dialer) :
    Passage d d.handle.1 (d.handle.2.map (⟨d.wires.length - 1, false, ·⟩)) := by
  unfold handle
  split
  · exact .of_eq rfl rfl rfl
  · exact .of_eq rfl rfl rfl
  · rename_i order rest hserving _
    exact passage_handleServing (e := { d with orders := rest }) hserving rfl rfl order
  · exact .of_eq rfl rfl rfl
  · -- An order that ended a connection is handled when the connection is no longer up.
    rename_i order _ _ _ hcons hnil
    have hphase : d.phase ≠ .serving := fun hserving => by
      cases horders : d.orders with
      | nil => exact hnil hserving horders
      | cons o rest => exact hcons o rest hserving horders
    exact passage_handleIdle (e := { d with taken := none }) hphase rfl rfl order
  · rename_i order rest _ _ _ _ hphase
    exact passage_handleIdle (e := { d with orders := rest }) hphase rfl rfl order
  · exact .of_eq rfl rfl rfl

/-- An attempt that fails is reported, and nothing else. -/
theorem passage_fail (hphase : d.phase = .dialing) (c : Backoff.Chance) :
    Passage d (d.fail c).1 ((d.fail c).2.map (⟨d.wires.length, false, ·⟩)) := by
  have hserving : d.phase ≠ .serving := by rw [hphase]; decide
  have hfailed {f : Dialer} (hf : f.phase ≠ .serving) (hw : f.wires = d.wires)
      (hl : f.lingering = d.lingering) : Passage d f [⟨d.wires.length, false, .failed⟩] :=
    .failed hserving hf (by rw [hw]) (by rw [hl]; exact List.Subset.refl _)
  unfold fail
  split
  · exact hfailed (by simp) rfl rfl
  · exact .quiet (by simp [hserving]) rfl (List.Subset.refl _)
  · exact hfailed (by simp) rfl rfl
  · exact hfailed (by simp) rfl rfl

/-- An attempt that succeeds is reported as a new connection. -/
theorem passage_succeed (hphase : d.phase = .dialing) :
    Passage d d.succeed.1 (d.succeed.2.map (⟨d.wires.length, false, ·⟩)) :=
  .established (by rw [hphase]; decide) rfl (by simp [succeed, resetRetry])
    (by simp [succeed, resetRetry])

/-- A frame that is taken off a connection holds at most one message. -/
theorem readFrom_cases (d : Dialer) (i : Nat) :
    ∃ e, e.phase = d.phase ∧ e.wires.length = d.wires.length ∧ e.lingering = d.lingering ∧
      (d.readFrom i = (e, []) ∨ ∃ m, d.readFrom i = (e, [.received m])) := by
  unfold readFrom
  split
  · rename_i frame rest _
    refine ⟨{ d with wires := d.wires.modify i fun w => { w with incoming := rest } }, rfl,
      List.length_modify _ _ _, rfl, ?_⟩
    cases hcheck : frame.check with
    | ok m => exact .inr ⟨m, by simp [accepted, Except.toOption]⟩
    | error _ => exact .inl (by simp [accepted, Except.toOption])
  · exact ⟨d, rfl, rfl, rfl, .inl rfl⟩

/-- Reading reports messages of the connection that is up, or its end. -/
theorem passage_read (hserving : d.phase = .serving) :
    Passage d (d.readFrom (d.wires.length - 1)).1
      ((d.readFrom (d.wires.length - 1)).2.map (⟨d.wires.length - 1, false, ·⟩)) := by
  obtain ⟨e, hphase, hwires, hlingering, hread | ⟨m, hread⟩⟩ :=
    d.readFrom_cases (d.wires.length - 1)
  · rw [hread]
    exact .of_eq hphase hwires hlingering
  · rw [hread]
    exact .received m hserving (hphase.trans hserving) hwires
      (by rw [hlingering]; exact List.Subset.refl _)

/-- A reader that was called off may still report messages of its connection. -/
theorem passage_linger {i : Nat} (hi : i ∈ d.lingering) :
    Passage d (d.readFrom i).1 ((d.readFrom i).2.map (⟨i, true, ·⟩)) := by
  obtain ⟨e, hphase, hwires, hlingering, hread | ⟨m, hread⟩⟩ := d.readFrom_cases i
  · rw [hread]
    exact .of_eq hphase hwires hlingering
  · rw [hread]
    exact .late i m hi (by rw [hphase]) hwires (by rw [hlingering]; exact List.Subset.refl _)

/-- A write that breaks off ends the connection that is up. -/
theorem passage_breakOff (hserving : d.phase = .serving) (count : Nat) :
    Passage d (d.breakOff count).1
      ((d.breakOff count).2.map (⟨d.wires.length - 1, false, ·⟩)) := by
  unfold breakOff
  split
  · exact .of_eq rfl rfl rfl
  · split
    · refine passage_hangUp hserving ?_ ?_ _ _
      · rw [length_wires_modifyWire]
      · rw [lingering_modifyWire]
    · exact .of_eq rfl rfl rfl

/-- **What a step does to the connections** is one of these things. -/
theorem passage_step (a : Action) (d : Dialer) :
    Passage d (d.step a).1 ((d.step a).2.map (⟨a.connection d, a.isLate, ·⟩)) := by
  cases a with
  | post order => exact passage_post d order
  | send m => exact passage_send d m
  | handle => exact passage_handle d
  | resolve =>
    simp only [step]
    split <;> exact .of_eq rfl rfl rfl
  | fail c =>
    simp only [step]
    split
    · exact passage_fail ‹_› c
    · exact .of_eq rfl rfl rfl
  | succeed =>
    simp only [step]
    split
    · exact passage_succeed ‹_›
    · exact .of_eq rfl rfl rfl
  | retry =>
    -- The pause is over: the attempt begins, and no connection is touched.
    simp only [step]
    split
    · rename_i hphase
      unfold dial
      split <;> exact .quiet (by simp [hphase]) rfl (List.Subset.refl _)
    · exact .of_eq rfl rfl rfl
  | arrive bytes => exact passage_modifyWire d _
  | hangUp => exact passage_modifyWire d _
  | read =>
    simp only [step]
    split
    · exact passage_read ‹_›
    · exact .of_eq rfl rfl rfl
  | fault =>
    simp only [step]
    split
    · exact passage_hangUp ‹_› rfl rfl _ _
    · exact .of_eq rfl rfl rfl
  | lose =>
    simp only [step]
    split
    · -- The peer's hanging up is seen at the end of the bytes, so the connection is up.
      rename_i hend
      have hserving : d.phase = .serving := by
        by_contra hphase
        simp [atEnd, current?, hphase] at hend
      exact passage_hangUp hserving rfl rfl _ _
    · exact .of_eq rfl rfl rfl
  | write =>
    simp only [step]
    split
    · exact passage_write d
    · exact .of_eq rfl rfl rfl
  | «break» count =>
    simp only [step]
    split
    · exact passage_breakOff ‹_› count
    · exact .of_eq rfl rfl rfl
  | release => exact passage_release d
  | starve =>
    simp only [step]
    split
    · -- Nobody is left to send a message, which ends the connection like an order to stop.
      rename_i hstarved
      exact passage_hangUp hstarved.1 rfl rfl _ _
    · exact .of_eq rfl rfl rfl
  | linger i =>
    simp only [step]
    split
    · -- Only a reader that was called off and has not gone yet can still report.
      rename_i hi
      exact passage_linger (List.contains_iff_mem.1 hi)
    · exact .of_eq rfl rfl rfl
  | trickle i bytes =>
    simp only [step]
    split
    · exact .of_eq rfl (List.length_modify _ _ _) rfl
    · exact .of_eq rfl rfl rfl
  | vanish i => exact .quiet Iff.rfl rfl (List.erase_subset)

end Passage

/-! ## Runs -/

/-- How many connections have come to their end, whether one is up, and that the readers that linger
are those of connections that have. -/
structure Stands (n : Nat) (up : Bool) (d : Dialer) : Prop where
  /-- Whether a connection is up. -/
  phase : d.phase = .serving ↔ up = true
  /-- The connection that is up follows those that have come to their end. -/
  wires : d.wires.length = if up then n + 1 else n
  /-- The readers that linger are those of earlier connections. -/
  lingering : ∀ i ∈ d.lingering, i < n

section Stands

variable {n : Nat} {up : Bool} {d e : Dialer}

/-- Where no connection is up, all that there were have come to their end. -/
theorem Stands.of_down (h : d.Stands n up) (hdown : d.phase ≠ .serving) :
    up = false ∧ d.wires.length = n := by
  cases up with
  | false => exact ⟨rfl, h.wires⟩
  | true => exact absurd (h.phase.2 rfl) hdown

/-- Where a connection is up, all but the last have come to their end. -/
theorem Stands.of_up (h : d.Stands n up) (hup : d.phase = .serving) :
    up = true ∧ d.wires.length = n + 1 := by
  cases up with
  | false => exact absurd (h.phase.1 hup) Bool.false_ne_true
  | true => exact ⟨rfl, h.wires⟩

/-- Matters stand as they did if no connection comes or goes. -/
theorem Stands.stays (h : d.Stands n up) (hphase : e.phase = .serving ↔ d.phase = .serving)
    (hwires : e.wires.length = d.wires.length) (hlingering : e.lingering ⊆ d.lingering) :
    e.Stands n up :=
  ⟨hphase.trans h.phase, hwires.trans h.wires, fun i hi => h.lingering i (hlingering hi)⟩

/-- A new connection follows those that have come to their end. -/
theorem Stands.opened (h : d.Stands n false) (hup : e.phase = .serving)
    (hwires : e.wires.length = d.wires.length + 1) (hlingering : e.lingering ⊆ d.lingering) :
    e.Stands n true :=
  ⟨by simp [hup], by rw [hwires, h.wires]; rfl, fun i hi => h.lingering i (hlingering hi)⟩

/-- The reader of a connection that ends is one of those that may linger then. -/
theorem Stands.closed (h : d.Stands n true) (hdown : e.phase ≠ .serving)
    (hwires : e.wires.length = d.wires.length)
    (hlingering : e.lingering ⊆ (d.wires.length - 1) :: d.lingering) : e.Stands (n + 1) false := by
  refine ⟨by simp [hdown], hwires.trans h.wires, fun i hi => ?_⟩
  rcases List.mem_cons.1 (hlingering hi) with rfl | hi
  · rw [h.wires]
    exact Nat.lt_succ_self n
  · exact Nat.lt_succ_of_lt (h.lingering i hi)

/-- However matters stand, they stand in some such way after a step. -/
theorem Passage.exists_stands {rs : List Report} (hstep : Passage d e rs) (h : d.Stands n up) :
    ∃ n up, e.Stands n up := by
  cases hstep with
  | quiet hphase hwires hlingering => exact ⟨n, up, h.stays hphase hwires hlingering⟩
  | failed hdown hdown' hwires hlingering =>
    exact ⟨n, up, h.stays (iff_of_false hdown' hdown) hwires hlingering⟩
  | established hdown hup hwires hlingering =>
    obtain ⟨rfl, _⟩ := h.of_down hdown
    exact ⟨n, true, h.opened hup hwires hlingering⟩
  | received m hup hup' hwires hlingering =>
    exact ⟨n, up, h.stays (iff_of_true hup' hup) hwires hlingering⟩
  | closed reason hup hdown hwires hlingering =>
    obtain ⟨rfl, _⟩ := h.of_up hup
    exact ⟨n + 1, false, h.closed hdown hwires hlingering⟩
  | late i m _ hphase hwires hlingering => exact ⟨n, up, h.stays hphase hwires hlingering⟩

/-- **Without late reports, reports come in order.** A late one breaks the order, since it is not about
the connection that is up. -/
theorem Stands.orderly_reports (h : d.Stands n up) (actions : List Action) :
    Orderly n up ((reports actions d).filter (!·.late)) ∧
      (Orderly n up (reports actions d) → ∀ r ∈ reports actions d, r.late = false) := by
  -- The induction is on the actions; the step that comes first says how matters stand for the rest.
  induction actions generalizing n up d with
  | nil => exact ⟨.nil, fun _ r hr => absurd hr List.not_mem_nil⟩
  | cons a actions ih =>
    rw [reports]
    have hstep := passage_step a d
    generalize (d.step a).2.map (fun e => (⟨a.connection d, a.isLate, e⟩ : Report)) = rs at hstep ⊢
    cases hstep with
    | quiet hphase hwires hlingering => exact ih (h.stays hphase hwires hlingering)
    | failed hdown hdown' hwires hlingering =>
      obtain ⟨rfl, hn⟩ := h.of_down hdown
      obtain ⟨hrest, hlate⟩ := ih (h.stays (iff_of_false hdown' hdown) hwires hlingering)
      rw [hn]
      refine ⟨.failed hrest, fun ho => ?_⟩
      cases ho with
      | failed ho => exact List.forall_mem_cons.2 ⟨rfl, hlate ho⟩
    | established hdown hup hwires hlingering =>
      obtain ⟨rfl, hn⟩ := h.of_down hdown
      obtain ⟨hrest, hlate⟩ := ih (h.opened hup hwires hlingering)
      rw [hn]
      refine ⟨.established hrest, fun ho => ?_⟩
      cases ho with
      | established ho => exact List.forall_mem_cons.2 ⟨rfl, hlate ho⟩
    | received m hup hup' hwires hlingering =>
      obtain ⟨rfl, hn⟩ := h.of_up hup
      obtain ⟨hrest, hlate⟩ := ih (h.stays (iff_of_true hup' hup) hwires hlingering)
      rw [hn, Nat.add_sub_cancel]
      refine ⟨.received m hrest, fun ho => ?_⟩
      cases ho with
      | received _ ho => exact List.forall_mem_cons.2 ⟨rfl, hlate ho⟩
    | closed reason hup hdown hwires hlingering =>
      obtain ⟨rfl, hn⟩ := h.of_up hup
      obtain ⟨hrest, hlate⟩ := ih (h.closed hdown hwires hlingering)
      rw [hn, Nat.add_sub_cancel]
      refine ⟨.closed reason hrest, fun ho => ?_⟩
      cases ho with
      | closed _ ho => exact List.forall_mem_cons.2 ⟨rfl, hlate ho⟩
    | late i m hi hphase hwires hlingering =>
      obtain ⟨hrest, hlate⟩ := ih (h.stays hphase hwires hlingering)
      refine ⟨hrest, fun ho => ?_⟩
      have hlt := h.lingering i hi
      cases ho with
      | received _ ho => exact absurd hlt (Nat.lt_irrefl _)

end Stands

/-- A client that begins has had no connection. -/
theorem stands_new (retry : Option Backoff.Policy) : (Dialer.new retry).Stands 0 false where
  phase := by simp [new]
  wires := rfl
  lingering := fun i hi => absurd hi List.not_mem_nil

/-- Whether a report is the end of a connection or of an attempt at one. -/
def Report.ends (r : Report) : Bool :=
  match r.event with
  | .failed | .closed _ => true
  | .established | .received _ => false

/-- The last report of a list is the last of those behind the first, unless there are none. -/
theorem ends_of_cons {r : Report} {rs : List Report}
    (h : (r :: rs).getLast?.all Report.ends = true) :
    rs.getLast?.all Report.ends = true ∧ (rs = [] → r.ends = true) := by
  cases hlast : rs.getLast? with
  | none =>
    rw [List.getLast?_eq_none_iff] at hlast
    subst hlast
    exact ⟨rfl, fun _ => h⟩
  | some l =>
    rw [List.getLast?_cons, hlast] at h
    refine ⟨h, fun hnil => ?_⟩
    rw [hnil] at hlast
    cases hlast

end Dialer

/-! ## What a client shows -/

namespace Guest

/-- A client that follows what it is told. -/
structure Listens (game : Game) (g : Guest) : Prop where
  /-- Its game follows. -/
  mirrors : g.station.Mirrors game
  /-- The end of a connection takes the game away. -/
  tidies : g.tidies = true

/-- A client that shows nothing: no piece, no obstacle, and no player that it is. -/
def ShowsNothing (g : Guest) : Prop :=
  ∃ game, g.game? = some game ∧ game.pieces = [] ∧ game.obstacles = [] ∧ game.ownPlayer = .none

variable {g : Guest} {game : Game}

/-- A client that begins follows what it is told. -/
theorem listens_new (settings : DialerSettings) (rules : Rules) :
    (new settings rules).Listens { rules, link := .client, feeders := [1, 2, 3] } :=
  ⟨.of_follower rfl rules, rfl⟩

/-- A client that begins shows nothing. -/
theorem showsNothing_new (settings : DialerSettings) (rules : Rules) :
    (new settings rules).ShowsNothing :=
  ⟨_, rfl, rfl, rfl, rfl⟩

/-- Whatever is reported, the client goes on following. -/
theorem Listens.exists_handle (h : g.Listens game) (e : ClientEvent) :
    ∃ game', (g.handle e).Listens game' := by
  cases e with
  | received m =>
    obtain ⟨game', hmirrors, _⟩ := h.mirrors.exists_receive m .fromServer
    exact ⟨game', hmirrors, h.tidies⟩
  | closed reason =>
    refine ⟨{ game.cleared with ownPlayer := .none }, ?_⟩
    rw [handle, if_pos h.tidies]
    exact ⟨h.mirrors.leave, h.tidies⟩
  | established => exact ⟨game, h⟩
  | failed => exact ⟨game, h⟩

/-- The end of a connection takes everything away. -/
theorem Listens.showsNothing_closed (h : g.Listens game) (reason : CloseReason) :
    (g.handle (.closed reason)).ShowsNothing := by
  rw [handle, if_pos h.tidies]
  exact ⟨_, h.mirrors.leave.wired.game, rfl, rfl, rfl⟩

/-- **Between two connections a client shows nothing**, if what it was told came in order. -/
theorem Listens.showsNothing_of_orderly (h : g.Listens game) {n : Nat} {up : Bool}
    {rs : List Dialer.Report} (ho : Dialer.Orderly n up rs)
    (hdown : up = false → g.ShowsNothing) (hup : rs = [] → up = false)
    (hends : rs.getLast?.all Dialer.Report.ends = true) :
    (rs.foldl (fun g r => g.handle r.event) g).ShowsNothing := by
  -- While a connection is up more must follow, for the last report is an end.
  induction ho generalizing g game with
  | nil => exact hdown (hup rfl)
  | failed _ ih =>
    obtain ⟨hrest, _⟩ := Dialer.ends_of_cons hends
    exact ih h hdown (fun _ => rfl) hrest
  | established _ ih =>
    obtain ⟨hrest, hlast⟩ := Dialer.ends_of_cons hends
    exact ih h (fun hup => by cases hup)
      (fun hnil => absurd (hlast hnil) (by simp [Dialer.Report.ends])) hrest
  | received m _ ih =>
    obtain ⟨hrest, hlast⟩ := Dialer.ends_of_cons hends
    obtain ⟨game', h'⟩ := h.exists_handle (.received m)
    exact ih h' (fun hup => by cases hup)
      (fun hnil => absurd (hlast hnil) (by simp [Dialer.Report.ends])) hrest
  | closed reason _ ih =>
    obtain ⟨hrest, _⟩ := Dialer.ends_of_cons hends
    obtain ⟨game', h'⟩ := h.exists_handle (.closed reason)
    exact ih h' (fun _ => h.showsNothing_closed reason) (fun _ => rfl) hrest

end Guest

/-! ## The order of a whole run -/

namespace Dialer

/-- **Reports come in order, as long as no reader that was called off reports a message.** Leaving the
late reports out, every connection is established, tells its messages, and is closed, before the next
attempt is reported. Any late report breaks this order. And up to the first of them, a client shows
nothing from the end of a connection until the next is established. -/
theorem reports_orderly_iff (settings : DialerSettings) (actions : List Action) :
    Orderly 0 false ((reports actions (new settings.retry)).filter (!·.late)) ∧
      (Orderly 0 false (reports actions (new settings.retry)) ↔
        ∀ r ∈ reports actions (new settings.retry), r.late = false) ∧
      ∀ (rules : Rules) (before after : List Report),
        reports actions (new settings.retry) = before ++ after → (∀ r ∈ before, r.late = false) →
        before.getLast?.all Report.ends = true →
          (before.foldl (fun g r => g.handle r.event) (Guest.new settings rules)).ShowsNothing := by
  have hstands := stands_new settings.retry
  obtain ⟨htimely, hlate⟩ := hstands.orderly_reports actions
  refine ⟨htimely, ⟨hlate, fun h => ?_⟩, fun rules before after hsplit hbefore hends => ?_⟩
  · rwa [List.filter_eq_self.2 fun r hr => by simp [h r hr]] at htimely
  · -- What comes before the first late report is in order.
    rw [hsplit, List.filter_append, List.filter_eq_self.2 fun r hr => by simp [hbefore r hr]]
      at htimely
    exact (Guest.listens_new settings rules).showsNothing_of_orderly htimely.of_append
      (fun _ => Guest.showsNothing_new settings rules) (fun _ => rfl) hends

/-- A client hears of a piece and is told to disconnect: the reports come in order, and at their end it
shows nothing. -/
theorem reports_orderly_disconnected :
    let m : Message := ⟨⟨⟨3⟩, .gameUnit, 14⟩, List.replicate 14 0⟩
    let actions : List Action := [.post (.connect "server"), .handle, .resolve, .succeed,
      .arrive m.encode, .read, .post .disconnect, .handle]
    let rs := reports actions (new none)
    rs.map (·.event) = [.established, .received m, .closed .disconnected] ∧
      (∀ r ∈ rs, r.late = false) ∧ rs.getLast?.all Report.ends = true ∧
      (rs.foldl (fun g r => g.handle r.event) (Guest.new {} {})).ShowsNothing := by
  intro m actions rs
  have hrs : rs = [⟨0, false, .established⟩, ⟨0, false, .received m⟩,
      ⟨0, false, .closed .disconnected⟩] := by decide +kernel
  have htimely : ∀ r ∈ rs, r.late = false := by
    rw [hrs]
    simp
  have hends : rs.getLast?.all Report.ends = true := by
    rw [hrs]
    rfl
  exact ⟨by rw [hrs]; rfl, htimely, hends, (reports_orderly_iff {} actions).2.2 {} rs []
    (List.append_nil rs).symm htimely hends⟩

/-- A client is told to disconnect while its reader has a message in hand. The message is reported
after the end of the connection, and the client shows a piece although it has lost the server. -/
theorem reports_late :
    let m : Message := ⟨⟨⟨3⟩, .gameUnit, 14⟩, List.replicate 14 0⟩
    let actions : List Action := [.post (.connect "server"), .handle, .resolve, .succeed,
      .arrive m.encode, .post .disconnect, .handle, .linger 0]
    let rs := reports actions (new none)
    rs.map (·.event) = [.established, .closed .disconnected, .received m] ∧
      ¬ Orderly 0 false rs ∧
      ¬ (rs.foldl (fun g r => g.handle r.event) (Guest.new {} {})).ShowsNothing := by
  intro m actions rs
  -- The reader still held the message when the connection was closed.
  have hrs : rs = [⟨0, false, .established⟩, ⟨0, false, .closed .disconnected⟩,
      ⟨0, true, .received m⟩] := by decide +kernel
  refine ⟨by rw [hrs]; rfl, fun h => ?_, fun ⟨game, hgame, hpieces, _⟩ => ?_⟩
  · rw [hrs] at h
    cases h with
    | established h =>
      cases h with
      | closed _ h => cases h
  · -- The message puts a piece into the game that had been emptied at the close.
    have hshown : ((rs.foldl (fun g r => g.handle r.event) (Guest.new {} {})).game?.map
        (·.pieces.length)) = some 1 := by
      rw [hrs]
      decide +kernel
    rw [hgame, Option.map_some, hpieces] at hshown
    cases hshown

end Dialer

end Pursuit
