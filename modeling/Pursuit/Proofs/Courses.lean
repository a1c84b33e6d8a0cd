import Mathlib.Tactic.ByContra
import Pursuit.Connection.Dialer

/-! # What a step does to attempts

An attempt to connect begins with an order or when its time has come, and ends with a connection or
without; an order that is handled in between begins another or puts an end to it.

* **`Backoff.next_cases`** — what a schedule grants, by the retries that are left.
* **`Dialer.Sight`, `Dialer.sights`** — what is seen of an action: the order that is handled, the
  attempt that begins, and the report about a connection with the state that is shown by then.
* **`Dialer.Sound`** — the phase tells the state that is shown, and needs an address.
* **`Dialer.Course`** — all that a step can do to attempts. **`Dialer.course_step`** says that there is
  nothing else. -/

namespace Pursuit

namespace Backoff

/-- How many retries are left. -/
def left (b : Backoff) : Nat := b.policy.maxAttempts.toNat - b.attempts.toNat

/-- A retry that is granted is one of those that were left; when it is refused none was. -/
theorem next_cases (c : Chance) (b : Backoff) :
    b.next c = (.exhausted, b) ∧ b.left = 0 ∨
      (∃ delay b', b.next c = (.wait delay, b') ∧ b'.policy = b.policy ∧ b'.left + 1 = b.left) ∨
      ∃ b', b.next c = (.unrepresentable, b') ∧ b'.policy = b.policy := by
  by_cases hused : b.policy.maxAttempts ≤ b.attempts
  · exact .inl ⟨next_of_exhausted c hused, Nat.sub_eq_zero_of_le (UInt32.le_iff_toNat_le.1 hused)⟩
  · have hleft : (b.attempts + 1).toNat = b.attempts.toNat + 1 ∧
        b.attempts.toNat < b.policy.maxAttempts.toNat := by
      have hlt := b.policy.maxAttempts.toNat_lt
      rw [UInt32.le_iff_toNat_le] at hused
      rw [UInt32.toNat_add, UInt32.toNat_one]
      omega
    have hpolicy := policy_next c b
    rw [next, if_neg hused] at hpolicy ⊢
    refine .inr ?_
    split
    · refine .inl ⟨_, _, rfl, rfl, ?_⟩
      simp only [left]
      omega
    · exact .inr ⟨_, rfl, rfl⟩

end Backoff

/-- Whether a report is of a message, and not about a connection. -/
def ClientEvent.isMessage : ClientEvent → Bool
  | .received _ => true
  | _ => false

namespace Dialer

/-! ## What is seen -/

/-- What is seen of a client. -/
inductive Sight where
  /-- An order has been handled. -/
  | handled (order : Order)
  /-- An attempt to connect begins. -/
  | attempt (address : String)
  /-- Something is reported about a connection, and this state is shown by then. -/
  | reported (e : ClientEvent) (state : ConnectionState)
deriving DecidableEq

/-- Whether an order asks for a connection. -/
def Order.calls : Order → Bool
  | .connect _ | .reconnect => true
  | .disconnect | .shutDown => false

/-- The address that an order leads to, if it is known. -/
def target? (d : Dialer) : Order → Option String
  | .connect address => some address
  | .reconnect => d.address
  | .disconnect | .shutDown => none

/-- The order that would be handled next and be done with. While a connection is up, any other than
to disconnect only ends it and is handled after that. -/
def due? (d : Dialer) : Option Order :=
  match d.phase with
  | .dialing | .stopped => none
  | .serving => d.orders.head?.filter (· = .disconnect)
  | .waiting | .pausing _ => d.taken <|> d.orders.head?

/-- The order that an action handles and is done with. -/
def Action.handles? (d : Dialer) : Action → Option Order
  | .handle => d.due?
  | _ => none

/-- The address of the attempt that begins when one client becomes another. -/
def begins? (d e : Dialer) : Option String :=
  if d.phase ≠ .dialing ∧ e.phase = .dialing then e.address else none

/-- What is seen of an action. -/
def sights (a : Action) (d : Dialer) : List Sight :=
  let (e, events) := d.step a
  (a.handles? d).toList.map .handled ++ (d.begins? e).toList.map .attempt ++
    (events.filter (!·.isMessage)).map (.reported · e.state)

/-- How many retries are left. -/
def left (d : Dialer) : Nat := (d.retry.map Backoff.left).getD 0

/-- Whether somebody asks for something, or an attempt succeeds. -/
def Action.intervenes : Action → Bool
  | .post _ | .release | .succeed => true
  | _ => false

/-- Whether an attempt fails and the delay before the next is no length of time, which is the end of
the task. -/
def Action.breaksDown (d : Dialer) : Action → Prop
  | .fail c => d.phase = .dialing ∧ ∃ b ∈ d.retry, (b.next c).1 = .unrepresentable
  | _ => False

/-! ## What a step does to attempts -/

/-- The state that is shown in a phase. -/
def Phase.Shows : Phase → ConnectionState → Prop
  | .waiting, s => s = .idle
  | .dialing, s => s = .resolving ∨ s = .connecting
  | .pausing _, s => s = .retrying
  | .serving, s => s = .connected
  | .stopped, s => s ≠ .retrying

/-- The phase and what goes with it. -/
structure Sound (retry : Option Backoff.Policy) (d : Dialer) : Prop where
  /-- The state that is shown is that of the phase. -/
  shows : d.phase.Shows d.state
  /-- Without an address there is no attempt, and nothing that comes of one. -/
  address : d.address = none → d.phase = .waiting ∨ d.phase = .stopped
  /-- The policy stays. -/
  policy : d.retry.map (·.policy) = retry

/-- **All that a step can do to attempts**, and what is seen of it. -/
inductive Course (d : Dialer) : Action → Dialer → List Sight → Prop
  /-- Nothing, but that something is posted, or that the address has been found. -/
  | quiet {a : Action} {e : Dialer} : e.phase = d.phase →
      (e.state = d.state ∨ d.phase = .dialing ∧ e.state = .connecting) →
      e.address = d.address → e.taken = d.taken → (a.intervenes = false → e.orders = d.orders) →
      e.retry = d.retry → Course d a e []
  /-- The time of the next attempt has come. -/
  | retried {delay : Duration} {address : String} : d.phase = .pausing delay →
      d.address = some address →
      Course d .retry { d with phase := .dialing, state := .resolving } [.attempt address]
  /-- The attempt fails, and there is another one. -/
  | failed {c : Backoff.Chance} {b : Backoff} {delay : Duration} : d.phase = .dialing →
      b.left + 1 = d.left → d.retry.map (·.policy) = some b.policy →
      Course d (.fail c) { d with retry := some b, phase := .pausing delay, state := .retrying }
        [.reported .failed .retrying]
  /-- The attempt fails, and it was the last one. -/
  | exhausted {c : Backoff.Chance} : d.phase = .dialing → d.left = 0 →
      Course d (.fail c) { d with phase := .waiting, state := .idle } [.reported .failed .idle]
  /-- The attempt fails, and the delay is no length of time. -/
  | brokenDown {c : Backoff.Chance} {b : Backoff} : (Action.fail c).breaksDown d →
      d.retry.map (·.policy) = some b.policy →
      Course d (.fail c) { d with retry := some b, phase := .stopped } []
  /-- The attempt succeeds. -/
  | established : d.phase = .dialing →
      Course d .succeed d.succeed.1 [.reported .established .connected]
  /-- The connection ends. -/
  | closed {a : Action} {e : Dialer} (reason : CloseReason) : d.phase = .serving →
      e.phase = .waiting → e.state = .idle → e.address = d.address → e.retry = d.retry →
      Course d a e [.reported (.closed reason) .idle]
  /-- The connection ends, as it was asked for. -/
  | disconnected {e : Dialer} : d.phase = .serving → e.phase = .waiting →
      e.state = .idle → e.address = d.address → e.retry = d.retry →
      Course d .handle e [.handled .disconnect, .reported (.closed .disconnected) .idle]
  /-- A connection is asked for. -/
  | called {e : Dialer} {order : Order} {address : String} : d.due? = some order →
      d.target? order = some address → order.calls = true → e.phase = .dialing →
      e.state = .resolving → e.address = some address → e.taken = none →
      e.retry = d.retry.map Backoff.reset →
      Course d .handle e [.handled order, .attempt address]
  /-- The last connection is asked for again, and there was none. -/
  | nowhere {e : Dialer} : d.due? = some .reconnect → d.address = none → e.phase = .waiting →
      e.state = .idle → e.address = none → e.retry = d.retry.map Backoff.reset →
      Course d .handle e [.handled .reconnect]
  /-- There is no connection to end, but perhaps a retry that is not to be. -/
  | cancelled {e : Dialer} : d.due? = some .disconnect → e.phase = .waiting → e.state = .idle →
      e.address = d.address → e.retry = d.retry → Course d .handle e [.handled .disconnect]
  /-- The task is told to stop. -/
  | stopped {e : Dialer} : d.due? = some .shutDown → e.phase = .stopped → e.state = .closed →
      e.address = d.address → e.retry = d.retry → Course d .handle e [.handled .shutDown]

section Course

variable {retry : Option Backoff.Policy} {d e : Dialer} {a : Action}

/-- No attempt begins where the task does not go on to dial. -/
theorem begins?_of_ne (h : e.phase ≠ .dialing) : d.begins? e = none :=
  if_neg fun hphases => h hphases.2

/-- A step that leaves attempts alone and reports messages at most. -/
theorem Course.of_quiet {orders : List Order} {queue : List Message} {wires : List Wire}
    {lingering : List Nat} {released : Bool} {events : List ClientEvent}
    (hstep : d.step a =
      ({ d with
          orders := orders, queue := queue, wires := wires, lingering := lingering
          released := released }, events))
    (hevents : ∀ ev ∈ events, ev.isMessage = true) (hhandles : a.handles? d = none)
    (horders : a.intervenes = false → orders = d.orders) :
    Course d a (d.step a).1 (d.sights a) := by
  have hfilter : events.filter (!·.isMessage) = [] := by simpa using hevents
  have hsights : d.sights a = [] := by
    simp [sights, hstep, hhandles, begins?, hfilter]
  rw [hsights, hstep]
  exact .quiet rfl (.inl rfl) rfl rfl horders rfl

/-- A step that does nothing. -/
theorem Course.of_idle (hstep : d.step a = (d, [])) (hhandles : a.handles? d = none) :
    Course d a (d.step a).1 (d.sights a) :=
  .of_quiet hstep (by simp) hhandles (fun _ => rfl)

/-- Posting an order changes nothing but the orders. -/
theorem exists_post (d : Dialer) (order : Order) :
    ∃ orders, d.post order = { d with orders := orders } := by
  unfold post
  split
  · exact ⟨d.orders, rfl⟩
  · exact ⟨_, rfl⟩

/-- Sending a message changes nothing but the queue. -/
theorem exists_send (d : Dialer) (m : Message) :
    ∃ queue, (d.send m).2 = { d with queue := queue } := by
  unfold send
  split
  · exact ⟨d.queue, rfl⟩
  · exact ⟨_, rfl⟩

/-- What happens on the newest connection changes nothing but the connections. -/
theorem exists_modifyWire (d : Dialer) (f : Wire → Wire) :
    ∃ ws, d.modifyWire f = { d with wires := ws } := by
  unfold modifyWire
  split
  · exact ⟨_, rfl⟩
  · exact ⟨d.wires, rfl⟩

/-- Reading touches nothing but what has come in, and reports nothing but messages. -/
theorem exists_readFrom (d : Dialer) (i : Nat) :
    ∃ ws events, d.readFrom i = ({ d with wires := ws }, events) ∧
      ∀ ev ∈ events, ev.isMessage = true := by
  unfold readFrom
  split
  · refine ⟨_, _, rfl, fun ev hev => ?_⟩
    obtain ⟨m, _, rfl⟩ := List.mem_map.1 hev
    rfl
  · exact ⟨d.wires, [], rfl, by simp⟩

/-- Writing changes nothing but the connections and the queue. -/
theorem exists_write (d : Dialer) :
    ∃ ws queue, d.write = { d with wires := ws, queue := queue } := by
  unfold write
  split
  · exact ⟨d.wires, d.queue, rfl⟩
  · rename_i m rest _
    obtain ⟨ws, hws⟩ := exists_modifyWire { d with queue := rest }
      (·.put ((writeMessage m).toOption.getD []))
    exact ⟨ws, rest, hws⟩

/-- The end of a connection that is not the end of an order. -/
theorem Course.of_closed {f : Dialer} {reason : CloseReason} {next : Option Order}
    (hstep : d.step a = f.hangUp reason next) (hhandles : a.handles? d = none)
    (hserving : d.phase = .serving) (haddress : f.address = d.address)
    (hretry : f.retry = d.retry) : Course d a (d.step a).1 (d.sights a) := by
  have hsights : d.sights a = [.reported (.closed reason) .idle] := by
    simp [sights, hstep, hhandles, begins?, Dialer.hangUp, ClientEvent.isMessage]
  rw [hsights, hstep]
  exact .closed reason hserving rfl rfl haddress hretry

/-- Where no connection is up and none is tried, the next order is one that has been taken, or else the
first of those that wait. -/
theorem due?_of_idle (hserving : d.phase ≠ .serving) (hdialing : d.phase ≠ .dialing)
    (hstopped : d.phase ≠ .stopped) : d.due? = (d.taken <|> d.orders.head?) := by
  unfold due?
  split
  · contradiction
  · contradiction
  · contradiction
  · rfl
  · rfl

/-- An order that is handled while no connection is up is taken out of those that wait. -/
theorem handle_of_due {order : Order} (hdue : d.due? = some order) (hserving : d.phase ≠ .serving) :
    ∃ orders, d.handle = ({ d with taken := none, orders := orders }.handleIdle order, []) := by
  have hdialing : d.phase ≠ .dialing := fun h => by simp [due?, h] at hdue
  have hstopped : d.phase ≠ .stopped := fun h => by simp [due?, h] at hdue
  rw [due?_of_idle hserving hdialing hstopped] at hdue
  unfold handle
  split
  · contradiction
  · contradiction
  · contradiction
  · contradiction
  · -- The order has been taken out of the queue already.
    rename_i htaken _ _ _ _
    rw [htaken] at hdue
    cases hdue
    exact ⟨d.orders, rfl⟩
  · -- It is the first of those that wait.
    rename_i htaken horders _ _ _
    rw [htaken, horders] at hdue
    cases hdue
    exact ⟨_, by rw [← htaken]⟩
  · rename_i htaken horders _ _ _
    rw [htaken, horders] at hdue
    cases hdue

/-- Where no order is due and no connection is up, there is nothing to handle. -/
theorem handle_of_not_due (hdue : d.due? = none) (hserving : d.phase ≠ .serving) :
    d.handle = (d, []) := by
  unfold handle
  split
  · rfl
  · rfl
  · contradiction
  · contradiction
  · rename_i htaken hdialing hstopped _ _
    rw [due?_of_idle hserving hdialing hstopped, htaken] at hdue
    cases hdue
  · rename_i htaken horders hdialing hstopped _
    rw [due?_of_idle hserving hdialing hstopped, htaken, horders] at hdue
    cases hdue
  · rfl

/-- What is seen when an order is handled while no connection is up. -/
theorem sights_handle {order : Order} (hdue : d.due? = some order) (hhandle : d.handle = (e, [])) :
    d.sights .handle = .handled order :: (d.begins? e).toList.map .attempt := by
  simp [sights, step, hhandle, Action.handles?, hdue]

/-- What becomes of an order that is handled while no connection is up. -/
theorem course_handleIdle (h : d.Sound retry) {order : Order} (hdue : d.due? = some order)
    (hphase : d.phase ≠ .serving) : Course d .handle (d.step .handle).1 (d.sights .handle) := by
  have hdialing : d.phase ≠ .dialing := fun hdialing => by simp [due?, hdialing] at hdue
  obtain ⟨orders, hhandle⟩ := handle_of_due hdue hphase
  rw [sights_handle hdue hhandle]
  simp only [step, hhandle]
  cases order with
  | connect address =>
    have hbegins : d.begins? (handleIdle { d with taken := none, orders := orders }
        (.connect address)) = some address := by
      simp [begins?, hdialing, handleIdle, resetRetry, dial]
    rw [hbegins]
    exact .called hdue rfl rfl rfl rfl rfl rfl rfl
  | disconnect =>
    rw [begins?_of_ne (by simp [handleIdle])]
    exact .cancelled hdue rfl rfl rfl rfl
  | reconnect =>
    -- To connect again leads nowhere before the first address is known.
    obtain haddress | ⟨address, haddress⟩ := Option.eq_none_or_eq_some d.address
    · have hwaiting : d.phase = .waiting := (h.address haddress).resolve_right fun hstopped => by
        simp [due?, hstopped] at hdue
      have hidle : d.state = .idle := by
        have hshows := h.shows
        rwa [hwaiting] at hshows
      rw [begins?_of_ne (by simp [handleIdle, resetRetry, dial, haddress])]
      refine .nowhere hdue haddress ?_ ?_ ?_ ?_ <;>
        simp [handleIdle, resetRetry, dial, haddress, hidle]
    · have hbegins : d.begins? (handleIdle { d with taken := none, orders := orders }
          .reconnect) = some address := by
        simp [begins?, hdialing, handleIdle, resetRetry, dial, haddress]
      rw [hbegins]
      refine .called hdue haddress rfl ?_ ?_ ?_ ?_ ?_ <;>
        simp [handleIdle, resetRetry, dial, haddress]
  | shutDown =>
    rw [begins?_of_ne (by simp [handleIdle])]
    exact .stopped hdue rfl rfl rfl rfl

/-- To handle an order takes one of the courses, if no connection is up. -/
theorem course_handle (h : d.Sound retry) (hserving : d.phase ≠ .serving) :
    Course d .handle (d.step .handle).1 (d.sights .handle) := by
  cases hdue : d.due? with
  | some order => exact course_handleIdle h hdue hserving
  | none => exact .of_idle (by simp [step, handle_of_not_due hdue hserving]) hdue

/-- What becomes of an order that comes while a connection is up. -/
theorem course_handleServing (hserving : d.phase = .serving) :
    Course d .handle (d.step .handle).1 (d.sights .handle) := by
  cases horders : d.orders with
  | nil =>
    have hhandle : d.handle = (d, []) := by simp [handle, hserving, horders]
    exact .of_idle (by simp [step, hhandle]) (by simp [Action.handles?, due?, hserving, horders])
  | cons order rest =>
    have hhandle : d.step .handle = { d with orders := rest }.handleServing order := by
      simp [step, handle, hserving, horders]
    -- Any other order only ends the connection here, and is handled when that is down.
    have hhandles : order ≠ .disconnect → Action.handle.handles? d = none := fun hne => by
      simp [Action.handles?, due?, hserving, horders, hne]
    cases order with
    | disconnect =>
      have hdue : d.due? = some .disconnect := by simp [due?, hserving, horders]
      have hsights : d.sights .handle =
          [.handled .disconnect, .reported (.closed .disconnected) .idle] := by
        simp [sights, hhandle, handleServing, Dialer.hangUp, Action.handles?, hdue, begins?,
          ClientEvent.isMessage]
      rw [hsights, hhandle]
      exact .disconnected hserving rfl rfl rfl rfl
    | connect address =>
      exact .of_closed hhandle (hhandles (by simp)) hserving rfl rfl
    | reconnect => exact .of_closed hhandle (hhandles (by simp)) hserving rfl rfl
    | shutDown => exact .of_closed hhandle (hhandles (by simp)) hserving rfl rfl

/-- An attempt that fails is the last one, or there is another, or the task breaks down. -/
theorem fail_cases (d : Dialer) (c : Backoff.Chance) :
    d.left = 0 ∧ d.fail c = ({ d with phase := .waiting, state := .idle }, [.failed]) ∨
      (∃ b delay, b.left + 1 = d.left ∧ d.retry.map (·.policy) = some b.policy ∧ d.fail c =
        ({ d with retry := some b, phase := .pausing delay, state := .retrying }, [.failed])) ∨
      ∃ b b', d.retry = some b ∧ (b.next c).1 = .unrepresentable ∧ b'.policy = b.policy ∧
        d.fail c = ({ d with retry := some b', phase := .stopped }, []) := by
  obtain hretry | ⟨b, hretry⟩ := Option.eq_none_or_eq_some d.retry
  · exact .inl ⟨by simp [left, hretry], by simp [fail, hretry]⟩
  · obtain ⟨hnext, hleft⟩ | ⟨delay, b', hnext, hpolicy, hleft⟩ | ⟨b', hnext, hpolicy⟩ :=
      b.next_cases c
    · exact .inl ⟨by simp [left, hretry, hleft], by simp [fail, hretry, hnext]⟩
    · exact .inr (.inl ⟨b', delay, by simp [left, hretry, hleft], by simp [hretry, hpolicy],
        by simp [fail, hretry, hnext]⟩)
    · exact .inr (.inr ⟨b, b', hretry, by rw [hnext], hpolicy, by simp [fail, hretry, hnext]⟩)

/-- An attempt that fails takes one of the courses. -/
theorem course_fail (c : Backoff.Chance) (hdialing : d.phase = .dialing) :
    Course d (.fail c) (d.step (.fail c)).1 (d.sights (.fail c)) := by
  have hstep : d.step (.fail c) = d.fail c := by simp [step, hdialing]
  have hsights {f : Dialer} {events : List ClientEvent} (hfail : d.fail c = (f, events)) :
      d.sights (.fail c) = (events.filter (!·.isMessage)).map (.reported · f.state) := by
    simp [sights, hstep, hfail, Action.handles?, begins?, hdialing]
  obtain ⟨hleft, hfail⟩ | ⟨b, delay, hleft, hpolicy, hfail⟩ |
    ⟨b, b', hretry, hnext, hpolicy, hfail⟩ := d.fail_cases c
  · rw [hsights hfail, hstep, hfail]
    exact .exhausted hdialing hleft
  · rw [hsights hfail, hstep, hfail]
    exact .failed hdialing hleft hpolicy
  · rw [hsights hfail, hstep, hfail]
    exact .brokenDown ⟨hdialing, b, hretry, hnext⟩ (by simp [hretry, hpolicy])

/-- What becomes of a connection when a message cannot be written. -/
theorem course_breakOff (count : Nat) (hserving : d.phase = .serving) :
    Course d (.break count) (d.step (.break count)).1 (d.sights (.break count)) := by
  have hstep : d.step (.break count) = d.breakOff count := by simp [step, hserving]
  cases hqueue : d.queue with
  | nil => exact .of_idle (by simp [hstep, breakOff, hqueue]) rfl
  | cons m rest =>
    cases hbytes : writeMessage m with
    | error _ => exact .of_idle (by simp [hstep, breakOff, hqueue, hbytes]) rfl
    | ok bytes =>
      obtain ⟨ws, hws⟩ := exists_modifyWire { d with queue := rest } (·.put (bytes.take count))
      have hbroken : d.breakOff count =
          { d with queue := rest, wires := ws }.hangUp .broken none := by
        simp only [breakOff, hqueue, hbytes, hws]
      exact .of_closed (hstep.trans hbroken) rfl hserving rfl rfl

/-- **What a step does to attempts** is one of these things. -/
theorem course_step (h : d.Sound retry) (a : Action) :
    Course d a (d.step a).1 (d.sights a) := by
  -- Of a disabled action, the condition tells that the client stays as it is.
  have hidle {a : Action} (hstep : d.step a = (d, [])) (hhandles : a.handles? d = none) :=
    Course.of_idle hstep hhandles
  cases a with
  | post order =>
    obtain ⟨orders, hpost⟩ := d.exists_post order
    exact .of_quiet (by rw [step, hpost]) (by simp) rfl (fun hasks => by cases hasks)
  | send m =>
    obtain ⟨queue, hsend⟩ := d.exists_send m
    exact .of_quiet (by rw [step, hsend]) (by simp) rfl (fun _ => rfl)
  | handle =>
    by_cases hserving : d.phase = .serving
    · exact course_handleServing hserving
    · exact course_handle h hserving
  | resolve =>
    by_cases hlooking : d.phase = .dialing ∧ d.state = .resolving
    · have hsights : d.sights .resolve = [] := by
        simp [sights, step, hlooking, Action.handles?, begins?]
      rw [hsights, step, if_pos hlooking]
      exact .quiet rfl (.inr ⟨hlooking.1, rfl⟩) rfl rfl (fun _ => rfl) rfl
    · exact hidle (by rw [step, if_neg hlooking]) rfl
  | fail c =>
    by_cases hdialing : d.phase = .dialing
    · exact course_fail c hdialing
    · exact hidle (by rw [step, if_neg hdialing]) rfl
  | succeed =>
    by_cases hdialing : d.phase = .dialing
    · have hsights : d.sights .succeed = [.reported .established .connected] := by
        simp [sights, step, hdialing, succeed, Action.handles?, begins?, ClientEvent.isMessage]
      rw [hsights, step, if_pos hdialing]
      exact .established hdialing
    · exact hidle (by rw [step, if_neg hdialing]) rfl
  | retry =>
    by_cases hpausing : ∃ delay, d.phase = .pausing delay
    · obtain ⟨delay, hpausing⟩ := hpausing
      obtain haddress | ⟨address, haddress⟩ := Option.eq_none_or_eq_some d.address
      · have := h.address haddress
        simp [hpausing] at this
      · have hdial : d.dial = { d with phase := .dialing, state := .resolving } := by
          simp [dial, haddress]
        have hsights : d.sights .retry = [.attempt address] := by
          simp [sights, step, hpausing, hdial, Action.handles?, begins?, haddress]
        have hstep : d.step .retry = ({ d with phase := .dialing, state := .resolving }, []) := by
          simp [step, hpausing, hdial]
        rw [hsights, hstep]
        exact .retried hpausing haddress
    · refine hidle ?_ rfl
      simp only [step]
      split
      · rename_i delay hphase
        exact absurd ⟨delay, hphase⟩ hpausing
      · rfl
  | arrive bytes =>
    obtain ⟨ws, hws⟩ := d.exists_modifyWire (·.take bytes)
    exact .of_quiet (by rw [step, hws]) (by simp) rfl (fun _ => rfl)
  | hangUp =>
    obtain ⟨ws, hws⟩ := d.exists_modifyWire fun w => { w with hungUp := true }
    exact .of_quiet (by rw [step, hws]) (by simp) rfl (fun _ => rfl)
  | read =>
    by_cases hserving : d.phase = .serving
    · obtain ⟨ws, events, hread, hevents⟩ := d.exists_readFrom (d.wires.length - 1)
      exact .of_quiet (by rw [step, if_pos hserving, hread]) hevents rfl (fun _ => rfl)
    · exact hidle (by rw [step, if_neg hserving]) rfl
  | fault =>
    by_cases hserving : d.phase = .serving
    · exact .of_closed (by rw [step, if_pos hserving]) rfl hserving rfl rfl
    · exact hidle (by rw [step, if_neg hserving]) rfl
  | lose =>
    by_cases hend : d.atEnd = true
    · have hserving : d.phase = .serving := by
        by_contra hphase
        simp [atEnd, current?, hphase] at hend
      exact .of_closed (by rw [step, if_pos hend]) rfl hserving rfl rfl
    · exact hidle (by rw [step, if_neg hend]) rfl
  | write =>
    by_cases hserving : d.phase = .serving
    · obtain ⟨ws, queue, hwrite⟩ := d.exists_write
      exact .of_quiet (by rw [step, if_pos hserving, hwrite]) (by simp) rfl (fun _ => rfl)
    · exact hidle (by rw [step, if_neg hserving]) rfl
  | «break» count =>
    by_cases hserving : d.phase = .serving
    · exact course_breakOff count hserving
    · exact hidle (by rw [step, if_neg hserving]) rfl
  | release =>
    obtain ⟨orders, hpost⟩ := d.exists_post .shutDown
    exact .of_quiet (by rw [step, Dialer.release, hpost]) (by simp) rfl
      (fun hasks => by cases hasks)
  | starve =>
    by_cases hstarved : d.phase = .serving ∧ d.released = true ∧ d.queue = []
    · exact .of_closed (by rw [step, if_pos hstarved]) rfl hstarved.1 rfl rfl
    · exact hidle (by rw [step, if_neg hstarved]) rfl
  | linger i =>
    by_cases hlingers : d.lingering.contains i = true
    · obtain ⟨ws, events, hread, hevents⟩ := d.exists_readFrom i
      exact .of_quiet (by rw [step, if_pos hlingers, hread]) hevents rfl (fun _ => rfl)
    · exact hidle (by rw [step, if_neg hlingers]) rfl
  | trickle i bytes =>
    by_cases hlingers : d.lingering.contains i = true
    · exact .of_quiet (by rw [step, if_pos hlingers]) (by simp) rfl (fun _ => rfl)
    · exact hidle (by rw [step, if_neg hlingers]) rfl
  | vanish i => exact .of_quiet rfl (by simp) rfl (fun _ => rfl)

end Course

end Dialer

end Pursuit
