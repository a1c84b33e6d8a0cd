import Pursuit.Proofs.Courses

/-! # Attempts to connect

An order to connect begins an attempt, and as long as attempts fail and retries are left, others
follow. Any order that is handled in between puts an end to that: one to connect begins anew with all
retries, one to disconnect leaves nothing that could begin an attempt.

* **`Dialer.watch`** — what is seen along a run.
* **`Dialer.tries`** — what is seen of an order to connect when nothing comes of it.
* **`Dialer.Sound.step`** — the phase and what goes with it, kept by every action.
* **`Dialer.Sound.no_attempt_of_rests`, `Dialer.Sound.no_attempt_of_unaddressed`,
  `Dialer.Sound.stopped_run`** — where no attempt begins.
* **`Dialer.Alone`** — nobody intervenes; then what has been seen and what is **`Dialer.remaining`**
  always add up to the same.
* **`Dialer.Fate`** — what becomes of an order.
* **`Dialer.attempts_bounded`** — how often is tried, and what ends it. -/

namespace Pursuit

namespace Dialer

/-- What is seen along a run. -/
def watch : List Action → Dialer → List Sight
  | [], _ => []
  | a :: as, d => d.sights a ++ watch as (d.step a).1

/-- What is seen when attempts at an address fail until so many retries are used up. -/
def tries (address : String) : Nat → List Sight
  | 0 => [.attempt address, .reported .failed .idle]
  | n + 1 => .attempt address :: .reported .failed .retrying :: tries address n

/-- All delays along a run are lengths of time. -/
def Steady (d : Dialer) : List Action → Prop
  | [] => True
  | a :: as => ¬ a.breaksDown d ∧ (d.step a).1.Steady as

/-- A run has no breakdown if neither of its parts has one. -/
theorem steady_append {d : Dialer} {as bs : List Action} :
    d.Steady (as ++ bs) ↔ d.Steady as ∧ (run as d).1.Steady bs := by
  induction as generalizing d with
  | nil => simp [Steady, run]
  | cons a as ih => simp [Steady, run, ih, and_assoc]

section Runs

variable {retry : Option Backoff.Policy} {d : Dialer}

/-! ## The phase and what goes with it -/

/-- Whether the task waits for an order or has stopped. -/
def Rests (d : Dialer) : Prop := d.phase = .waiting ∨ d.phase = .stopped

/-- Starting the retries anew makes them what the policy starts with. -/
theorem Sound.reset_eq (h : d.Sound retry) :
    d.retry.map Backoff.reset = retry.map Backoff.start := by
  rw [← h.policy, Option.map_map]
  rfl

/-- Starting the retries anew leaves the policy. -/
theorem Sound.policy_reset (h : d.Sound retry) :
    (d.retry.map Backoff.reset).map (·.policy) = retry := by
  rw [Option.map_map]
  exact h.policy

/-- A client that begins is sound. -/
theorem sound_new (retry : Option Backoff.Policy) : (Dialer.new retry).Sound retry where
  shows := rfl
  address := fun _ => .inl rfl
  policy := by simp [new, Function.comp_def, Backoff.start]

/-- The phase tells the state, whatever is done. -/
theorem Sound.step (h : d.Sound retry) (a : Action) : (d.step a).1.Sound retry := by
  have hcourse := course_step h a
  -- Where there was an address, there still is one.
  have haddressed {e : Dialer} (hrests : ¬ d.Rests) (haddress : e.address = d.address) :
      e.address = none → e.phase = .waiting ∨ e.phase = .stopped :=
    fun hnone => absurd (h.address (haddress ▸ hnone)) hrests
  generalize (d.step a).1 = e, d.sights a = ss at hcourse
  cases hcourse with
  | quiet hphase hstate haddress _ _ hretry =>
    refine ⟨?_, by rw [hphase, haddress]; exact h.address, by rw [hretry]; exact h.policy⟩
    rw [hphase]
    obtain hstate | ⟨hdialing, hstate⟩ := hstate
    · rw [hstate]
      exact h.shows
    · rw [hdialing, hstate]
      exact .inr rfl
  | retried hpausing haddress =>
    exact ⟨.inl rfl, haddressed (by simp [Rests, hpausing]) rfl, h.policy⟩
  | failed hdialing _ hpolicy =>
    exact ⟨rfl, haddressed (by simp [Rests, hdialing]) rfl, hpolicy.symm.trans h.policy⟩
  | exhausted hdialing _ => exact ⟨rfl, fun _ => .inl rfl, h.policy⟩
  | brokenDown hbreaks hpolicy =>
    refine ⟨fun hretrying => ?_, fun _ => .inr rfl, hpolicy.symm.trans h.policy⟩
    have hshows := h.shows
    rw [hbreaks.1, hretrying] at hshows
    simp [Phase.Shows] at hshows
  | established hdialing =>
    exact ⟨rfl, haddressed (by simp [Rests, hdialing]) rfl, h.policy_reset⟩
  | closed reason _ hphase hstate _ hretry =>
    exact ⟨by rw [hphase, hstate]; rfl, fun _ => .inl hphase, by rw [hretry]; exact h.policy⟩
  | disconnected _ hphase hstate _ hretry =>
    exact ⟨by rw [hphase, hstate]; rfl, fun _ => .inl hphase, by rw [hretry]; exact h.policy⟩
  | called _ _ _ hphase hstate haddress _ hretry =>
    exact ⟨by rw [hphase, hstate]; exact .inl rfl, fun hnone => by simp [haddress] at hnone,
      by rw [hretry]; exact h.policy_reset⟩
  | nowhere _ _ hphase hstate _ hretry =>
    exact ⟨by rw [hphase, hstate]; rfl, fun _ => .inl hphase, by rw [hretry]; exact h.policy_reset⟩
  | cancelled _ hphase hstate _ hretry =>
    exact ⟨by rw [hphase, hstate]; rfl, fun _ => .inl hphase, by rw [hretry]; exact h.policy⟩
  | stopped _ hphase hstate _ hretry =>
    exact ⟨by rw [hphase, hstate]; simp [Phase.Shows], fun _ => .inr hphase,
      by rw [hretry]; exact h.policy⟩

/-- Every run leaves a client sound. -/
theorem Sound.run (h : d.Sound retry) (as : List Action) : (run as d).1.Sound retry := by
  induction as generalizing d with
  | nil => exact h
  | cons a as ih => exact ih (h.step a)

/-- The state tells that there will be another attempt exactly if one has its time. -/
theorem Sound.retrying_iff (h : d.Sound retry) :
    d.state = .retrying ↔ ∃ delay, d.phase = .pausing delay := by
  have hshows := h.shows
  generalize d.phase = phase, d.state = state at hshows
  cases phase <;> cases state <;> simp_all [Phase.Shows]

/-! ## What puts an end to attempts -/

/-- A task that waits for an order, or has stopped, begins no attempt unless it handles an order to
connect. -/
theorem Sound.rests_step (h : d.Sound retry) (hrests : d.Rests) (a : Action)
    (hcalls : ∀ order : Order, order.calls = true → .handled order ∉ d.sights a) :
    (d.step a).1.Rests ∧ ∀ address, .attempt address ∉ d.sights a := by
  have hcourse := course_step h a
  generalize (d.step a).1 = e, d.sights a = ss at hcourse hcalls
  cases hcourse with
  | quiet hphase _ _ _ _ _ => exact ⟨by rw [Rests, hphase]; exact hrests, by simp⟩
  | retried hpausing _ => simp [Rests, hpausing] at hrests
  | failed hdialing _ _ => simp [Rests, hdialing] at hrests
  | exhausted _ _ => exact ⟨.inl rfl, by simp⟩
  | brokenDown _ _ => exact ⟨.inr rfl, by simp⟩
  | established hdialing => simp [Rests, hdialing] at hrests
  | closed reason _ hphase _ _ _ => exact ⟨.inl hphase, by simp⟩
  | disconnected _ hphase _ _ _ => exact ⟨.inl hphase, by simp⟩
  | called _ _ horder _ _ _ _ _ => exact absurd List.mem_cons_self (hcalls _ horder)
  | nowhere _ _ _ _ _ _ => exact absurd List.mem_cons_self (hcalls .reconnect rfl)
  | cancelled _ hphase _ _ _ => exact ⟨.inl hphase, by simp⟩
  | stopped _ hphase _ _ _ => exact ⟨.inr hphase, by simp⟩

/-- A client that rests makes no attempt before an order that calls for one is handled. -/
theorem Sound.no_attempt_of_rests (h : d.Sound retry) (hrests : d.Rests) (as : List Action)
    (hcalls : ∀ order : Order, order.calls = true → .handled order ∉ watch as d)
    (address : String) : .attempt address ∉ watch as d := by
  induction as generalizing d with
  | nil => simp [watch]
  | cons a as ih =>
    simp only [watch, List.mem_append, not_or] at hcalls ⊢
    obtain ⟨hrests', hnone⟩ := h.rests_step hrests a fun order ho => (hcalls order ho).1
    exact ⟨hnone address, ih (h.step a) hrests' fun order ho => (hcalls order ho).2⟩

/-- Without an address no attempt begins, unless the task is told one. -/
theorem Sound.unaddressed_step (h : d.Sound retry) (hnone : d.address = none) (a : Action)
    (hconnect : ∀ address, .handled (.connect address) ∉ d.sights a) :
    (d.step a).1.address = none ∧ ∀ address, .attempt address ∉ d.sights a := by
  have hcourse := course_step h a
  generalize (d.step a).1 = e, d.sights a = ss at hcourse hconnect
  cases hcourse with
  | quiet _ _ haddress _ _ _ => exact ⟨haddress.trans hnone, by simp⟩
  | retried _ haddress => simp [hnone] at haddress
  | failed _ _ _ => exact ⟨hnone, by simp⟩
  | exhausted _ _ => exact ⟨hnone, by simp⟩
  | brokenDown _ _ => exact ⟨hnone, by simp⟩
  | established _ => exact ⟨hnone, by simp⟩
  | closed reason _ _ _ haddress _ => exact ⟨haddress.trans hnone, by simp⟩
  | disconnected _ _ _ haddress _ => exact ⟨haddress.trans hnone, by simp⟩
  | @called _ order _ _ htarget horder _ _ _ _ _ =>
    -- Only an order to connect names an address, and that one is excluded.
    cases order with
    | connect address => exact absurd List.mem_cons_self (hconnect address)
    | reconnect => simp [target?, hnone] at htarget
    | disconnect => cases horder
    | shutDown => cases horder
  | nowhere _ _ _ _ haddress _ => exact ⟨haddress, by simp⟩
  | cancelled _ _ _ haddress _ => exact ⟨haddress.trans hnone, by simp⟩
  | stopped _ _ _ haddress _ => exact ⟨haddress.trans hnone, by simp⟩

/-- A client that knows no address makes no attempt before it is told one. -/
theorem Sound.no_attempt_of_unaddressed (h : d.Sound retry) (hnone : d.address = none)
    (as : List Action) (hconnect : ∀ address, .handled (.connect address) ∉ watch as d)
    (address : String) : .attempt address ∉ watch as d := by
  induction as generalizing d with
  | nil => simp [watch]
  | cons a as ih =>
    simp only [watch, List.mem_append, not_or] at hconnect ⊢
    obtain ⟨hnone', hattempt⟩ := h.unaddressed_step hnone a fun address => (hconnect address).1
    exact ⟨hattempt address, ih (h.step a) hnone' fun address => (hconnect address).2⟩

/-- A stopped task does nothing. -/
theorem Sound.stopped_step (h : d.Sound retry) (hstopped : d.phase = .stopped) (a : Action) :
    (d.step a).1.phase = .stopped ∧ (d.step a).1.state = d.state ∧ d.sights a = [] := by
  have hcourse := course_step h a
  have hdue : d.due? = none := by simp [due?, hstopped]
  generalize (d.step a).1 = e, d.sights a = ss at hcourse
  cases hcourse with
  | quiet hphase hstate _ _ _ _ =>
    exact ⟨hphase.trans hstopped, hstate.resolve_right fun hdialing => by
      simp [hstopped] at hdialing, rfl⟩
  | retried hpausing _ => simp [hstopped] at hpausing
  | failed hdialing _ _ => simp [hstopped] at hdialing
  | exhausted hdialing _ => simp [hstopped] at hdialing
  | brokenDown hbreaks _ => simp [Action.breaksDown, hstopped] at hbreaks
  | established hdialing => simp [hstopped] at hdialing
  | closed reason hserving _ _ _ _ => simp [hstopped] at hserving
  | disconnected hserving _ _ _ _ => simp [hstopped] at hserving
  | called hsome _ _ _ _ _ _ _ => simp [hdue] at hsome
  | nowhere hsome _ _ _ _ _ => simp [hdue] at hsome
  | cancelled hsome _ _ _ _ => simp [hdue] at hsome
  | stopped hsome _ _ _ _ => simp [hdue] at hsome

/-- On a client that has stopped nothing is seen any more. -/
theorem Sound.stopped_run (h : d.Sound retry) (hstopped : d.phase = .stopped) (as : List Action) :
    (Dialer.run as d).1.state = d.state ∧ watch as d = [] := by
  induction as generalizing d with
  | nil => exact ⟨rfl, rfl⟩
  | cons a as ih =>
    obtain ⟨hphase, hstate, hsights⟩ := h.stopped_step hstopped a
    obtain ⟨hstate', hwatch⟩ := ih (h.step a) hphase
    exact ⟨hstate'.trans hstate, by rw [watch, hsights, hwatch, List.append_nil]⟩

/-! ## Attempts that nobody intervenes with -/

/-- Nothing is asked for but what has been handled, and no connection is up. -/
structure Alone (retry : Option Backoff.Policy) (address : String) (d : Dialer) : Prop where
  /-- The phase and what goes with it. -/
  sound : d.Sound retry
  /-- No order waits. -/
  orders : d.orders = []
  /-- Nor has one been taken that is still to be handled. -/
  taken : d.taken = none
  /-- This is the address that is tried. -/
  address : d.address = some address
  /-- No connection is up. -/
  not_serving : d.phase ≠ .serving
  /-- The task goes on. -/
  not_stopped : d.phase ≠ .stopped

/-- What is still to be seen when attempts go on to fail. -/
def remaining (address : String) (d : Dialer) : List Sight :=
  match d.phase with
  | .dialing => (tries address d.left).tail
  | .pausing _ => tries address d.left
  | .waiting | .serving | .stopped => []

/-- What is seen of attempts begins with one. -/
theorem tries_eq_cons (address : String) (n : Nat) :
    tries address n = .attempt address :: (tries address n).tail := by
  cases n <;> rfl

variable {address : String}

/-- No order is due where nobody intervenes. -/
theorem Alone.due?_eq_none (h : d.Alone retry address) : d.due? = none := by
  unfold due?
  split
  · rfl
  · rfl
  · exact absurd ‹_› h.not_serving
  · rw [h.taken, h.orders]
    rfl
  · rw [h.taken, h.orders]
    rfl

/-- **What one step adds to what has been seen, it takes from what is still to be seen.** -/
theorem Alone.step (h : d.Alone retry address) {a : Action} (halone : a.intervenes = false)
    (hsteady : ¬ a.breaksDown d) :
    (d.step a).1.Alone retry address ∧
      d.sights a ++ remaining address (d.step a).1 = remaining address d := by
  have hcourse := course_step h.sound a
  have hsound := h.sound.step a
  have hdue := h.due?_eq_none
  generalize (d.step a).1 = e, d.sights a = ss at hcourse hsound
  -- Nobody intervenes and no connection is up, so only an attempt can end or begin.
  cases hcourse with
  | quiet hphase _ haddress htaken horders hretry =>
    refine ⟨⟨hsound, (horders halone).trans h.orders, htaken.trans h.taken,
      haddress.trans h.address, hphase ▸ h.not_serving, hphase ▸ h.not_stopped⟩, ?_⟩
    rw [List.nil_append, remaining, remaining, hphase, left, left, hretry]
  | retried hpausing haddress =>
    obtain rfl : _ = address := Option.some.inj (haddress.symm.trans h.address)
    refine ⟨⟨hsound, h.orders, h.taken, h.address, by simp, by simp⟩, ?_⟩
    simp only [remaining, hpausing]
    exact (tries_eq_cons _ _).symm
  | failed hdialing hleft _ =>
    refine ⟨⟨hsound, h.orders, h.taken, h.address, by simp, by simp⟩, ?_⟩
    simp only [remaining, hdialing, ← hleft]
    rfl
  | exhausted hdialing hleft =>
    refine ⟨⟨hsound, h.orders, h.taken, h.address, by simp, by simp⟩, ?_⟩
    simp only [remaining, hdialing, hleft]
    rfl
  | brokenDown hbreaks _ => exact absurd hbreaks hsteady
  | established _ => cases halone
  | closed reason hserving _ _ _ _ => exact absurd hserving h.not_serving
  | disconnected hserving _ _ _ _ => exact absurd hserving h.not_serving
  | called hsome _ _ _ _ _ _ _ => simp [hdue] at hsome
  | nowhere hsome _ _ _ _ _ => simp [hdue] at hsome
  | cancelled hsome _ _ _ _ => simp [hdue] at hsome
  | stopped hsome _ _ _ _ => simp [hdue] at hsome

/-- **Along a run, what has been seen and what is still to be seen add up to the same.** -/
theorem Alone.watch_append_remaining (h : d.Alone retry address) {as : List Action}
    (halone : ∀ a ∈ as, a.intervenes = false) (hsteady : d.Steady as) :
    (run as d).1.Alone retry address ∧
      watch as d ++ remaining address (run as d).1 = remaining address d := by
  induction as generalizing d with
  | nil => exact ⟨h, rfl⟩
  | cons a as ih =>
    obtain ⟨hstep, hadd⟩ := h.step (halone a List.mem_cons_self) hsteady.1
    obtain ⟨hrun, hrest⟩ :=
      ih hstep (fun b hb => halone b (List.mem_cons_of_mem a hb)) hsteady.2
    refine ⟨hrun, ?_⟩
    rw [watch, List.append_assoc]
    exact (congrArg (d.sights a ++ ·) hrest).trans hadd

/-- Nothing is left to be seen exactly if the task waits for an order. -/
theorem Alone.remaining_eq_nil_iff (h : d.Alone retry address) :
    remaining address d = [] ↔ d.phase = .waiting := by
  have hdialing (n : Nat) : (tries address n).tail ≠ [] := by cases n <;> simp [tries]
  have hpausing (n : Nat) : tries address n ≠ [] := by cases n <;> simp [tries]
  have hserving := h.not_serving
  have hstopped := h.not_stopped
  unfold remaining
  split <;> simp_all

/-- A chance in which every product is a length of time. -/
def certain : Backoff.Chance := ⟨fun _ delay => some delay, fun lo _ => some lo⟩

/-- With a certain chance every delay is a length of time. -/
theorem next_certain_ne (b : Backoff) : (b.next certain).1 ≠ .unrepresentable := by
  have hvary : certain.vary b.policy.jitter b.delay = some b.delay := by
    simp [Backoff.Chance.vary, certain]
  unfold Backoff.next
  split
  · simp
  · rw [hvary]
    simp [certain]

/-- With a certain chance no failure breaks the client down. -/
theorem not_breaksDown_certain (d : Dialer) : ¬ (Action.fail certain).breaksDown d := by
  rintro ⟨-, b, -, hnext⟩
  exact next_certain_ne b hnext

/-- An attempt that nobody intervenes with may fail until the task waits for an order again. -/
theorem Alone.exists_rest_of_dialing (h : d.Alone retry address) (hdialing : d.phase = .dialing) :
    ∃ more, (∀ a ∈ more, a.intervenes = false) ∧ d.Steady more ∧
      (run more d).1.phase = .waiting := by
  have hsteady := not_breaksDown_certain d
  -- The induction is on the retries that are left.
  induction hn : d.left using Nat.strongRecOn generalizing d with
  | ind n ih =>
    have hstep : d.step (.fail certain) = d.fail certain := by simp [Dialer.step, hdialing]
    have halone := (h.step (a := .fail certain) rfl hsteady).1
    obtain ⟨_, hfail⟩ | ⟨b, delay, hleft, _, hfail⟩ | ⟨b, _, hretry, hnext, _⟩ :=
      d.fail_cases certain
    · exact ⟨[.fail certain], by simp [Action.intervenes], ⟨hsteady, trivial⟩, by
        simp [Dialer.run, hstep, hfail]⟩
    · rw [hstep, hfail] at halone
      have hpausing := (halone.step (a := .retry) rfl id).1
      have haddress := h.address
      have hretry : ({ d with
            retry := some b, phase := .pausing delay, state := .retrying } : Dialer).step .retry =
          ({ d with retry := some b, phase := .dialing, state := .resolving }, []) := by
        simp [Dialer.step, dial, haddress]
      rw [hretry] at hpausing
      obtain ⟨more, hmore, hsteady', hrest⟩ := ih b.left (by omega) hpausing rfl
        (not_breaksDown_certain _) (by simp [left])
      refine ⟨.fail certain :: .retry :: more, ?_, ⟨hsteady, ?_⟩, ?_⟩
      · simpa [Action.intervenes] using hmore
      · rw [hstep, hfail]
        exact ⟨id, by rw [hretry]; exact hsteady'⟩
      · simp only [Dialer.run, hstep, hfail, hretry]
        exact hrest
    · exact absurd hnext (next_certain_ne b)

/-- Attempts that nobody intervenes with come to their end. -/
theorem Alone.exists_rest (h : d.Alone retry address) :
    ∃ more, (∀ a ∈ more, a.intervenes = false) ∧ d.Steady more ∧
      (run more d).1.phase = .waiting := by
  cases hphase : d.phase with
  | waiting => exact ⟨[], by simp, trivial, hphase⟩
  | dialing => exact h.exists_rest_of_dialing hphase
  | pausing delay =>
    have haddress := h.address
    have hretry : d.step .retry = ({ d with phase := .dialing, state := .resolving }, []) := by
      simp [Dialer.step, hphase, dial, haddress]
    have hdialing := (h.step (a := .retry) rfl id).1
    rw [hretry] at hdialing
    obtain ⟨more, hmore, hsteady, hrest⟩ := hdialing.exists_rest_of_dialing rfl
    refine ⟨.retry :: more, ?_, ⟨id, by rw [hretry]; exact hsteady⟩, ?_⟩
    · simpa [Action.intervenes] using hmore
    · simp only [Dialer.run, hretry]
      exact hrest
  | serving => exact absurd hphase h.not_serving
  | stopped => exact absurd hphase h.not_stopped

/-! ## What becomes of an order -/

/-- An order that is due is seen to be handled. -/
theorem handled_mem_sights {order : Order} (hdue : d.due? = some order) :
    .handled order ∈ d.sights .handle := by
  simp [sights, Action.handles?, hdue]

/-- What becomes of an order that is handled. -/
inductive Fate (d e : Dialer) : Order → List Sight → Prop
  /-- An attempt begins. -/
  | begun {order : Order} {address : String} : d.target? order = some address →
      e.phase = .dialing → e.address = some address → e.taken = none →
      e.retry = d.retry.map Backoff.reset → Fate d e order [.handled order, .attempt address]
  /-- Nothing to connect to is known. -/
  | nowhere : d.address = none → e.retry = d.retry.map Backoff.reset →
      Fate d e .reconnect [.handled .reconnect]
  /-- The task waits for an order. -/
  | cancelled {ss : List Sight} : e.phase = .waiting → e.state = .idle → Fate d e .disconnect ss
  /-- The task has stopped. -/
  | stopped : e.phase = .stopped → e.state = .closed → Fate d e .shutDown [.handled .shutDown]

/-- An order that is due meets its fate when it is handled. -/
theorem Sound.fate (h : d.Sound retry) {order : Order} (hdue : d.due? = some order) :
    Fate d (d.step .handle).1 order (d.sights .handle) := by
  -- Of all courses that a step can take, the orders handled tell which one this was.
  have hcourse := course_step h .handle
  have hmem := handled_mem_sights hdue
  generalize (d.step .handle).1 = e, d.sights .handle = ss at hcourse hmem
  cases hcourse with
  | quiet _ _ _ _ _ _ => simp at hmem
  | closed reason _ _ _ _ _ => simp at hmem
  | disconnected _ hphase hstate _ _ =>
    obtain rfl : order = .disconnect := by simpa using hmem
    exact .cancelled hphase hstate
  | called hdue' htarget _ hphase _ haddress htaken hretry =>
    cases hdue.symm.trans hdue'
    exact .begun htarget hphase haddress htaken hretry
  | nowhere hdue' hnone _ _ _ hretry =>
    cases hdue.symm.trans hdue'
    exact .nowhere hnone hretry
  | cancelled hdue' hphase hstate _ _ =>
    cases hdue.symm.trans hdue'
    exact .cancelled hphase hstate
  | stopped hdue' hphase hstate _ _ =>
    cases hdue.symm.trans hdue'
    exact .stopped hphase hstate

/-- An order to connect gives all retries back. -/
theorem Sound.retry_handle (h : d.Sound retry) {order : Order} (hdue : d.due? = some order)
    (hcalls : order.calls = true) : (d.step .handle).1.retry = retry.map Backoff.start := by
  have hfate := h.fate hdue
  generalize (d.step .handle).1 = e, d.sights .handle = ss at hfate
  cases hfate with
  | begun _ _ _ _ hretry => exact hretry.trans h.reset_eq
  | nowhere _ hretry => exact hretry.trans h.reset_eq
  | cancelled _ _ => cases hcalls
  | stopped _ _ => cases hcalls

/-- An order to disconnect leaves a task that waits for an order. -/
theorem Sound.handle_disconnect (h : d.Sound retry) (hdue : d.due? = some .disconnect) :
    (d.step .handle).1.phase = .waiting ∧ (d.step .handle).1.state = .idle := by
  have hfate := h.fate hdue
  generalize (d.step .handle).1 = e, d.sights .handle = ss at hfate
  cases hfate with
  | begun htarget _ _ _ _ => cases htarget
  | cancelled hphase hstate => exact ⟨hphase, hstate⟩

/-- A client that is told to stop has stopped and is closed. -/
theorem Sound.handle_shutDown (h : d.Sound retry) (hdue : d.due? = some .shutDown) :
    (d.step .handle).1.phase = .stopped ∧ (d.step .handle).1.state = .closed := by
  have hfate := h.fate hdue
  generalize (d.step .handle).1 = e, d.sights .handle = ss at hfate
  cases hfate with
  | begun htarget _ _ _ _ => cases htarget
  | stopped hphase hstate => exact ⟨hphase, hstate⟩

/-- What follows an order to connect that nobody intervenes with. -/
theorem Sound.alone_handle (h : d.Sound retry) {order : Order} (hdue : d.due? = some order)
    (htarget : d.target? order = some address) (horders : (d.step .handle).1.orders = []) :
    (d.step .handle).1.Alone retry address ∧
      d.sights .handle ++ remaining address (d.step .handle).1 =
        .handled order :: tries address ((retry.map (·.maxAttempts.toNat)).getD 0) := by
  have hsound := h.step .handle
  have hfate := h.fate hdue
  generalize (d.step .handle).1 = e, d.sights .handle = ss at hfate horders hsound
  cases hfate with
  | begun htarget' hphase haddress htaken hretry =>
    cases htarget.symm.trans htarget'
    have hleft : e.left = (retry.map (·.maxAttempts.toNat)).getD 0 := by
      rw [left, hretry, h.reset_eq, Option.map_map]
      rfl
    refine ⟨⟨hsound, horders, htaken, haddress, by simp [hphase], by simp [hphase]⟩, ?_⟩
    rw [remaining, hphase, hleft, tries_eq_cons]
    rfl
  | nowhere hnone _ => cases htarget.symm.trans hnone
  | cancelled _ _ => cases htarget
  | stopped _ _ => cases htarget

end Runs

/-- **Attempts are bounded and can be cancelled**, whatever has been done before. An order to connect
to a known address makes one attempt more than there are retries, if each fails and nobody intervenes:
less has been seen until the task waits for an order again, and it always can come to that. Retrying
is shown exactly while another attempt has its time. An order to disconnect, whether a connection is
up or not, leaves the client idle, and no attempt begins until the next order to connect. A connection
that is up and any order to connect give all retries back. Nothing is tried before the first address is
told. And once the task has handled the order to stop it is closed for good: no attempt begins, and
nothing is reported about a connection. -/
theorem attempts_bounded (retry : Option Backoff.Policy) (before : List Action) :
    let d := (run before (new retry)).1
    let e := (d.step .handle).1
    let retries := (retry.map (·.maxAttempts.toNat)).getD 0
    (∀ order address, d.due? = some order → d.target? order = some address → e.orders = [] →
      ∀ as : List Action, (∀ a ∈ as, a.intervenes = false) → e.Steady as →
        watch (.handle :: as) d <+: .handled order :: tries address retries ∧
          (watch (.handle :: as) d = .handled order :: tries address retries ↔
            (run as e).1.phase = .waiting) ∧
          ∃ more, (∀ a ∈ more, a.intervenes = false) ∧ e.Steady (as ++ more) ∧
            (run (as ++ more) e).1.phase = .waiting) ∧
      (d.state = .retrying ↔ ∃ delay, d.phase = .pausing delay) ∧
      (d.due? = some .disconnect → e.state = .idle ∧
        ∀ as : List Action,
          (∀ order : Order, order.calls = true → .handled order ∉ watch as e) →
          ∀ address, .attempt address ∉ watch as e) ∧
      (∀ order : Order, d.due? = some order → order.calls = true →
        e.retry = retry.map Backoff.start) ∧
      (d.phase = .dialing → (d.step .succeed).1.retry = retry.map Backoff.start) ∧
      ((∀ address, .handled (.connect address) ∉ watch before (new retry)) →
        ∀ address, .attempt address ∉ watch before (new retry)) ∧
      (d.due? = some .shutDown → ∀ as : List Action,
        (run as e).1.state = .closed ∧ watch as e = []) := by
  intro d e retries
  have h : d.Sound retry := (sound_new retry).run before
  refine ⟨fun order address hdue htarget horders as has hsteady => ?_, h.retrying_iff,
    fun hdue => ?_, fun order => h.retry_handle, fun hdialing => ?_,
    (sound_new retry).no_attempt_of_unaddressed rfl before, fun hdue as => ?_⟩
  · -- What is seen and what is still to be seen add up to one attempt more than there are retries.
    obtain ⟨halone, hall⟩ := h.alone_handle hdue htarget horders
    obtain ⟨hrun, hadd⟩ := halone.watch_append_remaining has hsteady
    obtain ⟨more, hmore, hsteady', hrest⟩ := hrun.exists_rest
    have hwatch : watch (.handle :: as) d ++ remaining address (run as e).1 =
        .handled order :: tries address retries := by
      rw [watch, List.append_assoc, hadd, hall]
    refine ⟨⟨_, hwatch⟩, ?_, more, hmore, steady_append.2 ⟨hsteady, hsteady'⟩, ?_⟩
    · rw [← hwatch, List.self_eq_append_right]
      exact hrun.remaining_eq_nil_iff
    · rw [run_append]
      exact hrest
  · -- Once disconnected the task rests, and only an order can wake it.
    obtain ⟨hphase, hstate⟩ := h.handle_disconnect hdue
    exact ⟨hstate, (h.step .handle).no_attempt_of_rests (.inl hphase)⟩
  · have hsucceed : d.step .succeed = d.succeed := by simp [step, hdialing]
    rw [hsucceed]
    exact h.reset_eq
  · obtain ⟨hphase, hstate⟩ := h.handle_shutDown hdue
    obtain ⟨hstate', hwatch⟩ := (h.step .handle).stopped_run hphase as
    exact ⟨hstate'.trans hstate, hwatch⟩

/-- A client with one retry. Both attempts fail; an order to disconnect takes the retry away, and so
does one to stop; to connect again where nothing was ever connected leads nowhere. -/
theorem attempts_bounded_once :
    let retry : Option Backoff.Policy := some ⟨.ofSecs 30, 2, .ofSecs 60, 1, 0⟩
    let posted (order : Order) : List Action :=
      [.post (.connect "server"), .handle, .fail certain, .post order]
    let failing : List Action := [.resolve, .fail certain, .retry, .resolve, .fail certain]
    let called := (run [.post (.connect "server")] (new retry)).1
    let dialing := (run [.post (.connect "server"), .handle] (new retry)).1
    let cancelled := (run (posted .disconnect) (new retry)).1
    let stopping := (run (posted .shutDown) (new retry)).1
    let lost : List Action := [.post .reconnect, .handle]
    watch (.handle :: failing) called =
        [.handled (.connect "server"), .attempt "server", .reported .failed .retrying,
          .attempt "server", .reported .failed .idle] ∧
      (dialing.step .succeed).1.retry = retry.map Backoff.start ∧
      cancelled.state = .retrying ∧ (cancelled.step .handle).1.state = .idle ∧
      .attempt "server" ∉ watch [.retry, .resolve] (cancelled.step .handle).1 ∧
      watch lost (new retry) = [.handled .reconnect] ∧ .attempt "server" ∉ watch lost (new retry) ∧
      (run [.retry, .post (.connect "server"), .handle] (stopping.step .handle).1).1.state =
        .closed := by
  intro retry posted failing called dialing cancelled stopping lost
  have hquiet : watch [.retry, .resolve] (cancelled.step .handle).1 = [] := by decide +kernel
  have hlost : watch lost (new retry) = [.handled .reconnect] := by decide +kernel
  have hfails := (attempts_bounded retry [.post (.connect "server")]).1 (.connect "server") "server"
    (by decide +kernel) rfl (by decide +kernel) failing (by simp [failing, Action.intervenes])
    ⟨id, not_breaksDown_certain _, id, id, not_breaksDown_certain _, trivial⟩
  obtain ⟨_, _, _, _, hup, _, _⟩ :=
    attempts_bounded retry [.post (.connect "server"), .handle]
  obtain ⟨_, hretrying, hcancelled, _, _, _, _⟩ := attempts_bounded retry (posted .disconnect)
  obtain ⟨_, _, _, _, _, hnowhere, _⟩ := attempts_bounded retry lost
  obtain ⟨_, _, _, _, _, _, hstopped⟩ := attempts_bounded retry (posted .shutDown)
  -- The order to disconnect is posted while the client waits to try again.
  have hpausing : cancelled.phase = .pausing (.ofSecs 30) := by decide +kernel
  refine ⟨hfails.2.1.2 (by decide +kernel), hup (by decide +kernel), hretrying.2 ⟨_, hpausing⟩,
    (hcancelled (by decide +kernel)).1, ?_, hlost, ?_,
    (hstopped (by decide +kernel) _).1⟩
  · refine (hcancelled (by decide +kernel)).2 [.retry, .resolve] (fun order _ hmem => ?_) "server"
    exact List.not_mem_nil (hquiet ▸ hmem)
  · exact hnowhere (by simp [hlost]) "server"

end Dialer

end Pursuit
