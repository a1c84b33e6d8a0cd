import Pursuit.Numeric.Duration

/-! # Waiting times between connection attempts

After a failed attempt the client waits, each time longer, until its attempts are used up.

* **`Backoff.Policy`** — first delay, growth factor, longest delay, number of attempts, jitter.
* **`Backoff`** — a policy together with the attempts made and the delay that comes next.
* **`Backoff.next`** — counts an attempt and answers the delay before it.
* **`Backoff.reset`** — restarts the schedule.

Two things are left open, as a `Backoff.Chance`: how a length of time is multiplied (the product
may be no length of time) and how the jitter factor is drawn from its range. -/

namespace Pursuit

/-- How a client retries. -/
structure Backoff.Policy where
  /-- The delay before the first retry. -/
  initialDelay : Duration := .ofMillis 500
  /-- What each delay is multiplied by to give the next. -/
  multiplier : Float := 2
  /-- No delay is longer. -/
  maxDelay : Duration := .ofSecs 10
  /-- How many retries there are. -/
  maxAttempts : UInt32 := 20
  /-- A delay varies by this fraction of itself, either way. -/
  jitter : Float := 0.25

/-- The schedule of one client. -/
structure Backoff where
  /-- How it retries. -/
  policy : Backoff.Policy
  /-- How many retries it has counted since the last reset. -/
  attempts : UInt32
  /-- The delay that comes next, before jitter. -/
  delay : Duration

namespace Backoff

/-- What a schedule answers. -/
inductive Answer where
  /-- Every attempt is used up. -/
  | exhausted
  /-- The delay, or the one after it, is no length of time. The attempt counts all the same. -/
  | unrepresentable
  /-- Wait this long, then try again. -/
  | wait (delay : Duration)
deriving DecidableEq

/-- Multiplication of lengths of time, and the draw of a factor between two bounds. -/
structure Chance where
  /-- The multiple of a length of time, if there is one. -/
  scale : Float → Duration → Option Duration
  /-- A factor between two bounds, if they bound a range. -/
  draw : Float → Float → Option Float

/-- The draw that always takes the middle of the range. The range must be a finite one. -/
def middle (lo hi : Float) : Option Float :=
  if (hi - lo).isFinite then some (lo + (hi - lo) / 2) else none

/-- Products rounded to nanoseconds, and the middle of each jitter range. -/
def Chance.steady : Chance := ⟨Duration.scale?, middle⟩

/-- A fresh schedule. -/
def start (policy : Policy) : Backoff := ⟨policy, 0, policy.initialDelay⟩

/-- Starts over, as after a connection. -/
def reset (b : Backoff) : Backoff := { b with attempts := 0, delay := b.policy.initialDelay }

/-- The delay varied by its jitter. Without jitter it stays. -/
def Chance.vary (c : Chance) (jitter : Float) (delay : Duration) : Option Duration :=
  if 0 < jitter then
    (c.draw (1 - jitter) (1 + jitter)).bind fun factor => c.scale factor delay
  else some delay

/-- Counts an attempt and answers the delay before it. The following delay is the multiple of this
one, capped; where either is no length of time, only the count has changed. -/
def next (c : Chance) (b : Backoff) : Answer × Backoff :=
  if b.policy.maxAttempts ≤ b.attempts then (.exhausted, b)
  else
    let counted := { b with attempts := b.attempts + 1 }
    match c.vary b.policy.jitter b.delay, c.scale b.policy.multiplier b.delay with
    | some varied, some following =>
      (.wait (min varied b.policy.maxDelay),
        { counted with delay := min following b.policy.maxDelay })
    | _, _ => (.unrepresentable, counted)

/-- A backoff that begins is as it is after a reset. -/
@[simp] theorem reset_start (policy : Policy) : (start policy).reset = start policy := rfl

/-- A reset keeps the policy. -/
@[simp] theorem policy_reset (b : Backoff) : b.reset.policy = b.policy := rfl

/-- Where no attempts are left, there is no next delay and nothing changes. -/
theorem next_of_exhausted (c : Chance) {b : Backoff} (h : b.policy.maxAttempts ≤ b.attempts) :
    b.next c = (.exhausted, b) := by
  simp [next, h]

/-- No call changes the policy. -/
@[simp] theorem policy_next (c : Chance) (b : Backoff) : (b.next c).2.policy = b.policy := by
  unfold next
  split
  · rfl
  · split <;> rfl

end Backoff

end Pursuit
