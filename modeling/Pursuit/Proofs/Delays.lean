import Mathlib.Data.List.Induction
import Mathlib.Tactic.ByContra
import Pursuit.Backoff

/-! # The delays of a schedule

A schedule counts its calls up to the number of attempts, whether or not a call comes to an end: one
whose delay is no length of time counts as well. Without jitter its answers hang on nothing but the
number of calls since the last reset.

* **`Backoff.Call`, `Backoff.record`** — calls in any order, and what they make of a schedule, together
  with the delays that it has returned since the last reset.
* **`Backoff.sinceReset`** — the number of calls since the last reset.
* **`Backoff.plainDelay?`** — the delays without jitter, before they are cut off at the longest one.
* **`Backoff.scheduled`** — the answers without jitter.
* **`Backoff.Kept`** — how a schedule stands after so many calls. **`Backoff.Kept.next`** carries it
  through a call, **`Backoff.kept_record`** through all of them.
* **`Backoff.schedule_restarts`** — counting, bounds and delays of every run. -/

namespace Pursuit

/-- The shorter of two lengths of time is no longer than the second. -/
theorem Duration.min_le_right (a b : Duration) : min a b ≤ b := by
  change (if a ≤ b then a else b) ≤ b
  split
  · assumption
  · exact Nat.le_refl b.nanos

namespace Backoff

/-! ## Calls -/

/-- A call of a schedule. The factors may be drawn in another way each time. -/
inductive Call where
  /-- The delay before the next attempt is asked for. -/
  | next (draw : Float → Float → Option Float)
  /-- The schedule starts over. -/
  | reset

/-- The delay that is returned, if one is. -/
def Answer.delay? : Answer → Option Duration
  | .wait d => some d
  | .exhausted | .unrepresentable => none

/-- A schedule, and what it has returned since the last reset. -/
structure Record where
  /-- The schedule. -/
  backoff : Backoff
  /-- The delays that it has returned, the first one first. -/
  delays : List Duration

/-- The number of calls since the last reset. -/
def sinceReset (cs : List Call) : Nat :=
  cs.foldl (fun n c =>
    match c with
    | .next _ => n + 1
    | .reset => 0) 0

/-- One more delay is asked for. -/
@[simp] theorem sinceReset_concat_next (cs : List Call) (draw : Float → Float → Option Float) :
    sinceReset (cs ++ [.next draw]) = sinceReset cs + 1 := by
  simp [sinceReset]

/-- After a reset no delay has been asked for. -/
@[simp] theorem sinceReset_concat_reset (cs : List Call) : sinceReset (cs ++ [.reset]) = 0 := by
  simp [sinceReset]

variable (scale : Float → Duration → Option Duration) (policy : Policy)

/-- What a call makes of a schedule, where lengths of time are multiplied in this way. -/
def Record.call (r : Record) : Call → Record
  | .next draw =>
    let (answer, b) := r.backoff.next ⟨scale, draw⟩
    ⟨b, r.delays ++ answer.delay?.toList⟩
  | .reset => ⟨r.backoff.reset, []⟩

/-- What calls make of a fresh schedule, one after the other. -/
def record (cs : List Call) : Record := cs.foldl (Record.call scale) ⟨start policy, []⟩

/-- The last call is made on what the others leave. -/
@[simp] theorem record_concat (cs : List Call) (c : Call) :
    record scale policy (cs ++ [c]) = (record scale policy cs).call scale c := by
  simp [record]

/-! ## The delays without jitter -/

/-- The delay of a call without jitter, before it is cut off at the longest one: each is a multiple of
the one before, cut off. After one that is no length of time there is none. -/
def plainDelay? : Nat → Option Duration
  | 0 => some policy.initialDelay
  | k + 1 =>
    (plainDelay? k).bind fun d => (scale policy.multiplier d).map (min · policy.maxDelay)

/-- The answer to a call without jitter, by the number of calls before it. It also takes the delay
that would follow. -/
def scheduled (k : Nat) : Answer :=
  if policy.maxAttempts.toNat ≤ k then .exhausted
  else
    match plainDelay? scale policy k, plainDelay? scale policy (k + 1) with
    | some d, some _ => .wait (min d policy.maxDelay)
    | _, _ => .unrepresentable

variable {scale policy}

/-- Without jitter a delay is not varied. -/
theorem Chance.vary_of_not {c : Chance} {jitter : Float} (h : ¬ 0 < jitter) (d : Duration) :
    c.vary jitter d = some d :=
  if_neg h

/-- The next plain delay is the one before, scaled and capped. -/
theorem plainDelay?_succ {k : Nat} {d : Duration} (h : plainDelay? scale policy k = some d) :
    plainDelay? scale policy (k + 1) =
      (scale policy.multiplier d).map (min · policy.maxDelay) := by
  simp [plainDelay?, h]

/-- Where there is no delay there is none later. -/
theorem plainDelay?_eq_none {k m : Nat} (h : plainDelay? scale policy k = none) (hle : k ≤ m) :
    plainDelay? scale policy m = none := by
  induction hle with
  | refl => exact h
  | step _ ih => simp [plainDelay?, ih]

/-! ## How a schedule stands -/

variable (scale policy) in
/-- How a schedule stands after so many calls since the last reset. -/
structure Kept (n : Nat) (r : Record) : Prop where
  /-- It still has its policy. -/
  policy_eq : r.backoff.policy = policy
  /-- The calls are counted as long as there are attempts. -/
  attempts : r.backoff.attempts.toNat = min n policy.maxAttempts.toNat
  /-- Without jitter, the delays that were returned are the first of the plain ones, cut off. -/
  delays : ¬ 0 < policy.jitter → ∀ k d, r.delays[k]? = some d →
    ∃ d', plainDelay? scale policy k = some d' ∧ d = min d' policy.maxDelay
  /-- Without jitter, the plain one that follows them is next. -/
  delay : ¬ 0 < policy.jitter → plainDelay? scale policy r.delays.length = some r.backoff.delay
  /-- No call returns more than one. -/
  length_le : r.delays.length ≤ min n policy.maxAttempts.toNat
  /-- Without jitter, calls that return none are only made when there is none any more. -/
  stuck : ¬ 0 < policy.jitter → r.delays.length < min n policy.maxAttempts.toNat →
    plainDelay? scale policy (r.delays.length + 1) = none

/-- A schedule that begins is kept. -/
theorem kept_start : Kept scale policy 0 ⟨start policy, []⟩ where
  policy_eq := rfl
  attempts := by simp [start]
  delays := fun _ k d h => by simp at h
  delay := fun _ => rfl
  length_le := Nat.zero_le _
  stuck := fun _ h => by simp at h

section

variable {n : Nat} {r : Record}

/-- After a reset a schedule stands as at its start. -/
theorem Kept.reset_eq (h : Kept scale policy n r) : r.backoff.reset = start policy := by
  simp [reset, start, h.policy_eq]

/-- A schedule is exhausted once as many delays were asked for as it has. -/
theorem Kept.maxAttempts_le_iff (h : Kept scale policy n r) :
    r.backoff.policy.maxAttempts ≤ r.backoff.attempts ↔ policy.maxAttempts.toNat ≤ n := by
  rw [h.policy_eq, UInt32.le_iff_toNat_le, h.attempts]
  omega

/-- When all attempts are used up nothing changes. -/
theorem Kept.next_exhausted (h : Kept scale policy n r) (hn : policy.maxAttempts.toNat ≤ n)
    (c : Chance) : r.backoff.next c = (.exhausted, r.backoff) :=
  next_of_exhausted c (h.maxAttempts_le_iff.2 hn)

/-- As long as there is an attempt it is counted; the rest hangs on whether the delay and the one that
follows are lengths of time. -/
theorem Kept.next_cases (h : Kept scale policy n r) (hn : n < policy.maxAttempts.toNat)
    (draw : Float → Float → Option Float) :
    ∃ b : Backoff, b.policy = policy ∧ b.attempts.toNat = n + 1 ∧
      ((∃ varied following,
          Chance.vary ⟨scale, draw⟩ policy.jitter r.backoff.delay = some varied ∧
          scale policy.multiplier r.backoff.delay = some following ∧
          b.delay = min following policy.maxDelay ∧
          r.backoff.next ⟨scale, draw⟩ = (.wait (min varied policy.maxDelay), b)) ∨
        ((¬ 0 < policy.jitter → scale policy.multiplier r.backoff.delay = none) ∧
          b.delay = r.backoff.delay ∧ r.backoff.next ⟨scale, draw⟩ = (.unrepresentable, b))) := by
  have hleft : ¬ r.backoff.policy.maxAttempts ≤ r.backoff.attempts := by
    rw [h.maxAttempts_le_iff]
    omega
  -- Attempts are counted below the greatest number of them, so the count does not wrap.
  have hcount : (r.backoff.attempts + 1).toNat = n + 1 := by
    have hattempts := h.attempts
    have hlt := policy.maxAttempts.toNat_lt
    rw [UInt32.toNat_add, UInt32.toNat_one]
    omega
  rw [next, if_neg hleft, h.policy_eq]
  cases hvary : Chance.vary ⟨scale, draw⟩ policy.jitter r.backoff.delay with
  | none =>
    -- The delay itself is no length of time.
    refine ⟨⟨policy, r.backoff.attempts + 1, r.backoff.delay⟩, rfl, hcount,
      .inr ⟨fun hjitter => ?_, rfl, rfl⟩⟩
    rw [Chance.vary_of_not hjitter] at hvary
    cases hvary
  | some varied =>
    cases hscale : scale policy.multiplier r.backoff.delay with
    | none =>
      -- There is a delay, but none to follow it.
      exact ⟨⟨policy, r.backoff.attempts + 1, r.backoff.delay⟩, rfl, hcount,
        .inr ⟨fun _ => rfl, rfl, by simp only [hscale]⟩⟩
    | some following =>
      exact ⟨⟨policy, r.backoff.attempts + 1, min following policy.maxDelay⟩, rfl, hcount,
        .inl ⟨varied, following, rfl, rfl, rfl, by simp only [hscale]⟩⟩

/-- Without jitter, where a delay follows all calls so far have returned one. -/
theorem Kept.length_eq (h : Kept scale policy n r) (hjitter : ¬ 0 < policy.jitter)
    (hn : n < policy.maxAttempts.toNat) {d : Duration}
    (hd : plainDelay? scale policy (r.delays.length + 1) = some d) : r.delays.length = n := by
  have hle := h.length_le
  by_contra hne
  have hstuck := h.stuck hjitter (by omega)
  rw [hd] at hstuck
  cases hstuck

/-- One more delay is returned, and one follows. -/
theorem Kept.concat (h : Kept scale policy n r) (hn : n < policy.maxAttempts.toNat)
    {varied following : Duration} {b : Backoff} (hpolicy : b.policy = policy)
    (hattempts : b.attempts.toNat = n + 1)
    (hvaried : ¬ 0 < policy.jitter → varied = r.backoff.delay)
    (hscale : scale policy.multiplier r.backoff.delay = some following)
    (hdelay : b.delay = min following policy.maxDelay) :
    Kept scale policy (n + 1) ⟨b, r.delays ++ [min varied policy.maxDelay]⟩ := by
  have hle := h.length_le
  -- Without jitter the next delay is the one before, scaled and capped.
  have hfollowing (hjitter : ¬ 0 < policy.jitter) :
      plainDelay? scale policy (r.delays.length + 1) = some b.delay := by
    rw [plainDelay?_succ (h.delay hjitter), hscale, hdelay, Option.map_some]
  refine ⟨hpolicy, hattempts.trans (Nat.min_eq_left hn).symm, fun hjitter k d hk => ?_,
    fun hjitter => ?_, ?_, fun hjitter hless => ?_⟩
  · rw [List.getElem?_append] at hk
    split at hk
    · exact h.delays hjitter k d hk
    · obtain ⟨hlast, rfl⟩ : k - r.delays.length = 0 ∧ min varied policy.maxDelay = d := by
        simpa [List.getElem?_singleton] using hk
      obtain rfl : k = r.delays.length := by omega
      exact ⟨r.backoff.delay, h.delay hjitter, by rw [hvaried hjitter]⟩
  · simpa using hfollowing hjitter
  · simp only [List.length_append, List.length_singleton]
    omega
  · have hlength := h.length_eq hjitter hn (hfollowing hjitter)
    simp only [List.length_append, List.length_singleton] at hless
    omega

/-- No delay is returned, since it or the one that follows is no length of time. -/
theorem Kept.unreturned (h : Kept scale policy n r) (hn : n < policy.maxAttempts.toNat)
    {b : Backoff} (hpolicy : b.policy = policy) (hattempts : b.attempts.toNat = n + 1)
    (hscale : ¬ 0 < policy.jitter → scale policy.multiplier r.backoff.delay = none)
    (hdelay : b.delay = r.backoff.delay) : Kept scale policy (n + 1) ⟨b, r.delays⟩ := by
  have hle := h.length_le
  refine ⟨hpolicy, hattempts.trans (Nat.min_eq_left hn).symm, h.delays, fun hjitter => ?_,
    by simp only; omega, fun hjitter _ => ?_⟩
  · rw [hdelay]
    exact h.delay hjitter
  · rw [plainDelay?_succ (h.delay hjitter), hscale hjitter]
    rfl

/-- **What a call keeps.** -/
theorem Kept.next (h : Kept scale policy n r) (draw : Float → Float → Option Float) :
    Kept scale policy (n + 1) (r.call scale (.next draw)) := by
  by_cases hn : policy.maxAttempts.toNat ≤ n
  · have hmin : min (n + 1) policy.maxAttempts.toNat = min n policy.maxAttempts.toNat := by omega
    have hcall : r.call scale (.next draw) = r := by
      simp [Record.call, h.next_exhausted hn, Answer.delay?]
    rw [hcall]
    exact ⟨h.policy_eq, hmin ▸ h.attempts, h.delays, h.delay, hmin ▸ h.length_le,
      hmin ▸ h.stuck⟩
  · obtain ⟨b, hpolicy, hattempts, ⟨varied, following, hvary, hscale, hdelay, hnext⟩ |
      ⟨hscale, hdelay, hnext⟩⟩ := h.next_cases (Nat.lt_of_not_le hn) draw
    · have hcall : r.call scale (.next draw) = ⟨b, r.delays ++ [min varied policy.maxDelay]⟩ := by
        simp [Record.call, hnext, Answer.delay?]
      rw [hcall]
      exact h.concat (Nat.lt_of_not_le hn) hpolicy hattempts
        (fun hjitter => Option.some.inj (hvary.symm.trans (Chance.vary_of_not hjitter _))) hscale
        hdelay
    · have hcall : r.call scale (.next draw) = ⟨b, r.delays⟩ := by
        simp [Record.call, hnext, Answer.delay?]
      rw [hcall]
      exact h.unreturned (Nat.lt_of_not_le hn) hpolicy hattempts hscale hdelay

/-- **The number of calls tells when the attempts are used up.** -/
theorem Kept.next_eq_exhausted_iff (h : Kept scale policy n r)
    (draw : Float → Float → Option Float) :
    (r.backoff.next ⟨scale, draw⟩).1 = .exhausted ↔ policy.maxAttempts.toNat ≤ n := by
  by_cases hn : policy.maxAttempts.toNat ≤ n
  · simp [h.next_exhausted hn, hn]
  · obtain ⟨b, _, _, ⟨varied, following, _, _, _, hnext⟩ | ⟨_, _, hnext⟩⟩ :=
      h.next_cases (Nat.lt_of_not_le hn) draw
    · simp [hnext, hn]
    · simp [hnext, hn]

/-- No delay is longer than the longest. -/
theorem Kept.delay_le (h : Kept scale policy n r) {draw : Float → Float → Option Float}
    {d : Duration} (hd : (r.backoff.next ⟨scale, draw⟩).1 = .wait d) : d ≤ policy.maxDelay := by
  have hn : ¬ policy.maxAttempts.toNat ≤ n := by
    rw [← h.next_eq_exhausted_iff draw, hd]
    simp
  obtain ⟨b, _, _, ⟨varied, following, _, _, _, hnext⟩ | ⟨_, _, hnext⟩⟩ :=
    h.next_cases (Nat.lt_of_not_le hn) draw
  · rw [hnext] at hd
    cases hd
    exact Duration.min_le_right _ _
  · rw [hnext] at hd
    cases hd

/-- **Without jitter the number of calls tells the answer.** -/
theorem Kept.next_eq_scheduled (h : Kept scale policy n r) (hjitter : ¬ 0 < policy.jitter)
    (draw : Float → Float → Option Float) :
    (r.backoff.next ⟨scale, draw⟩).1 = scheduled scale policy n := by
  by_cases hn : policy.maxAttempts.toNat ≤ n
  · rw [h.next_exhausted hn, scheduled, if_pos hn]
  · rw [scheduled, if_neg hn]
    have hfollowing := plainDelay?_succ (h.delay hjitter)
    obtain ⟨b, _, _, ⟨varied, following, hvary, hscale, _, hnext⟩ | ⟨hscale, _, hnext⟩⟩ :=
      h.next_cases (Nat.lt_of_not_le hn) draw
    · rw [hscale, Option.map_some] at hfollowing
      rw [Chance.vary_of_not hjitter] at hvary
      have hdelay := h.delay hjitter
      have hlength := h.length_eq hjitter (Nat.lt_of_not_le hn) hfollowing
      rw [hlength] at hfollowing hdelay
      rw [hnext, hfollowing, hdelay, Option.some.inj hvary]
    · rw [hscale hjitter, Option.map_none] at hfollowing
      have hle := h.length_le
      rw [hnext, plainDelay?_eq_none hfollowing (by omega : _ ≤ n + 1)]
      cases plainDelay? scale policy n <;> rfl

end

variable (scale policy)

/-- After any calls a schedule stands as the calls since the last reset have it. -/
theorem kept_record (cs : List Call) :
    Kept scale policy (sinceReset cs) (record scale policy cs) := by
  induction cs using List.reverseRecOn with
  | nil => exact kept_start
  | append_singleton cs c ih =>
    rw [record_concat]
    cases c with
    | next draw =>
      rw [sinceReset_concat_next]
      exact ih.next draw
    | reset =>
      rw [sinceReset_concat_reset, Record.call, ih.reset_eq]
      exact kept_start

/-- **A schedule keeps to its policy**, whatever has been called, and however lengths of time are
multiplied and factors drawn. It counts the calls since the last reset, as long as there are attempts;
that many calls do not tell that the attempts are used up, and every later one does, and changes
nothing. No delay is longer than the longest. Without jitter the answer follows from the number of
calls, and the delays that are returned are the plain ones, cut off. After a reset everything is as
after the start. -/
theorem schedule_restarts (cs : List Call) :
    let r := record scale policy cs
    r.backoff.attempts.toNat = min (sinceReset cs) policy.maxAttempts.toNat ∧
      (∀ draw, (r.backoff.next ⟨scale, draw⟩).1 = .exhausted ↔
        policy.maxAttempts.toNat ≤ sinceReset cs) ∧
      (∀ draw, policy.maxAttempts.toNat ≤ sinceReset cs →
        (r.backoff.next ⟨scale, draw⟩).2 = r.backoff) ∧
      (∀ draw d, (r.backoff.next ⟨scale, draw⟩).1 = .wait d → d ≤ policy.maxDelay) ∧
      (¬ 0 < policy.jitter →
        (∀ draw, (r.backoff.next ⟨scale, draw⟩).1 = scheduled scale policy (sinceReset cs)) ∧
        ∀ k d, r.delays[k]? = some d →
          ∃ d', plainDelay? scale policy k = some d' ∧ d = min d' policy.maxDelay) ∧
      ∀ cs', record scale policy (cs ++ .reset :: cs') = record scale policy cs' := by
  intro r
  have h : Kept scale policy (sinceReset cs) r := kept_record scale policy cs
  refine ⟨h.attempts, h.next_eq_exhausted_iff, fun draw hn => by rw [h.next_exhausted hn],
    fun draw d hd => h.delay_le hd, fun hjitter => ⟨h.next_eq_scheduled hjitter, h.delays hjitter⟩,
    fun cs' => ?_⟩
  -- After a reset the schedule is the fresh one, so what follows makes the same of both.
  have hreset : r.call scale .reset = ⟨start policy, []⟩ := by rw [Record.call, h.reset_eq]
  rw [record, List.foldl_append, List.foldl_cons]
  exact congrArg (cs'.foldl (Record.call scale)) hreset

/-- Delays that double from 100 ms up to 500 ms: after a reset in their midst they are all returned
again, and then no more. -/
theorem schedule_restarts_doubling :
    let policy : Policy := ⟨.ofMillis 100, 2, .ofMillis 500, 5, 0⟩
    let call : Call := .next fun _ _ => none
    let ds : List Duration := [100, 200, 400, 500, 500].map .ofMillis
    let r := record Duration.scale? policy [call, call, .reset, call, call, call, call, call]
    let r' := record Duration.scale? policy [call, call]
    ¬ 0 < policy.jitter ∧ r.delays = ds ∧
      (∀ k d, ds[k]? = some d →
        ∃ d', plainDelay? Duration.scale? policy k = some d' ∧ d = min d' policy.maxDelay) ∧
      (r.backoff.next .steady).2 = r.backoff ∧
      (r'.backoff.next ⟨Duration.scale?, fun _ _ => none⟩).1 = .wait (.ofMillis 400) ∧
      Duration.ofMillis 400 ≤ policy.maxDelay := by
  intro policy call ds r r'
  have hjitter : ¬ 0 < policy.jitter := by decide +kernel
  have hdelays : r.delays = ds := by decide +kernel
  have hwait : (r'.backoff.next ⟨Duration.scale?, fun _ _ => none⟩).1 = .wait (.ofMillis 400) := by
    decide +kernel
  obtain ⟨_, _, hexhausted, _, hplain, _⟩ := schedule_restarts Duration.scale? policy
    [call, call, .reset, call, call, call, call, call]
  obtain ⟨_, _, _, hlongest, _, _⟩ := schedule_restarts Duration.scale? policy [call, call]
  exact ⟨hjitter, hdelays, fun k d hd => (hplain hjitter).2 k d (hdelays ▸ hd),
    hexhausted middle (by decide), hwait, hlongest _ _ hwait⟩

end Backoff

end Pursuit
