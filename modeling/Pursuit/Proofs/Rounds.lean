import Pursuit.Proofs.Upkeep

/-! # The clock of a round

A round runs from its start until the first step at which its steps add up to its length. That step
ends it, and moves nothing; what players ask for changes neither the clock nor where anybody stands.

* **`Game.Call`, `Game.calls?`** — what is done with a game once its level is loaded, in any order.
* **`Game.roundSteps`, `Game.TimeUp`** — the steps of the round, and whether its time is up.
* **`Game.Clock`** — the phase and the time of a game, told by its calls alone.
  **`Game.Clock.exists_call`** carries them through a call, **`Game.Clock.exists_calls`** through all
  calls.
* **`Station.Deciding`** — the stations whose game decides. Their game has no level exactly if it is
  empty, which is **`Game.Settled`**.
* **`Station.Deciding.round_clock`** — both together. -/

namespace Pursuit

/-- Several lengths of time together, in nanoseconds. -/
def Duration.total : List Duration → Nat
  | [] => 0
  | dt :: dts => dt.nanos + total dts

namespace Duration

/-- No time at all is none. -/
@[simp] theorem total_nil : total [] = 0 := rfl

/-- Lengths of time that follow one another add up. -/
@[simp] theorem total_append (dts dts' : List Duration) :
    total (dts ++ dts') = total dts + total dts' := by
  induction dts with
  | nil => exact (Nat.zero_add _).symm
  | cons dt dts ih => rw [List.cons_append, total, ih, total, Nat.add_assoc]

/-- One length of time is its own total. -/
@[simp] theorem total_singleton (dt : Duration) : total [dt] = dt.nanos := by
  simp [total]

/-- The first of several lengths of time are no longer than all of them. -/
theorem total_take_le (dts : List Duration) (k : Nat) : total (dts.take k) ≤ total dts := by
  conv => rhs; rw [← List.take_append_drop k dts, total_append]
  exact Nat.le_add_right _ _

end Duration

namespace Game

/-! ## Calls -/

/-- What is done with a game of a loaded level, by the one whose game it is and by players who ask. -/
inductive Call where
  /-- The round is started. -/
  | start
  /-- The game is stepped. -/
  | step (dt : Duration)
  /-- A player asks to steer. -/
  | steer (sender : PlayerId) (o : SteerOrder)
  /-- A player asks to mark. -/
  | highlight (sender : PlayerId) (o : HighlightOrder)
deriving DecidableEq

/-- What a call makes of a game. A request that is refused changes nothing; a step to a time that the
clock cannot show is not made. -/
def call? (g : Game) : Call → Option Game
  | .start => some g.start
  | .step dt => g.step? dt
  | .steer sender o => some ((g.steer sender o).toOption.getD g)
  | .highlight sender o => some ((g.highlight sender o).toOption.getD g)

/-- What calls make of a game one after the other. -/
def calls? (g : Game) (cs : List Call) : Option Game := cs.foldlM call? g

/-- How long a call steps the game, if it does. -/
def Call.duration? : Call → Option Duration
  | .step dt => some dt
  | _ => none

/-- The steps of the round: those after its start. -/
def roundSteps : List Call → List Duration
  | [] => []
  | .start :: cs => cs.filterMap Call.duration?
  | _ :: cs => roundSteps cs

/-- Whether some of the first steps, at least one, add up to the length of the round. -/
def TimeUp (length : Duration) (dts : List Duration) : Prop :=
  ∃ k, 0 < k ∧ k ≤ dts.length ∧ length.nanos ≤ Duration.total (dts.take k)

/-- Where all pieces stand, who lives and who has arrived, and when the last piece arrived. -/
def standing (g : Game) : List (Vec × Bool × Bool) × Option Single :=
  (g.pieces.map fun p => (p.position, p.state.living, p.state.arrived), g.lastArrival)

/-- Calls are made one after the other, and none is made after a step that is not. -/
theorem calls?_append (g : Game) (cs cs' : List Call) :
    g.calls? (cs ++ cs') = (g.calls? cs).bind (·.calls? cs') :=
  List.foldlM_append

/-- The last call is made on the game that the others leave. -/
theorem calls?_concat (g : Game) (cs : List Call) (c : Call) :
    g.calls? (cs ++ [c]) = (g.calls? cs).bind (·.call? c) := by
  rw [calls?_append]
  congr 1
  funext g'
  simp [calls?]

/-- Before the start no step counts, afterwards every step does. -/
theorem roundSteps_append (cs cs' : List Call) :
    roundSteps (cs ++ cs') =
      if .start ∈ cs then roundSteps cs ++ cs'.filterMap Call.duration? else roundSteps cs' := by
  induction cs with
  | nil => simp
  | cons c cs ih => cases c <;> simp [roundSteps, ih]

/-- Before its start a round has no steps. -/
theorem roundSteps_of_not_started {cs : List Call} (h : .start ∉ cs) : roundSteps cs = [] := by
  have := roundSteps_append cs []
  rwa [List.append_nil, if_neg h] at this

/-- The steps of a round are no longer than they are together with further ones. -/
theorem total_roundSteps_append_le (cs cs' : List Call) :
    Duration.total (roundSteps cs) ≤ Duration.total (roundSteps (cs ++ cs')) := by
  by_cases hstart : .start ∈ cs
  · rw [roundSteps_append, if_pos hstart, Duration.total_append]
    exact Nat.le_add_right _ _
  · rw [roundSteps_of_not_started hstart]
    exact Nat.zero_le _

/-- The time of a round is up as soon as there is a step and all steps together are long enough. -/
theorem timeUp_iff {length : Duration} {dts : List Duration} :
    TimeUp length dts ↔ dts ≠ [] ∧ length.nanos ≤ Duration.total dts := by
  constructor
  · rintro ⟨k, hpos, hk, hle⟩
    exact ⟨List.ne_nil_of_length_pos (by omega), Nat.le_trans hle (Duration.total_take_le dts k)⟩
  · rintro ⟨hne, hle⟩
    exact ⟨dts.length, List.length_pos_iff.2 hne, Nat.le_refl _, by rwa [List.take_length]⟩

/-- Once the time is up, further steps do not bring it back. -/
theorem TimeUp.append {length : Duration} {dts : List Duration} (h : TimeUp length dts)
    (dts' : List Duration) : TimeUp length (dts ++ dts') := by
  rw [timeUp_iff] at h ⊢
  rw [Duration.total_append]
  exact ⟨List.append_ne_nil_of_left_ne_nil h.1 dts', by omega⟩

/-- The time of a round that has not been started is not up. -/
theorem TimeUp.started {length : Duration} {cs : List Call} (h : TimeUp length (roundSteps cs)) :
    .start ∈ cs := by
  by_contra hstart
  exact (timeUp_iff.1 h).1 (roundSteps_of_not_started hstart)

/-! ## What calls leave alone -/

/-- Two games of one round that differ in their entities' data at most. -/
structure SameRound (g g' : Game) : Prop where
  /-- The rules. -/
  rules : g'.rules = g.rules
  /-- How far the round has come. -/
  phase : g'.phase = g.phase
  /-- The level. -/
  level : g'.level = g.level
  /-- The time of the round. -/
  elapsed : g'.elapsed = g.elapsed
  /-- When the last piece arrived. -/
  lastArrival : g'.lastArrival = g.lastArrival
  /-- How many pieces there are. -/
  pieces : g'.pieces.length = g.pieces.length
  /-- How many obstacles there are. -/
  obstacles : g'.obstacles.length = g.obstacles.length

/-- A game is in its own round. -/
theorem SameRound.refl (g : Game) : g.SameRound g := ⟨rfl, rfl, rfl, rfl, rfl, rfl, rfl⟩

/-- A change of one piece that moves it nowhere and leaves its flags alone. -/
theorem standing_modifyPiece (g : Game) (place : Nat) {f : Piece → Piece}
    (hf : ∀ p, ((f p).position, (f p).state.living, (f p).state.arrived) =
      (p.position, p.state.living, p.state.arrived)) :
    (g.modifyPiece place f).standing = g.standing := by
  refine Prod.ext (List.ext_getElem? fun i => ?_) rfl
  simp only [standing, modifyPiece, List.getElem?_map, List.getElem?_modify]
  cases g.pieces[i]? with
  | none => rfl
  | some p =>
    by_cases hi : place = i
    · simpa [hi] using hf p
    · simp [hi]

/-- A request changes one piece at most, and nothing that the round is about. -/
theorem granted_spec (g : Game) (player : PlayerId) (index : UInt8) {f : Piece → Piece}
    (hf : ∀ p, ((f p).position, (f p).state.living, (f p).state.arrived) =
      (p.position, p.state.living, p.state.arrived)) :
    let g' := ((g.requested player index).map fun i => g.modifyPiece i f).toOption.getD g
    g.SameRound g' ∧ g'.standing = g.standing := by
  cases g.requested player index with
  | error => exact ⟨.refl g, rfl⟩
  | ok place =>
    exact ⟨⟨rfl, rfl, rfl, rfl, rfl, List.length_modify _ _ _, rfl⟩, standing_modifyPiece g place hf⟩

/-- What players ask for leaves the round alone. -/
theorem steer_spec (g : Game) (sender : PlayerId) (o : SteerOrder) :
    g.SameRound ((g.steer sender o).toOption.getD g) ∧
      ((g.steer sender o).toOption.getD g).standing = g.standing :=
  granted_spec g sender o.unitIndex fun _ => rfl

/-- To ask for a mark, granted or not, changes neither the round nor where anybody stands. -/
theorem highlight_spec (g : Game) (sender : PlayerId) (o : HighlightOrder) :
    g.SameRound ((g.highlight sender o).toOption.getD g) ∧
      ((g.highlight sender o).toOption.getD g).standing = g.standing :=
  granted_spec g sender o.unitIndex fun _ => rfl

/-- A start of anything but a loaded level does nothing. -/
theorem start_of_not_loaded {g : Game} (h : g.phase ≠ .loaded) : g.start = g := by
  rw [start, if_neg h]

/-- The start of a round moves nobody. -/
theorem standing_start (g : Game) : g.start.standing = g.standing := by
  unfold start
  split <;> rfl

/-- A step of a running round that its clock can show: it ends the round if the time is up, and
nobody moves then. -/
theorem step?_of_running {g : Game} {dt elapsed : Duration} (h : g.phase = .running)
    (hadd : g.elapsed.nanos + dt.nanos = elapsed.nanos) :
    ∃ g', g.step? dt = some g' ∧ g'.elapsed = elapsed ∧ g'.rules = g.rules ∧
      (g.rules.roundLength ≤ elapsed → g'.phase = .finished ∧ g'.standing = g.standing) ∧
      (¬ g.rules.roundLength ≤ elapsed → g'.phase = .running) := by
  rw [step?, if_pos h, Duration.add?_eq_some_iff.2 hadd, Option.map_some]
  by_cases hup : g.rules.roundLength ≤ elapsed
  · rw [if_pos hup]
    exact ⟨_, rfl, rfl, rfl, fun _ => ⟨rfl, rfl⟩, fun hnot => absurd hup hnot⟩
  · rw [if_neg hup]
    exact ⟨_, rfl, rfl, rfl, fun h' => absurd h' hup, fun _ => h⟩

/-! ## The clock -/

/-- **The phase and the time of a game**, told by the calls since its level was loaded. -/
structure Clock (length : Duration) (cs : List Call) (g : Game) : Prop where
  /-- The length of the round. -/
  roundLength : g.rules.roundLength = length
  /-- Before the start the level is loaded. -/
  loaded : .start ∉ cs → g.phase = .loaded
  /-- After the start the round runs until its time is up. -/
  running : .start ∈ cs → ¬ TimeUp length (roundSteps cs) → g.phase = .running
  /-- Then it is over. -/
  finished : TimeUp length (roundSteps cs) → g.phase = .finished
  /-- The clock shows how long the steps of the round were. -/
  elapsed : g.phase = .running → g.elapsed.nanos = Duration.total (roundSteps cs)

namespace Clock

variable {length : Duration} {cs : List Call} {g g' : Game} {c : Call}

/-- The phase of a game says whether its round has begun and whether its time is up. -/
theorem phase_iff (h : g.Clock length cs) :
    (g.phase = .finished ↔ TimeUp length (roundSteps cs)) ∧
      (g.phase = .running ↔ .start ∈ cs ∧ ¬ TimeUp length (roundSteps cs)) ∧
      (g.phase = .loaded ↔ .start ∉ cs) := by
  by_cases hup : TimeUp length (roundSteps cs)
  · simp [h.finished hup, hup, hup.started]
  · by_cases hstart : .start ∈ cs
    · simp [h.running hstart hup, hup, hstart]
    · simp [h.loaded hstart, hup, hstart]

/-- Calls that are no step go on in the same round. -/
theorem of_sameRound (h : g.Clock length cs) (hg : g.SameRound g') (hstart : c ≠ .start)
    (hstep : c.duration? = none) : g'.Clock length (cs ++ [c]) := by
  have hmem : .start ∈ cs ++ [c] ↔ .start ∈ cs := by simp [hstart.symm]
  have hsteps : roundSteps (cs ++ [c]) = roundSteps cs := by
    rw [roundSteps_append]
    split
    · simp [hstep]
    · rename_i hnot
      rw [roundSteps_of_not_started hnot, roundSteps_of_not_started]
      simpa using hstart.symm
  constructor
  · rw [hg.rules, h.roundLength]
  · rw [hmem, hg.phase]
    exact h.loaded
  · rw [hmem, hsteps, hg.phase]
    exact h.running
  · rw [hsteps, hg.phase]
    exact h.finished
  · rw [hsteps, hg.phase, hg.elapsed]
    exact h.elapsed

/-- A start makes a loaded round run, and no other. -/
theorem start (h : g.Clock length cs) : g.start.Clock length (cs ++ [.start]) := by
  by_cases hstart : .start ∈ cs
  · -- A second start changes nothing, since the round runs or is over.
    have hloaded : g.phase ≠ .loaded := by
      by_cases hup : TimeUp length (roundSteps cs)
      · rw [h.finished hup]; decide
      · rw [h.running hstart hup]; decide
    have hsteps : roundSteps (cs ++ [.start]) = roundSteps cs := by
      rw [roundSteps_append, if_pos hstart]
      simp [Call.duration?]
    rw [start_of_not_loaded hloaded]
    constructor
    · exact h.roundLength
    · exact fun hnot => absurd (List.mem_append_left _ hstart) hnot
    · rw [hsteps]
      exact fun _ => h.running hstart
    · rw [hsteps]
      exact h.finished
    · rw [hsteps]
      exact h.elapsed
  · -- The first start begins the round, with no step behind it.
    have hsteps : roundSteps (cs ++ [.start]) = [] := by
      rw [roundSteps_append, if_neg hstart]
      rfl
    rw [Game.start, if_pos (h.loaded hstart)]
    constructor
    · exact h.roundLength
    · exact fun hnot => absurd (List.mem_append_right _ List.mem_cons_self) hnot
    · exact fun _ _ => rfl
    · rw [hsteps]
      exact fun hup => absurd rfl (timeUp_iff.1 hup).1
    · rw [hsteps]
      exact fun _ => rfl

/-- A step after the start is one of the round. -/
theorem roundSteps_step (hstart : .start ∈ cs) (dt : Duration) :
    roundSteps (cs ++ [.step dt]) = roundSteps cs ++ [dt] := by
  rw [roundSteps_append, if_pos hstart]
  rfl

/-- A step before the start is none of the round. -/
theorem step_of_not_started (h : g.Clock length cs) (hstart : .start ∉ cs) (dt : Duration) :
    g.Clock length (cs ++ [.step dt]) := by
  have hnot : .start ∉ cs ++ [.step dt] := by simpa using hstart
  have hloaded := h.loaded hstart
  constructor
  · exact h.roundLength
  · exact fun _ => hloaded
  · exact fun hcon => absurd hcon hnot
  · rw [roundSteps_of_not_started hnot]
    exact fun hup => absurd rfl (timeUp_iff.1 hup).1
  · intro hrunning
    rw [hloaded] at hrunning
    cases hrunning

/-- A step once the round is over leaves it so. -/
theorem step_of_timeUp (h : g.Clock length cs) (hup : TimeUp length (roundSteps cs))
    (dt : Duration) : g.Clock length (cs ++ [.step dt]) := by
  have hfinished := h.finished hup
  have hup' : TimeUp length (roundSteps (cs ++ [.step dt])) := by
    rw [roundSteps_step hup.started]
    exact hup.append [dt]
  constructor
  · exact h.roundLength
  · exact fun hnot => absurd (List.mem_append_left _ hup.started) hnot
  · exact fun _ hnot => absurd hup' hnot
  · exact fun _ => hfinished
  · intro hrunning
    rw [hfinished] at hrunning
    cases hrunning

/-- A step of a running round takes the clock on, and ends the round exactly if the clock comes to its
length. -/
theorem exists_step_of_running (h : g.Clock length cs) (hstart : .start ∈ cs)
    (hup : ¬ TimeUp length (roundSteps cs)) (dt : Duration)
    (hsum : Duration.total (roundSteps cs ++ [dt]) < UInt64.size * 1000000000) :
    ∃ g', g.step? dt = some g' ∧ g'.Clock length (cs ++ [.step dt]) ∧
      (TimeUp length (roundSteps cs ++ [dt]) → g'.standing = g.standing) := by
  have hrunning := h.running hstart hup
  -- The clock shows the sum of the steps so far, and has room for this one.
  have hadd : g.elapsed.nanos + dt.nanos = (⟨_, hsum⟩ : Duration).nanos := by
    show _ = Duration.total (roundSteps cs ++ [dt])
    rw [h.elapsed hrunning, Duration.total_append, Duration.total_singleton]
  obtain ⟨g', hg', helapsed, hrules, hend, hon⟩ := step?_of_running hrunning hadd
  have hiff : TimeUp length (roundSteps cs ++ [dt]) ↔
      g.rules.roundLength ≤ (⟨_, hsum⟩ : Duration) := by
    rw [timeUp_iff, h.roundLength]
    exact ⟨fun h => h.2, fun h => ⟨by simp, h⟩⟩
  refine ⟨g', hg', ?_, fun h' => (hend (hiff.1 h')).2⟩
  constructor
  · rw [hrules, h.roundLength]
  · exact fun hnot => absurd (List.mem_append_left _ hstart) hnot
  · rw [roundSteps_step hstart, hiff]
    exact fun _ => hon
  · rw [roundSteps_step hstart, hiff]
    exact fun h' => (hend h').1
  · rw [roundSteps_step hstart, helapsed]
    exact fun _ => rfl

/-- A step takes the clock on. Before the start, and once the round is over, it changes nothing; the
step that ends the round moves nobody. -/
theorem exists_step (h : g.Clock length cs) (dt : Duration)
    (hsum : Duration.total (roundSteps (cs ++ [.step dt])) < UInt64.size * 1000000000) :
    ∃ g', g.step? dt = some g' ∧ g'.Clock length (cs ++ [.step dt]) ∧
      (.start ∉ cs → g' = g) ∧
      (TimeUp length (roundSteps (cs ++ [.step dt])) → g'.standing = g.standing) := by
  by_cases hstart : .start ∈ cs
  · by_cases hup : TimeUp length (roundSteps cs)
    · have hidle := step?_of_not_running (g := g) dt (by rw [h.finished hup]; decide)
      exact ⟨g, hidle, h.step_of_timeUp hup dt, fun _ => rfl, fun _ => rfl⟩
    · rw [roundSteps_step hstart] at hsum ⊢
      obtain ⟨g', hg', hclock, hstand⟩ := h.exists_step_of_running hstart hup dt hsum
      exact ⟨g', hg', hclock, fun hnot => absurd hstart hnot, hstand⟩
  · have hidle := step?_of_not_running (g := g) dt (by rw [h.loaded hstart]; decide)
    exact ⟨g, hidle, h.step_of_not_started hstart dt, fun _ => rfl, fun _ => rfl⟩

/-- **One call.** It is made, and the clock goes on. A step before the start and a start after it
change nothing, and once the time is up no call moves anybody. -/
theorem exists_call (h : g.Clock length cs) (c : Call)
    (hsum : Duration.total (roundSteps (cs ++ [c])) < UInt64.size * 1000000000) :
    ∃ g', g.call? c = some g' ∧ g'.Clock length (cs ++ [c]) ∧
      (c.duration?.isSome = true → .start ∉ cs → g' = g) ∧
      (c = .start → .start ∈ cs → g' = g) ∧
      (TimeUp length (roundSteps (cs ++ [c])) → g'.standing = g.standing) := by
  cases c with
  | start =>
    refine ⟨g.start, rfl, h.start, nofun, fun _ hstart => ?_, fun _ => g.standing_start⟩
    -- After a start the round runs or is over, and is not waiting for one.
    refine start_of_not_loaded fun hloaded => ?_
    by_cases hup : TimeUp length (roundSteps cs)
    · rw [h.finished hup] at hloaded; cases hloaded
    · rw [h.running hstart hup] at hloaded; cases hloaded
  | step dt =>
    obtain ⟨g', hg', hclock, hidle, hstand⟩ := h.exists_step dt hsum
    exact ⟨g', hg', hclock, fun _ => hidle, nofun, hstand⟩
  | steer sender o =>
    obtain ⟨hround, hstand⟩ := g.steer_spec sender o
    exact ⟨_, rfl, h.of_sameRound hround nofun rfl, nofun, nofun, fun _ => hstand⟩
  | highlight sender o =>
    obtain ⟨hround, hstand⟩ := g.highlight_spec sender o
    exact ⟨_, rfl, h.of_sameRound hround nofun rfl, nofun, nofun, fun _ => hstand⟩

/-- **All calls**, one after the other. Once the time is up, nobody moves any more. -/
theorem exists_calls (h : g.Clock length cs) (cs' : List Call)
    (hsum : Duration.total (roundSteps (cs ++ cs')) < UInt64.size * 1000000000) :
    ∃ g', g.calls? cs' = some g' ∧ g'.Clock length (cs ++ cs') ∧
      (TimeUp length (roundSteps cs) → g'.standing = g.standing) := by
  induction cs' generalizing g cs with
  | nil => exact ⟨g, rfl, by rwa [List.append_nil], fun _ => rfl⟩
  | cons c cs' ih =>
    rw [List.append_cons] at hsum ⊢
    obtain ⟨g₁, hg₁, hclock, _, _, hstand⟩ := h.exists_call c
      (Nat.lt_of_le_of_lt (total_roundSteps_append_le (cs ++ [c]) cs') hsum)
    obtain ⟨g', hg', hclock', hstand'⟩ := ih hclock hsum
    refine ⟨g', ?_, hclock', fun hup => ?_⟩
    · rw [calls?, List.foldlM_cons, hg₁]
      exact hg'
    · have hup' : TimeUp length (roundSteps (cs ++ [c])) := by
        rw [roundSteps_append, if_pos hup.started]
        exact hup.append _
      rw [hstand' hup', hstand hup']

end Clock

/-! ## Empty games -/

/-- A game that has no level exactly if it is empty, and then nobody and nothing is on its field. -/
structure Settled (g : Game) : Prop where
  /-- An empty game has no level, and no other has none. -/
  empty_iff : g.phase = .empty ↔ g.level = none
  /-- An empty game has no pieces. -/
  pieces : g.phase = .empty → g.pieces = []
  /-- It has no obstacles. -/
  obstacles : g.phase = .empty → g.obstacles = []
  /-- Nobody has arrived in it. -/
  lastArrival : g.phase = .empty → g.lastArrival = none

namespace Settled

variable {g g' : Game}

/-- A game with a level that is not empty is settled. -/
theorem of_phase_ne (hphase : g.phase ≠ .empty) (hlevel : g.level ≠ none) : g.Settled where
  empty_iff := ⟨fun h => absurd h hphase, fun h => absurd h hlevel⟩
  pieces h := absurd h hphase
  obstacles h := absurd h hphase
  lastArrival h := absurd h hphase

/-- A settled game that is not empty has a level. -/
theorem level_ne (h : g.Settled) (hphase : g.phase ≠ .empty) : g.level ≠ none :=
  fun hlevel => hphase (h.empty_iff.2 hlevel)

/-- A game that everything has been taken from is settled. -/
theorem cleared (g : Game) : g.cleared.Settled where
  empty_iff := ⟨fun _ => rfl, fun _ => rfl⟩
  pieces _ := rfl
  obstacles _ := rfl
  lastArrival _ := rfl

/-- Entities with other data make no difference. -/
theorem congr (h : g.Settled) (hg : g.SameRound g') : g'.Settled where
  empty_iff := by rw [hg.phase, hg.level]; exact h.empty_iff
  pieces hphase := by
    rw [← List.length_eq_zero_iff, hg.pieces, h.pieces (hg.phase ▸ hphase)]; rfl
  obstacles hphase := by
    rw [← List.length_eq_zero_iff, hg.obstacles, h.obstacles (hg.phase ▸ hphase)]; rfl
  lastArrival hphase := by rw [hg.lastArrival, h.lastArrival (hg.phase ▸ hphase)]

/-- The start of a round leaves a game settled. -/
theorem start (h : g.Settled) : g.start.Settled := by
  by_cases hloaded : g.phase = .loaded
  · have hlevel := h.level_ne (by rw [hloaded]; decide)
    rw [Game.start, if_pos hloaded]
    exact .of_phase_ne (by simp) hlevel
  · rw [start_of_not_loaded hloaded]
    exact h

/-- A step leaves a game settled, whether it is made or not. -/
theorem step (h : g.Settled) (dt : Duration) : ((g.step? dt).getD g).Settled := by
  by_cases hrunning : g.phase = .running
  · have hlevel := h.level_ne (by rw [hrunning]; decide)
    rw [step?, if_pos hrunning]
    cases g.elapsed.add? dt with
    | none => exact h
    | some elapsed =>
      rw [Option.map_some, Option.getD_some]
      split
      · exact .of_phase_ne (by simp) hlevel
      · exact .of_phase_ne (by rw [hrunning]; decide) hlevel
  · rw [step?_of_not_running dt hrunning]
    exact h

/-- Every call leaves a game settled. -/
theorem call (h : g.Settled) (c : Call) : ((g.call? c).getD g).Settled := by
  cases c with
  | start => exact h.start
  | step dt => exact h.step dt
  | steer sender o => exact h.congr (g.steer_spec sender o).1
  | highlight sender o => exact h.congr (g.highlight_spec sender o).1

end Settled

end Game

/-! ## Stations whose game decides -/

/-- Whether an action makes a game follow: it creates what the game does not have, or forgets. -/
def Action.feeds : Action → Bool
  | .discoverPiece | .discoverObstacle | .greet => true
  | _ => false

namespace Replication

variable {α : Type} {r : Replication} {hub : Hub α} {h : Handler α}

/-- An entity that goes leaves no handlers but such as there were. -/
theorem mem_handlers_of_retire (hh : h ∈ (r.retire hub).registry.handlers) :
    h ∈ hub.registry.handlers := by
  rw [handlers_retire] at hh
  exact (List.mem_filter.1 hh).1

/-- Of the handlers after an entity has got its id, only the entity's own is new. -/
theorem mem_handlers_of_generate {action : α}
    (hh : h ∈ (r.generate action hub).2.2.registry.handlers) :
    h ∈ hub.registry.handlers ∨ h.action = action := by
  unfold generate at hh
  split at hh
  · simp only [assign] at hh
    split at hh
    · exact .inl hh
    · split at hh
      · rw [Registry.handlers_add, List.mem_append, List.mem_singleton] at hh
        rcases hh with hh | rfl
        · have hold := mem_handlers_of_retire hh
          exact .inl hold
        · exact .inr rfl
      · have hold := mem_handlers_of_retire hh
        exact .inl hold
  · exact .inl hh

end Replication

namespace Station

/-- A station with a game whose handlers do not feed it, so that it decides by itself. -/
structure Governs (g : Game) (s : Station) : Prop where
  /-- The game is there. -/
  game : s.game = some g
  /-- No handler feeds the game. -/
  unfed : ∀ h ∈ s.hub.registry.handlers, h.action.feeds = false
  /-- It has no level exactly if it is empty. -/
  settled : g.Settled

namespace Governs

variable {g g' : Game} {s s' : Station}

/-- A station that decides goes on to do so whatever its game becomes, if that is settled. -/
theorem mapGame (h : s.Governs g) {f : Game → Game} (hf : (f g).Settled) :
    (s.mapGame f).Governs (f g) where
  game := by rw [Station.mapGame, h.game]; rfl
  unfed := h.unfed
  settled := hf

/-- Letting entities go takes handlers away, and the game is the same. -/
theorem foldl_letGo (ps : List Piece) (s : Station) :
    (ps.foldl letGo s).game = s.game ∧
      ∀ h ∈ (ps.foldl letGo s).hub.registry.handlers, h ∈ s.hub.registry.handlers := by
  induction ps generalizing s with
  | nil => exact ⟨rfl, fun _ hh => hh⟩
  | cons p ps ih =>
    obtain ⟨hgame, hhandlers⟩ := ih (s.letGo p)
    rw [List.foldl_cons, hgame]
    constructor
    · unfold letGo; split <;> rfl
    · intro h hh
      have := hhandlers h hh
      unfold letGo at this
      split at this
      · exact this
      · exact Replication.mem_handlers_of_retire this

/-- Obstacles that go leave the game alone, and no handlers but such as there were. -/
theorem foldl_retire (os : List Obstacle) (s : Station) :
    let s' := os.foldl (fun s o => { s with hub := o.replication.retire s.hub }) s
    s'.game = s.game ∧ ∀ h ∈ s'.hub.registry.handlers, h ∈ s.hub.registry.handlers := by
  induction os generalizing s with
  | nil => exact ⟨rfl, fun _ hh => hh⟩
  | cons o os ih =>
    obtain ⟨hgame, hhandlers⟩ := ih { s with hub := o.replication.retire s.hub }
    exact ⟨hgame, fun h hh => Replication.mem_handlers_of_retire (hhandlers h hh)⟩

/-- **Letting everything go** empties the game, whoever holds a piece. -/
theorem reset (h : s.Governs g) : s.reset.Governs g.cleared := by
  obtain ⟨hgame, hhandlers⟩ := foldl_letGo g.pieces { s with game := some g.cleared }
  obtain ⟨hgame', hhandlers'⟩ := foldl_retire g.obstacles
    (g.pieces.foldl letGo { s with game := some g.cleared })
  have hreset : s.reset = g.obstacles.foldl (fun s o => { s with hub := o.replication.retire s.hub })
      (g.pieces.foldl letGo { s with game := some g.cleared }) := by
    rw [Station.reset, h.game]
  rw [hreset]
  exact {
    game := hgame'.trans hgame
    unfed := fun x hx => h.unfed x (hhandlers x (hhandlers' x hx))
    settled := .cleared g }

/-- Entities that join bring handlers that update them. -/
theorem foldl_addPiece (ps : List Piece) (hgame : s.game = some g)
    (hunfed : ∀ h ∈ s.hub.registry.handlers, h.action.feeds = false) :
    ∃ ps', (ps.foldl addPiece s).game = some { g with pieces := ps' } ∧
      ∀ h ∈ (ps.foldl addPiece s).hub.registry.handlers, h.action.feeds = false := by
  induction ps generalizing g s with
  | nil => exact ⟨g.pieces, hgame, hunfed⟩
  | cons p ps ih =>
    have hgame' : ∃ p', (s.addPiece p).game = some { g with pieces := g.pieces ++ [p'] } := by
      simp [addPiece, Station.mapGame, hgame]
    obtain ⟨p', hp'⟩ := hgame'
    obtain ⟨ps', hps', hunfed'⟩ := ih hp' fun h hh =>
      (Replication.mem_handlers_of_generate hh).elim (hunfed h) fun ha => by rw [ha]; rfl
    exact ⟨ps', hps', hunfed'⟩

/-- Obstacles that are added change the obstacles of the game, and nobody begins to feed it. -/
theorem foldl_addObstacle (os : List Obstacle) (hgame : s.game = some g)
    (hunfed : ∀ h ∈ s.hub.registry.handlers, h.action.feeds = false) :
    ∃ os', (os.foldl addObstacle s).game = some { g with obstacles := os' } ∧
      ∀ h ∈ (os.foldl addObstacle s).hub.registry.handlers, h.action.feeds = false := by
  induction os generalizing g s with
  | nil => exact ⟨g.obstacles, hgame, hunfed⟩
  | cons o os ih =>
    have hgame' : ∃ o', (s.addObstacle o).game = some { g with obstacles := g.obstacles ++ [o'] } := by
      simp [addObstacle, Station.mapGame, hgame]
    obtain ⟨o', ho'⟩ := hgame'
    obtain ⟨os', hos', hunfed'⟩ := ih ho' fun h hh =>
      (Replication.mem_handlers_of_generate hh).elim (hunfed h) fun ha => by rw [ha]; rfl
    exact ⟨os', hos', hunfed'⟩

/-- **A level** is loaded with the clock at its beginning and under the rules there were. -/
theorem exists_load (h : s.Governs g) (number : UInt32) :
    ∃ g', (s.load number).Governs g' ∧ g'.Clock g.rules.roundLength [] := by
  have hreset := h.reset
  obtain ⟨ps, hps, hunfed⟩ := foldl_addPiece (piecesOf g.link (.number number)) hreset.game
    hreset.unfed
  obtain ⟨os, hos, hunfed'⟩ := foldl_addObstacle (obstaclesOf g.link (.number number)) hps hunfed
  have hload : s.load number = ((obstaclesOf g.link (.number number)).foldl addObstacle
      ((piecesOf g.link (.number number)).foldl addPiece s.reset)).mapGame fun g =>
        { g with phase := .loaded, level := some number } := by
    rw [load, hreset.game]
    rfl
  rw [hload, Station.mapGame, hos]
  refine ⟨_, ⟨rfl, hunfed', .of_phase_ne (by simp) (Option.some_ne_none number)⟩, ?_⟩
  exact {
    roundLength := rfl
    loaded := fun _ => rfl
    running := fun hstart => absurd hstart List.not_mem_nil
    finished := fun hup => absurd rfl (Game.timeUp_iff.1 hup).1
    elapsed := fun _ => rfl }

/-- A station that leaves its game goes on to decide it. -/
theorem leave (h : s.Governs g) : ∃ g', s.leave.Governs g' :=
  ⟨_, h.reset.mapGame (f := fun g => { g with ownPlayer := .none })
    ((Game.Settled.cleared g).congr ⟨rfl, rfl, rfl, rfl, rfl, rfl, rfl⟩)⟩

/-! ### Messages -/

/-- A request in a message is granted or refused. -/
theorem exists_obey {α : Type} [Payload α] [Inhabited α]
    {apply : Game → PlayerId → α → Except RequestError Game}
    (happly : ∀ (g : Game) sender payload, g.SameRound ((apply g sender payload).toOption.getD g))
    (h : s.Governs g) (m : Message) (ctx : Context) : ∃ g', (obey apply m ctx s).Governs g' := by
  unfold obey
  rw [h.game]
  cases (Request.ofMessage? m : Option (Request α)) with
  | none => exact ⟨g, h⟩
  | some q => exact ⟨_, rfl, h.unfed, h.settled.congr (happly g ctx.sender q.payload)⟩

/-- What a handler does that does not feed the game. -/
theorem exists_perform (h : s.Governs g) {a : Action} (ha : a.feeds = false) (m : Message)
    (ctx : Context) :
    ∃ g', (perform a m ctx s).Governs g' := by
  cases a with
  | updatePiece key =>
    have hround : g.SameRound { g with pieces := g.pieces.map (updated key m) } :=
      ⟨rfl, rfl, rfl, rfl, rfl, List.length_map _, rfl⟩
    exact ⟨_, Governs.mapGame (s := { s with kept := s.kept.map (updated key m) })
      (f := fun g => { g with pieces := g.pieces.map (updated key m) })
      ⟨h.game, h.unfed, h.settled⟩ (h.settled.congr hround)⟩
  | updateObstacle key =>
    have hround : g.SameRound { g with obstacles := g.obstacles.map (updated key m) } :=
      ⟨rfl, rfl, rfl, rfl, rfl, rfl, List.length_map _⟩
    exact ⟨_, h.mapGame (f := fun g => { g with obstacles := g.obstacles.map (updated key m) })
      (h.settled.congr hround)⟩
  | steer => exact exists_obey (fun g sender o => (g.steer_spec sender o).1) h m ctx
  | highlight => exact exists_obey (fun g sender o => (g.highlight_spec sender o).1) h m ctx
  | observe => exact ⟨g, h.game, h.unfed, h.settled⟩
  | discoverPiece | discoverObstacle | greet => cases ha

/-- **A message** leaves a deciding game in its phase. -/
theorem exists_receive (h : s.Governs g) (m : Message) (ctx : Context) :
    ∃ g', (s.receive m ctx).2.Governs g' := by
  -- The handlers that matched when the dispatch began are performed one after the other.
  have hall (hs : List (Handler Action)) (hfeeds : ∀ x ∈ hs, x.action.feeds = false) (s : Station)
      (g : Game) (h : s.Governs g) :
      ∃ g', (hs.foldl (fun s x => perform x.action m ctx s) s).Governs g' := by
    induction hs generalizing g s with
    | nil => exact ⟨g, h⟩
    | cons x hs ih =>
      obtain ⟨g', h'⟩ := h.exists_perform (hfeeds x List.mem_cons_self) m ctx
      exact ih (fun y hy => hfeeds y (List.mem_cons_of_mem _ hy)) _ g' h'
  exact hall _ (fun x hx => h.unfed x (List.mem_filter.1 hx).1) s g h

end Governs

/-- The stations whose game decides, whatever has been done with it and whatever has come in. -/
inductive Deciding : Station → Prop where
  /-- The game has just been opened, beside handlers that do not feed it. -/
  | opened {s : Station} (link : Link) (rules : Rules)
      (hunfed : ∀ h ∈ s.hub.registry.handlers, h.action.feeds = false) :
      Deciding (s.joinAsAuthority link rules)
  /-- Something was done with it, or a message came in. -/
  | happened {s : Station} (e : Happening) : Deciding s → Deciding (s.happen e)
  /-- The round was started, the game was stepped, or a player asked for something. -/
  | called {s : Station} (c : Game.Call) :
      Deciding s → Deciding (s.mapGame fun g => (g.call? c).getD g)

/-- Whatever was done at a station that decides, no handler feeds its game, and that is settled. -/
theorem Deciding.exists_governs {s : Station} (hs : Deciding s) : ∃ g, s.Governs g := by
  induction hs with
  | opened link rules hunfed =>
    exact ⟨{ rules, link }, rfl, hunfed, .cleared { rules, link }⟩
  | happened e _ ih =>
    obtain ⟨g, h⟩ := ih
    cases e with
    | receive m ctx => exact h.exists_receive m ctx
    | turn t =>
      cases t with
      | load number =>
        obtain ⟨g', h', _⟩ := h.exists_load number
        exact ⟨g', h'⟩
      | start => exact ⟨_, h.mapGame h.settled.start⟩
      | step dt => exact ⟨_, h.mapGame (f := fun g => (g.step? dt).getD g) (h.settled.step dt)⟩
      | stop | reset => exact ⟨_, h.reset⟩
      | leave => exact h.leave
  | called c _ ih =>
    obtain ⟨g, h⟩ := ih
    exact ⟨_, h.mapGame (f := fun g => (g.call? c).getD g) (h.settled.call c)⟩

/-- **The clock of a round.** A deciding game is empty exactly if it has no level, and then there is
nobody and nothing in it. Once a level is loaded, whatever calls follow are made as long as the steps
of the round add up to a length of time. The round is over exactly if some first steps of it have
come to its length, and runs from its start until then. Steps before the start and starts after it
change nothing, and neither the step that ends the round nor anything after it moves a piece, lets it
live, die or arrive. -/
theorem Deciding.round_clock {s : Station} (hs : Deciding s) :
    ∃ g : Game, s.game = some g ∧ g.Settled ∧
      ∀ (level : UInt32) (cs : List Game.Call),
        Duration.total (Game.roundSteps cs) < UInt64.size * 1000000000 →
        ∃ loaded after : Game, (s.load level).game = some loaded ∧ loaded.calls? cs = some after ∧
          (after.phase = .finished ↔ Game.TimeUp g.rules.roundLength (Game.roundSteps cs)) ∧
          (after.phase = .running ↔
            .start ∈ cs ∧ ¬ Game.TimeUp g.rules.roundLength (Game.roundSteps cs)) ∧
          (after.phase = .loaded ↔ .start ∉ cs) ∧
          ∀ (before : List Game.Call) (c : Game.Call) (rest : List Game.Call),
            cs = before ++ c :: rest →
            ∃ g₀ g₁, loaded.calls? before = some g₀ ∧ g₀.call? c = some g₁ ∧
              (c.duration?.isSome = true → .start ∉ before → g₁ = g₀) ∧
              (c = .start → .start ∈ before → g₁ = g₀) ∧
              (Game.TimeUp g.rules.roundLength (Game.roundSteps (before ++ [c])) →
                g₁.standing = g₀.standing ∧ after.standing = g₀.standing) := by
  obtain ⟨g, h⟩ := hs.exists_governs
  refine ⟨g, h.game, h.settled, fun level cs hsum => ?_⟩
  obtain ⟨loaded, hloaded, hclock⟩ := h.exists_load level
  obtain ⟨after, hafter, hend, _⟩ := hclock.exists_calls cs hsum
  rw [List.nil_append] at hend
  obtain ⟨hfinished, hrunning, hbefore⟩ := hend.phase_iff
  refine ⟨loaded, after, hloaded.game, hafter, hfinished, hrunning, hbefore, ?_⟩
  rintro before c rest rfl
  rw [List.append_cons] at hsum hafter
  have hle := Nat.lt_of_le_of_lt (Game.total_roundSteps_append_le (before ++ [c]) rest) hsum
  obtain ⟨g₀, hg₀, hclock₀, _⟩ := hclock.exists_calls before
    (Nat.lt_of_le_of_lt (Game.total_roundSteps_append_le before [c]) hle)
  obtain ⟨g₁, hg₁, hclock₁, hidle, hstart, hstand⟩ := hclock₀.exists_call c hle
  obtain ⟨g', hg', _, hstand'⟩ := hclock₁.exists_calls rest hsum
  -- The calls that follow start from where this one has led.
  have hsame : after = g' := by
    rw [Game.calls?_append, Game.calls?_concat, hg₀, Option.bind_some, hg₁, Option.bind_some,
      hg', Option.some_inj] at hafter
    exact hafter.symm
  exact ⟨g₀, g₁, hg₀, hg₁, hidle, hstart, fun hup =>
    ⟨hstand hup, hsame ▸ (hstand' hup).trans (hstand hup)⟩⟩

/-- A round of three steps of 20 ms is over with the third, whatever is asked for and started again
meanwhile. -/
theorem Deciding.round_clock_short :
    let s := ({} : Station).joinAsAuthority .server { roundLength := .ofMillis 60 }
    let step := Game.Call.step (.ofMillis 20)
    let cs := [step, .start, step, .highlight ⟨4⟩ ⟨0, true⟩, step, .start, step, step]
    Deciding s ∧ Duration.total (Game.roundSteps cs) < UInt64.size * 1000000000 ∧
      ∃ loaded after : Game, (s.load 1).game = some loaded ∧ loaded.calls? cs = some after ∧
        after.phase = .finished := by
  intro s step cs
  have hs : Deciding s := .opened .server _ fun h hh => absurd hh List.not_mem_nil
  have hsum : Duration.total (Game.roundSteps cs) < UInt64.size * 1000000000 := by decide
  obtain ⟨g, hgame, _, hround⟩ := hs.round_clock
  obtain ⟨loaded, after, hloaded, hafter, hfinished, _⟩ := hround 1 cs hsum
  cases hgame
  exact ⟨hs, hsum, loaded, after, hloaded, hafter, hfinished.2 ⟨3, by decide, by decide, by decide⟩⟩

end Station

end Pursuit
