import Mathlib.Algebra.GroupWithZero.Nat
import Mathlib.Data.List.Nodup
import Mathlib.Data.List.Pairwise
import Pursuit.Proofs.Lists
import Pursuit.Routing.Script

/-! # Dispatches and the registry that they run on

A handler may add and remove handlers while it is called, and hand on further messages, whose handlers do
the same. What a dispatch calls depends on none of this: it is what matched when the dispatch began.

* **`Script.Event`** — what happens to a registry, told one thing after the other. `Script.watch` performs
  an operation and writes it down; by `Script.watch_eq` it does what `Script.run` does.
* **`Script.run_dispatch`** — a script's dispatch is that of any endpoint.
* **`Script.present`** — the handlers that are there after some events.
* **`Script.own`** — what belongs to a dispatch itself of all that follows its beginning.
* **`Script.Sound`** — events that fit the registry they meet. `Script.Tells` is what an operation leaves
  in the record, and `Script.extends_watch` says that each operation leaves it, however deep dispatches
  nest.
* **`Script.Counted`** — the numbers of a registry after so many handlers were added. They are given in
  turn, and come up again when all of them have been given.
* **`Script.run_faithful`** — what this comes to over whole runs. -/

namespace Pursuit.Script

/-! ## Programs -/

namespace Program

/-- **Programs by what they perform first.** -/
@[elab_as_elim, induction_eliminator]
theorem induction {motive : Program → Prop} (done : motive .done)
    (perform : ∀ op next, (∀ answer, motive (next answer)) → motive (.perform op next)) :
    ∀ p, motive p
  | .done => done
  | .perform op next => perform op next fun answer => induction done perform (next answer)

variable {σ τ : Type} {f f' : Operation → σ → Option (Answer × σ)}
  {g : Operation → τ → Option (Answer × τ)}

/-- What is forgotten after each operation may be forgotten at the end. -/
theorem map_run {π : σ → τ} (h : ∀ op a, (f op a).map (fun x => (x.1, π x.2)) = g op (π a))
    (p : Program) (a : σ) : (p.run f a).map π = p.run g (π a) := by
  induction p generalizing a with
  | done => rfl
  | perform op next ih =>
    simp only [run, ← h]
    cases f op a with
    | none => rfl
    | some result => exact ih result.1 result.2

/-- A program that ends goes on ending where its operations do. -/
theorem run_mono (hf : ∀ op a result, f op a = some result → f' op a = some result) {p : Program}
    {a b : σ} (h : p.run f a = some b) : p.run f' a = some b := by
  induction p generalizing a with
  | done => exact h
  | perform op next ih =>
    rw [run, Option.bind_eq_some_iff] at h ⊢
    obtain ⟨result, hop, hrest⟩ := h
    exact ⟨result, hf op a result hop, ih result.1 hrest⟩

end Program

/-! ## The record of a run -/

/-- What happens to a registry. -/
inductive Event where
  /-- A handler was added. -/
  | added (h : Handler Scripted)
  /-- The handler with a number was to be removed, and was there or not. -/
  | removed (number : UInt64) (found : Bool)
  /-- A handler was to be removed under a name that none ever had. -/
  | missed
  /-- The handlers for an id were removed, so many. -/
  | removedFor (id : MessageId) (count : Nat)
  /-- All handlers were removed, so many. -/
  | cleared (count : Nat)
  /-- A dispatch began. -/
  | began (m : Message) (ctx : Context)
  /-- A dispatch called a handler. -/
  | called (h : Handler Scripted) (m : Message) (ctx : Context)
  /-- A dispatch ended, and answered this number. -/
  | ended (count : Nat)

/-- What happened, if an operation that is no dispatch was performed and answered so. -/
def Event.of? (s : State) : Operation → Answer → Option Event
  | .add name type id script, .added number => some (.added ⟨number, type, id, ⟨name, script⟩⟩)
  | .removeNamed name, .removed (some found) => (s.named.lookup name).map (.removed · found)
  | .removeNamed _, .removed none => some .missed
  | .removeNumber number, .removed (some found) => some (.removed number found)
  | .removeAllFor id, .count n => some (.removedFor id n)
  | .clear, .done => some (.cleared s.registry.size)
  | _, _ => none

/-- Performs an operation that is no dispatch, and writes it down. -/
def note (op : Operation) (w : State × List Event) : Option (Answer × State × List Event) :=
  (run 0 op w.1).map fun (answer, s) => (answer, s, w.2 ++ (Event.of? w.1 op answer).toList)

/-- Performs an operation as it is performed otherwise, and writes down what happens. -/
def watch : Nat → Operation → State × List Event → Option (Answer × State × List Event)
  | 0, .dispatch _ _, _ => none
  | depth + 1, .dispatch m ctx, (s, log) =>
    let matched := s.registry.matching m
    let after := matched.foldlM (fun w h =>
      let s := w.1.calling h.action m ctx
      (h.action.program m ctx s).run (watch depth) (s, w.2 ++ [.called h m ctx]))
      (s, log ++ [.began m ctx])
    after.map fun (s, log) =>
      let (answer, s) := s.answering (.count matched.length)
      (answer, s, log ++ [.ended matched.length])
  | _, op, w => note op w

/-! ### Two ways to dispatch -/

/-- **A script's dispatch is that of any endpoint**: it performs the handlers that matched when it began,
and answers how many they were. -/
theorem run_dispatch (depth : Nat) (m : Message) (ctx : Context) (s : State) :
    run (depth + 1) (.dispatch m ctx) s =
      let result := dispatch (fun s? : Option State => (s?.map (·.registry)).getD {})
        (fun action m ctx s? => s?.bind fun s =>
          let s := s.calling action m ctx
          (action.program m ctx s).run (run depth) s)
        m ctx (some s)
      result.2.map (·.answering (.count result.1)) := by
  simp only [run, dispatch, Option.map_some, Option.getD_some, List.foldlM_eq_foldl]
  rfl

/-! ### Watching changes nothing -/

/-- Without a dispatch there is nothing to it. -/
theorem note_eq (op : Operation) (w : State × List Event) :
    (note op w).map (fun x => (x.1, x.2.1)) = run 0 op w.1 := by
  rw [note, Option.map_map]
  exact Option.map_id'

/-- **Watching an operation changes nothing.** -/
theorem watch_eq (depth : Nat) (op : Operation) (w : State × List Event) :
    (watch depth op w).map (fun x => (x.1, x.2.1)) = run depth op w.1 := by
  -- By induction on the depth. Dispatches are folds of programs, so the record is dropped from the
  -- inside outwards.
  induction depth generalizing op w with
  | zero =>
    cases op with
    | dispatch m ctx => rfl
    | _ => exact note_eq _ w
  | succ depth ih =>
    cases op with
    | dispatch m ctx =>
      have hcalls := List.map_foldlM (π := Prod.fst)
        (g := fun (s : State) (h : Handler Scripted) =>
          (h.action.program m ctx (s.calling h.action m ctx)).run (run depth)
            (s.calling h.action m ctx))
        (fun (w : State × List Event) h =>
          Program.map_run ih (h.action.program m ctx (w.1.calling h.action m ctx))
            (w.1.calling h.action m ctx, w.2 ++ [.called h m ctx]))
        (w.1.registry.matching m) (w.1, w.2 ++ [.began m ctx])
      simp only [watch, run, ← hcalls, Option.map_map]
      rfl
    | _ => exact note_eq _ w

/-- Watching a program changes nothing. -/
theorem run_of_watch {depth : Nat} {p : Program} {s s' : State} {log log' : List Event}
    (h : p.run (watch depth) (s, log) = some (s', log')) : p.run (run depth) s = some s' := by
  rw [← p.map_run (watch_eq depth) (s, log), h]
  rfl

/-! ## Reading a record -/

/-- The registry after an event. -/
def Event.apply (r : Registry Scripted) : Event → Registry Scripted
  | added h => { handlers := r.handlers ++ [h], nextNumber := h.number + 1 }
  | removed number _ => { r with handlers := r.handlers.filter (·.number ≠ number) }
  | removedFor id _ => { r with handlers := r.handlers.filter (·.id ≠ id) }
  | cleared _ => { r with handlers := [] }
  | _ => r

/-- The registry after some events, at the beginning of which it was empty. -/
def present (log : List Event) : Registry Scripted := log.foldl Event.apply {}

/-- The calls and the answer of a dispatch, in what has happened since it began. So many other dispatches
have begun since then and have not ended; what they call is left out. -/
def own : Nat → List Event → List Event
  | _, [] => []
  | 0, .called h m ctx :: rest => .called h m ctx :: own 0 rest
  | 0, .ended n :: _ => [.ended n]
  | nested + 1, .ended _ :: rest => own nested rest
  | nested, .began _ _ :: rest => own (nested + 1) rest
  | nested, _ :: rest => own nested rest

/-- The handlers that a message concerns: those for its content type or for all, and for its id or for
all. -/
def concerned (r : Registry Scripted) (m : Message) : List (Handler Scripted) :=
  r.handlers.filter fun h => (h.type = .allTypes ∨ h.type = m.type) ∧ (h.id = .all ∨ h.id = m.id)

/-- What a dispatch of a message should call and answer. -/
def expected (r : Registry Scripted) (m : Message) (ctx : Context) : List Event :=
  (concerned r m).map (.called · m ctx) ++ [.ended (concerned r m).length]

/-- A message goes to the handlers that it concerns. -/
theorem matching_eq_concerned (r : Registry Scripted) (m : Message) :
    r.matching m = concerned r m := by
  simp only [concerned, Registry.matching, Handler.accepts, Bool.decide_and]

/-- The numbers of the handlers of a registry. -/
def numbers (r : Registry Scripted) : List UInt64 := r.handlers.map (·.number)

/-- The number that an event gives to a handler. -/
def Event.added? : Event → Option UInt64
  | added h => some h.number
  | _ => none

/-- How many handlers were added. -/
def adds (log : List Event) : Nat := (log.filterMap Event.added?).length

/-- The number that an event takes, if somebody asked for just that. -/
def Event.taken? : Event → Option UInt64
  | removed number true => some number
  | _ => none

/-- How many handlers an event takes away. -/
def Event.loss : Event → Nat
  | removed _ found => if found then 1 else 0
  | removedFor _ count => count
  | cleared count => count
  | _ => 0

/-- The call that an event is. -/
def Event.call? : Event → Option Call
  | called h m ctx => some ⟨h.action.name, m, ctx⟩
  | _ => none

/-- What the operation that an event ends has answered. -/
def Event.answer? : Event → Option Answer
  | added h => some (.added h.number)
  | removed _ found => some (.removed (some found))
  | missed => some (.removed none)
  | removedFor _ count => some (.count count)
  | cleared _ => some .done
  | began .. | called .. => none
  | ended count => some (.count count)

/-! ## Events that fit -/

/-- An event fits the registry that it meets, and what comes after it. -/
def Event.Fits (r : Registry Scripted) (after : List Event) : Event → Prop
  | added h => h.number = r.nextNumber
  | removed number found => found = true ↔ number ∈ numbers r
  | removedFor id count => count + (r.handlers.filter (·.id ≠ id)).length = r.handlers.length
  | cleared count => count = r.handlers.length
  | began m ctx => own 0 after = expected r m ctx
  | _ => True

/-- Events that fit, one after the other. -/
def Sound : Registry Scripted → List Event → Prop
  | _, [] => True
  | r, e :: rest => e.Fits r rest ∧ Sound (e.apply r) rest

/-- What happens between two states, as the record tells it: `shown` is what it adds to a dispatch that is
under way. -/
structure Tells (shown log : List Event) (s s' : State) : Prop where
  /-- The dispatch that is under way sees what is shown. -/
  own_zero : ∀ rest, own 0 (log ++ rest) = shown ++ own 0 rest
  /-- Those that it is nested in see nothing. -/
  own_succ : ∀ nested rest, own (nested + 1) (log ++ rest) = own (nested + 1) rest
  /-- The calls are those that were recorded. -/
  calls : s'.calls = (log.filterMap Event.call?).reverse ++ s.calls
  /-- The answers are those that were recorded. -/
  answers : s'.answers = (log.filterMap Event.answer?).reverse ++ s.answers
  /-- The registry is what the events make of it. -/
  registry : s'.registry = log.foldl Event.apply s.registry
  /-- The events fit. -/
  sound : ∀ rest, Sound s'.registry rest → Sound s.registry (log ++ rest)

namespace Tells

variable {shown shown' log log' : List Event} {s s' s'' : State}

/-- Where nothing happens there is nothing to tell. -/
theorem refl (s : State) : Tells [] [] s s :=
  ⟨fun _ => rfl, fun _ _ => rfl, rfl, rfl, rfl, fun _ h => h⟩

/-- What is told of one thing after the other is told of both. -/
theorem trans (h : Tells shown log s s') (h' : Tells shown' log' s' s'') :
    Tells (shown ++ shown') (log ++ log') s s'' where
  own_zero rest := by
    rw [List.append_assoc, h.own_zero, h'.own_zero, List.append_assoc]
  own_succ nested rest := by
    rw [List.append_assoc, h.own_succ, h'.own_succ]
  calls := by
    rw [h'.calls, h.calls, List.filterMap_append, List.reverse_append, List.append_assoc]
  answers := by
    rw [h'.answers, h.answers, List.filterMap_append, List.reverse_append, List.append_assoc]
  registry := by
    rw [h'.registry, h.registry, List.foldl_append]
  sound rest hrest := by
    rw [List.append_assoc]
    exact h.sound _ (h'.sound rest hrest)

/-- What is not a call and neither begins nor ends a dispatch is told by itself. -/
theorem single {e : Event} {answer : Answer} (hzero : ∀ rest, own 0 (e :: rest) = own 0 rest)
    (hsucc : ∀ nested rest, own (nested + 1) (e :: rest) = own (nested + 1) rest)
    (hcall : e.call? = none) (hcalls : s'.calls = s.calls) (hanswer : e.answer? = some answer)
    (hanswers : s'.answers = answer :: s.answers)
    (hregistry : s'.registry = e.apply s.registry) (hfits : ∀ after, e.Fits s.registry after) :
    Tells [] [e] s s' where
  own_zero := hzero
  own_succ := hsucc
  calls := by
    rw [hcalls, List.filterMap_cons_none hcall]
    rfl
  answers := by
    rw [hanswers, List.filterMap_cons_some hanswer]
    rfl
  registry := hregistry
  sound rest hrest := ⟨hfits rest, hregistry ▸ hrest⟩

/-- A call is shown to the dispatch that is under way. -/
theorem called (h : Handler Scripted) (m : Message) (ctx : Context) (s : State) :
    Tells [.called h m ctx] [.called h m ctx] s (s.calling h.action m ctx) where
  own_zero _ := rfl
  own_succ _ _ := rfl
  calls := rfl
  answers := rfl
  registry := rfl
  sound _ hrest := ⟨trivial, hrest⟩

/-- **A dispatch that calls what it should** shows nothing of that to the one it is nested in. -/
theorem dispatched {m : Message} {ctx : Context}
    (h : Tells ((s.registry.matching m).map (.called · m ctx)) log s s') :
    Tells [] (.began m ctx :: (log ++ [.ended (s.registry.matching m).length])) s
      (s'.answering (.count (s.registry.matching m).length)).2 where
  own_zero rest := by
    -- To the outer dispatch this one counts one level deeper, until it ends.
    rw [List.cons_append, List.append_assoc]
    exact h.own_succ 0 _
  own_succ nested rest := by
    rw [List.cons_append, List.append_assoc]
    exact h.own_succ (nested + 1) _
  calls := by
    rw [State.answering, h.calls, List.filterMap_cons_none rfl, List.filterMap_append]
    simp [Event.call?]
  answers := by
    rw [State.answering, h.answers, List.filterMap_cons_none rfl, List.filterMap_append]
    simp [Event.answer?]
  registry := by
    rw [State.answering, h.registry, List.foldl_cons, List.foldl_append]
    rfl
  sound rest hrest := by
    -- What the calls show is what was to be expected, and the answer comes right behind them.
    rw [List.cons_append, List.append_assoc]
    refine ⟨(h.own_zero _).trans ?_, h.sound _ ⟨trivial, hrest⟩⟩
    rw [matching_eq_concerned]
    rfl

end Tells

/-- A record that goes on from another, telling what happened between both states. -/
def Extends (shown : List Event) (w w' : State × List Event) : Prop :=
  ∃ log, w'.2 = w.2 ++ log ∧ Tells shown log w.1 w'.1

/-- A record goes on from itself, with nothing to tell. -/
theorem Extends.refl (w : State × List Event) : Extends [] w w :=
  ⟨[], (List.append_nil _).symm, .refl w.1⟩

/-- A record that goes on twice goes on, showing one thing after the other. -/
theorem Extends.trans {shown shown' : List Event} {w w' w'' : State × List Event}
    (h : Extends shown w w') (h' : Extends shown' w' w'') : Extends (shown ++ shown') w w'' := by
  obtain ⟨log, hlog, htells⟩ := h
  obtain ⟨log', hlog', htells'⟩ := h'
  exact ⟨log ++ log', by rw [hlog', hlog, List.append_assoc], htells.trans htells'⟩

/-- **What single steps leave in a record, all of them leave** one after the other. -/
theorem extends_foldlM {ι : Type} {f : State × List Event → ι → Option (State × List Event)}
    (shown : ι → List Event) (hf : ∀ w x w', f w x = some w' → Extends (shown x) w w')
    {xs : List ι} {w w' : State × List Event} (h : xs.foldlM f w = some w') :
    Extends (xs.flatMap shown) w w' := by
  induction xs generalizing w with
  | nil =>
    cases h
    exact .refl _
  | cons x xs ih =>
    rw [List.foldlM_cons, Option.bind_eq_bind, Option.bind_eq_some_iff] at h
    obtain ⟨w₁, hfirst, hrest⟩ := h
    exact (hf w x w₁ hfirst).trans (ih hrest)

/-! ## What operations leave in a record -/

/-- The handler with a number is found if it is there. -/
theorem remove_eq_true_iff (r : Registry Scripted) (number : UInt64) :
    (r.remove number).1 = true ↔ number ∈ numbers r := by
  simp only [Registry.remove, decide_eq_true_eq, ne_eq, List.length_filter_eq_length_iff, numbers,
    List.mem_map]
  push Not
  simp

/-- What is to be removed is told as it was found. -/
theorem tells_remove (s : State) (number : UInt64) :
    Tells [] [.removed number (s.registry.remove number).1] s (s.remove number).2 :=
  .single (fun _ => rfl) (fun _ _ => rfl) rfl rfl rfl rfl rfl fun _ =>
    remove_eq_true_iff s.registry number

/-- **An operation that is no dispatch** is told by one event. -/
theorem extends_note {op : Operation} {w w' : State × List Event} {answer : Answer}
    (h : note op w = some (answer, w')) : Extends [] w w' := by
  obtain ⟨s, log⟩ := w
  cases op with
  | dispatch m ctx => cases h
  | add name type id script =>
    cases h
    exact ⟨_, rfl, .single (fun _ => rfl) (fun _ _ => rfl) rfl rfl rfl rfl rfl fun _ => rfl⟩
  | removeNamed name =>
    cases hname : s.named.lookup name with
    | none =>
      simp only [note, run, hname, Option.map_some, Event.of?, State.answering] at h
      cases h
      exact ⟨_, rfl, .single (fun _ => rfl) (fun _ _ => rfl) rfl rfl rfl rfl rfl fun _ => trivial⟩
    | some number =>
      -- The name stands for a number, and the rest is as if that had been given.
      simp only [note, run, hname, Option.map_some, Event.of?, State.remove, State.answering] at h
      cases h
      exact ⟨_, rfl, tells_remove s number⟩
  | removeNumber number =>
    cases h
    exact ⟨_, rfl, tells_remove s number⟩
  | removeAllFor id =>
    cases h
    refine ⟨_, rfl, .single (fun _ => rfl) (fun _ _ => rfl) rfl rfl rfl rfl rfl fun _ => ?_⟩
    exact Nat.sub_add_cancel (List.length_filter_le _ _)
  | clear =>
    cases h
    exact ⟨_, rfl, .single (fun _ => rfl) (fun _ _ => rfl) rfl rfl rfl rfl rfl fun _ => rfl⟩

/-- What each operation leaves in a record, a program of them leaves. -/
theorem extends_program {depth : Nat}
    (hop : ∀ {op w w' answer}, watch depth op w = some (answer, w') → Extends [] w w')
    {p : Program} {w w' : State × List Event} (h : p.run (watch depth) w = some w') :
    Extends [] w w' := by
  induction p generalizing w with
  | done =>
    cases h
    exact .refl _
  | perform op next ih =>
    rw [Program.run, Option.bind_eq_some_iff] at h
    obtain ⟨⟨answer, w₁⟩, hfirst, hrest⟩ := h
    exact (hop hfirst).trans (ih answer hrest)

/-- **Every operation is told by its record**, however deep dispatches nest. -/
theorem extends_watch {depth : Nat} {op : Operation} {w w' : State × List Event} {answer : Answer}
    (h : watch depth op w = some (answer, w')) : Extends [] w w' := by
  -- By induction on the depth: what handlers do nests less deep than the dispatch that calls them.
  induction depth generalizing op w w' answer with
  | zero =>
    cases op with
    | dispatch m ctx => cases h
    | _ => exact extends_note h
  | succ depth ih =>
    cases op with
    | dispatch m ctx =>
      obtain ⟨s, log⟩ := w
      rw [watch, Option.map_eq_some_iff] at h
      obtain ⟨⟨s', log'⟩, hcalls, heq⟩ := h
      cases heq
      obtain ⟨more, hmore, htells⟩ := extends_foldlM (fun h => [.called h m ctx])
        (fun w h w' hcall => Extends.trans ⟨_, rfl, .called h m ctx w.1⟩
          (extends_program ih hcall)) hcalls
      rw [← List.map_eq_flatMap] at htells
      refine ⟨_, ?_, .dispatched htells⟩
      change log' = (log ++ [.began m ctx]) ++ more at hmore
      change log' ++ _ = log ++ _
      rw [hmore, List.append_assoc, List.append_assoc]
      rfl
    | _ => exact extends_note h

/-! ### The bound on the depth -/

/-- **A bound that is met makes no difference**, neither to what is done nor to what is told of it. -/
theorem watch_succ {depth : Nat} {op : Operation} {w : State × List Event}
    {result : Answer × State × List Event} (h : watch depth op w = some result) :
    watch (depth + 1) op w = some result := by
  induction depth generalizing op w result with
  | zero =>
    cases op with
    | dispatch m ctx => cases h
    | _ => exact h
  | succ depth ih =>
    cases op with
    | dispatch m ctx =>
      obtain ⟨s, log⟩ := w
      rw [watch, Option.map_eq_some_iff] at h ⊢
      obtain ⟨w', hcalls, hresult⟩ := h
      exact ⟨w', List.foldlM_mono (fun w h w' hcall =>
        Program.run_mono (fun op w result hop => ih hop) hcall) hcalls, hresult⟩
    | _ => exact h

/-- Neither does it over a whole program. -/
theorem watch_program_of_le {depth depth' : Nat} (hle : depth ≤ depth') {p : Program}
    {w w' : State × List Event} (h : p.run (watch depth) w = some w') :
    p.run (watch depth') w = some w' := by
  induction hle with
  | refl => exact h
  | step _ ih => exact Program.run_mono (fun op w result hop => watch_succ hop) ih

/-! ## The numbers of handlers -/

/-- The first numbers, in the order in which they are given. -/
def given (k : Nat) : List UInt64 := (List.range k).map fun i => .ofNat (i + 1)

/-- The next number that is given is the next one. -/
theorem given_succ (k : Nat) : given (k + 1) = given k ++ [.ofNat (k + 1)] := by
  rw [given, List.range_succ, List.map_append]
  rfl

/-- As many numbers are given as are asked for. -/
theorem length_given (k : Nat) : (given k).length = k := by
  rw [given, List.length_map, List.length_range]

/-- **Numbers come up in order** until the counter starts over. -/
theorem pairwise_given_iff (k : Nat) : (given k).Pairwise (· < ·) ↔ k < UInt64.size := by
  constructor
  · intro h
    by_contra hk
    -- The number behind the greatest is zero.
    have hlast : UInt64.size - 1 < (given k).length := by
      rw [length_given]
      have : 0 < UInt64.size := by decide
      omega
    have hlt := List.pairwise_iff_getElem.1 h 0 (UInt64.size - 1) (by omega) hlast (by decide)
    simp only [given, List.getElem_map, List.getElem_range] at hlt
    exact absurd hlt (by decide)
  · intro hk
    rw [given, List.pairwise_map]
    refine List.pairwise_lt_range.imp_of_mem fun {i j} hi hj hij => ?_
    rw [List.mem_range] at hi hj
    rw [UInt64.lt_iff_toNat_lt, UInt64.toNat_ofNat_of_lt' (by omega),
      UInt64.toNat_ofNat_of_lt' (by omega)]
    omega

/-- **No number comes up twice** until all have been given. -/
theorem nodup_given_iff (k : Nat) : (given k).Nodup ↔ k ≤ UInt64.size := by
  constructor
  · intro h
    by_contra hk
    -- One number more is the first again.
    have hlast : UInt64.size < (given k).length := by
      rw [length_given]
      omega
    have hne := List.pairwise_iff_getElem.1 h 0 UInt64.size (by omega) hlast (by decide)
    simp only [given, List.getElem_map, List.getElem_range] at hne
    exact hne (by decide)
  · intro hk
    refine List.Nodup.map_on (fun i hi j hj heq => ?_) List.nodup_range
    rw [List.mem_range] at hi hj
    have hmod := congrArg UInt64.toNat heq
    simp only [UInt64.toNat_ofNat'] at hmod
    change (i + 1) % UInt64.size = (j + 1) % UInt64.size at hmod
    -- Only the last of them may be as great as the number of all numbers.
    rcases Nat.lt_or_eq_of_le (show i + 1 ≤ UInt64.size by omega) with hi' | hi' <;>
      rcases Nat.lt_or_eq_of_le (show j + 1 ≤ UInt64.size by omega) with hj' | hj'
    · rw [Nat.mod_eq_of_lt hi', Nat.mod_eq_of_lt hj'] at hmod
      omega
    · rw [Nat.mod_eq_of_lt hi', hj', Nat.mod_self] at hmod
      omega
    · rw [Nat.mod_eq_of_lt hj', hi', Nat.mod_self] at hmod
      omega
    · omega

/-- A registry to which so many handlers were added: those that are there have some of the numbers that
were given, in the order in which they were given. -/
structure Counted (k : Nat) (r : Registry Scripted) : Prop where
  /-- The number that comes up next. -/
  nextNumber : r.nextNumber = .ofNat (k + 1)
  /-- The numbers that are there. -/
  numbers : (numbers r).Sublist (given k)

/-- To an empty registry no handler was added. -/
theorem counted_empty : Counted 0 {} := ⟨rfl, List.Sublist.refl _⟩

namespace Counted

variable {k : Nat} {r : Registry Scripted} {e : Event} {before after log : List Event}

/-- Fewer handlers are counted still. -/
theorem filter (h : Counted k r) (p : Handler Scripted → Bool) :
    Counted k { r with handlers := r.handlers.filter p } :=
  ⟨h.nextNumber, (List.filter_sublist.map _).trans h.numbers⟩

/-- **An event that fits is counted.** -/
theorem apply (h : Counted k r) (hfits : e.Fits r after) :
    Counted (k + adds [e]) (e.apply r) := by
  cases e with
  | added handler =>
    have hnumber : handler.number = .ofNat (k + 1) := Eq.trans hfits h.nextNumber
    refine ⟨?_, ?_⟩
    · change handler.number + 1 = .ofNat (k + 1 + 1)
      rw [hnumber, UInt64.ofNat_add (k + 1)]
      rfl
    · change ((r.handlers ++ [handler]).map (·.number)).Sublist (given (k + 1))
      rw [List.map_append, given_succ, ← hnumber]
      exact h.numbers.append (List.Sublist.refl _)
  | removed | removedFor => exact h.filter _
  | cleared => exact ⟨h.nextNumber, List.nil_sublist _⟩
  | missed | began | called | ended => exact h

/-- As long as all numbers differ, one handler at most has a number. -/
theorem length_filter_ne (h : Counted k r) (hk : k ≤ UInt64.size) (number : UInt64) :
    (r.handlers.filter (·.number ≠ number)).length + (if number ∈ Script.numbers r then 1 else 0) =
      r.handlers.length := by
  have hnodup : (Script.numbers r).Nodup := h.numbers.nodup ((nodup_given_iff k).2 hk)
  have hcount : (Script.numbers r).count number = if number ∈ Script.numbers r then 1 else 0 := by
    split
    · rename_i hmem
      exact List.count_eq_one_of_mem hnodup hmem
    · rename_i hmem
      exact List.count_eq_zero.2 hmem
  have hothers : (r.handlers.filter (·.number ≠ number)).length +
      (Script.numbers r).count number = r.handlers.length := by
    rw [Script.numbers, List.count, List.countP_map, ← List.countP_eq_length_filter,
      List.length_eq_countP_add_countP (fun h : Handler Scripted => decide (h.number ≠ number))]
    congr 1
    exact List.countP_congr fun h _ => by simp
  rwa [hcount] at hothers

/-- **An event that fits is accounted for**, as long as all numbers differ. -/
theorem size_apply (h : Counted k r) (hk : k ≤ UInt64.size) (hfits : e.Fits r after) :
    (e.apply r).size + e.loss = r.size + adds [e] := by
  cases e with
  | added handler => exact List.length_append
  | removed number found =>
    have hfound : found = true ↔ number ∈ Script.numbers r := hfits
    have hloss : (if found then 1 else 0) = if number ∈ Script.numbers r then 1 else 0 := by
      simp only [← hfound]
    change (r.handlers.filter (·.number ≠ number)).length + (if found then 1 else 0) = _
    rw [hloss]
    exact h.length_filter_ne hk number
  | removedFor id count => exact (Nat.add_comm _ _).trans hfits
  | cleared count => exact (Nat.zero_add _).trans hfits
  | missed | began | called | ended => rfl

end Counted

/-! ## What fitting events come to -/

/-- Handlers that are added one after the other add up. -/
theorem adds_append (before after : List Event) : adds (before ++ after) = adds before + adds after := by
  rw [adds, List.filterMap_append, List.length_append]
  rfl

/-- The handlers that are added are those of the first event and those of the others. -/
theorem adds_cons (e : Event) (log : List Event) : adds (e :: log) = adds [e] + adds log :=
  adds_append [e] log

/-- A number is taken only by removing its handler. -/
theorem Event.eq_removed_of_taken? {e : Event} {n : UInt64} (h : e.taken? = some n) :
    e = .removed n true := by
  cases e with
  | removed number found =>
    cases found with
    | true => exact congrArg (removed · true) (Option.some.inj h)
    | false => cases h
  | _ => cases h

/-- A number that is there after an event was there before or was given by it. -/
theorem Event.mem_numbers_apply {r : Registry Scripted} {e : Event} {n : UInt64}
    (hn : n ∈ numbers (e.apply r)) : n ∈ numbers r ∨ e.added? = some n := by
  cases e with
  | added handler =>
    obtain ⟨h, hmem, rfl⟩ := List.mem_map.1 hn
    rcases List.mem_append.1 hmem with hmem | hmem
    · exact .inl (List.mem_map_of_mem hmem)
    · rw [List.mem_singleton.1 hmem]
      exact .inr rfl
  | removed | removedFor => exact .inl ((List.filter_sublist.map _).subset hn)
  | cleared => cases hn
  | missed | began | called | ended => exact .inl hn

namespace Sound

variable {k : Nat} {r : Registry Scripted} {before after log : List Event}

/-- What follows fits the registry that it meets, and that is counted. -/
theorem drop (h : Sound r (before ++ after)) (hr : Counted k r) :
    Sound (before.foldl Event.apply r) after ∧
      Counted (k + adds before) (before.foldl Event.apply r) := by
  induction before generalizing k r with
  | nil => exact ⟨h, hr⟩
  | cons e before ih =>
    rw [adds_cons, ← Nat.add_assoc]
    exact ih h.2 (hr.apply h.1)

/-- There are as many handlers as before and as were added, less those that were taken away. -/
theorem size (h : Sound r (before ++ after)) (hr : Counted k r)
    (hk : k + adds before ≤ UInt64.size) :
    (before.foldl Event.apply r).size + (before.map Event.loss).sum = r.size + adds before := by
  induction before generalizing k r with
  | nil => rfl
  | cons e before ih =>
    rw [adds_cons] at hk ⊢
    have hfirst := hr.size_apply (by omega) h.1
    have hrest := ih h.2 (hr.apply h.1) (by omega)
    rw [List.foldl_cons, List.map_cons, List.sum_cons]
    omega

/-- **Numbers are given in turn.** -/
theorem added (h : Sound r log) (hr : Counted k r) :
    given k ++ log.filterMap Event.added? = given (k + adds log) := by
  induction log generalizing k r with
  | nil => exact List.append_nil _
  | cons e log ih =>
    have hrest := ih h.2 (hr.apply h.1)
    rw [adds_cons, ← Nat.add_assoc, ← hrest]
    cases e with
    | added handler =>
      have hnumber : handler.number = .ofNat (k + 1) := Eq.trans h.1 hr.nextNumber
      change given k ++ handler.number :: log.filterMap Event.added? =
        given (k + 1) ++ log.filterMap Event.added?
      rw [given_succ, hnumber, List.append_assoc]
      rfl
    | _ => rfl

/-- Numbers that are taken are there before, or are given until then. -/
theorem of_mem_taken (h : Sound r log) {n : UInt64} (hn : n ∈ log.filterMap Event.taken?) :
    n ∈ numbers r ∨ n ∈ log.filterMap Event.added? := by
  -- What is taken is there, and what is there after an event was there before or is new.
  induction log generalizing r with
  | nil => cases hn
  | cons e log ih =>
    obtain ⟨e', he', htaken⟩ := List.mem_filterMap.1 hn
    rcases List.mem_cons.1 he' with rfl | he'
    · obtain rfl := Event.eq_removed_of_taken? htaken
      exact .inl (h.1.1 rfl)
    · rcases ih h.2 (List.mem_filterMap.2 ⟨e', he', htaken⟩) with hthere | hlater
      · rcases Event.mem_numbers_apply hthere with hthere | hnew
        · exact .inl hthere
        · exact .inr (List.mem_filterMap.2 ⟨e, List.mem_cons_self, hnew⟩)
      · obtain ⟨e'', he'', hnew⟩ := List.mem_filterMap.1 hlater
        exact .inr (List.mem_filterMap.2 ⟨e'', List.mem_cons_of_mem _ he'', hnew⟩)

/-- No number is taken twice, as long as all numbers differ. -/
theorem taken (h : Sound r log) (hr : Counted k r) (hk : k + adds log ≤ UInt64.size) :
    (log.filterMap Event.taken?).Nodup := by
  induction log generalizing k r with
  | nil => exact List.nodup_nil
  | cons e log ih =>
    rw [adds_cons, ← Nat.add_assoc] at hk
    have hrest := ih h.2 (hr.apply h.1) hk
    cases htaken : e.taken? with
    | none => rwa [List.filterMap_cons_none htaken]
    | some n =>
      obtain rfl := Event.eq_removed_of_taken? htaken
      rw [List.filterMap_cons_some htaken]
      refine List.nodup_cons.2 ⟨fun hagain => ?_, hrest⟩
      -- The number is gone, and those that are given later are others.
      rcases of_mem_taken h.2 hagain with hthere | hlater
      · obtain ⟨handler, hmem, hnumber⟩ := List.mem_map.1 hthere
        exact absurd hnumber (by simpa using (List.mem_filter.1 hmem).2)
      · have hall := (nodup_given_iff _).2 hk
        rw [← added h.2 (hr.apply h.1), List.nodup_append] at hall
        exact hall.2.2 n (hr.numbers.subset (h.1.1 rfl)) n hlater rfl

end Sound

/-! ## Whole runs -/

/-- What the record of a whole run says. The numbers of handlers have 64 bits and are counted without a
check, so what hangs on them holds as long as not all of them have been given. -/
structure Faithful (log : List Event) : Prop where
  /-- **A dispatch calls the handlers that matched when it began**, each once and in the order in which
  they stood, with its own message and context, and answers how many they were, whatever they did. -/
  dispatches : ∀ {before after m ctx}, log = before ++ .began m ctx :: after →
    own 0 after = expected (present before) m ctx
  /-- A handler is found if it is still there. -/
  removed : ∀ {before after number found}, log = before ++ .removed number found :: after →
    (found = true ↔ number ∈ numbers (present before))
  /-- The numbers are given in turn, from one on. -/
  added : log.filterMap Event.added? = given (adds log)
  /-- They are given upwards as long as the counter does not start over. -/
  increasing : (log.filterMap Event.added?).Pairwise (· < ·) ↔ adds log < UInt64.size
  /-- None is given twice as long as there is one left. -/
  distinct : (log.filterMap Event.added?).Nodup ↔ adds log ≤ UInt64.size
  /-- The handlers stand in the order of their numbers. -/
  ascending : ∀ {before after}, log = before ++ after → adds before < UInt64.size →
    (numbers (present before)).Pairwise (· < ·)
  /-- There are as many as were added and not taken away since. -/
  size : ∀ {before after}, log = before ++ after → adds before ≤ UInt64.size →
    (present before).size + (before.map Event.loss).sum = adds before
  /-- No handler is found twice to be removed. -/
  taken : adds log ≤ UInt64.size → (log.filterMap Event.taken?).Nodup

/-- **Events that fit tell a faithful story.** -/
theorem Faithful.of_sound {log : List Event} (h : Sound {} log) : Faithful log := by
  -- The counter starts at zero, so the numbers given are the first ones, in order.
  have hadded : log.filterMap Event.added? = given (adds log) :=
    (h.added counted_empty).trans (congrArg given (Nat.zero_add _))
  refine
    { dispatches := fun heq => ?_
      removed := fun heq => ?_
      added := hadded
      increasing := by rw [hadded, pairwise_given_iff]
      distinct := by rw [hadded, nodup_given_iff]
      ascending := fun {before after} heq hlt => ?_
      size := fun {before after} heq hle => ?_
      taken := fun hle => h.taken counted_empty (by rwa [Nat.zero_add]) }
  · subst heq
    exact (h.drop counted_empty).1.1
  · subst heq
    exact (h.drop counted_empty).1.1
  · subst heq
    have hcounted := (h.drop counted_empty).2
    rw [Nat.zero_add] at hcounted
    exact ((pairwise_given_iff _).2 hlt).sublist hcounted.numbers
  · subst heq
    exact (h.size counted_empty (by rwa [Nat.zero_add])).trans (Nat.zero_add _)

/-- **A dispatch answers** how many handlers the message concerned when it began, in whatever state it is
performed and whatever they did, and the answer is recorded like any other. -/
theorem answer_dispatch {depth : Nat} {m : Message} {ctx : Context} {s s' : State} {answer : Answer}
    (h : run depth (.dispatch m ctx) s = some (answer, s')) :
    answer = .count (concerned s.registry m).length ∧ s'.answers.head? = some answer := by
  cases depth with
  | zero => cases h
  | succ depth =>
    rw [run, Option.map_eq_some_iff] at h
    obtain ⟨s₁, _, heq⟩ := h
    cases heq
    rw [matching_eq_concerned]
    exact ⟨rfl, rfl⟩

/-- **Dispatches work on a snapshot**, whatever the handlers do to the registry that they are called from.
Whatever operations are performed on an empty registry, and whatever operations the handlers perform when
they are called, nested dispatches included, as long as this ends: each dispatch answers how many handlers
matched when it began. The record of the run, which does not hang on the bound, tells its calls, its
answers and what became of the registry, and it is faithful. -/
theorem run_faithful {depth : Nat} {p : Program} {s : State} (h : p.run (run depth) {} = some s) :
    (∀ {depth m ctx s answer s'}, run depth (.dispatch m ctx) s = some (answer, s') →
      answer = .count (concerned s.registry m).length ∧ s'.answers.head? = some answer) ∧
    ∃ log, (∀ depth' ≥ depth, p.run (watch depth') ({}, []) = some (s, log)) ∧
      s.calls = (log.filterMap Event.call?).reverse ∧
      s.answers = (log.filterMap Event.answer?).reverse ∧
      s.registry = present log ∧ Faithful log := by
  refine ⟨answer_dispatch, ?_⟩
  have hwatch := p.map_run (watch_eq depth) ({}, [])
  rw [h, Option.map_eq_some_iff] at hwatch
  obtain ⟨⟨s', log⟩, hwatch, rfl⟩ := hwatch
  obtain ⟨_, rfl, htells⟩ := extends_program extends_watch hwatch
  refine ⟨_, fun depth' hle => watch_program_of_le hle hwatch, ?_, ?_, htells.registry, ?_⟩
  · rw [htells.calls]
    exact List.append_nil _
  · rw [htells.answers]
    exact List.append_nil _
  · have hsound := htells.sound [] trivial
    rw [List.append_nil] at hsound
    exact .of_sound hsound

/-- A message that is handed on once more by the handler it is for. -/
def handedOn : Message := ⟨⟨.first, ⟨9⟩, 0⟩, []⟩

/-- When it is called for the first time, this handler adds another one for the id of its message, hands
the message on, and removes the one that it has added if two were called by that. -/
def onceMore (occasion : Occasion) : Program :=
  if occasion.calls.length = 1 then
    .perform (.add "late" .allTypes occasion.message.id fun _ => .done) fun added =>
      .perform (.removeNumber 1) fun _ =>
        .perform (.dispatch occasion.message occasion.context) fun called =>
          match added, called with
          | .added number, .count 2 => .perform (.removeNumber number) fun _ => .done
          | _, _ => .done
  else .done

/-- The first handler works on the registry; the second listens to everything. -/
def reentrant : Program :=
  .ofList [.add "first" ⟨9⟩ .all onceMore, .add "second" .allTypes .all fun _ => .done,
    .dispatch handedOn .fromServer, .removeNumber 1]

/-- The dispatch calls the first handler and the second, which is called by the nested one before that, as
is the handler that was added meanwhile. -/
theorem run_faithful_reentrant :
    ∃ s log, reentrant.run (run 2) {} = some s ∧ reentrant.run (watch 2) ({}, []) = some (s, log) ∧
      s.calls.reverse.map (·.handler) = ["first", "second", "late", "second"] ∧
      s.answers.reverse = [.added 1, .added 2, .added 3, .removed (some true), .count 2,
        .removed (some true), .count 2, .removed (some false)] ∧
      numbers s.registry = [2] ∧ log.filterMap Event.taken? = [1, 3] ∧ Faithful log := by
  have hknown : (reentrant.run (watch 2) ({}, [])).map (fun w =>
      (w.1.calls.reverse.map (·.handler), w.1.answers.reverse, numbers w.1.registry,
        w.2.filterMap Event.taken?)) =
        some (["first", "second", "late", "second"],
          [.added 1, .added 2, .added 3, .removed (some true), .count 2, .removed (some true),
            .count 2, .removed (some false)], [2], [1, 3]) := by
    decide +kernel
  obtain ⟨⟨s, log⟩, hwatch, hknown⟩ := Option.map_eq_some_iff.1 hknown
  obtain ⟨hcalls, hknown⟩ := Prod.mk.inj hknown
  obtain ⟨hanswers, hknown⟩ := Prod.mk.inj hknown
  obtain ⟨hnumbers, htaken⟩ := Prod.mk.inj hknown
  have hrun : reentrant.run (run 2) {} = some s := run_of_watch hwatch
  obtain ⟨_, log', hwatch', _, _, _, hfaithful⟩ := run_faithful hrun
  have hlog : log = log' :=
    congrArg Prod.snd (Option.some.inj (hwatch.symm.trans (hwatch' 2 (Nat.le_refl 2))))
  exact ⟨s, log, hrun, hwatch, hcalls, hanswers, hnumbers, htaken, hlog ▸ hfaithful⟩

/-- A handler for pieces that adds a handler for the id of each message it is given. -/
def listening : Operation :=
  .add "piece" .gameUnit .all fun occasion =>
    .perform (.add "one" .allTypes occasion.message.id fun _ => .done) fun _ => .done

/-- The handler that is added while a message is handed on does not see it. -/
example :
    let m : Message := ⟨⟨⟨3⟩, .gameUnit, 2⟩, [0, 0]⟩
    ((Program.ofList [listening, .dispatch m .fromServer]).run (run 2) {}).map
      (fun s => (s.answers.head?, s.registry.size)) = some (some (.count 1), 2) := by
  decide +kernel

end Pursuit.Script
