import Pursuit.Routing.Registry

/-! # Handlers that work on their own registry

A scripted handler records that it was called and then performs operations on the very registry that
it was called from, nested dispatches included. Which operations these are may hang on the message, on
where it came from, on all that was called and answered before, and on the answers to the operations
that the script itself has performed so far.

* **`Script.Operation`**, **`Script.Program`** — one operation on a registry of scripted handlers, and
  operations that are chosen in the light of the answers before them.
* **`Script.Occasion`** — what a handler knows when it is called.
* **`Script.run`** — performs an operation; the first argument bounds how deep dispatches may
  nest, and a bound that is met makes no difference to the answer. -/

namespace Pursuit.Script

/-- The record of one call. -/
structure Call where
  /-- The name of the handler. -/
  handler : String
  /-- The message it was given. -/
  message : Message
  /-- Where the message came from. -/
  context : Context

/-- What an operation answers. -/
inductive Answer where
  /-- A handler was added under this number. -/
  | added (number : UInt64)
  /-- Whether a handler was removed; nothing where no handler ever had the name. -/
  | removed (found : Option Bool)
  /-- A number of handlers removed or called. -/
  | count (n : Nat)
  /-- Nothing to tell. -/
  | done
deriving DecidableEq, Repr

/-- What a handler knows when it is called. -/
structure Occasion where
  /-- The message it is given. -/
  message : Message
  /-- Where the message comes from. -/
  context : Context
  /-- The calls so far, this one first. -/
  calls : List Call
  /-- The answers so far, to whomever they were given, the latest first. -/
  answers : List Answer

mutual

/-- One operation on a registry. -/
inductive Operation where
  /-- Adds a handler with a name and a script of its own. -/
  | add (name : String) (type : ContentType) (id : MessageId) (script : Occasion → Program)
  /-- Removes the handler that was last added under a name. -/
  | removeNamed (name : String)
  /-- Removes the handler with a number. -/
  | removeNumber (number : UInt64)
  /-- Removes the handlers for exactly this id. -/
  | removeAllFor (id : MessageId)
  /-- Removes all handlers. -/
  | clear
  /-- Hands a message to the handlers that match it. -/
  | dispatch (message : Message) (context : Context)

/-- Operations one after the other, each chosen in the light of the answers before it. -/
inductive Program where
  /-- Nothing more. -/
  | done
  /-- Performs an operation and goes on as its answer demands. -/
  | perform (op : Operation) (next : Answer → Program)

end

namespace Program

/-- Operations that are performed whatever the answers are. -/
def ofList : List Operation → Program
  | [] => .done
  | op :: ops => .perform op fun _ => ofList ops

/-- Performs a program, with a way to perform one operation. -/
def run {σ : Type} (perform : Operation → σ → Option (Answer × σ)) : Program → σ → Option σ
  | .done, s => some s
  | .perform op next, s => (perform op s).bind fun (answer, s) => (next answer).run perform s

/-- A list of operations is performed one after the other. -/
theorem run_ofList {σ : Type} (perform : Operation → σ → Option (Answer × σ))
    (ops : List Operation) (s : σ) :
    (ofList ops).run perform s = ops.foldlM (fun s op => (perform op s).map (·.2)) s := by
  induction ops generalizing s with
  | nil => rfl
  | cons op ops ih =>
    rw [ofList, run, List.foldlM_cons, Option.bind_eq_bind, Option.bind_map]
    exact Option.bind_congr fun result _ => ih result.2

end Program

/-- A list of operations is a script that is the same on every occasion. -/
instance : Coe (List Operation) (Occasion → Program) := ⟨fun ops _ => .ofList ops⟩

/-- What a scripted handler does: it is recorded under its name and runs its script. -/
structure Scripted where
  /-- The name it was added under. -/
  name : String
  /-- What it does then. -/
  script : Occasion → Program

/-- A registry of scripted handlers with its history. -/
structure State where
  /-- The handlers. -/
  registry : Registry Scripted := {}
  /-- The number last given to each name, the latest first. -/
  named : List (String × UInt64) := []
  /-- The calls so far, the latest first. -/
  calls : List Call := []
  /-- The answers so far, the latest first. -/
  answers : List Answer := []

namespace State

/-- An answer is given, and recorded. -/
def answering (s : State) (answer : Answer) : Answer × State :=
  (answer, { s with answers := answer :: s.answers })

/-- Removes one handler by its number. -/
def remove (s : State) (number : UInt64) : Answer × State :=
  let (found, registry) := s.registry.remove number
  { s with registry }.answering (.removed (some found))

/-- The state when a handler is called. -/
def calling (s : State) (handler : Scripted) (message : Message) (context : Context) : State :=
  { s with calls := ⟨handler.name, message, context⟩ :: s.calls }

end State

/-- What a handler does when it is called in a state. -/
def Scripted.program (handler : Scripted) (message : Message) (context : Context) (s : State) :
    Program :=
  handler.script ⟨message, context, s.calls, s.answers⟩

/-- Performs an operation. A dispatch calls the handlers that matched when it began, one after the
other; each is recorded before its script runs. No answer means that dispatches nest deeper than
the bound. -/
def run : Nat → Operation → State → Option (Answer × State)
  | _, .add name type id script, s =>
    let (number, registry) := s.registry.add type id ⟨name, script⟩
    some ({ s with registry, named := (name, number) :: s.named }.answering (.added number))
  | _, .removeNamed name, s =>
    match s.named.lookup name with
    | some number => some (s.remove number)
    | none => some (s.answering (.removed none))
  | _, .removeNumber number, s => some (s.remove number)
  | _, .removeAllFor id, s =>
    let (n, registry) := s.registry.removeAllFor id
    some ({ s with registry }.answering (.count n))
  | _, .clear, s => some ({ s with registry := s.registry.clear }.answering .done)
  | 0, .dispatch _ _, _ => none
  | depth + 1, .dispatch message context, s =>
    let matched := s.registry.matching message
    let after := matched.foldlM (fun s h =>
      let s := s.calling h.action message context
      (h.action.program message context s).run (run depth) s) s
    after.map (·.answering (.count matched.length))

end Pursuit.Script
