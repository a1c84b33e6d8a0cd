import Pursuit.Config.Basic
import Pursuit.Text.Digits

/-! # The words of the command line

```text
--role host|client     run a server and a client of it, or a client only
--server ADDRESS       where the server is
--port N               the number of the service there
--level N              the level to begin with
--round-secs N         the length of a round
--log-level LEVEL      what to log
--config FOLDER        where the settings are kept
-h, --help             show this
```

A value follows its option as a word of its own, or in the same word after an equals sign.

* **`Arguments`** — what the words ask for; **`Arguments.ofWords`** reads them.
* **`ArgumentError`** — why they cannot be followed, or that help is asked for.
* **`Config.override`** — settings with those of the command line in place of their own. -/

namespace Pursuit

/-- What a process runs. -/
inductive Role where
  /-- A server and a client of it. -/
  | host
  /-- A client. -/
  | client
deriving DecidableEq, Repr

/-- The options that take a value. -/
inductive Arguments.Key where
  /-- What to run. -/
  | role
  /-- Where the server is. -/
  | server
  /-- The number of the service. -/
  | number
  /-- The level to begin with. -/
  | level
  /-- The length of a round. -/
  | roundSecs
  /-- What to log. -/
  | logLevel
  /-- Where the settings are kept. -/
  | folder
deriving DecidableEq, Repr

/-- The option with a name. -/
def Arguments.Key.ofName? (name : String) : Option Key :=
  if name = "role" then some role
  else if name = "server" then some server
  else if name = "port" then some number
  else if name = "level" then some level
  else if name = "round-secs" then some roundSecs
  else if name = "log-level" then some logLevel
  else if name = "config" then some folder
  else none

/-- What the words of a command line ask for. -/
structure Arguments where
  /-- What to run. -/
  role : Option Role := none
  /-- Where the server is. -/
  server : Option String := none
  /-- The number of the service. -/
  number : Option UInt16 := none
  /-- The level to begin with. -/
  level : Option UInt32 := none
  /-- The length of a round in seconds. -/
  roundSecs : Option UInt64 := none
  /-- What to log. -/
  logLevel : Option String := none
  /-- Where the settings are kept. -/
  folder : Option String := none
deriving DecidableEq

/-- Why the words of a command line are not followed. -/
inductive ArgumentError where
  /-- A word is no option, nor the value of one. -/
  | unknown (word : String)
  /-- An option has no value, or an empty one where that is none. -/
  | missingValue (key : Arguments.Key)
  /-- There is no such role. -/
  | unknownRole (word : String)
  /-- A value is no number, or too large a one. -/
  | unreadable (key : Arguments.Key) (word : String)
  /-- An option is given twice. -/
  | repeated (key : Arguments.Key)
  /-- An option has a value that takes none. -/
  | unneededValue
  /-- Help is asked for. -/
  | help
deriving DecidableEq, Repr

namespace Arguments

/-- A number below `bound` in decimal digits, perhaps after a sign. Zero is zero with either. -/
def signed? (bound : Nat) (s : List Char) : Option Nat :=
  match s with
  | '-' :: s => (allDigits? 10 s).bind fun ds => if ofDigits 10 ds = 0 then some 0 else none
  | s => unsigned? bound s

/-- Whether an option has been given a value. -/
def has (a : Arguments) : Key → Bool
  | .role => a.role.isSome
  | .server => a.server.isSome
  | .number => a.number.isSome
  | .level => a.level.isSome
  | .roundSecs => a.roundSecs.isSome
  | .logLevel => a.logLevel.isSome
  | .folder => a.folder.isSome

/-- Gives an option a value. -/
def accept (a : Arguments) (key : Key) (word : String) : Except ArgumentError Arguments :=
  let read {α : Type} (value : Option α) (set : α → Arguments) : Except ArgumentError Arguments :=
    match value with
    | some v => .ok (set v)
    | none => .error (.unreadable key word)
  if a.has key then .error (.repeated key)
  else
    match key with
    | .role =>
      if word = "host" then .ok { a with role := some .host }
      else if word = "client" then .ok { a with role := some .client }
      else .error (.unknownRole word)
    | .server => .ok { a with server := some word }
    | .number => read (signed? UInt16.size word.toList) fun n => { a with number := some (.ofNat n) }
    | .level => read (signed? UInt32.size word.toList) fun n => { a with level := some (.ofNat n) }
    | .roundSecs =>
      read (unsigned? UInt64.size word.toList) fun n => { a with roundSecs := some (.ofNat n) }
    | .logLevel => .ok { a with logLevel := some word }
    | .folder =>
      if word = "" then .error (.missingValue key) else .ok { a with folder := some word }

/-- An option whose value has not been looked at. -/
inductive Pending where
  /-- There is none. -/
  | none
  /-- Its value is to come. -/
  | awaiting (key : Key)
  /-- Its value has come. -/
  | given (key : Key) (word : String)

/-- Looks at the value of the option before. -/
def settle (a : Arguments) : Pending → Except ArgumentError Arguments
  | .none => .ok a
  | .awaiting key => .error (.missingValue key)
  | .given key word => a.accept key word

/-- What a word is. -/
inductive Shape where
  /-- The word after which no options follow. -/
  | stop
  /-- Two hyphens, a name, and perhaps an equals sign with a value. -/
  | long (name : String) (value : Option String)
  /-- A hyphen and a letter with more letters. -/
  | short (letter : Char)
  /-- Any other word. -/
  | plain

/-- The shape of a word. -/
def shape (word : String) : Shape :=
  match word.toList with
  | ['-', '-'] => .stop
  | '-' :: '-' :: s =>
    let name := String.ofList (s.takeWhile (· != '='))
    match s.dropWhile (· != '=') with
    | _ :: value => .long name (some (String.ofList value))
    | [] => .long name none
  | '-' :: c :: _ => .short c
  | _ => .plain

/-- Reads the words from the given state on. A value is looked at when the next option is met, so an
unknown word in between is the error that is told. -/
def ofWordsFrom (a : Arguments) (pending : Pending) :
    List String → Except ArgumentError Arguments
  | [] => a.settle pending
  | word :: rest =>
    match shape word with
    | .stop =>
      match rest with
      | [] => a.settle pending
      | word :: _ => .error (.unknown word)
    | .long name value =>
      if name = "help" then
        if value.isSome then .error .unneededValue
        else do
          let _ ← a.settle pending
          .error .help
      else
        match Key.ofName? name with
        | none => .error (.unknown word)
        | some key => do
          let a ← a.settle pending
          match value with
          | none => ofWordsFrom a (.awaiting key) rest
          | some value => ofWordsFrom (← a.accept key value) .none rest
    | .short letter =>
      if letter = 'h' then do
        let _ ← a.settle pending
        .error .help
      else .error (.unknown word)
    | .plain =>
      match pending with
      | .awaiting key => ofWordsFrom a (.given key word) rest
      | _ => .error (.unknown word)

/-- What the words of a command line ask for. -/
def ofWords (words : List String) : Except ArgumentError Arguments :=
  ofWordsFrom {} .none words

/-- What to run. -/
def roleOrHost (a : Arguments) : Role := a.role.getD .host

@[simp] theorem ofWords_nil : ofWords [] = .ok {} := rfl

end Arguments

/-- Settings with those of the command line in place of their own. -/
def Config.override (c : Config) (a : Arguments) : Config where
  network := { c.network with
    address := a.server.getD c.network.address
    number := a.number.getD c.network.number }
  play := { c.play with
    level := a.level.getD c.play.level
    roundSecs := a.roundSecs.getD c.play.roundSecs }
  diagnosis := { logLevel := a.logLevel.getD c.diagnosis.logLevel }

/-- Without words nothing is overridden. -/
@[simp] theorem Config.override_default (c : Config) : c.override {} = c := rfl

end Pursuit
