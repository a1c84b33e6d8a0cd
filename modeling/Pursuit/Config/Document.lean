import Pursuit.Config.Basic
import Pursuit.Config.Notation

/-! # The text of the settings file

* **`Config.text`** — the file as it is written: each field on a line of its own.
* **`Config.ofText?`** — the settings that a file holds. Fields come in any order; those that are
  missing keep their defaults, those that are not known are skipped, and none may come twice. -/

namespace Pursuit

namespace Config

/-! ## Writing -/

/-- A word for a truth value. -/
def flagText (b : Bool) : String := if b then "true" else "false"

/-- A section: its fields indented by two steps, each with a comma. -/
def sectionText (name : String) (fields : List (String × String)) : String :=
  "    " ++ name ++ ": (\n"
    ++ String.join (fields.map fun (field, value) =>
      "        " ++ field ++ ": " ++ value ++ ",\n")
    ++ "    ),\n"

/-- The settings as they are written. -/
def text (c : Config) : String :=
  "(\n"
    ++ sectionText "network"
      [("server_address", quote c.network.address),
        ("server_port", toString c.network.number.toNat),
        ("max_connections", toString c.network.capacity.toNat),
        ("retry_connect", flagText c.network.retries)]
    ++ sectionText "game"
      [("level", toString c.play.level.toNat),
        ("round_secs", toString c.play.roundSecs.toNat),
        ("tick_millis", toString c.play.tickMillis.toNat),
        ("score_hunters", flagText c.play.scoresHunters)]
    ++ sectionText "debug" [("log_level", quote c.diagnosis.logLevel)]
    ++ ")"

/-! ## Reading -/

open Reader Notation

/-- A field of a record: its name, and how its value changes the record. -/
structure Field (σ : Type) where
  /-- The name. -/
  name : String
  /-- Reads the value into a record. -/
  read : σ → Reader σ

/-- One field, into a record in which some fields have been read already. -/
def readField {σ : Type} (fields : List (Field σ)) (skip : Reader Unit) :
    σ × List String → Reader (σ × List String) := fun (a, seen) s => do
  let (n, s) ← name s
  let (_, s) ← colon s
  match fields.find? (·.name = n) with
  | some f =>
    if seen.contains n then none
    else do
      let (a, s) ← f.read a s
      return ((a, n :: seen), s)
  | none => do
    let (_, s) ← skip s
    return ((a, seen), s)

/-- The name in front of a record, which can be left out unless the file says otherwise. -/
def recordName (x : Extensions) (title : String) : Reader Unit := fun s =>
  if s.head?.any isNamePart then
    match name s with
    | some (n, rest) => if n = title then some ((), rest) else none
    | none => none
  else if x.explicitNames then none
  else some ((), s)

/-- A record with the given title and fields, read over a value that holds the defaults. `limit` is
how deep the values of unknown fields may be nested. -/
def record {σ : Type} (x : Extensions) (title : String) (fields : List (Field σ)) (limit : Nat)
    (a : σ) : Reader σ := fun s => do
  let (_, s) ← recordName x title s
  let (_, s) ← char '(' (← blanks s)
  let ((a, _), s) ← items (readField fields (value x limit)) ')' (a, []) s
  return (a, s)

/-- A word for a truth value. -/
def flag : Reader Bool := Numeral.oneOf [("true", true), ("false", false)]

/-- A number without a sign, in so many bits. -/
def unsigned (bits : Nat) : Reader Nat := fun s =>
  (Numeral.integer (.unsigned bits) s).map fun (n, s) => (n.toNat, s)

/-- A field that holds a value of its own. -/
def Field.of {σ α : Type} (name : String) (read : Reader α) (set : σ → α → σ) : Field σ :=
  ⟨name, fun a s => (read s).map fun (v, s) => (set a v, s)⟩

/-- The fields of the network's section. -/
def networkFields : List (Field Network) :=
  [.of "server_address" Quoted.text fun n v => { n with address := v },
    .of "server_port" (unsigned 16) fun n v => { n with number := .ofNat v },
    .of "max_connections" (unsigned 64) fun n v => { n with capacity := .ofNat v },
    .of "retry_connect" flag fun n v => { n with retries := v }]

/-- The fields of the game's section. -/
def playFields : List (Field Play) :=
  [.of "level" (unsigned 32) fun p v => { p with level := .ofNat v },
    .of "round_secs" (unsigned 64) fun p v => { p with roundSecs := .ofNat v },
    .of "tick_millis" (unsigned 64) fun p v => { p with tickMillis := .ofNat v },
    .of "score_hunters" flag fun p v => { p with scoresHunters := v }]

/-- The fields of the section for fault finding. -/
def diagnosisFields : List (Field Diagnosis) :=
  [.of "log_level" Quoted.text fun d v => { d with logLevel := v }]

/-- How deep a value in the file may be nested, counted as `Notation.value` counts. -/
def nesting : Nat := 128

/-- The sections. A section stands two steps below the file. -/
def sections (x : Extensions) : List (Field Config) :=
  let below := nesting - 4
  [.of "network" (record x "NetworkConfig" networkFields below {}) fun c v =>
      { c with network := v },
    .of "game" (record x "GameConfig" playFields below {}) fun c v => { c with play := v },
    .of "debug" (record x "DebugConfig" diagnosisFields below {}) fun c v =>
      { c with diagnosis := v }]

/-- The settings that a whole text holds. -/
def ofText? (s : String) : Option Config := do
  let (x, s) ← head s.toList
  let (c, s) ← record x "Config" (sections x) (nesting - 2) default s
  if (← blanks s).isEmpty then some c else none

end Config

end Pursuit
