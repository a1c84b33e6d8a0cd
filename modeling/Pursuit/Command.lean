import Pursuit.Message.Payload
import Pursuit.Numeric.Literal
import Pursuit.Text.Blank

/-! # Commands of the player

```text
start                      start the loaded round (host only)
load N                     load level N for every player (host only)
move I ANGLE STRENGTH      accelerate own unit I; ANGLE in radians, STRENGTH in 0..=1
highlight I on|off         toggle the highlight of own unit I
status                     show the game as it has been told
reconnect                  drop and open the connection again
quit                       leave
```

* **`Command`** — what a line can ask for.
* **`Command.parse`** — the command of a line. The first word may be in letters of either case.
* **`CommandError`** — a word that is no command, or a command with the wrong arguments. -/

namespace Pursuit

/-- What the player can ask for. -/
inductive Command where
  /-- Start the round. -/
  | start
  /-- Load a level. -/
  | load (level : UInt32)
  /-- Steer an own piece. -/
  | move (order : SteerOrder)
  /-- Mark an own piece. -/
  | highlight (order : HighlightOrder)
  /-- Show how things stand. -/
  | status
  /-- Open the connection again. -/
  | reconnect
  /-- Leave. -/
  | quit
deriving DecidableEq, Repr

/-- The word of a command. -/
def Command.word : Command → String
  | start => "start"
  | load _ => "load"
  | move _ => "move"
  | highlight _ => "highlight"
  | status => "status"
  | reconnect => "reconnect"
  | quit => "quit"

/-- The commands that take arguments or refuse them. -/
inductive Usage where
  /-- Takes none. -/
  | start
  /-- Takes a level. -/
  | load
  /-- Takes a unit, an angle and a strength. -/
  | move
  /-- Takes a unit and a switch. -/
  | highlight
deriving DecidableEq, Repr

namespace Usage

/-- The word of the command. -/
def name : Usage → String
  | start => "start"
  | load => "load"
  | move => "move"
  | highlight => "highlight"

/-- How the command is written. -/
def form : Usage → String
  | start => "start"
  | load => "load N"
  | move => "move I ANGLE STRENGTH"
  | highlight => "highlight I on|off"

end Usage

/-- Why a line is no command. -/
inductive CommandError where
  /-- It begins with no command's word, or goes on after a command that stands alone. -/
  | unknown (line : String)
  /-- The arguments do not fit the command. -/
  | usage (command : Usage)
deriving DecidableEq, Repr

/-- What the error tells its reader. -/
def CommandError.message : CommandError → String
  | unknown line => "unknown command `" ++ line ++ "`"
  | usage command => "`" ++ command.name ++ "` expects: " ++ command.form

namespace Command

/-- A byte in decimal digits. -/
def byte? (w : List Char) : Option UInt8 := (unsigned? UInt8.size w).map UInt8.ofNat

/-- The number of a level in decimal digits. -/
def level? (w : List Char) : Option UInt32 := (unsigned? UInt32.size w).map UInt32.ofNat

/-- A switch. -/
def switch? (w : List Char) : Option Bool :=
  if w = "on".toList then some true else if w = "off".toList then some false else none

/-- The arguments of `move`. -/
def moveOrder? : List (List Char) → Option SteerOrder
  | [index, angle, strength] => do
    return ⟨← byte? index, ← Single.ofLiteral? angle, ← Single.ofLiteral? strength⟩
  | _ => none

/-- The arguments of `highlight`. -/
def highlightOrder? : List (List Char) → Option HighlightOrder
  | [index, switch] => do return ⟨← byte? index, ← switch? switch⟩
  | _ => none

/-- The argument of `load`. -/
def loadLevel? : List (List Char) → Option UInt32
  | [level] => level? level
  | _ => none

/-- A command whose arguments fit, or a note on how it is used. -/
def fitted (usage : Usage) : Option Command → Except CommandError (Option Command)
  | some c => .ok (some c)
  | none => .error (.usage usage)

/-- The command of a line. A blank line has none. -/
def parse (line : String) : Except CommandError (Option Command) :=
  match words line.toList with
  | [] => .ok none
  | first :: arguments =>
    let name := String.ofList (first.map Char.toLower)
    if name = "start" then fitted .start (if arguments.isEmpty then some start else none)
    else if name = "load" then fitted .load ((loadLevel? arguments).map load)
    else if name = "move" then fitted .move ((moveOrder? arguments).map move)
    else if name = "highlight" then
      fitted .highlight ((highlightOrder? arguments).map highlight)
    else if name = "status" ∧ arguments.isEmpty then .ok (some status)
    else if name = "reconnect" ∧ arguments.isEmpty then .ok (some reconnect)
    else if (name = "quit" ∨ name = "exit") ∧ arguments.isEmpty then .ok (some quit)
    else .error (.unknown (String.ofList (trim line.toList)))

end Command

end Pursuit
