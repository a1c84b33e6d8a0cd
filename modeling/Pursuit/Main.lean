import Pursuit.Config.Arguments
import Pursuit.Config.Folder
import Pursuit.Match.Control

/-! # The program

Reads the command line and the settings, sets up a match, and applies the commands on standard input
until one of them leaves. A host and its own guest share the process; a server elsewhere is out of
reach. -/

namespace Pursuit.Program

/-- What the program tells of its command line. -/
def usage : String :=
  "usage: pursuit [--role host|client] [--server ADDRESS] [--port N] [--level N]"
    ++ " [--round-secs N] [--log-level LEVEL] [--config FOLDER]"

/-- Where the settings are kept unless the command line says otherwise. -/
def defaultFolder : IO String := do
  match ← IO.getEnv "XDG_CONFIG_HOME", ← IO.getEnv "HOME" with
  | some base, _ => return base ++ "/pursuit"
  | none, some home => return home ++ "/.config/pursuit"
  | none, none => return "."

/-- The settings in a folder, or the defaults, which are written there if nothing is. -/
def loadSettings (folder : String) : IO Config := do
  let path := folder ++ "/config.ron"
  let found ←
    try pure (Folder.holding (← IO.FS.readBinFile path).toList) catch _ => pure Folder.absent
  match found.loadOrCreate with
  | (.ok c, kept) =>
    if found = .absent then
      try
        IO.FS.createDirAll folder
        IO.FS.writeFile path (kept.text?.getD "")
      catch _ => IO.eprintln "the settings cannot be written"
    return c
  | (.error _, _) =>
    IO.eprintln "the settings cannot be loaded, the defaults are used"
    return default

/-- A match with a guest who dials the given address. -/
def setUp (c : Config) (isHost : Bool) (capacity : Nat) (address : String) : Match :=
  let host := Host.new c.rules capacity
  let host := if isHost then (host.load c.play.level).prepare else host.stop
  let m : Match := { host, address, guests := [.new c.dialer c.rules] }
  (m.order 0 (.connect address)).settle

/-- The match after some time, of which the rules make so many ticks. -/
def pass (m : Match) (tick : Duration) (nanos : Nat) : Match :=
  let host := Nat.repeat (·.tick tick) (nanos / max tick.nanos 1) m.host
  { m with host := host }.settle

/-- Applies the lines of the input as they come. -/
partial def control (input : IO.FS.Stream) (tick : Duration) (isHost : Bool) (since : Nat)
    (m : Match) : IO Match := do
  let line ← input.getLine
  if line.isEmpty then return m
  let now ← IO.monoNanosNow
  let m := pass m tick (now - since)
  match Command.parse line with
  | .error e =>
    IO.eprintln e.message
    control input tick isHost now m
  | .ok none => control input tick isHost now m
  | .ok (some c) =>
    if c = .status then IO.println (m.statusText 0)
    let (stays, m) := m.apply 0 isHost c
    if stays then control input tick isHost now m.settle else return m

/-- Runs a match with the given settings, until the input ends or the player leaves. -/
def run (c : Config) (role : Role) : IO UInt32 := do
  let isHost := role = .host
  let capacity := if isHost then c.listener.map (·.capacity.toNat) else .ok 0
  match capacity with
  | .error e =>
    IO.eprintln e.message
    return 1
  | .ok capacity =>
    let m := setUp c isHost capacity c.endpointText
    if !isHost then IO.eprintln (c.endpointText ++ " cannot be reached")
    let m ← control (← IO.getStdin) c.rules.tick isHost (← IO.monoNanosNow) m
    let m := { m with host := m.host.stop }.settle
    IO.println (m.statusText 0)
    return 0

end Pursuit.Program

open Pursuit in
/-- Runs the program on the words of the command line. -/
def main (words : List String) : IO UInt32 := do
  match Arguments.ofWords words with
  | .error .help =>
    IO.println Program.usage
    return 0
  | .error _ =>
    IO.eprintln Program.usage
    return 2
  | .ok a =>
    let folder ← match a.folder with
      | some folder => pure folder
      | none => Program.defaultFolder
    Program.run ((← Program.loadSettings folder).override a) a.roleOrHost
