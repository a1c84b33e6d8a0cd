import Pursuit.Connection.Dialer
import Pursuit.Connection.Listener
import Pursuit.Game.Basic

/-! # Settings that outlive a session

* **`Config`** — the network, the game, and what is logged, each with its defaults.
* **`Config.rules`, `Config.listener`, `Config.dialer`** — what the settings mean for the game, for
  the server and for the client. -/

namespace Pursuit

/-- Settings of the network. -/
structure Config.Network where
  /-- Where a client dials and the host listens. -/
  address : String := "127.0.0.1"
  /-- The number of the service there. -/
  number : UInt16 := defaultNumber
  /-- How many sessions the server keeps at once. -/
  capacity : UInt64 := 16
  /-- Whether the client tries again when a connection fails or ends. -/
  retries : Bool := true
deriving DecidableEq

/-- Settings of the game. -/
structure Config.Play where
  /-- The level that the host begins with. -/
  level : UInt32 := 1
  /-- The length of a round in seconds. -/
  roundSecs : UInt64 := 60
  /-- The time between ticks in milliseconds. -/
  tickMillis : UInt64 := 20
  /-- Whether hunters score. -/
  scoresHunters : Bool := false
deriving DecidableEq

/-- Settings for whoever looks for faults. -/
structure Config.Diagnosis where
  /-- What is logged. -/
  logLevel : String := "info"
deriving DecidableEq

/-- All settings. -/
structure Config where
  /-- The network. -/
  network : Config.Network := {}
  /-- The game. -/
  play : Config.Play := {}
  /-- Fault finding. -/
  diagnosis : Config.Diagnosis := {}
deriving DecidableEq

instance : Inhabited Config := ⟨{}⟩

/-- The configured address is none to listen on. -/
structure BindError where
  /-- The configured address. -/
  address : String
deriving DecidableEq

/-- What the error tells its reader. -/
def BindError.message (e : BindError) : String :=
  "`" ++ e.address ++ "` is not an IP address to listen on"

namespace Config

/-- The server's endpoint as a client dials it. -/
def endpointText (c : Config) : String :=
  c.network.address ++ ":" ++ toString c.network.number.toNat

/-- The rules of the game. Ticks are at least a millisecond apart. -/
def rules (c : Config) : Rules where
  roundLength := .ofSecs c.play.roundSecs
  tick := .ofMillis (max c.play.tickMillis 1)
  scoring := if c.play.scoresHunters then .versus else .preyOnly

/-- What the server needs to listen. Names of machines are not looked up. -/
def listener (c : Config) : Except BindError ListenerSettings :=
  match IpAddress.ofText? c.network.address with
  | some ip => .ok ⟨⟨ip, c.network.number⟩, c.network.capacity⟩
  | none => .error ⟨c.network.address⟩

/-- What the client needs to dial. -/
def dialer (c : Config) : DialerSettings where
  retry := if c.network.retries then some {} else none

/-- The default settings give the default rules. -/
theorem rules_default : (default : Config).rules = {} := by
  decide

end Config

end Pursuit
