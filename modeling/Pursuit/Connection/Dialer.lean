import Pursuit.Backoff
import Pursuit.Wire.Stream

/-! # The dialling side of a client

One task looks after the connection of a client. It handles commands one after the other, tries to
connect, waits between attempts, and while a connection lasts writes what is queued and watches the
reader of that connection. The queue of outgoing messages outlives connections.

When a connection ends its reader is called off, but it is not waited for: until it is gone it may
still take up frames and report their messages.

* **`DialerSettings`** — how long an attempt may take, and whether there is another.
* **`Dialer.Order`** — what can be asked of the task.
* **`Dialer`** — where the task stands, and what waits for it.
* **`Dialer.Action`** — whatever can happen, in any order.
* **`Dialer.step`, `Dialer.run`** — what it makes of the client, and what is reported. -/

namespace Pursuit

/-- The settings of a client's endpoint. -/
structure DialerSettings where
  /-- How long an attempt to connect may take. -/
  timeout : Duration := .ofSecs 5
  /-- How it retries, if it does. -/
  retry : Option Backoff.Policy := none

/-- The state of a connection as the client shows it. -/
inductive ConnectionState where
  /-- There is no connection and no attempt at one. -/
  | idle
  /-- The address is looked up. -/
  | resolving
  /-- An attempt is under way. -/
  | connecting
  /-- The connection is up. -/
  | connected
  /-- An attempt failed, and the next has a time. -/
  | retrying
  /-- The task is at its end. -/
  | closed
deriving DecidableEq, Repr

/-- The state as it is shown. -/
def ConnectionState.text : ConnectionState → String
  | idle => "idle"
  | resolving => "resolving"
  | connecting => "connecting"
  | connected => "connected"
  | retrying => "retrying"
  | closed => "closed"

/-- Why a connection ended. -/
inductive CloseReason where
  /-- It can no longer be read. -/
  | lost
  /-- It can no longer be written. -/
  | broken
  /-- The client was told to disconnect. -/
  | disconnected
  /-- The client was told to connect to the same address again. -/
  | reconnecting
  /-- The client was told to connect to another address. -/
  | switching
  /-- The client was told to stop. -/
  | shutDown
deriving DecidableEq, Repr

/-- The reason as it is shown, where it does not come from the system. -/
def CloseReason.text : CloseReason → String
  | lost => WireError.connectionClosed.message
  | broken => "broken"
  | disconnected => "disconnected"
  | reconnecting => "reconnecting"
  | switching => "switching server"
  | shutDown => "shut down"

/-- What a client reports. -/
inductive ClientEvent where
  /-- The connection is up. -/
  | established
  /-- An attempt failed. -/
  | failed
  /-- The connection ended. -/
  | closed (reason : CloseReason)
  /-- The server sent a message. -/
  | received (m : Message)
deriving DecidableEq, Repr

/-- What can be asked of the task. -/
inductive Dialer.Order where
  /-- Connect to an address, in place of any other. -/
  | connect (address : String)
  /-- End the connection. -/
  | disconnect
  /-- Connect to the last address again. -/
  | reconnect
  /-- Stop for good. -/
  | shutDown
deriving DecidableEq, Repr

/-- What the task is about. -/
inductive Dialer.Phase where
  /-- It waits for an order. -/
  | waiting
  /-- It tries to connect. -/
  | dialing
  /-- It waits for the time of the next attempt, or for an order. -/
  | pausing (delay : Duration)
  /-- It looks after a connection. -/
  | serving
  /-- It has stopped. -/
  | stopped
deriving DecidableEq

/-- The client's side of one connection. -/
structure Wire where
  /-- The bytes that came in and have not been read. -/
  incoming : List UInt8 := []
  /-- Whether the server has hung up. -/
  hungUp : Bool := false
  /-- The bytes written. -/
  written : List UInt8 := []
deriving DecidableEq

namespace Wire

/-- Bytes come in, unless the server has hung up. -/
def take (w : Wire) (bytes : List UInt8) : Wire :=
  if w.hungUp then w else { w with incoming := w.incoming ++ bytes }

/-- Bytes are written. -/
def put (w : Wire) (bytes : List UInt8) : Wire := { w with written := w.written ++ bytes }

end Wire

/-- The dialling side of a client. -/
structure Dialer where
  /-- How it retries, if it does. -/
  retry : Option Backoff
  /-- What the task is about. -/
  phase : Dialer.Phase := .waiting
  /-- The state that it shows. -/
  state : ConnectionState := .idle
  /-- The address of the last order to connect. -/
  address : Option String := none
  /-- An order that the task has taken and not handled. -/
  taken : Option Dialer.Order := none
  /-- The orders that the task has not taken, the oldest first. -/
  orders : List Dialer.Order := []
  /-- The messages that are to be written, the oldest first. -/
  queue : List Message := []
  /-- The connections so far; the last one is up while the task serves. -/
  wires : List Wire := []
  /-- Which earlier connections have a reader that is not gone yet. -/
  lingering : List Nat := []
  /-- Whether nobody is left who could ask for anything or send a message. -/
  released : Bool := false

namespace Dialer

/-- What can happen to a client. What is not possible as things stand has no effect. -/
inductive Action where
  /-- Somebody asks for something. -/
  | post (order : Order)
  /-- Somebody sends a message. -/
  | send (m : Message)
  /-- The task takes an order and handles it. -/
  | handle
  /-- The address is found. -/
  | resolve
  /-- The attempt fails; whether and when there is another may depend on chance. -/
  | fail (c : Backoff.Chance)
  /-- The attempt succeeds. -/
  | succeed
  /-- The time of the next attempt has come. -/
  | retry
  /-- Bytes come in on the connection. -/
  | arrive (bytes : List UInt8)
  /-- The server hangs up. -/
  | hangUp
  /-- The reader takes the next frame. -/
  | read
  /-- The reader cannot read, and the task notices it. -/
  | fault
  /-- The task notices that the reader has come to the end of the stream. -/
  | lose
  /-- The task writes the next message. -/
  | write
  /-- The task cannot write more of the next message than so many bytes. -/
  | break (count : Nat)
  /-- Nobody is left to ask for anything, and the task is told to stop. -/
  | release
  /-- The task notices that nobody is left to send a message. -/
  | starve
  /-- The reader of an earlier connection takes the next frame. -/
  | linger (connection : Nat)
  /-- Bytes come in on an earlier connection whose reader is not gone. -/
  | trickle (connection : Nat) (bytes : List UInt8)
  /-- The reader of an earlier connection is gone. -/
  | vanish (connection : Nat)

/-- A client that has not been asked for anything. -/
def new (retry : Option Backoff.Policy) : Dialer := { retry := retry.map Backoff.start }

/-- Whether a connection is up. -/
def isConnected (d : Dialer) : Bool := d.state = .connected

/-- Whether a new connection can be asked for without replacing anything. -/
def acceptsConnection (d : Dialer) : Bool := d.state = .idle

/-- Queues a message and tells whether there is still somebody to write it. -/
def send (d : Dialer) (m : Message) : Bool × Dialer :=
  if d.phase = .stopped ∨ d.released then (false, d) else (true, { d with queue := d.queue ++ [m] })

/-- Asks for something; a stopped task does not hear it. -/
def post (d : Dialer) (order : Order) : Dialer :=
  if d.phase = .stopped ∨ d.released then d else { d with orders := d.orders ++ [order] }

/-- Gives the client up. The task is told to stop, and hears nothing after that. -/
def release (d : Dialer) : Dialer := { d.post .shutDown with released := true }

/-- Starts the retries anew. -/
def resetRetry (d : Dialer) : Dialer := { d with retry := d.retry.map Backoff.reset }

/-- Begins an attempt, if there is an address. -/
def dial (d : Dialer) : Dialer :=
  match d.address with
  | some _ => { d with phase := .dialing, state := .resolving }
  | none => { d with phase := .waiting }

/-- The connection that the task looks after, if the action changes it. -/
def modifyWire (d : Dialer) (f : Wire → Wire) : Dialer :=
  if d.phase = .serving then { d with wires := d.wires.modify (d.wires.length - 1) f } else d

/-- The connection with a number. -/
def wire? (d : Dialer) (connection : Nat) : Option Wire := d.wires[connection]?

/-- The connection that is up. -/
def current? (d : Dialer) : Option Wire := if d.phase = .serving then d.wires.getLast? else none

/-- Ends the connection and keeps the order that ended it, if that is still to be handled. A reader
that has not come to the end of the stream is called off, but may linger. -/
def hangUp (d : Dialer) (reason : CloseReason) (next : Option Order) :
    Dialer × List ClientEvent :=
  ({ d with
      phase := .waiting
      state := .idle
      taken := next
      lingering :=
        if reason = .lost then d.lingering else (d.wires.length - 1) :: d.lingering },
    [.closed reason])

/-- Handles an order while no connection is up. -/
def handleIdle (d : Dialer) (order : Order) : Dialer :=
  match order with
  | .connect address => { d with address := some address }.resetRetry.dial
  | .reconnect => d.resetRetry.dial
  | .disconnect => { d with phase := .waiting, state := .idle }
  | .shutDown => { d with phase := .stopped, state := .closed }

/-- Handles an order that comes while the connection is up. -/
def handleServing (d : Dialer) (order : Order) : Dialer × List ClientEvent :=
  match order with
  | .connect _ => d.hangUp .switching (some order)
  | .disconnect => d.hangUp .disconnected none
  | .reconnect => d.hangUp .reconnecting (some order)
  | .shutDown => d.hangUp .shutDown (some order)

/-- Takes an order and handles it. An order that ended a connection comes before those that were
posted since. While an attempt is under way none is taken. -/
def handle (d : Dialer) : Dialer × List ClientEvent :=
  match d.phase, d.taken, d.orders with
  | .dialing, _, _ | .stopped, _, _ => (d, [])
  | .serving, _, order :: rest => { d with orders := rest }.handleServing order
  | .serving, _, [] => (d, [])
  | _, some order, _ => ({ d with taken := none }.handleIdle order, [])
  | _, none, order :: rest => ({ d with orders := rest }.handleIdle order, [])
  | _, none, [] => (d, [])

/-- The attempt fails: if another one is due the task waits for its time, otherwise for an order. A
waiting time that is no length of time is the end of the task. -/
def fail (c : Backoff.Chance) (d : Dialer) : Dialer × List ClientEvent :=
  match d.retry.map (Backoff.next c) with
  | some (.wait delay, b) =>
    ({ d with retry := some b, phase := .pausing delay, state := .retrying }, [.failed])
  | some (.unrepresentable, b) => ({ d with retry := some b, phase := .stopped }, [])
  | some (.exhausted, b) =>
    ({ d with retry := some b, phase := .waiting, state := .idle }, [.failed])
  | none => ({ d with phase := .waiting, state := .idle }, [.failed])

/-- The attempt succeeds: a new connection is up. -/
def succeed (d : Dialer) : Dialer × List ClientEvent :=
  ({ d.resetRetry with phase := .serving, state := .connected, wires := d.wires ++ [{}] },
    [.established])

/-- Writes the next message, if a reader would accept it. -/
def write (d : Dialer) : Dialer :=
  match d.queue with
  | [] => d
  | m :: rest =>
    { d with queue := rest }.modifyWire (·.put ((writeMessage m).toOption.getD []))

/-- Writes no more than so many bytes of the next message, which ends the connection. Of a message
that no reader would accept nothing is written, so nothing can go wrong with it. -/
def breakOff (d : Dialer) (count : Nat) : Dialer × List ClientEvent :=
  match d.queue with
  | [] => (d, [])
  | m :: rest =>
    match writeMessage m with
    | .ok bytes =>
      ({ d with queue := rest }.modifyWire (·.put (bytes.take count))).hangUp .broken none
    | .error _ => (d, [])

/-- Takes the next frame off a connection and reports its message, if it is a valid one. -/
def readFrom (d : Dialer) (connection : Nat) : Dialer × List ClientEvent :=
  match (d.wire? connection).bind fun w => nextFrame? w.incoming with
  | some (frame, rest) =>
    ({ d with wires := d.wires.modify connection fun w => { w with incoming := rest } },
      (accepted [frame.check]).map .received)
  | none => (d, [])

/-- Whether the reader of the connection that is up has come to the end of the stream. -/
def atEnd (d : Dialer) : Bool :=
  d.current?.any fun w => w.hungUp && (nextFrame? w.incoming).isNone

/-- What an action makes of a client, and what is reported. -/
def step (a : Action) (d : Dialer) : Dialer × List ClientEvent :=
  match a with
  | .post order => (d.post order, [])
  | .send m => ((d.send m).2, [])
  | .handle => d.handle
  | .resolve =>
    (if d.phase = .dialing ∧ d.state = .resolving then { d with state := .connecting } else d, [])
  | .fail c => if d.phase = .dialing then d.fail c else (d, [])
  | .succeed => if d.phase = .dialing then d.succeed else (d, [])
  | .retry =>
    match d.phase with
    | .pausing _ => (d.dial, [])
    | _ => (d, [])
  | .arrive bytes => (d.modifyWire (·.take bytes), [])
  | .hangUp => (d.modifyWire fun w => { w with hungUp := true }, [])
  | .read => if d.phase = .serving then d.readFrom (d.wires.length - 1) else (d, [])
  | .fault => if d.phase = .serving then d.hangUp .lost none else (d, [])
  | .lose => if d.atEnd then d.hangUp .lost none else (d, [])
  | .write => (if d.phase = .serving then d.write else d, [])
  | .break count => if d.phase = .serving then d.breakOff count else (d, [])
  | .release => (d.release, [])
  | .starve =>
    if d.phase = .serving ∧ d.released ∧ d.queue = [] then d.hangUp .shutDown (some .shutDown)
    else (d, [])
  | .linger i => if d.lingering.contains i then d.readFrom i else (d, [])
  | .trickle i bytes =>
    (if d.lingering.contains i then { d with wires := d.wires.modify i (·.take bytes) } else d, [])
  | .vanish i => ({ d with lingering := d.lingering.erase i }, [])

/-- What actions make of a client one after the other, and all that is reported. -/
def run : List Action → Dialer → Dialer × List ClientEvent
  | [], d => (d, [])
  | a :: rest, d =>
    let (d, events) := step a d
    let (d, more) := run rest d
    (d, events ++ more)

/-! ## Running until nothing is left to do -/

/-- Handles the orders that wait, of which there are at most `fuel`, until an attempt is under way
or there is none. -/
def handleAll : Nat → Dialer → Dialer × List ClientEvent
  | 0, d => (d, [])
  | fuel + 1, d =>
    let idle := d.phase = .dialing ∨ d.phase = .stopped ∨ (d.taken = none ∧ d.orders = [])
    if idle then (d, [])
    else
      let (d, events) := d.handle
      let (d, more) := handleAll fuel d
      (d, events ++ more)

/-- Asks for something and handles all that has been asked for. The order may end a connection
before it is handled, which takes a turn of its own. -/
def order (d : Dialer) (o : Order) : Dialer × List ClientEvent :=
  (d.post o).handleAll (2 * d.orders.length + 3)

/-- Lets an attempt fail, and then as many of the retries after it as follow at once. -/
def failTimes (c : Backoff.Chance) : Nat → Dialer → Dialer × List ClientEvent
  | 0, d => (d, [])
  | n + 1, d =>
    let (d, events) := run [.retry, .resolve, .fail c] d
    let (d, more) := failTimes c n d
    (d, events ++ more)

/-! ## What the operations do -/

/-- A run that goes on does the rest on what the first part leaves, and reports after it. -/
theorem run_append (as bs : List Action) (d : Dialer) :
    run (as ++ bs) d = ((run bs (run as d).1).1, (run as d).2 ++ (run bs (run as d).1).2) := by
  induction as generalizing d with
  | nil => simp [run]
  | cons a as ih => simp [run, ih, List.append_assoc]

/-- A stopped task hears nothing. -/
theorem post_of_stopped {d : Dialer} (order : Order) (h : d.phase = .stopped) :
    d.post order = d := by
  simp [post, h]

end Dialer

end Pursuit
