import Pursuit.Address.Endpoint
import Pursuit.Address.Ip
import Pursuit.Arena.Level
import Pursuit.Arena.Motion
import Pursuit.Arena.Piece
import Pursuit.Backoff
import Pursuit.Command
import Pursuit.Config.Arguments
import Pursuit.Config.Basic
import Pursuit.Config.Document
import Pursuit.Config.Folder
import Pursuit.Config.Notation
import Pursuit.Config.Numeral
import Pursuit.Config.Quoted
import Pursuit.Connection.Dialer
import Pursuit.Connection.Listener
import Pursuit.Connection.Session
import Pursuit.Game.Basic
import Pursuit.Game.Request
import Pursuit.Game.Station
import Pursuit.Game.Table
import Pursuit.Main
import Pursuit.Match.Basic
import Pursuit.Match.Control
import Pursuit.Match.Guest
import Pursuit.Match.Host
import Pursuit.Match.Lobby
import Pursuit.Match.Roster
import Pursuit.Message.Allocator
import Pursuit.Message.Identity
import Pursuit.Message.Layout
import Pursuit.Message.Payload
import Pursuit.Numeric.Duration
import Pursuit.Numeric.Literal
import Pursuit.Numeric.Rounding
import Pursuit.Numeric.Single
import Pursuit.Numeric.Trigonometry
import Pursuit.Numeric.Vector
import Pursuit.Proofs.Contents
import Pursuit.Replica.Colony
import Pursuit.Replica.Command
import Pursuit.Replica.Entity
import Pursuit.Replica.Outbox
import Pursuit.Replica.Record
import Pursuit.Replica.Replication
import Pursuit.Routing.Registry
import Pursuit.Routing.Script
import Pursuit.Text.Blank
import Pursuit.Text.Digits
import Pursuit.Text.Graphic
import Pursuit.Text.Lines
import Pursuit.Text.Names
import Pursuit.Text.Ranges
import Pursuit.Text.Reader
import Pursuit.Wire.Frame
import Pursuit.Wire.Stream
import Pursuit.Proofs.Wiring
import Pursuit.Proofs.Telling
import Pursuit.Proofs.Mirror
import Pursuit.Proofs.LastWriter
import Pursuit.Proofs.Allocation
import Pursuit.Proofs.Loading
import Pursuit.Proofs.PlayerIds
import Pursuit.Proofs.Requests
import Pursuit.Proofs.Authority
import Pursuit.Proofs.Reports
import Pursuit.Proofs.Queues
import Pursuit.Proofs.Network
import Pursuit.Proofs.Convergence
import Pursuit.Proofs.Framing
import Pursuit.Proofs.Payloads
import Pursuit.Proofs.Colonies
import Pursuit.Proofs.Teardown
import Pursuit.Proofs.Upkeep
import Pursuit.Proofs.Connections
import Pursuit.Proofs.Outgoing
import Pursuit.Connection.Traffic
import Pursuit.Proofs.Lifecycle
import Pursuit.Proofs.Rounds
import Pursuit.Proofs.Singles
import Pursuit.Proofs.Magnitudes
import Pursuit.Proofs.Stepping
import Pursuit.Proofs.Resting
import Pursuit.Proofs.Containment
import Pursuit.Proofs.Numerals
import Pursuit.Proofs.Addresses
import Pursuit.Proofs.Dialing
import Pursuit.Proofs.Catching
import Pursuit.Proofs.Progress
import Pursuit.Proofs.Wishes
import Pursuit.Proofs.Caps
import Pursuit.Proofs.Lengths
import Pursuit.Proofs.Sines
import Pursuit.Proofs.Finiteness
import Pursuit.Proofs.Steering
import Pursuit.Proofs.Registrations
import Pursuit.Proofs.Synchronizing
import Pursuit.Proofs.Updates
import Pursuit.Proofs.Deliveries
import Pursuit.Proofs.Snapshots
import Pursuit.Proofs.Endpoints
import Pursuit.Proofs.Delays
import Pursuit.Proofs.Courses
import Pursuit.Proofs.Attempts
import Pursuit.Proofs.Roundings
import Pursuit.Proofs.Words
import Pursuit.Proofs.Literals
import Pursuit.Proofs.CommandLines
