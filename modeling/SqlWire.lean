import SqlWire.Auth.Digest
import SqlWire.Auth.Plugin
import SqlWire.Auth.Scramble
import SqlWire.Auth.Sha1
import SqlWire.Auth.Sha256
import SqlWire.Bytes
import SqlWire.Calendar.Basic
import SqlWire.Calendar.Reading
import SqlWire.Client.Config
import SqlWire.Client.ConnectionString
import SqlWire.Client.Error
import SqlWire.Clock.Duration
import SqlWire.Framing.Assembler
import SqlWire.Framing.Channel
import SqlWire.Framing.Error
import SqlWire.Framing.Sequencer
import SqlWire.Message.Column
import SqlWire.Message.Command
import SqlWire.Message.Greeting
import SqlWire.Message.Login
import SqlWire.Message.Reply
import SqlWire.Message.Row
import SqlWire.Message.ServerVersion
import SqlWire.Number.Binary
import SqlWire.Number.Decimal
import SqlWire.Number.IntegerType
import SqlWire.Number.Power
import SqlWire.Number.Shortest
import SqlWire.Pool.Basic
import SqlWire.Pool.Blocking
import SqlWire.Pool.Config
import SqlWire.Pool.Connection
import SqlWire.Pool.Error
import SqlWire.Pool.Health
import SqlWire.Pool.Registry
import SqlWire.Pool.Run
import SqlWire.Proofs.Session.Owed
import SqlWire.Proofs.Session.Settling
import SqlWire.Result.Reading
import SqlWire.Result.Row
import SqlWire.Routine.Discovery
import SqlWire.Routine.Name
import SqlWire.Routine.Procedure
import SqlWire.Session.Basic
import SqlWire.Session.Cancel
import SqlWire.Session.Challenge
import SqlWire.Session.Connect
import SqlWire.Session.Network
import SqlWire.Session.Opening
import SqlWire.Session.Run
import SqlWire.Session.State
import SqlWire.Session.Unreachable
import SqlWire.Standin.Fixture
import SqlWire.Standin.Response
import SqlWire.Standin.Server
import SqlWire.Standin.World
import SqlWire.Statement.Binding
import SqlWire.Statement.Parameter
import SqlWire.Statement.Placeholder
import SqlWire.Statement.Token
import SqlWire.Text.Ascii
import SqlWire.Text.Blank
import SqlWire.Text.Digits
import SqlWire.Text.Hex
import SqlWire.Text.Identifier
import SqlWire.Text.Lower
import SqlWire.Text.Quoted
import SqlWire.Text.Split
import SqlWire.Text.Utf8
import SqlWire.Text.Visible
import SqlWire.Value.Basic
import SqlWire.Value.Cell
import SqlWire.Value.Convert
import SqlWire.Value.Literal
import SqlWire.Value.OfValue
import SqlWire.Value.SqlType
import SqlWire.Value.ToValue
import SqlWire.Value.Uuid
import SqlWire.Wire.Error
import SqlWire.Wire.Flags
import SqlWire.Wire.Packet
import SqlWire.Wire.Reader
import SqlWire.Wire.Writer
import SqlWire.Proofs.Session.Calls
import SqlWire.Proofs.Framing.Dialogue
import SqlWire.Proofs.Statement.PlainBackslash
import SqlWire.Proofs.Framing.Segments
import SqlWire.Proofs.Pool.Permits
import SqlWire.Proofs.Pool.Reuse
import SqlWire.Proofs.Pool.Generations
import SqlWire.Proofs.Pool.Isolation
import SqlWire.Proofs.Session.Results
import SqlWire.Proofs.Session.Secrecy
import SqlWire.Proofs.Session.Admission
import SqlWire.Proofs.Client.KeyReading
import SqlWire.Proofs.Session.Safety
import SqlWire.Proofs.Session.Marks
import SqlWire.Proofs.Session.Aim
import SqlWire.Proofs.Wire.Layout
import SqlWire.Proofs.Session.Databases
import SqlWire.Proofs.Message.ServerPayload
import SqlWire.Proofs.Pool.Procedures
import SqlWire.Proofs.Statement.Splicing
import SqlWire.Proofs.Statement.Grammar
import SqlWire.Proofs.Statement.StringLiteral
import SqlWire.Proofs.Calendar.Reading
import SqlWire.Proofs.Value.Uuid
import SqlWire.Proofs.Value.Integer
import SqlWire.Proofs.Value.Literal
import SqlWire.Proofs.Result.TextRow
import SqlWire.Proofs.Wire.Consumption
import SqlWire.Framing.Transport
import SqlWire.Proofs.Framing.Assembly
import SqlWire.Proofs.Framing.Metering
import SqlWire.Proofs.Framing.Scripted
import SqlWire.Proofs.Pool.Reaping
import SqlWire.Proofs.Pool.Returning
import SqlWire.Proofs.Pool.Leaks
import SqlWire.Proofs.Session.Affected
import SqlWire.Proofs.Routine.Aligning
import SqlWire.Proofs.Auth.Recovery
import SqlWire.Proofs.Routine.Serving
import SqlWire.Proofs.Text.Padding
import SqlWire.Proofs.Client.Fields
import SqlWire.Proofs.Client.PairOrder
import SqlWire.Proofs.Message.WholeReply
import SqlWire.Proofs.Standin.Sending
import SqlWire.Proofs.Message.ServerVersion
import SqlWire.Proofs.Wire.Positions
import SqlWire.Proofs.Statement.Lookup
