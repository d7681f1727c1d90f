import GcodeSender.Bench.Device
import GcodeSender.Bench.Host
import GcodeSender.Bench.Script
import GcodeSender.Command.Arguments
import GcodeSender.Command.Control
import GcodeSender.Command.Ending
import GcodeSender.Command.Failure
import GcodeSender.Command.Given
import GcodeSender.Command.Misuse
import GcodeSender.Command.Reader
import GcodeSender.Command.Run
import GcodeSender.Command.Token
import GcodeSender.Command.Usage
import GcodeSender.Command.Vocabulary
import GcodeSender.Decimal.Binary64
import GcodeSender.Decimal.Fixed
import GcodeSender.Decimal.Reader
import GcodeSender.Decimal.Shortest
import GcodeSender.Decimal.Whole
import GcodeSender.Error
import GcodeSender.Event
import GcodeSender.Files.Path
import GcodeSender.Files.Tree
import GcodeSender.Job.Basic
import GcodeSender.Job.Name
import GcodeSender.Job.Progress
import GcodeSender.Job.RunState
import GcodeSender.Job.Scripted
import GcodeSender.Job.Snapshot
import GcodeSender.Json.Numbers
import GcodeSender.Json.Reader
import GcodeSender.Json.Strings
import GcodeSender.Json.Value
import GcodeSender.Json.Writer
import GcodeSender.Link.Basic
import GcodeSender.Link.ConnectionState
import GcodeSender.Link.Fault
import GcodeSender.Link.Slot
import GcodeSender.Link.Timing
import GcodeSender.Link.Waiter
import GcodeSender.Log.Filter
import GcodeSender.Log.Line
import GcodeSender.Log.Record
import GcodeSender.Machine.Jog
import GcodeSender.Machine.Position
import GcodeSender.Machine.Realtime
import GcodeSender.Machine.Response
import GcodeSender.Machine.Status
import GcodeSender.Machine.StatusReport
import GcodeSender.Main
import GcodeSender.Note
import GcodeSender.Port
import GcodeSender.Program
import GcodeSender.Program.Load
import GcodeSender.Proofs.Bench.Queue
import GcodeSender.Proofs.Command.Reached
import GcodeSender.Proofs.Crew.Basic
import GcodeSender.Proofs.Crew.Handles
import GcodeSender.Proofs.Crew.Orphans
import GcodeSender.Proofs.Crew.Ownership
import GcodeSender.Proofs.Crew.Sessions
import GcodeSender.Proofs.Decimal.Digits
import GcodeSender.Proofs.Files.Extension
import GcodeSender.Proofs.Files.Writing
import GcodeSender.Proofs.Job.CutOff
import GcodeSender.Proofs.Job.Discipline
import GcodeSender.Proofs.Job.FlowControl
import GcodeSender.Proofs.Job.Life
import GcodeSender.Proofs.Job.Outcome
import GcodeSender.Proofs.Job.Parked
import GcodeSender.Proofs.Job.Record
import GcodeSender.Proofs.Job.Reference
import GcodeSender.Proofs.Job.Refusal
import GcodeSender.Proofs.Job.Rejection
import GcodeSender.Proofs.Job.Stop
import GcodeSender.Proofs.Job.Written
import GcodeSender.Proofs.Json.RoundTrip
import GcodeSender.Proofs.Link.Attribution
import GcodeSender.Proofs.Link.Cache
import GcodeSender.Proofs.Link.Counters
import GcodeSender.Proofs.Link.EndOfStream
import GcodeSender.Proofs.Link.Failure
import GcodeSender.Proofs.Link.Footing
import GcodeSender.Proofs.Link.Lifecycle
import GcodeSender.Proofs.Link.Managed
import GcodeSender.Proofs.Link.Numbering
import GcodeSender.Proofs.Link.Ownership
import GcodeSender.Proofs.Link.Pushed
import GcodeSender.Proofs.Link.Reading
import GcodeSender.Proofs.Link.Reset
import GcodeSender.Proofs.Link.Sending
import GcodeSender.Proofs.Link.Slot
import GcodeSender.Proofs.Link.Standing
import GcodeSender.Proofs.Link.Waiting
import GcodeSender.Proofs.Machine.Acceptance
import GcodeSender.Proofs.Machine.Classification
import GcodeSender.Proofs.Machine.Fields
import GcodeSender.Proofs.Machine.Position
import GcodeSender.Proofs.Machine.Pushed
import GcodeSender.Proofs.Machine.Response
import GcodeSender.Proofs.Machine.StatusReport
import GcodeSender.Proofs.Program.Loading
import GcodeSender.Proofs.Program.Reloading
import GcodeSender.Proofs.Session.Acts
import GcodeSender.Proofs.Session.Afresh
import GcodeSender.Proofs.Session.Goes
import GcodeSender.Proofs.Session.History
import GcodeSender.Proofs.Session.Inbox
import GcodeSender.Proofs.Session.Order
import GcodeSender.Proofs.Session.Past
import GcodeSender.Proofs.Session.Positions
import GcodeSender.Proofs.Session.Reports
import GcodeSender.Proofs.Session.Rest
import GcodeSender.Proofs.Session.Told
import GcodeSender.Proofs.Session.Turns
import GcodeSender.Proofs.Settings.Content
import GcodeSender.Proofs.Settings.Laws
import GcodeSender.Proofs.Settings.Partial
import GcodeSender.Proofs.Settings.Refusal
import GcodeSender.Proofs.Settings.RoundTrip
import GcodeSender.Proofs.Settings.Standard
import GcodeSender.Proofs.Text.Blank
import GcodeSender.Proofs.Text.Hex
import GcodeSender.Proofs.Text.Lines
import GcodeSender.Proofs.Text.Utf8
import GcodeSender.Proofs.Toml.Layout
import GcodeSender.Proofs.Toml.Locality
import GcodeSender.Proofs.Toml.Quoting
import GcodeSender.Proofs.Toml.Scalars
import GcodeSender.Session.Basic
import GcodeSender.Session.Connecting
import GcodeSender.Session.Controlling
import GcodeSender.Session.Reading
import GcodeSender.Session.Settling
import GcodeSender.Session.Step
import GcodeSender.Session.Writing
import GcodeSender.Settings.Config
import GcodeSender.Settings.Document
import GcodeSender.Settings.File
import GcodeSender.Settings.Json
import GcodeSender.Settings.Library
import GcodeSender.Settings.Toml
import GcodeSender.Text.Alphanumeric
import GcodeSender.Text.Blank
import GcodeSender.Text.Case
import GcodeSender.Text.Hex
import GcodeSender.Text.Lines
import GcodeSender.Text.Pattern
import GcodeSender.Text.Quoted
import GcodeSender.Text.Ranges
import GcodeSender.Text.Shapeless
import GcodeSender.Text.Similarity
import GcodeSender.Text.Split
import GcodeSender.Text.Terminal
import GcodeSender.Text.Unassigned
import GcodeSender.Text.Utf8
import GcodeSender.Toml.Numbers
import GcodeSender.Toml.Reader
import GcodeSender.Toml.Strings
import GcodeSender.Toml.Value
