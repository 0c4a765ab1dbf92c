import ServiceWatch.CommandLine.Arguments
import ServiceWatch.CommandLine.CorrelatorProgram
import ServiceWatch.CommandLine.Ending
import ServiceWatch.CommandLine.Environment
import ServiceWatch.CommandLine.EnvironmentFile
import ServiceWatch.CommandLine.PollerProgram
import ServiceWatch.Configuration
import ServiceWatch.Correlation.Afflictions
import ServiceWatch.Correlation.Correlator
import ServiceWatch.Correlation.Engine
import ServiceWatch.Correlation.Event
import ServiceWatch.Correlation.Execution
import ServiceWatch.Correlation.FlapTracker
import ServiceWatch.Correlation.Schedule
import ServiceWatch.Correlation.Settings
import ServiceWatch.Correlation.Signal
import ServiceWatch.Correlation.WorkingMemory
import ServiceWatch.Data.Table
import ServiceWatch.Decimal.Shortest
import ServiceWatch.Failure
import ServiceWatch.Files.Disk
import ServiceWatch.Files.FilePath
import ServiceWatch.Files.FileSystem
import ServiceWatch.Http.Backend
import ServiceWatch.Http.Check
import ServiceWatch.Http.Exchange
import ServiceWatch.Http.Message
import ServiceWatch.Http.Polling
import ServiceWatch.Http.Url
import ServiceWatch.Json.Access
import ServiceWatch.Json.Basic
import ServiceWatch.Json.Decode
import ServiceWatch.Json.Escape
import ServiceWatch.Json.Number
import ServiceWatch.Json.Reader
import ServiceWatch.Json.Writer
import ServiceWatch.Machine.Clock
import ServiceWatch.Machine.Host
import ServiceWatch.Machine.Sockets
import ServiceWatch.Machine.Storage
import ServiceWatch.Main
import ServiceWatch.Net.Address
import ServiceWatch.Pattern.Basic
import ServiceWatch.Pattern.Footprint
import ServiceWatch.Pattern.Match
import ServiceWatch.Pattern.NamedSet
import ServiceWatch.Pattern.Reader
import ServiceWatch.Poller.Call
import ServiceWatch.Poller.Coordinator
import ServiceWatch.Poller.Identity
import ServiceWatch.Poller.Interleaving
import ServiceWatch.Poller.Lifecycle
import ServiceWatch.Poller.Notification
import ServiceWatch.Poller.PollStatus
import ServiceWatch.Poller.PollerConfiguration
import ServiceWatch.Poller.Trace
import ServiceWatch.Proofs.CommandLine.Daemon
import ServiceWatch.Proofs.CommandLine.Poller
import ServiceWatch.Proofs.CommandLine.Recording
import ServiceWatch.Proofs.CommandLine.Wire
import ServiceWatch.Proofs.Correlation.Abandonment
import ServiceWatch.Proofs.Correlation.Afflictions
import ServiceWatch.Proofs.Correlation.Alternation
import ServiceWatch.Proofs.Correlation.Drainage
import ServiceWatch.Proofs.Correlation.Engine
import ServiceWatch.Proofs.Correlation.Expiry
import ServiceWatch.Proofs.Correlation.FlapBacking
import ServiceWatch.Proofs.Correlation.FlapReports
import ServiceWatch.Proofs.Correlation.FlapTracker
import ServiceWatch.Proofs.Correlation.Flapping
import ServiceWatch.Proofs.Correlation.Freshness
import ServiceWatch.Proofs.Correlation.Independence
import ServiceWatch.Proofs.Correlation.LatestTransition
import ServiceWatch.Proofs.Correlation.Outage
import ServiceWatch.Proofs.Correlation.OutageHistory
import ServiceWatch.Proofs.Correlation.Policies
import ServiceWatch.Proofs.Correlation.Redundancy
import ServiceWatch.Proofs.Correlation.Serialization
import ServiceWatch.Proofs.Correlation.Serving
import ServiceWatch.Proofs.Correlation.Simultaneity
import ServiceWatch.Proofs.Correlation.SlidingWindow
import ServiceWatch.Proofs.Correlation.Transition
import ServiceWatch.Proofs.Files.Disk
import ServiceWatch.Proofs.Http.Authority
import ServiceWatch.Proofs.Http.ScanPass
import ServiceWatch.Proofs.Http.Verdict
import ServiceWatch.Proofs.Json.Compact
import ServiceWatch.Proofs.Json.Reading
import ServiceWatch.Proofs.Json.Records
import ServiceWatch.Proofs.Json.Strings
import ServiceWatch.Proofs.Net.Address
import ServiceWatch.Proofs.Poller.Checking
import ServiceWatch.Proofs.Poller.Deliveries
import ServiceWatch.Proofs.Poller.Errands
import ServiceWatch.Proofs.Poller.Faults
import ServiceWatch.Proofs.Poller.Life
import ServiceWatch.Proofs.Poller.Lifecycle
import ServiceWatch.Proofs.Poller.Listeners
import ServiceWatch.Proofs.Poller.Naming
import ServiceWatch.Proofs.Poller.Notifications
import ServiceWatch.Proofs.Poller.Noting
import ServiceWatch.Proofs.Poller.Restart
import ServiceWatch.Proofs.Poller.Running
import ServiceWatch.Proofs.Poller.ScanPass
import ServiceWatch.Proofs.Poller.Scope
import ServiceWatch.Proofs.Poller.Serialization
import ServiceWatch.Proofs.Poller.Trace
import ServiceWatch.Proofs.Text.Digits
import ServiceWatch.Proofs.Text.Utf8
import ServiceWatch.Proofs.Time.Calendar
import ServiceWatch.Proofs.Time.ClockOffset
import ServiceWatch.Proofs.Time.Reader
import ServiceWatch.Service.Basic
import ServiceWatch.Service.Codec
import ServiceWatch.Text.Blank
import ServiceWatch.Text.Decimal
import ServiceWatch.Text.Hexadecimal
import ServiceWatch.Text.Lines
import ServiceWatch.Text.Quoted
import ServiceWatch.Text.Split
import ServiceWatch.Text.Utf8
import ServiceWatch.Text.Word
import ServiceWatch.Time.Calendar
import ServiceWatch.Time.ClockOffset
import ServiceWatch.Time.Reader
import ServiceWatch.Time.Timestamp
import ServiceWatch.Unicode.Age
import ServiceWatch.Unicode.ByteRange
import ServiceWatch.Unicode.CaseFold
import ServiceWatch.Unicode.Category
import ServiceWatch.Unicode.CodeSet
import ServiceWatch.Unicode.Division
import ServiceWatch.Unicode.Letter
import ServiceWatch.Unicode.Property
import ServiceWatch.Unicode.RunLength
import ServiceWatch.Unicode.Script
