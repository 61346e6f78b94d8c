import Stackwatch.Input
import Stackwatch.Wire.Fault
import Stackwatch.Wire.Varint
import Stackwatch.Wire.Field
import Stackwatch.Snapshot.Encoded
import Stackwatch.Snapshot.Basic
import Stackwatch.Snapshot.Decode
import Stackwatch.Json.Writer
import Stackwatch.Json.Reader
import Stackwatch.Engine.Shared
import Stackwatch.Sampler.Any
import Stackwatch.Flag
import Stackwatch.Text.Quoted
import Stackwatch.Timer.Basic
import Stackwatch.Notice
import Stackwatch.Timer.Run
import Stackwatch.Delivery.Outbox
import Stackwatch.Calendar
import Stackwatch.Delivery.Folder
import Stackwatch.Clock
import Stackwatch.Delivery.Reporter
import Stackwatch.Delivery.Recorder
import Stackwatch.Proofs.Delivery.Backlog
import Stackwatch.Proofs.Snapshot.RoundTrip
import Stackwatch.Proofs.Snapshot.Concatenation
import Stackwatch.Proofs.Sampler.Baselines
import Stackwatch.Burst.Timing
import Stackwatch.Burst.Window
import Stackwatch.Burst.Scheduler
import Stackwatch.Watch.Basic
import Stackwatch.Proofs.Watch.Spans
import Stackwatch.Proofs.Watch.Reports
import Stackwatch.Proofs.Watch.Coverage
import Stackwatch.Proofs.Watch.Timetable
import Stackwatch.Proofs.CallTree.Aggregation
import Stackwatch.Watch.Profiler
import Stackwatch.Watch.Settings
import Stackwatch.Text.Marks
import Stackwatch.Text.Joining
import Stackwatch.Text.Direction
import Stackwatch.Text.Composition.Table
import Stackwatch.Text.Composition.Basic
import Stackwatch.Url.Punycode
import Stackwatch.Url.Domain.Table
import Stackwatch.Url.Domain.Basic
import Stackwatch.Url.Basic
import Stackwatch.Http.Framing
import Stackwatch.Http.Response
import Stackwatch.Http.Status
import Stackwatch.Text.Base64
import Stackwatch.Delivery.Collector
import Stackwatch.Inspect
import Stackwatch.Text.Blank
import Stackwatch.Command.Interval
import Stackwatch.Command.Pattern
import Stackwatch.Command.Resemblance
import Stackwatch.Text.Letters
import Stackwatch.Command.Terminal
import Stackwatch.Command.FolderTree
import Stackwatch.Command.Session
import Stackwatch.Proofs.Timer.Jobs
import Stackwatch.Main
import Stackwatch.Proofs.Sampler.Repetition
import Stackwatch.Proofs.Delivery.Acceptance
import Stackwatch.Proofs.Delivery.Backoff
import Stackwatch.Proofs.Deflate.Bits
import Stackwatch.Proofs.Deflate.Codewords
import Stackwatch.Proofs.Deflate.Codes
import Stackwatch.Proofs.Deflate.Inflation
import Stackwatch.Proofs.Gzip.Remainder
import Stackwatch.Proofs.Gzip.Envelope
import Stackwatch.Proofs.Snapshot.References
import Stackwatch.Proofs.CallTree.Identity
import Stackwatch.Proofs.Burst.Budget
import Stackwatch.Proofs.Watch.Budget
import Stackwatch.Proofs.Sampler.Lifecycle
import Stackwatch.Proofs.Timer.Stopping
import Stackwatch.Proofs.Watch.CleanWindow
import Stackwatch.Proofs.Watch.Profiler
import Stackwatch.Proofs.CallTree.Document
import Stackwatch.Proofs.Engine.Captures
import Stackwatch.Proofs.Delivery.Folder
import Stackwatch.Proofs.Watch.Choices
import Stackwatch.Proofs.Watch.Enabling
import Stackwatch.Proofs.Snapshot.StackKeys
import Stackwatch.Proofs.CallTree.Search
import Stackwatch.Proofs.CallTree.Growth
