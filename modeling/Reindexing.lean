import Reindexing.Api
import Reindexing.Api.Endpoint
import Reindexing.Api.Input
import Reindexing.Audit
import Reindexing.Cli
import Reindexing.Cli.Answer
import Reindexing.Cli.Client
import Reindexing.Cli.Command
import Reindexing.Cli.CommandLine
import Reindexing.Cli.Grammar
import Reindexing.Cli.Help
import Reindexing.Cli.Report
import Reindexing.Cli.Screen
import Reindexing.Cli.Session
import Reindexing.Cli.Settings
import Reindexing.Config
import Reindexing.Config.Layer
import Reindexing.Config.Load
import Reindexing.Config.Read
import Reindexing.Cooldown
import Reindexing.Decimal.Digits
import Reindexing.Decimal.Layout
import Reindexing.Decimal.Nearest
import Reindexing.Disk
import Reindexing.Dotenv
import Reindexing.Engine
import Reindexing.Engine.Loop
import Reindexing.Engine.State
import Reindexing.Error
import Reindexing.Error.Code
import Reindexing.Evidence
import Reindexing.History
import Reindexing.Http.Arrival
import Reindexing.Http.Chunk
import Reindexing.Http.Host
import Reindexing.Http.MediaType
import Reindexing.Http.Message
import Reindexing.Http.NameTable
import Reindexing.Http.Punycode
import Reindexing.Http.Target
import Reindexing.Http.Transfer
import Reindexing.Http.Url
import Reindexing.Ini
import Reindexing.Json.Decoder
import Reindexing.Json.Document
import Reindexing.Json.Layout
import Reindexing.Json.Numeral
import Reindexing.Json.Printer
import Reindexing.Json.Relaxed
import Reindexing.Json.Value
import Reindexing.Log
import Reindexing.Log.Directive
import Reindexing.Log.Output
import Reindexing.Main
import Reindexing.Metrics
import Reindexing.Metrics.Text
import Reindexing.Program.Host
import Reindexing.Program.Operator
import Reindexing.Program.Server
import Reindexing.Proofs.Api.Stamps
import Reindexing.Proofs.Audit.Export
import Reindexing.Proofs.Cli.Answers
import Reindexing.Proofs.Cli.Replies
import Reindexing.Proofs.Cli.Understanding
import Reindexing.Proofs.Cooldown
import Reindexing.Proofs.Cooldown.Order
import Reindexing.Proofs.Decimal.Digits
import Reindexing.Proofs.Decimal.Rounding
import Reindexing.Proofs.Engine.AuditTrail
import Reindexing.Proofs.Engine.Budget
import Reindexing.Proofs.Engine.Chronicle
import Reindexing.Proofs.Engine.Coherence
import Reindexing.Proofs.Engine.Completion
import Reindexing.Proofs.Engine.Custody
import Reindexing.Proofs.Engine.Failures
import Reindexing.Proofs.Engine.Independence
import Reindexing.Proofs.Engine.Interleaving
import Reindexing.Proofs.Engine.LatestFailure
import Reindexing.Proofs.Engine.Launching
import Reindexing.Proofs.Engine.Links
import Reindexing.Proofs.Engine.Meters
import Reindexing.Proofs.Engine.Moves
import Reindexing.Proofs.Engine.Outcomes
import Reindexing.Proofs.Engine.Passages
import Reindexing.Proofs.Engine.Patience
import Reindexing.Proofs.Engine.Refusals
import Reindexing.Proofs.Engine.Reports
import Reindexing.Proofs.Engine.Resubmission
import Reindexing.Proofs.Engine.Retrying
import Reindexing.Proofs.Engine.Runs
import Reindexing.Proofs.Engine.SchedulerPass
import Reindexing.Proofs.Engine.Sections
import Reindexing.Proofs.Engine.Setup
import Reindexing.Proofs.Engine.Sizes
import Reindexing.Proofs.Engine.Watchdog
import Reindexing.Proofs.History
import Reindexing.Proofs.Json.Codecs
import Reindexing.Proofs.Json.Doubles
import Reindexing.Proofs.Json.Hex
import Reindexing.Proofs.Json.Lookup
import Reindexing.Proofs.Json.Numerals
import Reindexing.Proofs.Json.Reading
import Reindexing.Proofs.Json.Selection
import Reindexing.Proofs.Keyed
import Reindexing.Proofs.Metrics
import Reindexing.Proofs.Queue.Bounds
import Reindexing.Proofs.Queue.Calls
import Reindexing.Proofs.Queue.Deduplication
import Reindexing.Proofs.Queue.Forecasts
import Reindexing.Proofs.Queue.Identity
import Reindexing.Proofs.Queue.Index
import Reindexing.Proofs.Queue.ModeSwitches
import Reindexing.Proofs.Queue.Operations
import Reindexing.Proofs.Queue.Replay
import Reindexing.Proofs.Queue.RetryOrder
import Reindexing.Proofs.Queue.Rollback
import Reindexing.Proofs.Queue.Settlement
import Reindexing.Proofs.Queue.Waits
import Reindexing.Proofs.Registry.Courses
import Reindexing.Proofs.Registry.Exclusion
import Reindexing.Proofs.Registry.Listing
import Reindexing.Proofs.Registry.Permanence
import Reindexing.Proofs.Registry.Timelines
import Reindexing.Proofs.Registry.Times
import Reindexing.Proofs.Registry.Transitions
import Reindexing.Proofs.Scope.Canonical
import Reindexing.Proofs.Scope.Grammar
import Reindexing.Proofs.Scope.Parsing
import Reindexing.Proofs.Scope.Searches
import Reindexing.Proofs.Task.Records
import Reindexing.Proofs.Task.Transitions
import Reindexing.Proofs.Text.Utf8
import Reindexing.Proofs.Time.Calendar
import Reindexing.Proofs.Time.Rfc3339
import Reindexing.Proofs.Trace
import Reindexing.Proofs.Wire.Basic
import Reindexing.Proofs.Wire.Records
import Reindexing.Proofs.Wire.Values
import Reindexing.Queue
import Reindexing.Queue.Entry
import Reindexing.Queue.Mutation
import Reindexing.Refusal
import Reindexing.Registry
import Reindexing.Ron
import Reindexing.Runner
import Reindexing.Scope
import Reindexing.Service
import Reindexing.Task
import Reindexing.Task.Status
import Reindexing.Text.Alphanumeric
import Reindexing.Text.Blank
import Reindexing.Text.Categories
import Reindexing.Text.Charset
import Reindexing.Text.Charset.Chinese
import Reindexing.Text.Charset.Code
import Reindexing.Text.Charset.Japanese
import Reindexing.Text.Charset.Korean
import Reindexing.Text.Charset.SingleByte
import Reindexing.Text.Columns
import Reindexing.Text.Letters
import Reindexing.Text.Lowercase
import Reindexing.Text.Pattern
import Reindexing.Text.Pattern.Reading
import Reindexing.Text.Quoted
import Reindexing.Text.Search
import Reindexing.Text.Table
import Reindexing.Text.Utf8
import Reindexing.Text.Width
import Reindexing.Time.Calendar
import Reindexing.Time.Instant
import Reindexing.Time.Rfc3339
import Reindexing.Time.Span
import Reindexing.Toml.Document
import Reindexing.Toml.Printer
import Reindexing.Toml.Scalar
import Reindexing.Toml.Text
import Reindexing.Toml.Value
import Reindexing.Trace
import Reindexing.Uuid
import Reindexing.Wire.Basic
import Reindexing.Wire.Error
import Reindexing.Wire.Facts
import Reindexing.Wire.Queue
import Reindexing.Wire.Task
import Reindexing.Word
import Reindexing.Yaml.Cursor
import Reindexing.Yaml.Layout
import Reindexing.Yaml.Node
import Reindexing.Yaml.Printer
import Reindexing.Yaml.Scalar
import Reindexing.Yaml.Text
import Reindexing.Yaml.Token
