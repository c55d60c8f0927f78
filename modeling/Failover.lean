import Failover.Admin
import Failover.Backoff
import Failover.Breaker
import Failover.Call
import Failover.Command.Arguments
import Failover.Command.Invocation
import Failover.Config.Decode
import Failover.Config.Document
import Failover.Config.Encode
import Failover.Config.Load
import Failover.Config.Schema
import Failover.Config.Validation
import Failover.Console
import Failover.Cycle
import Failover.Decimal.Notation
import Failover.Decimal.Shortest
import Failover.Endpoint
import Failover.Error
import Failover.Fault
import Failover.Foreground
import Failover.Health.Eligibility
import Failover.Health.Record
import Failover.Health.Report
import Failover.Health.Status
import Failover.Http.Client
import Failover.Http.Message
import Failover.Http.Node
import Failover.Http.Status
import Failover.Http.Transcript
import Failover.Http.Wire
import Failover.Journal.Event
import Failover.Journal.Exposition
import Failover.Journal.Filter
import Failover.Journal.Line
import Failover.Journal.Measurement
import Failover.Journal.Note
import Failover.Journal.Style
import Failover.Json.Outline
import Failover.Json.Printer
import Failover.Json.Reading
import Failover.Json.Token
import Failover.Json.Value
import Failover.Main
import Failover.Manager
import Failover.Net.Listening
import Failover.Net.SocketAddress
import Failover.Prober
import Failover.Proofs.Manager.Recovery
import Failover.Proofs.Manager.Report
import Failover.Proofs.Tracker.Expiry
import Failover.Proofs.Tracker.History
import Failover.Proofs.Tracker.Overflow
import Failover.Proofs.Traffic.Bookkeeping
import Failover.Proofs.Traffic.CoolDown
import Failover.Proofs.Traffic.Isolation
import Failover.Proofs.Traffic.Itinerary
import Failover.Proofs.Traffic.Log
import Failover.Proofs.Traffic.Schedule
import Failover.Proofs.Traffic.Walk
import Failover.Random
import Failover.Registry
import Failover.Retry
import Failover.Rpc.Envelope
import Failover.Rpc.Failure
import Failover.Rpc.Identifier
import Failover.Rpc.OverHttp
import Failover.Rpc.Script
import Failover.Rpc.Transport
import Failover.Service.Event
import Failover.Service.Run
import Failover.Settings
import Failover.Shutdown
import Failover.Text.Base64
import Failover.Text.Blank
import Failover.Text.Charset
import Failover.Text.CodePoint
import Failover.Text.Composition
import Failover.Text.Mark
import Failover.Text.Printable
import Failover.Text.Quoted
import Failover.Time.Clock
import Failover.Time.Duration
import Failover.Time.Instant
import Failover.Time.Timestamp
import Failover.Toml.Quoted
import Failover.Toml.Reading
import Failover.Toml.Scalar
import Failover.Toml.Tree
import Failover.Tracker
import Failover.Url.Address
import Failover.Url.Basic
import Failover.Url.Domain
import Failover.Url.Domain.Direction
import Failover.Url.Domain.Joining
import Failover.Url.Domain.Mapping
import Failover.Url.Domain.Punycode
import Failover.Url.Host
import Failover.Url.Percent
import Failover.World
import Failover.Proofs.Traffic.Exclusion
import Failover.Proofs.Manager.Lifecycle
import Failover.Proofs.Journal.Metrics
import Failover.Proofs.Traffic.Account
import Failover.Proofs.Traffic.Gauge
import Failover.Proofs.Traffic.Metrics
import Failover.Proofs.Config.Acceptance
import Failover.Proofs.Config.Redaction
import Failover.Proofs.Traffic.Redaction
import Failover.Proofs.Manager.Redaction
import Failover.Proofs.Traffic.Observed
import Failover.Proofs.Traffic.Trips
import Failover.Proofs.Prober.Turns
import Failover.Proofs.Manager.ProbeCycles
import Failover.Proofs.Retry.Attempts
import Failover.Proofs.Retry.Pauses
import Failover.Proofs.Manager.ProbesOnDemand
import Failover.Proofs.Manager.CallTimes
import Failover.Proofs.Tracker.Commuting
import Failover.Proofs.Config.Problems
import Failover.Proofs.Config.Loading
import Failover.Proofs.Registry.Order
import Failover.Proofs.Breaker.History
import Failover.Proofs.Breaker.Elapsed
import Failover.Proofs.Traffic.ClockRange
import Failover.Proofs.Json.Tokens
import Failover.Proofs.Json.Outlines
import Failover.Proofs.Json.ReadBack
import Failover.Proofs.Rpc.Decoding
import Failover.Proofs.Config.Timeouts
