import ProbeGateway.Backend.Call
import ProbeGateway.Backend.Exchange
import ProbeGateway.Backend.Query
import ProbeGateway.Backend.Url
import ProbeGateway.Config
import ProbeGateway.Failure.Basic
import ProbeGateway.Failure.Kind
import ProbeGateway.Health.Alert
import ProbeGateway.Health.Check
import ProbeGateway.Health.Rules
import ProbeGateway.Health.Store
import ProbeGateway.Http.Headers
import ProbeGateway.Http.Message
import ProbeGateway.Http.Status
import ProbeGateway.Http.Target
import ProbeGateway.Http.Template
import ProbeGateway.Journal
import ProbeGateway.Json.Fault
import ProbeGateway.Json.Reader
import ProbeGateway.Json.Record
import ProbeGateway.Json.Skip
import ProbeGateway.Json.Value
import ProbeGateway.Json.Writer
import ProbeGateway.Log.Event
import ProbeGateway.Log.Filter
import ProbeGateway.Main
import ProbeGateway.Metrics.Basic
import ProbeGateway.Metrics.Exposition
import ProbeGateway.Metrics.Histogram
import ProbeGateway.Metrics.Recording
import ProbeGateway.Net.Address
import ProbeGateway.Number.Binary64
import ProbeGateway.Number.Numeral
import ProbeGateway.Number.Shortest
import ProbeGateway.Pipeline.App
import ProbeGateway.Pipeline.Layers
import ProbeGateway.Service.Api
import ProbeGateway.Service.Inspection
import ProbeGateway.Service.LifeCycle
import ProbeGateway.Service.Server
import ProbeGateway.Service.Profile
import ProbeGateway.Service.Program
import ProbeGateway.Sorted
import ProbeGateway.Text.Base64
import ProbeGateway.Text.Blank
import ProbeGateway.Text.Hex
import ProbeGateway.Text.Percent
import ProbeGateway.Text.Printable
import ProbeGateway.Text.Quoted
import ProbeGateway.Text.Utf8
import ProbeGateway.Time.Calendar
import ProbeGateway.Time.Instant
import ProbeGateway.Time.Reading
import ProbeGateway.Proofs.Pipeline.Dispatch
import ProbeGateway.Proofs.Failure.Envelope
import ProbeGateway.Proofs.Http.Headers
import ProbeGateway.Proofs.Pipeline.Replacing
import ProbeGateway.Proofs.Pipeline.Envelope
import ProbeGateway.Proofs.Pipeline.Shape
import ProbeGateway.Proofs.Pipeline.Secrecy
import ProbeGateway.Proofs.Pipeline.Measuring
import ProbeGateway.Proofs.Pipeline.Writing
import ProbeGateway.Proofs.Metrics.Conservation
import ProbeGateway.Proofs.Pipeline.Conservation
import ProbeGateway.Proofs.Service.Traffic
import ProbeGateway.Proofs.Http.Template
import ProbeGateway.Proofs.Service.Routing
import ProbeGateway.Proofs.Service.Coverage
import ProbeGateway.Proofs.Time.Calendar
import ProbeGateway.Proofs.Number.Digits
import ProbeGateway.Proofs.Time.Reading
import ProbeGateway.Proofs.Health.RoundTrip
import ProbeGateway.Proofs.Health.Views
import ProbeGateway.Proofs.Http.Target
import ProbeGateway.Proofs.Text.Percent
import ProbeGateway.Proofs.Service.Lookup
import ProbeGateway.Proofs.Metrics.Interleaving
import ProbeGateway.Proofs.Pipeline.Footprint
import ProbeGateway.Proofs.Service.Question
import ProbeGateway.Proofs.Service.Footprint
import ProbeGateway.Proofs.Service.Endpoints
import ProbeGateway.Proofs.Service.Backends
import ProbeGateway.Proofs.Text.Form
import ProbeGateway.Proofs.Backend.Target
import ProbeGateway.Proofs.Backend.Base
import ProbeGateway.Proofs.Backend.Call
import ProbeGateway.Proofs.Service.Expression
import ProbeGateway.Proofs.Metrics.Ledger
import ProbeGateway.Proofs.Service.SameBackends
import ProbeGateway.Proofs.Service.Order
import ProbeGateway.Proofs.Pipeline.Preflight
import ProbeGateway.Proofs.Pipeline.TraceId
import ProbeGateway.Proofs.Pipeline.Story
import ProbeGateway.Proofs.Pipeline.Counting
import ProbeGateway.Proofs.Metrics.Labels
import ProbeGateway.Proofs.Pipeline.Labels
import ProbeGateway.Proofs.Health.Tolerance
import ProbeGateway.Proofs.Health.Fetching
import ProbeGateway.Proofs.Json.Skip
import ProbeGateway.Proofs.Json.Grammar
import ProbeGateway.Proofs.Json.Skipping
import ProbeGateway.Proofs.Json.Accepting
import ProbeGateway.Proofs.Json.Agreement
import ProbeGateway.Proofs.Backend.Answer
import ProbeGateway.Proofs.Service.Success
import ProbeGateway.Proofs.Pipeline.Logging
import ProbeGateway.Proofs.Service.Logging
import ProbeGateway.Proofs.Service.LifeCycle
import ProbeGateway.Proofs.Service.Steps
import ProbeGateway.Proofs.Service.Stopping
import ProbeGateway.Proofs.Time.Days
import ProbeGateway.Proofs.Time.Timestamp
import ProbeGateway.Proofs.Health.LastChecked
import ProbeGateway.Proofs.Config.Values
import ProbeGateway.Proofs.Config.Loading
import ProbeGateway.Proofs.Service.Sending
import ProbeGateway.Proofs.Text.Base64
import ProbeGateway.Proofs.Service.Credentials
import ProbeGateway.Proofs.Text.Order
import ProbeGateway.Proofs.Json.Alike
import ProbeGateway.Proofs.Json.Normal
import ProbeGateway.Proofs.Json.Written
import ProbeGateway.Proofs.Json.Typed
import ProbeGateway.Proofs.Json.TypedRecord
import ProbeGateway.Proofs.Backend.Written
import ProbeGateway.Proofs.Service.Results
import ProbeGateway.Proofs.Config.Seconds
import ProbeGateway.Proofs.Failure.Faithful
import ProbeGateway.Proofs.Service.Summaries
import ProbeGateway.Proofs.Service.Profile
