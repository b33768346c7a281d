import OsdpTrace.Decimal.Layout
import OsdpTrace.Decimal.Shortest
import OsdpTrace.Events.Event
import OsdpTrace.Events.Feedback
import OsdpTrace.Events.Orchestrator
import OsdpTrace.Failure
import OsdpTrace.Frame
import OsdpTrace.Json.Decoder.Basic
import OsdpTrace.Json.Decoder.Number
import OsdpTrace.Json.Decoder.Text
import OsdpTrace.Json.Decoder.Tree
import OsdpTrace.Json.Decoder.Typed
import OsdpTrace.Json.Decoder.Value
import OsdpTrace.Json.Error
import OsdpTrace.Json.Value
import OsdpTrace.Proofs.Buffer
import OsdpTrace.Proofs.Capture
import OsdpTrace.Proofs.Events
import OsdpTrace.Proofs.Eviction
import OsdpTrace.Proofs.Export
import OsdpTrace.Proofs.FeedbackJson
import OsdpTrace.Proofs.FloatOrder
import OsdpTrace.Proofs.GlobalLimit
import OsdpTrace.Proofs.Interval
import OsdpTrace.Proofs.Invariant
import OsdpTrace.Proofs.JsonReading
import OsdpTrace.Proofs.JsonRecords
import OsdpTrace.Proofs.JsonResults
import OsdpTrace.Proofs.Lifecycle
import OsdpTrace.Proofs.OrderIndependence
import OsdpTrace.Proofs.PartialWrites
import OsdpTrace.Proofs.Readers
import OsdpTrace.Proofs.ReplyMatching
import OsdpTrace.Proofs.ResponseTimes
import OsdpTrace.Proofs.SettingsJson
import OsdpTrace.Proofs.Sweep
import OsdpTrace.Proofs.UpdateSettings
import OsdpTrace.Proofs.Views
import OsdpTrace.ReaderId
import OsdpTrace.Settings.Basic
import OsdpTrace.Settings.Json
import OsdpTrace.Sink
import OsdpTrace.Text.Hex
import OsdpTrace.Text.Unicode
import OsdpTrace.Time.Civil
import OsdpTrace.Time.Instant
import OsdpTrace.Time.Rfc3339
import OsdpTrace.Time.Span
import OsdpTrace.Time.Text
import OsdpTrace.Trace.Buffer
import OsdpTrace.Trace.Command
import OsdpTrace.Trace.Entry
import OsdpTrace.Trace.Limits
import OsdpTrace.Trace.Report
import OsdpTrace.Trace.Service
import OsdpTrace.Trace.Session
import OsdpTrace.Trace.Stats
