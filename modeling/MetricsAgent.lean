import MetricsAgent.Unicode.Case
import MetricsAgent.Unicode.Script
import MetricsAgent.Decimal.Layout
import MetricsAgent.Decimal.Reading
import MetricsAgent.Name.Canonical
import MetricsAgent.Name.Map
import MetricsAgent.Pattern.CharSet
import MetricsAgent.Pattern.Expr
import MetricsAgent.Pattern.Reader
import MetricsAgent.Rule.Verdict
import MetricsAgent.Rule.Description
import MetricsAgent.Proofs.Rule.TwoForms
import MetricsAgent.Proofs.Agent.InStep
import MetricsAgent.Proofs.Report.Marking
import MetricsAgent.Proofs.Cycle.Invocations
import MetricsAgent.Proofs.Link.InOrder
import MetricsAgent.Json.Value
import MetricsAgent.Json.Record
import MetricsAgent.Insight.Call
import MetricsAgent.Insight.Payload
import MetricsAgent.Metric.TimeUnit
import MetricsAgent.Metric.Basic
import MetricsAgent.Report.OfMetric
import MetricsAgent.Settings.Json
import MetricsAgent.Settings.Yaml
import MetricsAgent.Settings.Identity
import MetricsAgent.CommandLine.Arguments
import MetricsAgent.Catalog.Basic
import MetricsAgent.Cycle.Basic
import MetricsAgent.Link.Basic
import MetricsAgent.Link.Replies
import MetricsAgent.Agent.Basic
import MetricsAgent.Daemon.Tally
import MetricsAgent.Link.Peer
import MetricsAgent.Link.Throttle
import MetricsAgent.Daemon.Supervisor
import MetricsAgent.Machine.Bench
import MetricsAgent.Main
import MetricsAgent.Proofs.Roster.History
import MetricsAgent.Proofs.Metric.Fits
import MetricsAgent.Proofs.Line.Framing
import MetricsAgent.Proofs.Link.Backpressure
import MetricsAgent.Proofs.Cycle.Batches
import MetricsAgent.Proofs.Insight.RoundTrip
import MetricsAgent.Proofs.Daemon.Attempts
import MetricsAgent.Proofs.Daemon.Runs
import MetricsAgent.Proofs.Daemon.Signals
import MetricsAgent.Proofs.Daemon.States
import MetricsAgent.Proofs.Daemon.Launches
import MetricsAgent.Proofs.Daemon.Ticks
import MetricsAgent.Proofs.Daemon.Erasure
import MetricsAgent.Proofs.Agent.Reloading
import MetricsAgent.Proofs.Catalog.Listeners
import MetricsAgent.Proofs.Link.Arrivals
import MetricsAgent.Proofs.Telemetry.Delivery
import MetricsAgent.Proofs.Conf.ReadBack
import MetricsAgent.Proofs.Daemon.Validity
import MetricsAgent.Proofs.Telemetry.Tables
import MetricsAgent.Proofs.Report.Latencies
import MetricsAgent.Proofs.Metric.Estimates
import MetricsAgent.Proofs.Daemon.Socket
import MetricsAgent.Proofs.Metric.Limits
import MetricsAgent.Proofs.Report.BucketGauges
import MetricsAgent.Proofs.Report.Cumulative
import MetricsAgent.Proofs.Report.LatencyTags
import MetricsAgent.Proofs.Name.Stability
import MetricsAgent.Proofs.Report.Lines
import MetricsAgent.Proofs.Insight.Calls
import MetricsAgent.Proofs.Endpoint.Ports
import MetricsAgent.Proofs.Daemon.UploadHosts
import MetricsAgent.Proofs.Metric.Conversions
import MetricsAgent.Proofs.Report.Counts
import MetricsAgent.Proofs.Cycle.Cadence
import MetricsAgent.Proofs.Settings.RoundTrip
import MetricsAgent.Proofs.Link.Spacing
