import MetricsAgent.Insight.Payload
import MetricsAgent.Line.Command
import MetricsAgent.Metric.TimeUnit
import MetricsAgent.Report.Latency
import MetricsAgent.Report.Occasion
import MetricsAgent.Settings.Identity

/-!
# Reports

A report is what one metric has to say on one occasion: value lists for the daemon and, unless it is
withheld, one insight, after which the connection is flushed.  Counters and gauges have a plain value
list that is itself an insight; all others mark their value lists as withheld and add the insight
of their own.
-/

namespace MetricsAgent

/-- What a report depends on beside the metric. -/
structure Context where
  /-- The address that the daemon files the values under. -/
  host : String
  /-- Seconds between two samples. -/
  interval : UInt64
  rateUnit : TimeUnit
  durationUnit : TimeUnit
  /-- Tags of all insights, sorted by key. -/
  tags : List (String × String)
  /-- Milliseconds since the epoch. -/
  now : Int

namespace Context

/-- The context of a node. -/
def ofIdentity (identity : Identity) (interval : UInt64) (rateUnit durationUnit : TimeUnit)
    (now : Int) : Context where
  host := identity.host
  interval := interval
  rateUnit := rateUnit
  durationUnit := durationUnit
  tags := Json.sortMembers [("host", identity.host), ("cluster", identity.cluster),
    ("datacenter", identity.datacenter), ("rack", identity.rack)]
  now := now

/-- A rate in the unit of rates. -/
def rate (c : Context) (perSecond : Float) : Float :=
  perSecond * (c.rateUnit.toSeconds 1).toFloat

/-- A duration in the unit of durations. -/
def duration (c : Context) (nanos : Float) : Float :=
  nanos / (c.durationUnit.toNanos 1).toFloat

end Context

/-- A part of a report. -/
inductive ReportItem where
  | values (v : ValueList)
  | insight (i : Insight)
  | flush

def ReportItem.output : ReportItem → Output
  | .values v => .command v.command
  | .insight i => .command (.putInsight i.write)
  | .flush => .flush

/-- The parts of a report in order, and the number of commands among them. -/
structure Report where
  items : List ReportItem
  sent : Nat

namespace Report

def empty : Report := ⟨[], 0⟩

def append (r s : Report) : Report := ⟨r.items ++ s.items, r.sent + s.sent⟩

instance : Append Report := ⟨append⟩

def outputs (r : Report) : List Output := r.items.map ReportItem.output

/-- A value list. -/
def values (c : Context) (name kind tags : String) (fields : List Field) : Report :=
  ⟨[.values ⟨c.host, name, kind, c.interval, tags, fields⟩], 1⟩

/-- An insight, after which all is written. -/
def insight (c : Context) (name : String) (kind : InsightKind) (tags : List (String × String))
    (payload : Payload) : Report :=
  ⟨[.insight (.ofMetric c.now name kind tags payload.value), .flush], 1⟩

/-- The report, unless the occasion withholds it. -/
def unlessWithheld (o : Occasion) (r : Report) : Report :=
  if o.isWithheld then empty else r

/-! ## Value lists of distributions -/

/-- The value list of a distribution. -/
def distribution (c : Context) (name : String) (count : Int64) (min max : Float)
    (stats : SamplingStats) (p90 : Float) : Report :=
  values c name "histogram" withheldTag
    [.integer count, .float max, .float stats.mean, .float min, .float stats.stdDev,
      .float stats.median, .float stats.p75, .float p90, .float stats.p95, .float stats.p98,
      .float stats.p99, .float stats.p999]

/-- The value list of rates. -/
def rates (c : Context) (name : String) (count : UInt64) (r : RateStats) : Report :=
  values c name "meter" withheldTag
    [.integer count.toInt64, .float r.mean, .float r.oneMinute, .float r.fiveMinutes,
      .float r.fifteenMinutes]

/-- The value list of cumulative latencies.  The sum of the values is told from their mean. -/
def latencies (c : Context) (name : String) (count : UInt64) (mean : Float)
    (counts : Latency.Counts) : Report :=
  values c name "micros" withheldTag
    (.integer count.toInt64 :: .float (mean * count.toFloat)
      :: (counts.perEdge ++ [counts.total]).map .integer)

end Report

end MetricsAgent
