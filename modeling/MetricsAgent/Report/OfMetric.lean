import MetricsAgent.Name.Canonical
import MetricsAgent.Report.Basic

/-!
# The report of a metric

`Metric.report` gives the report of each kind of metric.  Values of durations are converted to the
unit of durations and rates to that of rates; plain histograms are not about time and keep their
values.
-/

namespace MetricsAgent

/-- The rates of a meter in the unit of rates. -/
def Rates.stats (c : Context) (r : Rates) : RateStats :=
  ⟨c.rate r.oneMinute, c.rate r.fiveMinutes, c.rate r.fifteenMinutes, c.rate r.mean⟩

/-- The statistics of a snapshot, unconverted.  The standard deviation of plain values is not told. -/
def Snapshot.stats (s : Snapshot) : SamplingStats :=
  ⟨s.min, s.max, s.mean, s.median, s.p75, s.p95, s.p98, s.p99, s.p999, -1⟩

/-- The statistics of durations in the unit of durations. -/
def Snapshot.durationStats (c : Context) (s : Snapshot) : SamplingStats where
  min := (c.duration s.min.toFloat).toInt64
  max := (c.duration s.max.toFloat).toInt64
  mean := c.duration s.mean
  median := c.duration s.median
  p75 := c.duration s.p75
  p95 := c.duration s.p95
  p98 := c.duration s.p98
  p99 := c.duration s.p99
  p999 := c.duration s.p999
  stdDev := c.duration s.stdDev

namespace Report

/-! ## Gauges that show buckets -/

/-- The statistics of a histogram and its ninth decile, unless it has overflowed. -/
def histogramStats (h : Histogram) :
    Except Fault (Except HistogramError (SamplingStats × Float)) := do
  let q (p : Float) : Except Fault (Except HistogramError Float) := do
    return (← h.quantile p).map (·.toFloat)
  let min ← h.min
  match h.mean with
  | .error e => return .error e
  | .ok mean =>
    match ← q 0.5, ← q 0.75, ← q 0.9, ← q 0.95, ← q 0.98, ← q 0.99, ← q 0.999 with
    | .ok median, .ok p75, .ok p90, .ok p95, .ok p98, .ok p99, .ok p999 =>
      return .ok (⟨min, h.max, mean.toFloat, median, p75, p95, p98, p99, p999, -1⟩, p90)
    | _, _, _, _, _, _, _ => return .error .overflowed

/-- A gauge that shows the buckets of a histogram is reported as one.  Nothing is reported of no
buckets at all, and of a histogram that has overflowed. -/
def ofBuckets (c : Context) (name : String) (counts : List Int64) (o : Occasion) :
    Except Fault Report := do
  if counts.isEmpty then return empty
  let h ← Histogram.ofCounts counts
  match ← histogramStats h with
  | .error _ => return empty
  | .ok (stats, p90) =>
    let count ← h.count
    return distribution c name count stats.min.toFloat stats.max.toFloat stats p90
      ++ unlessWithheld o
        (insight c name .histogram c.tags (.histogram (max count 0).toUInt64 stats))

/-! ## Histograms, meters and timers -/

def ofDistribution (c : Context) (name : String) (count : UInt64) (s : Snapshot) (o : Occasion) :
    Report :=
  distribution c name count.toInt64 s.min.toFloat s.max.toFloat s.stats s.p90
    ++ unlessWithheld o (insight c name .histogram c.tags (.histogram count s.stats))

def ofMeter (c : Context) (name : String) (count : UInt64) (r : Rates) (o : Occasion) : Report :=
  rates c name count (r.stats c)
    ++ unlessWithheld o
      (insight c name .meter c.tags (.meter count (r.stats c) c.rateUnit.text))

/-- The tags of a timer's insight: those of all insights, and the latency counts if there are any. -/
def timerTags (c : Context) (counts : Option Latency.Counts) : List (String × String) :=
  Json.sortMembers (c.tags ++ (counts.map Latency.Counts.tags).getD [])

def ofTimer (c : Context) (name : String) (count : UInt64) (r : Rates) (s : Snapshot)
    (o : Occasion) : Except Fault Report := do
  let stats := s.durationStats c
  let counts ← Latency.counts? s
  return distribution c name count.toInt64 (c.duration s.min.toFloat) (c.duration s.max.toFloat)
      stats (c.duration s.p90)
    ++ rates c name count (r.stats c)
    ++ (counts.elim empty (latencies c name count s.mean ·))
    ++ unlessWithheld o (insight c name .timer (timerTags c counts)
      (.timer count stats (r.stats c) c.rateUnit.text c.durationUnit.text))

end Report

/-- The report of a metric under a name that the wire can carry. -/
def Metric.report (c : Context) (name : String) (m : Metric) (o : Occasion) : Except Fault Report :=
  match m with
  | .counter n => return .values c name "counter" o.tags [.integer n]
  | .gauge (.integer n) => return .values c name "gauge" o.tags [.integer n]
  | .gauge (.float x) => return .values c name "gauge" o.tags [.float x]
  | .gauge (.buckets counts) => Report.ofBuckets c name counts o
  | .gauge (.other _) => return .empty
  | .histogram count values => do return .ofDistribution c name count (← values.toSnapshot) o
  | .estimated h => do return .ofDistribution c name (← h.size) (← h.snapshot) o
  | .meter count r => return .ofMeter c name count r o
  | .timer count r durations => do Report.ofTimer c name count r (← durations.toSnapshot) o

/-- A metric together with the name that it is reported under. -/
structure Reporter where
  name : String
  metric : Metric

/-- A metric is reported under the canonical form of its name. -/
def Reporter.ofMetric (name : String) (metric : Metric) : Reporter :=
  ⟨Name.canonical name, metric⟩

def Reporter.report (r : Reporter) (c : Context) (o : Occasion) : Except Fault Report :=
  r.metric.report c r.name o

end MetricsAgent
