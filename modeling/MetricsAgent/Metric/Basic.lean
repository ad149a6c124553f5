import MetricsAgent.Metric.Histogram

/-!
# Metrics

What a metric shows at one moment.  Distributions of values are shown by a snapshot, which holds the
quantiles that are reported and the counts by bucket.
-/

namespace MetricsAgent

/-- Which bounds the bucket counts of a snapshot belong to. -/
inductive BucketLayout where
  | bounds (bounds : List Int64)
  /-- Those of a reservoir that forgets old values. -/
  | decaying
  /-- Not known; taken to be those of the database's own histograms. -/
  | unknown
  deriving DecidableEq, Repr

/-- A distribution of values at one moment. -/
structure Snapshot where
  median : Float
  p75 : Float
  p90 : Float
  p95 : Float
  p98 : Float
  p99 : Float
  p999 : Float
  min : Int64
  max : Int64
  mean : Float
  stdDev : Float
  /-- Counts by bucket. -/
  values : List Int64
  layout : BucketLayout

/-- What stands for an estimate that an overflowed histogram cannot tell. -/
def estimateOrLargest (e : Except HistogramError Int64) : Float :=
  match e with
  | .ok n => n.toFloat
  | .error _ => Int64.maxValue.toFloat

/-- The snapshot of a histogram.  It knows no standard deviation. -/
def Histogram.snapshot (h : Histogram) : Except Fault Snapshot := do
  let q (p : Float) : Except Fault Float := do return estimateOrLargest (← h.quantile p)
  return {
    median := ← q 0.5, p75 := ← q 0.75, p90 := ← q 0.9, p95 := ← q 0.95, p98 := ← q 0.98,
    p99 := ← q 0.99, p999 := ← q 0.999, min := ← h.min, max := h.max,
    mean := estimateOrLargest h.mean, stdDev := -1,
    values := h.counts.take h.bounds.length, layout := .bounds h.bounds }

/-- A distribution: a histogram, of which a snapshot can be taken, or a snapshot. -/
inductive Distribution where
  | histogram (h : Histogram)
  | snapshot (s : Snapshot)

def Distribution.toSnapshot : Distribution → Except Fault Snapshot
  | .histogram h => h.snapshot
  | .snapshot s => .ok s

/-- What a gauge shows. -/
inductive Reading where
  | integer (n : Int64)
  | float (x : Float)
  /-- The counts of a histogram's buckets, the last one for the values above all bounds. -/
  | buckets (counts : List Int64)
  /-- Something that is not a number. -/
  | other (text : String)

/-- Events per second. -/
structure Rates where
  mean : Float
  oneMinute : Float
  fiveMinutes : Float
  fifteenMinutes : Float

/-- What a metric shows. -/
inductive Metric where
  | counter (count : Int64)
  | gauge (reading : Reading)
  | histogram (count : UInt64) (values : Distribution)
  /-- A histogram that counts for itself. -/
  | estimated (h : Histogram)
  | meter (count : UInt64) (rates : Rates)
  /-- A meter of events with their durations in nanoseconds. -/
  | timer (count : UInt64) (rates : Rates) (durations : Distribution)

/-- The kind of a metric, by name. -/
def Metric.kind : Metric → String
  | .counter _ => "counter"
  | .gauge _ => "gauge"
  | .histogram _ _ | .estimated _ => "histogram"
  | .meter _ _ => "meter"
  | .timer _ _ _ => "timer"

end MetricsAgent
