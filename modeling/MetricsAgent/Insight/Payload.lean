import MetricsAgent.Json.Record

/-!
# Data of metric insights

What the insights of histograms, meters and timers carry: counts, statistics of the values and rates.
-/

namespace MetricsAgent

open Json

/-- Statistics of the values of a histogram or timer. -/
structure SamplingStats where
  min : Int64
  max : Int64
  mean : Float
  median : Float
  p75 : Float
  p95 : Float
  p98 : Float
  p99 : Float
  p999 : Float
  stdDev : Float

/-- Rates of the events of a meter or timer. -/
structure RateStats where
  oneMinute : Float
  fiveMinutes : Float
  fifteenMinutes : Float
  mean : Float

/-- The data of the insight of a metric. -/
inductive Payload where
  | histogram (count : UInt64) (stats : SamplingStats)
  | meter (count : UInt64) (rates : RateStats) (rateUnit : String)
  | timer (count : UInt64) (stats : SamplingStats) (rates : RateStats) (rateUnit durationUnit : String)

/-! ## Writing -/

def SamplingStats.value (s : SamplingStats) : Value :=
  .ofMembers [("min", .ofInt s.min.toInt), ("max", .ofInt s.max.toInt), ("mean", .ofFloat s.mean),
    ("median", .ofFloat s.median), ("p75", .ofFloat s.p75), ("p95", .ofFloat s.p95),
    ("p98", .ofFloat s.p98), ("p99", .ofFloat s.p99), ("p999", .ofFloat s.p999),
    ("std_dev", .ofFloat s.stdDev)]

def RateStats.value (r : RateStats) : Value :=
  .ofMembers [("m1Rate", .ofFloat r.oneMinute), ("m5Rate", .ofFloat r.fiveMinutes),
    ("m15Rate", .ofFloat r.fifteenMinutes), ("meanRate", .ofFloat r.mean)]

def Payload.value : Payload → Value
  | .histogram count stats =>
    .ofMembers [("count", .ofInt count.toNat), ("samplingStats", stats.value)]
  | .meter count rates rateUnit =>
    .ofMembers [("count", .ofInt count.toNat), ("rateStats", rates.value),
      ("rateUnit", .string rateUnit)]
  | .timer count stats rates rateUnit durationUnit =>
    .ofMembers [("count", .ofInt count.toNat), ("samplingStats", stats.value),
      ("rateStats", rates.value), ("rateUnit", .string rateUnit),
      ("durationUnit", .string durationUnit)]

/-! ## Reading -/

def SamplingStats.ofDocument? (d : Document) : Option SamplingStats := do
  let [some min, some max, some mean, some median, some p75, some p95, some p98, some p99, some p999,
    some stdDev] ← d.fields? ["min", "max", "mean", "median", "p75", "p95", "p98", "p99", "p999",
      "std_dev"] | none
  return ⟨← min.int64?, ← max.int64?, ← mean.float?, ← median.float?, ← p75.float?, ← p95.float?,
    ← p98.float?, ← p99.float?, ← p999.float?, ← stdDev.float?⟩

def RateStats.ofDocument? (d : Document) : Option RateStats := do
  let [some m1, some m5, some m15, some mean] ←
    d.fields? ["m1Rate", "m5Rate", "m15Rate", "meanRate"] | none
  return ⟨← m1.float?, ← m5.float?, ← m15.float?, ← mean.float?⟩

/-- Reads the data of a histogram's insight. -/
def Payload.histogram? (d : Document) : Option Payload := do
  let [some count, some stats] ← d.fields? ["count", "samplingStats"] | none
  return .histogram (← count.uint64?) (← SamplingStats.ofDocument? stats)

/-- Reads the data of a meter's insight. -/
def Payload.meter? (d : Document) : Option Payload := do
  let [some count, some rates, some unit] ← d.fields? ["count", "rateStats", "rateUnit"] | none
  return .meter (← count.uint64?) (← RateStats.ofDocument? rates) (← unit.text?)

/-- Reads the data of a timer's insight. -/
def Payload.timer? (d : Document) : Option Payload := do
  let [some count, some stats, some rates, some rateUnit, some durationUnit] ←
    d.fields? ["count", "samplingStats", "rateStats", "rateUnit", "durationUnit"] | none
  return .timer (← count.uint64?) (← SamplingStats.ofDocument? stats)
    (← RateStats.ofDocument? rates) (← rateUnit.text?) (← durationUnit.text?)

end MetricsAgent
