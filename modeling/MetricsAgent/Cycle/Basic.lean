import MetricsAgent.Cycle.Batch
import MetricsAgent.Cycle.Roster
import MetricsAgent.Settings.Basic

/-!
# Sampling cycles

A cycle reports the retired metrics for the last time, then those on the unrestricted and then those
on the restricted channel.  Only in every so many cycles the unrestricted metrics also go to the
insights.
-/

namespace MetricsAgent

/-- How many commands are written between two flushes of a cycle. -/
def batchSize : Nat := 256

/-- In every how many cycles there are insights, given the time between samples in milliseconds and
the time that may pass between insights in seconds.  Parts of a second do not count. -/
def insightEvery (samplingMillis gap : Nat) : Nat :=
  max (gap / max (samplingMillis / 1000) 1) 1

/-- In every how many cycles there are insights. -/
def Settings.insightEvery (s : Settings) : Nat :=
  MetricsAgent.insightEvery (s.samplingInterval.toNat * 1000) s.updateGap.toNat

/-- The occasion of the unrestricted metrics in a cycle. -/
def Occasion.ofTick (tick every : Nat) : Occasion :=
  if tick % max every 1 = 0 then .sample else .withheldSample

namespace Roster

variable {ε : Type}

/-- The reports of a cycle in order. -/
def due (r : Roster ε) (tick every : Nat) : List (ε × Occasion) :=
  r.retired ++ r.unrestricted.values.map (·, .ofTick tick every)
    ++ r.restricted.values.map (·, .withheldSample)

/-- One cycle: all that is written, and the roster without the retired metrics. -/
def cycle (report : ε → Occasion → Except Fault Report) (size tick every : Nat) (r : Roster ε) :
    Except Fault (List Output × Roster ε) := do
  let b ← (Batch.ofSize size).writeAll report (r.due tick every)
  return (b.finish.2, r.clearRetired)

end Roster

end MetricsAgent
