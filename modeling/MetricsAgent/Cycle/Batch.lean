import MetricsAgent.Report.OfMetric

/-!
# Batches

Reports are written in batches: when enough commands were written since the last batch ended, all is
flushed and the next batch begins.
-/

namespace MetricsAgent

structure Batch where
  /-- How many commands fill a batch. -/
  size : Nat
  /-- How many commands were written since the last batch ended. -/
  pending : Nat
  /-- All that was written. -/
  outputs : List Output

namespace Batch

/-- A batch that is full after a number of commands, but not before the first. -/
def ofSize (size : Nat) : Batch := ⟨max size 1, 0, []⟩

/-- Writes one report, and ends the batch if it is full. -/
def write (b : Batch) (r : Report) : Batch :=
  let pending := b.pending + r.sent
  let outputs := b.outputs ++ r.outputs
  if b.size ≤ pending then { b with pending := 0, outputs := outputs ++ [.flush] }
  else { b with pending, outputs }

/-- Ends the last batch: whether anything was left to flush, and all that was written. -/
def finish (b : Batch) : Bool × List Output :=
  if 0 < b.pending then (true, b.outputs ++ [.flush]) else (false, b.outputs)

/-- Writes the reports of some metrics. -/
def writeAll {ε : Type} (report : ε → Occasion → Except Fault Report) :
    Batch → List (ε × Occasion) → Except Fault Batch
  | b, [] => .ok b
  | b, (e, o) :: rest => do
    let r ← report e o
    writeAll report (b.write r) rest

end Batch

end MetricsAgent
