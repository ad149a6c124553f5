import MetricsAgent.Metric.Basic

/-!
# Latency buckets

Timers are also reported by cumulative buckets of latency: for each edge the number of values up to
it.  The edges are fixed; the counts are taken from the buckets of a snapshot, whose bounds are finer
but others.
-/

namespace MetricsAgent.Latency

/-- The upper edges of the reported buckets in microseconds. -/
def edges : List Int64 :=
  [35, 60, 103, 179, 310, 535, 924, 1597, 2759, 4768, 8239, 14237, 24601, 42510, 73457, 126934,
    219342, 379022, 654949, 1131752, 1955666, 3379391, 5839588, 10090808, 17436917]

/-- The name of the bucket of an edge. -/
def edgeName (edge : Int64) : String := "bucket_" ++ toString edge.toInt

/-- The name of the bucket that holds all values. -/
def totalName : String := "bucket_inf"

/-- The number of bounds of the database's own histograms. -/
def databaseBounds : Nat := 90

/-- The number of bounds of a decaying reservoir. -/
def decayingBounds : Nat := 165

/-- The bounds of a layout. -/
def boundsOf : BucketLayout → Except Fault (List Int64)
  | .bounds bounds => .ok bounds
  | .decaying => bucketBounds decayingBounds
  | .unknown => bucketBounds databaseBounds

/-- Cumulative counts: one for each edge that some bound lies beyond, and the number of all values. -/
structure Counts where
  passed : List Int64
  total : Int64
  deriving DecidableEq, Repr

/-- Counts the values of buckets, given by bound and count, against the edges that are left.  `seen`
values were counted before.  A bound passes one edge at most. -/
def countFrom (seen : Int64) (edges : List Int64) : List (Int64 × Int64) → Except Fault Counts
  | [] => .ok ⟨[], seen⟩
  | (bound, n) :: rest => do
    let next ← checkedAdd seen n
    match edges with
    | [] => countFrom next [] rest
    | edge :: later =>
      if edge * 1000 < bound then
        let counts ← countFrom next later rest
        return { counts with passed := seen :: counts.passed }
      else countFrom next edges rest

theorem countFrom_cons (seen : Int64) (edges : List Int64) (bound n : Int64) (rest : List (Int64 × Int64)) :
    countFrom seen edges ((bound, n) :: rest) = (checkedAdd seen n >>= fun next =>
      match edges with
      | [] => countFrom next [] rest
      | edge :: later =>
        if edge * 1000 < bound then do
          let counts ← countFrom next later rest
          return { counts with passed := seen :: counts.passed }
        else countFrom next edges rest) := rfl

/-- The counts of a snapshot, if there is a bound for each of its values. -/
def counts? (s : Snapshot) : Except Fault (Option Counts) := do
  let bounds ← boundsOf s.layout
  if s.values.length = bounds.length then
    return some (← countFrom 0 edges (bounds.zip s.values))
  else return none

/-- One number for each edge: edges that no bound lies beyond hold all values. -/
def Counts.perEdge (c : Counts) : List Int64 :=
  c.passed ++ List.replicate (edges.length - c.passed.length) c.total

/-- The counts as tags: those of the edges that were passed, and the total. -/
def Counts.tags (c : Counts) : List (String × String) :=
  (edges.zip c.passed).map (fun x => (edgeName x.1, toString x.2.toInt))
    ++ [(totalName, toString c.total.toInt)]

end MetricsAgent.Latency
