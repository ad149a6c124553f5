import MetricsAgent.Decimal.Ceiling

/-!
# Histograms with growing buckets

Each bucket of a histogram reaches a fifth further than the one before.  A histogram keeps one count
for each bucket and one for all that lies above; whatever it tells of the values that were added is
an estimate from the bounds of their buckets.

Counts are 64 bit integers.  A sum that does not fit is a fault, as is a look-up outside of the
buckets.
-/

namespace MetricsAgent

/-- What stops a computation: a result beyond 64 bits, or a place that is not there. -/
inductive Fault where
  | overflow | outOfBounds
  deriving DecidableEq, Repr

/-- The 64 bit integer of a number, if it is one. -/
def checked (n : Int) : Except Fault Int64 :=
  if Int64.minValue.toInt ≤ n ∧ n ≤ Int64.maxValue.toInt then .ok (Int64.ofInt n)
  else .error .overflow

def checkedAdd (a b : Int64) : Except Fault Int64 :=
  checked (a.toInt + b.toInt)

def checkedSum (ns : List Int64) : Except Fault Int64 :=
  ns.foldlM checkedAdd 0

/-- A result that must not exceed a bound: kept, or cut to the largest 64 bit integer. -/
def cutToInt64 (n : Nat) : Int64 :=
  Int64.ofInt (min n Int64.maxValue.toInt)

/-! ## Bounds -/

/-- The factor from one bound to the next, as near to six fifths as a double comes. -/
def growth : Decimal.Binary := Decimal.Binary.nearest 6 5

/-- A bound times the growth factor, computed in doubles and rounded to an integer. -/
def grown (bound : Int64) : Int64 :=
  let b := Decimal.Binary.nearest bound.toInt.toNat 1
  let product := Decimal.Binary.nearest (b.num * growth.num) (b.den * growth.den)
  cutToInt64 (Decimal.divRoundUp product.num product.den)

/-- The bound after `bound`, which is larger. -/
def nextBound (bound : Int64) : Except Fault Int64 :=
  if grown bound = bound then checkedAdd bound 1 else .ok (grown bound)

/-- `n` bounds from `bound` on. -/
def boundsFrom (bound : Int64) : Nat → Except Fault (List Int64)
  | 0 => .ok []
  | 1 => .ok [bound]
  | n + 2 => do
    let rest ← boundsFrom (← nextBound bound) (n + 1)
    return bound :: rest

/-- The first `n` upper bounds of buckets. -/
def bucketBounds (n : Nat) : Except Fault (List Int64) :=
  boundsFrom 1 n

/-! ## Histograms -/

/-- Counts of values by bucket.  There is one more count than bounds, for the values above the last
bound; a histogram without any count holds nothing. -/
structure Histogram where
  bounds : List Int64
  counts : List Int64
  deriving DecidableEq, Repr

/-- Why a histogram cannot tell an estimate: a value was above the last bound. -/
inductive HistogramError where
  | overflowed
  deriving DecidableEq, Repr

def HistogramError.message : HistogramError → String
  | .overflowed => "histogram overflowed"

namespace Histogram

/-- A histogram with `n` bounds that holds nothing. -/
def empty (n : Nat) : Except Fault Histogram := do
  let bounds ← bucketBounds n
  return ⟨bounds, List.replicate (bounds.length + 1) 0⟩

/-- The histogram with these counts, the last of which is for the values above all bounds. -/
def ofCounts (counts : List Int64) : Except Fault Histogram := do
  return ⟨← bucketBounds (counts.length - 1), counts⟩

/-- The place of the bucket that a value falls into. -/
def place (h : Histogram) (value : Int64) : Nat :=
  (h.bounds.takeWhile (· < value)).length

/-- Adds a value.  A count that cannot grow any more starts from the other end. -/
def add (h : Histogram) (value : Int64) : Except Fault Histogram :=
  match h.counts[h.place value]? with
  | none => .error .outOfBounds
  | some n => .ok { h with counts := h.counts.set (h.place value) (n + 1) }

/-- How many values were added. -/
def count (h : Histogram) : Except Fault Int64 :=
  checkedSum h.counts

/-- How many values were added; never less than none. -/
def size (h : Histogram) : Except Fault UInt64 := do
  return (max (← h.count) 0).toUInt64

/-- Whether a value above the last bound was added. -/
def isOverflowed (h : Histogram) : Bool :=
  h.counts.getLast?.any (0 < ·)

/-- An estimate of the smallest value: the lower end of the first bucket that holds any. -/
def min (h : Histogram) : Except Fault Int64 :=
  match h.counts.findIdx? (0 < ·) with
  | none | some 0 => .ok 0
  | some (i + 1) =>
    match h.bounds[i]? with
    | none => .error .outOfBounds
    | some bound => checkedAdd bound 1

/-- The counts with their bounds. -/
def buckets (h : Histogram) : List (Int64 × Int64) :=
  h.bounds.zip h.counts

/-- An estimate of the largest value: the upper end of the last bucket that holds any. -/
def max (h : Histogram) : Int64 :=
  if h.isOverflowed then Int64.maxValue
  else ((h.buckets.reverse.find? (0 < ·.2)).map (·.1)).getD 0

/-- The bound of the bucket in which the value of a rank lies, counting from `seen`. -/
def boundOfRank (rank seen : Int64) : List (Int64 × Int64) → Except Fault Int64
  | [] => .ok 0
  | (bound, n) :: rest => do
    let seen ← checkedAdd seen n
    if rank ≤ seen then return bound else boundOfRank rank seen rest

/-- The rank of a quantile among `total` values. -/
def rank (total : Int64) (quantile : Float) : Int64 :=
  Decimal.ceiling (Decimal.ofInteger total.toInt * quantile)

/-- An estimate of a quantile. -/
def quantile (h : Histogram) (q : Float) : Except Fault (Except HistogramError Int64) := do
  if h.isOverflowed then return .error .overflowed
  let total ← h.count
  if rank total q = 0 then return .ok 0
  return .ok (← boundOfRank (rank total q) 0 h.buckets)

/-- An estimate of the mean, rounded up, in which each value counts as its bound. -/
def mean (h : Histogram) : Except HistogramError Int64 :=
  if h.isOverflowed then .error .overflowed
  else
    let values := h.buckets.foldl (fun n b => n + b.2.toInt) 0
    let sum := h.buckets.foldl (fun n b => n + b.2.toInt * b.1.toInt) 0
    if values = 0 then .ok 0
    else .ok (Decimal.ceiling (Decimal.ofInteger sum / Decimal.ofInteger values))

end Histogram

end MetricsAgent
