import MetricsAgent.Proofs.Metric.Limits
import MetricsAgent.Report.OfMetric

/-!
# What is told of a timer

A report tells of the values of a timer by three value lists and an insight. Two of the lists and the data of the
insight do not depend on how the values are counted in buckets (`exists_items`). The latencies are sums of the
first so many counts, whatever the bounds are, in order or not (`exists_counts?`).
-/

namespace MetricsAgent

namespace Latency

/-- How many bounds there are before each that passes an edge. The bounds after it are left to the other
edges. -/
def passes : List Int64 → List Int64 → List Nat
  | [], _ => []
  | _ :: _, [] => []
  | b :: bounds, e :: es =>
    if e.toInt * 1000 < b.toInt then 0 :: (passes bounds es).map (· + 1)
    else (passes bounds (e :: es)).map (· + 1)

theorem passes_cons_cons (b e : Int64) (bounds es : List Int64) :
    passes (b :: bounds) (e :: es) =
      if e.toInt * 1000 < b.toInt then 0 :: (passes bounds es).map (· + 1)
      else (passes bounds (e :: es)).map (· + 1) := rfl

/-- In how many buckets the values of each edge are counted: in those before the bound that passes it, or in all. -/
def spans (bounds es : List Int64) : List Nat :=
  passes bounds es ++ List.replicate (es.length - (passes bounds es).length) bounds.length

variable {bounds es values : List Int64} {b seen : Int64}

/-! ## Bounds that pass an edge -/

theorem length_passes_le (bounds es : List Int64) : (passes bounds es).length ≤ es.length := by
  fun_induction passes bounds es with
  | case1 => exact Nat.zero_le _
  | case2 => exact Nat.zero_le _
  | case3 b bounds e es hlt ih => simpa using ih
  | case4 b bounds e es hlt ih => simpa using ih

theorem lt_length_of_mem_passes {m : Nat} (hm : m ∈ passes bounds es) : m < bounds.length := by
  induction bounds generalizing es m with
  | nil => exact absurd hm List.not_mem_nil
  | cons b bounds ih =>
      cases es with
      | nil => exact absurd hm List.not_mem_nil
      | cons e es =>
          rw [passes_cons_cons] at hm
          split at hm
          · rcases List.mem_cons.mp hm with rfl | hm
            · exact Nat.succ_pos _
            · obtain ⟨k, hk, rfl⟩ := List.mem_map.mp hm
              exact Nat.succ_lt_succ (ih hk)
          · obtain ⟨k, hk, rfl⟩ := List.mem_map.mp hm
            exact Nat.succ_lt_succ (ih hk)

theorem pairwise_passes (bounds es : List Int64) : (passes bounds es).Pairwise (· < ·) := by
  have hsucc {ms : List Nat} (h : ms.Pairwise (· < ·)) : (ms.map (· + 1)).Pairwise (· < ·) :=
    List.pairwise_map.mpr (h.imp Nat.succ_lt_succ)
  induction bounds generalizing es with
  | nil => exact .nil
  | cons b bounds ih =>
      cases es with
      | nil => exact .nil
      | cons e es =>
          rw [passes_cons_cons]
          split
          · refine .cons (fun m hm => ?_) (hsucc (ih es))
            obtain ⟨m, _, rfl⟩ := List.mem_map.mp hm
            exact Nat.succ_pos m
          · exact hsucc (ih (e :: es))

/-! ## Buckets counted for an edge -/

theorem spans_cons_of_lt {e : Int64} (hlt : e.toInt * 1000 < b.toInt) :
    spans (b :: bounds) (e :: es) = 0 :: (spans bounds es).map (· + 1) := by
  simp [spans, passes_cons_cons, hlt]

theorem spans_cons_of_not_lt {e : Int64} (hlt : ¬ e.toInt * 1000 < b.toInt) :
    spans (b :: bounds) (e :: es) = (spans bounds (e :: es)).map (· + 1) := by
  simp [spans, passes_cons_cons, hlt]

theorem length_spans (bounds es : List Int64) : (spans bounds es).length = es.length := by
  rw [spans, List.length_append, List.length_replicate, Nat.add_sub_cancel' (length_passes_le ..)]

/-- Each number counts at least the buckets of the number before. -/
theorem pairwise_spans (bounds es : List Int64) : (spans bounds es ++ [bounds.length]).Pairwise (· ≤ ·) := by
  rw [spans, List.append_assoc, ← List.replicate_succ', List.pairwise_append]
  refine ⟨(pairwise_passes ..).imp Nat.le_of_lt, ?_, fun m hm n hn => ?_⟩
  · exact List.pairwise_replicate.mpr (.inr (Nat.le_refl _))
  · rw [List.eq_of_mem_replicate hn]
    exact Nat.le_of_lt (lt_length_of_mem_passes hm)

/-! ## Counting -/

section Counting

variable {edge next v : Int64} {es : List Int64} {rest : List (Int64 × Int64)} {c : Counts}

theorem countFrom_of_lt (hn : checkedAdd seen v = .ok next) (hlt : edge * 1000 < b)
    (hc : countFrom next es rest = .ok c) :
    countFrom seen (edge :: es) ((b, v) :: rest) = .ok { c with passed := seen :: c.passed } := by
  rw [countFrom_cons, hn]
  show (if edge * 1000 < b then _ else _) = _
  rw [if_pos hlt, hc]
  rfl

theorem countFrom_of_not_lt (hn : checkedAdd seen v = .ok next) (hlt : ¬edge * 1000 < b) :
    countFrom seen (edge :: es) ((b, v) :: rest) = countFrom next (edge :: es) rest := by
  rw [countFrom_cons, hn]
  exact if_neg hlt

theorem countFrom_nil (hn : checkedAdd seen v = .ok next) :
    countFrom seen [] ((b, v) :: rest) = countFrom next [] rest := by
  rw [countFrom_cons, hn]
  rfl

end Counting

/-- The edges are passed with the sums of the values before, and the total is the sum of all values. -/
theorem exists_countFrom (he : ∀ e ∈ es, (e * 1000).toInt = e.toInt * 1000) (hl : values.length = bounds.length)
    (hs : SumsFit seen values) :
    ∃ c, countFrom seen es (bounds.zip values) = .ok c ∧
      c.passed.map Int64.toInt = (passes bounds es).map (fun m => exactSum seen.toInt (values.take m)) ∧
      c.total.toInt = exactSum seen.toInt values := by
  induction bounds generalizing values seen es with
  | nil =>
      cases List.eq_nil_of_length_eq_zero hl
      exact ⟨⟨[], seen⟩, rfl, rfl, rfl⟩
  | cons b bounds ih =>
      obtain ⟨v, values, rfl⟩ := List.exists_cons_of_length_eq_add_one hl
      obtain ⟨next, hn, hs⟩ := hs.checkedAdd_eq_ok
      have hsum (ms : List Nat) : (ms.map (· + 1)).map (fun m => exactSum seen.toInt ((v :: values).take m)) =
          ms.map fun m => exactSum next.toInt (values.take m) := by
        rw [List.map_map]
        refine List.map_congr_left fun m _ => ?_
        rw [Function.comp_apply, List.take_succ_cons, exactSum_cons, toInt_of_checkedAdd hn]
      have ih {es : List Int64} (he : ∀ e ∈ es, (e * 1000).toInt = e.toInt * 1000) := ih he (Nat.succ.inj hl) hs
      rw [List.zip_cons_cons, exactSum_cons, ← toInt_of_checkedAdd hn]
      cases es with
      | nil =>
          obtain ⟨c, hc, hpassed, htotal⟩ := ih he
          cases bounds <;> exact ⟨c, (countFrom_nil hn).trans hc, hpassed, htotal⟩
      | cons e es =>
          have hedge : e * 1000 < b ↔ e.toInt * 1000 < b.toInt := by
            rw [Int64.lt_iff_toInt_lt, he e List.mem_cons_self]
          by_cases hlt : e * 1000 < b
          · -- The bound passes the edge with what was seen before its own value.
            obtain ⟨c, hc, hpassed, htotal⟩ := ih fun e h => he e (List.mem_cons_of_mem _ h)
            refine ⟨_, countFrom_of_lt hn hlt hc, ?_, htotal⟩
            rw [passes_cons_cons, if_pos (hedge.mp hlt), List.map_cons, List.map_cons, hsum, hpassed]
            rfl
          · obtain ⟨c, hc, hpassed, htotal⟩ := ih he
            refine ⟨c, (countFrom_of_not_lt hn hlt).trans hc, ?_, htotal⟩
            rw [passes_cons_cons, if_neg fun h => hlt (hedge.mpr h), hsum, hpassed]

theorem countFrom_of_not_sumsFit (hl : values.length = bounds.length) (hs : ¬ SumsFit seen values) :
    countFrom seen es (bounds.zip values) = .error .overflow := by
  induction bounds generalizing values seen es with
  | nil =>
      cases List.eq_nil_of_length_eq_zero hl
      exact absurd (SumsFit.nil seen) hs
  | cons b bounds ih =>
      obtain ⟨v, values, rfl⟩ := List.exists_cons_of_length_eq_add_one hl
      rw [List.zip_cons_cons, countFrom_cons]
      cases hn : checkedAdd seen v with
      | error f =>
          rw [overflow_of_checkedAdd hn]
          rfl
      | ok next =>
          have hrest {es : List Int64} : countFrom next es (bounds.zip values) = .error .overflow :=
            ih (Nat.succ.inj hl) fun h => hs (h.cons hn)
          cases es with
          | nil => exact hrest
          | cons e es =>
              show (if e * 1000 < b then _ else _) = _
              split
              · rw [hrest]
                rfl
              · exact hrest

theorem toInt_edge : ∀ e ∈ edges, (e * 1000).toInt = e.toInt * 1000 := by
  have hall : edges.all fun e => (e * 1000).toInt == e.toInt * 1000 := by decide
  exact fun e he => eq_of_beq (List.all_eq_true.mp hall e he)

/-- The counts are sums of the first so many values. -/
structure Counts.AreSums (c : Counts) (bounds values : List Int64) : Prop where
  length_passed : c.passed.length = (passes bounds edges).length
  perEdge : c.perEdge.map Int64.toInt = (spans bounds edges).map fun m => exactSum 0 (values.take m)
  total : c.total.toInt = exactSum 0 values

theorem Counts.AreSums.length_perEdge {c : Counts} (h : c.AreSums bounds values) :
    c.perEdge.length = edges.length := by
  rw [← List.length_map Int64.toInt, h.perEdge, List.length_map, length_spans]

theorem Counts.AreSums.of_passed {c : Counts} (hl : values.length = bounds.length)
    (hpassed : c.passed.map Int64.toInt = (passes bounds edges).map fun m => exactSum 0 (values.take m))
    (htotal : c.total.toInt = exactSum 0 values) : c.AreSums bounds values := by
  have hlength : c.passed.length = (passes bounds edges).length := by
    rw [← List.length_map Int64.toInt, hpassed, List.length_map]
  refine ⟨hlength, ?_, htotal⟩
  rw [Counts.perEdge, spans, List.map_append, List.map_append, hpassed, List.map_replicate, List.map_replicate,
    htotal, ← hl, List.take_length, hlength]

/-! ## Snapshots -/

variable {s : Snapshot}

theorem counts?_of_length_eq (hb : boundsOf s.layout = .ok bounds) (hl : s.values.length = bounds.length) :
    counts? s = some <$> countFrom 0 edges (bounds.zip s.values) := by
  rw [counts?, hb]
  show (if s.values.length = bounds.length then _ else _) = _
  rw [if_pos hl]
  rfl

/-- If there is a value for each bound and the values can be added up, they are counted. -/
theorem exists_counts? (hb : boundsOf s.layout = .ok bounds) (hl : s.values.length = bounds.length)
    (hs : SumsFit 0 s.values) : ∃ c, counts? s = .ok (some c) ∧ c.AreSums bounds s.values := by
  obtain ⟨c, hc, hpassed, htotal⟩ := exists_countFrom toInt_edge hl hs
  refine ⟨c, ?_, .of_passed hl hpassed htotal⟩
  rw [counts?_of_length_eq hb hl, hc]
  rfl

theorem counts?_of_not_sumsFit (hb : boundsOf s.layout = .ok bounds) (hl : s.values.length = bounds.length)
    (hs : ¬ SumsFit 0 s.values) : counts? s = .error .overflow := by
  rw [counts?_of_length_eq hb hl, countFrom_of_not_sumsFit hl hs]
  rfl

theorem counts?_of_length_ne (hb : boundsOf s.layout = .ok bounds) (hl : s.values.length ≠ bounds.length) :
    counts? s = .ok none := by
  rw [counts?, hb]
  show (if s.values.length = bounds.length then _ else _) = _
  rw [if_neg hl]
  rfl

end Latency

namespace Report

open Latency

/-- The insight of a report and what follows it, unless it is withheld. -/
def told (o : Occasion) (i : Insight) : List ReportItem :=
  if o.isWithheld then [] else [.insight i, .flush]

/-- The value list of cumulative latencies. -/
def micros (c : Context) (name : String) (count : UInt64) (mean : Float) (counts : Latency.Counts) : ValueList :=
  ⟨c.host, name, "micros", c.interval, withheldTag,
    .integer count.toInt64 :: .float (mean * count.toFloat) :: (counts.perEdge ++ [counts.total]).map .integer⟩

/-- A timer is reported with the same two value lists for all values and bounds of its snapshot. Only the
latencies depend on them, as a value list and as tags of the insight. -/
theorem exists_items (c : Context) (name : String) (count : UInt64) (rates : Rates) (s : Snapshot) (o : Occasion) :
    ∃ h m : ValueList, ∃ data, h.kind = "histogram" ∧ m.kind = "meter" ∧
      ∀ (durations : Distribution) values layout counts,
        durations.toSnapshot = .ok { s with values := values, layout := layout } →
        counts? { s with values := values, layout := layout } = .ok counts →
        ∃ r, (Metric.timer count rates durations).report c name o = .ok r ∧
          r.items = [.values h, .values m] ++ (counts.map (.values <| micros c name count s.mean ·)).toList ++
            told o (.ofMetric c.now name .timer (timerTags c counts) data) := by
  obtain ⟨h, hh, hkind⟩ : ∃ h, distribution c name count.toInt64 (c.duration s.min.toFloat)
      (c.duration s.max.toFloat) (s.durationStats c) (c.duration s.p90) = ⟨[.values h], 1⟩ ∧ h.kind = "histogram" :=
    ⟨_, rfl, rfl⟩
  obtain ⟨m, hm, hkind'⟩ : ∃ m, Report.rates c name count (rates.stats c) = ⟨[.values m], 1⟩ ∧ m.kind = "meter" :=
    ⟨_, rfl, rfl⟩
  let payload := Payload.timer count (s.durationStats c) (rates.stats c) c.rateUnit.text c.durationUnit.text
  refine ⟨h, m, payload.value, hkind, hkind', fun durations values layout counts hs hc => ?_⟩
  have hreport : (Metric.timer count rates durations).report c name o =
      .ok (⟨[.values h], 1⟩ ++ ⟨[.values m], 1⟩ ++ counts.elim empty (latencies c name count s.mean ·) ++
        unlessWithheld o (insight c name .timer (timerTags c counts) payload)) := by
    rw [Metric.report, hs]
    show ofTimer c name count rates _ o = _
    rw [ofTimer, hc, ← hh, ← hm]
    rfl
  refine ⟨_, hreport, ?_⟩
  unfold told unlessWithheld
  cases counts <;> cases o.isWithheld <;> rfl

end Report

end MetricsAgent
