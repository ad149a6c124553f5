import MetricsAgent.Proofs.Json.RoundTrip
import MetricsAgent.Proofs.Report.Latencies
import MetricsAgent.Proofs.Report.Marking

/-!
# The shape of cumulative latencies

Whatever the bounds of a timer's snapshot are, in order or not, its latencies are sums of the first so many
values: of those before the bound that passed the edge, or of all. So their value list always has the numbers
that its type asks for (`shape_of_timer`). All else that is told of a timer depends neither on the values nor on
their bounds.
-/

namespace MetricsAgent

/-- The numbers are sums of the first so many values: of no fewer than the number before, and of all in the end. -/
def Latency.AreCumulative (values ns : List Int64) : Prop :=
  ∃ ms : List Nat, ms.Pairwise (· ≤ ·) ∧ ms.getLast? = some values.length ∧
    ns.map Int64.toInt = ms.map fun m => exactSum 0 (values.take m)

namespace Report

open Latency

/-- A timer's value list of latencies has 28 numbers, if there is a value for each bound. From the third on they are
sums of ever more of the values, the last of all. If the numbers of values and bounds differ, there is no such
list, and the insight has no tags of its own. All else that is told of the timer is the same. -/
theorem shape_of_timer (c : Context) (htags : c.tags.Pairwise (·.1 < ·.1)) (name : String) (count : UInt64)
    (rates : Rates) (s : Snapshot) (o : Occasion) :
    ∃ h m : ValueList, h.kind = "histogram" ∧ m.kind = "meter" ∧
      ∀ (durations : Distribution) values layout,
        durations.toSnapshot = .ok { s with values := values, layout := layout } →
        ∃ bounds, boundsOf layout = .ok bounds ∧
          (values.length = bounds.length → SumsFit 0 values →
            ∃ r v i ns, (Metric.timer count rates durations).report c name o = .ok r ∧
              r.items = [.values h, .values m, .values v] ++ told o i ∧ v.kind = "micros" ∧
              v.fields = .integer count.toInt64 :: .float (s.mean * count.toFloat) :: ns.map .integer ∧
              v.fields.length = 28 ∧ AreCumulative values ns) ∧
          (values.length ≠ bounds.length →
            ∃ r i, (Metric.timer count rates durations).report c name o = .ok r ∧
              r.items = [.values h, .values m] ++ told o i ∧ i.tags = c.tags) := by
  obtain ⟨h, m, data, hh, hm, hitems⟩ := exists_items c name count rates s o
  refine ⟨h, m, hh, hm, fun durations values layout hs => ?_⟩
  obtain ⟨bounds, hb, _⟩ := boundsOf_eq_ok layout
  refine ⟨bounds, hb, fun hl hsums => ?_, fun hl => ?_⟩
  · obtain ⟨counts, hc, hsum⟩ := exists_counts? (s := { s with values := values, layout := layout }) hb hl hsums
    obtain ⟨r, hr, hri⟩ := hitems durations values layout _ hs hc
    refine ⟨r, micros c name count s.mean counts, _, _, hr, hri, rfl, rfl, ?_, spans bounds edges ++ [bounds.length],
      pairwise_spans .., ?_, ?_⟩
    · simp [micros, hsum.length_perEdge, edges]
    · rw [List.getLast?_concat, hl]
    · rw [List.map_append, List.map_append, hsum.perEdge, List.map_singleton, List.map_singleton, hsum.total, ← hl,
        List.take_length]
  · obtain ⟨r, hr, hri⟩ := hitems durations values layout _ hs (counts?_of_length_ne hb hl)
    refine ⟨r, _, hr, hri, ?_⟩
    show Json.sortMembers (c.tags ++ []) = c.tags
    rw [List.append_nil, Json.sortMembers_of_pairwise htags]

theorem shape_of_timer_reads :
    Context.bare.tags.Pairwise (·.1 < ·.1) ∧ SumsFit 0 [1, 2, 3] ∧
      ∃ h m : ValueList,
        (∃ r v sum ns, (Metric.timer 6 ⟨0, 0, 0, 0⟩ (.snapshot (.ofValues (.bounds [50000, 10000, 90000])
            [1, 2, 3]))).report .bare "reads" .withheldSample = .ok r ∧
          r.items = [.values h, .values m, .values v] ∧
          v.fields = .integer 6 :: .float sum :: ns.map .integer ∧ v.fields.length = 28 ∧ AreCumulative [1, 2, 3] ns) ∧
        ∃ r, (Metric.timer 6 ⟨0, 0, 0, 0⟩ (.snapshot (.ofValues .decaying [1, 2, 3]))).report
            .bare "reads" .withheldSample = .ok r ∧ r.items = [.values h, .values m] := by
  have htags : Context.bare.tags.Pairwise (·.1 < ·.1) := by decide
  have hsums : SumsFit 0 [1, 2, 3] := by decide
  obtain ⟨h, m, _, _, hshape⟩ :=
    shape_of_timer .bare htags "reads" 6 ⟨0, 0, 0, 0⟩ (.ofValues .unknown []) .withheldSample
  obtain ⟨bounds, hb, hsame, _⟩ :=
    hshape (.snapshot (.ofValues (.bounds [50000, 10000, 90000]) [1, 2, 3])) [1, 2, 3] (.bounds [50000, 10000, 90000]) rfl
  cases hb
  obtain ⟨r, v, i, ns, hr, hitems, _, hfields, hlength, hns⟩ := hsame rfl hsums
  obtain ⟨bounds, hb, _, hdiffer⟩ := hshape (.snapshot (.ofValues .decaying [1, 2, 3])) [1, 2, 3] .decaying rfl
  obtain ⟨r', i', hr', hitems', _⟩ := hdiffer fun hl => by
    obtain ⟨bounds', hb', hl'⟩ := bucketBounds_eq_ok (n := decayingBounds) (by decide)
    cases hb.symm.trans hb'
    rw [hl'] at hl
    cases hl
  exact ⟨htags, hsums, h, m, ⟨r, v, _, ns, hr, hitems, hfields, hlength, hns⟩, r', hr', hitems'⟩

end Report

end MetricsAgent
