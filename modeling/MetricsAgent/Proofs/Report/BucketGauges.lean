import MetricsAgent.Proofs.Metric.Estimates
import MetricsAgent.Proofs.Metric.Limits
import MetricsAgent.Proofs.Report.Latencies
import MetricsAgent.Proofs.Report.Marking

/-!
# Gauges that show buckets

A gauge that shows the counts of a histogram is reported as the histogram with these counts is
(`report_eq_histogram`), although its statistics are asked for one by one and not read from a snapshot. Nothing
is reported of values above all bounds. Counts are reported unless they are beyond the limits of a histogram
(`WithinLimits`), and then completely.
-/

namespace MetricsAgent

/-! ## Times -/

/-- The part with another time. -/
def ReportItem.dated (now : Int) : ReportItem → ReportItem
  | .insight i => .insight { i with timestamp := now }
  | .values v => .values v
  | .flush => .flush

namespace Report

/-- The report with another time. -/
def dated (now : Int) (r : Report) : Report := ⟨r.items.map (ReportItem.dated now), r.sent⟩

variable {c : Context} {name : String} {o : Occasion} {counts : List Int64} {h : Histogram} {s : Snapshot}

theorem dated_ofDistribution (count : UInt64) (now : Int) :
    (ofDistribution c name count s o).dated now = ofDistribution { c with now := now } name count s o := by
  unfold ofDistribution unlessWithheld
  cases o.isWithheld <;> rfl

/-! ## Statistics -/

theorem exists_of_quantile (ho : h.isOverflowed = false) {q : Float} {e : Except HistogramError Int64}
    (hq : h.quantile q = .ok e) : ∃ n, e = .ok n := by
  rw [Histogram.quantile, ho] at hq
  obtain ⟨total, _, hq⟩ := exists_of_bind_eq_ok hq
  split at hq
  · cases hq
    exact ⟨0, rfl⟩
  · obtain ⟨n, _, hq⟩ := exists_of_bind_eq_ok hq
    cases hq
    exact ⟨n, rfl⟩

theorem exists_mean (ho : h.isOverflowed = false) : ∃ n, h.mean = .ok n := by
  rw [Histogram.mean, ho]
  simp only [Bool.false_eq_true, if_false]
  split
  · exact ⟨0, rfl⟩
  · exact ⟨_, rfl⟩

/-- Without values above all bounds, a quantile of the snapshot is the one that the histogram tells. -/
theorem map_quantile (ho : h.isOverflowed = false) {q x : Float}
    (hq : (do return estimateOrLargest (← h.quantile q) : Except Fault Float) = .ok x) :
    (do return (← h.quantile q).map (·.toFloat) : Except Fault (Except HistogramError Float)) = .ok (.ok x) := by
  obtain ⟨e, he, hx⟩ := exists_of_bind_eq_ok hq
  obtain ⟨n, rfl⟩ := exists_of_quantile ho he
  cases hx
  rw [he]
  rfl

theorem histogramStats_of_snapshot (ho : h.isOverflowed = false) (hs : h.snapshot = .ok s) :
    histogramStats h = .ok (.ok (s.stats, s.p90)) := by
  unfold Histogram.snapshot at hs
  obtain ⟨median, hmedian, hs⟩ := exists_of_bind_eq_ok hs
  obtain ⟨p75, hp75, hs⟩ := exists_of_bind_eq_ok hs
  obtain ⟨p90, hp90, hs⟩ := exists_of_bind_eq_ok hs
  obtain ⟨p95, hp95, hs⟩ := exists_of_bind_eq_ok hs
  obtain ⟨p98, hp98, hs⟩ := exists_of_bind_eq_ok hs
  obtain ⟨p99, hp99, hs⟩ := exists_of_bind_eq_ok hs
  obtain ⟨p999, hp999, hs⟩ := exists_of_bind_eq_ok hs
  obtain ⟨min, hmin, hs⟩ := exists_of_bind_eq_ok hs
  cases hs
  obtain ⟨mean, hmean⟩ := exists_mean ho
  unfold histogramStats
  simp only [hmin, hmean, map_quantile ho hmedian, map_quantile ho hp75, map_quantile ho hp90, map_quantile ho hp95,
    map_quantile ho hp98, map_quantile ho hp99, map_quantile ho hp999]
  rfl

theorem histogramStats_of_isOverflowed (ho : h.isOverflowed = true) {min : Int64} (hmin : h.min = .ok min) :
    histogramStats h = .ok (.error .overflowed) := by
  unfold histogramStats
  rw [hmin, (Histogram.GivesUp.of_isOverflowed h ho).mean]
  rfl

theorem histogramStats_of_min {f : Fault} (hmin : h.min = .error f) : histogramStats h = .error f := by
  unfold histogramStats
  rw [hmin]
  rfl

theorem histogramStats_of_count {f : Fault} (ho : h.isOverflowed = false) {min : Int64} (hmin : h.min = .ok min)
    (hcount : h.count = .error f) : histogramStats h = .error f := by
  have hq (q : Float) : h.quantile q = .error f := by
    rw [Histogram.quantile, ho, hcount]
    rfl
  obtain ⟨mean, hmean⟩ := exists_mean ho
  unfold histogramStats
  simp only [hmin, hmean, hq]
  rfl

/-! ## Limits -/

/-- Nothing is reported of no counts at all, and of values above all bounds. -/
def showsNothing (counts : List Int64) : Bool := counts.getLast?.all (0 < ·)

/-- No table and no number that is needed goes beyond 64 bits. -/
structure WithinLimits (counts : List Int64) : Prop where
  length_le : counts.length ≤ mostBounds + 1
  starts : ¬ Histogram.StartsBeyond counts
  /-- Counts of which nothing is reported are not added up. -/
  sums : showsNothing counts = false → SumsFit 0 counts

theorem isOverflowed_eq_showsNothing (hne : counts ≠ []) (bounds : List Int64) :
    (Histogram.mk bounds counts).isOverflowed = showsNothing counts := by
  rw [Histogram.isOverflowed, showsNothing, List.getLast?_eq_some_getLast hne]
  rfl

theorem bounds_of_ofCounts (hh : Histogram.ofCounts counts = .ok h) :
    bucketBounds (counts.length - 1) = .ok h.bounds ∧ h.counts = counts := by
  obtain ⟨bounds, hb, hh⟩ := exists_of_bind_eq_ok hh
  cases hh
  exact ⟨hb, rfl⟩

theorem fits_of_showsNothing (hne : counts ≠ []) (hh : Histogram.ofCounts counts = .ok h)
    (hshows : showsNothing counts = false) (hsums : SumsFit 0 counts) : h.Fits := by
  obtain ⟨hb, rfl⟩ := bounds_of_ofCounts hh
  have hlength := length_of_boundsFrom hb
  have hpos := List.length_pos_iff.mpr hne
  refine ⟨by omega, hsums, fun i b n hbound hcount hheld => Int64.lt_of_le_of_ne (Int64.le_maxValue b) ?_⟩
  -- Behind the largest number lies only the last bucket, and nothing is in it.
  rintro rfl
  obtain ⟨hi, hmax⟩ := List.getElem?_eq_some_iff.mp hbound
  have hi' := (getElem_bucketBounds_eq_maxValue_iff hb hi).mp hmax
  have hmost := le_mostBounds hb
  have hlast : i + 1 = h.counts.length - 1 := by
    have := (List.getElem?_eq_some_iff.mp hcount).1
    omega
  rw [hlast] at hcount
  rw [showsNothing, List.getLast?_eq_getElem?, hcount] at hshows
  simp [hheld] at hshows

/-! ## Reports -/

theorem ofBuckets_of_lt (hl : mostBounds + 1 < counts.length) : ofBuckets c name counts o = .error .overflow := by
  have hne : counts.isEmpty = false := by
    rw [List.isEmpty_eq_false_iff, ← List.length_pos_iff]
    omega
  have hh : Histogram.ofCounts counts = .error .overflow := by
    rw [Histogram.ofCounts, bucketBounds_of_lt (by omega)]
    rfl
  rw [ofBuckets, hne, hh]
  rfl

theorem ofBuckets_of_error (hne : counts ≠ []) (hh : Histogram.ofCounts counts = .ok h) {f : Fault}
    (hstats : histogramStats h = .error f) : ofBuckets c name counts o = .error f := by
  rw [ofBuckets, List.isEmpty_eq_false_iff.mpr hne, hh]
  show (histogramStats h >>= _) = _
  rw [hstats]
  rfl

theorem ofBuckets_of_showsNothing (hh : Histogram.ofCounts counts = .ok h) (hs : ¬ Histogram.StartsBeyond counts)
    (hshows : showsNothing counts = true) : ofBuckets c name counts o = .ok .empty := by
  by_cases hne : counts = []
  · subst hne
    rfl
  obtain ⟨hb, rfl⟩ := bounds_of_ofCounts hh
  obtain ⟨min, hmin⟩ := Histogram.returns_min hb (by omega) hs
  have ho := (isOverflowed_eq_showsNothing hne h.bounds).trans hshows
  rw [ofBuckets, List.isEmpty_eq_false_iff.mpr hne, hh]
  show (histogramStats h >>= _) = _
  rw [histogramStats_of_isOverflowed ho hmin]
  rfl

theorem ofBuckets_of_startsBeyond (hh : Histogram.ofCounts counts = .ok h) (hs : Histogram.StartsBeyond counts) :
    ofBuckets c name counts o = .error .overflow := by
  have hne : counts ≠ [] := by
    rintro rfl
    cases hs
  obtain ⟨hb, rfl⟩ := bounds_of_ofCounts hh
  exact ofBuckets_of_error hne hh (histogramStats_of_min (Histogram.min_of_startsBeyond hb (by omega) hs))

theorem ofBuckets_of_not_sumsFit (hne : counts ≠ []) (hh : Histogram.ofCounts counts = .ok h)
    (hs : ¬ Histogram.StartsBeyond counts) (hshows : showsNothing counts = false) (hsums : ¬ SumsFit 0 counts) :
    ofBuckets c name counts o = .error .overflow := by
  obtain ⟨hb, rfl⟩ := bounds_of_ofCounts hh
  obtain ⟨min, hmin⟩ := Histogram.returns_min hb (by omega) hs
  have ho := (isOverflowed_eq_showsNothing hne h.bounds).trans hshows
  exact ofBuckets_of_error hne hh (histogramStats_of_count ho hmin (foldlM_of_not_sumsFit hsums))

/-- Counts that are reported tell what the snapshot of their histogram tells. -/
theorem exists_ofBuckets (hne : counts ≠ []) (hh : Histogram.ofCounts counts = .ok h)
    (hshows : showsNothing counts = false) (hsums : SumsFit 0 counts) (c : Context) (name : String) (o : Occasion) :
    ∃ n s, h.count = .ok n ∧ h.snapshot = .ok s ∧ ofBuckets c name counts o =
      .ok (distribution c name n s.min.toFloat s.max.toFloat s.stats s.p90 ++
        unlessWithheld o (insight c name .histogram c.tags (.histogram (max n 0).toUInt64 s.stats))) := by
  have hf := fits_of_showsNothing hne hh hshows hsums
  obtain ⟨n, hn⟩ := hf.returns_count
  obtain ⟨s, hs⟩ := hf.returns_snapshot
  obtain ⟨-, rfl⟩ := bounds_of_ofCounts hh
  have ho := (isOverflowed_eq_showsNothing hne h.bounds).trans hshows
  refine ⟨n, s, hn, hs, ?_⟩
  rw [ofBuckets, List.isEmpty_eq_false_iff.mpr hne, hh]
  show (histogramStats h >>= _) = _
  rw [histogramStats_of_snapshot ho hs]
  show (h.count >>= _) = _
  rw [hn]
  rfl

/-- A value list with all twelve numbers and, unless it is withheld, the insight. -/
inductive IsDistribution (o : Occasion) : Report → Prop
  | withheld {v : ValueList} (ho : o.isWithheld = true) (hkind : v.kind = "histogram")
      (hfields : v.fields.length = 12) : IsDistribution o ⟨[.values v], 1⟩
  | told {v : ValueList} {i : Insight} (ho : o.isWithheld = false) (hkind : v.kind = "histogram")
      (hfields : v.fields.length = 12) : IsDistribution o ⟨[.values v, .insight i, .flush], 2⟩

theorem isDistribution (count : Int64) (min max : Float) (stats : SamplingStats) (p90 : Float)
    (tags : List (String × String)) (payload : Payload) :
    (distribution c name count min max stats p90 ++
      unlessWithheld o (insight c name .histogram tags payload)).IsDistribution o := by
  unfold unlessWithheld
  cases ho : o.isWithheld with
  | true => exact .withheld ho rfl rfl
  | false => exact .told ho rfl rfl

/-- Counts are reported unless they are beyond the limits: not at all if there are none or values above all
bounds, else completely, and then 128 bits are enough for their mean. -/
theorem report_of_buckets (c : Context) (name : String) (counts : List Int64) (o : Occasion) :
    match (Metric.gauge (.buckets counts)).report c name o with
    | .error f => f = .overflow ∧ ¬ WithinLimits counts
    | .ok r => WithinLimits counts ∧
        if showsNothing counts then r = .empty
        else r.IsDistribution o ∧ ∀ h, Histogram.ofCounts counts = .ok h → h.MeanFits := by
  rw [Metric.report]
  by_cases hl : counts.length ≤ mostBounds + 1
  · obtain ⟨bounds, hb, _⟩ := bucketBounds_eq_ok (Nat.sub_le_of_le_add hl)
    have hh : Histogram.ofCounts counts = .ok ⟨bounds, counts⟩ := by
      rw [Histogram.ofCounts, hb]
      rfl
    by_cases hs : Histogram.StartsBeyond counts
    · rw [ofBuckets_of_startsBeyond hh hs]
      exact ⟨rfl, fun hw => hw.starts hs⟩
    cases hshows : showsNothing counts with
    | true =>
        rw [ofBuckets_of_showsNothing hh hs hshows]
        exact ⟨⟨hl, hs, fun hn => absurd (hshows.symm.trans hn) (by decide)⟩, rfl⟩
    | false =>
        have hne : counts ≠ [] := by
          rintro rfl
          cases hshows
        by_cases hsums : SumsFit 0 counts
        · obtain ⟨n, s, _, _, hr⟩ := exists_ofBuckets hne hh hshows hsums c name o
          rw [hr]
          refine ⟨⟨hl, hs, fun _ => hsums⟩, isDistribution .., fun h hh => ?_⟩
          obtain ⟨hb, rfl⟩ := bounds_of_ofCounts hh
          exact Histogram.meanFits hb hsums
        · rw [ofBuckets_of_not_sumsFit hne hh hs hshows hsums]
          exact ⟨rfl, fun hw => hsums (hw.sums hshows)⟩
  · rw [ofBuckets_of_lt (Nat.lt_of_not_le hl)]
    exact ⟨rfl, fun hw => hl hw.length_le⟩

/-- Counts beyond the limits: one too many, and two that cannot be added up. -/
theorem unreported_counts :
    (Metric.gauge (.buckets (List.replicate 238 0 ++ [1]))).report .bare "sizes" .withheldSample = .error .overflow ∧
      (Metric.gauge (.buckets [Int64.maxValue, 1, 0])).report .bare "sizes" .withheldSample = .error .overflow := by
  constructor
  · exact ofBuckets_of_lt (by set_option maxRecDepth 4000 in decide)
  · have hh : Histogram.ofCounts [Int64.maxValue, 1, 0] = .ok ⟨[1, 2], [Int64.maxValue, 1, 0]⟩ := by decide
    exact ofBuckets_of_not_sumsFit (by decide) hh (by decide) (by decide) (by decide)

/-! ## Two ways to a report -/

theorem max_zero_of_nonneg {n : Int64} (hn : 0 ≤ n) : max n 0 = n := by
  show (if n ≤ 0 then 0 else n) = n
  split
  · exact Int64.le_antisymm hn ‹n ≤ 0›
  · rfl

/-- Counts of which none is negative, with a sum within 64 bits. If none is above all bounds, they are reported as
the histogram that has them, the time aside. If some are, nothing is reported, unless their bucket begins behind
the largest number: then there is no report. -/
theorem report_eq_histogram (hne : counts ≠ []) (hnonneg : ∀ n ∈ counts, 0 ≤ n) (hsum : IsInt64 (exactSum 0 counts))
    (hh : Histogram.ofCounts counts = .ok h) (c : Context) (name : String) (o : Occasion) :
    (counts.getLast? = some 0 →
      ∃ r, (Metric.gauge (.buckets counts)).report c name o = .ok r ∧ r.IsDistribution o ∧
        ∀ now, (Metric.estimated h).report { c with now := now } name o = .ok (r.dated now)) ∧
      ∀ n, counts.getLast? = some n → 0 < n →
        (Metric.gauge (.buckets counts)).report c name o =
          if Histogram.StartsBeyond counts then .error .overflow else .ok .empty := by
  rw [Metric.report]
  refine ⟨fun hlast => ?_, fun n hlast hpos => ?_⟩
  · have hshows : showsNothing counts = false := by
      rw [showsNothing, hlast]
      rfl
    have hsums : SumsFit 0 counts := sumsFit_of_nonneg (by decide) hnonneg hsum
    obtain ⟨n, s, hn, hs, hr⟩ := exists_ofBuckets hne hh hshows hsums c name o
    have hcount : 0 ≤ n := by
      rw [Histogram.count, (bounds_of_ofCounts hh).2] at hn
      rw [Int64.le_iff_toInt_le, toInt_of_foldlM hn]
      exact le_exactSum 0 hnonneg
    have hsize : h.size = .ok n.toUInt64 := by
      rw [Histogram.size, hn]
      exact congrArg (fun m : Int64 => Except.ok m.toUInt64) (max_zero_of_nonneg hcount)
    rw [max_zero_of_nonneg hcount] at hr
    refine ⟨_, hr, isDistribution .., fun now => ?_⟩
    rw [Metric.report, hsize, hs]
    show Except.ok (ofDistribution { c with now := now } name n.toUInt64 s o) = _
    rw [← dated_ofDistribution, ofDistribution, Int64.toInt64_toUInt64]
  · have hshows : showsNothing counts = true := by
      rw [showsNothing, hlast]
      simp [hpos]
    split
    · exact ofBuckets_of_startsBeyond hh ‹_›
    · exact ofBuckets_of_showsNothing hh ‹_› hshows

theorem report_eq_histogram_sizes :
    Histogram.ofCounts [0, 2, 0, 2, 0] = .ok ⟨[1, 2, 3, 4], [0, 2, 0, 2, 0]⟩ ∧
      (∃ r, (Metric.gauge (.buckets [0, 2, 0, 2, 0])).report .bare "sizes" .sample = .ok r ∧ r.IsDistribution .sample ∧
        ∀ now, (Metric.estimated ⟨[1, 2, 3, 4], [0, 2, 0, 2, 0]⟩).report { Context.bare with now := now } "sizes"
          .sample = .ok (r.dated now)) ∧
      (Metric.gauge (.buckets [1, 1])).report .bare "sizes" .sample = .ok .empty := by
  have hh : Histogram.ofCounts [0, 2, 0, 2, 0] = .ok ⟨[1, 2, 3, 4], [0, 2, 0, 2, 0]⟩ := by decide
  have hover : Histogram.ofCounts [1, 1] = .ok ⟨[1], [1, 1]⟩ := by decide
  refine ⟨hh, (report_eq_histogram (by decide) ?_ (by decide) hh .bare "sizes" .sample).1 rfl, ?_⟩
  · simp only [List.forall_mem_cons, List.not_mem_nil, false_imp_iff, implies_true, and_true]
    decide
  · refine (report_eq_histogram (by decide) ?_ (by decide) hover .bare "sizes" .sample).2 1 rfl (by decide)
    simp only [List.forall_mem_cons, List.not_mem_nil, false_imp_iff, implies_true, and_true]
    decide

/-- In the largest table, the bucket of what is above all bounds begins behind the largest number. -/
theorem unreported_above_bounds :
    let counts : List Int64 := List.replicate 237 0 ++ [1]
    counts ≠ [] ∧ (∀ n ∈ counts, 0 ≤ n) ∧ IsInt64 (exactSum 0 counts) ∧ (Histogram.ofCounts counts).isOk = true ∧
      counts.getLast? = some 1 ∧
      (Metric.gauge (.buckets counts)).report .bare "sizes" .withheldSample = .error .overflow := by
  intro counts
  have hnonneg : ∀ n ∈ counts, 0 ≤ n := by
    intro n hn
    rcases List.mem_append.mp hn with hn | hn
    · rw [List.eq_of_mem_replicate hn]
      exact Int64.le_refl 0
    · cases List.mem_singleton.mp hn
      decide
  have hsum : IsInt64 (exactSum 0 counts) := by set_option maxRecDepth 4000 in decide
  have hok : (Histogram.ofCounts counts).isOk = true := by
    obtain ⟨bounds, hb, _⟩ := bucketBounds_eq_ok (Nat.le_refl mostBounds)
    have hl : counts.length - 1 = mostBounds := by
      rw [List.length_append, List.length_replicate]
      rfl
    rw [Histogram.ofCounts, hl, hb]
    rfl
  refine ⟨List.append_ne_nil_of_right_ne_nil _ (by decide), hnonneg, hsum, hok, List.getLast?_concat, ?_⟩
  cases hh : Histogram.ofCounts counts with
  | error f => rw [hh] at hok; cases hok
  | ok h => exact ofBuckets_of_startsBeyond hh (by set_option maxRecDepth 4000 in decide)

end Report

end MetricsAgent
