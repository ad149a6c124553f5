import MetricsAgent.Proofs.Report.Parts

/-!
# What a report lets through to the insights

The value lists of a withheld report are all marked, and it has no insight. Any other report that is not
empty has exactly one part that reaches the insights, a plain value list or an insight, which is flushed at
once; its other value lists are marked. Each report is put together from parts that keep to this, and counts
its commands.
-/

namespace MetricsAgent

def Output.isCommand : Output → Bool
  | .command _ => true
  | .flush => false

/-- A value list that is marked as withheld. -/
inductive ReportItem.IsMarked : ReportItem → Prop
  | values {v : ValueList} (h : v.tags = withheldTag) : IsMarked (.values v)

/-- A part of a report that reaches the insights. -/
inductive ReachesInsights : List ReportItem → Prop
  | values {v : ValueList} (h : v.tags = "") : ReachesInsights [.values v]
  | insight (i : Insight) : ReachesInsights [.insight i, .flush]

namespace Report

/-- The report says how many commands it has. -/
def Counts (r : Report) : Prop := r.sent = r.outputs.countP Output.isCommand

/-- Nothing in the report reaches the insights. -/
def Withholds (r : Report) : Prop := ∀ x ∈ r.items, x.IsMarked

/-- Exactly one part of the report reaches the insights. -/
def ReachesOnce (r : Report) : Prop :=
  ∃ before part after, r.items = before ++ part ++ after ∧ ReachesInsights part ∧
    ∀ x ∈ before ++ after, x.IsMarked

/-- What an occasion lets through. -/
structure Obeys (o : Occasion) (r : Report) : Prop where
  counts : r.Counts
  withholds : o.isWithheld = true → r.Withholds
  reaches : o.isWithheld = false → r.items = [] ∨ r.ReachesOnce

variable {c : Context} {name : String} {o : Occasion} {r s : Report}

/-! ## Parts -/

theorem Counts.append (hr : r.Counts) (hs : s.Counts) : (r ++ s).Counts := by
  show r.sent + s.sent = ((r.items ++ s.items).map ReportItem.output).countP Output.isCommand
  rw [List.map_append, List.countP_append, hr, hs]
  rfl

theorem Withholds.append (hr : r.Withholds) (hs : s.Withholds) : (r ++ s).Withholds := by
  intro x hx
  rcases List.mem_append.mp hx with hx | hx
  · exact hr x hx
  · exact hs x hx

theorem Obeys.empty (o : Occasion) : Obeys o .empty :=
  ⟨rfl, fun _ _ hx => absurd hx List.not_mem_nil, fun _ => .inl rfl⟩

theorem Obeys.values (c : Context) (name kind : String) (o : Occasion) (fields : List Field) :
    Obeys o (values c name kind o.tags fields) := by
  refine ⟨rfl, fun ho x hx => ?_, fun ho => .inr ⟨[], _, [], rfl, .values ?_, ?_⟩⟩
  · cases List.mem_singleton.mp hx
    exact .values (if_pos ho)
  · exact if_neg (by simp [ho])
  · simp

theorem counts_markedLists (lists : List (String × List Field)) : (markedLists c name lists).Counts := by
  have hall : ∀ x ∈ (markedLists c name lists).outputs, x.isCommand = true := by
    simp only [outputs, markedLists, List.map_map, List.forall_mem_map]
    exact fun _ _ => rfl
  rw [Counts, List.countP_eq_length.mpr hall]
  simp [outputs, markedLists]

theorem withholds_markedLists (lists : List (String × List Field)) : (markedLists c name lists).Withholds :=
  List.forall_mem_map.mpr fun _ _ => .values rfl

/-- Marked value lists and then the insight, unless it is withheld. -/
theorem Obeys.marked (c : Context) (name : String) (o : Occasion) (lists : List (String × List Field))
    (kind : InsightKind) (tags : List (String × String)) (payload : Payload) :
    Obeys o (markedLists c name lists ++ unlessWithheld o (insight c name kind tags payload)) := by
  have hcounts : (markedLists c name lists).Counts := counts_markedLists lists
  have hwithholds : (markedLists c name lists).Withholds := withholds_markedLists lists
  cases ho : o.isWithheld with
  | true =>
      simp only [unlessWithheld, ho, ↓reduceIte]
      exact ⟨hcounts.append rfl, fun _ => hwithholds.append fun _ hx => absurd hx List.not_mem_nil,
        fun hn => absurd (ho.symm.trans hn) (by decide)⟩
  | false =>
      simp only [unlessWithheld, ho, Bool.false_eq_true, ↓reduceIte]
      refine ⟨hcounts.append rfl, fun hn => absurd (ho.symm.trans hn) (by decide),
        fun _ => .inr ⟨_, _, [], (List.append_nil _).symm, .insight _, fun x hx => ?_⟩⟩
      rw [List.append_nil] at hx
      exact hwithholds x hx

theorem obeys_report {m : Metric} (h : m.report c name o = .ok r) : Obeys o r := by
  cases isComposed_report h with
  | empty => exact .empty o
  | plain _ fields => exact .values c name _ o fields
  | marked lists => exact .marked c name o lists ..

end Report

/-! ## Metrics within 64 bits -/

namespace Latency

/-- How many bounds a layout has. -/
def sizeOf : BucketLayout → Nat
  | .bounds bounds => bounds.length
  | .decaying => decayingBounds
  | .unknown => databaseBounds

theorem boundsOf_eq_ok (layout : BucketLayout) :
    ∃ bounds, boundsOf layout = .ok bounds ∧ bounds.length = sizeOf layout := by
  match layout with
  | .bounds bounds => exact ⟨bounds, rfl, rfl⟩
  | .decaying => exact bucketBounds_eq_ok (by decide)
  | .unknown => exact bucketBounds_eq_ok (by decide)

theorem returns_countFrom {seen : Int64} {edges : List Int64} {buckets : List (Int64 × Int64)}
    (hs : SumsFit seen (buckets.map (·.2))) : Returns (countFrom seen edges buckets) := by
  induction buckets generalizing seen edges with
  | nil => exact .ok _
  | cons x rest ih =>
      obtain ⟨next, hn, hrest⟩ := hs.checkedAdd_eq_ok
      unfold countFrom
      refine .bind ⟨next, hn⟩ fun next' hn' => ?_
      cases hn.symm.trans hn'
      split
      · exact ih hrest
      · split
        · exact (ih hrest).bind fun _ _ => .ok _
        · exact ih hrest

end Latency

/-- The counts of a snapshot are only added up if there is a bound for each. -/
def Snapshot.Fits (s : Snapshot) : Prop :=
  s.values.length = Latency.sizeOf s.layout → SumsFit 0 s.values

theorem Snapshot.Fits.returns_counts? {s : Snapshot} (hs : s.Fits) : Returns (Latency.counts? s) := by
  obtain ⟨bounds, hb, hl⟩ := Latency.boundsOf_eq_ok s.layout
  rw [Latency.counts?, hb]
  show Returns (if s.values.length = bounds.length then _ else _)
  split
  · rename_i hlen
    refine .bind (Latency.returns_countFrom ?_) fun _ _ => .ok _
    exact (hs (hlen.trans hl)).of_isPrefix (map_snd_zip_isPrefix _ _)
  · exact .ok none

/-- The tables of bounds and the sums that a report needs stay within 64 bits. -/
def Metric.Fits : Metric → Prop
  | .gauge (.buckets counts) =>
    counts.length ≤ mostBounds + 1 ∧ ∀ h, Histogram.ofCounts counts = .ok h → h.Fits
  | .histogram _ (.histogram h) | .estimated h | .timer _ _ (.histogram h) => h.Fits
  | .timer _ _ (.snapshot s) => s.Fits
  | .counter _ | .gauge _ | .histogram _ (.snapshot _) | .meter _ _ => True

namespace Report

variable {c : Context} {name : String} {o : Occasion}

theorem returns_histogramStats {h : Histogram} (hf : h.Fits) : Returns (histogramStats h) := by
  have hq (p : Float) : Returns (do return (← h.quantile p).map (·.toFloat) :
      Except Fault (Except HistogramError Float)) :=
    (hf.returns_quantile p).bind fun _ _ => .ok _
  unfold histogramStats
  refine hf.returns_min.bind fun min _ => ?_
  split
  · exact .ok _
  · iterate 7 refine (hq _).bind fun _ _ => ?_
    split <;> exact .ok _

theorem returns_ofBuckets {counts : List Int64} (hl : counts.length ≤ mostBounds + 1)
    (hf : ∀ h, Histogram.ofCounts counts = .ok h → h.Fits) : Returns (ofBuckets c name counts o) := by
  obtain ⟨bounds, hb, _⟩ := bucketBounds_eq_ok (Nat.sub_le_of_le_add hl)
  have hh : Histogram.ofCounts counts = .ok ⟨bounds, counts⟩ := by rw [Histogram.ofCounts, hb]; rfl
  have hf := hf _ hh
  unfold ofBuckets
  split
  · exact .ok _
  · rw [hh]
    refine (returns_histogramStats hf).bind fun stats _ => ?_
    split
    · exact .ok _
    · exact hf.returns_count.bind fun _ _ => .ok _

theorem returns_ofTimer {count : UInt64} {rates : Rates} {s : Snapshot} (hs : s.Fits) :
    Returns (ofTimer c name count rates s o) :=
  hs.returns_counts?.bind fun _ _ => .ok _

theorem returns_report {m : Metric} (hm : m.Fits) (c : Context) (name : String) (o : Occasion) :
    Returns (m.report c name o) := by
  match m, hm with
  | .counter _, _ | .gauge (.integer _), _ | .gauge (.float _), _ | .gauge (.other _), _
  | .meter _ _, _ => exact .ok _
  | .gauge (.buckets counts), hm => exact returns_ofBuckets hm.1 hm.2
  | .histogram _ (.histogram h), hm => exact (Histogram.Fits.returns_snapshot hm).bind fun _ _ => .ok _
  | .histogram _ (.snapshot s), _ => exact .ok _
  | .estimated h, hm =>
      exact (Histogram.Fits.returns_size hm).bind fun _ _ =>
        (Histogram.Fits.returns_snapshot hm).bind fun _ _ => .ok _
  | .timer _ _ (.histogram h), hm =>
      refine (Histogram.Fits.returns_snapshot hm).bind fun s hs => returns_ofTimer fun _ => ?_
      exact (Histogram.Fits.sums hm).of_isPrefix (Histogram.values_isPrefix_of_snapshot hs)
  | .timer _ _ (.snapshot s), hm => exact returns_ofTimer hm

/-- A metric is reported, unless a table or a sum goes beyond 64 bits. The report counts its commands; on
a withheld occasion all of them are marked, and on any other exactly one reaches the insights, if there
are any. -/
theorem report_marking (c : Context) (name : String) (m : Metric) (o : Occasion) :
    match m.report c name o with
    | .error _ => ¬ m.Fits
    | .ok r => r.sent = r.outputs.countP Output.isCommand ∧
        if o = .withheldSample ∨ o = .final true then r.Withholds
        else r.items = [] ∨ r.ReachesOnce := by
  cases h : m.report c name o with
  | error f =>
      intro hm
      obtain ⟨r, hr⟩ := returns_report hm c name o
      cases h.symm.trans hr
  | ok r =>
      have hr := obeys_report h
      refine ⟨hr.counts, ?_⟩
      match o with
      | .sample => exact hr.reaches rfl
      | .withheldSample => exact hr.withholds rfl
      | .final true => exact hr.withholds rfl
      | .final false => exact hr.reaches rfl

end Report

end MetricsAgent
