import MetricsAgent.Proofs.Metric.Fits
import MetricsAgent.Report.OfMetric

/-!
# How reports are put together

The report of a metric is empty, or one plain value list, or some marked value lists and then the insight. What
holds of all reports is shown for these three.
-/

namespace MetricsAgent

/-- The kinds of values that metrics have. -/
def valueKinds : List String := ["counter", "gauge", "histogram", "meter", "micros"]

namespace Report

/-- Value lists of these kinds, all marked as withheld. -/
def markedLists (c : Context) (name : String) (lists : List (String × List Field)) : Report :=
  ⟨lists.map fun (kind, fields) => .values ⟨c.host, name, kind, c.interval, withheldTag, fields⟩, lists.length⟩

/-- The ways in which the report of a metric is put together. -/
inductive IsComposed (c : Context) (name : String) (o : Occasion) : Report → Prop
  | empty : IsComposed c name o .empty
  | plain {kind : String} (hk : kind ∈ valueKinds) (fields : List Field) :
      IsComposed c name o (values c name kind o.tags fields)
  | marked (lists : List (String × List Field)) (hl : lists ≠ []) (hk : ∀ l ∈ lists, l.1 ∈ valueKinds)
      (kind : InsightKind) (tags : List (String × String)) (payload : Payload) :
      IsComposed c name o (markedLists c name lists ++ unlessWithheld o (insight c name kind tags payload))

variable {c : Context} {name : String} {o : Occasion} {r : Report}

theorem isComposed_ofDistribution (count : UInt64) (s : Snapshot) :
    IsComposed c name o (ofDistribution c name count s o) :=
  .marked [("histogram", _)] (by simp) (by simp [valueKinds]) ..

theorem isComposed_ofMeter (count : UInt64) (rates : Rates) : IsComposed c name o (ofMeter c name count rates o) :=
  .marked [("meter", _)] (by simp) (by simp [valueKinds]) ..

theorem isComposed_ofBuckets {counts : List Int64} (h : ofBuckets c name counts o = .ok r) :
    IsComposed c name o r := by
  unfold ofBuckets at h
  split at h
  · cases h; exact .empty
  · obtain ⟨hist, _, h⟩ := exists_of_bind_eq_ok h
    obtain ⟨stats, _, h⟩ := exists_of_bind_eq_ok h
    split at h
    · cases h; exact .empty
    · obtain ⟨count, _, h⟩ := exists_of_bind_eq_ok h
      cases h
      exact .marked [("histogram", _)] (by simp) (by simp [valueKinds]) ..

theorem isComposed_ofTimer {count : UInt64} {rates : Rates} {s : Snapshot}
    (h : ofTimer c name count rates s o = .ok r) : IsComposed c name o r := by
  obtain ⟨counts, _, h⟩ := exists_of_bind_eq_ok h
  cases h
  cases counts with
  | none => exact .marked [("histogram", _), ("meter", _)] (by simp) (by simp [valueKinds]) ..
  | some counts =>
      exact .marked [("histogram", _), ("meter", _), ("micros", _)] (by simp) (by simp [valueKinds]) ..

theorem isComposed_report {m : Metric} (h : m.report c name o = .ok r) : IsComposed c name o r := by
  unfold Metric.report at h
  split at h
  · cases h; exact .plain (by decide) _
  · cases h; exact .plain (by decide) _
  · cases h; exact .plain (by decide) _
  · exact isComposed_ofBuckets h
  · cases h; exact .empty
  · obtain ⟨s, _, h⟩ := exists_of_bind_eq_ok h
    cases h
    exact isComposed_ofDistribution ..
  · obtain ⟨size, _, h⟩ := exists_of_bind_eq_ok h
    obtain ⟨s, _, h⟩ := exists_of_bind_eq_ok h
    cases h
    exact isComposed_ofDistribution ..
  · cases h; exact isComposed_ofMeter ..
  · obtain ⟨s, _, h⟩ := exists_of_bind_eq_ok h
    exact isComposed_ofTimer h

end Report

end MetricsAgent
