import MetricsAgent.Proofs.Json.Members
import MetricsAgent.Proofs.Line.Values
import MetricsAgent.Proofs.Report.Marking

/-!
# Counts in lines and in insights

Histograms, meters and timers count without a sign, and their insights tell the count as it is. Their lines have the
count as the first value, but as a number with a sign: half of the counts of 64 bits, the larger ones, come out
negative. The parts of a report all tell the same count (`TellsCount`), each in its way.
-/

namespace MetricsAgent

/-- The metric counts so many values or events. -/
inductive Metric.Counts : Metric → UInt64 → Prop
  | histogram (n : UInt64) (values : Distribution) : Counts (.histogram n values) n
  | estimated {h : Histogram} {n : UInt64} (hn : h.size = .ok n) : Counts (.estimated h) n
  | meter (n : UInt64) (rates : Rates) : Counts (.meter n rates) n
  | timer (n : UInt64) (rates : Rates) (durations : Distribution) : Counts (.timer n rates durations) n

/-! ## Where the count stands -/

/-- The first value of a line, as an integer. -/
def countOfLine? (line : String) : Option Int := do
  let fields ← fieldsOf? line
  let values ← fields.getLast?
  (← (partsAt ':' values)[1]?).toInt?

/-- The count in the data of an insight. -/
def Insight.count? (i : Insight) : Option Int :=
  match i.data with
  | some (.object members) =>
    match members.lookup "count" with
    | some (.number (.integer n)) => some n
    | _ => none
  | _ => none

theorem countOfLine?_encode {v : ValueList} {n : Int64} (ht : IsField v.tags)
    (hf : v.fields.head? = some (.integer n)) : countOfLine? v.command.encode = some n.toInt := by
  have hlast : ("PUTVAL" :: (partsAt ' ' v.path ++ [v.intervalField, v.tags, v.valuesField])).getLast?
      = some v.valuesField := by
    rw [List.getLast?_cons, List.getLast?_append]
    rfl
  have hpart : (partsAt ':' v.valuesField)[1]? = some (Field.integer n).text := by
    rw [ValueList.partsAt_valuesField, List.getElem?_cons_succ, List.getElem?_map, ← List.head?_eq_getElem?, hf]
    rfl
  simp only [countOfLine?, ValueList.fieldsOf?_encode ht, hlast, hpart, bind, Option.bind]
  rw [Field.text, Int.toString_eq_repr, Int.toInt?_repr]

/-- With a sign, the larger half of the numbers of 64 bits is negative. -/
theorem toInt_toInt64 (n : UInt64) :
    n.toInt64.toInt = if n.toNat < 2 ^ 63 then (n.toNat : Int) else n.toNat - 2 ^ 64 := by
  have hcond : n.toInt64.toInt = if 2 * n.toNat < 2 ^ 64 then (n.toNat : Int) else n.toNat - (2 ^ 64 : Nat) :=
    BitVec.toInt_eq_toNat_cond n.toBitVec
  rw [hcond]
  split <;> split <;> omega

/-! ## Parts of a report -/

def Payload.count : Payload → UInt64
  | .histogram count _ | .meter count _ _ | .timer count _ _ _ _ => count

theorem Payload.exists_members (p : Payload) :
    ∃ members, p.value = .object members ∧ members.lookup "count" = some (.ofInt p.count.toNat) := by
  -- No other member has this key.
  cases p <;> exact ⟨_, rfl, (Json.lookup_sortMembers (by simp) _).trans rfl⟩

theorem count?_ofMetric (now : Int) (name : String) (kind : InsightKind) (tags : List (String × String))
    (payload : Payload) : (Insight.ofMetric now name kind tags payload.value).count? = some (payload.count.toNat : Int) := by
  obtain ⟨members, hvalue, hcount⟩ := payload.exists_members
  simp only [Insight.count?, Insight.ofMetric, hvalue, hcount]
  rfl

namespace Report

/-- All values and insights of the report tell this count, the values with a sign. -/
structure TellsCount (n : UInt64) (r : Report) : Prop where
  values : ∀ v, .values v ∈ r.items → v.tags = withheldTag ∧ v.fields.head? = some (.integer n.toInt64)
  insight : ∀ i, .insight i ∈ r.items → i.count? = some (n.toNat : Int)

variable {c : Context} {name : String} {o : Occasion} {n : UInt64} {r s : Report}

namespace TellsCount

theorem empty : TellsCount n .empty := ⟨fun _ hv => (nomatch hv), fun _ hi => (nomatch hi)⟩

theorem append (hr : r.TellsCount n) (hs : s.TellsCount n) : (r ++ s).TellsCount n where
  values v hv := (List.mem_append.mp hv).elim (hr.values v) (hs.values v)
  insight i hi := (List.mem_append.mp hi).elim (hr.insight i) (hs.insight i)

theorem unlessWithheld (hr : r.TellsCount n) (o : Occasion) : (unlessWithheld o r).TellsCount n := by
  unfold Report.unlessWithheld
  split
  · exact empty
  · exact hr

theorem ofValues {kind : String} {fields : List Field} (hf : fields.head? = some (.integer n.toInt64)) :
    (Report.values c name kind withheldTag fields).TellsCount n where
  values v hv := by
    cases List.mem_singleton.mp hv
    exact ⟨rfl, hf⟩
  insight i hi := nomatch List.mem_singleton.mp hi

theorem ofInsight {kind : InsightKind} {tags : List (String × String)} (payload : Payload) (hp : payload.count = n) :
    (Report.insight c name kind tags payload).TellsCount n where
  values v hv := by simp [Report.insight] at hv
  insight i hi := by
    have hi : i = .ofMetric c.now name kind tags payload.value := by simpa [Report.insight] using hi
    rw [hi, count?_ofMetric, hp]

end TellsCount

/-- A report of values of the metric's own count begins with one of its lines, and all its parts tell the count. -/
theorem tellsCount_report {m : Metric} (hm : m.Counts n) (h : m.report c name o = .ok r) :
    r.TellsCount n ∧ ∃ v, .values v ∈ r.items := by
  have hdistribution (s : Snapshot) : (ofDistribution c name n s o).TellsCount n :=
    have hinsight : (insight c name .histogram c.tags (.histogram n s.stats)).TellsCount n := .ofInsight _ rfl
    (TellsCount.ofValues rfl).append (hinsight.unlessWithheld o)
  cases hm with
  | histogram _ values =>
      obtain ⟨s, _, h⟩ := exists_of_bind_eq_ok h
      cases h
      exact ⟨hdistribution s, _, List.mem_cons_self⟩
  | estimated hn =>
      obtain ⟨size, hsize, h⟩ := exists_of_bind_eq_ok h
      obtain ⟨s, _, h⟩ := exists_of_bind_eq_ok h
      cases hn.symm.trans hsize
      cases h
      exact ⟨hdistribution s, _, List.mem_cons_self⟩
  | meter _ rates =>
      cases h
      have hinsight : (insight c name .meter c.tags (.meter n (rates.stats c) c.rateUnit.text)).TellsCount n :=
        .ofInsight _ rfl
      exact ⟨(TellsCount.ofValues rfl).append (hinsight.unlessWithheld o), _, List.mem_cons_self⟩
  | timer _ rates durations =>
      obtain ⟨s, _, h⟩ := exists_of_bind_eq_ok h
      obtain ⟨counts, _, h⟩ := exists_of_bind_eq_ok h
      cases h
      have hlatencies : (counts.elim Report.empty (latencies c name n s.mean ·)).TellsCount n := by
        cases counts with
        | none => exact .empty
        | some counts => exact .ofValues rfl
      have hinsight : (insight c name .timer (timerTags c counts) (.timer n (s.durationStats c) (rates.stats c)
          c.rateUnit.text c.durationUnit.text)).TellsCount n := .ofInsight _ rfl
      exact ⟨(((TellsCount.ofValues rfl).append (.ofValues rfl)).append hlatencies).append
        (hinsight.unlessWithheld o), _, List.mem_cons_self⟩

theorem TellsCount.countOfLine? (h : r.TellsCount n) {v : ValueList} (hv : .values v ∈ r.items) :
    countOfLine? v.command.encode = some (if n.toNat < 2 ^ 63 then (n.toNat : Int) else n.toNat - 2 ^ 64) := by
  obtain ⟨htags, hfield⟩ := h.values v hv
  have hf : IsField withheldTag := by decide
  rw [countOfLine?_encode (htags ▸ hf) hfield, toInt_toInt64]

/-- A histogram, a meter or a timer is reported by lines, unless a table or a sum goes beyond 64 bits. Its insight
has the count that the metric shows. A line has this count exactly if it is one of 63 bits; otherwise the line has the
negative number that lies `2 ^ 64` below. -/
theorem counts_of_report {m : Metric} (hm : m.Counts n) (c : Context) (name : String) (o : Occasion) :
    match m.report c name o with
    | .error _ => ¬ m.Fits
    | .ok r => (∃ v, .values v ∈ r.items) ∧
        (∀ v, .values v ∈ r.items →
          (countOfLine? v.command.encode = some (n.toNat : Int) ↔ n.toNat < 2 ^ 63) ∧
          (2 ^ 63 ≤ n.toNat → countOfLine? v.command.encode = some ((n.toNat : Int) - 2 ^ 64))) ∧
        ∀ i, .insight i ∈ r.items → i.count? = some (n.toNat : Int) := by
  cases h : m.report c name o with
  | error f =>
      intro hfits
      obtain ⟨r, hr⟩ := returns_report hfits c name o
      cases h.symm.trans hr
  | ok r =>
      obtain ⟨htells, hvalues⟩ := tellsCount_report hm h
      refine ⟨hvalues, fun v hv => ?_, htells.insight⟩
      rw [htells.countOfLine? hv]
      constructor
      · rw [Option.some.injEq]
        split <;> omega
      · intro hle
        rw [if_neg (Nat.not_lt.mpr hle)]

/-- The largest count of 63 bits is the same in the three lines of a timer and in its insight. -/
theorem counts_of_report_latency :
    let c : Context := .ofIdentity ⟨"node", "", "", ""⟩ 30 .seconds .microseconds 0
    let m : Metric := .timer 9223372036854775807 ⟨1, 2, 3, 4⟩
      (.snapshot ⟨0, 0, 0, 0, 0, 0, 0, 1000, 2000, 1500, 0, [1, 2, 3], .bounds [10000, 50000, 100000]⟩)
    m.Counts 9223372036854775807 ∧
    ∃ r h v l i, m.report c "latency" .sample = .ok r ∧
      r.items = [.values h, .values v, .values l, .insight i, .flush] ∧
      (∀ line ∈ [h, v, l], countOfLine? line.command.encode = some 9223372036854775807) ∧
      i.count? = some 9223372036854775807 := by
  intro c m
  have hm : m.Counts 9223372036854775807 := .timer ..
  obtain ⟨_, hlines, hinsight⟩ := counts_of_report hm c "latency" .sample
  have hsmall : (9223372036854775807 : UInt64).toNat < 2 ^ 63 := by decide
  refine ⟨hm, _, _, _, _, _, rfl, rfl, fun line hline => ?_,
    hinsight _ (.tail _ (.tail _ (.tail _ List.mem_cons_self)))⟩
  refine (hlines line ?_).1.mpr hsmall
  rcases hline with _ | ⟨_, _ | ⟨_, _ | ⟨_, hline⟩⟩⟩
  · exact List.mem_cons_self
  · exact .tail _ List.mem_cons_self
  · exact .tail _ (.tail _ List.mem_cons_self)
  · exact nomatch hline

/-- One more is negative in the line of a meter. -/
theorem count_with_sign :
    let c : Context := .ofIdentity ⟨"node", "", "", ""⟩ 30 .seconds .microseconds 0
    ∃ r v i, (Metric.meter 9223372036854775808 ⟨0, 0, 0, 0⟩).report c "requests" .sample = .ok r ∧
      r.items = [.values v, .insight i, .flush] ∧
      countOfLine? v.command.encode = some (-9223372036854775808) ∧ i.count? = some 9223372036854775808 := by
  intro c
  have hr : (Metric.meter 9223372036854775808 ⟨0, 0, 0, 0⟩).report c "requests" .sample
      = .ok (ofMeter c "requests" 9223372036854775808 ⟨0, 0, 0, 0⟩ .sample) := rfl
  have htells := (tellsCount_report (.meter ..) hr).1
  have hsigned : (if (9223372036854775808 : UInt64).toNat < 2 ^ 63 then ((9223372036854775808 : UInt64).toNat : Int)
      else (9223372036854775808 : UInt64).toNat - 2 ^ 64) = -9223372036854775808 := by decide
  exact ⟨_, _, _, hr, rfl, hsigned ▸ htells.countOfLine? List.mem_cons_self,
    htells.insight _ (.tail _ List.mem_cons_self)⟩

end Report

end MetricsAgent
