import MetricsAgent.Proofs.Metric.Bounds
import MetricsAgent.Proofs.Report.Timers

/-!
# Values up to the edges of latency

A bound passes one edge at most. So the values up to an edge are counted in the buckets whose bounds are not
beyond it, but in more buckets than for the edge before (`reaches`). They are counted exactly if, whenever a bound
is beyond an edge, one is beyond it and not beyond the next edge (`Separates`), as is so in all tables.
-/

namespace MetricsAgent

namespace Latency

/-- How many bounds are not beyond the edge. -/
def within (edge : Int64) (bounds : List Int64) : Nat :=
  bounds.countP fun b => b.toInt ≤ edge.toInt * 1000

/-- In how many buckets the values up to each edge are counted, at least `least` for the first. -/
def reaches (bounds : List Int64) : Nat → List Int64 → List Nat
  | _, [] => []
  | least, edge :: later =>
    max (within edge bounds) least :: reaches bounds (max (within edge bounds) least + 1) later

/-- The number of values in the buckets whose bounds are not beyond the edge. -/
def countUpTo (edge : Int64) (buckets : List (Int64 × Int64)) : Int :=
  exactSum 0 ((buckets.filter fun b => b.1.toInt ≤ edge.toInt * 1000).map (·.2))

variable {bounds values : List Int64} {b : Int64}

/-! ## Buckets for each edge -/

theorem lt_of_rel {b b' : Int64} (h : (b :: bounds).Pairwise (· < ·)) (hb : b' ∈ bounds) : b.toInt < b'.toInt :=
  Int64.lt_iff_toInt_lt.mp (List.rel_of_pairwise_cons h hb)

theorem within_eq_zero {edge : Int64} (h : (b :: bounds).Pairwise (· < ·)) (hb : edge.toInt * 1000 < b.toInt) :
    within edge (b :: bounds) = 0 := by
  rw [within, List.countP_eq_zero]
  intro b' hb'
  rcases List.mem_cons.mp hb' with rfl | hb'
  · simpa using hb
  · have := lt_of_rel h hb'
    simp only [decide_eq_true_eq, Int.not_le]
    omega

theorem within_cons {edge : Int64} (hb : b.toInt ≤ edge.toInt * 1000) :
    within edge (b :: bounds) = within edge bounds + 1 := by
  simp [within, hb]

theorem reaches_cons_succ (h : (b :: bounds).Pairwise (· < ·)) (least : Nat) (es : List Int64) :
    reaches (b :: bounds) (least + 1) es = (reaches bounds least es).map (· + 1) := by
  induction es generalizing least with
  | nil => rfl
  | cons edge es ih =>
      have hmax : max (within edge (b :: bounds)) (least + 1) = max (within edge bounds) least + 1 := by
        rcases Int.lt_or_le (edge.toInt * 1000) b.toInt with hb | hb
        · have hzero := within_eq_zero h hb
          have hle : within edge bounds ≤ within edge (b :: bounds) := by simp [within, List.countP_cons]
          omega
        · rw [within_cons hb]
          omega
      rw [reaches, reaches, hmax, ih, List.map_cons]

theorem reaches_cons_of_le {edge : Int64} (h : (b :: bounds).Pairwise (· < ·))
    (hb : b.toInt ≤ edge.toInt * 1000) (es : List Int64) :
    reaches (b :: bounds) 0 (edge :: es) = (reaches bounds 0 (edge :: es)).map (· + 1) := by
  rw [reaches, reaches, within_cons hb, Nat.max_zero, Nat.max_zero, reaches_cons_succ h, List.map_cons]

theorem length_reaches (bounds : List Int64) (least : Nat) (es : List Int64) :
    (reaches bounds least es).length = es.length := by
  induction es generalizing least with
  | nil => rfl
  | cons edge es ih => rw [reaches, List.length_cons, List.length_cons, ih]

/-- With bounds in order, the numbers of an edge are counted in the buckets that it reaches. -/
theorem spans_eq_map_reaches (h : bounds.Pairwise (· < ·)) (es : List Int64) :
    spans bounds es = (reaches bounds 0 es).map (min · bounds.length) := by
  -- Each bound leaves the edges as they are, or passes the first of them.
  induction bounds generalizing es with
  | nil =>
      rw [spans, show passes [] es = [] from rfl]
      simp [length_reaches]
  | cons b bounds ih =>
      have hsucc (ms : List Nat) : (ms.map (· + 1)).map (min · (b :: bounds).length) =
          (ms.map (min · bounds.length)).map (· + 1) := by
        simp [Function.comp_def, Nat.add_min_add_right]
      cases es with
      | nil => rfl
      | cons edge es =>
          by_cases hlt : edge.toInt * 1000 < b.toInt
          · rw [spans_cons_of_lt hlt, ih h.of_cons, reaches, within_eq_zero h hlt, Nat.max_self,
              reaches_cons_succ h, List.map_cons, hsucc, Nat.zero_min]
          · rw [spans_cons_of_not_lt hlt, ih h.of_cons, reaches_cons_of_le h (Int.not_lt.mp hlt), hsucc]

/-! ## Exact counts -/

theorem countUpTo_eq (edge : Int64) (hb : bounds.Pairwise (· < ·)) (hl : values.length = bounds.length) :
    countUpTo edge (bounds.zip values) = exactSum 0 (values.take (within edge bounds)) := by
  induction bounds generalizing values with
  | nil => simp [countUpTo, within, exactSum]
  | cons b bounds ih =>
      obtain ⟨v, values, rfl⟩ := List.exists_cons_of_length_eq_add_one hl
      rcases Int.lt_or_le (edge.toInt * 1000) b.toInt with hlt | hle
      · have hnone : ((b :: bounds).zip (v :: values)).filter (fun x => x.1.toInt ≤ edge.toInt * 1000) = [] := by
          rw [List.filter_eq_nil_iff]
          intro x hx
          have hzero := within_eq_zero hb hlt
          rw [within, List.countP_eq_zero] at hzero
          exact hzero x.1 (List.of_mem_zip hx).1
        rw [countUpTo, hnone, within_eq_zero hb hlt]
        rfl
      · have ih := ih hb.of_cons (Nat.succ.inj hl)
        rw [countUpTo] at ih
        have hkept : ((b :: bounds).zip (v :: values)).filter (fun x => x.1.toInt ≤ edge.toInt * 1000) =
            (b, v) :: (bounds.zip values).filter fun x => x.1.toInt ≤ edge.toInt * 1000 :=
          List.filter_cons_of_pos (decide_eq_true hle)
        rw [countUpTo, hkept, List.map_cons, within_cons hle, List.take_succ_cons, exactSum_cons, exactSum_cons,
          exactSum_eq_add, ih, ← exactSum_eq_add]

/-- Whenever a bound is beyond an edge, one is beyond it and not beyond the next edge. -/
def Separates (bounds es : List Int64) : Prop :=
  es.IsChain fun e e' => (∃ b ∈ bounds, e.toInt * 1000 < b.toInt) →
    ∃ b ∈ bounds, e.toInt * 1000 < b.toInt ∧ b.toInt ≤ e'.toInt * 1000

theorem within_le_length (edge : Int64) (bounds : List Int64) : within edge bounds ≤ bounds.length :=
  List.countP_le_length

theorem within_eq_length_iff {edge : Int64} :
    within edge bounds = bounds.length ↔ ∀ b ∈ bounds, b.toInt ≤ edge.toInt * 1000 := by
  simp [within, List.countP_eq_length]

theorem within_mono {e e' : Int64} (h : e.toInt ≤ e'.toInt) (bounds : List Int64) :
    within e bounds ≤ within e' bounds := by
  refine List.countP_mono_left fun b _ hb => ?_
  simp only [decide_eq_true_eq] at hb ⊢
  omega

theorem within_lt_iff {e e' : Int64} (h : e.toInt ≤ e'.toInt) :
    within e bounds < within e' bounds ↔
      ∃ b ∈ bounds, e.toInt * 1000 < b.toInt ∧ b.toInt ≤ e'.toInt * 1000 := by
  induction bounds with
  | nil => simp [within]
  | cons b bounds ih =>
      have hmono := within_mono h bounds
      simp only [within, List.countP_cons, decide_eq_true_eq, List.exists_mem_cons_iff] at ih hmono ⊢
      rw [← ih]
      split <;> split <;> omega

/-- Where bounds separate the edges, each edge reaches the buckets up to it, or all there are. -/
theorem take_reaches {es : List Int64} (hes : es.IsChain (· < ·)) (hsep : Separates bounds es)
    (hl : values.length = bounds.length) {least : Nat}
    (hleast : ∀ e ∈ es.head?, within e bounds < least → within e bounds = bounds.length) :
    (reaches bounds least es).map (values.take ·) = es.map fun e => values.take (within e bounds) := by
  induction es generalizing least with
  | nil => rfl
  | cons edge es ih =>
      have hmax : values.take (max (within edge bounds) least) = values.take (within edge bounds) := by
        rcases Nat.lt_or_ge (within edge bounds) least with hlt | hle
        · have hall := hleast edge rfl hlt
          rw [List.take_of_length_le (by omega), List.take_of_length_le (by omega)]
        · rw [Nat.max_eq_left hle]
      rw [reaches, List.map_cons, List.map_cons, hmax, ih hes.tail hsep.tail]
      intro e he hlt
      obtain ⟨es, rfl⟩ := List.head?_eq_some_iff.mp he
      have hle : edge.toInt ≤ e.toInt := Int.le_of_lt (Int64.lt_iff_toInt_lt.mp hes.rel)
      have hmono := within_mono hle bounds
      have := within_le_length e bounds
      -- The next edge has buckets of its own, or all buckets are counted already.
      by_cases hbeyond : ∃ b ∈ bounds, edge.toInt * 1000 < b.toInt
      · have hfirst := (within_lt_iff hle).mpr (hsep.rel hbeyond)
        have := hleast edge rfl
        omega
      · have hall : within edge bounds = bounds.length := by
          rw [within_eq_length_iff]
          intro b hb
          exact Int.not_lt.mp fun h => hbeyond ⟨b, hb, h⟩
        omega

/-- An edge reaches beyond the buckets up to the edge before. -/
theorem within_lt_reach {es : List Int64} {least i m : Nat} {edge : Int64} (he : es[i]? = some edge)
    (hm : (reaches bounds least es)[i + 1]? = some m) : within edge bounds < m := by
  induction es generalizing least i with
  | nil => simp at he
  | cons e es ih =>
      rw [reaches, List.getElem?_cons_succ] at hm
      cases i with
      | succ i => exact ih he hm
      | zero =>
          cases he
          cases es with
          | nil => simp [reaches] at hm
          | cons e' es =>
              rw [reaches, List.getElem?_cons_zero, Option.some.injEq] at hm
              omega

def single (f g : Nat) : List Int64 := List.replicate f 0 ++ 1 :: List.replicate g 0

theorem exactSum_replicate_zero (start : Int) (k : Nat) : exactSum start (List.replicate k 0) = start := by
  induction k with
  | zero => rfl
  | succ k ih => rw [List.replicate_succ, exactSum_cons, Int64.toInt_zero, Int.add_zero, ih]

theorem exactSum_single (f g m : Nat) : exactSum 0 ((single f g).take m) = if m ≤ f then 0 else 1 := by
  rw [single, List.take_append, exactSum_append, List.take_replicate, exactSum_replicate_zero]
  split
  · rw [List.length_replicate, Nat.sub_eq_zero_of_le ‹m ≤ f›]
    rfl
  · obtain ⟨k, rfl⟩ := Nat.exists_eq_add_of_lt (Nat.lt_of_not_le ‹¬m ≤ f›)
    rw [List.length_replicate, Nat.add_assoc, Nat.add_sub_cancel_left, List.take_succ_cons, exactSum_cons,
      List.take_replicate, exactSum_replicate_zero]
    rfl

theorem sumsFit_single (f g : Nat) : SumsFit 0 (single f g) := by
  intro p hp
  rw [List.prefix_iff_eq_take.mp hp, Int64.toInt_zero, exactSum_single]
  split <;> decide

theorem separates_of_exact {es : List Int64} (hes : es.IsChain (· < ·))
    (h : ∀ values, values.length = bounds.length → SumsFit 0 values →
      (reaches bounds 0 es).map (fun m => exactSum 0 (values.take m)) =
        es.map fun e => exactSum 0 (values.take (within e bounds))) : Separates bounds es := by
  rw [Separates, List.isChain_iff_getElem]
  intro i hi hbeyond
  have hlt := Int64.lt_iff_toInt_lt.mp (List.isChain_iff_getElem.mp hes i hi)
  rw [← within_lt_iff (Int.le_of_lt hlt)]
  by_contra hsame
  have hfull : within es[i] bounds < bounds.length := by
    refine Nat.lt_of_le_of_ne (within_le_length ..) fun hall => ?_
    obtain ⟨b, hb, hlt⟩ := hbeyond
    have := within_eq_length_iff.mp hall b hb
    omega
  -- The edge reaches the bucket after those up to the edge before, which are also those up to itself.
  obtain ⟨g, hg⟩ := Nat.exists_eq_add_of_lt hfull
  have hi' : i + 1 < (reaches bounds 0 es).length := by rwa [length_reaches]
  have hreach := within_lt_reach (List.getElem?_eq_getElem (Nat.lt_of_succ_lt hi)) (List.getElem?_eq_getElem hi')
  have hsum := congrArg (·[i + 1]?) (h (single (within es[i] bounds) g) (by simp [single]; omega) (sumsFit_single _ _))
  simp only [List.getElem?_map, List.getElem?_eq_getElem hi, List.getElem?_eq_getElem hi', Option.map_some,
    Option.some.injEq, exactSum_single] at hsum
  rw [if_neg (by omega), if_pos (by omega)] at hsum
  cases hsum

/-! ## Tables -/

theorem exists_between_of_grows {e e' p : Int64} (he : 3 * (e.toInt * 1000) + 1 ≤ 2 * (e'.toInt * 1000))
    (hp : p.toInt ≤ e.toInt * 1000) (hg : (p :: bounds).IsChain Grows)
    (h : ∃ b ∈ bounds, e.toInt * 1000 < b.toInt) :
    ∃ b ∈ bounds, e.toInt * 1000 < b.toInt ∧ b.toInt ≤ e'.toInt * 1000 := by
  induction bounds generalizing p with
  | nil => obtain ⟨b, hb, _⟩ := h; cases hb
  | cons b bounds ih =>
      have hpb : Grows p b := hg.rel
      by_cases hb : e.toInt * 1000 < b.toInt
      · exact ⟨b, List.mem_cons_self .., hb, by have := hpb.2; omega⟩
      · obtain ⟨b', hb', hlt⟩ := h
        rcases List.mem_cons.mp hb' with rfl | hb'
        · exact absurd hlt hb
        · obtain ⟨x, hx, hbetween⟩ := ih (Int.not_lt.mp hb) hg.tail ⟨b', hb', hlt⟩
          exact ⟨x, List.mem_cons_of_mem _ hx, hbetween⟩

theorem separates_bucketBounds {n : Nat} (h : bucketBounds n = .ok bounds) : Separates bounds edges := by
  have hedges : edges.IsChain fun e e' =>
      1 ≤ e.toInt * 1000 ∧ 3 * (e.toInt * 1000) + 1 ≤ 2 * (e'.toInt * 1000) := by decide
  -- From a bound that is not beyond an edge, the next bound does not get beyond the next edge.
  refine hedges.imp fun e e' he hbeyond => ?_
  cases n with
  | zero => cases h; simp at hbeyond
  | succ n =>
      obtain ⟨rest, rfl⟩ := List.head?_eq_some_iff.mp (head?_bucketBounds h)
      have hrest : ∃ b ∈ rest, e.toInt * 1000 < b.toInt := by
        obtain ⟨b, hb, hlt⟩ := hbeyond
        rcases List.mem_cons.mp hb with rfl | hb
        · have := he.1
          rw [Int64.toInt_one] at hlt
          omega
        · exact ⟨b, hb, hlt⟩
      have hfirst : (1 : Int64).toInt ≤ e.toInt * 1000 := by rw [Int64.toInt_one]; exact he.1
      obtain ⟨b, hb, hbetween⟩ := exists_between_of_grows he.2 hfirst (isChain_bucketBounds h) hrest
      exact ⟨b, List.mem_cons_of_mem _ hb, hbetween⟩

end Latency

/-! ## Timers -/

def Snapshot.ofValues (layout : BucketLayout) (values : List Int64) : Snapshot where
  median := 0
  p75 := 0
  p90 := 0
  p95 := 0
  p98 := 0
  p99 := 0
  p999 := 0
  min := 0
  max := 0
  mean := 0
  stdDev := 0
  values := values
  layout := layout

def Context.bare : Context := .ofIdentity ⟨"", "", "", ""⟩ 0 .seconds .seconds 0

namespace Report

open Latency

def ofKind (kind : String) (r : Report) : List ValueList :=
  r.items.filterMap fun
    | .values v => if v.kind = kind then some v else none
    | .insight _ | .flush => none

/-- There is one value list of latencies, and it has these numbers between the count and the sum of the durations
and the number of all values. -/
def TellsLatencies (r : Report) (numbers : List Int) : Prop :=
  ∃ v count sum ns total, r.ofKind "micros" = [v] ∧
    v.fields = .integer count :: .float sum :: (ns ++ [total]).map .integer ∧ ns.map Int64.toInt = numbers

theorem TellsLatencies.unique {r : Report} {numbers numbers' : List Int} (h : r.TellsLatencies numbers)
    (h' : r.TellsLatencies numbers') : numbers = numbers' := by
  obtain ⟨v, _, _, ns, total, hv, hf, rfl⟩ := h
  obtain ⟨v', _, _, ns', total', hv', hf', rfl⟩ := h'
  cases hv.symm.trans hv'
  have hmap := (List.cons.inj (List.cons.inj (hf.symm.trans hf')).2).2
  have happ := List.map_injective_iff.mpr (fun _ _ h => Field.integer.inj h) hmap
  rw [(List.append_inj' happ rfl).1]

end Report

namespace Metric

open Latency Report

variable {s : Snapshot} {durations : Distribution} {bounds : List Int64}

theorem isChain_edges : edges.IsChain (· < ·) := by decide

theorem exists_report_timer (c : Context) (name : String) (count : UInt64) (rates : Rates) (o : Occasion)
    (hs : durations.toSnapshot = .ok s) (hb : boundsOf s.layout = .ok bounds) (hsorted : bounds.Pairwise (· < ·))
    (hl : s.values.length = bounds.length) (hsum : SumsFit 0 s.values) :
    ∃ r, (Metric.timer count rates durations).report c name o = .ok r ∧
      r.TellsLatencies ((reaches bounds 0 edges).map fun m => exactSum 0 (s.values.take m)) := by
  obtain ⟨counts, hc, hsums⟩ := exists_counts? hb hl hsum
  obtain ⟨h, m, data, hh, hm, hitems⟩ := exists_items c name count rates s o
  obtain ⟨r, hr, hri⟩ := hitems durations s.values s.layout _ hs hc
  refine ⟨r, hr, micros c name count s.mean counts, _, _, counts.perEdge, counts.total, ?_, rfl, ?_⟩
  · rw [ofKind, hri]
    unfold told
    cases o.isWithheld <;> simp [hh, hm, micros]
  · rw [hsums.perEdge, spans_eq_map_reaches hsorted, List.map_map]
    refine List.map_congr_left fun m _ => ?_
    rw [Function.comp_apply, ← hl, ← List.take_eq_take_min]

theorem reaches_eq_within (hsorted : bounds.Pairwise (· < ·)) (hsep : Separates bounds edges)
    (hl : s.values.length = bounds.length) :
    (reaches bounds 0 edges).map (fun m => exactSum 0 (s.values.take m)) =
      edges.map fun e => countUpTo e (bounds.zip s.values) := by
  have htake := take_reaches isChain_edges hsep hl fun e _ h => absurd h (Nat.not_lt_zero _)
  have hsum := congrArg (List.map (exactSum 0)) htake
  rw [List.map_map, List.map_map] at hsum
  refine hsum.trans (List.map_congr_left fun e _ => ?_)
  exact (countUpTo_eq e hsorted hl).symm

/-- The layout has the bounds of a table, its own or one that is taken for it. -/
def HasTable : BucketLayout → Prop
  | .decaying | .unknown => True
  | .bounds bounds => ∃ n, bucketBounds n = .ok bounds

theorem HasTable.exists_bounds {layout : BucketLayout} (h : HasTable layout) :
    ∃ n bounds, boundsOf layout = .ok bounds ∧ bucketBounds n = .ok bounds := by
  match layout, h with
  | .decaying, _ =>
      obtain ⟨bounds, hb, _⟩ := bucketBounds_eq_ok (n := decayingBounds) (by decide)
      exact ⟨_, bounds, hb, hb⟩
  | .unknown, _ =>
      obtain ⟨bounds, hb, _⟩ := bucketBounds_eq_ok (n := databaseBounds) (by decide)
      exact ⟨_, bounds, hb, hb⟩
  | .bounds bounds, ⟨n, hb⟩ => exact ⟨n, bounds, rfl, hb⟩

/-- A timer whose bounds are those of a table is reported with the number of values up to each edge, if there is
a value for each bound. -/
theorem latencies_of_table (hs : durations.toSnapshot = .ok s) (ht : HasTable s.layout) (c : Context)
    (name : String) (count : UInt64) (rates : Rates) (o : Occasion) :
    ∃ bounds, boundsOf s.layout = .ok bounds ∧
      (s.values.length = bounds.length → SumsFit 0 s.values →
        ∃ r, (Metric.timer count rates durations).report c name o = .ok r ∧
          r.TellsLatencies (edges.map fun e => countUpTo e (bounds.zip s.values))) := by
  obtain ⟨n, bounds, hb, htable⟩ := ht.exists_bounds
  refine ⟨bounds, hb, fun hl hsum => ?_⟩
  have hsorted := pairwise_bucketBounds htable
  rw [← reaches_eq_within hsorted (separates_bucketBounds htable) hl]
  exact exists_report_timer c name count rates o hs hb hsorted hl hsum

theorem latencies_of_table_unknown :
    let s : Snapshot := .ofValues .unknown (List.replicate 90 1)
    HasTable s.layout ∧ SumsFit 0 s.values ∧
      ∃ r, (Metric.timer 90 ⟨0, 0, 0, 0⟩ (.snapshot s)).report .bare "reads" .sample = .ok r ∧
        r.TellsLatencies [53, 56, 59, 62, 65, 68, 71, 74, 77, 80, 83, 86, 89, 90, 90, 90, 90, 90, 90, 90, 90, 90,
          90, 90, 90] := by
  have hfits : SumsFit 0 (List.replicate 90 1) := by decide
  have hnumbers : (boundsOf .unknown).toOption.map (fun bounds => (bounds.length,
      edges.map fun e => countUpTo e (bounds.zip (List.replicate 90 1)))) = some (90, [53, 56, 59, 62, 65, 68,
        71, 74, 77, 80, 83, 86, 89, 90, 90, 90, 90, 90, 90, 90, 90, 90, 90, 90, 90]) := by
    set_option maxRecDepth 1000 in decide
  have hs : (Distribution.snapshot (.ofValues .unknown (List.replicate 90 1))).toSnapshot = .ok _ := rfl
  obtain ⟨bounds, hb, hr⟩ := latencies_of_table hs trivial .bare "reads" 90 ⟨0, 0, 0, 0⟩ .sample
  have hb : boundsOf .unknown = .ok bounds := hb
  rw [hb] at hnumbers
  obtain ⟨hlength, hnumbers⟩ := Prod.mk.inj (Option.some.inj hnumbers)
  obtain ⟨r, hr, htold⟩ := hr hlength.symm hfits
  exact ⟨trivial, hfits, r, hr, hnumbers ▸ htold⟩

/-- The timers whose snapshots have these bounds, with a value for each, tell what `numbers` gives for the
values. -/
def TimersTell (bounds : List Int64) (numbers : List Int64 → List Int) : Prop :=
  ∀ ⦃durations : Distribution⦄ ⦃s : Snapshot⦄, durations.toSnapshot = .ok s → s.layout = .bounds bounds →
    s.values.length = bounds.length → SumsFit 0 s.values →
    ∀ (c : Context) (name : String) (count : UInt64) (rates : Rates) (o : Occasion),
      ∃ r, (Metric.timer count rates durations).report c name o = .ok r ∧ r.TellsLatencies (numbers s.values)

/-- With bounds in increasing order, each edge tells the values of the buckets that it reaches. Those are the
values up to the edge, whatever the values, if and only if the bounds separate the edges. -/
theorem latencies_of_bounds (hb : bounds.Pairwise (· < ·)) :
    TimersTell bounds (fun values => (reaches bounds 0 edges).map fun m => exactSum 0 (values.take m)) ∧
      (TimersTell bounds (fun values => edges.map fun e => countUpTo e (bounds.zip values)) ↔
        Separates bounds edges) := by
  have hreach : TimersTell bounds
      fun values => (reaches bounds 0 edges).map fun m => exactSum 0 (values.take m) := by
    intro durations s hs hlayout hl hsum c name count rates o
    exact exists_report_timer c name count rates o hs (by rw [hlayout, boundsOf]) hb hl hsum
  refine ⟨hreach, fun hexact => ?_, fun hsep durations s hs hlayout hl hsum c name count rates o => ?_⟩
  · refine separates_of_exact isChain_edges fun values hl hsum => ?_
    have hs : (Distribution.snapshot (.ofValues (.bounds bounds) values)).toSnapshot =
      .ok (.ofValues (.bounds bounds) values) := rfl
    obtain ⟨r, hr, htold⟩ := hreach hs rfl hl hsum .bare "" 0 ⟨0, 0, 0, 0⟩ .sample
    obtain ⟨r', hr', htold'⟩ := hexact hs rfl hl hsum .bare "" 0 ⟨0, 0, 0, 0⟩ .sample
    cases hr.symm.trans hr'
    refine (Report.TellsLatencies.unique htold htold').trans (List.map_congr_left fun e _ => ?_)
    exact countUpTo_eq e hb hl
  · obtain ⟨r, hr, htold⟩ := hreach hs hlayout hl hsum c name count rates o
    exact ⟨r, hr, Eq.subst (motive := r.TellsLatencies) (reaches_eq_within hb hsep hl) htold⟩

theorem latencies_of_bounds_separate :
    [30000, 36000].Pairwise (fun b b' : Int64 => b < b') ∧ Separates [30000, 36000] edges ∧
      TimersTell [30000, 36000] fun values => edges.map fun e => countUpTo e ([30000, 36000].zip values) := by
  have hb : [30000, 36000].Pairwise (fun b b' : Int64 => b < b') := by decide
  have hsep : Separates [30000, 36000] edges := by
    unfold Separates
    decide
  exact ⟨hb, hsep, (latencies_of_bounds hb).2.mpr hsep⟩

/-- The second bound is beyond fifteen edges and passes the first, so that its value is counted for all others. -/
theorem counted_beyond_edges :
    let bounds : List Int64 := [1000, 100000000]
    let values : List Int64 := [1, 1]
    bounds.Pairwise (· < ·) ∧ (∀ b ∈ bounds, 0 < b) ∧ values.length = bounds.length ∧ SumsFit 0 values ∧
      ∃ r, (Metric.timer 2 ⟨0, 0, 0, 0⟩ (.snapshot (.ofValues (.bounds bounds) values))).report .bare "reads"
          .sample = .ok r ∧ r.TellsLatencies (1 :: List.replicate 24 2) ∧
        ¬ r.TellsLatencies (edges.map fun e => countUpTo e (bounds.zip values)) := by
  have hb : [1000, 100000000].Pairwise (fun b b' : Int64 => b < b') := by decide
  have hfits : SumsFit 0 [1, 1] := by decide
  have hs : (Distribution.snapshot (.ofValues (.bounds [1000, 100000000]) [1, 1])).toSnapshot = .ok _ := rfl
  obtain ⟨r, hr, htold⟩ := exists_report_timer .bare "reads" 2 ⟨0, 0, 0, 0⟩ .sample hs rfl hb rfl hfits
  have hpos : ∀ b ∈ [1000, 100000000], (0 : Int64) < b := by
    rw [List.forall_mem_cons, List.forall_mem_singleton]
    decide
  refine ⟨hb, hpos, rfl, hfits, r, hr, htold, fun hexact => ?_⟩
  have hsame := htold.unique hexact
  revert hsame
  decide

end Metric

end MetricsAgent
