import Mathlib.Data.List.Forall2
import MetricsAgent.Proofs.Json.Members
import MetricsAgent.Proofs.Report.Cumulative

/-!
# Latencies as tags

The tags of a timer's insight have the number of all values. They have the number of an edge exactly if bounds
pass the edges up to it one after the other (`PassesInOrder`). The other edges hold all values too, but only the
value list tells so.
-/

namespace MetricsAgent

/-! ## Members by key -/

namespace Json

variable {α : Type}

theorem lookup_zip {keys : List String} (h : keys.Nodup) {i : Nat} (hi : i < keys.length) (values : List α) :
    (keys.zip values).lookup keys[i] = values[i]? := by
  induction keys generalizing values i with
  | nil => cases hi
  | cons k keys ih =>
      obtain ⟨hk, h⟩ := List.nodup_cons.mp h
      cases values with
      | nil => rfl
      | cons v values =>
          rw [List.zip_cons_cons, NameMap.lookup_cons]
          cases i with
          | zero => exact if_pos rfl
          | succ i =>
              have hi := Nat.lt_of_succ_lt_succ hi
              have hne : keys[i] ≠ k := fun he => hk (he ▸ List.getElem_mem hi)
              exact (if_neg hne).trans (ih h hi values)

end Json

namespace Latency

variable {bounds es : List Int64} {b e : Int64}

/-! ## Edges passed in order -/

/-- Bounds pass the edges one after the other: there is one beyond each edge, behind those for the edges before. -/
def PassesInOrder (bounds es : List Int64) : Prop :=
  ∃ passing, passing.Sublist bounds ∧ List.Forall₂ (fun e b => e.toInt * 1000 < b.toInt) es passing

theorem passesInOrder_cons_of_lt (hlt : e.toInt * 1000 < b.toInt) :
    PassesInOrder (b :: bounds) (e :: es) ↔ PassesInOrder bounds es := by
  constructor
  · rintro ⟨_, hsub, hpass⟩
    obtain ⟨x, passing, _, hrest, rfl⟩ := List.forall₂_cons_left_iff.mp hpass
    -- Whichever bound passes the edge, those for the other edges stand behind it.
    refine ⟨passing, ?_, hrest⟩
    cases hsub with
    | cons _ hsub => exact (List.sublist_cons_self x passing).trans hsub
    | cons_cons _ hsub => exact hsub
  · rintro ⟨passing, hsub, hpass⟩
    exact ⟨b :: passing, hsub.cons_cons b, .cons hlt hpass⟩

theorem passesInOrder_cons_of_not_lt (hlt : ¬ e.toInt * 1000 < b.toInt) :
    PassesInOrder (b :: bounds) (e :: es) ↔ PassesInOrder bounds (e :: es) := by
  constructor
  · rintro ⟨_, hsub, hpass⟩
    obtain ⟨x, passing, hx, _, rfl⟩ := List.forall₂_cons_left_iff.mp hpass
    cases hsub with
    | cons _ hsub => exact ⟨_, hsub, hpass⟩
    | cons_cons _ hsub => exact absurd hx hlt
  · rintro ⟨passing, hsub, hpass⟩
    exact ⟨passing, hsub.cons b, hpass⟩

/-- Counting passes as many edges as bounds can pass in order. -/
theorem le_length_passes_iff {k : Nat} (hk : k ≤ es.length) :
    k ≤ (passes bounds es).length ↔ PassesInOrder bounds (es.take k) := by
  -- Counting takes the first bound beyond an edge, which leaves the most bounds to the edges after it.
  fun_induction passes bounds es generalizing k with
  | case1 es =>
      constructor
      · intro h
        rw [Nat.le_zero.mp h]
        exact ⟨[], List.Sublist.refl _, .nil⟩
      · rintro ⟨passing, hsub, hpass⟩
        rw [List.sublist_nil.mp hsub, List.forall₂_nil_right_iff] at hpass
        rcases List.take_eq_nil_iff.mp hpass with rfl | rfl
        · exact Nat.le_refl _
        · exact hk
  | case2 b bounds =>
      rw [Nat.le_zero.mp hk]
      exact iff_of_true (Nat.le_refl _) ⟨[], List.nil_sublist _, .nil⟩
  | case3 b bounds e es hlt ih =>
      cases k with
      | zero => exact iff_of_true (Nat.zero_le _) ⟨[], List.nil_sublist _, .nil⟩
      | succ k =>
          rw [List.take_succ_cons, passesInOrder_cons_of_lt hlt, ← ih (Nat.le_of_succ_le_succ hk)]
          simp
  | case4 b bounds e es hlt ih =>
      rw [List.length_map, ih hk]
      cases k with
      | zero => exact iff_of_true ⟨[], List.nil_sublist _, .nil⟩ ⟨[], List.nil_sublist _, .nil⟩
      | succ k => rw [List.take_succ_cons, passesInOrder_cons_of_not_lt hlt]

/-- The bounds of a reservoir pass all edges, those of the database's own histograms about half. -/
example : (bucketBounds decayingBounds).toOption.map (fun bounds => (passes bounds edges).length) = some 25 ∧
    (bucketBounds databaseBounds).toOption.map (fun bounds => (passes bounds edges).length) = some 13 := by
  decide +kernel

/-! ## Tags -/

theorem nodup_names : (edges.map edgeName ++ [totalName]).Nodup := by decide

theorem tags_eq (c : Counts) :
    c.tags = (edges.map edgeName).zip (c.passed.map fun n => (Field.integer n).text) ++
      [(totalName, (Field.integer c.total).text)] := by
  rw [Counts.tags, List.zip_map]
  rfl

theorem nodup_keys_tags (c : Counts) : (c.tags.map (·.1)).Nodup := by
  rw [tags_eq, List.map_append]
  exact nodup_names.sublist ((map_fst_zip_isPrefix ..).sublist.append (List.Sublist.refl _))

theorem lookup_tags_edge (c : Counts) {k : Nat} (hk : k < edges.length) :
    c.tags.lookup (edgeName edges[k]) = c.passed[k]?.map fun n => (Field.integer n).text := by
  obtain ⟨hnames, _, hne⟩ := List.nodup_append.mp nodup_names
  have hne := hne _ (List.mem_map_of_mem (List.getElem_mem hk)) _ List.mem_cons_self
  have hzip := Json.lookup_zip hnames (hk.trans_eq (List.length_map _).symm)
    (c.passed.map fun n => (Field.integer n).text)
  rw [List.getElem_map, List.getElem?_map] at hzip
  rw [tags_eq, List.lookup_append, hzip, NameMap.lookup_cons, if_neg hne]
  exact Option.or_none

theorem lookup_tags_total (c : Counts) : c.tags.lookup totalName = some (Field.integer c.total).text := by
  rw [NameMap.lookup_eq_some_iff (nodup_keys_tags c), tags_eq]
  exact List.mem_append_right _ List.mem_cons_self

end Latency

namespace Report

open Latency

theorem lookup_timerTags {c : Context} (htags : c.tags.Pairwise (·.1 < ·.1)) (counts : Latency.Counts)
    (key : String) : (timerTags c (some counts)).lookup key = (counts.tags.lookup key).or (c.tags.lookup key) := by
  show (Json.sortMembers (c.tags ++ counts.tags)).lookup key = _
  rw [Json.sortMembers, List.foldl_append, Json.lookup_foldl_insertMember (nodup_keys_tags counts)]
  exact congrArg (fun sorted : List (String × String) => (counts.tags.lookup key).or (sorted.lookup key))
    (Json.sortMembers_of_pairwise htags)

variable {c : Context} {o : Occasion} {s : Snapshot} {durations : Distribution} {bounds : List Int64}

/-- A timer with a value for each bound is reported unless the values cannot be added up. The tags of its insight
agree with the value list of latencies on the number of all values, and on the number of an edge if the bounds pass
the edges up to it in order. Of any other edge the report adds no tag. -/
theorem latency_tags (hs : durations.toSnapshot = .ok s) (hb : boundsOf s.layout = .ok bounds)
    (hl : s.values.length = bounds.length) (htags : c.tags.Pairwise (·.1 < ·.1)) (ho : o.isWithheld = false)
    (name : String) (count : UInt64) (rates : Rates) :
    match (Metric.timer count rates durations).report c name o with
    | .error f => f = .overflow ∧ ¬ SumsFit 0 s.values
    | .ok r => SumsFit 0 s.values ∧ ∃ h m v i sum ns total,
        r.items = [.values h, .values m, .values v, .insight i, .flush] ∧
        h.kind = "histogram" ∧ m.kind = "meter" ∧ v.kind = "micros" ∧
        v.fields = .integer count.toInt64 :: .float sum :: (ns ++ [total]).map .integer ∧
        ns.length = edges.length ∧ i.tags.lookup totalName = some (Field.integer total).text ∧
        ∀ k edge n, edges[k]? = some edge → ns[k]? = some n →
          (PassesInOrder bounds (edges.take (k + 1)) →
            i.tags.lookup (edgeName edge) = some (Field.integer n).text) ∧
          (¬ PassesInOrder bounds (edges.take (k + 1)) →
            i.tags.lookup (edgeName edge) = c.tags.lookup (edgeName edge)) := by
  by_cases hsums : SumsFit 0 s.values
  · obtain ⟨counts, hc, hsum⟩ := exists_counts? hb hl hsums
    obtain ⟨h, m, data, hh, hm, hitems⟩ := exists_items c name count rates s o
    obtain ⟨r, hr, hri⟩ := hitems durations s.values s.layout _ hs hc
    rw [hr]
    refine ⟨hsums, h, m, micros c name count s.mean counts, .ofMetric c.now name .timer (timerTags c counts) data, _,
      counts.perEdge, counts.total, ?_, hh, hm, rfl, rfl, hsum.length_perEdge, ?_, fun k edge n hedge hn => ?_⟩
    · rw [hri, told, ho]
      rfl
    · exact (lookup_timerTags htags counts totalName).trans (by rw [lookup_tags_total]; rfl)
    · obtain ⟨hk, rfl⟩ := List.getElem?_eq_some_iff.mp hedge
      have hlookup := lookup_timerTags htags counts (edgeName edges[k])
      rw [lookup_tags_edge counts hk] at hlookup
      rw [← le_length_passes_iff (Nat.succ_le_of_lt hk), ← hsum.length_passed]
      -- The numbers begin with those of the edges that were passed.
      refine ⟨fun hpass => hlookup.trans ?_, fun hpass => hlookup.trans ?_⟩
      · rw [Counts.perEdge, List.getElem?_append_left hpass] at hn
        rw [hn]
        rfl
      · rw [List.getElem?_eq_none (Nat.not_lt.mp hpass)]
        rfl
  · have hreport : (Metric.timer count rates durations).report c name o = .error .overflow := by
      rw [Metric.report, hs]
      show ofTimer c name count rates s o = _
      rw [ofTimer, counts?_of_not_sumsFit hb hl hsums]
      rfl
    rw [hreport]
    exact ⟨rfl, hsums⟩

theorem latency_tags_reads :
    Context.bare.tags.Pairwise (·.1 < ·.1) ∧
      ∃ r i, ∃ ns : List Int64, ∃ n, (Metric.timer 6 ⟨0, 0, 0, 0⟩ (.snapshot (.ofValues
          (.bounds [10000, 50000, 100000]) [1, 2, 3]))).report .bare "reads" .sample = .ok r ∧
        .insight i ∈ r.items ∧ ns.length = edges.length ∧ ns[1]? = some n ∧
        i.tags.lookup (edgeName 60) = some (Field.integer n).text ∧
        i.tags.lookup (edgeName 103) = Context.bare.tags.lookup (edgeName 103) := by
  have htags : Context.bare.tags.Pairwise (·.1 < ·.1) := by decide
  have hsums : SumsFit 0 [1, 2, 3] := by decide
  have hpass : PassesInOrder [10000, 50000, 100000] (edges.take 2) := (le_length_passes_iff (by decide)).mp (by decide)
  have hpass' : ¬ PassesInOrder [10000, 50000, 100000] (edges.take 3) :=
    (le_length_passes_iff (by decide)).not.mp (by decide)
  have hs : (Distribution.snapshot (.ofValues (.bounds [10000, 50000, 100000]) [1, 2, 3])).toSnapshot = .ok _ := rfl
  have htold := latency_tags (o := .sample) hs rfl rfl htags rfl "reads" 6 ⟨0, 0, 0, 0⟩
  cases hr : (Metric.timer 6 ⟨0, 0, 0, 0⟩ (.snapshot (.ofValues (.bounds [10000, 50000, 100000]) [1, 2, 3]))).report
      .bare "reads" .sample with
  | error f =>
      rw [hr] at htold
      exact absurd hsums htold.2
  | ok r =>
      rw [hr] at htold
      obtain ⟨_, h, m, v, i, sum, ns, total, hitems, _, _, _, _, hlength, _, hedges⟩ := htold
      obtain ⟨n, hn⟩ : ∃ n, ns[1]? = some n := ⟨_, List.getElem?_eq_getElem (by rw [hlength]; decide)⟩
      obtain ⟨n', hn'⟩ : ∃ n, ns[2]? = some n := ⟨_, List.getElem?_eq_getElem (by rw [hlength]; decide)⟩
      refine ⟨htags, r, i, ns, n, rfl, by simp [hitems], hlength, hn, ?_, ?_⟩
      · exact (hedges 1 60 n rfl hn).1 hpass
      · exact (hedges 2 103 n' rfl hn').2 hpass'

/-- No bound passes the third edge. It holds all values, as the value list tells, but it is no tag. -/
theorem untagged_latency :
    ∃ r h m v i sum, (Metric.timer 6 ⟨0, 0, 0, 0⟩ (.snapshot (.ofValues (.bounds [10000, 50000, 100000])
        [1, 2, 3]))).report .bare "reads" .sample = .ok r ∧
      r.items = [.values h, .values m, .values v, .insight i, .flush] ∧
      v.fields = .integer 6 :: .float sum :: ([1, 3] ++ List.replicate 24 6 : List Int64).map .integer ∧
      edges[2]? = some 103 ∧ i.tags.lookup (edgeName 103) = none := by
  obtain ⟨h, m, data, _, _, hitems⟩ :=
    exists_items .bare "reads" 6 ⟨0, 0, 0, 0⟩ (.ofValues (.bounds [10000, 50000, 100000]) [1, 2, 3]) .sample
  have hc : counts? (.ofValues (.bounds [10000, 50000, 100000]) [1, 2, 3]) = .ok (some ⟨[1, 3], 6⟩) := by decide
  obtain ⟨r, hr, hri⟩ := hitems (.snapshot _) _ _ _ rfl hc
  have hnone : (timerTags .bare (some ⟨[1, 3], 6⟩)).lookup (edgeName 103) = none := by decide
  exact ⟨r, h, m, _, _, _, hr, hri, rfl, rfl, hnone⟩

end Report

end MetricsAgent
