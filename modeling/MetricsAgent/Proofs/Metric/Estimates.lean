import Mathlib.Order.Bounds.Defs
import MetricsAgent.Proofs.Metric.Bounds

/-!
# Estimates of added values

A histogram that was empty keeps, for each bucket, the number of the added values that fall into it (`Holds`).
Unless a value is above all bounds, its estimates are the least bounds above the values that they stand for.
-/

namespace MetricsAgent.Histogram

variable {h h' : Histogram} {values : List Int64} {v : Int64} {i : Nat}

/-! ## Places -/

theorem comesFirst_lt (hb : h.bounds.Pairwise (· < ·)) (v : Int64) :
    ComesFirst (fun b => decide (b < v)) h.bounds := by
  refine hb.imp fun hlt hv => ?_
  simp only [decide_eq_true_eq] at hv ⊢
  exact Int64.lt_trans hlt hv

theorem place_le_length (h : Histogram) (v : Int64) : h.place v ≤ h.bounds.length :=
  (List.takeWhile_prefix _).length_le

/-- The bounds before the place of a value are those below it. -/
theorem lt_place_iff (hb : h.bounds.Pairwise (· < ·)) (hi : i < h.bounds.length) :
    i < h.place v ↔ h.bounds[i] < v := by
  rw [place, (comesFirst_lt hb v).length_takeWhile, ← (comesFirst_lt hb v).getElem_iff hi, decide_eq_true_eq]

theorem getElem_le (hb : h.bounds.Pairwise (· < ·)) {j : Nat} (hi : i < h.bounds.length) (hj : j < h.bounds.length)
    (hij : i ≤ j) : h.bounds[i] ≤ h.bounds[j] := by
  rcases Nat.eq_or_lt_of_le hij with rfl | hlt
  · exact Int64.le_refl _
  · exact Int64.le_of_lt (List.pairwise_iff_getElem.mp hb i j hi hj hlt)

theorem place_eq_length_iff (hb : h.bounds.Pairwise (· < ·)) :
    h.place v = h.bounds.length ↔ ∀ b ∈ h.bounds, b < v := by
  rw [place, (comesFirst_lt hb v).length_takeWhile, List.countP_eq_length]
  simp

/-! ## Adding -/

def addAll (h : Histogram) (values : List Int64) : Except Fault Histogram := values.foldlM add h

/-- Each count is the number of the values in its bucket. -/
structure Holds (h : Histogram) (values : List Int64) : Prop where
  length_counts : h.counts.length = h.bounds.length + 1
  getElem?_counts : ∀ i ≤ h.bounds.length, h.counts[i]? = some (.ofNat (values.countP (h.place · = i)))

theorem holds_empty {n : Nat} (h0 : Histogram.empty n = .ok h) : bucketBounds n = .ok h.bounds ∧ h.Holds [] := by
  obtain ⟨bounds, hb, h0⟩ := exists_of_bind_eq_ok h0
  cases h0
  exact ⟨hb, List.length_replicate, fun i hi => List.getElem?_replicate_of_lt (Nat.lt_succ_of_le hi)⟩

theorem Holds.add (hh : h.Holds values) (v : Int64) :
    ∃ h', h.add v = .ok h' ∧ h'.bounds = h.bounds ∧ h'.Holds (values ++ [v]) := by
  have hplace := hh.getElem?_counts _ (h.place_le_length v)
  refine ⟨{ h with counts := h.counts.set (h.place v) (.ofNat (values.countP (h.place · = h.place v)) + 1) },
    by rw [Histogram.add, hplace], rfl, ?_, fun i hi => ?_⟩
  · rw [List.length_set, hh.length_counts]
  · show (h.counts.set _ _)[i]? = some (.ofNat ((values ++ [v]).countP (h.place · = i)))
    rw [List.getElem?_set, List.countP_append, List.countP_singleton]
    by_cases he : h.place v = i
    · have hlt : h.place v < h.counts.length := by rw [hh.length_counts, he]; exact Nat.lt_succ_of_le hi
      simp [he, he ▸ hlt, Int64.ofNat_add]
    · simp [he, hh.getElem?_counts i hi]

theorem Holds.addAll (hh : h.Holds values) (more : List Int64) :
    ∃ h', h.addAll more = .ok h' ∧ h'.bounds = h.bounds ∧ h'.Holds (values ++ more) := by
  induction more generalizing h values with
  | nil => exact ⟨h, rfl, rfl, by rwa [List.append_nil]⟩
  | cons v more ih =>
      obtain ⟨next, hn, hb, hnext⟩ := hh.add v
      obtain ⟨h', ha, hb', hh'⟩ := ih hnext
      refine ⟨h', ?_, hb'.trans hb, ?_⟩
      · rw [Histogram.addAll, List.foldlM_cons, hn]
        exact ha
      · rwa [List.append_assoc] at hh'

/-! ## Numbers of values -/

theorem countP_lt_succ (values : List Int64) (f : Int64 → Nat) (m : Nat) :
    values.countP (f · < m + 1) = values.countP (f · < m) + values.countP (f · = m) := by
  induction values with
  | nil => rfl
  | cons v values ih =>
      simp only [List.countP_cons, ih, decide_eq_true_eq]
      split <;> split <;> split <;> omega

theorem isInt64_of_le {m n : Nat} (hn : IsInt64 n) (h : m ≤ n) : IsInt64 m :=
  ⟨Int.le_trans (by decide) (Int.natCast_nonneg m), Int.le_trans (Int.ofNat_le.mpr h) hn.2⟩

theorem toInt_ofNat {n : Nat} (hn : IsInt64 n) : (Int64.ofNat n).toInt = n := by
  have hmax := hn.2
  rw [Int64.toInt_maxValue] at hmax
  exact Int64.toInt_ofNat_of_lt (by omega)

theorem isInt64_countP (hn : IsInt64 values.length) (p : Int64 → Bool) : IsInt64 (values.countP p) :=
  isInt64_of_le hn List.countP_le_length

theorem pos_ofNat_countP_iff (hn : IsInt64 values.length) {p : Int64 → Bool} :
    0 < Int64.ofNat (values.countP p) ↔ ∃ v ∈ values, p v = true := by
  rw [Int64.lt_iff_toInt_lt, toInt_ofNat (isInt64_countP hn p), Int64.toInt_zero, Int.natCast_pos,
    List.countP_pos_iff]

/-! ## Ranks -/

/-- The value of a rank, which is 1 for the smallest. -/
def ranked? (values : List Int64) (rank : Nat) : Option Int64 :=
  (values.mergeSort fun v w => decide (v ≤ w))[rank - 1]?

theorem le_iff_of_ranked? {rank : Nat} {x b : Int64} (hx : ranked? values rank = some x) (hr : 1 ≤ rank) :
    x ≤ b ↔ rank ≤ values.countP (· ≤ b) := by
  have hsorted : (values.mergeSort fun v w => decide (v ≤ w)).Pairwise fun v w => decide (v ≤ w) = true :=
    List.pairwise_mergeSort (fun u v w => by simpa using Int64.le_trans)
      (fun v w => by simpa using Int64.le_total v w) values
  have hfirst : ComesFirst (fun v => decide (v ≤ b)) (values.mergeSort fun v w => decide (v ≤ w)) := by
    refine hsorted.imp fun hvw hw => ?_
    simp only [decide_eq_true_eq] at hvw hw ⊢
    exact Int64.le_trans hvw hw
  obtain ⟨hlt, rfl⟩ := List.getElem?_eq_some_iff.mp hx
  rw [← decide_eq_true_eq (p := _ ≤ b), hfirst.getElem_iff hlt, (List.mergeSort_perm ..).countP_eq]
  omega

theorem exists_ranked? {rank : Nat} (h : 1 ≤ rank) (hle : rank ≤ values.length) :
    ∃ x, ranked? values rank = some x := by
  refine ⟨_, List.getElem?_eq_getElem ?_⟩
  rw [(List.mergeSort_perm ..).length_eq]
  omega

/-- A rank that is not counted yet lies in the bucket with which the count comes to it. -/
theorem exists_boundOfRank {rank seen : Int64} {buckets : List (Int64 × Int64)}
    (hs : SumsFit seen (buckets.map (·.2))) (hlow : seen < rank)
    (hhigh : rank.toInt ≤ exactSum seen.toInt (buckets.map (·.2))) :
    ∃ i, ∃ hi : i < buckets.length, boundOfRank rank seen buckets = .ok buckets[i].1 ∧
      exactSum seen.toInt ((buckets.map (·.2)).take i) < rank.toInt ∧
      rank.toInt ≤ exactSum seen.toInt ((buckets.map (·.2)).take (i + 1)) := by
  induction buckets generalizing seen with
  | nil => exact absurd hhigh (Int.not_le.mpr (Int64.lt_iff_toInt_lt.mp hlow))
  | cons x rest ih =>
      obtain ⟨next, hn, hrest⟩ := hs.checkedAdd_eq_ok
      have hnext := toInt_of_checkedAdd hn
      have hcons (ns : List Int64) : exactSum seen.toInt (x.2 :: ns) = exactSum next.toInt ns := by
        rw [exactSum_cons, hnext]
      have hstep : boundOfRank rank seen (x :: rest) =
          if rank ≤ next then .ok x.1 else boundOfRank rank next rest := by
        rw [boundOfRank, hn]
        rfl
      by_cases hle : rank ≤ next
      · refine ⟨0, Nat.succ_pos _, by rw [hstep, if_pos hle]; rfl, Int64.lt_iff_toInt_lt.mp hlow, ?_⟩
        rw [List.map_cons, List.take_succ_cons, hcons]
        exact Int64.le_iff_toInt_le.mp hle
      · have hhigh' := hhigh
        rw [List.map_cons, hcons] at hhigh'
        obtain ⟨i, hi, hbound, hbelow, habove⟩ := ih hrest (Int64.not_le.mp hle) hhigh'
        refine ⟨i + 1, Nat.succ_lt_succ hi, by rw [hstep, if_neg hle]; exact hbound, ?_, ?_⟩
        · rwa [List.map_cons, List.take_succ_cons, hcons]
        · rwa [List.map_cons, List.take_succ_cons, hcons]

theorem exists_find?_reverse {α : Type} {p : α → Bool} {l : List α} (h : ∃ x ∈ l, p x = true) :
    ∃ i, ∃ hi : i < l.length, l.reverse.find? p = some l[i] ∧ p l[i] = true ∧
      ∀ j (hj : j < l.length), p l[j] = true → j ≤ i := by
  induction l using List.reverseRecOn with
  | nil => simp at h
  | append_singleton l a ih =>
      cases ha : p a with
      | true =>
          refine ⟨l.length, by simp, by simp [ha], by simp [ha], fun j hj _ => ?_⟩
          rw [List.length_append, List.length_singleton] at hj
          omega
      | false =>
          have hl : ∃ x ∈ l, p x = true := by
            obtain ⟨x, hx, hp⟩ := h
            rcases List.mem_append.mp hx with hx | hx
            · exact ⟨x, hx, hp⟩
            · cases List.mem_singleton.mp hx
              exact absurd hp (by simp [ha])
          obtain ⟨i, hi, hfind, hp, hlast⟩ := ih hl
          refine ⟨i, by simp; omega, by simp [ha, hfind, List.getElem_append_left hi],
            by rwa [List.getElem_append_left hi], fun j hj hpj => ?_⟩
          by_cases hjl : j < l.length
          · rw [List.getElem_append_left hjl] at hpj
            exact hlast j hjl hpj
          · rw [List.getElem_append_right (Nat.le_of_not_lt hjl)] at hpj
            simp [ha] at hpj

/-! ## Estimates -/

namespace Holds

/-- The first counts are those of the values that fall into the first buckets. -/
theorem exactSum_take (hh : h.Holds values) (hn : IsInt64 values.length) {m : Nat}
    (hm : m ≤ h.bounds.length + 1) : exactSum 0 (h.counts.take m) = values.countP (h.place · < m) := by
  induction m with
  | zero => simp [exactSum]
  | succ m ih =>
      rw [List.take_add_one, hh.getElem?_counts m (Nat.le_of_succ_le_succ hm), exactSum_append,
        ih (Nat.le_of_succ_le hm), countP_lt_succ]
      simp [exactSum, toInt_ofNat (isInt64_countP hn _)]

theorem sumsFit (hh : h.Holds values) (hn : IsInt64 values.length) : SumsFit 0 h.counts := by
  intro p hp
  rw [List.prefix_iff_eq_take.mp hp, Int64.toInt_zero, hh.exactSum_take hn (hh.length_counts ▸ hp.length_le)]
  exact isInt64_countP hn _

theorem count_eq (hh : h.Holds values) (hn : IsInt64 values.length) : h.count = .ok (.ofNat values.length) := by
  obtain ⟨sum, hs⟩ := (hh.sumsFit hn).returns_foldlM
  have hall : values.countP (h.place · < h.bounds.length + 1) = values.length :=
    List.countP_eq_length.mpr fun v _ => decide_eq_true (Nat.lt_succ_of_le (h.place_le_length v))
  have hsum := toInt_of_foldlM hs
  rw [Int64.toInt_zero, ← List.take_length (l := h.counts), hh.length_counts, hh.exactSum_take hn (Nat.le_refl _),
    hall, ← toInt_ofNat hn] at hsum
  rw [Histogram.count, checkedSum, hs, Int64.toInt_inj.mp hsum]

theorem isOverflowed_iff (hh : h.Holds values) (hn : IsInt64 values.length) (hb : h.bounds.Pairwise (· < ·)) :
    h.isOverflowed = true ↔ ∃ v ∈ values, ∀ b ∈ h.bounds, b < v := by
  rw [isOverflowed, List.getLast?_eq_getElem?, hh.length_counts, Nat.add_sub_cancel,
    hh.getElem?_counts _ (Nat.le_refl _), Option.any_some, decide_eq_true_eq, pos_ofNat_countP_iff hn]
  simp only [decide_eq_true_eq, place_eq_length_iff hb]

theorem isOverflowed_eq_false (hh : h.Holds values) (hn : IsInt64 values.length) (hb : h.bounds.Pairwise (· < ·))
    (hin : ∀ v ∈ values, ∃ b ∈ h.bounds, v ≤ b) : h.isOverflowed = false := by
  rw [← Bool.not_eq_true, hh.isOverflowed_iff hn hb]
  rintro ⟨v, hv, habove⟩
  obtain ⟨b, hmem, hle⟩ := hin v hv
  exact Int64.not_lt.mpr hle (habove b hmem)

theorem place_lt (hin : ∀ v ∈ values, ∃ b ∈ h.bounds, v ≤ b) (hb : h.bounds.Pairwise (· < ·)) (hv : v ∈ values) :
    h.place v < h.bounds.length := by
  refine Nat.lt_of_le_of_ne (h.place_le_length v) fun he => ?_
  obtain ⟨b, hmem, hle⟩ := hin v hv
  exact Int64.not_lt.mpr hle ((place_eq_length_iff hb).mp he b hmem)

theorem countP_place_lt_succ (hb : h.bounds.Pairwise (· < ·)) (hi : i < h.bounds.length) (values : List Int64) :
    values.countP (h.place · < i + 1) = values.countP (· ≤ h.bounds[i]) := by
  refine List.countP_congr fun v _ => ?_
  rw [decide_eq_true_eq, decide_eq_true_eq, Nat.lt_succ_iff, ← Nat.not_lt, lt_place_iff hb hi, Int64.not_lt]

theorem map_snd_buckets (hh : h.Holds values) : h.buckets.map (·.2) = h.counts.take h.bounds.length := by
  rw [buckets, List.zip_eq_zip_take_min, List.map_snd_zip (by simp), hh.length_counts, Nat.min_eq_left (by omega)]

/-- The bound of a rank is the least one that is not below the value of the rank. -/
theorem isLeast_boundOfRank (hh : h.Holds values) (hn : IsInt64 values.length) (hb : h.bounds.Pairwise (· < ·))
    (hin : ∀ v ∈ values, ∃ b ∈ h.bounds, v ≤ b) {rank : Int64} (hlow : 0 < rank)
    (hhigh : rank.toInt ≤ values.length) :
    ∃ b x, boundOfRank rank 0 h.buckets = .ok b ∧ ranked? values rank.toInt.toNat = some x ∧
      IsLeast {b | b ∈ h.bounds ∧ x ≤ b} b := by
  have hmap := map_snd_buckets hh
  have hall : values.countP (h.place · < h.bounds.length) = values.length :=
    List.countP_eq_length.mpr fun v hv => decide_eq_true (place_lt hin hb hv)
  have hsum : rank.toInt ≤ exactSum (0 : Int64).toInt (h.buckets.map (·.2)) := by
    rw [hmap, Int64.toInt_zero, hh.exactSum_take hn (Nat.le_succ _), hall]
    exact hhigh
  obtain ⟨i, hi, hbound, hbelow, habove⟩ :=
    exists_boundOfRank (hmap ▸ (hh.sumsFit hn).of_isPrefix (List.take_prefix ..)) hlow hsum
  have hi : i < h.bounds.length := by
    rw [buckets, List.length_zip] at hi
    exact Nat.lt_of_lt_of_le hi (Nat.min_le_left ..)
  rw [hmap, List.take_take, Nat.min_eq_left (Nat.le_of_lt hi), Int64.toInt_zero, hh.exactSum_take hn (by omega)]
    at hbelow
  rw [hmap, List.take_take, Nat.min_eq_left hi, Int64.toInt_zero, hh.exactSum_take hn (by omega),
    countP_place_lt_succ hb hi] at habove
  have hpos := Int64.lt_iff_toInt_lt.mp hlow
  rw [Int64.toInt_zero] at hpos
  obtain ⟨x, hx⟩ : ∃ x, ranked? values rank.toInt.toNat = some x := exists_ranked? (by omega) (by omega)
  -- The bound is not below `x` since the rank is counted with it, and no earlier bound is since it was not before.
  have hrank {b : Int64} := le_iff_of_ranked? (b := b) hx (by omega)
  refine ⟨h.bounds[i], x, ?_, hx, ⟨List.getElem_mem hi, hrank.mpr (by omega)⟩, fun b ⟨hmem, hle⟩ => ?_⟩
  · rw [hbound]
    simp [buckets]
  · obtain ⟨j, hj, rfl⟩ := List.getElem_of_mem hmem
    refine getElem_le hb hi hj (Nat.not_lt.mp fun hji => ?_)
    have hmono : values.countP (h.place · < j + 1) ≤ values.countP (h.place · < i) :=
      List.countP_mono_left fun v _ hv => by simp only [decide_eq_true_eq] at hv ⊢; omega
    have hcount := hrank.mp hle
    rw [← countP_place_lt_succ hb hj] at hcount
    omega

theorem pos_counts_iff (hh : h.Holds values) (hn : IsInt64 values.length) (hi : i < h.counts.length) :
    0 < h.counts[i] ↔ ∃ v ∈ values, h.place v = i := by
  have hget := hh.getElem?_counts i (by rw [hh.length_counts] at hi; omega)
  rw [List.getElem?_eq_getElem hi, Option.some.injEq] at hget
  simp only [hget, pos_ofNat_countP_iff hn, decide_eq_true_eq]

theorem isLeast_max (hh : h.Holds values) (hn : IsInt64 values.length) (hb : h.bounds.Pairwise (· < ·))
    (hin : ∀ v ∈ values, ∃ b ∈ h.bounds, v ≤ b) (hne : values ≠ []) :
    IsLeast {b | b ∈ h.bounds ∧ ∀ v ∈ values, v ≤ b} h.max := by
  have hover := hh.isOverflowed_eq_false hn hb hin
  have hlength : h.buckets.length = h.bounds.length := by
    rw [buckets, List.length_zip, hh.length_counts, Nat.min_eq_left (Nat.le_succ _)]
  have hpos {j : Nat} (hj : j < h.buckets.length) :
      decide (0 < h.buckets[j].2) = true ↔ ∃ v ∈ values, h.place v = j := by
    have hj' : j < h.counts.length := by rw [hh.length_counts]; omega
    rw [decide_eq_true_eq, ← hh.pos_counts_iff hn hj']
    simp [buckets]
  have hsome : ∃ x ∈ h.buckets, decide (0 < x.2) = true := by
    obtain ⟨v, hv⟩ := List.exists_mem_of_ne_nil values hne
    have hlt := hlength ▸ place_lt hin hb hv
    exact ⟨_, List.getElem_mem hlt, (hpos hlt).mpr ⟨v, hv, rfl⟩⟩
  obtain ⟨i, hi, hfind, hheld, hlast⟩ := exists_find?_reverse hsome
  have hi' := hlength ▸ hi
  have hmax : h.max = h.bounds[i] := by
    rw [Histogram.max, hover, hfind]
    simp [buckets]
  rw [hmax]
  refine ⟨⟨List.getElem_mem hi', fun v hv => ?_⟩, fun b ⟨hmem, habove⟩ => ?_⟩
  · have hlt := hlength ▸ place_lt hin hb hv
    have hle := hlast _ hlt ((hpos hlt).mpr ⟨v, hv, rfl⟩)
    exact Int64.not_lt.mp fun h => Nat.not_lt.mpr hle ((lt_place_iff hb hi').mpr h)
  · obtain ⟨j, hj, rfl⟩ := List.getElem_of_mem hmem
    obtain ⟨v, hv, rfl⟩ := (hpos hi).mp hheld
    refine getElem_le hb hi' hj (Nat.not_lt.mp fun hlt => ?_)
    exact Int64.not_lt.mpr (habove v hv) ((lt_place_iff hb hj).mp hlt)

theorem exists_min (hh : h.Holds values) (hn : IsInt64 values.length) (hb : h.bounds.Pairwise (· < ·)) :
    ∃ m, h.min = .ok m ∧ ((∀ v ∈ values, 0 ≤ v) → ∀ v ∈ values, m ≤ v) := by
  unfold Histogram.min
  split
  · exact ⟨0, rfl, id⟩
  · exact ⟨0, rfl, id⟩
  · rename_i i hfind
    obtain ⟨hi, hheld, hfirst⟩ := List.findIdx?_eq_some_iff_getElem.mp hfind
    have hi' : i < h.bounds.length := by rw [hh.length_counts] at hi; omega
    have habove (v : Int64) (hv : v ∈ values) : h.bounds[i] < v := by
      rw [← lt_place_iff hb hi']
      refine Nat.lt_of_not_le fun hle => ?_
      have hlt : h.place v < h.counts.length := by omega
      exact hfirst _ (Nat.lt_succ_of_le hle) (decide_eq_true ((hh.pos_counts_iff hn hlt).mpr ⟨v, hv, rfl⟩))
    obtain ⟨v, hv, _⟩ := (hh.pos_counts_iff hn hi).mp (of_decide_eq_true hheld)
    have hmax := Int64.lt_of_lt_of_le (habove v hv) (Int64.le_maxValue v)
    obtain ⟨m, hm, he⟩ := checked_eq_ok (isInt64_add_one hmax)
    rw [List.getElem?_eq_getElem hi']
    refine ⟨m, hm, fun _ w hw => ?_⟩
    have hlt := Int64.lt_iff_toInt_lt.mp (habove w hw)
    rw [Int64.le_iff_toInt_le, he, Int64.toInt_one]
    omega

end Holds

/-- What a histogram tells of values of which none is above all bounds. -/
structure Estimates (h : Histogram) (values : List Int64) : Prop where
  count : h.count = .ok (.ofNat values.length)
  quantile : ∀ q, 0 < rank (.ofNat values.length) q → rank (.ofNat values.length) q ≤ .ofNat values.length →
    ∃ b x, h.quantile q = .ok (.ok b) ∧ ranked? values (rank (.ofNat values.length) q).toInt.toNat = some x ∧
      IsLeast {b | b ∈ h.bounds ∧ x ≤ b} b
  max : IsLeast {b | b ∈ h.bounds ∧ ∀ v ∈ values, v ≤ b} h.max
  min : ∃ m, h.min = .ok m ∧ ((∀ v ∈ values, 0 ≤ v) → ∀ v ∈ values, m ≤ v)

/-- What it tells of values of which one is. -/
structure GivesUp (h : Histogram) : Prop where
  quantile : ∀ q, h.quantile q = .ok (.error .overflowed)
  mean : h.mean = .error .overflowed
  max : h.max = Int64.maxValue

theorem Holds.estimates (hh : h.Holds values) (hn : IsInt64 values.length) (hb : h.bounds.Pairwise (· < ·))
    (hin : ∀ v ∈ values, ∃ b ∈ h.bounds, v ≤ b) (hne : values ≠ []) : h.Estimates values where
  count := hh.count_eq hn
  quantile := by
    intro q hlow hhigh
    have hle := Int64.le_iff_toInt_le.mp hhigh
    rw [toInt_ofNat hn] at hle
    obtain ⟨b, x, hbound, hx, hleast⟩ := hh.isLeast_boundOfRank hn hb hin hlow hle
    refine ⟨b, x, ?_, hx, hleast⟩
    have hzero : rank (.ofNat values.length) q ≠ 0 := fun he => by
      rw [he] at hlow
      exact absurd hlow (by decide)
    rw [Histogram.quantile, hh.isOverflowed_eq_false hn hb hin, hh.count_eq hn]
    show (if rank (.ofNat values.length) q = 0 then _ else _) = _
    rw [if_neg hzero, hbound]
    rfl
  max := hh.isLeast_max hn hb hin hne
  min := hh.exists_min hn hb

theorem GivesUp.of_isOverflowed (h : Histogram) (hover : h.isOverflowed = true) : h.GivesUp where
  quantile q := by rw [Histogram.quantile, hover]; rfl
  mean := by rw [Histogram.mean, hover]; rfl
  max := by rw [Histogram.max, hover]; rfl

/-- Values that are added to an empty histogram, as many as a count can tell: unless one is above all bounds, the
histogram tells their number, a bound below all of them that are not negative, and the least bounds that are not
below the value of a rank, or any value; else that it cannot tell. -/
theorem estimates_of_added {n : Nat} {start : Histogram} (hs : Histogram.empty n = .ok start) (hne : values ≠ [])
    (hn : IsInt64 values.length) :
    ∃ h, start.addAll values = .ok h ∧ bucketBounds n = .ok h.bounds ∧
      ((∀ v ∈ values, ∃ b ∈ h.bounds, v ≤ b) → h.Estimates values) ∧
      ((∃ v ∈ values, ∀ b ∈ h.bounds, b < v) → h.GivesUp) := by
  obtain ⟨hbounds, hempty⟩ := holds_empty hs
  obtain ⟨h, ha, he, hh⟩ := hempty.addAll values
  rw [List.nil_append] at hh
  rw [← he] at hbounds
  have hb := pairwise_bucketBounds hbounds
  exact ⟨h, ha, hbounds, fun hin => hh.estimates hn hb hin hne,
    fun habove => .of_isOverflowed h ((hh.isOverflowed_iff hn hb).mpr habove)⟩

theorem estimates_of_added_latencies :
    Histogram.empty 10 = .ok ⟨[1, 2, 3, 4, 5, 6, 7, 8, 10, 12], List.replicate 11 0⟩ ∧
      [9, 10, 1] ≠ ([] : List Int64) ∧ IsInt64 (3 : Nat) ∧
      ∃ h, (Histogram.mk [1, 2, 3, 4, 5, 6, 7, 8, 10, 12] (List.replicate 11 0)).addAll [9, 10, 1] = .ok h ∧
        h.count = .ok 3 ∧ 0 < rank 3 0.5 ∧ rank 3 0.5 ≤ 3 ∧
        ∃ b, h.quantile 0.5 = .ok (.ok b) ∧ IsLeast {b | b ∈ [1, 2, 3, 4, 5, 6, 7, 8, 10, 12] ∧ 9 ≤ b} b := by
  have hs : Histogram.empty 10 = .ok ⟨[1, 2, 3, 4, 5, 6, 7, 8, 10, 12], List.replicate 11 0⟩ := by decide
  have hne : [9, 10, 1] ≠ ([] : List Int64) := List.cons_ne_nil _ _
  have hn : IsInt64 (3 : Nat) := by decide
  obtain ⟨h, ha, hbounds, hestimates, _⟩ := estimates_of_added hs hne hn
  have hb : h.bounds = [1, 2, 3, 4, 5, 6, 7, 8, 10, 12] :=
    (Except.ok.inj (hbounds.symm.trans (by decide : bucketBounds 10 = .ok _)))
  have hin : ∀ v ∈ [9, 10, 1], ∃ b ∈ h.bounds, v ≤ b := by
    rw [List.forall_mem_cons, List.forall_mem_cons, List.forall_mem_singleton, hb]
    exact ⟨⟨12, by decide⟩, ⟨12, by decide⟩, ⟨12, by decide⟩⟩
  have hest := hestimates hin
  have hlow : 0 < rank 3 0.5 := by decide
  have hhigh : rank 3 0.5 ≤ 3 := by decide
  obtain ⟨b, x, hq, hx, hleast⟩ := hest.quantile 0.5 hlow hhigh
  have hrank : (rank 3 0.5).toInt.toNat = 2 := by decide
  have hsecond : ranked? [9, 10, 1] 2 = some 9 := by simp [ranked?, List.mergeSort]
  cases Option.some.inj (hsecond.symm.trans (hrank ▸ hx))
  exact ⟨hs, hne, hn, h, ha, hest.count, hlow, hhigh, b, hq, hb ▸ hleast⟩

end MetricsAgent.Histogram
