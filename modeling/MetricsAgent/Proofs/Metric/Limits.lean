import Mathlib.Algebra.Order.Ring.Abs
import Mathlib.Tactic.Linarith
import Mathlib.Tactic.Ring
import MetricsAgent.Proofs.Metric.Bounds

/-!
# Where a histogram stops

All computations on a histogram go beyond 64 bits in one of three ways: its table has more than `mostBounds`
bounds, the sum of its counts does not fit, taken from the first on, or the first bucket that holds something
begins behind the largest number. What the mean adds up takes more than 64 bits, but never more than 128.
-/

namespace MetricsAgent

/-- A computation that stops has stopped in its first step or after it. -/
theorem eq_error_or_of_bind_eq_error {α β : Type} {x : Except Fault α} {g : α → Except Fault β} {f : Fault}
    (h : x >>= g = .error f) : x = .error f ∨ ∃ a, x = .ok a ∧ g a = .error f := by
  cases x with
  | error _ => cases h; exact .inl rfl
  | ok a => exact .inr ⟨a, rfl, h⟩

/-! ## Sums -/

section Sums

variable {start n : Int64} {ns : List Int64}

theorem overflow_of_checkedAdd {f : Fault} (h : checkedAdd start n = .error f) : f = .overflow := by
  unfold checkedAdd checked at h
  split at h
  · cases h
  · cases h
    rfl

theorem SumsFit.nil (start : Int64) : SumsFit start [] := by
  intro p hp
  rw [List.prefix_nil.mp hp]
  exact ⟨start.minValue_le_toInt, start.toInt_le⟩

theorem SumsFit.cons {next : Int64} (hn : checkedAdd start n = .ok next) (hs : SumsFit next ns) :
    SumsFit start (n :: ns) := by
  intro p hp
  cases p with
  | nil => exact SumsFit.nil start [] List.nil_prefix
  | cons m p =>
      obtain ⟨rfl, hrest⟩ := List.cons_prefix_cons.mp hp
      rw [exactSum_cons, ← toInt_of_checkedAdd hn]
      exact hs p hrest

theorem foldlM_of_not_sumsFit (h : ¬ SumsFit start ns) : ns.foldlM checkedAdd start = .error .overflow := by
  induction ns generalizing start with
  | nil => exact absurd (SumsFit.nil start) h
  | cons n ns ih =>
      rw [List.foldlM_cons]
      by_cases hfits : IsInt64 (start.toInt + n.toInt)
      · obtain ⟨next, hn, _⟩ := checked_eq_ok hfits
        have hn : checkedAdd start n = .ok next := hn
        rw [hn]
        exact ih fun hs => h (hs.cons hn)
      · have hn : checkedAdd start n = .error .overflow := if_neg hfits
        rw [hn]
        rfl

theorem le_exactSum (start : Int) (hns : ∀ n ∈ ns, 0 ≤ n) : start ≤ exactSum start ns := by
  induction ns generalizing start with
  | nil => exact Int.le_refl _
  | cons n ns ih =>
      have hn := Int64.le_iff_toInt_le.mp (hns n List.mem_cons_self)
      have hrest := ih (start + n.toInt) fun m hm => hns m (List.mem_cons_of_mem _ hm)
      rw [Int64.toInt_zero] at hn
      rw [exactSum_cons]
      omega

theorem sumsFit_of_nonneg (hstart : 0 ≤ start.toInt) (hns : ∀ n ∈ ns, 0 ≤ n) (hsum : IsInt64 (exactSum start.toInt ns)) :
    SumsFit start ns := by
  rintro p ⟨rest, rfl⟩
  have hp := le_exactSum start.toInt fun n hn => hns n (List.mem_append_left _ hn)
  have hrest := le_exactSum (exactSum start.toInt p) fun n hn => hns n (List.mem_append_right _ hn)
  rw [exactSum_append] at hsum
  exact ⟨Int.le_trans (by decide) (Int.le_trans hstart hp), Int.le_trans hrest hsum.2⟩

end Sums

/-! ## Tables -/

theorem overflow_of_boundsFrom {bound : Int64} {n : Nat} {f : Fault} (h : boundsFrom bound n = .error f) :
    f = .overflow := by
  fun_induction boundsFrom bound n with
  | case1 => cases h
  | case2 => cases h
  | case3 bound n ih =>
      rcases eq_error_or_of_bind_eq_error h with hn | ⟨next, _, h⟩
      · unfold nextBound at hn
        split at hn
        · exact overflow_of_checkedAdd hn
        · cases hn
      · rcases eq_error_or_of_bind_eq_error h with hr | ⟨rest, _, h⟩
        · exact ih next hr
        · cases h

theorem bucketBounds_of_lt {n : Nat} (h : mostBounds < n) : bucketBounds n = .error .overflow := by
  cases hb : bucketBounds n with
  | ok bounds => exact absurd (le_mostBounds hb) (Nat.not_le.mpr h)
  | error f => rw [overflow_of_boundsFrom hb]

/-- Only the last bound of the largest table is the largest number. -/
theorem getElem_bucketBounds_eq_maxValue_iff {n i : Nat} {bounds : List Int64} (h : bucketBounds n = .ok bounds)
    (hi : i < bounds.length) : bounds[i] = Int64.maxValue ↔ i + 1 = mostBounds := by
  obtain ⟨largest, hl⟩ := exists_mostBounds
  have hlength := length_of_boundsFrom hl
  have hlast : largest[mostBounds - 1]? = some Int64.maxValue := (of_mostBounds hl).2
  cases h.symm.trans (boundsFrom_take hl (le_mostBounds h))
  rw [List.getElem_take]
  rw [List.length_take] at hi
  have hi' : i < largest.length := by omega
  constructor
  · intro hmax
    by_contra hne
    have hlt := List.pairwise_iff_getElem.mp (pairwise_bucketBounds hl) i (i + 1) hi' (by omega) (Nat.lt_succ_self i)
    rw [hmax] at hlt
    exact Int64.not_lt.mpr (Int64.le_maxValue _) hlt
  · intro he
    obtain rfl : i = mostBounds - 1 := by omega
    rwa [List.getElem?_eq_getElem hi', Option.some.injEq] at hlast

/-! ## Histograms -/

namespace Histogram

variable {h : Histogram} {n : Nat}

/-- The first bucket that holds something lies behind the largest number. -/
def StartsBeyond (counts : List Int64) : Prop := counts.findIdx? (0 < ·) = some mostBounds

instance (counts : List Int64) : Decidable (StartsBeyond counts) := inferInstanceAs (Decidable (_ = _))

theorem returns_min (hb : bucketBounds n = .ok h.bounds) (hl : h.counts.length ≤ n + 1)
    (hs : ¬ StartsBeyond h.counts) : Returns h.min := by
  unfold Histogram.min
  split
  · exact .ok 0
  · exact .ok 0
  · rename_i i hfind
    obtain ⟨hi, _, _⟩ := List.findIdx?_eq_some_iff_getElem.mp hfind
    have hi' : i < h.bounds.length := by rw [length_of_boundsFrom hb]; omega
    have hne : h.bounds[i] ≠ Int64.maxValue := by
      rw [Ne, getElem_bucketBounds_eq_maxValue_iff hb hi']
      intro he
      rw [StartsBeyond, ← he] at hs
      exact hs hfind
    obtain ⟨m, hm, _⟩ := checked_eq_ok (isInt64_add_one (Int64.lt_of_le_of_ne (Int64.le_maxValue _) hne))
    rw [List.getElem?_eq_getElem hi']
    exact ⟨m, hm⟩

theorem min_of_startsBeyond (hb : bucketBounds n = .ok h.bounds) (hl : h.counts.length ≤ n + 1)
    (hs : StartsBeyond h.counts) : h.min = .error .overflow := by
  obtain ⟨hi, _, _⟩ := List.findIdx?_eq_some_iff_getElem.mp hs
  have hpos : 0 < mostBounds := by decide
  have hi' : mostBounds - 1 < h.bounds.length := by rw [length_of_boundsFrom hb]; omega
  have hmax := (getElem_bucketBounds_eq_maxValue_iff hb hi').mpr rfl
  unfold Histogram.min
  rw [show h.counts.findIdx? (0 < ·) = some (mostBounds - 1 + 1) from hs]
  simp only [List.getElem?_eq_getElem hi', hmax]
  rfl

/-- What the mean adds up: each bound as often as its bucket counts. -/
def weightedSum (start : Int) (buckets : List (Int64 × Int64)) : Int :=
  buckets.foldl (fun sum b => sum + b.2.toInt * b.1.toInt) start

/-- Nothing that the mean adds up takes more than 128 bits. -/
def MeanFits (h : Histogram) : Prop := ∀ p, p <+: h.buckets → |weightedSum 0 p| < 2 ^ 127

theorem abs_toInt_le (n : Int64) : |n.toInt| ≤ 2 ^ 63 :=
  abs_le.mpr ⟨n.le_toInt, n.toInt_le.trans (by decide)⟩

theorem abs_weightedSum_le {low seen : Int64} {buckets : List (Int64 × Int64)} (start : Int) (hlow : 0 ≤ low.toInt)
    (hb : (low :: buckets.map (·.1)).Pairwise (· ≤ ·)) (hs : SumsFit seen (buckets.map (·.2))) :
    |weightedSum start buckets - start + seen.toInt * low.toInt| ≤ 2 ^ 63 * (2 * (2 ^ 63 - 1) - low.toInt) := by
  -- The counts so far weigh as much as the bound before; only the step to the next bound is new.
  induction buckets generalizing low seen start with
  | nil =>
      rw [weightedSum, List.foldl_nil, sub_self, zero_add, abs_mul, abs_of_nonneg hlow]
      have hseen := abs_toInt_le seen
      have hmax := low.toInt_lt
      nlinarith
  | cons x rest ih =>
      obtain ⟨b, n⟩ := x
      obtain ⟨next, hn, hrest⟩ := hs.checkedAdd_eq_ok
      have hle : low.toInt ≤ b.toInt := Int64.le_iff_toInt_le.mp (List.rel_of_pairwise_cons hb List.mem_cons_self)
      have ih := ih (start + n.toInt * b.toInt) (hlow.trans hle) hb.of_cons hrest
      rw [toInt_of_checkedAdd hn] at ih
      have hstep : weightedSum start ((b, n) :: rest) - start + seen.toInt * low.toInt =
          (weightedSum (start + n.toInt * b.toInt) rest - (start + n.toInt * b.toInt) +
            (seen.toInt + n.toInt) * b.toInt) - seen.toInt * (b.toInt - low.toInt) := by
        have hcons : weightedSum start ((b, n) :: rest) = weightedSum (start + n.toInt * b.toInt) rest := rfl
        rw [hcons]
        ring
      have hgap : |seen.toInt * (b.toInt - low.toInt)| ≤ 2 ^ 63 * (b.toInt - low.toInt) := by
        rw [abs_mul, abs_of_nonneg (Int.sub_nonneg.mpr hle)]
        exact Int.mul_le_mul_of_nonneg_right (abs_toInt_le seen) (Int.sub_nonneg.mpr hle)
      calc |weightedSum start ((b, n) :: rest) - start + seen.toInt * low.toInt|
          ≤ 2 ^ 63 * (2 * (2 ^ 63 - 1) - b.toInt) + 2 ^ 63 * (b.toInt - low.toInt) := by
            rw [hstep]
            exact (abs_sub _ _).trans (Int.add_le_add ih hgap)
        _ = 2 ^ 63 * (2 * (2 ^ 63 - 1) - low.toInt) := by ring

theorem pairwise_zero_bounds {bounds : List Int64} (hb : bucketBounds n = .ok bounds) :
    (0 :: bounds).Pairwise (· ≤ ·) := by
  cases n with
  | zero => cases hb; simp
  | succ n =>
      have hsorted := pairwise_bucketBounds hb
      obtain ⟨rest, rfl⟩ := List.head?_eq_some_iff.mp (head?_bucketBounds hb)
      refine List.Pairwise.cons (fun b hmem => ?_) (hsorted.imp Int64.le_of_lt)
      rcases List.mem_cons.mp hmem with rfl | hmem
      · decide
      · exact Int64.le_of_lt (Int64.lt_trans (by decide) (List.rel_of_pairwise_cons hsorted hmem))

/-- Where the counts can be added up, so can what the mean takes. -/
theorem meanFits (hb : bucketBounds n = .ok h.bounds) (hs : SumsFit 0 h.counts) : h.MeanFits := by
  intro buckets hp
  have hbounds : buckets.map (·.1) <+: h.bounds :=
    (hp.map (·.1)).trans (map_fst_zip_isPrefix ..)
  have hcounts : buckets.map (·.2) <+: h.counts := (hp.map (·.2)).trans (map_snd_zip_isPrefix ..)
  have hsorted : (0 :: buckets.map (·.1)).Pairwise (· ≤ ·) :=
    (pairwise_zero_bounds hb).sublist ((List.prefix_cons_inj 0).mpr hbounds).sublist
  have hle := abs_weightedSum_le 0 (by decide) hsorted (hs.of_isPrefix hcounts)
  rw [sub_zero, Int64.toInt_zero, mul_zero, add_zero] at hle
  omega

end Histogram

end MetricsAgent
