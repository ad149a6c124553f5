import MetricsAgent.Metric.Basic

/-!
# Histograms within 64 bits

A computation on a histogram is stopped only by a sum beyond 64 bits. When the counts have none, taken from
the first on, and when every bucket that holds something begins within 64 bits (`Histogram.Fits`), a snapshot
can be taken. The tables of bounds have room for `mostBounds` bounds.
-/

namespace MetricsAgent

/-- The computation gives a result. -/
def Returns {α : Type} (x : Except Fault α) : Prop := ∃ a, x = .ok a

namespace Returns

variable {α β : Type} {x : Except Fault α}

theorem ok (a : α) : Returns (.ok a) := ⟨a, rfl⟩

theorem bind {f : α → Except Fault β} (hx : Returns x) (hf : ∀ a, x = .ok a → Returns (f a)) :
    Returns (x >>= f) := by
  obtain ⟨a, rfl⟩ := hx
  exact hf a rfl

end Returns

/-- A computation that gives a result has come through its first step. -/
theorem exists_of_bind_eq_ok {α β : Type} {x : Except Fault α} {f : α → Except Fault β} {b : β}
    (h : x >>= f = .ok b) : ∃ a, x = .ok a ∧ f a = .ok b := by
  cases x with
  | error _ => cases h
  | ok a => exact ⟨a, rfl, h⟩

/-! ## Sums -/

def IsInt64 (n : Int) : Prop := Int64.minValue.toInt ≤ n ∧ n ≤ Int64.maxValue.toInt

theorem checked_eq_ok {n : Int} (h : IsInt64 n) : ∃ x, checked n = .ok x ∧ x.toInt = n := by
  refine ⟨.ofInt n, if_pos h, Int64.toInt_ofInt_of_le ?_ ?_⟩
  · exact h.1
  · exact Int.lt_add_one_of_le h.2

theorem toInt_of_checkedAdd {a b c : Int64} (h : checkedAdd a b = .ok c) : c.toInt = a.toInt + b.toInt := by
  unfold checkedAdd checked at h
  split at h
  · rename_i hfits
    cases h
    exact Int64.toInt_ofInt_of_le hfits.1 (Int.lt_add_one_of_le hfits.2)
  · cases h

theorem isInt64_add_one {n : Int64} (h : n < Int64.maxValue) :
    IsInt64 (n.toInt + (1 : Int64).toInt) := by
  rw [Int64.toInt_one]
  exact ⟨Int.le_trans n.minValue_le_toInt (Int.le_add_of_nonneg_right (by decide)),
    Int.add_one_le_of_lt (Int64.lt_iff_toInt_lt.mp h)⟩

/-- The exact sum of `start` and the numbers. -/
def exactSum (start : Int) (ns : List Int64) : Int := ns.foldl (fun sum n => sum + n.toInt) start

theorem exactSum_cons (start : Int) (n : Int64) (ns : List Int64) :
    exactSum start (n :: ns) = exactSum (start + n.toInt) ns := rfl

theorem exactSum_append (start : Int) (ms ns : List Int64) :
    exactSum start (ms ++ ns) = exactSum (exactSum start ms) ns := List.foldl_append

theorem exactSum_eq_add (start : Int) (ns : List Int64) : exactSum start ns = start + exactSum 0 ns := by
  induction ns generalizing start with
  | nil => exact (Int.add_zero start).symm
  | cons n ns ih => rw [exactSum_cons, exactSum_cons, ih, ih (0 + n.toInt), Int.zero_add, Int.add_assoc]

theorem toInt_of_foldlM {start sum : Int64} {ns : List Int64} (h : ns.foldlM checkedAdd start = .ok sum) :
    sum.toInt = exactSum start.toInt ns := by
  induction ns generalizing start with
  | nil => cases h; rfl
  | cons n ns ih =>
      rw [List.foldlM_cons] at h
      obtain ⟨next, hn, h⟩ := exists_of_bind_eq_ok h
      rw [ih h, exactSum_cons, toInt_of_checkedAdd hn]

/-- Adding the numbers one by one to `start` stays within 64 bits. -/
def SumsFit (start : Int64) (ns : List Int64) : Prop :=
  ∀ p, p <+: ns → IsInt64 (exactSum start.toInt p)

instance (n : Int) : Decidable (IsInt64 n) := inferInstanceAs (Decidable (_ ∧ _))

instance (start : Int64) (ns : List Int64) : Decidable (SumsFit start ns) :=
  decidable_of_iff (∀ k < ns.length + 1, IsInt64 (exactSum start.toInt (ns.take k)))
    ⟨fun h p hp => List.prefix_iff_eq_take.mp hp ▸ h p.length (Nat.lt_succ_of_le hp.length_le),
      fun h k _ => h _ (List.take_prefix k ns)⟩

namespace SumsFit

variable {start n : Int64} {ns ms : List Int64}

theorem of_isPrefix (h : SumsFit start ns) (hp : ms <+: ns) : SumsFit start ms :=
  fun p hm => h p (hm.trans hp)

theorem checkedAdd_eq_ok (h : SumsFit start (n :: ns)) :
    ∃ next, checkedAdd start n = .ok next ∧ SumsFit next ns := by
  have hfirst : IsInt64 (start.toInt + n.toInt) :=
    h [n] (List.cons_prefix_cons.mpr ⟨rfl, List.nil_prefix⟩)
  obtain ⟨next, hn, he⟩ := checked_eq_ok hfirst
  refine ⟨next, hn, fun p hp => ?_⟩
  rw [he]
  exact h (n :: p) (List.cons_prefix_cons.mpr ⟨rfl, hp⟩)

theorem returns_foldlM (h : SumsFit start ns) : Returns (ns.foldlM checkedAdd start) := by
  induction ns generalizing start with
  | nil => exact .ok start
  | cons n ns ih =>
      obtain ⟨next, hn, hs⟩ := h.checkedAdd_eq_ok
      rw [List.foldlM_cons, hn]
      exact ih hs

end SumsFit

theorem map_fst_zip_isPrefix {α β : Type} (as : List α) (bs : List β) : (as.zip bs).map (·.1) <+: as := by
  rw [List.zip_eq_zip_take_min, List.map_fst_zip (by simp)]
  exact List.take_prefix _ _

theorem map_snd_zip_isPrefix {α β : Type} (as : List α) (bs : List β) :
    (as.zip bs).map (·.2) <+: bs := by
  rw [List.zip_eq_zip_take_min, List.map_snd_zip (by simp)]
  exact List.take_prefix _ _

/-! ## Bounds -/

theorem length_of_boundsFrom {bound : Int64} {n : Nat} {bounds : List Int64}
    (h : boundsFrom bound n = .ok bounds) : bounds.length = n := by
  fun_induction boundsFrom bound n generalizing bounds with
  | case1 => cases h; rfl
  | case2 => cases h; rfl
  | case3 bound n ih =>
      obtain ⟨next, _, h⟩ := exists_of_bind_eq_ok h
      obtain ⟨rest, hr, h⟩ := exists_of_bind_eq_ok h
      cases h
      rw [List.length_cons, ih next hr]

/-- A shorter table is the beginning of a longer one. -/
theorem boundsFrom_take {bound : Int64} {m n : Nat} {bounds : List Int64}
    (h : boundsFrom bound n = .ok bounds) (hm : m ≤ n) : boundsFrom bound m = .ok (bounds.take m) := by
  fun_induction boundsFrom bound n generalizing m bounds with
  | case1 => cases h; rw [Nat.le_zero.mp hm]; rfl
  | case2 =>
      cases h
      rcases Nat.le_one_iff_eq_zero_or_eq_one.mp hm with rfl | rfl <;> rfl
  | case3 bound n ih =>
      obtain ⟨next, hn, h⟩ := exists_of_bind_eq_ok h
      obtain ⟨rest, hr, h⟩ := exists_of_bind_eq_ok h
      cases h
      match m with
      | 0 => rfl
      | 1 => rfl
      | m + 2 =>
          rw [boundsFrom, hn]
          show (do let rest ← boundsFrom next (m + 1); return bound :: rest) = _
          rw [ih next hr (Nat.le_of_succ_le_succ hm)]
          rfl

/-- How many bounds there can be within 64 bits. -/
def mostBounds : Nat := 237

theorem exists_mostBounds : Returns (bucketBounds mostBounds) := by
  have h : (bucketBounds mostBounds).isOk = true := by
    set_option maxRecDepth 4000 in decide
  cases hb : bucketBounds mostBounds with
  | ok bounds => exact .ok bounds
  | error f => rw [hb] at h; cases h

example : (bucketBounds (mostBounds + 1)).isOk = false := by decide +kernel

theorem bucketBounds_eq_ok {n : Nat} (h : n ≤ mostBounds) :
    ∃ bounds, bucketBounds n = .ok bounds ∧ bounds.length = n := by
  obtain ⟨bounds, hb⟩ := exists_mostBounds
  have hn := boundsFrom_take hb h
  exact ⟨_, hn, length_of_boundsFrom hn⟩

/-! ## Histograms -/

namespace Histogram

/-- No sum that the histogram is asked for goes beyond 64 bits. -/
structure Fits (h : Histogram) : Prop where
  length_le : h.counts.length ≤ h.bounds.length + 1
  sums : SumsFit 0 h.counts
  /-- A bucket that holds something begins within 64 bits. -/
  starts : ∀ i bound n, h.bounds[i]? = some bound → h.counts[i + 1]? = some n → 0 < n →
    bound < Int64.maxValue

example : Fits ⟨[1, 2, 3, 4], [0, 2, 0, 2, 0]⟩ where
  length_le := by decide
  sums := by decide
  starts := by
    intro i bound n hb _ _
    have hmem : bound ∈ [1, 2, 3, 4] := List.mem_of_getElem? hb
    simp only [List.mem_cons, List.not_mem_nil, or_false] at hmem
    rcases hmem with rfl | rfl | rfl | rfl <;> decide

variable {h : Histogram}

theorem returns_boundOfRank {rank seen : Int64} {buckets : List (Int64 × Int64)}
    (hs : SumsFit seen (buckets.map (·.2))) : Returns (boundOfRank rank seen buckets) := by
  induction buckets generalizing seen with
  | nil => exact .ok 0
  | cons x rest ih =>
      obtain ⟨next, hn, hrest⟩ := hs.checkedAdd_eq_ok
      rw [boundOfRank, hn]
      show Returns (if rank ≤ next then .ok x.1 else boundOfRank rank next rest)
      split
      · exact .ok x.1
      · exact ih hrest

namespace Fits

theorem returns_count (hf : h.Fits) : Returns h.count := hf.sums.returns_foldlM

theorem returns_size (hf : h.Fits) : Returns h.size :=
  hf.returns_count.bind fun _ _ => .ok _

theorem returns_quantile (hf : h.Fits) (q : Float) : Returns (h.quantile q) := by
  unfold Histogram.quantile
  split
  · exact .ok _
  · refine hf.returns_count.bind fun total _ => ?_
    split
    · exact .ok _
    · refine .bind (returns_boundOfRank ?_) fun _ _ => .ok _
      exact hf.sums.of_isPrefix (map_snd_zip_isPrefix _ _)

theorem returns_min (hf : h.Fits) : Returns h.min := by
  unfold Histogram.min
  split
  · exact .ok 0
  · exact .ok 0
  · rename_i i hi
    obtain ⟨hlt, hpos, _⟩ := List.findIdx?_eq_some_iff_getElem.mp hi
    have hb : i < h.bounds.length := Nat.lt_of_succ_lt_succ (Nat.lt_of_lt_of_le hlt hf.length_le)
    rw [List.getElem?_eq_getElem hb]
    have hmax : h.bounds[i] < Int64.maxValue :=
      hf.starts i _ _ (List.getElem?_eq_getElem hb) (List.getElem?_eq_getElem hlt) (by simpa using hpos)
    obtain ⟨b, hb, _⟩ := checked_eq_ok (isInt64_add_one hmax)
    exact ⟨b, hb⟩

theorem returns_snapshot (hf : h.Fits) : Returns h.snapshot := by
  have hq (p : Float) : Returns (do return estimateOrLargest (← h.quantile p) : Except Fault Float) :=
    (hf.returns_quantile p).bind fun _ _ => .ok _
  unfold Histogram.snapshot
  iterate 7 refine (hq _).bind fun _ _ => ?_
  exact hf.returns_min.bind fun _ _ => .ok _

end Fits

theorem values_isPrefix_of_snapshot {s : Snapshot} (hs : h.snapshot = .ok s) : s.values <+: h.counts := by
  unfold snapshot at hs
  iterate 8 obtain ⟨_, _, hs⟩ := exists_of_bind_eq_ok hs
  cases hs
  exact List.take_prefix _ _

end Histogram

end MetricsAgent
