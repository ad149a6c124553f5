import Mathlib.Data.Nat.Basic
import Mathlib.Logic.ExistsUnique
import MetricsAgent.Proofs.Cycle.Invocations

/-!
# How often there are insights

The unrestricted metrics reach the insights in every `insightEvery`-th cycle. Counted in cycles this is the time that
may pass between two insights of a metric, rounded down to whole cycles, but never less than one cycle.
-/

namespace MetricsAgent

namespace Settings

/-- The cycle of this tick reports the unrestricted metrics to the insights as well. -/
def IsInsightTick (s : Settings) (tick : Nat) : Prop :=
  Occasion.ofTick tick s.insightEvery = .sample

instance (s : Settings) (tick : Nat) : Decidable (s.IsInsightTick tick) :=
  inferInstanceAs (Decidable (_ = _))

variable {s : Settings}

/-! ## The number of cycles -/

theorem samplingInterval_pos (h : s.validate = .ok ()) : 0 < s.samplingInterval.toNat := by
  rw [validate] at h
  split at h
  · cases h
  · rename_i hne
    exact Nat.pos_of_ne_zero fun hz => hne (UInt64.toNat_inj.mp hz)

theorem insightEvery_eq (h : 0 < s.samplingInterval.toNat) :
    s.insightEvery = max (s.updateGap.toNat / s.samplingInterval.toNat) 1 := by
  rw [insightEvery, MetricsAgent.insightEvery, Nat.mul_div_cancel _ (by decide), Nat.max_eq_left h]

theorem insightEvery_pos (s : Settings) : 0 < s.insightEvery := Nat.le_max_right ..

/-- Insights are no farther apart than they may be, unless single cycles are. -/
theorem insightEvery_mul_le (h : 0 < s.samplingInterval.toNat) :
    s.insightEvery * s.samplingInterval.toNat ≤ max s.samplingInterval.toNat s.updateGap.toNat := by
  rw [insightEvery_eq h, Nat.max_def]
  split
  · rw [Nat.one_mul]
    exact Nat.le_max_left ..
  · exact Nat.le_trans (Nat.div_mul_le_self ..) (Nat.le_max_right ..)

theorem lt_insightEvery_succ_mul (h : 0 < s.samplingInterval.toNat) :
    s.updateGap.toNat < (s.insightEvery + 1) * s.samplingInterval.toNat := by
  have hle : s.updateGap.toNat / s.samplingInterval.toNat ≤ s.insightEvery := insightEvery_eq h ▸ Nat.le_max_left ..
  calc s.updateGap.toNat
      < s.samplingInterval.toNat * (s.updateGap.toNat / s.samplingInterval.toNat + 1) := Nat.lt_mul_div_succ _ h
    _ ≤ s.samplingInterval.toNat * (s.insightEvery + 1) := Nat.mul_le_mul_left _ (Nat.succ_le_succ hle)
    _ = (s.insightEvery + 1) * s.samplingInterval.toNat := Nat.mul_comm ..

/-! ## The ticks with insights -/

theorem isInsightTick_iff {tick : Nat} : s.IsInsightTick tick ↔ s.insightEvery ∣ tick := by
  rw [IsInsightTick, Occasion.ofTick_eq, Nat.max_eq_left s.insightEvery_pos]
  split <;> simp [*]

theorem ofTick_insightEvery (s : Settings) (tick : Nat) :
    Occasion.ofTick tick s.insightEvery = if s.IsInsightTick tick then .sample else .withheldSample := by
  simp only [isInsightTick_iff]
  rw [Occasion.ofTick_eq, Nat.max_eq_left s.insightEvery_pos]

/-- Two insight ticks that are less than `insightEvery` apart are the same. -/
theorem IsInsightTick.eq_of_lt {i j : Nat} (hi : s.IsInsightTick i) (hj : s.IsInsightTick j) (hij : i ≤ j)
    (hlt : j < i + s.insightEvery) : j = i := by
  have hdvd := Nat.dvd_sub (isInsightTick_iff.mp hj) (isInsightTick_iff.mp hi)
  have hzero : j - i = 0 := Nat.eq_zero_of_dvd_of_lt hdvd (by omega)
  omega

theorem IsInsightTick.next {i : Nat} (hi : s.IsInsightTick i) : s.IsInsightTick (i + s.insightEvery) :=
  isInsightTick_iff.mpr ((Nat.dvd_add_self_right).mpr (isInsightTick_iff.mp hi))

/-- From every tick on there is an insight tick before `insightEvery` cycles are over. -/
theorem exists_isInsightTick (s : Settings) (tick : Nat) :
    ∃ i, tick ≤ i ∧ i < tick + s.insightEvery ∧ s.IsInsightTick i := by
  induction tick with
  | zero => exact ⟨0, Nat.le_refl 0, by simpa using s.insightEvery_pos, isInsightTick_iff.mpr (Nat.dvd_zero _)⟩
  | succ tick ih =>
      obtain ⟨i, hle, hlt, hi⟩ := ih
      rcases Nat.eq_or_lt_of_le hle with rfl | hle
      · -- The window loses its first tick and gains the next one.
        exact ⟨_, by have := s.insightEvery_pos; omega, by omega, hi.next⟩
      · exact ⟨i, hle, by omega, hi⟩

theorem existsUnique_isInsightTick (s : Settings) (tick : Nat) :
    ∃! i, tick ≤ i ∧ i < tick + s.insightEvery ∧ s.IsInsightTick i := by
  obtain ⟨i, hle, hlt, hi⟩ := s.exists_isInsightTick tick
  refine ⟨i, ⟨hle, hlt, hi⟩, fun j ⟨hle', hlt', hj⟩ => ?_⟩
  rcases Nat.le_total i j with hij | hij
  · exact hi.eq_of_lt hj hij (by omega)
  · exact (hj.eq_of_lt hi hij (by omega)).symm

/-- Two insight ticks with none between them are `insightEvery` cycles apart. -/
theorem IsInsightTick.eq_add {i j : Nat} (hi : s.IsInsightTick i) (hj : s.IsInsightTick j) (hij : i < j)
    (hnone : ∀ l, i < l → l < j → ¬ s.IsInsightTick l) : j = i + s.insightEvery := by
  have hpos := s.insightEvery_pos
  rcases Nat.lt_trichotomy j (i + s.insightEvery) with hlt | heq | hgt
  · exact absurd (hi.eq_of_lt hj (Nat.le_of_lt hij) hlt) (by omega)
  · exact heq
  · exact absurd hi.next (hnone _ (by omega) hgt)

/-- Under valid settings the cycles at consecutive ticks, whatever the roster is in each of them, report the
unrestricted metrics to the insights at the insight ticks only. Two such ticks with none between them are the same
number of cycles apart, and so many cycles in a row always hold exactly one. They take no longer than may pass between
two insights, or than a single cycle if that is longer; one cycle more would take longer. -/
theorem cadence (h : s.validate = .ok ()) {ε : Type} (rosters : Nat → Roster ε)
    (report : Nat → ε → Occasion → Except Fault Report) (size : Nat) :
    let every := s.insightEvery
    let interval := s.samplingInterval.toNat
    let gap := s.updateGap.toNat
    let due (tick : Nat) : List (ε × Occasion) := (rosters tick).retired
      ++ (rosters tick).unrestricted.values.map (·, if s.IsInsightTick tick then .sample else .withheldSample)
      ++ (rosters tick).restricted.values.map (·, .withheldSample)
    (∀ tick, (rosters tick).cycle (report tick) size tick every = do
      let reports ← (due tick).mapM fun x => report tick x.1 x.2
      return ((reports.foldl Batch.write (.ofSize size)).finish.2, (rosters tick).clearRetired)) ∧
    (∀ i j, s.IsInsightTick i → s.IsInsightTick j → i < j → (∀ l, i < l → l < j → ¬ s.IsInsightTick l) →
      j = i + every) ∧
    (∀ tick, ∃! i, tick ≤ i ∧ i < tick + every ∧ s.IsInsightTick i) ∧
    every * interval ≤ max interval gap ∧ gap < (every + 1) * interval := by
  have hpos := samplingInterval_pos h
  intro every interval gap due
  refine ⟨fun tick => ?_, fun i j => IsInsightTick.eq_add, s.existsUnique_isInsightTick,
    insightEvery_mul_le hpos, lt_insightEvery_succ_mul hpos⟩
  have hdue : (rosters tick).due tick every = due tick := by rw [Roster.due, ofTick_insightEvery]
  rw [Roster.cycle_eq_mapM, hdue]
  cases (due tick).mapM fun x => report tick x.1 x.2 <;> rfl

/-- With seven seconds between cycles, 42 of them fit into five minutes. -/
theorem cadence_of_seven_seconds :
    let s : Settings := { defaults with samplingInterval := 7 }
    s.validate = .ok () ∧ s.insightEvery = 42 ∧ s.IsInsightTick 42 ∧ s.IsInsightTick 84 ∧ 84 = 42 + s.insightEvery ∧
      42 * 7 ≤ max 7 300 ∧ 300 < (42 + 1) * 7 := by
  intro s
  have hs : s.validate = .ok () := by decide
  have hevery : s.insightEvery = 42 := by decide
  obtain ⟨-, hnext, -, hle, hlt⟩ := cadence hs (fun _ => (Roster.empty : Roster Unit)) (fun _ _ _ => .ok .empty) 1
  have h42 : s.IsInsightTick 42 := by decide
  have h84 : s.IsInsightTick 84 := by decide
  have hnone : ∀ l, 42 < l → l < 84 → ¬ s.IsInsightTick l := by
    intro l hl hl' h
    exact absurd (h42.eq_of_lt h (Nat.le_of_lt hl) (by omega)) (by omega)
  rw [hevery] at hle hlt
  exact ⟨hs, hevery, h42, h84, hnext 42 84 h42 h84 (by decide) hnone, hle, hlt⟩

end Settings

end MetricsAgent
