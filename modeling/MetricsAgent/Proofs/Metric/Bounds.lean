import Mathlib.Data.List.Chain
import MetricsAgent.Proofs.Metric.Fits

/-!
# Tables of bounds

Each table of bounds is the beginning of the largest one, so that what its neighbours keep to holds in all of
them: a bound is larger than the one before, and at most half as large again (`Grows`). In a sorted list the
elements below a limit come first, and their number tells where the limit falls.
-/

namespace MetricsAgent

/-! ## Limits in sorted lists -/

section Sorted

variable {α : Type} {p : α → Bool} {l : List α}

/-- What has the property comes first. -/
def ComesFirst (p : α → Bool) (l : List α) : Prop := l.Pairwise fun x y => p y = true → p x = true

theorem ComesFirst.countP_eq_zero {a : α} (h : ComesFirst p (a :: l)) (ha : p a = false) : l.countP p = 0 := by
  rw [List.countP_eq_zero]
  intro b hb hp
  have := List.rel_of_pairwise_cons h hb hp
  simp [ha] at this

theorem ComesFirst.getElem_iff (h : ComesFirst p l) {i : Nat} (hi : i < l.length) : p l[i] = true ↔ i < l.countP p := by
  induction l generalizing i with
  | nil => simp at hi
  | cons a l ih =>
      have hrest : ∀ i (hi : i < l.length), p l[i] = true ↔ i < l.countP p := fun i => ih h.of_cons
      cases ha : p a with
      | false =>
          have hzero := h.countP_eq_zero ha
          cases i with
          | zero => simp [ha, hzero]
          | succ i => simp [ha, hzero, hrest i (Nat.lt_of_succ_lt_succ hi)]
      | true =>
          cases i with
          | zero => simp [ha]
          | succ i => simp [ha, hrest i (Nat.lt_of_succ_lt_succ hi)]

theorem ComesFirst.length_takeWhile (h : ComesFirst p l) : (l.takeWhile p).length = l.countP p := by
  induction l with
  | nil => rfl
  | cons a l ih =>
      cases ha : p a with
      | false => simp [ha, h.countP_eq_zero ha]
      | true => simp [ha, ih h.of_cons]

end Sorted

/-! ## Growth -/

/-- From one bound to the next. -/
def Grows (bound next : Int64) : Prop := bound < next ∧ 2 * next.toInt ≤ 3 * bound.toInt + 1

instance (bound next : Int64) : Decidable (Grows bound next) := inferInstanceAs (Decidable (_ ∧ _))

/-- The largest table grows from bound to bound and ends with the largest number. -/
theorem of_mostBounds {bounds : List Int64} (h : bucketBounds mostBounds = .ok bounds) :
    bounds.IsChain Grows ∧ bounds[mostBounds - 1]? = some Int64.maxValue := by
  have hall : (bucketBounds mostBounds).toOption.all fun bounds =>
      decide (bounds.IsChain Grows ∧ bounds[mostBounds - 1]? = some Int64.maxValue) := by
    set_option maxRecDepth 4000 in decide
  rw [h] at hall
  exact of_decide_eq_true hall

theorem le_mostBounds {n : Nat} {bounds : List Int64} (h : bucketBounds n = .ok bounds) : n ≤ mostBounds := by
  by_contra hn
  have hmore : (bucketBounds (mostBounds + 1)).isOk = false := by
    set_option maxRecDepth 4000 in decide
  rw [bucketBounds, boundsFrom_take h (Nat.lt_of_not_le hn)] at hmore
  cases hmore

variable {n : Nat} {bounds : List Int64}

theorem isChain_bucketBounds (h : bucketBounds n = .ok bounds) : bounds.IsChain Grows := by
  obtain ⟨largest, hl⟩ := exists_mostBounds
  have ht := boundsFrom_take hl (le_mostBounds h)
  cases h.symm.trans ht
  exact (of_mostBounds hl).1.take n

theorem pairwise_bucketBounds (h : bucketBounds n = .ok bounds) : bounds.Pairwise (· < ·) :=
  List.isChain_iff_pairwise.mp ((isChain_bucketBounds h).imp fun _ _ hg => hg.1)

theorem head?_bucketBounds (h : bucketBounds (n + 1) = .ok bounds) : bounds.head? = some 1 := by
  cases n with
  | zero => cases h; rfl
  | succ n =>
      obtain ⟨next, _, h⟩ := exists_of_bind_eq_ok h
      obtain ⟨rest, _, h⟩ := exists_of_bind_eq_ok h
      cases h
      rfl

end MetricsAgent
