import MetricsAgent.Proofs.Rule.Precedence

/-!
# The two forms of a name

A name has a verdict in its reported and one in its canonical form. Both come from one list of rules, so
two verdicts with the same place are the same verdict: the later place always decides, and the other
preferences of `Verdict.reconcile` never do. A global deny rule at the end of the list therefore has the
last word on the names that it matches in either form, and no say about all others.
-/

namespace MetricsAgent

/-! ## Choosing between two verdicts -/

namespace Verdict

/-- `reconcile` with any other preference between two verdicts of one place. -/
def reconcileBy (keepsRaw : Verdict → Verdict → Bool) (raw cleaned : Verdict) : Verdict :=
  if raw.index ≠ cleaned.index then
    if later raw.index cleaned.index then raw else cleaned
  else if keepsRaw raw cleaned then raw else cleaned

/-- The preference of `reconcile`: a denial, then a global rule. -/
def keepsRaw (raw cleaned : Verdict) : Bool :=
  if raw.isAllowed ≠ cleaned.isAllowed then !raw.isAllowed
  else raw.rule.isGlobal || !cleaned.rule.isGlobal

/-- `v` is the one of two verdicts that has the later place. No place comes before all. -/
def IsLaterOf (v raw cleaned : Verdict) : Prop :=
  v = raw ∧ cleaned.index ≤ raw.index ∨ v = cleaned ∧ raw.index ≤ cleaned.index

variable {v w raw cleaned : Verdict}

theorem reconcile_eq_reconcileBy (raw cleaned : Verdict) :
    raw.reconcile cleaned = reconcileBy keepsRaw raw cleaned := by
  unfold reconcile reconcileBy keepsRaw
  cases raw.isAllowed <;> cases cleaned.isAllowed <;>
    cases raw.rule.isGlobal <;> cases cleaned.rule.isGlobal <;> simp

theorem le_of_later {i j : Option Nat} (h : later i j = true) : j ≤ i := by
  cases i <;> cases j <;> simp [later] at h ⊢
  omega

theorem le_of_not_later {i j : Option Nat} (h : ¬ later i j = true) : i ≤ j := by
  cases i <;> cases j <;> simp [later] at h ⊢
  exact h

theorem place_eq_of_le {i j : Option Nat} (h : i ≤ j) (h' : j ≤ i) : i = j := by
  cases i <;> cases j <;> simp at h h' ⊢
  omega

theorem IsLaterOf.swap (h : IsLaterOf v raw cleaned) : IsLaterOf v cleaned raw := Or.symm h

/-- Whatever the preference, one of the verdicts with the later place is chosen. -/
theorem reconcileBy_isLaterOf (keep : Verdict → Verdict → Bool) (raw cleaned : Verdict) :
    IsLaterOf (reconcileBy keep raw cleaned) raw cleaned := by
  unfold reconcileBy
  split
  · split
    · rename_i hl; exact Or.inl ⟨rfl, le_of_later hl⟩
    · rename_i hl; exact Or.inr ⟨rfl, le_of_not_later hl⟩
  · rename_i he
    have he : raw.index = cleaned.index := Classical.not_not.mp he
    have hle : raw.index ≤ cleaned.index := by rw [he]; cases cleaned.index <;> simp
    split
    · exact Or.inl ⟨rfl, he ▸ hle⟩
    · exact Or.inr ⟨rfl, hle⟩

theorem IsLaterOf.unique (he : raw.index = cleaned.index → raw = cleaned)
    (h : IsLaterOf v raw cleaned) (h' : IsLaterOf w raw cleaned) : v = w := by
  rcases h with ⟨rfl, hc⟩ | ⟨rfl, hr⟩ <;> rcases h' with ⟨rfl, hc'⟩ | ⟨rfl, hr'⟩
  · rfl
  · exact he (place_eq_of_le hr' hc)
  · exact (he (place_eq_of_le hr hc')).symm
  · rfl

end Verdict

namespace Rule

open Verdict

variable {fires fires' : Rule → Bool} {rules : List Rule} {v v' : Verdict}

/-! ## What a place tells -/

theorem Governs.getElem?_of_place {i : Nat} (h : Governs fires rules v) (hi : v.index = some i) :
    rules[i]? = some v.rule := by
  cases h with
  | deny h => cases hi; exact h.at_place
  | allow _ h => cases hi; exact h.at_place
  | allowedGlobally _ _ => cases hi
  | deniedGlobally _ _ => cases hi

theorem Governs.unmatched_of_no_place (h : Governs fires rules v) (hi : v.index = none) :
    v.rule = unmatched rules := by
  cases h with
  | deny _ => cases hi
  | allow _ _ => cases hi
  | allowedGlobally _ ha => exact (unmatched_eq_allowedGlobally ha).symm
  | deniedGlobally _ ha => exact (unmatched_eq_deniedGlobally ha).symm

theorem Governs.place_lt {i : Nat} (h : Governs fires rules v) (hi : v.index = some i) :
    i < rules.length :=
  (List.getElem?_eq_some_iff.mp (h.getElem?_of_place hi)).1

/-- Verdicts from one list with the same place are the same, whatever fires. -/
theorem Governs.eq_of_index_eq (h : Governs fires rules v) (h' : Governs fires' rules v')
    (he : v.index = v'.index) : v = v' := by
  have hr : v.rule = v'.rule := by
    cases hi : v.index with
    | some i =>
        have hi' : v'.index = some i := he.symm.trans hi
        exact Option.some.inj ((h.getElem?_of_place hi).symm.trans (h'.getElem?_of_place hi'))
    | none => exact (h.unmatched_of_no_place hi).trans (h'.unmatched_of_no_place (he ▸ hi)).symm
  cases v; cases v'; cases hr; cases he; rfl

/-- As soon as a deny rule fires, a deny rule governs. -/
theorem Governs.policy_eq_deny (h : Governs fires rules v) (hd : ∃ d ∈ rules, Hits fires .deny d) :
    v.rule.policy = .deny := by
  obtain ⟨d, hd, hit⟩ := hd
  cases h with
  | deny h => exact h.hits.1
  | allow hn _ => exact absurd hit (hn d hd)
  | allowedGlobally hn _ => exact absurd ((hn d hd).symm.trans hit.2) Bool.false_ne_true
  | deniedGlobally hn _ => exact absurd ((hn d hd).symm.trans hit.2) Bool.false_ne_true

theorem channel_ne_unrestricted {r : Rule} (h : r.policy = .deny) : r.channel ≠ .unrestricted := by
  cases hs : r.scope <;> simp [channel, h, hs]

/-! ## The verdict on a name -/

theorem governing_eq_of_index_eq (m : Matching) (rules : List Rule) (name name' : String)
    (he : (governing m rules name).index = (governing m rules name').index) :
    governing m rules name = governing m rules name' :=
  (governs_governing m rules name).eq_of_index_eq (governs_governing m rules name') he

theorem verdict_isLaterOf (m : Matching) (rules : List Rule) (name : String) :
    IsLaterOf (verdict m rules name) (governing m rules name)
      (governing m rules (Name.canonical name)) := by
  unfold verdict
  rw [reconcile_eq_reconcileBy]
  exact reconcileBy_isLaterOf keepsRaw _ _

/-- The verdict on a name is found by the places of the verdicts on its forms alone. -/
theorem verdict_eq_of_isLaterOf {m : Matching} {name : String}
    (h : IsLaterOf v (governing m rules name) (governing m rules (Name.canonical name))) :
    verdict m rules name = v :=
  (verdict_isLaterOf m rules name).unique
    (governing_eq_of_index_eq m rules name (Name.canonical name)) h

theorem route_ne_unrestricted {m : Matching} {name : String}
    (hraw : ∃ d ∈ rules, Hits (m · name) .deny d)
    (hcleaned : ∃ d ∈ rules, Hits (m · (Name.canonical name)) .deny d) :
    route m rules name ≠ .unrestricted := by
  unfold route Verdict.channel
  apply channel_ne_unrestricted
  rcases verdict_isLaterOf m rules name with ⟨hv, _⟩ | ⟨hv, _⟩
  · rw [hv]; exact (governs_governing m rules name).policy_eq_deny hraw
  · rw [hv]; exact (governs_governing m rules (Name.canonical name)).policy_eq_deny hcleaned

/-- Of the verdicts on the two forms of a name the one with the later place counts, in whatever order
they are taken and whatever is preferred between equal places; and a name that is denied in both forms is
not reported without restriction. -/
theorem verdict_eq_iff_isLaterOf (m : Matching) (rules : List Rule) (name : String) :
    let raw := governing m rules name
    let cleaned := governing m rules (Name.canonical name)
    (raw.index = cleaned.index → raw = cleaned) ∧
      (∀ v, verdict m rules name = v ↔ IsLaterOf v raw cleaned) ∧
      raw.reconcile cleaned = cleaned.reconcile raw ∧
      (∀ keep, reconcileBy keep raw cleaned = verdict m rules name) ∧
      ((∃ d ∈ rules, Hits (m · name) .deny d) → (∃ d ∈ rules, Hits (m · (Name.canonical name)) .deny d) →
        route m rules name ≠ .unrestricted) := by
  intro raw cleaned
  refine ⟨governing_eq_of_index_eq m rules name (Name.canonical name),
    fun v => ⟨?_, verdict_eq_of_isLaterOf⟩, ?_, fun keep => ?_, route_ne_unrestricted⟩
  · rintro rfl; exact verdict_isLaterOf m rules name
  · have hc : IsLaterOf (cleaned.reconcile raw) raw cleaned := by
      rw [reconcile_eq_reconcileBy]; exact (reconcileBy_isLaterOf keepsRaw cleaned raw).swap
    exact verdict_eq_of_isLaterOf hc
  · exact (verdict_eq_of_isLaterOf (reconcileBy_isLaterOf keep raw cleaned)).symm

/-! ## A global deny rule at the end -/

variable {m : Matching} {name : String} {d : Rule}

theorem prefer_of_not_hits {policy : Policy} (h : ¬ Hits fires policy d) (b : Option (Rule × Nat))
    (i : Nat) : prefer fires policy b d i = b := if_neg h

theorem unmatched_append_deny (hp : d.policy = .deny) (rules : List Rule) :
    unmatched (rules ++ [d]) = unmatched rules := by
  simp [unmatched, hp]

theorem governing_append_of_not (hp : d.policy = .deny) (hm : ¬ m d name = true) (rules : List Rule) :
    governing m (rules ++ [d]) name = governing m rules name := by
  have hd : ¬ Hits (m · name) .deny d := fun hit => hm hit.2
  have ha : ¬ Hits (m · name) .allow d := fun hit => hm hit.2
  simp only [governing, best_append_singleton, prefer_of_not_hits hd, prefer_of_not_hits ha,
    unmatched_append_deny hp]

theorem governing_append_of_matches (hp : d.policy = .deny) (hs : d.scope = .global)
    (hm : m d name = true) (rules : List Rule) :
    governing m (rules ++ [d]) name = ⟨d, some rules.length⟩ :=
  Governs.governing_eq (.deny (.append_self ⟨hp, hm⟩ fun hn => absurd hs hn))

theorem governing_index_le (m : Matching) (rules : List Rule) (d : Rule) (name : String) :
    (governing m (rules ++ [d]) name).index ≤ some rules.length := by
  cases hi : (governing m (rules ++ [d]) name).index with
  | none => exact Option.none_le
  | some i =>
      have hlt := (governs_governing m (rules ++ [d]) name).place_lt hi
      simp only [List.length_append, List.length_singleton] at hlt
      exact Option.some_le_some.mpr (Nat.le_of_lt_succ hlt)

theorem verdict_append_of_not (hp : d.policy = .deny) (hm : ¬ m d name = true)
    (hm' : ¬ m d (Name.canonical name) = true) (rules : List Rule) :
    verdict m (rules ++ [d]) name = verdict m rules name := by
  simp only [verdict, governing_append_of_not hp hm, governing_append_of_not hp hm']

/-- The last place is not surpassed by the verdict on the other form. -/
theorem verdict_append_of_matches (hp : d.policy = .deny) (hs : d.scope = .global)
    (hm : m d name = true ∨ m d (Name.canonical name) = true) (rules : List Rule) :
    verdict m (rules ++ [d]) name = ⟨d, some rules.length⟩ := by
  apply verdict_eq_of_isLaterOf
  rcases hm with hm | hm
  · refine Or.inl ⟨(governing_append_of_matches hp hs hm rules).symm, ?_⟩
    rw [governing_append_of_matches hp hs hm rules]
    exact governing_index_le m rules d (Name.canonical name)
  · refine Or.inr ⟨(governing_append_of_matches hp hs hm rules).symm, ?_⟩
    rw [governing_append_of_matches hp hs hm rules]
    exact governing_index_le m rules d name

/-- A global deny rule at the end of the list denies the names that it matches in either form, and
changes nothing for all others. -/
theorem route_append_global_deny (m : Matching) (rules : List Rule) (name : String) (d : Rule)
    (hp : d.policy = .deny) (hs : d.scope = .global) :
    route m (rules ++ [d]) name =
      if m d name ∨ m d (Name.canonical name) then .denied else route m rules name := by
  unfold route
  split
  · rename_i hm
    rw [verdict_append_of_matches hp hs hm]
    simp [Verdict.channel, channel, hp, hs]
  · rename_i hm
    rw [not_or] at hm
    rw [verdict_append_of_not hp hm.1 hm.2]

/-- Here the last rule matches the canonical form alone, and the name was allowed before. -/
theorem route_append_global_deny_readLatency :
    let m : Matching := fun r name => r.isAllow || name == Name.canonical "ReadLatency"
    Rule.deniedGlobally.policy = .deny ∧ Rule.deniedGlobally.scope = .global ∧
      route m [.allowedGlobally] "ReadLatency" = .unrestricted ∧
      route m ([.allowedGlobally] ++ [.deniedGlobally]) "ReadLatency" = .denied := by
  intro m
  refine ⟨rfl, rfl, rfl, ?_⟩
  rw [route_append_global_deny m [.allowedGlobally] "ReadLatency" .deniedGlobally rfl rfl]
  exact if_pos (Or.inr (by simp [m]))

end Rule

end MetricsAgent
