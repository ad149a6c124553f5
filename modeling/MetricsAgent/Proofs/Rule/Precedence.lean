import MetricsAgent.Rule.Verdict
import Mathlib.Data.List.Induction

/-!
# The precedence of rules

`Rule.best` reads the rules once and keeps one candidate. Here the same choice is said without an order
of reading: the last global rule of a policy that fires, or the last one at all when no global rule
fires. A deny rule that fires comes before all allow rules. `governing` finds exactly the verdict that
this precedence asks for (`governing_eq_iff_governs`).
-/

namespace MetricsAgent.Rule

/-- A rule of the policy that fires. -/
def Hits (fires : Rule → Bool) (policy : Policy) (r : Rule) : Prop :=
  r.policy = policy ∧ fires r = true

/-- The last rule of a list with a property, and its place. -/
structure IsLast (p : Rule → Prop) (rules : List Rule) (r : Rule) (i : Nat) : Prop where
  at_place : rules[i]? = some r
  holds : p r
  le_place : ∀ j s, rules[j]? = some s → p s → j ≤ i

/-- The rule that a policy puts forward: its last global hit, or its last hit when no global rule hits. -/
inductive Preferred (fires : Rule → Bool) (policy : Policy) (rules : List Rule) (r : Rule) (i : Nat) :
    Prop
  | global (h : IsLast (fun s => Hits fires policy s ∧ s.scope = .global) rules r i)
  | restricted (hn : ∀ s ∈ rules, Hits fires policy s → s.scope ≠ .global)
      (h : IsLast (Hits fires policy) rules r i)

/-- The verdict that the precedence asks for. The canonical rules answer for names that no rule hits. -/
inductive Governs (fires : Rule → Bool) (rules : List Rule) : Verdict → Prop
  | deny {r i} (h : Preferred fires .deny rules r i) : Governs fires rules ⟨r, some i⟩
  | allow {r i} (hd : ∀ s ∈ rules, ¬ Hits fires .deny s) (h : Preferred fires .allow rules r i) :
      Governs fires rules ⟨r, some i⟩
  | allowedGlobally (hn : ∀ s ∈ rules, fires s = false) (ha : ∀ s ∈ rules, s.policy ≠ .allow) :
      Governs fires rules ⟨.allowedGlobally, none⟩
  | deniedGlobally (hn : ∀ s ∈ rules, fires s = false) (ha : ∃ s ∈ rules, s.policy = .allow) :
      Governs fires rules ⟨.deniedGlobally, none⟩

variable {fires : Rule → Bool} {policy : Policy} {rules : List Rule}

/-! ## The last rule with a property -/

namespace IsLast

variable {p : Rule → Prop} {r r' s : Rule} {i i' : Nat}

theorem mem (h : IsLast p rules r i) : r ∈ rules := List.mem_of_getElem? h.at_place

theorem append_self (hs : p s) : IsLast p (rules ++ [s]) s rules.length where
  at_place := List.getElem?_concat_length
  holds := hs
  le_place := by
    intro j t hj _
    have hlt : j < (rules ++ [s]).length := (List.getElem?_eq_some_iff.mp hj).1
    simp only [List.length_append, List.length_singleton] at hlt
    omega

theorem append_of_not (h : IsLast p rules r i) (hs : ¬ p s) : IsLast p (rules ++ [s]) r i where
  at_place := by
    rw [List.getElem?_append_left (List.getElem?_eq_some_iff.mp h.at_place).1]
    exact h.at_place
  holds := h.holds
  le_place := by
    intro j t hj ht
    by_cases hlt : j < rules.length
    · rw [List.getElem?_append_left hlt] at hj
      exact h.le_place j t hj ht
    · rw [List.getElem?_append_right (by omega)] at hj
      have hts : t = s := by simpa using List.mem_of_getElem? hj
      subst hts
      exact absurd ht hs

theorem unique (h : IsLast p rules r i) (h' : IsLast p rules r' i') : r = r' ∧ i = i' := by
  have hle := h.le_place i' r' h'.at_place h'.holds
  have hge := h'.le_place i r h.at_place h.holds
  have hi : i = i' := by omega
  subst hi
  exact ⟨Option.some.inj (h.at_place.symm.trans h'.at_place), rfl⟩

end IsLast

/-! ## The candidate of one policy -/

namespace Preferred

variable {r r' : Rule} {i i' : Nat}

theorem at_place (h : Preferred fires policy rules r i) : rules[i]? = some r := by
  cases h with
  | global h => exact h.at_place
  | restricted _ h => exact h.at_place

theorem hits (h : Preferred fires policy rules r i) : Hits fires policy r := by
  cases h with
  | global h => exact h.holds.1
  | restricted _ h => exact h.holds

theorem mem (h : Preferred fires policy rules r i) : r ∈ rules := List.mem_of_getElem? h.at_place

theorem unique (h : Preferred fires policy rules r i) (h' : Preferred fires policy rules r' i') :
    r = r' ∧ i = i' := by
  cases h with
  | global h =>
      cases h' with
      | global h' => exact h.unique h'
      | restricted hn _ => exact absurd h.holds.2 (hn r h.mem h.holds.1)
  | restricted hn h =>
      cases h' with
      | global h' => exact absurd h'.holds.2 (hn r' h'.mem h'.holds.1)
      | restricted _ h' => exact h.unique h'

end Preferred

/-- What holds of the candidate once the rules were read. -/
def IsBest (fires : Rule → Bool) (policy : Policy) (rules : List Rule) : Option (Rule × Nat) → Prop
  | none => ∀ s ∈ rules, ¬ Hits fires policy s
  | some (r, i) => Preferred fires policy rules r i

theorem IsBest.unique {b b' : Option (Rule × Nat)} (h : IsBest fires policy rules b)
    (h' : IsBest fires policy rules b') : b = b' := by
  match b, b' with
  | none, none => rfl
  | none, some (r', i') => exact absurd (Preferred.hits h') (h r' (Preferred.mem h'))
  | some (r, i), none => exact absurd (Preferred.hits h) (h' r (Preferred.mem h))
  | some (r, i), some (r', i') =>
      obtain ⟨rfl, rfl⟩ := Preferred.unique h h'
      rfl

theorem replaces_eq_false_iff {r earlier : Rule} :
    r.replaces earlier = false ↔ r.scope ≠ .global ∧ earlier.scope = .global := by
  simp [replaces, isGlobal]

/-- A rule that does not hit changes nothing about the candidate. -/
theorem IsBest.append_of_not {b : Option (Rule × Nat)} {s : Rule} (h : IsBest fires policy rules b)
    (hs : ¬ Hits fires policy s) : IsBest fires policy (rules ++ [s]) b := by
  match b with
  | none =>
      intro t ht
      rcases List.mem_append.mp ht with ht | ht
      · exact h t ht
      · rw [List.mem_singleton.mp ht]; exact hs
  | some (r, i) =>
      cases h with
      | global h => exact .global (h.append_of_not fun hg => hs hg.1)
      | restricted hn h =>
          refine .restricted ?_ (h.append_of_not hs)
          intro t ht hit
          rcases List.mem_append.mp ht with ht | ht
          · exact hn t ht hit
          · rw [List.mem_singleton.mp ht] at hit
            exact absurd hit hs

/-- A hit becomes the candidate, unless it is restricted and there is a global one already. -/
theorem Preferred.append_self {s : Rule} (hs : Hits fires policy s)
    (hn : s.scope ≠ .global → ∀ t ∈ rules, Hits fires policy t → t.scope ≠ .global) :
    Preferred fires policy (rules ++ [s]) s rules.length := by
  by_cases hg : s.scope = .global
  · exact .global (.append_self ⟨hs, hg⟩)
  · refine .restricted ?_ (.append_self hs)
    intro t ht hit
    rcases List.mem_append.mp ht with ht | ht
    · exact hn hg t ht hit
    · rw [List.mem_singleton.mp ht]; exact hg

theorem Preferred.scope_ne_global {r : Rule} {i : Nat} (h : Preferred fires policy rules r i)
    (hr : r.scope ≠ .global) : ∀ t ∈ rules, Hits fires policy t → t.scope ≠ .global := by
  cases h with
  | global h => exact absurd h.holds.2 hr
  | restricted hn _ => exact hn

theorem Preferred.append_restricted {r s : Rule} {i : Nat} (h : Preferred fires policy rules r i)
    (hr : r.scope = .global) (hs : s.scope ≠ .global) : Preferred fires policy (rules ++ [s]) r i := by
  cases h with
  | global h => exact .global (h.append_of_not fun hg => hs hg.2)
  | restricted hn h => exact absurd hr (hn r h.mem h.holds)

/-- One step of the reading. -/
theorem IsBest.prefer {b : Option (Rule × Nat)} (h : IsBest fires policy rules b) (s : Rule) :
    IsBest fires policy (rules ++ [s]) (prefer fires policy b s rules.length) := by
  unfold Rule.prefer
  split
  · rename_i hs
    match b with
    | none => exact Preferred.append_self hs fun _ t ht hit => absurd hit (h t ht)
    | some (r, i) =>
        cases hre : s.replaces r with
        | true =>
            simp only [hre, ↓reduceIte]
            refine Preferred.append_self hs fun hg => Preferred.scope_ne_global h fun hr => ?_
            have hk : s.replaces r = false := replaces_eq_false_iff.mpr ⟨hg, hr⟩
            rw [hre] at hk; cases hk
        | false =>
            obtain ⟨hg, hr⟩ := replaces_eq_false_iff.mp hre
            simp only [hre, Bool.false_eq_true, ↓reduceIte]
            exact Preferred.append_restricted h hr hg
  · rename_i hs
    exact h.append_of_not hs

theorem best_append_singleton (fires : Rule → Bool) (policy : Policy) (rules : List Rule) (s : Rule) :
    best fires policy (rules ++ [s]) = prefer fires policy (best fires policy rules) s rules.length := by
  simp [best, List.zipIdx_append]

theorem isBest_best (fires : Rule → Bool) (policy : Policy) (rules : List Rule) :
    IsBest fires policy rules (best fires policy rules) := by
  induction rules using List.reverseRecOn with
  | nil => simp [best, IsBest]
  | append_singleton rules s ih => rw [best_append_singleton]; exact ih.prefer s

theorem best_eq_iff {b : Option (Rule × Nat)} :
    best fires policy rules = b ↔ IsBest fires policy rules b := by
  constructor
  · rintro rfl; exact isBest_best fires policy rules
  · exact (isBest_best fires policy rules).unique

/-! ## The verdict -/

theorem fires_eq_false_iff : (∀ s ∈ rules, fires s = false) ↔
    (∀ s ∈ rules, ¬ Hits fires .deny s) ∧ ∀ s ∈ rules, ¬ Hits fires .allow s := by
  constructor
  · intro h
    constructor <;> exact fun s hs hit => Bool.false_ne_true ((h s hs).symm.trans hit.2)
  · rintro ⟨hd, ha⟩ s hs
    cases hf : fires s with
    | false => rfl
    | true =>
        cases hp : s.policy with
        | allow => exact absurd ⟨hp, hf⟩ (ha s hs)
        | deny => exact absurd ⟨hp, hf⟩ (hd s hs)

theorem unmatched_eq_allowedGlobally (h : ∀ s ∈ rules, s.policy ≠ .allow) :
    unmatched rules = .allowedGlobally := by
  have hall : rules.all (·.policy = .deny) = true := by
    simp only [List.all_eq_true, decide_eq_true_eq]
    intro s hs
    cases hp : s.policy with
    | allow => exact absurd hp (h s hs)
    | deny => rfl
  simp [unmatched, hall]

theorem unmatched_eq_deniedGlobally (h : ∃ s ∈ rules, s.policy = .allow) :
    unmatched rules = .deniedGlobally := by
  obtain ⟨s, hs, hp⟩ := h
  have hall : ¬ rules.all (·.policy = .deny) = true := by
    intro hall
    simpa [hp] using List.all_eq_true.mp hall s hs
  simp [unmatched, hall]

/-- What was chosen is what the precedence asks for. -/
theorem governs_governing (m : Matching) (rules : List Rule) (name : String) :
    Governs (m · name) rules (governing m rules name) := by
  have hd := isBest_best (m · name) .deny rules
  have ha := isBest_best (m · name) .allow rules
  unfold governing
  cases hbd : best (m · name) .deny rules with
  | some b => rw [hbd] at hd; exact .deny hd
  | none =>
      rw [hbd] at hd
      cases hba : best (m · name) .allow rules with
      | some b => rw [hba] at ha; exact .allow hd ha
      | none =>
          rw [hba] at ha
          have hn := fires_eq_false_iff.mpr ⟨hd, ha⟩
          by_cases hex : ∃ s ∈ rules, s.policy = .allow
          · rw [unmatched_eq_deniedGlobally hex]; exact .deniedGlobally hn hex
          · have hne : ∀ s ∈ rules, s.policy ≠ .allow := fun s hs hp => hex ⟨s, hs, hp⟩
            rw [unmatched_eq_allowedGlobally hne]; exact .allowedGlobally hn hne

/-- The precedence leaves no choice. -/
theorem Governs.governing_eq {m : Matching} {name : String} {v : Verdict}
    (h : Governs (m · name) rules v) : governing m rules name = v := by
  cases h with
  | @deny r i h =>
      have hb : best (m · name) .deny rules = some (r, i) := best_eq_iff.mpr h
      simp only [governing, hb]
  | @allow r i hd h =>
      have hbd : best (m · name) .deny rules = none := best_eq_iff.mpr hd
      have hba : best (m · name) .allow rules = some (r, i) := best_eq_iff.mpr h
      simp only [governing, hbd, hba]
  | allowedGlobally hn ha =>
      obtain ⟨hd, hl⟩ := fires_eq_false_iff.mp hn
      have hbd : best (m · name) .deny rules = none := best_eq_iff.mpr hd
      have hba : best (m · name) .allow rules = none := best_eq_iff.mpr hl
      simp only [governing, hbd, hba, unmatched_eq_allowedGlobally ha]
  | deniedGlobally hn ha =>
      obtain ⟨hd, hl⟩ := fires_eq_false_iff.mp hn
      have hbd : best (m · name) .deny rules = none := best_eq_iff.mpr hd
      have hba : best (m · name) .allow rules = none := best_eq_iff.mpr hl
      simp only [governing, hbd, hba, unmatched_eq_deniedGlobally ha]

/-- The verdict on a name is exactly the one that the precedence asks for. -/
theorem governing_eq_iff_governs (m : Matching) (rules : List Rule) (name : String) (v : Verdict) :
    governing m rules name = v ↔ Governs (m · name) rules v := by
  constructor
  · rintro rfl; exact governs_governing m rules name
  · exact Governs.governing_eq

example (p q : Pattern) :
    governing (fun _ _ => true) [⟨.allow, p, .global⟩, ⟨.allow, q, .restricted⟩] "a.metric1" =
      ⟨⟨.allow, p, .global⟩, some 0⟩ := rfl

end MetricsAgent.Rule
