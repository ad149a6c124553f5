import MetricsAgent.Name.Canonical
import MetricsAgent.Proofs.Unicode.Lowercase

/-!
# The passes that make a name canonical

What each pass does to the letters and digits of a name, which are never touched, to the pairs of neighbours in
it, and which names it leaves alone. A name is a list of characters here; that two characters stand side by side
in it is said by `[a, b] <:+: name`.
-/

namespace MetricsAgent.Name

/-! ## Characters -/

theorem isUpper_eq (c : Char) : isUpper c = c.isUpper := by
  simp [isUpper, Char.isUpper, Char.le_def]

theorem isKept_eq (c : Char) : isKept c = (c.isAlphanum || c == '.' || c == '_') := by
  simp [isKept, isUpper, isLower, Char.isAlphanum, Char.isAlpha, Char.isUpper, Char.isLower, Char.isDigit, Char.le_def]

theorem toNat_lt_of_isAlphanum {c : Char} (h : c.isAlphanum = true) : c.toNat < 128 := by
  have hc : c.val.toNat = c.toNat := rfl
  simp only [Char.isAlphanum, Char.isAlpha, Char.isUpper, Char.isLower, Char.isDigit, Bool.or_eq_true,
    Bool.and_eq_true, decide_eq_true_eq, UInt32.le_iff_toNat_le, ge_iff_le] at h
  grind

theorem isBlank_of_isAlphanum {c : Char} (h : c.isAlphanum = true) : isBlank c = false :=
  Unicode.forall_ascii (P := fun c => c.isAlphanum = true → isBlank c = false)
    (by set_option maxRecDepth 1000 in decide) (toNat_lt_of_isAlphanum h) h

/-! ## Neighbours -/

theorem pair_infix_cons {a b c : Char} {l : List Char} :
    [a, b] <:+: c :: l ↔ (c = a ∧ l.head? = some b) ∨ [a, b] <:+: l := by
  rw [List.infix_cons_iff, List.cons_prefix_cons]
  refine or_congr_left (and_congr eq_comm ?_)
  cases l with
  | nil => simp
  | cons d l => simp [List.cons_prefix_cons, eq_comm]

/-! ## Runs -/

variable {p q : Char → Bool} {mark a b c : Char} {l : List Char}

theorem head?_squeeze (p : Char → Bool) (mark : Char) (l : List Char) :
    (squeeze p mark l).head? = l.head?.map fun c => if p c then mark else c := by
  induction l with
  | nil => rfl
  | cons c rest ih =>
      rw [squeeze_cons]
      split
      · rename_i hc
        split
        · rename_i hrest
          rw [ih]
          cases rest with
          | nil => simp at hrest
          | cons d rest => simp_all
        · simp [hc]
      · rename_i hc
        simp [hc]

/-- Squeezing touches nothing but the runs. -/
theorem filter_squeeze (hp : ∀ c, p c = true → q c = false) (hm : q mark = false) (l : List Char) :
    (squeeze p mark l).filter q = l.filter q := by
  induction l with
  | nil => rfl
  | cons c rest ih =>
      rw [squeeze_cons]
      split
      · rename_i hc
        rw [List.filter_cons_of_neg (a := c) (by simp [hp c hc])]
        split
        · exact ih
        · rw [List.filter_cons_of_neg (by simp [hm]), ih]
      · rw [List.filter_cons, List.filter_cons, ih]

theorem mem_squeeze (h : c ∈ squeeze p mark l) : c = mark ∨ c ∈ l ∧ p c = false := by
  fun_induction squeeze p mark l with
  | case1 => simp at h
  | case2 d rest hd hrest ih => exact (ih h).imp_right (And.imp_left (List.mem_cons_of_mem _))
  | case3 d rest hd hrest ih =>
      rcases List.mem_cons.mp h with h | h
      · exact .inl h
      · exact (ih h).imp_right (And.imp_left (List.mem_cons_of_mem _))
  | case4 d rest hd ih =>
      rcases List.mem_cons.mp h with rfl | h
      · exact .inr ⟨List.mem_cons_self, by simpa using hd⟩
      · exact (ih h).imp_right (And.imp_left (List.mem_cons_of_mem _))

theorem squeeze_of_forall (h : ∀ c ∈ l, p c = false) : squeeze p mark l = l := by
  induction l with
  | nil => rfl
  | cons c rest ih =>
      obtain ⟨hc, hrest⟩ := List.forall_mem_cons.mp h
      rw [squeeze_cons, hc, ih hrest]
      rfl

theorem head?_squeeze_mark (mark : Char) (l : List Char) : (squeeze (· == mark) mark l).head? = l.head? := by
  rw [head?_squeeze]
  cases l with
  | nil => rfl
  | cons c rest => by_cases hc : c = mark <;> simp [hc]

/-- After the runs of a mark are squeezed, the same characters are neighbours as before, marks apart. -/
theorem pair_infix_squeeze : [a, b] <:+: squeeze (· == mark) mark l ↔ [a, b] <:+: l ∧ ¬ (a = mark ∧ b = mark) := by
  induction l with
  | nil => simp
  | cons c rest ih =>
      rw [squeeze_cons]
      split
      · rename_i hc
        have hc : c = mark := by simpa using hc
        subst hc
        split
        · rename_i hrest
          have hrest : rest.head? = some c := by simpa [Option.any_eq_true] using hrest
          rw [ih, pair_infix_cons, hrest]
          grind
        · rename_i hrest
          have hrest : rest.head? ≠ some c := fun h => hrest (by simp [h])
          rw [pair_infix_cons, pair_infix_cons, ih, head?_squeeze_mark]
          grind
      · rename_i hc
        have hc : c ≠ mark := by simpa using hc
        rw [pair_infix_cons, pair_infix_cons, ih, head?_squeeze_mark]
        grind

theorem squeeze_mark_sublist (mark : Char) (l : List Char) : (squeeze (· == mark) mark l).Sublist l := by
  induction l with
  | nil => exact .slnil
  | cons c rest ih =>
      rw [squeeze_cons]
      split
      · rename_i hc
        have hc : c = mark := by simpa using hc
        split
        · exact ih.cons c
        · exact hc ▸ ih.cons_cons c
      · exact ih.cons_cons c

theorem squeeze_mark_eq_self (h : ¬ [mark, mark] <:+: l) : squeeze (· == mark) mark l = l := by
  induction l with
  | nil => rfl
  | cons c rest ih =>
      rw [pair_infix_cons, not_or] at h
      rw [squeeze_cons, ih h.2]
      split
      · rename_i hc
        have hc : c = mark := by simpa using hc
        have hrest : rest.head?.any (· == mark) = false := by
          cases rest with
          | nil => rfl
          | cons d rest => simpa [hc] using h.1
        rw [hrest, hc]
        rfl
      · rfl

/-! ## Blanks -/

theorem filter_dropBlanksBeforeComma (hq : ∀ c, isBlank c = true → q c = false) (l : List Char) :
    (dropBlanksBeforeComma l).filter q = l.filter q := by
  induction l with
  | nil => rfl
  | cons c rest ih =>
      rw [dropBlanksBeforeComma_cons]
      split
      · rename_i hc
        rw [Bool.and_eq_true] at hc
        rw [ih, List.filter_cons_of_neg (by simp [hq c hc.1])]
      · rw [List.filter_cons, List.filter_cons, ih]

theorem filter_dropBlanksAfterComma (hq : ∀ c, isBlank c = true → q c = false) (after : Bool) (l : List Char) :
    (dropBlanksAfterComma after l).filter q = l.filter q := by
  induction l generalizing after with
  | nil => rfl
  | cons c rest ih =>
      rw [dropBlanksAfterComma_cons]
      split
      · rename_i hc
        rw [Bool.and_eq_true] at hc
        rw [ih, List.filter_cons_of_neg (by simp [hq c hc.2])]
      · rw [List.filter_cons, List.filter_cons, ih]

theorem dropBlanksBeforeComma_eq_self (h : ∀ c ∈ l, isBlank c = false) : dropBlanksBeforeComma l = l := by
  induction l with
  | nil => rfl
  | cons c rest ih =>
      obtain ⟨hc, hrest⟩ := List.forall_mem_cons.mp h
      rw [dropBlanksBeforeComma_cons, hc, ih hrest]
      rfl

theorem dropBlanksAfterComma_eq_self (h : ∀ c ∈ l, isBlank c = false) (after : Bool) :
    dropBlanksAfterComma after l = l := by
  induction l generalizing after with
  | nil => rfl
  | cons c rest ih =>
      obtain ⟨hc, hrest⟩ := List.forall_mem_cons.mp h
      rw [dropBlanksAfterComma_cons, hc, Bool.and_false, if_neg Bool.false_ne_true, ih hrest]

/-! ## Words -/

theorem filter_splitWords (hq : q '_' = false) (previous : Option Char) (l : List Char) :
    (splitWords previous l).filter q = l.filter q := by
  induction l generalizing previous with
  | nil => rfl
  | cons c rest ih =>
      rw [splitWords_cons]
      split
      · rw [List.filter_cons_of_neg (by simp [hq]), List.filter_cons, List.filter_cons, ih]
      · rw [List.filter_cons, List.filter_cons, ih]

theorem mem_splitWords {previous : Option Char} (h : c ∈ splitWords previous l) : c = '_' ∨ c ∈ l := by
  induction l generalizing previous with
  | nil => exact absurd h List.not_mem_nil
  | cons d rest ih =>
      rw [splitWords_cons] at h
      split at h
      · rcases List.mem_cons.mp h with h | h
        · exact .inl h
        · rcases List.mem_cons.mp h with rfl | h
          · exact .inr List.mem_cons_self
          · exact (ih h).imp_right (List.mem_cons_of_mem _)
      · rcases List.mem_cons.mp h with rfl | h
        · exact .inr List.mem_cons_self
        · exact (ih h).imp_right (List.mem_cons_of_mem _)

theorem splitWords_eq_self (h : ∀ c ∈ l, c.isUpper = false) (previous : Option Char) : splitWords previous l = l := by
  induction l generalizing previous with
  | nil => rfl
  | cons c rest ih =>
      obtain ⟨hc, hrest⟩ := List.forall_mem_cons.mp h
      rw [splitWords_cons, isUpper_eq, hc, ih hrest]
      rfl

/-! ## Groups -/

theorem filter_dropUnderscoreAfterDot (hq : q '_' = false) (l : List Char) :
    (dropUnderscoreAfterDot l).filter q = l.filter q := by
  fun_induction dropUnderscoreAfterDot l with
  | case1 rest ih =>
      rw [List.filter_cons, List.filter_cons, ih, List.filter_cons_of_neg (by simp [hq])]
  | case2 c rest _ ih => rw [List.filter_cons, List.filter_cons, ih]
  | case3 => rfl

theorem head?_dropUnderscoreAfterDot (l : List Char) : (dropUnderscoreAfterDot l).head? = l.head? := by
  fun_cases dropUnderscoreAfterDot l <;> rfl

theorem dropUnderscoreAfterDot_eq_self (h : ¬ ['.', '_'] <:+: l) : dropUnderscoreAfterDot l = l := by
  fun_induction dropUnderscoreAfterDot l with
  | case1 rest ih => exact absurd (by simp [pair_infix_cons]) h
  | case2 c rest _ ih =>
      rw [pair_infix_cons, not_or] at h
      rw [ih h.2]
  | case3 => rfl

/-! ## What follows a dot -/

theorem dot_infix_iff (tail l : List Char) : '.' :: tail <:+: l ↔ ∃ rest, '.' :: rest <:+ l ∧ tail <+: rest := by
  rw [List.infix_iff_prefix_suffix]
  constructor
  · rintro ⟨_, ⟨after, rfl⟩, hs⟩
    exact ⟨tail ++ after, hs, List.prefix_append ..⟩
  · rintro ⟨rest, hs, hp⟩
    exact ⟨'.' :: rest, List.cons_prefix_cons.mpr ⟨rfl, hp⟩, hs⟩

/-- Splitting words keeps each dot, and what follows it is split. -/
theorem dot_suffix_splitWords {rest : List Char} (previous : Option Char) (l : List Char) :
    '.' :: rest <:+ splitWords previous l ↔ ∃ r, '.' :: r <:+ l ∧ rest = splitWords (some '.') r := by
  induction l generalizing previous with
  | nil => simp
  | cons c l ih =>
      simp only [splitWords_cons, List.suffix_cons_iff]
      split
      · rename_i hc
        have hc : c ≠ '.' := by
          rintro rfl
          simp [isUpper] at hc
        simp only [List.suffix_cons_iff, ih]
        grind
      · simp only [List.suffix_cons_iff, ih]
        grind

/-- The character that comes to follow a dot when one underscore between them is dropped. -/
def follower : List Char → Option Char
  | '_' :: rest => rest.head?
  | rest => rest.head?

theorem follower_underscore (rest : List Char) : follower ('_' :: rest) = rest.head? := rfl

theorem follower_eq_head? (h : ∀ rest, l ≠ '_' :: rest) : follower l = l.head? := follower.eq_2 l h

theorem follower_cons_of_ne (h : c ≠ '_') (l : List Char) : follower (c :: l) = some c :=
  follower_eq_head? fun _ he => h (List.cons.inj he).1

theorem dot_pair_dropUnderscoreAfterDot :
    ['.', c] <:+: dropUnderscoreAfterDot l ↔ ∃ rest, '.' :: rest <:+ l ∧ follower rest = some c := by
  fun_induction dropUnderscoreAfterDot l with
  | case1 rest ih =>
      simp only [pair_infix_cons, head?_dropUnderscoreAfterDot, ih, List.suffix_cons_iff]
      grind [follower_underscore]
  | case2 d rest hd ih =>
      have hf : d = '.' → follower rest = rest.head? := fun h => follower_eq_head? fun r => hd r h
      simp only [pair_infix_cons, head?_dropUnderscoreAfterDot, ih, List.suffix_cons_iff]
      grind
  | case3 => simp

/-- A capital right behind a dot gets an underscore that is dropped again. -/
theorem follower_splitWords_of_ne (h : c ≠ '_') (l : List Char) :
    follower (splitWords (some '.') (c :: l)) = some c := by
  have hdot : isUpper '.' = false := rfl
  cases hc : isUpper c with
  | true => simp [splitWords_cons, follower_underscore, hc, hdot]
  | false =>
      have hs : splitWords (some '.') (c :: l) = c :: splitWords (some c) l := by simp [splitWords_cons, hc]
      rw [hs, follower_cons_of_ne h]

/-- A capital behind a dot and an underscore brings a second underscore, which stays. -/
theorem follower_splitWords_underscore (l : List Char) :
    follower (splitWords (some '.') ('_' :: l)) = l.head?.map fun c => if c.isUpper then '_' else c := by
  cases l with
  | nil => rfl
  | cons c l =>
      have hs : splitWords (some '.') ('_' :: c :: l) = '_' :: splitWords (some '_') (c :: l) := rfl
      rw [hs, follower_underscore, splitWords_cons]
      cases hc : c.isUpper <;> simp [isUpper_eq, hc]

/-- What comes to follow a dot stood behind it or behind its underscore, or is left of two underscores. -/
theorem follower_splitWords_eq_some_iff {rest : List Char} :
    follower (splitWords (some '.') rest) = some c ↔
      rest.head? = some c ∧ c ≠ '_' ∨ ∃ d, ['_', d] <+: rest ∧ (if d.isUpper then '_' else d) = c := by
  cases rest with
  | nil =>
      rw [splitWords_nil, show follower [] = none from rfl]
      simp
  | cons d rest =>
      by_cases hd : d = '_'
      · rw [hd, follower_splitWords_underscore]
        cases rest with
        | nil => simp only [List.cons_prefix_cons, List.head?_nil]; grind
        | cons e rest => simp only [List.cons_prefix_cons, List.head?_cons]; grind
      · rw [follower_splitWords_of_ne hd]
        simp only [List.cons_prefix_cons, List.head?_cons]
        grind

end MetricsAgent.Name
