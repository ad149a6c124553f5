import MetricsAgent.Proofs.Name.NormalForm

/-!
# Names made canonical twice

Canonical names should stay as they are. Those of the virtual machine's own metrics do. Others do unless two
dots or a dot and an underscore stand side by side in them, which happens where an underscore stood between a dot
and another dot or a capital.
-/

namespace MetricsAgent.Name

variable {c x : Char} {l : List Char}

/-! ## Plain characters -/

theorem toNat_lt_of_isPlain (h : isPlain c = true) : c.toNat < 128 := by
  simp only [isPlain, Bool.or_eq_true, beq_iff_eq] at h
  rcases h with ((h | h) | rfl) | rfl
  · exact toNat_lt_of_isAlphanum (by simp [Char.isAlphanum, Char.isAlpha, h])
  · exact toNat_lt_of_isAlphanum (by simp [Char.isAlphanum, h])
  · decide
  · decide

/-- What holds of the plain characters, one by one. -/
theorem forall_plain {P : Char → Prop} (hall : ∀ n < 128, isPlain (Char.ofNat n) = true → P (Char.ofNat n))
    (h : isPlain c = true) : P c :=
  Unicode.forall_ascii (P := fun c => isPlain c = true → P c) hall (toNat_lt_of_isPlain h) h

theorem isBlank_of_isPlain (h : isPlain c = true) : isBlank c = false :=
  forall_plain (P := (isBlank · = false)) (by set_option maxRecDepth 1000 in decide) h

theorem isKept_of_isPlain (h : isPlain c = true) : isKept c = true :=
  forall_plain (P := (isKept · = true)) (by decide) h

theorem isUpper_of_isPlain (h : isPlain c = true) : c.isUpper = false :=
  forall_plain (P := (·.isUpper = false)) (by decide) h

theorem toLower_of_isPlain (h : isPlain c = true) : c.toLower = c :=
  forall_plain (P := fun c => c.toLower = c) (by decide) h

theorem isLowercase_of_isPlain (h : isPlain c = true) : Unicode.IsLowercase c :=
  forall_plain (P := Unicode.IsLowercase) (by decide) h

theorem not_separator_of_isPlain (h : isPlain c = true) : c ≠ '\\' ∧ c ≠ '/' ∧ c ≠ '-' := by
  refine ⟨?_, ?_, ?_⟩ <;> rintro rfl <;> contradiction

/-- Only runs of dots and underscores are separated in a plain name. -/
theorem separate_of_isPlain (h : ∀ c ∈ l, isPlain c = true) :
    separate l = squeeze (· == '_') '_' (squeeze (· == '.') '.' l) := by
  have hblank : ∀ c ∈ l, isBlank c = false := fun c hc => isBlank_of_isPlain (h c hc)
  have hkept : ∀ c ∈ l, (!isKept c) = false := fun c hc => by simp [isKept_of_isPlain (h c hc)]
  have hslashes : separateSlashes l = l := by
    refine (List.map_congr_left fun c hc => if_neg ?_).trans (List.map_id l)
    obtain ⟨hback, hslash, _⟩ := not_separator_of_isPlain (h c hc)
    exact not_or.mpr ⟨hback, hslash⟩
  simp only [separate]
  rw [dropBlanksBeforeComma_eq_self hblank, dropBlanksAfterComma_eq_self hblank, squeeze_of_forall hblank, hslashes,
    squeeze_of_forall hkept]

/-- A plain name has no words to split. -/
theorem joinWords_of_isPlain (h : ∀ c ∈ l, isPlain c = true) :
    joinWords l = squeeze (· == '_') '_' (dropUnderscoreAfterDot l) := by
  rw [joinWords, splitWords_eq_self fun c hc => isUpper_of_isPlain (h c hc)]
  refine (List.map_congr_left fun c hc => ?_).trans (List.map_id _)
  have hc := ((squeeze_mark_sublist _ _).trans (dropUnderscoreAfterDot_sublist _)).mem hc
  exact toLower_of_isPlain (h c hc)

/-! ## Uneven names -/

/-- Two dots stand side by side, or a dot and an underscore. -/
def IsUneven (name : List Char) : Prop := ['.', '.'] <:+: name ∨ ['.', '_'] <:+: name

theorem underscores_prefix_of_follower (h : follower l = some '_') : ['_', '_'] <+: l := by
  cases l with
  | nil => cases h
  | cons c l =>
      by_cases hc : c = '_'
      · subst hc
        obtain ⟨rest, rfl⟩ := List.head?_eq_some_iff.mp h
        exact ⟨rest, rfl⟩
      · exact absurd (Option.some.inj ((follower_cons_of_ne hc l).symm.trans h)) hc

/-- A plain name without neighbouring underscores stays as it is exactly if it is not uneven. -/
theorem joinWords_separate_eq_self_iff (hp : ∀ c ∈ l, isPlain c = true) (hu : ¬ ['_', '_'] <:+: l) :
    joinWords (separate l) = l ↔ ¬ IsUneven l := by
  -- Each pass only leaves characters out, so if nothing is missing in the end, no pass has left any out.
  have hdots := squeeze_mark_sublist '.' l
  have hseparate := squeeze_mark_sublist '_' (squeeze (· == '.') '.' l)
  rw [separate_of_isPlain hp, joinWords_of_isPlain fun c hc => hp c ((hseparate.trans hdots).mem hc)]
  constructor
  · intro he
    have hgroups := dropUnderscoreAfterDot_sublist (squeeze (· == '_') '_' (squeeze (· == '.') '.' l))
    have hall := squeeze_mark_sublist '_' (dropUnderscoreAfterDot (squeeze (· == '_') '_' (squeeze (· == '.') '.' l)))
    rw [he] at hall
    have hdots := hdots.antisymm ((hall.trans hgroups).trans hseparate)
    rw [hdots] at hseparate hgroups hall
    have hseparate := hseparate.antisymm (hall.trans hgroups)
    rw [hseparate] at hgroups hall
    have hgroups := hgroups.antisymm hall
    rintro (hdd | hdu)
    · rw [← hdots, pair_infix_squeeze] at hdd
      exact hdd.2 ⟨rfl, rfl⟩
    · rw [← hgroups, dot_pair_dropUnderscoreAfterDot] at hdu
      obtain ⟨rest, hrest, hf⟩ := hdu
      refine hu (((underscores_prefix_of_follower hf).isInfix.trans ?_))
      exact (List.suffix_cons '.' rest).isInfix.trans hrest.isInfix
  · intro he
    obtain ⟨hdd, hdu⟩ := not_or.mp he
    rw [squeeze_mark_eq_self hdd, squeeze_mark_eq_self hu, dropUnderscoreAfterDot_eq_self hdu, squeeze_mark_eq_self hu]

/-- What comes to follow a dot when words are joined. -/
theorem dot_pair_joinWords (hx : x.isAlphanum = false) :
    ['.', x] <:+: joinWords l ↔ ∃ rest, '.' :: rest <:+ l ∧ follower (splitWords (some '.') rest) = some x := by
  rw [joinWords, pair_infix_map_toLower rfl hx, pair_infix_squeeze, and_iff_left (by simp),
    dot_pair_dropUnderscoreAfterDot]
  simp only [dot_suffix_splitWords]
  grind

/-- Two dots come together where an underscore stood between them. -/
theorem dots_infix_joinWords (hd : ¬ ['.', '.'] <:+: l) : ['.', '.'] <:+: joinWords l ↔ ['.', '_', '.'] <:+: l := by
  rw [dot_pair_joinWords rfl, dot_infix_iff]
  refine exists_congr fun rest => and_congr_right fun hs => ?_
  have hhead : rest.head? ≠ some '.' := by
    intro h
    obtain ⟨r, rfl⟩ := List.head?_eq_some_iff.mp h
    exact hd (List.IsInfix.trans ⟨[], r, rfl⟩ hs.isInfix)
  rw [follower_splitWords_eq_some_iff]
  constructor
  · rintro (⟨h, _⟩ | ⟨d, hp, hd⟩)
    · exact absurd h hhead
    · split at hd
      · contradiction
      · exact hd ▸ hp
  · intro hp
    exact .inr ⟨'.', hp, rfl⟩

/-- An underscore is left behind a dot where one stood there and a capital behind it. -/
theorem dot_underscore_infix_joinWords (hu : ¬ ['_', '_'] <:+: l) :
    ['.', '_'] <:+: joinWords l ↔ ∃ c : Char, c.isUpper = true ∧ ['.', '_', c] <:+: l := by
  rw [dot_pair_joinWords rfl]
  simp only [dot_infix_iff, follower_splitWords_eq_some_iff]
  constructor
  · rintro ⟨rest, hs, ⟨_, hne⟩ | ⟨d, hp, hd⟩⟩
    · exact absurd rfl hne
    · split at hd
      · rename_i hupper
        exact ⟨d, hupper, rest, hs, hp⟩
      · subst hd
        exact absurd (hp.isInfix.trans ((List.suffix_cons '.' rest).trans hs).isInfix) hu
  · rintro ⟨d, hupper, rest, hs, hp⟩
    exact ⟨rest, hs, .inr ⟨d, hp, if_pos hupper⟩⟩

/-! ## Names of the machine -/

/-- A lowercase name that starts as those of the machine has no other canonical form. -/
theorem canonical_eq_self_of_machine {name : String} (h : name.startsWith machineStart = true)
    (hl : ∀ c ∈ name.toList, Unicode.IsLowercase c ∧ c ≠ '-' ∧ c ≠ '/') : canonical name = name := by
  have hseparators : (name.map fun c => if c = '-' ∨ c = '/' then '_' else c) = name := by
    apply String.toList_inj.mp
    rw [String.toList_map]
    refine (List.map_congr_left fun c hc => if_neg ?_).trans (List.map_id _)
    simp [hl c hc]
  rw [canonical, if_pos h, hseparators, Unicode.lowercase_eq_self fun c hc => (hl c hc).1]

theorem startsWith_canonical {name : String} (h : name.startsWith machineStart = true) :
    (canonical name).startsWith machineStart = true := by
  rw [String.startsWith_string_iff] at h ⊢
  rw [canonical_of_machine (String.startsWith_string_iff.mpr h)]
  have hlower : (machineStart.toList.all fun c => Unicode.IsLowercase c) = true := by decide
  refine Unicode.prefix_lowercase (fun c hc => by simpa using List.all_eq_true.mp hlower c hc) ?_
  rw [String.toList_map]
  exact h.map fun c => if c = '-' ∨ c = '/' then '_' else c

theorem canonical_canonical_of_machine {name : String} (h : name.startsWith machineStart = true) :
    canonical (canonical name) = canonical name := by
  refine canonical_eq_self_of_machine (startsWith_canonical h) fun c hc => ⟨?_, ?_, ?_⟩
  · rw [canonical_of_machine h] at hc
    exact Unicode.isLowercase_of_mem_lowercase hc
  · rintro rfl
    exact not_mem_canonical_of_machine h (.inl rfl) hc
  · rintro rfl
    exact not_mem_canonical_of_machine h (.inr rfl) hc

/-! ## All names -/

/-- The names of the machine have their canonical form for good, and so have all others whose canonical form is not
uneven or starts like a name of the machine. Two dots, or a dot and an underscore, are neighbours in the canonical form
exactly if the separated name has an underscore between a dot and another dot, or a capital. -/
theorem canonical_canonical_eq_iff (name : String) :
    if name.startsWith machineStart then canonical (canonical name) = canonical name
    else
      (canonical (canonical name) = canonical name ↔
        (canonical name).startsWith machineStart = true ∨ ¬ IsUneven (canonical name).toList) ∧
      (['.', '.'] <:+: (canonical name).toList ↔ ['.', '_', '.'] <:+: separate name.toList) ∧
      (['.', '_'] <:+: (canonical name).toList ↔
        ∃ c : Char, c.isUpper = true ∧ ['.', '_', c] <:+: separate name.toList) := by
  split
  · rename_i h
    exact canonical_canonical_of_machine h
  · rename_i h
    have h : name.startsWith machineStart = false := by simpa using h
    have hp : ∀ c ∈ (canonical name).toList, isPlain c = true := fun c => isPlain_of_mem_canonical h
    have hu : ¬ ['_', '_'] <:+: (canonical name).toList := toList_canonical h ▸ not_underscores_infix_joinWords _
    refine ⟨?_, ?_, ?_⟩
    · cases hm : (canonical name).startsWith machineStart with
      | true =>
          refine iff_of_true (canonical_eq_self_of_machine hm fun c hc => ?_) (.inl rfl)
          obtain ⟨_, hslash, hdash⟩ := not_separator_of_isPlain (hp c hc)
          exact ⟨isLowercase_of_isPlain (hp c hc), hdash, hslash⟩
      | false =>
          rw [← String.toList_inj, toList_canonical hm, joinWords_separate_eq_self_iff hp hu]
          simp
    · rw [toList_canonical h, dots_infix_joinWords (not_dots_infix_separate _)]
    · rw [toList_canonical h, dot_underscore_infix_joinWords (not_underscores_infix_separate _)]

/-- A colon and a blank before a capital leave a dot and an underscore, and a blank between two dots leaves two dots:
the canonical forms have other ones. -/
theorem canonical_of_canonical_differs :
    canonical "Foo: Bar" = "foo._bar" ∧ canonical "foo._bar" = "foo.bar" ∧
    canonical "a. .b" = "a..b" ∧ canonical "a..b" = "a.b" := by
  refine ⟨?_, ?_, ?_, ?_⟩ <;> exact canonical_eq (by decide) (by decide)

end MetricsAgent.Name
