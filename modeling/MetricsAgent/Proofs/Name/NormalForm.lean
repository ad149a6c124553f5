import MetricsAgent.Proofs.Name.Passes

/-!
# What canonical names consist of

A canonical name has the letters and digits of the name that it is made of, in lowercase and in their order, and
beside them dots and single underscores only. Names of the virtual machine's own metrics keep their scheme, blanks
included, but no name keeps a slash.
-/

namespace MetricsAgent.Name

variable {a b c x : Char} {l : List Char}

/-! ## Characters -/

/-- The characters of canonical names: small letters, digits, dot and underscore. -/
def isPlain (c : Char) : Bool := c.isLower || c.isDigit || c == '.' || c == '_'

theorem toNat_lt_of_isKept (h : isKept c = true) : c.toNat < 128 := by
  rw [isKept_eq] at h
  simp only [Bool.or_eq_true, beq_iff_eq] at h
  rcases h with (h | rfl) | rfl
  · exact toNat_lt_of_isAlphanum h
  · decide
  · decide

theorem isPlain_toLower (h : isKept c = true) : isPlain c.toLower = true :=
  Unicode.forall_ascii (P := fun c => isKept c = true → isPlain c.toLower = true) (by decide) (toNat_lt_of_isKept h) h

/-- A capital has a small letter, and every other character stays. -/
theorem toLower_cases (c : Char) :
    c.isAlphanum = true ∧ c.toLower.isAlphanum = true ∨ c.toLower = c := by
  cases h : c.isUpper with
  | true =>
      have hc : c.isAlphanum = true := by simp [Char.isAlphanum, Char.isAlpha, h]
      exact .inl ⟨hc, Unicode.forall_ascii (P := fun c => c.isAlphanum = true → c.toLower.isAlphanum = true)
        (by decide) (toNat_lt_of_isAlphanum hc) hc⟩
  | false => exact .inr (by simp_all [Char.toLower, Char.isUpper])

theorem isAlphanum_toLower (c : Char) : c.toLower.isAlphanum = c.isAlphanum := by
  rcases toLower_cases c with ⟨hc, hl⟩ | h
  · rw [hc, hl]
  · rw [h]

theorem toLower_eq_iff (hx : x.isAlphanum = false) : c.toLower = x ↔ c = x := by
  rcases toLower_cases c with ⟨hc, hl⟩ | h
  · constructor
    · rintro rfl
      exact absurd (hl.symm.trans hx) (by decide)
    · rintro rfl
      exact absurd (hc.symm.trans hx) (by decide)
  · rw [h]

/-- What is neither letter nor digit has no case, and stays the neighbour that it was. -/
theorem pair_infix_map_toLower (ha : a.isAlphanum = false) (hb : b.isAlphanum = false) :
    [a, b] <:+: l.map Char.toLower ↔ [a, b] <:+: l := by
  induction l with
  | nil => rfl
  | cons c l ih =>
      rw [List.map_cons, pair_infix_cons, pair_infix_cons, ih, toLower_eq_iff ha]
      cases l with
      | nil => rfl
      | cons d l => simp [toLower_eq_iff hb]

/-! ## Separated names -/

theorem isKept_of_mem_separate (h : c ∈ separate l) : isKept c = true := by
  rcases mem_squeeze h with rfl | ⟨h, _⟩
  · rfl
  · rcases mem_squeeze h with rfl | ⟨h, _⟩
    · rfl
    · rcases mem_squeeze h with rfl | ⟨_, h⟩
      · rfl
      · simpa using h

theorem filter_separateSlashes (l : List Char) :
    (separateSlashes l).filter Char.isAlphanum = l.filter Char.isAlphanum := by
  induction l with
  | nil => rfl
  | cons c l ih =>
      rw [separateSlashes, List.map_cons, ← separateSlashes]
      split
      · rename_i hc
        rcases hc with rfl | rfl <;> exact ih
      · rw [List.filter_cons, List.filter_cons, ih]

/-- No letter and no digit is lost or added. -/
theorem filter_separate (l : List Char) : (separate l).filter Char.isAlphanum = l.filter Char.isAlphanum := by
  have hblank (c : Char) (hc : isBlank c = true) : c.isAlphanum = false := by
    rw [← Bool.not_eq_true]
    intro h
    exact absurd (hc.symm.trans (isBlank_of_isAlphanum h)) (by decide)
  have hkept (c : Char) (hc : (!isKept c) = true) : c.isAlphanum = false := by
    rw [isKept_eq] at hc
    simp_all
  unfold separate
  rw [filter_squeeze (by simp) rfl, filter_squeeze (by simp) rfl, filter_squeeze hkept rfl, filter_separateSlashes,
    filter_squeeze hblank rfl, filter_dropBlanksAfterComma hblank, filter_dropBlanksBeforeComma hblank]

theorem not_dots_infix_separate (l : List Char) : ¬ ['.', '.'] <:+: separate l := by
  simp [separate, pair_infix_squeeze]

theorem not_underscores_infix_separate (l : List Char) : ¬ ['_', '_'] <:+: separate l := by
  simp [separate, pair_infix_squeeze]

/-! ## Joined names -/

theorem isPlain_of_mem_joinWords (hl : ∀ c ∈ l, isKept c = true) (h : c ∈ joinWords l) : isPlain c = true := by
  obtain ⟨d, hd, rfl⟩ := List.mem_map.mp h
  refine isPlain_toLower ?_
  rcases mem_squeeze hd with rfl | ⟨hd, _⟩
  · rfl
  · rcases mem_splitWords ((dropUnderscoreAfterDot_sublist _).mem hd) with rfl | hd
    · rfl
    · exact hl d hd

theorem filter_joinWords (l : List Char) :
    (joinWords l).filter Char.isAlphanum = (l.filter Char.isAlphanum).map Char.toLower := by
  have hcase : Char.isAlphanum ∘ Char.toLower = Char.isAlphanum := funext isAlphanum_toLower
  rw [joinWords, List.filter_map, hcase, filter_squeeze (by simp) rfl, filter_dropUnderscoreAfterDot rfl,
    filter_splitWords rfl]

theorem not_underscores_infix_joinWords (l : List Char) : ¬ ['_', '_'] <:+: joinWords l := by
  rw [joinWords, pair_infix_map_toLower rfl rfl, pair_infix_squeeze]
  simp

/-! ## Canonical names -/

theorem toList_canonical {name : String} (h : name.startsWith machineStart = false) :
    (canonical name).toList = joinWords (separate name.toList) := by
  rw [canonical, h, if_neg Bool.false_ne_true, String.toList_ofList]

theorem startsWith_eq_false {name : String} (h : ¬ machineStart.toList <+: name.toList) :
    name.startsWith machineStart = false := by
  rwa [← Bool.not_eq_true, String.startsWith_string_iff]

theorem canonical_eq {name form : String} (h : ¬ machineStart.toList <+: name.toList)
    (hf : joinWords (separate name.toList) = form.toList) : canonical name = form :=
  String.toList_inj.mp ((toList_canonical (startsWith_eq_false h)).trans hf)

theorem isPlain_of_mem_canonical {name : String} (h : name.startsWith machineStart = false)
    (hc : c ∈ (canonical name).toList) : isPlain c = true := by
  rw [toList_canonical h] at hc
  exact isPlain_of_mem_joinWords (fun _ => isKept_of_mem_separate) hc

/-- A canonical name consists of small letters, digits, dots and underscores, of which no two stand side by
side. Its letters and digits are those of the name, in lowercase and in their order. -/
theorem canonical_consists (name : String) (h : name.startsWith machineStart = false) :
    (∀ c ∈ (canonical name).toList, c.isLower = true ∨ c.isDigit = true ∨ c = '.' ∨ c = '_') ∧
    ¬ ['_', '_'] <:+: (canonical name).toList ∧
    (canonical name).toList.filter Char.isAlphanum = (name.toList.filter Char.isAlphanum).map Char.toLower := by
  refine ⟨fun c hc => ?_, ?_, ?_⟩
  · have hp := isPlain_of_mem_canonical h hc
    simpa [isPlain, or_assoc] using hp
  · rw [toList_canonical h]
    exact not_underscores_infix_joinWords _
  · rw [toList_canonical h, filter_joinWords, filter_separate]

/-- Separators of every kind, a capital outside of ASCII and a word in capitals. -/
theorem canonical_consists_keyspace :
    "Keyspace: a , b__c/ÄHTTPRead 99".startsWith machineStart = false ∧
    canonical "Keyspace: a , b__c/ÄHTTPRead 99" = "keyspace.a.b_c_.http_read_99" ∧
    "keyspace.a.b_c_.http_read_99".toList.filter Char.isAlphanum
      = ("Keyspace: a , b__c/ÄHTTPRead 99".toList.filter Char.isAlphanum).map Char.toLower := by
  have hs : "Keyspace: a , b__c/ÄHTTPRead 99".startsWith machineStart = false := startsWith_eq_false (by decide)
  have hc : canonical "Keyspace: a , b__c/ÄHTTPRead 99" = "keyspace.a.b_c_.http_read_99" :=
    canonical_eq (by decide) (by decide)
  have h := (canonical_consists _ hs).2.2
  rw [hc] at h
  exact ⟨hs, hc, h⟩

/-! ## Names of the machine -/

theorem canonical_of_machine {name : String} (h : name.startsWith machineStart = true) :
    canonical name = Unicode.lowercase (name.map fun c => if c = '-' ∨ c = '/' then '_' else c) := if_pos h

theorem canonical_eq_of_machine {name form : String} (h : machineStart.toList <+: name.toList)
    (hf : Unicode.lowercaseAfter [] (name.toList.map fun c => if c = '-' ∨ c = '/' then '_' else c) = form.toList) :
    canonical name = form := by
  rw [canonical_of_machine (String.startsWith_string_iff.mpr h), Unicode.lowercase, String.toList_map, hf,
    String.ofList_toList]

theorem not_mem_canonical_of_machine {name : String} (h : name.startsWith machineStart = true)
    (hx : x = '-' ∨ x = '/') : x ∉ (canonical name).toList := by
  have huncased : Unicode.IsUncased x := by
    rcases hx with rfl | rfl <;> exact ⟨by decide, rfl⟩
  rw [canonical_of_machine h, Unicode.mem_lowercase_iff huncased, String.toList_map, List.mem_map]
  rintro ⟨c, _, hc⟩
  split at hc
  · subst hc
    simp at hx
  · rename_i hne
    exact hne (hc ▸ hx)

/-! ## Separators -/

theorem slash_not_mem_canonical (name : String) : '/' ∉ (canonical name).toList := by
  cases h : name.startsWith machineStart with
  | true => exact not_mem_canonical_of_machine h (.inr rfl)
  | false =>
      intro hc
      have := isPlain_of_mem_canonical h hc
      contradiction

/-- Names of the machine keep their blanks, and no others have any. -/
theorem count_blank_canonical (name : String) :
    (canonical name).toList.count ' ' = if name.startsWith machineStart then name.toList.count ' ' else 0 := by
  split
  · rename_i h
    have hmap (c : Char) : ((if c = '-' ∨ c = '/' then '_' else c) == ' ') = (c == ' ') := by
      split
      · rename_i hc
        rcases hc with rfl | rfl <;> rfl
      · rfl
    rw [canonical_of_machine h, Unicode.count_lowercase ⟨by decide, rfl⟩, String.toList_map, List.count,
      List.countP_map]
    exact congrArg (List.countP · name.toList) (funext hmap)
  · rename_i h
    refine List.count_eq_zero_of_not_mem fun hc => ?_
    have := isPlain_of_mem_canonical (by simpa using h) hc
    contradiction

end MetricsAgent.Name
