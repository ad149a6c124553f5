import MetricsAgent.Unicode.Case
import Mathlib

/-!
# Text in lowercase

Lowercase text has no lowercase of its own to become: the shifts of the case table move no code point to one
that a shift covers (`shiftWith_image`), and what the capital sigma and the dotted capital I become stays as
well. Lowercase is about letters only: every other character below 128 is in the lowercase of a text exactly if
it is in the text.
-/

namespace MetricsAgent.Unicode

/-! ## Sets of code points as numbers -/

/-- The number whose bits at these places are set. -/
def bitsAt (places : List Nat) : Nat := places.foldr (fun n bits => bits ||| 1 <<< n) 0

theorem testBit_bitsAt (places : List Nat) (n : Nat) : (bitsAt places).testBit n = decide (n ∈ places) := by
  induction places with
  | nil => simp [bitsAt]
  | cons m places ih =>
      rw [bitsAt, List.foldr_cons, ← bitsAt, Nat.testBit_or, ih, Nat.one_shiftLeft, Nat.testBit_two_pow]
      by_cases hm : m = n
      · simp [hm]
      · simp [hm, Ne.symm hm]

/-- Numbers without a common bit come from places that are all different. -/
theorem not_mem_of_bitsAt {places others : List Nat} (h : bitsAt places &&& bitsAt others = 0) {n : Nat}
    (hn : n ∈ others) : n ∉ places := by
  intro hm
  have hb := congrArg (Nat.testBit · n) h
  simp [testBit_bitsAt, hm, hn] at hb

/-! ## Shifts -/

/-- The code points that a shift covers. -/
def Shift.covered (s : Shift) : List Nat :=
  (List.range ((s.last - s.first) / s.stride + 1)).map (s.first + · * s.stride)

/-- Where a shift moves the code points that it covers. -/
def Shift.images (s : Shift) : List Nat :=
  s.covered.map fun (n : Nat) => (n + s.offset).toNat

theorem Shift.mem_of_image? {s : Shift} {n m : Nat} (h : s.image? n = some m) : n ∈ s.covered ∧ m ∈ s.images := by
  obtain ⟨⟨hfirst, hlast, hstride⟩, hm⟩ := Option.ite_none_right_eq_some.mp h
  have hn : n ∈ s.covered := by
    refine List.mem_map.mpr ⟨(n - s.first) / s.stride, List.mem_range.mpr ?_, ?_⟩
    · exact Nat.lt_succ_of_le (Nat.div_le_div_right (Nat.sub_le_sub_right hlast _))
    · rw [Nat.div_mul_cancel (Nat.dvd_of_mod_eq_zero hstride), Nat.add_sub_cancel' hfirst]
  exact ⟨hn, List.mem_map.mpr ⟨n, hn, Option.some.inj hm⟩⟩

/-- The range that the images of a shift lie in. -/
theorem Shift.range_of_mem_images {s : Shift} {n : Nat} (h : n ∈ s.images) :
    (s.first + s.offset).toNat ≤ n ∧ n ≤ (s.first + (s.last - s.first : Nat) + s.offset).toNat := by
  obtain ⟨m, hm, rfl⟩ := List.mem_map.mp h
  obtain ⟨i, hi, rfl⟩ := List.mem_map.mp hm
  have hle : i * s.stride ≤ s.last - s.first :=
    (Nat.mul_le_mul_right _ (Nat.le_of_lt_succ (List.mem_range.mp hi))).trans (Nat.div_mul_le_self ..)
  constructor <;> omega

/-- A code point that a table does not move, or one of the images of the table. -/
theorem shiftWith_cases (table : List Shift) (n : Nat) :
    shiftWith table n = n ∨ shiftWith table n ∈ table.flatMap Shift.images := by
  cases h : table.findSome? (·.image? n) with
  | none => simp [shiftWith, h]
  | some m =>
      obtain ⟨s, hs, hm⟩ := List.exists_of_findSome?_eq_some h
      refine .inr (List.mem_flatMap.mpr ⟨s, hs, ?_⟩)
      simpa [shiftWith, h] using (Shift.mem_of_image? hm).2

theorem shiftWith_of_not_mem {table : List Shift} {n : Nat} (h : n ∉ table.flatMap Shift.covered) :
    shiftWith table n = n := by
  cases hf : table.findSome? (·.image? n) with
  | none => simp [shiftWith, hf]
  | some m =>
      obtain ⟨s, hs, hm⟩ := List.exists_of_findSome?_eq_some hf
      exact absurd (List.mem_flatMap.mpr ⟨s, hs, (Shift.mem_of_image? hm).1⟩) h

/-- No image of a lowercase shift is covered by one. -/
theorem shiftWith_image {n : Nat} (h : n ∈ lowercaseShifts.flatMap Shift.images) :
    shiftWith lowercaseShifts n = n := by
  have hb : bitsAt (lowercaseShifts.flatMap Shift.covered) &&& bitsAt (lowercaseShifts.flatMap Shift.images) = 0 := by
    set_option maxRecDepth 8000 in decide
  exact shiftWith_of_not_mem (not_mem_of_bitsAt hb h)

/-! ## Characters -/

/-- A character that is its own lowercase. -/
def IsLowercase (c : Char) : Prop := lowercaseChar c = [c]

instance : DecidablePred IsLowercase := fun c => inferInstanceAs (Decidable (lowercaseChar c = [c]))

/-- A range without surrogates and without the dotted capital I, either beyond ASCII or within its small letters. -/
def IsImageRange (low high : Nat) : Prop :=
  (high < 0xd800 ∨ 0xdfff < low ∧ high < 0x110000) ∧ (high < 0x130 ∨ 0x130 < low) ∧
    (128 ≤ low ∨ 97 ≤ low ∧ high < 123)

instance (low high : Nat) : Decidable (IsImageRange low high) := inferInstanceAs (Decidable (_ ∧ _))

/-- The images of the table are small letters of ASCII and characters beyond it. -/
theorem image_cases : ∀ n ∈ lowercaseShifts.flatMap Shift.images,
    (Char.ofNat n).toNat = n ∧ n ≠ 0x130 ∧
      (128 ≤ n ∨ (Char.ofNat n).isLower = true ∧ IsLowercase (Char.ofNat n)) := by
  -- Shift by shift, since there are far more images than shifts.
  have htable : ∀ s ∈ lowercaseShifts,
      IsImageRange (s.first + s.offset).toNat (s.first + (s.last - s.first : Nat) + s.offset).toNat := by
    set_option maxRecDepth 1000 in decide
  have hsmall : ∀ n < 123, 97 ≤ n → (Char.ofNat n).isLower = true ∧ IsLowercase (Char.ofNat n) := by decide
  intro n hn
  obtain ⟨s, hs, hn⟩ := List.mem_flatMap.mp hn
  obtain ⟨hlow, hhigh⟩ := Shift.range_of_mem_images hn
  obtain ⟨hvalid, hdot, hascii⟩ := htable s hs
  have hvalid : n.isValidChar := hvalid.imp (by omega) (by omega)
  refine ⟨(Char.toNat_ofNat n).trans (if_pos hvalid), by omega, ?_⟩
  rcases hascii with hbeyond | hwithin
  · exact .inl (hbeyond.trans hlow)
  · exact .inr (hsmall n (by omega) (by omega))

/-- What holds of the first 128 characters, one by one. -/
theorem forall_ascii {P : Char → Prop} (h : ∀ n < 128, P (Char.ofNat n)) {c : Char} (hc : c.toNat < 128) : P c := by
  have := h c.toNat hc
  rwa [Char.ofNat_toNat] at this

theorem toLower_cases {c : Char} (h : c.toNat < 128) :
    IsLowercase c.toLower ∧ (c.toLower = c ∨ c.toLower.isLower = true) :=
  forall_ascii (P := fun c => IsLowercase c.toLower ∧ (c.toLower = c ∨ c.toLower.isLower = true)) (by decide) h

theorem lowercaseChar_of_le {c : Char} (h : 128 ≤ c.toNat) (hdot : c.toNat ≠ 0x130) :
    lowercaseChar c = [Char.ofNat (shiftWith lowercaseShifts c.toNat)] := by
  rw [lowercaseChar, if_neg (Nat.not_lt.mpr h), if_neg]
  rintro rfl
  exact hdot rfl

/-- A character that does not stay as it is becomes small letters or characters beyond ASCII. -/
theorem lowercaseChar_cases {c d : Char} (h : d ∈ lowercaseChar c) :
    IsLowercase d ∧ (d = c ∨ d.isLower = true ∨ 128 ≤ d.toNat) := by
  by_cases hlow : c.toNat < 128
  · rw [lowercaseChar, if_pos hlow, List.mem_singleton] at h
    rw [h]
    exact (toLower_cases hlow).imp_right (Or.imp_right .inl)
  · have hlow := Nat.le_of_not_lt hlow
    by_cases hdot : c = '\u0130'
    · subst hdot
      have hall : ((lowercaseChar '\u0130').all fun d =>
          IsLowercase d ∧ (d.isLower = true ∨ 128 ≤ d.toNat)) = true := by decide
      simp only [List.all_eq_true, decide_eq_true_eq] at hall
      exact (hall d h).imp_right .inr
    · have hdot : c.toNat ≠ 0x130 := fun hn => hdot (Char.toNat_inj.mp hn)
      rw [lowercaseChar_of_le hlow hdot, List.mem_singleton] at h
      rcases shiftWith_cases lowercaseShifts c.toNat with hs | hs
      · rw [hs, Char.ofNat_toNat] at h
        subst h
        refine ⟨?_, .inl rfl⟩
        rw [IsLowercase, lowercaseChar_of_le hlow hdot, hs, Char.ofNat_toNat]
      · obtain ⟨hd, hdot, hcases⟩ := image_cases _ hs
        rw [← h] at hd hcases
        rw [← hd] at hs hdot hcases
        rcases hcases with hle | ⟨hsmall, hself⟩
        · refine ⟨?_, .inr (.inr hle)⟩
          rw [IsLowercase, lowercaseChar_of_le hle hdot, shiftWith_image hs, Char.ofNat_toNat]
        · exact ⟨hself, .inr (.inl hsmall)⟩

theorem isLowercase_of_mem {c d : Char} (h : d ∈ lowercaseChar c) : IsLowercase d :=
  (lowercaseChar_cases h).1

/-- Characters of ASCII without case: separators, digits and controls. -/
def IsUncased (c : Char) : Prop := c.toNat < 128 ∧ c.isAlpha = false

theorem IsUncased.isLowercase {c : Char} (h : IsUncased c) : IsLowercase c :=
  forall_ascii (P := fun c => c.isAlpha = false → IsLowercase c) (by decide) h.1 h.2

theorem count_lowercaseChar {x : Char} (hx : IsUncased x) (c : Char) : (lowercaseChar c).count x = [c].count x := by
  by_cases hc : c = x
  · rw [hc, hx.isLowercase]
  · have hnot : x ∉ lowercaseChar c := by
      intro h
      rcases (lowercaseChar_cases h).2 with he | hl | hle
      · exact hc he.symm
      · exact absurd hx.2 (by simp [Char.isAlpha, hl])
      · exact absurd hx.1 (Nat.not_lt.mpr hle)
    rw [List.count_eq_zero_of_not_mem hnot, List.count_eq_zero_of_not_mem (by simpa using Ne.symm hc)]

/-! ## Texts -/

/-- The two forms of the small sigma. -/
theorem isLowercase_sigma (final : Bool) : IsLowercase (if final then '\u03c2' else '\u03c3') := by
  cases final <;> decide

theorem ne_sigma_of_isLowercase {c : Char} (h : IsLowercase c) : c ≠ '\u03a3' := by
  rintro rfl
  exact absurd h (by decide)

theorem lowercaseAfter_nil (before : List Char) : lowercaseAfter before [] = [] := rfl

theorem lowercaseAfter_cons (before : List Char) (c : Char) (rest : List Char) :
    lowercaseAfter before (c :: rest) =
      if c = '\u03a3' then
        (if reachesCased before && !reachesCased rest then '\u03c2' else '\u03c3')
          :: lowercaseAfter (c :: before) rest
      else lowercaseChar c ++ lowercaseAfter (c :: before) rest := rfl

/-- What is lowercase at the front of a text stays there. -/
theorem lowercaseAfter_append {front : List Char} (h : ∀ c ∈ front, IsLowercase c) (before rest : List Char) :
    lowercaseAfter before (front ++ rest) = front ++ lowercaseAfter (front.reverse ++ before) rest := by
  induction front generalizing before with
  | nil => rfl
  | cons c front ih =>
      obtain ⟨hc, hfront⟩ := List.forall_mem_cons.mp h
      rw [List.cons_append, lowercaseAfter_cons, if_neg (ne_sigma_of_isLowercase hc), hc, ih hfront]
      simp

theorem isLowercase_of_mem_lowercaseAfter {before text : List Char} {d : Char}
    (h : d ∈ lowercaseAfter before text) : IsLowercase d := by
  induction text generalizing before with
  | nil => exact absurd h List.not_mem_nil
  | cons c rest ih =>
      rw [lowercaseAfter_cons] at h
      split at h
      · rcases List.mem_cons.mp h with rfl | h
        · exact isLowercase_sigma _
        · exact ih h
      · rcases List.mem_append.mp h with h | h
        · exact isLowercase_of_mem h
        · exact ih h

theorem count_lowercaseAfter {x : Char} (hx : IsUncased x) (before text : List Char) :
    (lowercaseAfter before text).count x = text.count x := by
  induction text generalizing before with
  | nil => rfl
  | cons c rest ih =>
      rw [lowercaseAfter_cons, ← List.singleton_append (l := rest), List.count_append]
      split
      · rename_i hc
        have hsigma (final : Bool) : x ∉ [if final then '\u03c2' else '\u03c3'] := by
          rw [List.mem_singleton]
          rintro rfl
          cases final <;> exact absurd hx.1 (by decide)
        have hcapital : x ∉ [c] := by
          rw [List.mem_singleton]
          rintro rfl
          exact absurd hx.1 (by rw [hc]; decide)
        rw [← List.singleton_append, List.count_append, ih, List.count_eq_zero_of_not_mem (hsigma _),
          List.count_eq_zero_of_not_mem hcapital]
      · rw [List.count_append, ih, count_lowercaseChar hx]

/-- A text of lowercase characters is its own lowercase. -/
theorem lowercase_eq_self {text : String} (h : ∀ c ∈ text.toList, IsLowercase c) : lowercase text = text := by
  have := lowercaseAfter_append h [] []
  rw [List.append_nil, lowercaseAfter_nil, List.append_nil] at this
  rw [lowercase, this, String.ofList_toList]

theorem isLowercase_of_mem_lowercase {text : String} {d : Char} (h : d ∈ (lowercase text).toList) : IsLowercase d := by
  rw [lowercase, String.toList_ofList] at h
  exact isLowercase_of_mem_lowercaseAfter h

theorem count_lowercase {x : Char} (hx : IsUncased x) (text : String) :
    (lowercase text).toList.count x = text.toList.count x := by
  rw [lowercase, String.toList_ofList, count_lowercaseAfter hx]

theorem mem_lowercase_iff {x : Char} (hx : IsUncased x) {text : String} :
    x ∈ (lowercase text).toList ↔ x ∈ text.toList := by
  rw [← List.count_pos_iff, count_lowercase hx, List.count_pos_iff]

theorem prefix_lowercase {front text : String} (hfront : ∀ c ∈ front.toList, IsLowercase c)
    (h : front.toList <+: text.toList) : front.toList <+: (lowercase text).toList := by
  obtain ⟨rest, hrest⟩ := h
  rw [lowercase, String.toList_ofList, ← hrest, lowercaseAfter_append hfront]
  exact List.prefix_append _ _

end MetricsAgent.Unicode
