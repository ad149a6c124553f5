import MetricsAgent.Proofs.Json.Tokens
import Mathlib.Data.List.Induction

/-!
# Decimal numerals

The texts of digits are the numerals of numbers: the digits of a number, behind as many zeros as one likes. The
value of a run of digits is the number that it is a numeral of.
-/

namespace MetricsAgent.Decimal

/-- The digits of a number, perhaps with zeros before them. -/
def IsNumeral (n : Nat) (text : List Char) : Prop :=
  ∃ zeros, text = List.replicate zeros '0' ++ Nat.toDigits 10 n

variable {n : Nat} {text : List Char} {c : Char}

theorem digitsValue_append (acc : Nat) (cs ds : List Char) :
    digitsValue acc (cs ++ ds) = digitsValue (digitsValue acc cs) ds :=
  List.foldl_append

theorem digitsValue_zeros (zeros : Nat) : digitsValue 0 (List.replicate zeros '0') = 0 := by
  induction zeros with
  | zero => rfl
  | succ zeros ih => exact ih

theorem eq_digitChar_of_isDigit (h : c.isDigit = true) : c.toNat - 48 < 10 ∧ c = (c.toNat - 48).digitChar := by
  obtain ⟨hlow, hhigh⟩ : 48 ≤ c.toNat ∧ c.toNat ≤ 57 := by
    simpa [Char.isDigit, UInt32.le_iff_toNat_le] using h
  have hlt : c.toNat - 48 < 10 := by omega
  refine ⟨hlt, Char.toNat_inj.mp ?_⟩
  rw [Nat.toNat_digitChar_of_lt_ten hlt]
  omega

theorem IsNumeral.ne_nil (h : IsNumeral n text) : text ≠ [] := by
  obtain ⟨zeros, rfl⟩ := h
  simp [Nat.toDigits_ne_nil]

theorem IsNumeral.isDigit (h : IsNumeral n text) (hc : c ∈ text) : c.isDigit = true := by
  obtain ⟨zeros, rfl⟩ := h
  rcases List.mem_append.mp hc with hc | hc
  · rw [List.eq_of_mem_replicate hc]
    rfl
  · exact Nat.isDigit_of_mem_toDigits (by decide) (by decide) hc

theorem IsNumeral.not_mem (h : IsNumeral n text) (hc : c.isDigit = false) : c ∉ text :=
  fun hmem => Bool.false_ne_true (hc.symm.trans (h.isDigit hmem))

theorem IsNumeral.digitsValue_eq (h : IsNumeral n text) : digitsValue 0 text = n := by
  obtain ⟨zeros, rfl⟩ := h
  rw [digitsValue_append, digitsValue_zeros, Json.digitsValue_toDigits]

/-- One more digit behind a numeral makes the numeral of ten times the number and the digit. -/
theorem IsNumeral.concat (h : IsNumeral n text) {d : Nat} (hd : d < 10) :
    IsNumeral (n * 10 + d) (text ++ [d.digitChar]) := by
  obtain ⟨zeros, rfl⟩ := h
  rw [← Nat.toDigits_of_lt_base (b := 10) hd]
  rcases Nat.eq_zero_or_pos n with rfl | hn
  · refine ⟨zeros + 1, ?_⟩
    simp [List.replicate_succ', Nat.toDigits_zero]
  · refine ⟨zeros, ?_⟩
    rw [List.append_assoc, Nat.toDigits_append_toDigits (by decide) hn hd, Nat.mul_comm]

theorem isNumeral_digitsValue (hne : text ≠ []) (h : ∀ c ∈ text, c.isDigit = true) :
    IsNumeral (digitsValue 0 text) text := by
  induction text using List.reverseRecOn with
  | nil => contradiction
  | append_singleton text c ih =>
      obtain ⟨hlt, hc⟩ := eq_digitChar_of_isDigit (h c (by simp))
      have hvalue : digitsValue 0 (text ++ [c]) = digitsValue 0 text * 10 + (c.toNat - 48) := by
        rw [digitsValue_append]
        rfl
      rw [hvalue]
      cases text with
      | nil =>
          refine ⟨0, ?_⟩
          have hzero : digitsValue 0 [] = 0 := rfl
          rw [hzero, Nat.zero_mul, Nat.zero_add, Nat.toDigits_of_lt_base hlt, ← hc]
          rfl
      | cons d text =>
          have := (ih (by simp) fun c hc => h c (List.mem_append_left _ hc)).concat hlt
          rwa [← hc] at this

theorem isNumeral_iff :
    IsNumeral n text ↔ text ≠ [] ∧ (∀ c ∈ text, c.isDigit = true) ∧ digitsValue 0 text = n :=
  ⟨fun h => ⟨h.ne_nil, fun _ => h.isDigit, h.digitsValue_eq⟩, fun ⟨hne, hd, hv⟩ => hv ▸ isNumeral_digitsValue hne hd⟩

end MetricsAgent.Decimal
