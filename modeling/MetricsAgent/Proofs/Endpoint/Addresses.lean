import MetricsAgent.Proofs.Endpoint.Parts
import MetricsAgent.Unicode.CodePoints

/-!
# Addresses as hosts

An address of four bytes is written in dotted decimal numbers, one of eight numbers in hexadecimal digits with colons
between them. A URL has the latter between brackets, since its colons would be taken for that of a port. The
endpoint's host keeps the brackets.
-/

namespace MetricsAgent

/-- The text of an address of four bytes. -/
def dottedAddress (a b c d : UInt8) : String :=
  toString a.toNat ++ "." ++ toString b.toNat ++ "." ++ toString c.toNat ++ "." ++ toString d.toNat

/-- One of the eight numbers of an address, in hexadecimal digits. -/
structure IsAddressGroup (text : String) : Prop where
  ne_empty : text ≠ ""
  length_le : text.length ≤ 4
  digit : ∀ c ∈ text.toList, (Unicode.hexDigit? c).isSome = true

/-- The text of an address of eight numbers, in which zeros may be left out at one place. -/
inductive IsGroupedAddress : String → Prop
  | full {groups : List String} (hlength : groups.length = 8) (hgroups : ∀ g ∈ groups, IsAddressGroup g) :
      IsGroupedAddress (":".intercalate groups)
  | short {before after : List String} (hlength : before.length + after.length < 8)
      (hbefore : ∀ g ∈ before, IsAddressGroup g) (hafter : ∀ g ∈ after, IsAddressGroup g) :
      IsGroupedAddress (":".intercalate before ++ "::" ++ ":".intercalate after)

/-- An address as the host of a URL. -/
def bracketed (address : String) : String := "[" ++ address ++ "]"

theorem toList_bracketed (address : String) : (bracketed address).toList = '[' :: (address.toList ++ [']']) := by
  simp [bracketed]

variable {groups : List String} {address : String} {text : List Char} {c : Char}

/-! ## Characters -/

theorem isNameChar_of_hexDigit? (h : (Unicode.hexDigit? c).isSome = true) : Url.IsNameChar c := by
  have hlow : c.toNat < 128 := by
    have hle {d : Char} (hd : d.toNat < 128) (hc : c ≤ d) : c.toNat < 128 := Nat.lt_of_le_of_lt hc hd
    unfold Unicode.hexDigit? at h
    split_ifs at h with hdigit hsmall hcapital
    · exact hle (by decide) hdigit.2
    · exact hle (by decide) hsmall.2
    · exact hle (by decide) hcapital.2
    · contradiction
  exact Unicode.forall_ascii (P := fun c => (Unicode.hexDigit? c).isSome = true → Url.IsNameChar c)
    (by decide) hlow h

theorem not_mem_dottedAddress (hc : c.isDigit = false) (hdot : c ≠ '.') (a b x y : UInt8) :
    c ∉ (dottedAddress a b x y).toList := by
  have hnumber (n : Nat) : c ∉ Nat.toDigits 10 n := Decimal.IsNumeral.not_mem ⟨0, rfl⟩ hc
  simp [dottedAddress, hnumber, hdot]

theorem isNameChar_or_eq_of_mem_intercalate (h : ∀ g ∈ groups, IsAddressGroup g)
    (hc : c ∈ (":".intercalate groups).toList) : Url.IsNameChar c ∨ c = ':' := by
  induction groups with
  | nil => simp at hc
  | cons g groups ih =>
      obtain ⟨hg, hgroups⟩ := List.forall_mem_cons.mp h
      cases groups with
      | nil => exact .inl (isNameChar_of_hexDigit? (hg.digit c (by simpa using hc)))
      | cons g' groups =>
          rw [String.intercalate_cons_cons, String.toList_append, String.toList_append, List.mem_append,
            List.mem_append] at hc
          rcases hc with (hc | hc) | hc
          · exact .inl (isNameChar_of_hexDigit? (hg.digit c hc))
          · exact .inr (by simpa using hc)
          · exact ih hgroups hc

theorem count_intercalate (h : ∀ g ∈ groups, IsAddressGroup g) :
    (":".intercalate groups).toList.count ':' = groups.length - 1 := by
  have hcount {g : String} (hg : IsAddressGroup g) : g.toList.count ':' = 0 :=
    List.count_eq_zero.mpr fun hc => Bool.false_ne_true (hg.digit ':' hc)
  induction groups with
  | nil => simp
  | cons g groups ih =>
      obtain ⟨hg, hgroups⟩ := List.forall_mem_cons.mp h
      cases groups with
      | nil => simp [hcount hg]
      | cons g' groups =>
          have hcolon : ":".toList.count ':' = 1 := rfl
          simp only [String.intercalate_cons_cons, String.toList_append, List.count_append, hcount hg, hcolon,
            ih hgroups, List.length_cons]
          omega

theorem length_intercalate_le (h : ∀ g ∈ groups, IsAddressGroup g) :
    (":".intercalate groups).length ≤ 5 * groups.length := by
  induction groups with
  | nil => simp
  | cons g groups ih =>
      obtain ⟨hg, hgroups⟩ := List.forall_mem_cons.mp h
      have hg := hg.length_le
      have ih := ih hgroups
      cases groups with
      | nil => simp; omega
      | cons g' groups =>
          have hcolon : ":".length = 1 := rfl
          simp only [String.intercalate_cons_cons, String.length_append, List.length_cons] at ih ⊢
          omega

namespace IsGroupedAddress

theorem isNameChar_or_eq (h : IsGroupedAddress address) (hc : c ∈ address.toList) :
    Url.IsNameChar c ∨ c = ':' := by
  cases h with
  | full hlength hgroups => exact isNameChar_or_eq_of_mem_intercalate hgroups hc
  | short hlength hbefore hafter =>
      rw [String.toList_append, String.toList_append, List.mem_append, List.mem_append] at hc
      rcases hc with (hc | hc) | hc
      · exact isNameChar_or_eq_of_mem_intercalate hbefore hc
      · exact .inr (by simpa using hc)
      · exact isNameChar_or_eq_of_mem_intercalate hafter hc

/-- As many colons as may stand between brackets. -/
theorem count_le (h : IsGroupedAddress address) : address.toList.count ':' ≤ Uri.maxColons := by
  cases h with
  | full hlength hgroups =>
      rw [count_intercalate hgroups, hlength]
      decide
  | short hlength hbefore hafter =>
      have htwo : "::".toList.count ':' = 2 := rfl
      rw [String.toList_append, String.toList_append, List.count_append, List.count_append,
        count_intercalate hbefore, count_intercalate hafter, htwo, Uri.maxColons]
      omega

theorem length_le (h : IsGroupedAddress address) : address.length ≤ 42 := by
  cases h with
  | full hlength hgroups =>
      have := length_intercalate_le hgroups
      omega
  | short hlength hbefore hafter =>
      have hb := length_intercalate_le hbefore
      have ha := length_intercalate_le hafter
      have htwo : "::".length = 2 := rfl
      rw [String.length_append, String.length_append]
      omega

end IsGroupedAddress

/-! ## Addresses in URLs -/

theorem foldlM_groups (h : ∀ c ∈ text, Url.IsNameChar c ∨ c = ':') {s : Uri.AuthorityScan}
    (hs : s.colons + text.count ':' ≤ Uri.maxColons) :
    text.foldlM Uri.AuthorityScan.step s = .ok { s with colons := s.colons + text.count ':' } := by
  induction text generalizing s with
  | nil => rfl
  | cons c text ih =>
      obtain ⟨hc, htext⟩ := List.forall_mem_cons.mp h
      rw [List.foldlM_cons]
      rcases hc with hc | rfl
      · have hne : c ≠ ':' := by
          rintro rfl
          exact absurd hc (by decide)
        rw [List.count_cons_of_ne hne] at hs ⊢
        rw [hc.step_eq]
        exact ih htext hs
      · rw [List.count_cons_self] at hs ⊢
        have hlt : ¬ Uri.maxColons ≤ s.colons := by omega
        have hstep : s.step ':' = .ok { s with colons := s.colons + 1 } := by
          rw [Uri.AuthorityScan.step, if_pos rfl, if_neg hlt]
        rw [hstep]
        refine (ih htext (s := { s with colons := s.colons + 1 }) (by simp only; omega)).trans ?_
        simp only [Nat.add_assoc, Nat.add_comm 1]

theorem utf8ByteSize_le (text : String) : text.utf8ByteSize ≤ 4 * text.length := by
  rw [← String.ofList_toList (s := text), String.utf8ByteSize_ofList, String.length_ofList]
  induction text.toList with
  | nil => exact Nat.le_refl _
  | cons c text ih =>
      have hc := c.utf8Size_le_four
      rw [String.utf8Len_cons, List.length_cons]
      omega

namespace IsGroupedAddress

theorem not_mem_bracketed (h : IsGroupedAddress address) (hc : ¬ Url.IsNameChar c) (hmarks : c ∉ [':', '[', ']']) :
    c ∉ (bracketed address).toList := by
  simp only [List.mem_cons, List.not_mem_nil, or_false, not_or] at hmarks
  rw [toList_bracketed, List.mem_cons, List.mem_append, List.mem_singleton]
  rintro (rfl | hmem | rfl)
  · exact hmarks.2.1 rfl
  · exact (h.isNameChar_or_eq hmem).elim hc hmarks.1
  · exact hmarks.2.2 rfl

theorem splitAuthority (h : IsGroupedAddress address) :
    Uri.splitAuthority ((bracketed address).toList ++ ['/']) = .ok ((bracketed address).toList, ['/']) := by
  have hspan : ((bracketed address).toList ++ ['/']).span (fun c => !Uri.endsAuthority c)
      = ((bracketed address).toList, ['/']) := by
    refine span_append (fun c hc => ?_) fun c hc => ?_
    · rw [Bool.not_eq_true', ← Bool.not_eq_true]
      intro hends
      refine h.not_mem_bracketed (fun hname => ?_) ?_ hc
      · exact Bool.false_ne_true (hname.isAuthorityChar.2.1.symm.trans hends)
      · rintro hmark
        simp only [List.mem_cons, List.not_mem_nil, or_false] at hmark
        rcases hmark with rfl | rfl | rfl <;> contradiction
    · obtain rfl : '/' = c := by simpa using hc
      rfl
  have hfold : (bracketed address).toList.foldlM Uri.AuthorityScan.step {}
      = .ok { opened := true, closed := true } := by
    have hopen : Uri.AuthorityScan.step {} '[' = .ok { opened := true } := rfl
    rw [toList_bracketed, List.foldlM_cons, hopen]
    refine (List.foldlM_append ..).trans ?_
    rw [foldlM_groups (fun c => h.isNameChar_or_eq) (by simpa using h.count_le)]
    rfl
  have hlast : (bracketed address).toList.getLast? ≠ some '@' := by
    simp [toList_bracketed, List.getLast?_cons]
  rw [Uri.splitAuthority, hspan]
  simp [hfold, hlast, bind, Except.bind]

theorem host_eq (h : IsGroupedAddress address) (scheme : Option Scheme) (path : List Char) :
    Uri.host ⟨scheme, (bracketed address).toList, path⟩ = (bracketed address).toList := by
  have hat : '@' ∉ (bracketed address).toList := h.not_mem_bracketed (by decide) (by decide)
  have hclose : ']' ∉ address.toList := fun hc => absurd (h.isNameChar_or_eq hc) (by decide)
  rw [Uri.host, Uri.hostAndPort_eq_self hat, toList_bracketed]
  simp [List.takeWhile_append_of_pos (bne_of_not_mem hclose)]

/-- What follows the last colon of an address ends with its bracket, and is no port. -/
theorem port?_eq_none (scheme : Option Scheme) (address : String) (path : List Char) :
    Uri.port? ⟨scheme, (bracketed address).toList, path⟩ = none := by
  have hread (last : List Char) : Uri.readPort? (last ++ [']']) = none := by
    refine Option.eq_none_iff_forall_ne_some.mpr fun n hn => ?_
    have hclose : ']' ∈ last ++ [']'] := by simp
    exact (Uri.readPort?_eq_some_iff.mp hn).not_mem rfl (by decide) hclose
  rw [Uri.port?]
  split
  · simp [toList_bracketed, hread]
  · rfl

/-- The shortest URL with an address is accepted, and its host is the address in brackets. -/
theorem parse_url (h : IsGroupedAddress address) :
    Endpoint.parse ("http://" ++ bracketed address ++ "/") = .ok ⟨bracketed address, 80, "/", false⟩ := by
  have htext : ("http://" ++ bracketed address ++ "/").toList
      = 'h' :: 't' :: ('t' :: 'p' :: ':' :: '/' :: '/' :: ((bracketed address).toList ++ ['/'])) := by
    simp
  have hsize : ("http://" ++ bracketed address ++ "/").utf8ByteSize ≤ Uri.maxSize := by
    refine (utf8ByteSize_le _).trans ?_
    have hlength := h.length_le
    simp only [bracketed, String.length_append]
    change 4 * (7 + (1 + _ + 1) + 1) ≤ 65534
    omega
  have hne : (bracketed address).toList ≠ [] := by simp [toList_bracketed]
  have huri : Uri.parse ("http://" ++ bracketed address ++ "/")
      = .ok ⟨some .http, (bracketed address).toList, ['/']⟩ := by
    rw [Url.parse_eq_parseFull htext (by decide) hsize, htext, Uri.parseFull]
    have hpath : Uri.readPath ['/'] = .ok ['/'] := rfl
    simp [Uri.splitScheme, Uri.dropLowercase?, bind, Except.bind, pure, Except.pure, h.splitAuthority, hne, hpath]
  rw [Endpoint.parse, huri]
  simp only [Endpoint.ofUri, h.host_eq, port?_eq_none, if_neg hne, String.ofList_toList]
  rfl

end IsGroupedAddress

end MetricsAgent
