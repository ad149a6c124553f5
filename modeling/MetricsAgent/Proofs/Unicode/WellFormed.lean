import MetricsAgent.Unicode.Decoding

/-!
# Well-formed bytes

The bytes of characters are read as these characters, each by what its first byte tells. Bytes that are the bytes
of no text are read as one that has others, and whatever the bytes are, an ASCII character is read only where its
byte stands.
-/

namespace MetricsAgent.Unicode

/-! ## Bytes -/

theorem toNat_ofNat {n : Nat} (h : n < 256) : (UInt8.ofNat n).toNat = n := by
  rw [UInt8.toNat_ofNat']
  exact Nat.mod_eq_of_lt h

theorem ofByte?_eq (b : UInt8) : Lead.ofByte? b =
    if b.toNat < 0x80 then some { following := 0, bits := b.toNat }
    else if b.toNat < 0xc2 then none
    else if b.toNat < 0xe0 then some { following := 1, bits := b.toNat - 0xc0 }
    else if b.toNat < 0xf0 then
      some {
        following := 2
        low := if b.toNat = 0xe0 then 0xa0 else 0x80
        high := if b.toNat = 0xed then 0x9f else 0xbf
        bits := b.toNat - 0xe0 }
    else if b.toNat < 0xf5 then
      some {
        following := 3
        low := if b.toNat = 0xf0 then 0x90 else 0x80
        high := if b.toNat = 0xf4 then 0x8f else 0xbf
        bits := b.toNat - 0xf0 }
    else none := by
  simp only [Lead.ofByte?, UInt8.lt_iff_toNat_lt, ← UInt8.toNat_inj]
  rfl

theorem ofByte?_two {m : Nat} (hlow : 2 ≤ m) (hhigh : m < 32) :
    Lead.ofByte? (.ofNat (m + 0xc0)) = some { following := 1, bits := m } := by
  rw [ofByte?_eq, toNat_ofNat (by omega), if_neg (by omega), if_neg (by omega), if_pos (by omega),
    Nat.add_sub_cancel]

theorem ofByte?_three {m : Nat} (h : m < 16) : Lead.ofByte? (.ofNat (m + 0xe0)) = some {
    following := 2
    low := if m = 0 then 0xa0 else 0x80
    high := if m = 13 then 0x9f else 0xbf
    bits := m } := by
  have hlow : m + 0xe0 = 0xe0 ↔ m = 0 := by omega
  have hhigh : m + 0xe0 = 0xed ↔ m = 13 := by omega
  rw [ofByte?_eq, toNat_ofNat (by omega), if_neg (by omega), if_neg (by omega), if_neg (by omega),
    if_pos (by omega), Nat.add_sub_cancel]
  simp only [hlow, hhigh]

theorem ofByte?_four {m : Nat} (h : m < 5) : Lead.ofByte? (.ofNat (m + 0xf0)) = some {
    following := 3
    low := if m = 0 then 0x90 else 0x80
    high := if m = 4 then 0x8f else 0xbf
    bits := m } := by
  have hlow : m + 0xf0 = 0xf0 ↔ m = 0 := by omega
  have hhigh : m + 0xf0 = 0xf4 ↔ m = 4 := by omega
  rw [ofByte?_eq, toNat_ofNat (by omega), if_neg (by omega), if_neg (by omega), if_neg (by omega),
    if_neg (by omega), if_pos (by omega), Nat.add_sub_cancel]
  simp only [hlow, hhigh]

theorem readFollowing_succ (k : Nat) {low high : UInt8} {m : Nat} (bits : Nat) (rest : List UInt8) (hm : m < 64)
    (hlow : low.toNat ≤ m + 0x80) (hhigh : m + 0x80 ≤ high.toNat) :
    readFollowing (k + 1) low high bits (UInt8.ofNat (m + 0x80) :: rest) =
      readFollowing k 0x80 0xbf (bits * 64 + m) rest := by
  have hb := toNat_ofNat (show m + 0x80 < 256 by omega)
  have hin : low ≤ UInt8.ofNat (m + 0x80) ∧ UInt8.ofNat (m + 0x80) ≤ high := by
    rw [UInt8.le_iff_toNat_le, UInt8.le_iff_toNat_le, hb]
    exact ⟨hlow, hhigh⟩
  rw [readFollowing, if_pos hin, hb]
  congr 1
  omega

theorem readFollowing_last {k m : Nat} (bits : Nat) (rest : List UInt8) (hm : m < 64) :
    readFollowing (k + 1) 0x80 0xbf bits (UInt8.ofNat (m + 0x80) :: rest) =
      readFollowing k 0x80 0xbf (bits * 64 + m) rest :=
  readFollowing_succ k bits rest hm (Nat.le_add_left ..) (by change _ ≤ 0xbf; omega)

theorem decode_cons {b : UInt8} {l : Lead} {c : Char} {bytes rest : List UInt8} (hl : Lead.ofByte? b = some l)
    (hr : l.read bytes = (some c.toNat, rest)) : decode (b :: bytes) = c :: decode rest := by
  rw [decode, hl]
  simp [hr, Char.ofNat_toNat]

/-! ## The bytes of characters -/

theorem decode_utf8EncodeChar (c : Char) (rest : List UInt8) :
    decode (String.utf8EncodeChar c ++ rest) = c :: decode rest := by
  have hvalid : c.toNat < 0xd800 ∨ 0xdfff < c.toNat ∧ c.toNat < 0x110000 := c.valid
  fun_cases String.utf8EncodeChar c with
  | case1 n h =>
      refine decode_cons (l := { following := 0, bits := n }) ?_ rfl
      rw [ofByte?_eq, toNat_ofNat (by omega), if_pos (by omega)]
  | case2 n h h' =>
      have hc : c.toNat = n := rfl
      clear_value n
      have hn : c.toNat = n / 64 % 32 * 64 + n % 64 := by omega
      refine decode_cons (ofByte?_two (by omega) (by omega)) ((readFollowing_last _ rest (by omega)).trans ?_)
      rw [readFollowing, hn]
  | case3 n h h' h'' =>
      have hc : c.toNat = n := rfl
      clear_value n
      have hn : c.toNat = (n / 4096 % 16 * 64 + n / 64 % 64) * 64 + n % 64 := by omega
      refine decode_cons (ofByte?_three (by omega)) ((readFollowing_succ 1 _ _ (by omega) ?_ ?_).trans ?_)
      -- Smaller characters are shorter, and the surrogates are none.
      · dsimp only
        split <;> simp only [UInt8.reduceToNat] <;> omega
      · dsimp only
        split <;> simp only [UInt8.reduceToNat] <;> omega
      · refine (readFollowing_last _ rest (by omega)).trans ?_
        rw [readFollowing, hn]
  | case4 n h h' h'' =>
      have hc : c.toNat = n := rfl
      clear_value n
      have hn : c.toNat = ((n / 262144 % 8 * 64 + n / 4096 % 64) * 64 + n / 64 % 64) * 64 + n % 64 := by omega
      refine decode_cons (ofByte?_four (by omega)) ((readFollowing_succ 2 _ _ (by omega) ?_ ?_).trans ?_)
      · dsimp only
        split <;> simp only [UInt8.reduceToNat] <;> omega
      · dsimp only
        split <;> simp only [UInt8.reduceToNat] <;> omega
      · refine (readFollowing_last _ _ (by omega)).trans ((readFollowing_last _ rest (by omega)).trans ?_)
        rw [readFollowing, hn]

theorem decode_flatMap_utf8EncodeChar (cs : List Char) : decode (cs.flatMap String.utf8EncodeChar) = cs := by
  induction cs with
  | nil => rw [List.flatMap_nil, decode]
  | cons c cs ih => rw [List.flatMap_cons, decode_utf8EncodeChar, ih]

/-- Bytes are the bytes of the text that they are read as exactly if they are those of any text. -/
theorem toByteArray_textOfBytes_iff {bytes : ByteArray} :
    (textOfBytes bytes).toByteArray = bytes ↔ bytes.IsValidUTF8 := by
  constructor
  · intro h
    rw [← h]
    exact (textOfBytes bytes).isValidUTF8
  · rintro ⟨cs, rfl⟩
    rw [textOfBytes, List.utf8Encode, List.data_toByteArray, decode_flatMap_utf8EncodeChar]
    exact String.toByteArray_ofList

/-! ## ASCII -/

theorem suffix_readFollowing (k : Nat) (low high : UInt8) (bits : Nat) (bytes : List UInt8) :
    (readFollowing k low high bits bytes).2 <:+ bytes := by
  fun_induction readFollowing k low high bits bytes with
  | case1 => exact List.suffix_rfl
  | case2 => exact List.suffix_rfl
  | case3 _ _ _ _ b rest _ ih => exact ih.trans (List.suffix_cons b rest)
  | case4 => exact List.suffix_rfl

theorem le_of_readFollowing {k : Nat} {low high : UInt8} {bits : Nat} {bytes : List UInt8} {n : Nat}
    (h : (readFollowing k low high bits bytes).1 = some n) : bits ≤ n := by
  fun_induction readFollowing k low high bits bytes with
  | case1 => simp_all
  | case2 => cases h
  | case3 k _ _ bits b rest _ ih =>
      have := ih h
      omega
  | case4 => cases h

section Following

variable {k : Nat} {low high : UInt8} {bits : Nat} {bytes : List UInt8} {n : Nat} (hlow : 0x80 ≤ low.toNat)
  (hhigh : high.toNat ≤ 0xbf)
include hlow hhigh

/-- The byte after the first counts from the least that it may be. -/
theorem exists_of_readFollowing_succ (h : (readFollowing (k + 1) low high bits bytes).1 = some n) :
    ∃ more rest, bits * 64 + (low.toNat - 0x80) ≤ more ∧ (readFollowing k 0x80 0xbf more rest).1 = some n := by
  cases bytes with
  | nil => cases h
  | cons b rest =>
      rw [readFollowing] at h
      split at h
      · rename_i hb
        rw [UInt8.le_iff_toNat_le, UInt8.le_iff_toNat_le] at hb
        exact ⟨_, rest, by omega, h⟩
      · cases h

theorem le_of_readFollowing_two (h : (readFollowing (k + 2) low high bits bytes).1 = some n) :
    (bits * 64 + (low.toNat - 0x80)) * 64 ≤ n := by
  obtain ⟨more, rest, hmore, hn⟩ := exists_of_readFollowing_succ hlow hhigh h
  obtain ⟨all, _, hall, hn⟩ := exists_of_readFollowing_succ (by decide) (by decide) hn
  have := le_of_readFollowing hn
  omega

end Following

theorem range_of_ofByte? {b : UInt8} {l : Lead} (h : Lead.ofByte? b = some l) :
    0x80 ≤ l.low.toNat ∧ l.high.toNat ≤ 0xbf := by
  unfold Lead.ofByte? at h
  split at h
  · cases h
    exact ⟨Nat.le_refl _, Nat.le_refl _⟩
  · split at h
    · cases h
    · split at h
      · cases h
        exact ⟨Nat.le_refl _, Nat.le_refl _⟩
      · split at h
        · cases h
          constructor <;> dsimp only <;> split <;> decide
        · split at h <;> cases h
          constructor <;> dsimp only <;> split <;> decide

/-- A character of several bytes is not ASCII. -/
theorem eq_or_le_of_read {b : UInt8} {l : Lead} {bytes : List UInt8} {n : Nat} (hl : Lead.ofByte? b = some l)
    (hn : (l.read bytes).1 = some n) : n = b.toNat ∨ 0x80 ≤ n := by
  obtain ⟨hlow, hhigh⟩ := range_of_ofByte? hl
  rw [ofByte?_eq] at hl
  split at hl
  · cases hl
    exact .inl (Option.some_inj.mp hn).symm
  · refine .inr ?_
    split at hl
    · cases hl
    · split at hl
      · cases hl
        obtain ⟨more, _, hmore, hn⟩ := exists_of_readFollowing_succ hlow hhigh hn
        have := le_of_readFollowing hn
        dsimp only at hmore
        omega
      · -- Where the first byte adds nothing, the range of the second keeps the character from being too small.
        split at hl
        · cases hl
          have h := le_of_readFollowing_two hlow hhigh hn
          dsimp only at h
          split at h <;> simp only [UInt8.reduceToNat] at h <;> omega
        · split at hl <;> cases hl
          have h := le_of_readFollowing_two hlow hhigh hn
          dsimp only at h
          split at h <;> simp only [UInt8.reduceToNat] at h <;> omega

theorem toNat_ofNat_of_pos {n : Nat} (h : 0 < (Char.ofNat n).toNat) : (Char.ofNat n).toNat = n := by
  by_cases hn : n.isValidChar
  · rw [Char.ofNat, dif_pos hn]
    rfl
  · rw [Char.ofNat, dif_neg hn] at h
    cases h

/-- An ASCII character other than NUL is read only where its byte stands. -/
theorem byte_mem_of_mem_decode {c : Char} {bytes : List UInt8} (hpos : 0 < c.toNat) (h : c.toNat < 0x80)
    (hc : c ∈ decode bytes) : UInt8.ofNat c.toNat ∈ bytes := by
  induction bytes using decode.induct with
  | case1 => simp [decode] at hc
  | case2 b rest hl ih =>
      rw [decode, hl] at hc
      rcases List.mem_cons.mp hc with rfl | hc
      · exact absurd h (by decide)
      · exact List.mem_cons_of_mem _ (ih hc)
  | case3 b rest l hl hlen ih =>
      rw [decode, hl] at hc
      rcases List.mem_cons.mp hc with hc | hc
      · cases hn : (l.read rest).1 with
        | none =>
            rw [hn] at hc
            subst hc
            exact absurd h (by decide)
        | some n =>
            rw [hn, Option.map_some, Option.getD_some] at hc
            have hcn : c.toNat = n := by
              subst hc
              exact toNat_ofNat_of_pos hpos
            rcases eq_or_le_of_read hl hn with rfl | hle
            · rw [hcn, UInt8.ofNat_toNat]
              exact List.mem_cons_self
            · omega
      · exact List.mem_cons_of_mem _ ((suffix_readFollowing ..).subset (ih hc))

end MetricsAgent.Unicode
