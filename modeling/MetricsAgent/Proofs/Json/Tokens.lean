import MetricsAgent.Json.Value

/-!
# Strings and integers read back

A string that was written is read back, whatever characters it has: each is escaped to a text that stands for
one piece, and the pieces join to the characters. An integer that was written is read back as its numeral. The
text after either may be anything that cannot go on a number.
-/

namespace MetricsAgent

/-- A run of elements of a class ends where the first other one stands. -/
theorem takeWhile_dropWhile_append {α : Type} {p : α → Bool} {body rest : List α} (hb : ∀ a ∈ body, p a = true)
    (hr : ∀ a ∈ rest.head?, p a = false) :
    ((body ++ rest).takeWhile p, (body ++ rest).dropWhile p) = (body, rest) := by
  have hrest : rest.takeWhile p = [] ∧ rest.dropWhile p = rest := by
    cases rest with
    | nil => exact ⟨rfl, rfl⟩
    | cons a rest => simp [hr a rfl]
  rw [List.takeWhile_append_of_pos hb, List.dropWhile_append_of_pos hb, hrest.1, hrest.2, List.append_nil]

namespace Json

/-! ## Characters -/

/-- The piece that an escaped character is read as: its code unit, if it has no letter of its own. -/
def Piece.ofChar (c : Char) : Piece :=
  if c.toNat < 32 ∧ c ∉ ['\x08', '\x0c', '\n', '\r', '\t'] then .unit c.toNat else .char c

theorem codeUnit?_hexDigit : ∀ n < 32, codeUnit? '0' '0' (hexDigit (n / 16)) (hexDigit (n % 16)) = some n := by
  decide

theorem readPieces_unit {n : Nat} (h : n < 32) (done : List Piece) (rest : List Char) :
    readPieces done ('\\' :: 'u' :: '0' :: '0' :: hexDigit (n / 16) :: hexDigit (n % 16) :: rest)
      = readPieces (.unit n :: done) rest :=
  readPieces_codeUnit (codeUnit?_hexDigit n h) done rest

/-- A character has an escape of its own, or its code unit is written, or it stands for itself. -/
theorem escapeChar_cases (c : Char) :
    c ∈ ['"', '\\', '\x08', '\x0c', '\n', '\r', '\t'] ∨
    (c.toNat < 32 ∧ Piece.ofChar c = .unit c.toNat ∧
      escapeChar c = ['\\', 'u', '0', '0', hexDigit (c.toNat / 16), hexDigit (c.toNat % 16)]) ∨
    (32 ≤ c.toNat ∧ c ≠ '"' ∧ c ≠ '\\' ∧ Piece.ofChar c = .char c ∧ escapeChar c = [c]) := by
  by_cases hshort : c ∈ ['"', '\\', '\x08', '\x0c', '\n', '\r', '\t']
  · exact .inl hshort
  · simp only [List.mem_cons, List.not_mem_nil, or_false, not_or] at hshort
    obtain ⟨hq, hb, h8, hc, hn, hr, ht⟩ := hshort
    simp only [escapeChar, Piece.ofChar, hq, hb, h8, hc, hn, hr, ht, List.mem_cons, List.not_mem_nil,
      or_false, not_false_eq_true, and_true, ↓reduceIte, false_or, ne_eq]
    by_cases hcontrol : c.toNat < 32
    · exact .inl ⟨hcontrol, if_pos hcontrol, if_pos hcontrol⟩
    · exact .inr ⟨Nat.le_of_not_lt hcontrol, trivial, trivial, if_neg hcontrol, if_neg hcontrol⟩

theorem readPieces_escapeChar (c : Char) (done : List Piece) (rest : List Char) :
    readPieces done (escapeChar c ++ rest) = readPieces (.ofChar c :: done) rest := by
  rcases escapeChar_cases c with hshort | ⟨hcontrol, hp, he⟩ | ⟨hcontrol, hq, hb, hp, he⟩
  · simp only [List.mem_cons, List.not_mem_nil, or_false] at hshort
    rcases hshort with rfl | rfl | rfl | rfl | rfl | rfl | rfl <;> rfl
  · rw [hp, he]
    exact readPieces_unit hcontrol done rest
  · rw [hp, he, List.singleton_append, readPieces]
    · exact if_neg (Nat.not_lt_of_le hcontrol)
    all_goals grind

/-- An escaped character has no control characters. -/
theorem le_toNat_of_mem_escapeChar {c x : Char} (h : x ∈ escapeChar c) : 32 ≤ x.toNat := by
  rcases escapeChar_cases c with hshort | ⟨hcontrol, _, he⟩ | ⟨hcontrol, _, _, _, he⟩
  · have hall : (['"', '\\', '\x08', '\x0c', '\n', '\r', '\t'].all fun c =>
        (escapeChar c).all (32 ≤ ·.toNat)) = true := by decide
    simp only [List.all_eq_true, decide_eq_true_eq] at hall
    exact hall c hshort x h
  · have hall : ∀ n < 32, (['\\', 'u', '0', '0', hexDigit (n / 16), hexDigit (n % 16)].all
        (32 ≤ ·.toNat)) = true := by decide
    simp only [List.all_eq_true, decide_eq_true_eq] at hall
    exact hall _ hcontrol x (he ▸ h)
  · rw [he, List.mem_singleton] at h
    exact h ▸ hcontrol

theorem joinPieces_unit {n : Nat} (h : n < 32) (done : List Char) (rest : List Piece) :
    joinPieces done (.unit n :: rest) = joinPieces (Char.ofNat n :: done) rest := by
  have hhigh : isHighHalf n = false := by simp [isHighHalf]; omega
  have hlow : isLowHalf n = false := by simp [isLowHalf]; omega
  cases rest with
  | nil => simp [joinPieces, hhigh, hlow]
  | cons p rest => cases p <;> simp [joinPieces, hhigh, hlow]

theorem joinPieces_ofChar (done : List Char) (c : Char) (rest : List Piece) :
    joinPieces done (.ofChar c :: rest) = joinPieces (c :: done) rest := by
  unfold Piece.ofChar
  split
  · rename_i h
    rw [joinPieces_unit h.1, Char.ofNat_toNat]
  · rfl

/-! ## Strings -/

theorem readPieces_flatMap (cs : List Char) (done : List Piece) (rest : List Char) :
    readPieces done (cs.flatMap escapeChar ++ '"' :: rest)
      = some (done.reverse ++ cs.map .ofChar, rest) := by
  induction cs generalizing done with
  | nil =>
      rw [List.map_nil, List.append_nil]
      rfl
  | cons c cs ih => simp [readPieces_escapeChar, ih]

theorem joinPieces_map (cs done : List Char) :
    joinPieces done (cs.map .ofChar) = some (done.reverse ++ cs) := by
  induction cs generalizing done with
  | nil =>
      rw [List.append_nil]
      rfl
  | cons c cs ih => simp [joinPieces_ofChar, ih]

theorem toList_writeString (s : String) :
    (writeString s).toList = '"' :: s.toList.flatMap escapeChar ++ ['"'] := by
  simp [writeString]

/-- A string that was written is read back, and what stands after it is left. -/
theorem readString_write (s : String) (rest : List Char) :
    readString (s.toList.flatMap escapeChar ++ '"' :: rest) = some (some s, rest) := by
  simp [readString, readPieces_flatMap, joinPieces_map]

/-! ## Integers -/

/-- A number cannot go on here. -/
def Ends (rest : List Char) : Prop := ∀ c ∈ rest.head?, c = ',' ∨ c = ']' ∨ c = '\x7d'

theorem ends_nil : Ends [] := by
  rintro c ⟨⟩

theorem ends_cons {c : Char} (h : c = ',' ∨ c = ']' ∨ c = '\x7d') (rest : List Char) : Ends (c :: rest) := by
  rintro _ ⟨⟩
  exact h

theorem ends_comma (rest : List Char) : Ends (',' :: rest) := ends_cons (.inl rfl) rest

theorem ends_bracket (rest : List Char) : Ends (']' :: rest) := ends_cons (.inr (.inl rfl)) rest

theorem ends_brace (rest : List Char) : Ends ('\x7d' :: rest) := ends_cons (.inr (.inr rfl)) rest

/-- The numeral of an integer. -/
def Numeral.ofInt (n : Int) : Numeral := ⟨n < 0, n.natAbs, none⟩

theorem digitsValue_toDigits (n : Nat) : Decimal.digitsValue 0 (Nat.toDigits 10 n) = n := by
  have h := Nat.ofDigitChars_ten_toDigits (n := n)
  rw [Nat.ofDigitChars_eq_foldl] at h
  simpa only [Decimal.digitsValue, Nat.mul_comm] using h

/-- Decimal digits have no needless zero. -/
theorem eq_zero_of_head?_toDigits {n : Nat} (h : (Nat.toDigits 10 n).head? = some '0') : n = 0 := by
  induction n using Nat.strongRecOn with
  | ind n ih =>
      by_cases hlt : n < 10
      · simpa [Nat.toDigits_of_lt_base hlt] using h
      · have hle := Nat.le_of_not_lt hlt
        rw [Nat.toDigits_of_base_le (by decide) hle, List.head?_append] at h
        cases hh : (Nat.toDigits 10 (n / 10)).head? with
        | none => exact absurd (List.head?_eq_none_iff.mp hh) Nat.toDigits_ne_nil
        | some c =>
            rw [hh] at h
            cases h
            have hzero := ih (n / 10) (by omega) hh
            omega

theorem spanDigits_append {ds rest : List Char} (hd : ∀ c ∈ ds, c.isDigit = true)
    (hr : ∀ c ∈ rest.head?, c.isDigit = false) : Decimal.spanDigits (ds ++ rest) = (ds, rest) :=
  takeWhile_dropWhile_append hd hr

theorem spanDigits_toDigits (n : Nat) {rest : List Char} (h : Ends rest) :
    Decimal.spanDigits (Nat.toDigits 10 n ++ rest) = (Nat.toDigits 10 n, rest) := by
  refine spanDigits_append (fun c hc => Nat.isDigit_of_mem_toDigits (by decide) (by decide) hc) fun c hc => ?_
  rcases h c hc with rfl | rfl | rfl <;> rfl

theorem readFraction_of_ends {rest : List Char} (h : Ends rest) : readFraction rest = some (none, rest) := by
  cases rest with
  | nil => rfl
  | cons c rest => rcases h c rfl with rfl | rfl | rfl <;> rfl

theorem readExponent_of_ends {rest : List Char} (h : Ends rest) : readExponent rest = some (none, rest) := by
  cases rest with
  | nil => rfl
  | cons c rest => rcases h c rfl with rfl | rfl | rfl <;> rfl

theorem guard_toDigits (n : Nat) :
    (guard (Nat.toDigits 10 n ≠ [] ∧ ((Nat.toDigits 10 n).head? = some '0' → (Nat.toDigits 10 n).length = 1)) :
      Option Unit) = some () := by
  refine if_pos ⟨Nat.toDigits_ne_nil, fun h0 => ?_⟩
  rw [eq_zero_of_head?_toDigits h0]
  rfl

theorem readNumeral_digits (negative : Bool) (n : Nat) {rest : List Char} (h : Ends rest) :
    readNumeral ((if negative then ['-'] else []) ++ Nat.toDigits 10 n ++ rest)
      = some (⟨negative, n, none⟩, rest) := by
  obtain ⟨d, ds, hds⟩ := List.exists_cons_of_ne_nil (Nat.toDigits_ne_nil (n := n) (b := 10))
  have hd : d.isDigit = true := Nat.isDigit_of_mem_toDigits (by decide) (by decide) (hds ▸ List.mem_cons_self)
  have hsign : ∀ tail, Nat.toDigits 10 n ++ rest ≠ '-' :: tail := by
    intro tail he
    rw [hds, List.cons_append, List.cons.injEq] at he
    rw [he.1] at hd
    contradiction
  unfold readNumeral
  split
  rename_i sign cs hs
  have hs : sign = negative ∧ cs = Nat.toDigits 10 n ++ rest := by
    cases negative with
    | true => cases hs; exact ⟨rfl, rfl⟩
    | false =>
        split at hs
        · rename_i he
          exact absurd he (hsign _)
        · cases hs; exact ⟨rfl, rfl⟩
  obtain ⟨rfl, rfl⟩ := hs
  rw [spanDigits_toDigits n h]
  dsimp only
  rw [guard_toDigits, readFraction_of_ends h]
  show (readExponent rest >>= _) = _
  rw [readExponent_of_ends h, digitsValue_toDigits]
  rfl

theorem toList_toString_int (n : Int) :
    (toString n).toList = (if n < 0 then ['-'] else []) ++ Nat.toDigits 10 n.natAbs := by
  rw [Int.toString_eq_repr, Int.repr_eq_if]
  by_cases hn : n < 0
  · have habs : (-n).toNat = n.natAbs := by omega
    simp [hn, Int.not_le.mpr hn, String.toList_append, habs]
  · have habs : n.toNat = n.natAbs := by omega
    simp [hn, Int.not_lt.mp hn, habs]

/-- An integer that was written is read back as its numeral, and what stands after it is left. -/
theorem readNumeral_write (n : Int) {rest : List Char} (h : Ends rest) :
    readNumeral ((toString n).toList ++ rest) = some (.ofInt n, rest) := by
  rw [toList_toString_int]
  simpa [Numeral.ofInt] using readNumeral_digits (decide (n < 0)) n.natAbs h

/-- A numeral of 64 bits denotes the integer it was made of. -/
theorem integer?_ofInt {n : Int} (hlow : minSigned ≤ n) (hhigh : n ≤ maxUnsigned) :
    (Numeral.ofInt n).integer? = some n := by
  unfold Numeral.integer? Numeral.ofInt
  by_cases hn : n < 0
  · have habs : -(n.natAbs : Int) = n := by omega
    have hne : n.natAbs ≠ 0 := by omega
    simp only [hn, habs, hne, hlow, decide_true, ↓reduceIte, ne_eq, not_false_eq_true, and_self]
  · have habs : (n.natAbs : Int) = n := by omega
    simp only [hn, habs, hhigh, decide_false, Bool.false_eq_true, ↓reduceIte]

end Json

end MetricsAgent
