import Mathlib.Data.List.Forall2
import MetricsAgent.Json.Record
import MetricsAgent.Proofs.Json.Tokens

/-!
# Values read back

The text of a value that has no doubles is read as a document with the same value, and it has no control
characters. Both are shown together, by induction on the value: a text that is read as a document may stand as
an item of an array or as the value of a member. The reader needs fuel for twice the length of a text.
-/

namespace MetricsAgent

namespace Json

/-- The text is read as the document, wherever a value may stand, and has no control characters. -/
structure Spells (cs : List Char) (d : Document) : Prop where
  starts : ∃ c tail, cs = c :: tail ∧ isBlank c = false ∧ c ≠ ']'
  printable : ∀ c ∈ cs, 32 ≤ c.toNat
  reads : ∀ {fuel rest}, 2 * cs.length ≤ fuel + 1 → Ends rest →
    readValue (fuel + 1) (cs ++ rest) = some (d, rest)

theorem skipBlanks_cons {c : Char} (h : isBlank c = false) (cs : List Char) : skipBlanks (c :: cs) = c :: cs := by
  simp [skipBlanks, h]

namespace Spells

variable {cs : List Char} {d : Document}

theorem length_pos (h : Spells cs d) : 0 < cs.length := by
  obtain ⟨c, tail, rfl, _⟩ := h.starts
  exact Nat.succ_pos _

theorem read (h : Spells cs d) {fuel : Nat} (hf : 2 * cs.length ≤ fuel) {rest : List Char} (hr : Ends rest) :
    readValue fuel (cs ++ rest) = some (d, rest) := by
  cases fuel with
  | zero =>
      have hpos := h.length_pos
      omega
  | succ fuel => exact h.reads hf hr

theorem skipBlanks_append (h : Spells cs d) (rest : List Char) : skipBlanks (cs ++ rest) = cs ++ rest := by
  obtain ⟨c, tail, rfl, hc, _⟩ := h.starts
  exact skipBlanks_cons hc _

/-! ## Values without parts -/

theorem printable_of_all {cs : List Char} (h : cs.all (32 ≤ ·.toNat) = true) : ∀ c ∈ cs, 32 ≤ c.toNat := by
  simpa only [List.all_eq_true, decide_eq_true_eq] using h

theorem null : Spells "null".toList .null where
  starts := ⟨'n', _, rfl, rfl, by decide⟩
  printable := printable_of_all (by decide)
  reads := fun _ _ => rfl

theorem bool (b : Bool) : Spells (if b then "true" else "false").toList (.bool b) := by
  cases b with
  | true => exact ⟨⟨'t', _, rfl, rfl, by decide⟩, printable_of_all (by decide), fun _ _ => rfl⟩
  | false => exact ⟨⟨'f', _, rfl, rfl, by decide⟩, printable_of_all (by decide), fun _ _ => rfl⟩

theorem printable_writeString (s : String) {c : Char} (hc : c ∈ (writeString s).toList) : 32 ≤ c.toNat := by
  rw [toList_writeString] at hc
  simp only [List.cons_append, List.mem_cons, List.mem_append, List.mem_flatMap, List.not_mem_nil,
    or_false] at hc
  rcases hc with rfl | ⟨x, _, hx⟩ | rfl
  · decide
  · exact le_toNat_of_mem_escapeChar hx
  · decide

theorem string (s : String) : Spells (writeString s).toList (.string (some s)) where
  starts := ⟨'"', s.toList.flatMap escapeChar ++ ['"'], toList_writeString s, rfl, by decide⟩
  printable := fun _ => printable_writeString s
  reads := by
    intro fuel rest _ _
    simp only [toList_writeString, List.cons_append, List.append_assoc, List.nil_append]
    rw [readValue, readString_write]
    rfl

theorem ne_of_numeral {c x : Char} (hc : c = '-' ∨ c.isDigit = true) (hminus : x ≠ '-')
    (hdigit : x.isDigit = false) : c ≠ x := by
  rintro rfl
  rcases hc with h | h
  · exact hminus h
  · rw [hdigit] at h
    contradiction

theorem readValue_numeral {c : Char} (hc : c = '-' ∨ c.isDigit = true) (fuel : Nat) (cs : List Char) :
    readValue (fuel + 1) (c :: cs) = (readNumeral (c :: cs)).map fun (n, rest) => (.number n, rest) := by
  rw [readValue]
  all_goals
    intro rest h
    rw [List.cons.injEq] at h
    exact ne_of_numeral hc (by decide) rfl h.1

theorem numeral_of_mem_toString {n : Int} {c : Char} (hc : c ∈ (toString n).toList) :
    c = '-' ∨ c.isDigit = true := by
  rw [toList_toString_int, List.mem_append] at hc
  rcases hc with hc | hc
  · split at hc
    · exact .inl (List.mem_singleton.mp hc)
    · cases hc
  · exact .inr (Nat.isDigit_of_mem_toDigits (by decide) (by decide) hc)

theorem printable_toString (n : Int) {c : Char} (hc : c ∈ (toString n).toList) : 32 ≤ c.toNat := by
  rcases numeral_of_mem_toString hc with rfl | hc
  · decide
  · exact Nat.le_trans (by decide) (Char.isDigit_iff_toNat.mp hc).1

theorem isBlank_of_numeral {c : Char} (hc : c = '-' ∨ c.isDigit = true) : isBlank c = false := by
  simp only [isBlank, Bool.or_eq_false_iff, beq_eq_false_iff_ne, and_assoc]
  refine ⟨?_, ?_, ?_, ?_⟩ <;> exact ne_of_numeral hc (by decide) rfl

theorem integer (n : Int) : Spells (toString n).toList (.number (.ofInt n)) := by
  have hne : (toString n).toList ≠ [] := by
    rw [toList_toString_int]
    simp [Nat.toDigits_ne_nil]
  obtain ⟨c, tail, hcs⟩ := List.exists_cons_of_ne_nil hne
  have hc := numeral_of_mem_toString (hcs ▸ List.mem_cons_self)
  have hstarts := And.intro (isBlank_of_numeral hc) (ne_of_numeral (x := ']') hc (by decide) rfl)
  refine ⟨⟨c, tail, hcs, hstarts⟩, fun _ => printable_toString n, ?_⟩
  intro fuel rest _ hr
  have hread := readNumeral_write n hr
  rw [hcs, List.cons_append] at hread ⊢
  rw [readValue_numeral hc, hread]
  rfl

end Spells

/-! ## Texts between commas -/

theorem toList_commaSeparated_cons_cons (s t : String) (rest : List String) :
    (commaSeparated (s :: t :: rest)).toList = s.toList ++ ',' :: (commaSeparated (t :: rest)).toList := by
  simp [commaSeparated]

theorem exists_toList_commaSeparated (t : String) (rest : List String) :
    ∃ tail, (commaSeparated (t :: rest)).toList = t.toList ++ tail := by
  cases rest with
  | nil => exact ⟨[], (List.append_nil _).symm⟩
  | cons u rest => exact ⟨_, toList_commaSeparated_cons_cons t u rest⟩

theorem forall_mem_commaSeparated {p : Char → Prop} (hcomma : p ',') {texts : List String}
    (h : ∀ t ∈ texts, ∀ c ∈ t.toList, p c) : ∀ c ∈ (commaSeparated texts).toList, p c := by
  fun_induction commaSeparated texts with
  | case1 => simp
  | case2 s => exact h s List.mem_cons_self
  | case3 s t rest ih =>
      intro c hc
      simp only [String.toList_append, List.mem_append] at hc
      rcases hc with (hc | hc) | hc
      · exact h s List.mem_cons_self c hc
      · rw [List.mem_singleton.mp hc]
        exact hcomma
      · exact ih (fun t ht => h t (List.mem_cons_of_mem _ ht)) c hc

theorem skipBlanks_commaSeparated {t : String} {c : Char} {tail : List Char} (ht : t.toList = c :: tail)
    (hc : isBlank c = false) (texts : List String) (rest : List Char) :
    skipBlanks ((commaSeparated (t :: texts)).toList ++ rest) = (commaSeparated (t :: texts)).toList ++ rest := by
  obtain ⟨more, hmore⟩ := exists_toList_commaSeparated t texts
  rw [hmore, ht]
  exact skipBlanks_cons hc _

theorem printable_enclosed {l r : Char} (hl : 32 ≤ l.toNat) (hr : 32 ≤ r.toNat) {texts : List String}
    (h : ∀ t ∈ texts, ∀ c ∈ t.toList, 32 ≤ c.toNat) :
    ∀ c ∈ l :: ((commaSeparated texts).toList ++ [r]), 32 ≤ c.toNat := by
  intro c hc
  simp only [List.mem_cons, List.mem_append, List.not_mem_nil, or_false] at hc
  rcases hc with rfl | hc | rfl
  · exact hl
  · exact forall_mem_commaSeparated (by decide) h c hc
  · exact hr

/-! ## Arrays -/

theorem readItems_commaSeparated {texts : List String} {ds : List Document}
    (h : List.Forall₂ (fun t d => Spells t.toList d) texts ds) (hne : texts ≠ []) {fuel : Nat}
    (hf : 2 * (commaSeparated texts).toList.length + 1 ≤ fuel) (done : List Document) (rest : List Char) :
    readItems fuel done ((commaSeparated texts).toList ++ ']' :: rest) = some (.array (done.reverse ++ ds), rest) := by
  induction h generalizing fuel done with
  | nil => contradiction
  | @cons t d texts ds ht hts ih =>
      obtain ⟨fuel, rfl⟩ := Nat.exists_eq_add_of_le' (Nat.le_trans (Nat.le_add_left 1 _) hf)
      cases hts with
      | nil =>
          rw [commaSeparated] at hf ⊢
          have hfirst : 2 * t.toList.length ≤ fuel := by omega
          rw [readItems, ht.read hfirst (ends_bracket _)]
          simp [skipBlanks, isBlank]
      | @cons u e texts ds hu hts =>
          obtain ⟨c, tail, hcs, hc, _⟩ := hu.starts
          rw [toList_commaSeparated_cons_cons] at hf ⊢
          rw [List.length_append, List.length_cons] at hf
          have hfirst : 2 * t.toList.length ≤ fuel := by omega
          rw [List.append_assoc, List.cons_append, readItems, ht.read hfirst (ends_comma _)]
          simp only [skipBlanks_cons (c := ',') rfl, skipBlanks_commaSeparated hcs hc]
          rw [ih (List.cons_ne_nil _ _) (by omega)]
          simp

theorem readValue_array {c : Char} (hblank : isBlank c = false) (hclose : c ≠ ']') (fuel : Nat) (cs : List Char) :
    readValue (fuel + 1) ('[' :: c :: cs) = readItems fuel [] (c :: cs) := by
  rw [readValue, skipBlanks_cons hblank]
  split
  · rename_i h
    exact absurd (List.cons.inj h).1 hclose
  · rfl

theorem Spells.array {texts : List String} {ds : List Document}
    (h : List.Forall₂ (fun t d => Spells t.toList d) texts ds) :
    Spells ("[" ++ commaSeparated texts ++ "]").toList (.array ds) := by
  have hprintable : ∀ t ∈ texts, ∀ c ∈ t.toList, 32 ≤ c.toNat :=
    ((List.forall₂_and_left texts ds).mp (h.imp fun _ _ hs => ⟨hs.printable, hs⟩)).1
  have hlist : ("[" ++ commaSeparated texts ++ "]").toList = '[' :: ((commaSeparated texts).toList ++ [']']) := by
    simp
  rw [hlist]
  refine ⟨⟨'[', _, rfl, rfl, by decide⟩, printable_enclosed (by decide) (by decide) hprintable, ?_⟩
  intro fuel rest hf _
  cases h with
  | nil => rfl
  | @cons t d texts ds ht hts =>
      obtain ⟨c, tail, hcs, hblank, hclose⟩ := ht.starts
      obtain ⟨more, hmore⟩ := exists_toList_commaSeparated t texts
      rw [List.length_cons, List.length_append, List.length_singleton] at hf
      have hfuel : 2 * (commaSeparated (t :: texts)).toList.length + 1 ≤ fuel := by omega
      have hread := readItems_commaSeparated (.cons ht hts) (List.cons_ne_nil _ _) hfuel [] rest
      rw [List.cons_append, List.append_assoc, List.singleton_append]
      rw [hmore, hcs, List.cons_append, List.cons_append] at hread ⊢
      rw [readValue_array hblank hclose, hread]
      rfl

/-! ## Objects -/

/-- A key and the text of its value, for a member of a document. -/
structure SpellsMember (m : String × String) (d : String × Document) : Prop where
  key : m.1 = d.1
  value : Spells m.2.toList d.2

def memberText (m : String × String) : String := writeString m.1 ++ ":" ++ m.2

theorem printable_memberText {m : String × String} {d : Document} (h : Spells m.2.toList d) {c : Char}
    (hc : c ∈ (memberText m).toList) : 32 ≤ c.toNat := by
  simp only [memberText, String.toList_append, List.mem_append] at hc
  rcases hc with (hc | hc) | hc
  · exact Spells.printable_writeString m.1 hc
  · rw [List.mem_singleton.mp hc]
    decide
  · exact h.printable c hc

theorem toList_memberText (m : String × String) (rest : List Char) :
    (memberText m).toList ++ rest = '"' :: (m.1.toList.flatMap escapeChar ++ '"' :: ':' :: (m.2.toList ++ rest)) := by
  simp [memberText, toList_writeString]

theorem skipBlanks_members (m : String × String) (members : List (String × String)) (rest : List Char) :
    skipBlanks ((commaSeparated (memberText m :: members.map memberText)).toList ++ rest)
      = (commaSeparated (memberText m :: members.map memberText)).toList ++ rest := by
  have hquote := toList_memberText m []
  rw [List.append_nil] at hquote
  exact skipBlanks_commaSeparated hquote rfl _ _

theorem length_le_memberText (m : String × String) : m.2.toList.length ≤ (memberText m).toList.length := by
  have := congrArg List.length (toList_memberText m [])
  simp only [List.append_nil, List.length_cons, List.length_append] at this
  omega

section

variable {m : String × String} {d : Document} {fuel : Nat}

theorem readMembers_memberText_comma (h : Spells m.2.toList d) (hf : 2 * (memberText m).toList.length ≤ fuel)
    (done : List (Content × Document)) (rest : List Char) :
    readMembers (fuel + 1) done ((memberText m).toList ++ ',' :: rest)
      = readMembers fuel ((some m.1, d) :: done) (skipBlanks rest) := by
  have hlen := Nat.le_trans (Nat.mul_le_mul_left 2 (length_le_memberText m)) hf
  rw [toList_memberText, readMembers, readString_write]
  simp only [skipBlanks_cons (c := ':') rfl, h.skipBlanks_append, h.read hlen (ends_comma _),
    skipBlanks_cons (c := ',') rfl]

theorem readMembers_memberText_brace (h : Spells m.2.toList d) (hf : 2 * (memberText m).toList.length ≤ fuel)
    (done : List (Content × Document)) (rest : List Char) :
    readMembers (fuel + 1) done ((memberText m).toList ++ '\x7d' :: rest)
      = some (.object ((some m.1, d) :: done).reverse, rest) := by
  have hlen := Nat.le_trans (Nat.mul_le_mul_left 2 (length_le_memberText m)) hf
  rw [toList_memberText, readMembers, readString_write]
  simp only [skipBlanks_cons (c := ':') rfl, h.skipBlanks_append, h.read hlen (ends_brace _),
    skipBlanks_cons (c := '\x7d') rfl]

end

theorem readMembers_commaSeparated {members : List (String × String)} {ds : List (String × Document)}
    (h : List.Forall₂ SpellsMember members ds) (hne : members ≠ [])
    {fuel : Nat} (hf : 2 * (commaSeparated (members.map memberText)).toList.length + 1 ≤ fuel)
    (done : List (Content × Document)) (rest : List Char) :
    readMembers fuel done ((commaSeparated (members.map memberText)).toList ++ '\x7d' :: rest)
      = some (.object (done.reverse ++ ds.map fun d => (some d.1, d.2)), rest) := by
  induction h generalizing fuel done with
  | nil => contradiction
  | @cons m d members ds hm hms ih =>
      obtain ⟨hkey, hvalue⟩ := hm
      obtain ⟨fuel, rfl⟩ := Nat.exists_eq_add_of_le' (Nat.le_trans (Nat.le_add_left 1 _) hf)
      cases hms with
      | nil =>
          rw [List.map_singleton, commaSeparated] at hf ⊢
          have hfirst : 2 * (memberText m).toList.length ≤ fuel := by omega
          rw [readMembers_memberText_brace hvalue hfirst, hkey]
          simp
      | @cons n e members ds hn hms =>
          rw [List.map_cons, List.map_cons, toList_commaSeparated_cons_cons] at hf ⊢
          rw [List.length_append, List.length_cons] at hf
          have hfirst : 2 * (memberText m).toList.length ≤ fuel := by omega
          rw [List.append_assoc, List.cons_append, readMembers_memberText_comma hvalue hfirst, hkey,
            skipBlanks_members]
          rw [← List.map_cons] at hf ⊢
          rw [ih (List.cons_ne_nil _ _) (by omega)]
          simp

theorem readValue_object (fuel : Nat) (cs : List Char) :
    readValue (fuel + 1) ('\x7b' :: '"' :: cs) = readMembers fuel [] ('"' :: cs) := rfl

theorem Spells.object {members : List (String × String)} {ds : List (String × Document)}
    (h : List.Forall₂ SpellsMember members ds) :
    Spells (writeObject members).toList (.object (ds.map fun d => (some d.1, d.2))) := by
  have hprintable : ∀ t ∈ members.map memberText, ∀ c ∈ t.toList, 32 ≤ c.toNat := by
    rw [List.forall_mem_map]
    exact ((List.forall₂_and_left members ds).mp (h.imp fun _ _ hs => ⟨fun _ => printable_memberText hs.value, hs⟩)).1
  have hlist : (writeObject members).toList
      = '\x7b' :: ((commaSeparated (members.map memberText)).toList ++ ['\x7d']) := by
    simp [writeObject]
    rfl
  rw [hlist]
  refine ⟨⟨'\x7b', _, rfl, rfl, by decide⟩, printable_enclosed (by decide) (by decide) hprintable, ?_⟩
  intro fuel rest hf _
  cases h with
  | nil => rfl
  | @cons m d members ds hm hms =>
      obtain ⟨more, hmore⟩ := exists_toList_commaSeparated (memberText m) (members.map memberText)
      rw [List.length_cons, List.length_append, List.length_singleton] at hf
      have hfuel : 2 * (commaSeparated ((m :: members).map memberText)).toList.length + 1 ≤ fuel := by omega
      have hread := readMembers_commaSeparated (.cons hm hms) (List.cons_ne_nil _ _) hfuel [] rest
      rw [List.cons_append, List.append_assoc, List.singleton_append]
      rw [List.map_cons, hmore, List.append_assoc, toList_memberText] at hread ⊢
      rw [readValue_object, hread]
      rfl

/-! ## Sorted members -/

theorem insertMember_of_forall_lt {α : Type} {key : String} {value : α} {members : List (String × α)}
    (h : ∀ m ∈ members, m.1 < key) : insertMember key value members = members ++ [(key, value)] := by
  induction members with
  | nil => rfl
  | cons m members ih =>
      have hlt := h m List.mem_cons_self
      have hne : key ≠ m.1 := fun he => String.lt_irrefl _ (he ▸ hlt)
      rw [insertMember, if_neg (String.lt_asymm hlt), if_neg hne,
        ih fun n hn => h n (List.mem_cons_of_mem _ hn), List.cons_append]

theorem foldl_insertMember {α : Type} {sorted members : List (String × α)}
    (h : (sorted ++ members).Pairwise (·.1 < ·.1)) :
    members.foldl (fun sorted m => insertMember m.1 m.2 sorted) sorted = sorted ++ members := by
  induction members generalizing sorted with
  | nil => simp
  | cons m members ih =>
      have hlast : ∀ n ∈ sorted, n.1 < m.1 :=
        fun n hn => (List.pairwise_append.mp h).2.2 n hn m List.mem_cons_self
      rw [List.foldl_cons, insertMember_of_forall_lt hlast, ih (by simpa using h), List.append_assoc,
        List.singleton_append]

/-- Members in order stay as they are. -/
theorem sortMembers_of_pairwise {α : Type} {members : List (String × α)}
    (h : members.Pairwise (·.1 < ·.1)) : sortMembers members = members :=
  foldl_insertMember h

/-! ## Values -/

/-- The value has integers of 64 bits only, sorted members, and arrays and objects at most `depth` deep. -/
inductive Value.Exact : Nat → Value → Prop where
  | null {depth : Nat} : Exact depth .null
  | bool {depth : Nat} (b : Bool) : Exact depth (.bool b)
  | integer {depth : Nat} {n : Int} (hlow : minSigned ≤ n) (hhigh : n ≤ maxUnsigned) :
      Exact depth (.number (.integer n))
  | string {depth : Nat} (s : String) : Exact depth (.string s)
  | array {depth : Nat} {items : List Value} (h : ∀ v ∈ items, Exact depth v) : Exact (depth + 1) (.array items)
  | object {depth : Nat} {members : List (String × Value)} (hkeys : members.Pairwise (·.1 < ·.1))
      (h : ∀ m ∈ members, Exact depth m.2) : Exact (depth + 1) (.object members)

theorem exists_documents {depth : Nat} {items : List Value}
    (h : ∀ v ∈ items, ∃ d, Spells v.write.toList d ∧ d.value? depth = some v) :
    ∃ ds, List.Forall₂ (fun t d => Spells t.toList d) (Value.writeAll items) ds ∧
      Document.values? depth ds = some items := by
  induction items with
  | nil => exact ⟨[], .nil, rfl⟩
  | cons v items ih =>
      obtain ⟨d, hd, hv⟩ := h v List.mem_cons_self
      obtain ⟨ds, hds, hvs⟩ := ih fun v hv => h v (List.mem_cons_of_mem _ hv)
      refine ⟨d :: ds, .cons hd hds, ?_⟩
      simp only [Document.values?, hv, hvs]

theorem exists_memberDocuments {depth : Nat} {members : List (String × Value)}
    (h : ∀ m ∈ members, ∃ d, Spells m.2.write.toList d ∧ d.value? depth = some m.2) :
    ∃ ds : List (String × Document),
      List.Forall₂ SpellsMember (Value.writeMembers members) ds ∧
      Document.memberValues? depth (ds.map fun d => (some d.1, d.2)) = some members := by
  induction members with
  | nil => exact ⟨[], .nil, rfl⟩
  | cons m members ih =>
      obtain ⟨d, hd, hv⟩ := h m List.mem_cons_self
      obtain ⟨ds, hds, hvs⟩ := ih fun m hm => h m (List.mem_cons_of_mem _ hm)
      refine ⟨(m.1, d) :: ds, .cons ⟨rfl, hd⟩ hds, ?_⟩
      simp only [List.map_cons, Document.memberValues?, hv, hvs]

/-- What an exact value is written as has the same value again. -/
theorem Value.Exact.exists_document {depth : Nat} {v : Value} (h : v.Exact depth) :
    ∃ d, Spells v.write.toList d ∧ d.value? depth = some v := by
  induction h with
  | null => exact ⟨.null, .null, by rw [Document.value?]⟩
  | bool b => exact ⟨.bool b, .bool b, by rw [Document.value?]⟩
  | @integer depth n hlow hhigh =>
      refine ⟨.number (.ofInt n), .integer n, ?_⟩
      rw [Document.value?, Numeral.number?, integer?_ofInt hlow hhigh]
      rfl
  | string s => exact ⟨.string (some s), .string s, by rw [Document.value?]; rfl⟩
  | array _ ih =>
      obtain ⟨ds, hds, hvs⟩ := exists_documents ih
      refine ⟨.array ds, .array hds, ?_⟩
      rw [Document.value?, hvs]
      rfl
  | object hkeys _ ih =>
      obtain ⟨ds, hds, hvs⟩ := exists_memberDocuments ih
      refine ⟨.object _, .object hds, ?_⟩
      rw [Document.value?, hvs, Option.map_some, sortMembers_of_pairwise hkeys]

/-- A text that spells a document is read as it. -/
theorem Document.read?_of_spells {text : String} {d : Document} (h : Spells text.toList d) :
    Document.read? text = some d := by
  have hskip := h.skipBlanks_append []
  have hread := h.read (Nat.le_add_right (2 * text.toList.length) 2) ends_nil
  rw [List.append_nil] at hskip hread
  show (readValue _ (skipBlanks text.toList) >>= _) = _
  rw [hskip, hread]
  rfl

end Json

end MetricsAgent
