import MetricsAgent.Proofs.Decimal.Numerals
import MetricsAgent.Proofs.Json.Members
import MetricsAgent.Proofs.Json.RoundTrip
import MetricsAgent.Settings.Json
import MetricsAgent.Settings.Yaml

/-!
# Trees that are read back

A writer makes the trees of a data format out of records, lists, texts, truth values and numbers, so that the format's
form reads each of them back. There is one for JSON values, whose objects have their members in the order of the keys,
and there are those for the nodes of YAML documents, in which texts have any style that does not let them pass for
nothing.
-/

namespace MetricsAgent

variable {α : Type}

/-- How the trees of a data format are made, so that the form reads them back. -/
structure Form.Writer (form : Form α) where
  record : List (String × α) → α
  list : List α → α
  text : String → α
  bool : Bool → α
  uint64 : UInt64 → α
  /-- Stands for a value that is missing. -/
  absent : α
  /-- The order of members may be lost. -/
  members?_record (fields : List String) {members : List (String × α)} (h : (members.map (·.1)).Nodup) :
    ∃ ms, form.members? fields (record members) = some ms ∧ ms.Perm members
  items?_list (items : List α) : form.items? (list items) = some items
  text?_text (s : String) : form.text? (text s) = some s
  bool?_bool (b : Bool) : form.bool? (bool b) = some b
  uint64?_uint64 (n : UInt64) : form.uint64? (uint64 n) = some n
  isPresent?_text (s : String) : form.isPresent? (text s) = some true
  isPresent?_absent : form.isPresent? absent = some false

theorem lookup_eq_of_perm {members others : List (String × α)} (h : members.Perm others)
    (hnodup : (others.map (·.1)).Nodup) (key : String) : members.lookup key = others.lookup key := by
  have hmembers := (h.map (·.1)).nodup_iff.mpr hnodup
  ext a
  rw [NameMap.lookup_eq_some_iff hmembers, NameMap.lookup_eq_some_iff hnodup, h.mem_iff]

namespace Form.Writer

variable {β γ : Type} {form : Form α} (w : form.Writer)

theorem record?_record (fields : List String) (members : List (String × α)) (hkeys : members.map (·.1) = fields)
    (hnodup : fields.Nodup) :
    ∃ ms, form.record? fields (w.record members) = some ms ∧ ∀ key, ms.lookup key = members.lookup key := by
  subst hkeys
  obtain ⟨ms, hms, hperm⟩ := w.members?_record (members.map (·.1)) hnodup
  refine ⟨ms, ?_, lookup_eq_of_perm hperm hnodup⟩
  have hfields : ms.all ((members.map (·.1)).contains ·.1) = true :=
    List.all_eq_true.mpr fun m hm => List.contains_iff_mem.mpr (List.mem_map_of_mem (hperm.mem_iff.mp hm))
  have honce : (ms.map (·.1)).Nodup := (hperm.map (·.1)).nodup_iff.mpr hnodup
  rw [record?, hms]
  exact if_pos ⟨hfields, honce⟩

theorem list?_list {read : α → Option β} {write : γ → α} {value : γ → β}
    (h : ∀ c, read (write c) = some (value c)) (cs : List γ) :
    form.list? read (w.list (cs.map write)) = some (cs.map value) := by
  rw [list?, w.items?_list]
  have hread : read ∘ write = pure ∘ value := funext h
  show (cs.map write).mapM read = _
  rw [List.mapM_map, hread]
  exact List.mapM_pure

/-- A text that may be missing. -/
def optionalText (s : Option String) : α := (s.map w.text).getD w.absent

theorem optional?_optionalText (s : Option String) : form.optional? form.text? (w.optionalText s) = some s := by
  cases s with
  | none => simp [optionalText, optional?, w.isPresent?_absent]
  | some s => simp [optionalText, optional?, w.isPresent?_text, w.text?_text]

end Form.Writer

/-! ## JSON -/

namespace Json

/-- JSON values as settings are written in them. -/
def writer : form.Writer where
  record := .ofMembers
  list := .array
  text := .string
  bool := .bool
  uint64 n := .ofInt n.toNat
  absent := .null
  members?_record _ members h := ⟨sortMembers members, rfl, perm_sortMembers h⟩
  items?_list _ := rfl
  text?_text _ := rfl
  bool?_bool _ := rfl
  uint64?_uint64 n := by
    have hle : (n.toNat : Int) ≤ maxUnsigned := by
      have := n.toNat_lt
      simp only [maxUnsigned]
      omega
    show (if 0 ≤ (n.toNat : Int) ∧ (n.toNat : Int) ≤ maxUnsigned then _ else none) = _
    rw [if_pos ⟨Int.natCast_nonneg _, hle⟩, Int.toNat_natCast, UInt64.ofNat_toNat]
  isPresent?_text _ := rfl
  isPresent?_absent := rfl

theorem Value.Exact.ofMembers {depth : Nat} {members : List (String × Value)} (hnodup : (members.map (·.1)).Nodup)
    (h : ∀ m ∈ members, m.2.Exact depth) : (Value.ofMembers members).Exact (depth + 1) :=
  .object (pairwise_sortMembers members) fun m hm => h m ((perm_sortMembers hnodup).mem_iff.mp hm)

theorem exact_uint64 {depth : Nat} (n : UInt64) : (writer.uint64 n).Exact depth := by
  have := n.toNat_lt
  refine .integer ?_ ?_
  · simp only [minSigned]
    omega
  · simp only [maxUnsigned]
    omega

theorem exact_optionalText {depth : Nat} (s : Option String) : (writer.optionalText s).Exact depth := by
  cases s with
  | none => exact .null
  | some s => exact .string s

end Json

/-! ## YAML -/

namespace Yaml

theorem hexDigit?_of_isDigit {c : Char} (h : c.isDigit = true) : Unicode.hexDigit? c = some (c.toNat - 48) := by
  rw [Unicode.hexDigit?, if_pos]
  simpa [Char.isDigit, Char.le_def] using h

theorem digits?_of_isDigit {text : List Char} (hne : text ≠ []) (h : ∀ c ∈ text, c.isDigit = true) :
    digits? 10 text = some (Decimal.digitsValue 0 text) := by
  rw [digits?, if_neg hne]
  generalize 0 = acc
  clear hne
  induction text generalizing acc with
  | nil => rfl
  | cons c text ih =>
      have hc := h c List.mem_cons_self
      obtain ⟨hlt, -⟩ := Decimal.eq_digitChar_of_isDigit hc
      have hstep : (Unicode.hexDigit? c >>= fun d => if d < 10 then some (10 * acc + d) else none)
          = some (acc * 10 + (c.toNat - 48)) := by
        rw [hexDigit?_of_isDigit hc, Nat.mul_comm]
        exact if_pos hlt
      rw [List.foldlM_cons, hstep]
      exact ih (fun d hd => h d (List.mem_cons_of_mem _ hd)) _

/-- The digits of a number are no numeral of another base. -/
theorem natural?_toDigits (n : Nat) : natural? (Nat.toDigits 10 n) = some n := by
  have hdigit : ∀ c ∈ Nat.toDigits 10 n, c.isDigit = true :=
    fun c hc => Nat.isDigit_of_mem_toDigits (by decide) (by decide) hc
  have hread := digits?_of_isDigit Nat.toDigits_ne_nil hdigit
  rw [Json.digitsValue_toDigits] at hread
  by_cases hzero : n = 0
  · subst hzero
    rfl
  · obtain ⟨c, cs, hcs⟩ := List.exists_cons_of_ne_nil (Nat.toDigits_ne_nil (n := n) (b := 10))
    have hc : c ≠ '0' := fun he => hzero (Json.eq_zero_of_head?_toDigits (by rw [hcs, he]; rfl))
    have hplus : c ≠ '+' := by
      rintro rfl
      exact absurd (hdigit '+' (hcs ▸ List.mem_cons_self)) (by decide)
    rw [hcs] at hread ⊢
    unfold natural?
    split <;> simp_all

/-- A style for each text, in which it does not pass for nothing. -/
structure Styling where
  style : String → Style
  isPresent (s : String) : style s = .plain → s ≠ "" ∧ isNull s = false

/-- Nodes as settings are written in them. -/
def writer (d : Document) (styling : Styling) : d.form.Writer where
  record members := .map (members.map fun m => (.scalar m.1 .plain none, m.2))
  list := .list
  text s := .scalar s (styling.style s) none
  bool b := .scalar (if b then "true" else "false") .plain none
  uint64 n := .scalar (String.ofList (Nat.toDigits 10 n.toNat)) .plain none
  absent := .scalar "null" .plain none
  members?_record _ members _ := by
    refine ⟨members, ?_, .refl _⟩
    show (members.map _).mapM _ = _
    rw [List.mapM_map]
    exact List.mapM_pure.trans (congrArg some (List.map_id _))
  items?_list _ := rfl
  text?_text _ := rfl
  bool?_bool b := by cases b <;> rfl
  uint64?_uint64 n := by
    show (natural? (String.ofList (Nat.toDigits 10 n.toNat)).toList >>= _) = _
    rw [String.toList_ofList, natural?_toDigits]
    show (if n.toNat < UInt64.size then _ else none) = _
    rw [if_pos n.toNat_lt, UInt64.ofNat_toNat]
  isPresent?_text s := by
    show (match Node.scalar s (styling.style s) none with | .scalar text .plain tag => _ | _ => _) = _
    cases hs : styling.style s with
    | plain =>
        obtain ⟨hne, hnull⟩ := styling.isPresent s hs
        simp [hne, hnull]
    | singleQuoted | doubleQuoted | literal | folded => rfl
  isPresent?_absent := rfl

end Yaml

end MetricsAgent
