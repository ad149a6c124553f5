/-!
# Maps from names

A `NameMap` holds at most one value for each name, in the order of the names.  What an operation does
is said by `get?`: the value put last under a name, unless it was erased.
-/

namespace MetricsAgent

/-- A map from names, sorted by name. -/
structure NameMap (α : Type) where
  entries : List (String × α)
  sorted : entries.Pairwise (·.1 < ·.1)

namespace NameMap

variable {α : Type}

def empty : NameMap α := ⟨[], .nil⟩

instance : Inhabited (NameMap α) := ⟨empty⟩

/-- The value of a name. -/
def get? (m : NameMap α) (name : String) : Option α := m.entries.lookup name

def contains (m : NameMap α) (name : String) : Bool := (m.get? name).isSome

def names (m : NameMap α) : List String := m.entries.map (·.1)

def values (m : NameMap α) : List α := m.entries.map (·.2)

def size (m : NameMap α) : Nat := m.entries.length

def isEmpty (m : NameMap α) : Bool := m.entries.isEmpty

/-! ## Putting and erasing -/

/-- Puts an entry where its name belongs; an entry of the same name is replaced. -/
def insertEntry (name : String) (a : α) : List (String × α) → List (String × α)
  | [] => [(name, a)]
  | (k, b) :: rest =>
    if name < k then (name, a) :: (k, b) :: rest
    else if name = k then (name, a) :: rest
    else (k, b) :: insertEntry name a rest

theorem mem_insertEntry {name : String} {a : α} {es : List (String × α)} {e : String × α}
    (h : e ∈ insertEntry name a es) : e = (name, a) ∨ e ∈ es := by
  induction es with
  | nil => simpa [insertEntry] using h
  | cons x rest ih =>
    obtain ⟨k, b⟩ := x
    simp only [insertEntry] at h
    split at h
    · simpa using h
    · split at h
      · rcases List.mem_cons.1 h with h | h
        · exact .inl h
        · exact .inr (List.mem_cons_of_mem _ h)
      · rcases List.mem_cons.1 h with h | h
        · exact .inr (h ▸ List.mem_cons_self)
        · exact (ih h).imp_right (List.mem_cons_of_mem _)

theorem sorted_insertEntry (name : String) (a : α) {es : List (String × α)}
    (h : es.Pairwise (·.1 < ·.1)) : (insertEntry name a es).Pairwise (·.1 < ·.1) := by
  induction es with
  | nil => simp [insertEntry]
  | cons x rest ih =>
    obtain ⟨k, b⟩ := x
    obtain ⟨hk, hrest⟩ := List.pairwise_cons.1 h
    simp only [insertEntry]
    split
    · next hlt =>
      refine List.pairwise_cons.2 ⟨fun e he => ?_, h⟩
      rcases List.mem_cons.1 he with rfl | he
      · exact hlt
      · exact String.lt_trans hlt (hk e he)
    · next hlt =>
      split
      · next heq => exact List.pairwise_cons.2 ⟨fun e he => heq ▸ hk e he, hrest⟩
      · next hne =>
        refine List.pairwise_cons.2 ⟨fun e he => ?_, ih hrest⟩
        rcases mem_insertEntry he with rfl | he
        · by_cases hk : k < name
          · exact hk
          · exact absurd (String.le_antisymm (String.not_lt.1 hk) (String.not_lt.1 hlt)) hne
        · exact hk e he

/-- Puts a value under a name. -/
def insert (m : NameMap α) (name : String) (a : α) : NameMap α :=
  ⟨insertEntry name a m.entries, sorted_insertEntry name a m.sorted⟩

/-- Erases a name and its value. -/
def erase (m : NameMap α) (name : String) : NameMap α :=
  ⟨m.entries.filter (·.1 != name), m.sorted.filter _⟩

/-! ## Laws -/

theorem lookup_cons (name : String) (k : String) (a : α) (es : List (String × α)) :
    ((k, a) :: es).lookup name = if name = k then some a else es.lookup name := by
  rw [List.lookup_cons]
  by_cases h : name = k
  · subst h
    simp
  · rw [beq_false_of_ne h, if_neg h]

theorem lookup_insertEntry (name : String) (a : α) (es : List (String × α)) (other : String) :
    (insertEntry name a es).lookup other
      = if other = name then some a else es.lookup other := by
  induction es with
  | nil => simp [insertEntry, lookup_cons]
  | cons x rest ih =>
    obtain ⟨k, b⟩ := x
    simp only [insertEntry]
    split
    · rw [lookup_cons]
    · split
      · next heq => subst heq; simp only [lookup_cons]; split <;> rfl
      · next hne =>
        simp only [lookup_cons, ih]
        by_cases h : other = k
        · subst h; simp [Ne.symm hne]
        · simp [h]

theorem lookup_filter (name : String) (es : List (String × α)) (other : String) :
    (es.filter (·.1 != name)).lookup other = if other = name then none else es.lookup other := by
  induction es with
  | nil => simp
  | cons x rest ih =>
    obtain ⟨k, b⟩ := x
    by_cases hk : k = name
    · subst hk
      rw [List.filter_cons_of_neg (by simp), ih, lookup_cons]
      split <;> rfl
    · rw [List.filter_cons_of_pos (by simpa using hk), lookup_cons, lookup_cons, ih]
      by_cases h : other = k
      · subst h; simp [hk]
      · simp [h]

@[simp] theorem get?_empty (name : String) : (empty : NameMap α).get? name = none := rfl

@[simp] theorem get?_insert (m : NameMap α) (name : String) (a : α) (other : String) :
    (m.insert name a).get? other = if other = name then some a else m.get? other :=
  lookup_insertEntry name a m.entries other

@[simp] theorem get?_erase (m : NameMap α) (name other : String) :
    (m.erase name).get? other = if other = name then none else m.get? other :=
  lookup_filter name m.entries other

@[simp] theorem contains_empty (name : String) : (empty : NameMap α).contains name = false := rfl

@[simp] theorem contains_insert (m : NameMap α) (name : String) (a : α) (other : String) :
    (m.insert name a).contains other = (other == name || m.contains other) := by
  by_cases h : other = name <;> simp [contains, h]

@[simp] theorem contains_erase (m : NameMap α) (name other : String) :
    (m.erase name).contains other = (other != name && m.contains other) := by
  by_cases h : other = name <;> simp [contains, h]

theorem mem_names_iff {m : NameMap α} {name : String} : name ∈ m.names ↔ (m.get? name).isSome := by
  simp [names, get?]

/-! ## Entries -/

theorem fst_ne_of_lt {x y : String × α} (h : x.1 < y.1) : x.1 ≠ y.1 := by
  intro he
  rw [he] at h
  exact String.lt_irrefl _ h

theorem nodup_names (m : NameMap α) : m.names.Nodup := by
  rw [names, List.Nodup, List.pairwise_map]
  exact m.sorted.imp fst_ne_of_lt

theorem nodup_entries (m : NameMap α) : m.entries.Nodup :=
  m.sorted.imp fun h he => fst_ne_of_lt h (congrArg Prod.fst he)

theorem lookup_eq_some_iff {es : List (String × α)} (h : (es.map (·.1)).Nodup) {name : String} {a : α} :
    es.lookup name = some a ↔ (name, a) ∈ es := by
  induction es with
  | nil => simp
  | cons x rest ih =>
    obtain ⟨k, b⟩ := x
    rw [List.map_cons, List.nodup_cons] at h
    rw [lookup_cons, List.mem_cons]
    by_cases hk : name = k
    · subst hk
      have hn : (name, a) ∉ rest := fun hm => h.1 (List.mem_map.2 ⟨_, hm, rfl⟩)
      simp [hn, eq_comm]
    · simp [hk, ih h.2]

theorem mem_entries_iff {m : NameMap α} {name : String} {a : α} :
    (name, a) ∈ m.entries ↔ m.get? name = some a :=
  (lookup_eq_some_iff m.nodup_names).symm

/-- A map is what its names hold. -/
theorem ext_get? {m m' : NameMap α} (h : ∀ name, m.get? name = m'.get? name) : m = m' := by
  have hm : ∀ x, x ∈ m.entries ↔ x ∈ m'.entries := by
    intro ⟨name, a⟩
    rw [mem_entries_iff, mem_entries_iff, h]
  have hp := (List.perm_ext_iff_of_nodup m.nodup_entries m'.nodup_entries).2 hm
  have he := hp.eq_of_pairwise (fun x y _ _ hxy hyx => absurd hxy (String.lt_asymm hyx)) m.sorted m'.sorted
  cases m
  cases m'
  cases he
  rfl

end NameMap

end MetricsAgent
