import Mathlib.Data.List.Basic
import MetricsAgent.Conf.Daemon
import MetricsAgent.Conf.Upload
import MetricsAgent.Proofs.Line.Framing

/-!
# Values in configuration files

Values are filled into the lines of an outline as they are. A file keeps the lines of its outline exactly if no
value has a line break, and a value in double quotes is read back from its line exactly if the quotes close where
the outline closes them (`Sealed`).
-/

namespace MetricsAgent.Conf

/-! ## Texts in double quotes -/

/-- What stands before the next double quote that no backslash escapes, given whether the first character is
escaped. -/
def upToQuote (escaped : Bool) : List Char → Option (List Char)
  | [] => none
  | c :: cs =>
    if c = '"' ∧ escaped = false then some []
    else (upToQuote (c = '\\' ∧ escaped = false) cs).map (c :: ·)

/-- Every double quote is escaped, and so is no character after the last. -/
inductive Sealed : List Char → Prop
  | nil : Sealed []
  | plain {c : Char} {cs : List Char} (hq : c ≠ '"') (hb : c ≠ '\\') (h : Sealed cs) : Sealed (c :: cs)
  | escaped (c : Char) {cs : List Char} (h : Sealed cs) : Sealed ('\\' :: c :: cs)

theorem sealed_of_not_mem {cs : List Char} (hq : '"' ∉ cs) (hb : '\\' ∉ cs) : Sealed cs := by
  induction cs with
  | nil => exact .nil
  | cons c cs ih =>
      rw [List.mem_cons, not_or] at hq hb
      exact .plain (Ne.symm hq.1) (Ne.symm hb.1) (ih hq.2 hb.2)

theorem upToQuote_of_sealed {cs : List Char} (h : Sealed cs) (rest : List Char) :
    upToQuote false (cs ++ '"' :: rest) = some cs := by
  induction h with
  | nil => rfl
  | plain hq hb h ih => simp [upToQuote, hq, hb, ih]
  | escaped c h ih => simp [upToQuote, ih]

theorem sealed_of_upToQuote {cs rest : List Char} (h : upToQuote false (cs ++ '"' :: rest) = some cs) :
    Sealed cs := by
  -- An escaped character is left out of account, so the claim goes for what follows it as well.
  have key (cs : List Char) : (upToQuote false (cs ++ '"' :: rest) = some cs → Sealed cs) ∧
      (upToQuote true (cs ++ '"' :: rest) = some cs → ∃ c cs', cs = c :: cs' ∧ Sealed cs') := by
    induction cs with
    | nil => exact ⟨fun _ => .nil, fun h => by simp [upToQuote] at h⟩
    | cons c cs ih =>
        refine ⟨fun h => ?_, fun h => ⟨c, cs, rfl, ih.1 (by simpa [upToQuote] using h)⟩⟩
        by_cases hq : c = '"'
        · simp [upToQuote, hq] at h
        · by_cases hb : c = '\\'
          · obtain ⟨d, cs', rfl, hs⟩ := ih.2 (by simpa [upToQuote, hq, hb] using h)
            exact hb ▸ .escaped d hs
          · exact .plain hq hb (ih.1 (by simpa [upToQuote, hq, hb] using h))
  exact (key cs).1 h

theorem upToQuote_eq_some_iff {cs : List Char} (rest : List Char) :
    upToQuote false (cs ++ '"' :: rest) = some cs ↔ Sealed cs :=
  ⟨sealed_of_upToQuote, fun h => upToQuote_of_sealed h rest⟩

/-! ## Lines -/

variable {φ : Type}

namespace Line

def field? : Line φ → Option φ
  | .fixed _ => none
  | .filled _ field _ => some field

/-- Whether the value stands in double quotes. -/
def isQuoted : Line φ → Bool
  | .fixed _ => false
  | .filled before _ _ => before.toList.getLast? == some '"'

/-- What the quotes hold after the value. -/
def more : Line φ → List Char
  | .fixed _ => []
  | .filled _ _ after => after.toList.dropLast

/-- The value that a text has in the place of the line's value. -/
def read? (text : List Char) : Line φ → Option (List Char)
  | .fixed _ => none
  | .filled before field after =>
    (before.toList.isPrefixOf? text).bind fun rest =>
      if isQuoted (.filled before field after) then
        (upToQuote false rest).bind (more (.filled before field after)).isSuffixOf?
      else after.toList.isSuffixOf? rest

/-- There is no line break outside of the value, and quotes are closed. -/
def isPlain : Line φ → Bool
  | .fixed text => '\n' ∉ text.toList
  | .filled before field after =>
    '\n' ∉ before.toList && '\n' ∉ after.toList &&
      (!isQuoted (.filled before field after) || after.toList.getLast? == some '"')

variable {l : Line φ} {value : φ → String} {f : φ}

theorem isPrefixOf?_fill (before : String) (field : φ) (after : String) (value : φ → String) :
    before.toList.isPrefixOf? ((Line.filled before field after).fill value).toList =
      some ((value field).toList ++ after.toList) := by
  rw [List.isPrefixOf?_eq_some_iff_append_eq, fill, String.toList_append, String.toList_append,
    List.append_assoc]

theorem read?_fill_of_bare (hf : l.field? = some f) (hb : l.isQuoted = false) :
    l.read? (l.fill value).toList = some (value f).toList := by
  cases l with
  | fixed text => cases hf
  | filled before field after =>
      cases hf
      rw [read?, isPrefixOf?_fill, Option.bind_some, hb]
      exact List.isSuffixOf?_eq_some_iff_append_eq.mpr rfl

/-- A value in quotes is read back exactly if they close where they should. -/
theorem read?_fill_eq_some_iff (hl : l.isPlain = true) (hf : l.field? = some f) (hq : l.isQuoted = true) :
    l.read? (l.fill value).toList = some (value f).toList ↔ Sealed ((value f).toList ++ l.more) := by
  cases l with
  | fixed text => cases hf
  | filled before field after =>
      cases hf
      have hlast : after.toList.getLast? = some '"' := by
        simp only [isPlain, hq, Bool.and_eq_true] at hl
        simpa using hl.2
      obtain ⟨more, hm⟩ := List.getLast?_eq_some_iff.mp hlast
      have hmore : (Line.filled before f after).more = more := by rw [Line.more, hm, List.dropLast_concat]
      rw [read?, isPrefixOf?_fill, Option.bind_some, hq, if_pos rfl, hmore, hm, ← List.append_assoc,
        ← upToQuote_eq_some_iff []]
      cases upToQuote false ((value f).toList ++ more ++ ['"']) with
      | none => simp
      | some inside => simp [List.isSuffixOf?_eq_some_iff_append_eq, eq_comm]

theorem newline_not_mem_fill (hl : l.isPlain = true) :
    '\n' ∉ (l.fill value).toList ↔ ∀ f, l.field? = some f → '\n' ∉ (value f).toList := by
  cases l with
  | fixed text => simpa [isPlain, fill, field?] using hl
  | filled before field after =>
      simp only [isPlain, Bool.and_eq_true, decide_eq_true_eq] at hl
      simp [fill, field?, hl.1.1, hl.1.2]

end Line

/-! ## Files -/

/-- No part of a split list has the element at which it was split. -/
theorem not_mem_of_mem_splitOn {α : Type} [BEq α] [LawfulBEq α] {a : α} {xs part : List α}
    (h : part ∈ xs.splitOn a) : a ∉ part := by
  by_cases ha : a ∈ xs
  · obtain ⟨as, bs, rfl, has⟩ := List.eq_append_cons_of_mem ha
    rw [List.splitOn_append_cons_self_of_not_mem has] at h
    rcases List.mem_cons.mp h with rfl | h
    · exact has
    · exact not_mem_of_mem_splitOn h
  · rw [List.splitOn_eq_singleton ha, List.mem_singleton] at h
    exact h ▸ ha
termination_by xs.length
decreasing_by
  subst_vars
  simp only [List.length_append, List.length_cons]
  omega

variable {o : Outline φ} {value : φ → String}

theorem toList_fill (o : Outline φ) (value : φ → String) :
    (o.fill value).toList = (o.map fun l => (l.fill value).toList).flatMap (· ++ ['\n']) := by
  simp only [Outline.fill, String.toList_join, List.flatMap_map, String.toList_append]
  rfl

/-- A line without breaks is a line of the file, whatever the other lines hold. -/
theorem mem_splitOn_fill {l : Line φ} (hl : l ∈ o)
    (hn : '\n' ∉ (l.fill value).toList) : (l.fill value).toList ∈ (o.fill value).toList.splitOn '\n' := by
  rw [toList_fill, List.flatMap_map]
  induction o with
  | nil => cases hl
  | cons l' o ih =>
      rw [List.flatMap_cons, List.append_assoc, List.singleton_append, List.splitOn_append_cons_self]
      rcases List.mem_cons.mp hl with rfl | hl
      · rw [List.splitOn_eq_singleton hn]
        exact List.mem_append_left _ (List.mem_singleton_self _)
      · exact List.mem_append_right _ (ih hl)

/-- The lines of a file are those of its outline exactly if no value has a line break. -/
theorem splitOn_fill_iff (ho : ∀ l ∈ o, l.isPlain = true) :
    (o.fill value).toList.splitOn '\n' = (o.map fun l => (l.fill value).toList) ++ [[]] ↔
      ∀ l ∈ o, ∀ f, l.field? = some f → '\n' ∉ (value f).toList := by
  have hvalues : (∀ line ∈ o.map (fun l => (l.fill value).toList), '\n' ∉ line) ↔
      ∀ l ∈ o, ∀ f, l.field? = some f → '\n' ∉ (value f).toList := by
    rw [List.forall_mem_map]
    exact forall₂_congr fun l hl => l.newline_not_mem_fill (ho l hl)
  rw [← hvalues, toList_fill]
  refine ⟨fun h line hline => ?_, splitOn_flatMap_concat⟩
  exact not_mem_of_mem_splitOn (h ▸ List.mem_append_left _ hline)

/-- What a file that is filled in keeps of its outline and its values. -/
structure Carries (o : Outline φ) (value : φ → String) (text : String) : Prop where
  exists_line : ∀ f, ∃ l ∈ o, l.field? = some f
  lines_iff : text.toList.splitOn '\n' = (o.map fun l => (l.fill value).toList) ++ [[]] ↔
    ∀ l ∈ o, l.isQuoted = true → ∀ f, l.field? = some f → '\n' ∉ (value f).toList
  read_bare : ∀ l ∈ o, l.isQuoted = false → ∀ f, l.field? = some f →
    l.read? (l.fill value).toList = some (value f).toList
  read_quoted_iff : ∀ l ∈ o, l.isQuoted = true → ∀ f, l.field? = some f →
    (l.read? (l.fill value).toList = some (value f).toList ↔ Sealed ((value f).toList ++ l.more))

theorem carries_fill (ho : ∀ l ∈ o, l.isPlain = true) (hf : ∀ f, ∃ l ∈ o, l.field? = some f)
    (hb : ∀ l ∈ o, l.isQuoted = false → ∀ f, l.field? = some f → '\n' ∉ (value f).toList) :
    Carries o value (o.fill value) where
  exists_line := hf
  lines_iff := by
    rw [splitOn_fill_iff ho]
    refine ⟨fun h l hl _ => h l hl, fun h l hl => ?_⟩
    cases hq : l.isQuoted with
    | false => exact hb l hl hq
    | true => exact h l hl hq
  read_bare l _ hq f hf := l.read?_fill_of_bare hf hq
  read_quoted_iff l hl hq f hf := l.read?_fill_eq_some_iff (ho l hl) hf hq

end Conf

/-! ## The two files of the daemon -/

namespace DaemonConf

theorem isPlain_of_mem_outline : ∀ l ∈ outline, l.isPlain = true := by decide

theorem isQuoted_of_mem_outline : ∀ l ∈ outline, ∀ f, l.field? = some f → l.isQuoted = true := by
  decide

theorem exists_line (f : Field) : ∃ l ∈ outline, l.field? = some f := by
  cases f <;> decide

end DaemonConf

namespace UploadConf

/-- The values that stand in no quotes: truth values and numbers. -/
def Field.isBare : Field → Bool
  | .uploading | .streaming | .writingToDisk | .port | .secure => true
  | .uploadInterval | .updateGap | .maxDataBytes => true
  | .host | .httpPath | .certificates | .token | .dataDir => false

theorem isPlain_of_mem_outline : ∀ l ∈ outline, l.isPlain = true := by decide

theorem isBare_of_mem_outline : ∀ l ∈ outline, l.isQuoted = false → ∀ f, l.field? = some f → f.isBare = true := by
  decide

theorem exists_line (f : Field) : ∃ l ∈ outline, l.field? = some f := by
  cases f <;> decide

theorem newline_not_mem_spell (b : Bool) : '\n' ∉ (spell b).toList := by
  cases b <;> decide

theorem newline_not_mem_digits (n : Nat) : '\n' ∉ (digits n).toList := by
  rw [digits, String.toList_ofList]
  intro h
  have := Nat.isDigit_of_mem_toDigits (by decide) (by decide) h
  contradiction

theorem newline_not_mem_of_isBare (c : UploadConf) {f : Field} (h : f.isBare = true) :
    '\n' ∉ (c.value f).toList := by
  cases f with
  | uploading | streaming | writingToDisk | secure => exact newline_not_mem_spell _
  | port | uploadInterval | updateGap | maxDataBytes => exact newline_not_mem_digits _
  | host | httpPath | certificates | token | dataDir => cases h

end UploadConf

namespace Conf

end Conf

end MetricsAgent
