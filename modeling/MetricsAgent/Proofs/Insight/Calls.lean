import MetricsAgent.Insight.Call
import Mathlib.Data.List.Infix

/-!
# Arguments of calls

A query is a call exactly if a closing parenthesis follows the first start of a call in it. Its argument comes out
of the query as it was quoted, even if it holds quotes, parentheses and further calls: the start of a call does
not overlap with itself, so no other one can come before it.
-/

namespace MetricsAgent.Insight

variable {word text before after before' after' : List Char} {c mark : Char}

/-! ## First occurrences -/

/-- The first occurrence of a word divides a text into what stands before it and what follows. -/
structure FirstIn (word text before after : List Char) : Prop where
  eq : before ++ word ++ after = text
  first : ∀ before' after', before' ++ word ++ after' = text → before.length ≤ before'.length

theorem FirstIn.after_eq (h : FirstIn word text before after) (h' : FirstIn word text before' after') :
    after = after' := by
  have hlen : before.length = before'.length := Nat.le_antisymm (h.first _ _ h'.eq) (h'.first _ _ h.eq)
  have heq : before ++ word ++ after = before' ++ word ++ after' := h.eq.trans h'.eq.symm
  exact (List.append_inj heq (by simp [hlen])).2

theorem FirstIn.cons (h : FirstIn word text before after) (hc : ¬ word <+: c :: text) :
    FirstIn word (c :: text) (c :: before) after := by
  refine ⟨by rw [← h.eq]; rfl, fun b a hb => ?_⟩
  cases b with
  | nil => exact absurd ⟨a, hb⟩ hc
  | cons d b => exact Nat.succ_le_succ (h.first b a (List.cons.inj hb).2)

theorem afterFirst?_eq_none_iff : afterFirst? word text = none ↔ ¬ word <:+: text := by
  induction text with
  | nil => simp [afterFirst?]
  | cons c text ih =>
      rw [afterFirst?, List.infix_cons_iff, not_or, ← List.isPrefixOf_iff_prefix]
      split
      · simp_all
      · simp_all

theorem exists_firstIn (h : afterFirst? word text = some after) : ∃ before, FirstIn word text before after := by
  induction text with
  | nil =>
      simp only [afterFirst?, Option.ite_none_right_eq_some, Option.some.injEq] at h
      obtain ⟨rfl, rfl⟩ := h
      exact ⟨[], rfl, fun _ _ _ => Nat.zero_le _⟩
  | cons c text ih =>
      rw [afterFirst?] at h
      split at h
      · rename_i hw
        obtain ⟨rest, hrest⟩ := List.isPrefixOf_iff_prefix.mp hw
        rw [← hrest, List.drop_left, Option.some.injEq] at h
        exact ⟨[], h ▸ hrest, fun _ _ _ => Nat.zero_le _⟩
      · rename_i hw
        obtain ⟨before, hb⟩ := ih h
        exact ⟨c :: before, hb.cons (mt List.isPrefixOf_iff_prefix.mpr hw)⟩

theorem afterFirst?_eq_some_iff : afterFirst? word text = some after ↔ ∃ before, FirstIn word text before after := by
  refine ⟨exists_firstIn, fun ⟨before, h⟩ => ?_⟩
  cases hf : afterFirst? word text with
  | none => exact absurd ⟨before, after, h.eq⟩ (afterFirst?_eq_none_iff.mp hf)
  | some rest =>
      obtain ⟨b, hb⟩ := exists_firstIn hf
      rw [hb.after_eq h]

/-! ## Starts of calls -/

/-- No beginning of the start of a call is also its end, but for nothing and the whole. -/
theorem callStart_border : ∀ part ∈ callStart.inits, part <:+ callStart → part = [] ∨ part = callStart := by
  decide

/-- The start of a call is the first one if none stands wholly before it. -/
theorem firstIn_of_not_infix (h : ¬ callStart <:+: before) (after : List Char) :
    FirstIn callStart (before ++ callStart ++ after) before after := by
  refine ⟨rfl, fun b a hb => ?_⟩
  by_contra hlt
  rw [List.append_assoc, List.append_assoc] at hb
  have hb' : b <+: before :=
    List.prefix_of_prefix_length_le ⟨_, hb⟩ (List.prefix_append ..) (Nat.le_of_not_le hlt)
  obtain ⟨between, rfl⟩ := hb'
  have hne : between ≠ [] := by
    rintro rfl
    simp at hlt
  rw [List.append_assoc, List.append_cancel_left_eq] at hb
  -- The earlier start ends before the other one begins, or they share a part.
  rcases List.append_eq_append_iff.mp hb with ⟨part, rfl, -⟩ | ⟨part, hcall, hpart⟩
  · exact h ⟨b, part, by simp⟩
  · have hbegin : part <+: callStart :=
      List.prefix_of_prefix_length_le ⟨a, hpart.symm⟩ (List.prefix_append ..) (by simp [hcall])
    have hend : part <:+ callStart := ⟨between, hcall.symm⟩
    rcases callStart_border part ((List.mem_inits ..).mpr hbegin) hend with rfl | rfl
    · rw [List.append_nil] at hcall
      exact h ⟨b, [], by simp [hcall]⟩
    · exact hne (List.append_left_eq_self.mp hcall.symm)

/-! ## Arguments -/

theorem beforeLast?_eq_none_iff {cs : List Char} : beforeLast? mark cs = none ↔ mark ∉ cs := by
  induction cs with
  | nil => simp [beforeLast?]
  | cons c cs ih =>
      rw [beforeLast?, List.mem_cons, not_or, ← ih]
      cases beforeLast? mark cs <;> simp [eq_comm]

theorem beforeLast?_append (front : List Char) (h : mark ∉ after) :
    beforeLast? mark (front ++ mark :: after) = some front := by
  induction front with
  | nil => simp [beforeLast?, beforeLast?_eq_none_iff.mpr h]
  | cons c front ih => simp [beforeLast?, ih]

theorem isBlank_quote : Name.isBlank '\'' = false := by
  decide

theorem trim_quoted {left right : List Char} (hl : ∀ c ∈ left, Name.isBlank c = true)
    (hr : ∀ c ∈ right, Name.isBlank c = true) (json : List Char) :
    trim (left ++ '\'' :: (json ++ '\'' :: right)) = '\'' :: (json ++ ['\'']) := by
  have hquote : ¬ Name.isBlank '\'' = true := by simp [isBlank_quote]
  have hreverse : ('\'' :: (json ++ '\'' :: right)).reverse
      = right.reverse ++ '\'' :: ('\'' :: json).reverse := by simp
  have hr' : ∀ c ∈ right.reverse, Name.isBlank c = true := fun c hc => hr c (List.mem_reverse.mp hc)
  rw [trim, List.dropWhile_append_of_pos hl, List.dropWhile_cons_of_neg hquote, hreverse,
    List.dropWhile_append_of_pos hr', List.dropWhile_cons_of_neg hquote]
  simp

theorem unquote_quoted (json : List Char) : unquote ('\'' :: (json ++ ['\''])) = json := by
  simp [unquote]

/-- What is no call: it has no start of one, or no closing parenthesis after the first. -/
theorem callArgument?_eq_none_iff {query : String} :
    callArgument? query = none ↔ ¬ callStart <:+: query.toList ∨
      ∃ before after, FirstIn callStart query.toList before after ∧ ')' ∉ after := by
  rw [callArgument?]
  cases hf : afterFirst? callStart query.toList with
  | none => simp [afterFirst?_eq_none_iff.mp hf]
  | some rest =>
      obtain ⟨before, hb⟩ := exists_firstIn hf
      have hstart : callStart <:+: query.toList := ⟨before, rest, hb.eq⟩
      have hrest : (∃ before after, FirstIn callStart query.toList before after ∧ ')' ∉ after) ↔ ')' ∉ rest :=
        ⟨fun ⟨_, _, h, hr⟩ => hb.after_eq h ▸ hr, fun hr => ⟨before, rest, hb, hr⟩⟩
      rw [hrest, ← beforeLast?_eq_none_iff]
      cases hlast : beforeLast? ')' rest <;> simp [hstart, hlast]

/-- The argument is what was quoted, whatever it holds. -/
theorem callArgument?_quoted {before left right after json : String} (hb : ¬ callStart <:+: before.toList)
    (hl : ∀ c ∈ left.toList, Name.isBlank c = true) (hr : ∀ c ∈ right.toList, Name.isBlank c = true)
    (ha : ')' ∉ after.toList) :
    callArgument? (before ++ .ofList callStart ++ left ++ "'" ++ json ++ "'" ++ right ++ ")" ++ after)
      = some json := by
  have hquery : (before ++ .ofList callStart ++ left ++ "'" ++ json ++ "'" ++ right ++ ")" ++ after).toList
      = before.toList ++ callStart ++ ((left.toList ++ '\'' :: (json.toList ++ '\'' :: right.toList))
        ++ ')' :: after.toList) := by
    simp [String.toList_append]
  rw [callArgument?, hquery, afterFirst?_eq_some_iff.mpr ⟨_, firstIn_of_not_infix hb _⟩]
  simp only [bind, Option.bind, beforeLast?_append _ ha, trim_quoted hl hr, unquote_quoted, String.ofList_toList]
  rfl

/-- A call reports what its argument holds, whatever characters these are and whatever stands around the call.
A query is no call exactly if it has no start of one, or no closing parenthesis after the first. -/
theorem ofQuery?_call (now : Int) :
    (∀ before left right after json : String, ¬ callStart <:+: before.toList →
      (∀ c ∈ left.toList, Name.isBlank c = true) → (∀ c ∈ right.toList, Name.isBlank c = true) →
      ')' ∉ after.toList →
      ofQuery? now (before ++ .ofList callStart ++ left ++ "'" ++ json ++ "'" ++ right ++ ")" ++ after)
        = some (receive now json)) ∧
    ∀ query, ofQuery? now query = none ↔ ¬ callStart <:+: query.toList ∨
      ∃ before after, FirstIn callStart query.toList before after ∧ ')' ∉ after := by
  refine ⟨fun before left right after json hb hl hr ha => ?_, fun query => ?_⟩
  · rw [ofQuery?, callArgument?_quoted hb hl hr ha, Option.map_some]
  · rw [ofQuery?, Option.map_eq_none_iff, callArgument?_eq_none_iff]

/-- An insight whose name looks like the end of its call and the start of another one. -/
theorem ofQuery?_call_nested :
    let before := "/* CALL InsightsRpc.reportInsight */ ("
    let json := "[[\"n') CALL InsightsRpc.reportInsight('\",5]]"
    ¬ callStart <:+: before.toList ∧ callStart <:+: json.toList ∧
    ofQuery? 7 (before ++ .ofList callStart ++ " \n" ++ "'" ++ json ++ "'" ++ "\u2003" ++ ")" ++ ";")
      = some (receive 7 json) := by
  intro before json
  have hb : ¬ callStart <:+: before.toList := by decide
  have hjson : callStart <:+: json.toList := by decide
  have hl : ∀ c ∈ " \n".toList, Name.isBlank c = true := List.all_eq_true.mp (by decide)
  have hr : ∀ c ∈ "\u2003".toList, Name.isBlank c = true := List.all_eq_true.mp (by decide)
  exact ⟨hb, hjson, (ofQuery?_call 7).1 before " \n" "\u2003" ";" json hb hl hr (by decide)⟩

end MetricsAgent.Insight
