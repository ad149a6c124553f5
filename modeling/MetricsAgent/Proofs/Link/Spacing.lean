import MetricsAgent.Link.Throttle

/-!
# Messages a window apart

Of the calls it has answered, a throttle only remembers when the last message was logged. As times never decrease,
that is enough: a message is logged as soon as the one before allows it, so the logged messages are spaced and a
call without one is explained by the last of them (`Answered`). Among the choices of spaced calls, none ever has
more messages, and none with as many allows for its next one earlier (`IsAhead`).
-/

namespace MetricsAgent

namespace Throttle

variable {t : Throttle} {window now count : Nat} {times chosen : List Nat} {calls : List (Nat × Bool)}

/-! ## Times at a distance -/

/-- Each of the times is at least the window after all those before it. -/
def IsSpaced (window : Nat) (times : List Nat) : Prop :=
  times.Pairwise fun earlier later => earlier + window ≤ later

instance (window : Nat) (times : List Nat) : Decidable (IsSpaced window times) :=
  inferInstanceAs (Decidable (List.Pairwise _ _))

theorem isSpaced_concat_iff :
    IsSpaced window (times ++ [now]) ↔ IsSpaced window times ∧ ∀ time ∈ times, time + window ≤ now := by
  simp [IsSpaced, List.pairwise_append]

/-- It is enough to look at the last of the times. -/
theorem IsSpaced.concat (h : IsSpaced window times) (hnow : ∀ last ∈ times.getLast?, last + window ≤ now) :
    IsSpaced window (times ++ [now]) := by
  refine isSpaced_concat_iff.mpr ⟨h, fun time htime => ?_⟩
  cases hlast : times.getLast? with
  | none =>
      rw [List.getLast?_eq_none_iff.mp hlast] at htime
      cases htime
  | some last =>
      have hnext : last + window ≤ now := hnow last hlast
      obtain ⟨before, rfl⟩ := List.getLast?_eq_some_iff.mp hlast
      rcases List.mem_append.mp htime with hbefore | hmem
      · have hle : time + window ≤ last := (isSpaced_concat_iff.mp h).2 time hbefore
        omega
      · rwa [List.mem_singleton.mp hmem]

theorem sublist_concat_cases (h : chosen.Sublist (times ++ [now])) :
    chosen.Sublist times ∨ ∃ earlier, chosen = earlier ++ [now] ∧ earlier.Sublist times := by
  obtain ⟨earlier, ending, rfl, hearlier, hending⟩ := List.sublist_append_iff.mp h
  rcases List.sublist_cons_iff.mp hending with hnil | ⟨rest, rfl, hnil⟩
  · rw [List.sublist_nil.mp hnil, List.append_nil]
    exact .inl hearlier
  · rw [List.sublist_nil.mp hnil]
    exact .inr ⟨earlier, rfl, hearlier⟩

/-! ## Other choices of messages -/

/-- No choice of spaced times has more than `count` messages, and one with as many does not allow for its next
message before `t` does. -/
structure IsAhead (window : Nat) (times : List Nat) (count : Nat) (t : Throttle) : Prop where
  length_le : ∀ chosen, chosen.Sublist times → IsSpaced window chosen → chosen.length ≤ count
  not_earlier : ∀ chosen next, chosen.Sublist times → IsSpaced window (chosen ++ [next]) →
    chosen.length < count ∨ ∀ last ∈ t.last, last + window ≤ next

namespace IsAhead

theorem ofWindow (window : Nat) : IsAhead window [] 0 (ofWindow window) where
  length_le := by simp
  not_earlier := by simp [Throttle.ofWindow]

theorem accept (h : IsAhead window times count t) (now : Nat) :
    IsAhead window (times ++ [now]) (count + 1) { t with last := some now } where
  length_le := by
    intro chosen hsub hspaced
    rcases sublist_concat_cases hsub with hsub | ⟨earlier, rfl, hearlier⟩
    · exact Nat.le_succ_of_le (h.length_le chosen hsub hspaced)
    · have hle := h.length_le earlier hearlier (isSpaced_concat_iff.mp hspaced).1
      simpa using hle
  not_earlier := by
    intro chosen next hsub hspaced
    obtain ⟨hchosen, hnext⟩ := isSpaced_concat_iff.mp hspaced
    rcases sublist_concat_cases hsub with hsub | ⟨earlier, rfl, hearlier⟩
    · exact .inl (Nat.lt_succ_of_le (h.length_le chosen hsub hchosen))
    · right
      intro last hlast
      cases hlast
      exact hnext now (by simp)

theorem refuse (h : IsAhead window times count t) {last : Nat} (hlast : t.last = some last) (hle : last ≤ now)
    (hlt : now < last + window) : IsAhead window (times ++ [now]) count t where
  length_le := by
    intro chosen hsub hspaced
    rcases sublist_concat_cases hsub with hsub | ⟨earlier, rfl, hearlier⟩
    · exact h.length_le chosen hsub hspaced
    · -- A choice with a message where `t` has none was behind before.
      rcases h.not_earlier earlier now hearlier hspaced with hbehind | hallowed
      · rwa [List.length_append]
      · exact absurd (hallowed last hlast) (Nat.not_le_of_lt hlt)
  not_earlier := by
    intro chosen next hsub hspaced
    rcases sublist_concat_cases hsub with hsub | ⟨earlier, rfl, hearlier⟩
    · exact h.not_earlier chosen next hsub hspaced
    · right
      have hnext : now + window ≤ next := (isSpaced_concat_iff.mp hspaced).2 now (by simp)
      intro own hown
      cases hlast.symm.trans hown
      omega

end IsAhead

/-! ## One call -/

/-- The times of the calls whose message was logged. -/
def logged (calls : List (Nat × Bool)) : List Nat := (calls.filter (·.2)).map (·.1)

@[simp] theorem logged_concat_true (calls : List (Nat × Bool)) (now : Nat) :
    logged (calls ++ [(now, true)]) = logged calls ++ [now] := by
  simp [logged]

@[simp] theorem logged_concat_false (calls : List (Nat × Bool)) (now : Nat) :
    logged (calls ++ [(now, false)]) = logged calls := by
  simp [logged]

theorem logged_sublist (calls : List (Nat × Bool)) : (logged calls).Sublist (calls.map (·.1)) :=
  List.filter_sublist.map _

/-- What `t` does at a time that is not before its last message. -/
theorem ask_cases (h : ∀ last ∈ t.last, last ≤ now) :
    (t.ask now = (true, { t with last := some now }) ∧ ∀ last ∈ t.last, last + t.window ≤ now) ∨
    (t.ask now = (false, t) ∧ ∃ last, t.last = some last ∧ now < last + t.window) := by
  unfold ask admits
  cases hlast : t.last with
  | none => simp
  | some last =>
      have hle : last ≤ now := h last hlast
      by_cases hwindow : t.window ≤ now - last
      · have hnext : last + t.window ≤ now := by omega
        simp [hwindow, hnext]
      · have hsoon : now < last + t.window := by omega
        simp [hwindow, hsoon]

/-- The throttle `t` with the window has answered these calls. -/
structure Answered (window : Nat) (calls : List (Nat × Bool)) (t : Throttle) : Prop where
  window_eq : t.window = window
  last_eq : t.last = (logged calls).getLast?
  spaced : IsSpaced window (logged calls)
  refused : ∀ before now, before ++ [(now, false)] <+: calls →
    ∃ last ∈ (logged before).getLast?, last ≤ now ∧ now < last + window
  ahead : IsAhead window (calls.map (·.1)) (logged calls).length t

namespace Answered

theorem ofWindow (window : Nat) : Answered window [] (ofWindow window) where
  window_eq := rfl
  last_eq := rfl
  spaced := .nil
  refused := by simp
  ahead := .ofWindow window

theorem last_le (h : Answered window calls t) (hnow : ∀ c ∈ calls, c.1 ≤ now) :
    ∀ last ∈ t.last, last ≤ now := by
  intro last hlast
  rw [h.last_eq] at hlast
  have hmem := (logged_sublist calls).mem (List.mem_of_mem_getLast? hlast)
  obtain ⟨c, hc, rfl⟩ := List.mem_map.mp hmem
  exact hnow c hc

theorem accept (h : Answered window calls t) (hnow : ∀ last ∈ t.last, last + window ≤ now) :
    Answered window (calls ++ [(now, true)]) { t with last := some now } where
  window_eq := h.window_eq
  last_eq := by simp
  spaced := by
    rw [logged_concat_true]
    exact h.spaced.concat (h.last_eq ▸ hnow)
  refused := by
    intro before time hprefix
    rcases List.prefix_concat_iff.mp hprefix with heq | hprefix
    · simp at heq
    · exact h.refused before time hprefix
  ahead := by simpa using h.ahead.accept now

theorem refuse (h : Answered window calls t) {last : Nat} (hlast : t.last = some last) (hle : last ≤ now)
    (hlt : now < last + window) : Answered window (calls ++ [(now, false)]) t where
  window_eq := h.window_eq
  last_eq := by rw [logged_concat_false, h.last_eq]
  spaced := by
    rw [logged_concat_false]
    exact h.spaced
  refused := by
    intro before time hprefix
    rcases List.prefix_concat_iff.mp hprefix with heq | hprefix
    · obtain ⟨rfl, hcall⟩ := List.append_inj' heq rfl
      cases hcall
      exact ⟨last, h.last_eq ▸ hlast, hle, hlt⟩
    · exact h.refused before time hprefix
  ahead := by simpa using h.ahead.refuse hlast hle hlt

theorem ask (h : Answered window calls t) (hnow : ∀ c ∈ calls, c.1 ≤ now) :
    Answered window (calls ++ [(now, (t.ask now).1)]) (t.ask now).2 := by
  have hle := h.last_le hnow
  rcases ask_cases hle with ⟨hask, hall⟩ | ⟨hask, last, hlast, hlt⟩
  · rw [hask]
    exact h.accept (h.window_eq ▸ hall)
  · rw [hask]
    exact h.refuse hlast (hle last hlast) (h.window_eq ▸ hlt)

/-! ## Calls one after the other -/

theorem askAll (h : Answered window calls t) (hsorted : (calls.map (·.1) ++ times).Pairwise (· ≤ ·)) :
    ∃ after, Answered window (calls ++ times.zip (t.askAll times)) after := by
  induction times generalizing t calls with
  | nil => exact ⟨t, by simpa using h⟩
  | cons now rest ih =>
      have hnow : ∀ c ∈ calls, c.1 ≤ now := fun c hc =>
        (List.pairwise_append.mp hsorted).2.2 c.1 (List.mem_map_of_mem hc) now (by simp)
      have hrest := ih (h.ask hnow) (by simpa using hsorted)
      simpa [Throttle.askAll] using hrest

end Answered

theorem length_askAll (t : Throttle) (times : List Nat) : (t.askAll times).length = times.length := by
  induction times generalizing t with
  | nil => rfl
  | cons now rest ih => simp [askAll, ih]

/-- At times that never decrease, the first call has its message logged, any two logged messages are at least the
window apart, and a call without one comes less than the window after the last logged message. No other choice
among these calls that keeps the window has more messages. -/
theorem spacing (window : Nat) (times : List Nat) (h : times.Pairwise (· ≤ ·)) :
    let answers := (ofWindow window).askAll times
    let calls := times.zip answers
    answers.length = times.length ∧
    (∀ first ∈ answers.head?, first = true) ∧
    IsSpaced window (logged calls) ∧
    (∀ before now, before ++ [(now, false)] <+: calls →
      ∃ last ∈ (logged before).getLast?, last ≤ now ∧ now < last + window) ∧
    ∀ chosen, chosen.Sublist times → IsSpaced window chosen → chosen.length ≤ (logged calls).length := by
  intro answers calls
  have hlength : answers.length = times.length := length_askAll _ times
  have hfirst : ∀ first ∈ answers.head?, first = true := by
    cases times with
    | nil => simp [answers, askAll]
    | cons now rest => simp [answers, askAll, ask, admits, ofWindow]
  obtain ⟨after, hanswered⟩ := (Answered.ofWindow window).askAll h
  have htimes : calls.map (·.1) = times := List.map_fst_zip (Nat.le_of_eq hlength.symm)
  refine ⟨hlength, hfirst, hanswered.spaced, hanswered.refused, fun chosen hsub => ?_⟩
  exact hanswered.ahead.length_le chosen (htimes.symm ▸ hsub)

/-- Calls within a minute of a message, at the end of that minute, and twice at one time. -/
theorem spacing_of_minute :
    let times := [0, 59, 60, 60, 119, 130]
    times.Pairwise (· ≤ ·) ∧
    (ofWindow 60).askAll times = [true, false, true, false, false, true] ∧
    IsSpaced 60 [0, 60, 130] ∧
    (∃ last ∈ [0, 60].getLast?, last ≤ 119 ∧ 119 < last + 60) ∧
    ∀ chosen, chosen.Sublist times → IsSpaced 60 chosen → chosen.length ≤ 3 := by
  intro times
  have hsorted : times.Pairwise (· ≤ ·) := by decide
  obtain ⟨-, -, hspaced, hrefused, hmost⟩ := spacing 60 times hsorted
  have hprefix : [(0, true), (59, false), (60, true), (60, false)] ++ [(119, false)] <+:
      times.zip ((ofWindow 60).askAll times) := ⟨[(130, true)], by decide⟩
  exact ⟨hsorted, by decide, hspaced, hrefused _ 119 hprefix, hmost⟩

example : (ofWindow 0).askAll [5, 5, 6] = [true, true, true] := by decide

end Throttle

end MetricsAgent
