import MetricsAgent.Link.Basic

/-!
# What a link takes

A link is held for one purpose after the other: for an event and its flush, for all the outputs of a sampling
cycle, or to connect (`Hold`). What the link takes in these holds (`arrivals`) is in order if no event is without
its flush and no cycle is interrupted (`Orderly`).
-/

namespace MetricsAgent

namespace Link

/-- Whether a link takes an output. A flush it always does. -/
def takes (l : Link) (o : Output) (answers : List WriteAnswer) : Bool :=
  match o with
  | .command c => (l.send c answers).1
  | .flush => true

/-- What a link takes of some outputs, in order. -/
def accepted (l : Link) : List Output → List WriteAnswer → List Output
  | [], _ => []
  | o :: outputs, answers =>
    let s := l.put o answers
    if l.takes o answers then o :: s.link.accepted outputs s.answers else s.link.accepted outputs s.answers

/-- The outputs for an event: a flush follows if the command was taken. -/
def eventOutputs (l : Link) (c : Command) (answers : List WriteAnswer) : List Output :=
  if (l.send c answers).1 then [.command c, .flush] else [.command c]

theorem sendAndFlush_eq_deliver (l : Link) (c : Command) (answers : List WriteAnswer) :
    (l.sendAndFlush c answers).link = (l.deliver (l.eventOutputs c answers) answers).link := by
  unfold sendAndFlush eventOutputs
  cases h : l.send c answers with
  | mk taken s => cases taken <;> simp [deliver, Step.andThen, put, h]

theorem accepted_eventOutputs (l : Link) (c : Command) (answers : List WriteAnswer) :
    l.accepted (l.eventOutputs c answers) answers =
      if (l.send c answers).1 then [.command c, .flush] else [] := by
  unfold eventOutputs
  cases h : (l.send c answers).1 <;> simp [accepted, takes, h]

end Link

/-! ## Holds of the link -/

/-- Where an output comes from. -/
inductive Origin where
  /-- The event that was queued under a number. -/
  | event (number : Nat)
  | cycle (tick : Nat)
  deriving DecidableEq

/-- What is done with the link while it is held. -/
inductive Hold where
  | deliver (origin : Origin) (outputs : List Output) (answers : List WriteAnswer)
  | connect (answer : ConnectAnswer)

def Hold.apply (l : Link) : Hold → Link
  | .deliver _ outputs answers => (l.deliver outputs answers).link
  | .connect answer => l.connect answer

/-- What the link takes in a hold. -/
def Hold.arrivals (l : Link) : Hold → List (Origin × Output)
  | .deliver origin outputs answers => (l.accepted outputs answers).map (origin, ·)
  | .connect _ => []

/-- What the link takes in some holds, in order. -/
def arrivals (l : Link) : List Hold → List (Origin × Output)
  | [] => []
  | h :: holds => h.arrivals l ++ arrivals (h.apply l) holds

theorem arrivals_concat (l : Link) (holds : List Hold) (h : Hold) :
    arrivals l (holds ++ [h]) = arrivals l holds ++ h.arrivals (holds.foldl Hold.apply l) := by
  induction holds generalizing l with
  | nil => simp [arrivals]
  | cons h' holds ih => simp [arrivals, ih]

def eventOf? : Origin × Output → Option (Command × Nat)
  | (.event number, .command c) => some (c, number)
  | _ => none

theorem getElem?_append_of_eq_some {α : Type} {l l' : List α} {i : Nat} {a : α} (h : l[i]? = some a) :
    (l ++ l')[i]? = some a := by
  rw [List.getElem?_append_left (List.getElem?_eq_some_iff.mp h).1, h]

/-- Each event is followed by its flush, and each cycle is together. The cycles are numbered up to `tick`. -/
inductive Orderly : Nat → List (Origin × Output) → Prop
  | none (tick : Nat) : Orderly tick []
  | event {tick log} (h : Orderly tick log) (number : Nat) (c : Command) :
      Orderly tick (log ++ [(.event number, .command c), (.event number, .flush)])
  | cycle {tick log} (h : Orderly tick log) (outputs : List Output) :
      Orderly (tick + 1) (log ++ outputs.map (.cycle tick, ·))

namespace Orderly

variable {tick : Nat} {log : List (Origin × Output)}

theorem lt_of_mem (h : Orderly tick log) {k : Nat} {o : Output} (hm : (.cycle k, o) ∈ log) : k < tick := by
  induction h with
  | none tick => cases hm
  | event h number c ih =>
      rcases List.mem_append.mp hm with hm | hm
      · exact ih hm
      · simp at hm
  | cycle h outputs ih =>
      rcases List.mem_append.mp hm with hm | hm
      · exact Nat.lt_succ_of_lt (ih hm)
      · obtain ⟨_, _, he⟩ := List.mem_map.mp hm
        cases he
        exact Nat.lt_succ_self _

theorem flush_next (h : Orderly tick log) {i number : Nat} {c : Command}
    (hi : log[i]? = some (.event number, .command c)) : log[i + 1]? = some (.event number, .flush) := by
  induction h with
  | none tick => cases hi
  | @event tick log h n c' ih =>
      rw [List.getElem?_append] at hi
      split at hi
      · exact getElem?_append_of_eq_some (ih hi)
      · rename_i hge
        obtain ⟨k, rfl⟩ := Nat.exists_eq_add_of_le (Nat.le_of_not_lt hge)
        rw [Nat.add_sub_cancel_left] at hi
        match k, hi with
        | 0, hi =>
            cases hi
            rw [List.getElem?_append_right (by omega)]
            simp
        | 1, hi => cases hi
        | k + 2, hi => cases hi
  | @cycle tick log h outputs ih =>
      rw [List.getElem?_append] at hi
      split at hi
      · exact getElem?_append_of_eq_some (ih hi)
      · rw [List.getElem?_map, Option.map_eq_some_iff] at hi
        obtain ⟨_, _, he⟩ := hi
        cases he

/-- Between two outputs of a cycle there are only outputs of that cycle. -/
theorem between (h : Orderly tick log) {i j k cycle : Nat} {o o' : Output} (hij : i < j) (hjk : j < k)
    (hi : log[i]? = some (.cycle cycle, o)) (hk : log[k]? = some (.cycle cycle, o')) :
    ∃ o'', log[j]? = some (.cycle cycle, o'') := by
  induction h with
  | none tick => cases hi
  | @event tick log h n c ih =>
      have hlt : k < log.length := by
        refine Nat.lt_of_not_le fun hge => ?_
        rw [List.getElem?_append_right hge] at hk
        have hm := List.mem_of_getElem? hk
        simp at hm
      rw [List.getElem?_append_left (by omega)] at hi hk ⊢
      exact ih hi hk
  | @cycle tick log h outputs ih =>
      by_cases hlt : k < log.length
      · rw [List.getElem?_append_left (by omega)] at hi hk ⊢
        exact ih hi hk
      · -- The last output is of the latest cycle, which no output before it is of.
        rw [List.getElem?_append_right (Nat.le_of_not_lt hlt), List.getElem?_map,
          Option.map_eq_some_iff] at hk
        obtain ⟨_, hlast, he⟩ := hk
        cases he
        have hge : log.length ≤ i := by
          refine Nat.le_of_not_lt fun hlt' => ?_
          rw [List.getElem?_append_left hlt'] at hi
          exact Nat.lt_irrefl _ (h.lt_of_mem (List.mem_of_getElem? hi))
        have hbound : k - log.length < outputs.length := (List.getElem?_eq_some_iff.mp hlast).1
        refine ⟨outputs[j - log.length], ?_⟩
        rw [List.getElem?_append_right (by omega), List.getElem?_map, List.getElem?_eq_getElem (by omega)]
        rfl

end Orderly

end MetricsAgent
