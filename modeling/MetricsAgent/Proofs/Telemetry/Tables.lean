import Mathlib.Data.List.Infix
import Mathlib.Logic.Function.Basic
import MetricsAgent.Daemon.Tally
import MetricsAgent.Proofs.Telemetry.Silence
import MetricsAgent.Proofs.Telemetry.Steps

/-!
# The channels after calls at the same time

Whatever the order of the steps, a metric that is not removed is never lost: until it stands on a channel, some
call is about to put it there (`Kept`). The channels only agree with the rules if nothing comes between the steps
of a reload that concerns the same name (`Calm`). Then a name stands where the rules send it or where the reload
has yet to look (`Placed`), and a removed name does not come back (`Gone`).
-/

namespace MetricsAgent.Telemetry

variable {ι ε δ : Type} {m : Matching} {life : Lifecycle δ}

/-! ## Threads -/

/-- Telemetry, and what each thread has still to do of its call. -/
structure Crowd (ι ε δ : Type) where
  telemetry : Telemetry ε δ
  tasks : ι → Task ε

/-- A thread that is done calls, or does the next step of its call. -/
inductive Turn (ι ε : Type) where
  | call (i : ι) (c : Call ε)
  | step (i : ι)
  deriving DecidableEq

namespace Crowd

variable [DecidableEq ι]

def perform (m : Matching) (life : Lifecycle δ) (x : Crowd ι ε δ) : Turn ι ε → Crowd ι ε δ
  | .call i c => if (x.tasks i).isDone then { x with tasks := Function.update x.tasks i c.task } else x
  | .step i =>
    ⟨((x.tasks i).step m life x.telemetry).1,
      Function.update x.tasks i ((x.tasks i).step m life x.telemetry).2⟩

/-- The crowd after some turns of threads that have called nothing before. -/
def after (m : Matching) (life : Lifecycle δ) (t : Telemetry ε δ) (turns : List (Turn ι ε)) : Crowd ι ε δ :=
  turns.foldl (perform m life) ⟨t, fun _ => .done⟩

theorem after_concat (t : Telemetry ε δ) (turns : List (Turn ι ε)) (turn : Turn ι ε) :
    after m life t (turns ++ [turn]) = (after m life t turns).perform m life turn := by
  simp [after]

/-- Whether the name stands on the channel. -/
def Holds (x : Crowd ι ε δ) (n : String) (k : Channel) : Prop :=
  (x.telemetry.roster.at? n k).isSome = true

instance (x : Crowd ι ε δ) (n : String) (k : Channel) : Decidable (x.Holds n k) :=
  inferInstanceAs (Decidable (_ = true))

variable {n : String} {x : Crowd ι ε δ}

@[simp] theorem telemetry_call (x : Crowd ι ε δ) (i : ι) (c : Call ε) :
    (x.perform m life (.call i c)).telemetry = x.telemetry := by
  rw [perform]
  split <;> rfl

theorem tasks_call (x : Crowd ι ε δ) (i : ι) (c : Call ε) (j : ι) :
    (x.perform m life (.call i c)).tasks j = x.tasks j ∨
      j = i ∧ (x.perform m life (.call i c)).tasks j = c.task := by
  rw [perform]
  split
  · by_cases hj : j = i
    · exact .inr ⟨hj, by simp [hj]⟩
    · exact .inl (by simp [hj])
  · exact .inl rfl

/-- A thread does what it has called to the end before it calls again. -/
theorem tasks_call_of_ne_done {j : ι} (h : x.tasks j ≠ .done) (i : ι) (c : Call ε) :
    (x.perform m life (.call i c)).tasks j = x.tasks j := by
  rw [perform]
  split
  · rename_i hi
    have hj : j ≠ i := by
      rintro rfl
      exact h (Task.isDone_iff.mp hi)
    simp [hj]
  · rfl

@[simp] theorem tasks_step_self (x : Crowd ι ε δ) (i : ι) :
    (x.perform m life (.step i)).tasks i = ((x.tasks i).step m life x.telemetry).2 := by
  simp [perform]

theorem tasks_step_of_ne {i j : ι} (h : j ≠ i) : (x.perform m life (.step i)).tasks j = x.tasks j := by
  simp [perform, h]

/-! ## Metrics are not lost -/

/-- The name stands on a channel, or some call is about to put it on one. -/
def Kept (n : String) (x : Crowd ι ε δ) : Prop :=
  (∃ k, x.Holds n k) ∨ ∃ i, (x.tasks i).puts n = true

namespace Kept

theorem step (h : Kept n x) {i : ι} (hr : (x.tasks i).removes n = false) :
    Kept n (x.perform m life (.step i)) := by
  rcases h with ⟨k, hk⟩ | ⟨j, hj⟩
  · by_cases he : (x.tasks i).edit m = .erase n k
    · -- The metric was taken off the channel, and is to be put on another.
      exact .inr ⟨i, by simpa using Task.puts_step_of_edit_eq_erase he hk hr⟩
    · exact .inl ⟨k, Task.isSome_at?_step_iff.mpr (.inr ⟨hk, he⟩)⟩
  · by_cases hi : j = i
    · subst hi
      rcases Task.puts_step m life x.telemetry hj with hputs | hholds
      · exact .inr ⟨j, by simpa using hputs⟩
      · exact .inl hholds
    · exact .inr ⟨j, by rwa [tasks_step_of_ne hi]⟩

theorem call (h : Kept n x) (i : ι) (c : Call ε) : Kept n (x.perform m life (.call i c)) := by
  rcases h with ⟨k, hk⟩ | ⟨j, hj⟩
  · exact .inl ⟨k, by rwa [Holds, telemetry_call]⟩
  · have hj' : x.tasks j ≠ .done := by
      intro hdone
      rw [hdone] at hj
      cases hj
    exact .inr ⟨j, by rwa [tasks_call_of_ne_done hj']⟩

end Kept

/-! ## Reloads that nothing comes between -/

/-- While a call reloads there is no other reload, and no call registers or removes the name. Old rules that
equal the new ones are those in force. -/
structure Calm (n : String) (x : Crowd ι ε δ) : Prop where
  alone : ∀ i j, (x.tasks i).reloads = true → j ≠ i →
    (x.tasks j).reloads = false ∧ (x.tasks j).registers n = false ∧ (x.tasks j).removes n = false
  knows : ∀ i, (x.tasks i).Knows x.telemetry

instance {threads : Nat} (n : String) (x : Crowd (Fin threads) ε δ) : Decidable (Calm n x) :=
  decidable_of_iff
    ((∀ i j, (x.tasks i).reloads = true → j ≠ i →
      (x.tasks j).reloads = false ∧ (x.tasks j).registers n = false ∧ (x.tasks j).removes n = false) ∧
      ∀ i, (x.tasks i).Knows x.telemetry)
    ⟨fun h => ⟨h.1, h.2⟩, fun h => ⟨h.alone, h.knows⟩⟩

/-- The name stands where the rules send it, or where a reload has yet to look. -/
structure Placed (m : Matching) (n : String) (x : Crowd ι ε δ) : Prop where
  stands : ∀ k, x.Holds n k → k = x.telemetry.route m n ∨ ∃ i, (x.tasks i).YetMoves n k
  current : ∀ i, (x.tasks i).Current m n x.telemetry

namespace Placed

omit [DecidableEq ι] in
theorem eq_route_of_removes (h : Placed m n x) (hc : Calm n x) {i : ι} (hi : (x.tasks i).removes n = true)
    {k : Channel} (hk : x.Holds n k) : k = x.telemetry.route m n := by
  rcases h.stands k hk with hr | ⟨j, hj⟩
  · exact hr
  · have hl := Task.reloads_of_yetMoves hj
    have hne : i ≠ j := by
      rintro rfl
      cases ht : x.tasks i <;> simp [ht, Task.reloads, Task.removes] at hl hi
    rw [(hc.alone j i hl hne).2.2] at hi
    cases hi

theorem call (h : Placed m n x) (i : ι) (c : Call ε) : Placed m n (x.perform m life (.call i c)) := by
  refine ⟨fun k hk => ?_, fun j => ?_⟩
  · rw [Holds, telemetry_call] at hk
    rw [telemetry_call]
    rcases h.stands k hk with hr | ⟨j, hj⟩
    · exact .inl hr
    · have hj' : x.tasks j ≠ .done := by
        intro hdone
        rw [hdone] at hj
        exact hj.elim
      exact .inr ⟨j, by rwa [tasks_call_of_ne_done hj']⟩
  · rw [telemetry_call]
    rcases x.tasks_call i c j with he | ⟨-, he⟩ <;> rw [he]
    · exact h.current j
    · cases c <;> trivial

/-- New settings: the other calls know nothing of the old ones. -/
theorem step_reconfigure (h : Placed m n x) (hc : Calm n x) {i : ι} {old new : Settings}
    (hi : x.tasks i = .reconfigure old new) : Placed m n (x.perform m life (.step i)) := by
  have hothers (j : ι) (hj : j ≠ i) := hc.alone i j (by rw [hi]; rfl) hj
  refine ⟨fun k hk => ?_, fun j => ?_⟩
  · by_cases hr : old.rules = new.rules
    · left
      have hbefore : x.Holds n k := by simpa [Holds, perform, hi, Task.step] using hk
      rcases h.stands k hbefore with hroute | ⟨j, hj⟩
      · rw [hroute]
        have hknows := hc.knows i
        rw [hi] at hknows
        simp only [perform, hi, Task.step, route]
        rw [hknows hr]
      · have hl := Task.reloads_of_yetMoves hj
        have hne : j ≠ i := by
          rintro rfl
          rw [hi] at hj
          exact hj.elim
        rw [(hothers j hne).1] at hl
        cases hl
    · -- Wherever the name stands, its channel is yet to be listed.
      exact .inr ⟨i, by cases k <;> simp [perform, hi, Task.step, hr, Task.YetMoves, Channel.all]⟩
  · by_cases hj : j = i
    · subst hj
      rw [tasks_step_self]
      exact (h.current j).step
    · rw [tasks_step_of_ne hj]
      exact Task.current_of_not_registers (hothers j hj).2.1 (hothers j hj).1

theorem step (h : Placed m n x) (hc : Calm n x) (i : ι) : Placed m n (x.perform m life (.step i)) := by
  by_cases hi : ∃ old new, x.tasks i = .reconfigure old new
  · obtain ⟨old, new, hi⟩ := hi
    exact h.step_reconfigure hc hi
  · -- The settings stay, so the name goes where they send it, and what the calls know stays true.
    have hs := Task.settings_step m life x.telemetry fun old new he => hi ⟨old, new, he⟩
    have hroute : (x.perform m life (.step i)).telemetry.route m n = x.telemetry.route m n := by
      simp only [perform, route, hs]
    refine ⟨fun k hk => ?_, fun j => ?_⟩
    · rw [hroute]
      rcases Task.isSome_at?_step_iff.mp hk with ⟨e, he⟩ | ⟨hbefore, -⟩
      · exact .inl ((Task.of_edit_eq_insert he).2 (h.current i))
      · rcases h.stands k hbefore with hr | ⟨j, hj⟩
        · exact .inl hr
        · by_cases hji : j = i
          · subst hji
            rcases hj.step (h.current j) hk with hj | hr
            · exact .inr ⟨j, by simpa using hj⟩
            · exact .inl hr
          · exact .inr ⟨j, by rwa [tasks_step_of_ne hji]⟩
    · by_cases hj : j = i
      · subst hj
        rw [tasks_step_self]
        exact (h.current j).step
      · rw [tasks_step_of_ne hj]
        exact (h.current j).of_settings_eq hs

end Placed

/-! ## Removed names -/

/-- The name stands nowhere but where the call that removes it has yet to look, and no call is about to put it
on a channel. -/
structure Gone (n : String) (i : ι) (x : Crowd ι ε δ) : Prop where
  stands : ∀ k, x.Holds n k → ∃ channels, x.tasks i = .remove n channels ∧ k ∈ channels
  unput : ∀ j, (x.tasks j).puts n = false

namespace Gone

variable {i : ι}

theorem call (h : Gone n i x) (j : ι) {c : Call ε} (hc : ∀ e, c ≠ .register n e) :
    Gone n i (x.perform m life (.call j c)) := by
  refine ⟨fun k hk => ?_, fun l => ?_⟩
  · rw [Holds, telemetry_call] at hk
    obtain ⟨channels, hi, hmem⟩ := h.stands k hk
    have hi' : x.tasks i ≠ .done := by simp [hi]
    exact ⟨channels, by rw [tasks_call_of_ne_done hi', hi], hmem⟩
  · rcases x.tasks_call j c l with he | ⟨-, he⟩ <;> rw [he]
    · exact h.unput l
    · cases c with
      | register name e =>
          have hn : name ≠ n := fun hn => hc e (by rw [hn])
          simp [Call.task, Task.puts, hn]
      | _ => rfl

omit [DecidableEq ι] in
/-- The call that removes the name looks further, unless it has just found it: then it stands nowhere else. -/
theorem stands_step (hp : Placed m n x) (hc : Calm n x) {channels : List Channel} {k : Channel}
    (hi : x.tasks i = .remove n channels) (hmem : k ∈ channels) (hk : x.Holds n k)
    (hkept : (x.tasks i).edit m ≠ .erase n k) :
    ∃ channels, ((x.tasks i).step m life x.telemetry).2 = .remove n channels ∧ k ∈ channels := by
  cases channels with
  | nil => cases hmem
  | cons c channels =>
      have hne : k ≠ c := by
        rintro rfl
        exact hkept (by rw [hi]; rfl)
      have hnone : x.telemetry.roster.at? n c = none := by
        by_contra hsome
        have hremoves : (x.tasks i).removes n = true := by simp [hi, Task.removes]
        have hholds : x.Holds n c := Option.isSome_iff_ne_none.mpr hsome
        have hroute := hp.eq_route_of_removes hc hremoves hholds
        exact hne ((hp.eq_route_of_removes hc hremoves hk).trans hroute.symm)
      refine ⟨channels, by simp [hi, Task.step, hnone], ?_⟩
      exact (List.mem_cons.mp hmem).resolve_left hne

theorem step (h : Gone n i x) (hp : Placed m n x) (hc : Calm n x) (j : ι) :
    Gone n i (x.perform m life (.step j)) := by
  refine ⟨fun k hk => ?_, fun l => ?_⟩
  · rcases Task.isSome_at?_step_iff.mp hk with ⟨e, he⟩ | ⟨hbefore, hkept⟩
    · have hputs := (Task.of_edit_eq_insert (t := x.telemetry) he).1
      rw [h.unput j] at hputs
      cases hputs
    · obtain ⟨channels, hi, hmem⟩ := h.stands k hbefore
      by_cases hij : i = j
      · subst hij
        rw [tasks_step_self]
        exact stands_step hp hc hi hmem hbefore hkept
      · exact ⟨channels, by rwa [tasks_step_of_ne hij], hmem⟩
  · by_cases hl : l = j
    · subst hl
      rw [tasks_step_self]
      by_contra hputs
      rcases Task.puts_of_step (by simpa using hputs) with hputs | ⟨hreloads, k, hk⟩
      · rw [h.unput l] at hputs
        cases hputs
      · -- The name still stands somewhere, so it is being removed.
        obtain ⟨channels, hi, -⟩ := h.stands k hk
        have hne : i ≠ l := by
          rintro rfl
          simp [hi, Task.reloads] at hreloads
        have hremoves := (hc.alone l i hreloads hne).2.2
        simp [hi, Task.removes] at hremoves
    · rw [tasks_step_of_ne hl]
      exact h.unput l

end Gone

/-! ## Runs -/

variable {t : Telemetry ε δ} {turns : List (Turn ι ε)}

omit [DecidableEq ι] in
/-- What holds after the first turns and is kept by each of the others holds after all. -/
theorem prefix_induction {P : List (Turn ι ε) → Prop} {first turns : List (Turn ι ε)} (hle : first <+: turns)
    (h : P first)
    (hstep : ∀ part turn, first <+: part → part ++ [turn] <+: turns → P part → P (part ++ [turn])) : P turns := by
  obtain ⟨later, rfl⟩ := hle
  induction later using List.reverseRecOn with
  | nil => simpa using h
  | append_singleton later turn ih =>
      have hlast : (first ++ later) ++ [turn] <+: first ++ (later ++ [turn]) := by simp
      have hbefore := ih fun part turn' hf hp =>
        hstep part turn' hf (hp.trans ((List.prefix_append ..).trans hlast))
      simpa using hstep (first ++ later) turn (List.prefix_append ..) hlast hbefore

theorem removes_after (h : ∀ i, .call i (.remove n) ∉ turns) (i : ι) :
    ((after m life t turns).tasks i).removes n = false := by
  refine prefix_induction (P := fun part => ∀ i, ((after m life t part).tasks i).removes n = false)
    turns.nil_prefix (fun _ => rfl) (fun part turn _ hp ih i => ?_) i
  rw [after_concat]
  cases turn with
  | call j c =>
      rcases (after m life t part).tasks_call j c i with he | ⟨rfl, he⟩ <;> rw [he]
      · exact ih i
      · cases c with
        | remove name =>
            have hn : name ≠ n := by
              rintro rfl
              exact h i (hp.subset (by simp))
            simp [Call.task, Task.removes, hn]
        | _ => rfl
  | step j =>
      by_cases hi : i = j
      · subst hi
        rw [tasks_step_self]
        exact Task.removes_step m life _ (ih i)
      · rw [tasks_step_of_ne hi]
        exact ih i

theorem kept_after (h : ∀ i, .call i (.remove n) ∉ turns) {first : List (Turn ι ε)} (hle : first <+: turns)
    (hk : Kept n (after m life t first)) : Kept n (after m life t turns) := by
  refine prefix_induction (P := fun part => Kept n (after m life t part)) hle hk fun part turn _ hp ih => ?_
  rw [after_concat]
  cases turn with
  | call i c => exact ih.call i c
  | step i =>
      refine ih.step (removes_after (fun j hj => h j ?_) i)
      exact ((List.prefix_append part [.step i]).trans hp).subset hj

theorem placed_after (ht : Faithful m t) (hc : ∀ part, part <+: turns → Calm n (after m life t part)) :
    Placed m n (after m life t turns) := by
  refine prefix_induction (P := fun part => Placed m n (after m life t part)) turns.nil_prefix ?_
    fun part turn _ hp ih => ?_
  · refine ⟨fun k hk => ?_, fun _ => trivial⟩
    obtain ⟨e, he⟩ := Option.isSome_iff_exists.mp hk
    exact .inl (ht.eq_route he)
  · rw [after_concat]
    cases turn with
    | call i c => exact ih.call i c
    | step i => exact ih.step (hc part ((List.prefix_append ..).trans hp)) i

theorem gone_after (ht : Faithful m t) (hc : ∀ part, part <+: turns → Calm n (after m life t part))
    {before later : List (Turn ι ε)} {i : ι} (he : turns = before ++ .call i (.remove n) :: later)
    (hi : (after m life t before).tasks i = .done)
    (hbefore : ∀ j, ((after m life t before).tasks j).registers n = false)
    (hlater : ∀ j e, .call j (.register n e) ∉ later) : Gone n i (after m life t turns) := by
  have hle : before ++ [.call i (.remove n)] <+: turns := ⟨later, by simp [he]⟩
  have hbegin : (after m life t (before ++ [.call i (.remove n)])).tasks =
      Function.update (after m life t before).tasks i (.remove n Channel.all) := by
    simp [after_concat, perform, hi, Task.isDone, Call.task]
  refine prefix_induction (P := fun part => Gone n i (after m life t part)) hle ?_ fun part turn hf hp ih => ?_
  · refine ⟨fun k _ => ⟨Channel.all, by simp [hbegin], by cases k <;> simp [Channel.all]⟩, fun j => ?_⟩
    by_cases hj : j = i
    · simp [hbegin, hj, Task.puts]
    · -- A call about to put the name would register it, or reload beside the call that removes it.
      by_contra hputs
      rw [Bool.not_eq_false] at hputs
      rcases Task.registers_or_reloads_of_puts hputs with hr | hl
      · rw [hbegin, Function.update_of_ne hj, hbefore j] at hr
        cases hr
      · have halone := ((hc _ hle).alone j i hl (Ne.symm hj)).2.2
        simp [hbegin, Task.removes] at halone
  · rw [after_concat]
    cases turn with
    | call j c =>
        refine ih.call j fun e hce => ?_
        obtain ⟨mid, rfl⟩ := hf
        have hmem : mid ++ [.call j c] <+: later := by
          rw [he] at hp
          simpa using hp
        exact hlater j e (hmem.subset (by simp [hce]))
    | step j =>
        have hpart := (List.prefix_append part [.step j]).trans hp
        exact ih.step (placed_after ht fun p hle' => hc p (hle'.trans hpart)) (hc part hpart) j

/-- Calls at the same time, once all have returned. In whatever order their steps come: a name that stood on a
channel or was registered, and that no call removed, stands on some channel. If nothing comes between the steps
of a reload that concerns the name, it stands at most on the channel to which the settings send it; and it stands
on none if some call removed it that began when no call was registering it, and none has since. -/
theorem tables_after (m : Matching) (life : Lifecycle δ) (t : Telemetry ε δ) (ht : Faithful m t)
    (turns : List (Turn ι ε)) (hdone : ∀ i, (after m life t turns).tasks i = .done) (n : String) :
    let run (turns : List (Turn ι ε)) := after m life t turns
    ((∀ i, .call i (.remove n) ∉ turns) →
      (∃ k, (t.roster.at? n k).isSome = true) ∨ (∃ before i e later,
        turns = before ++ .call i (.register n e) :: later ∧ (run before).tasks i = .done) →
      ∃ k, (run turns).Holds n k) ∧
    ((∀ part, part <+: turns → Calm n (run part)) →
      (∀ k, (run turns).Holds n k → k = (run turns).telemetry.route m n) ∧
      ∀ before i later, turns = before ++ .call i (.remove n) :: later → (run before).tasks i = .done →
        (∀ j, ((run before).tasks j).registers n = false) → (∀ j e, .call j (.register n e) ∉ later) →
        ∀ k, ¬ (run turns).Holds n k) := by
  intro run
  refine ⟨fun hr hstart => ?_, fun hc => ⟨fun k hk => ?_, fun before i later he hi hb hl k hk => ?_⟩⟩
  · have hkept : Kept n (run turns) := by
      rcases hstart with hk | ⟨before, i, e, later, he, hi⟩
      · exact kept_after hr turns.nil_prefix (.inl hk)
      · have hle : before ++ [.call i (.register n e)] <+: turns := ⟨later, by simp [he]⟩
        have hi : (after m life t before).tasks i = .done := hi
        refine kept_after hr hle (.inr ⟨i, ?_⟩)
        simp [after_concat, perform, hi, Task.isDone, Call.task, Task.puts]
    rcases hkept with hk | ⟨i, hi⟩
    · exact hk
    · rw [hdone i] at hi
      cases hi
  · rcases (placed_after ht hc).stands k hk with hroute | ⟨i, hi⟩
    · exact hroute
    · rw [hdone i] at hi
      exact hi.elim
  · obtain ⟨channels, hremove, -⟩ := (gone_after ht hc he hi hb hl).stands k hk
    rw [hdone i] at hremove
    cases hremove

/-- A metric is denied while another is registered. -/
theorem tables_after_denial :
    let m : Matching := fun _ _ => true
    let denying : Settings := { Settings.defaults with rules := [.deniedGlobally] }
    let setup := Setup.ofSocket .empty ⟨"node", "datacenter", "rack", "cluster"⟩
    let t : Telemetry Nat Tally := create setup .defaults {}
    let turns : List (Turn (Fin 2) Nat) :=
      .call 0 (.register "Reads" 0) :: List.replicate 4 (.step 0) ++
      .call 1 (.reconfigure .defaults denying) :: List.replicate 3 (.step 1) ++
      .call 0 (.register "Writes" 1) :: List.replicate 4 (.step 0) ++ List.replicate 10 (.step 1)
    let x := after m Tally.life t turns
    (∀ i, x.tasks i = .done) ∧ x.Holds "Reads" .denied ∧ ∀ k, x.Holds "Reads" k → k = .denied := by
  intro m denying setup t turns x
  have ht : Faithful m t := ⟨_, Roster.Routed.of_empty _⟩
  have hdone : ∀ i, x.tasks i = .done := by decide
  have hcalm : ∀ part, part <+: turns → Calm "Reads" (after m Tally.life t part) := by
    have h : ∀ part ∈ turns.inits, Calm "Reads" (after m Tally.life t part) := by decide
    exact fun part hp => h part ((List.mem_inits ..).mpr hp)
  have hroute : x.telemetry.route m "Reads" = .denied := by decide
  have hreads := tables_after m Tally.life t ht turns hdone "Reads"
  obtain ⟨k, hk⟩ := hreads.1 (by decide) (.inr ⟨[], 0, 0, _, rfl, rfl⟩)
  have hplace := fun k hk => ((hreads.2 hcalm).1 k hk).trans hroute
  exact ⟨hdone, hplace k hk ▸ hk, hplace⟩

/-- What may come between: a reload after the rules were read, another registration as well, a removal while a
reload moves the metric; and a reload may take other rules for those in force. -/
theorem tables_torn :
    let m : Matching := fun _ _ => true
    let denying : Settings := { Settings.defaults with rules := [.deniedGlobally] }
    let setup := Setup.ofSocket .empty ⟨"node", "datacenter", "rack", "cluster"⟩
    let run (turns : List (Turn (Fin 3) Nat)) := after m Tally.life (create setup .defaults ({} : Tally)) turns
    let steps (i : Fin 3) (count : Nat) : List (Turn (Fin 3) Nat) := List.replicate count (.step i)
    let late := run (.call 0 (.register "Reads" 0) :: steps 0 1 ++ .call 1 (.reconfigure .defaults denying) ::
      steps 1 9 ++ steps 0 3)
    let twice := run (.call 0 (.register "Reads" 0) :: steps 0 3 ++ .call 1 (.reconfigure .defaults denying) ::
      steps 1 9 ++ .call 2 (.register "Reads" 1) :: steps 2 4 ++ steps 0 1)
    let back := run (.call 0 (.register "Reads" 0) :: steps 0 4 ++ .call 1 (.reconfigure .defaults denying) ::
      steps 1 3 ++ .call 0 (.remove "Reads") :: steps 0 5 ++ steps 1 9)
    let missed := run (.call 0 (.register "Reads" 0) :: steps 0 4 ++ .call 1 (.reconfigure denying denying) ::
      steps 1 2)
    (∀ x ∈ [late, twice, back, missed], ∀ i, x.tasks i = .done) ∧
    (late.Holds "Reads" .unrestricted ∧ late.telemetry.route m "Reads" = .denied) ∧
    (twice.Holds "Reads" .unrestricted ∧ twice.Holds "Reads" .denied) ∧
    back.Holds "Reads" .denied ∧
    (missed.Holds "Reads" .unrestricted ∧ missed.telemetry.route m "Reads" = .denied) := by
  decide

end Crowd

end MetricsAgent.Telemetry
