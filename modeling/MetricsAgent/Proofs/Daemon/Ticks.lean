import MetricsAgent.Proofs.Daemon.States

/-!
# Supervision

A daemon is supervised by checking its health again and again, and starting it after each failed check. The
ticks may come between any other operations. A tick that finds the daemon well changes nothing; any other one
is a failure that is counted, and one start.
-/

namespace MetricsAgent

/-- The lifecycle, counting how often the daemon is started. -/
def Lifecycle.counted {δ : Type} (life : Lifecycle δ) : Lifecycle (δ × Nat) where
  start socket t d := ((life.start socket t d.1).1, (life.start socket t d.1).2, d.2 + 1)
  check d := ((life.check d.1).1, (life.check d.1).2, d.2)
  stop d := ((life.stop d.1).1, (life.stop d.1).2, d.2)
  reload t d := ((life.reload t d.1).1, (life.reload t d.1).2, d.2)

theorem Lifecycle.tick_counted_of_well {δ : Type} (life : Lifecycle δ) (socket : ByteArray) (t : Settings)
    (failed : UInt64) (d : δ) (starts : Nat) (h : (life.check d).1 = true) :
    life.counted.tick socket t failed (d, starts) = (true, failed, (life.check d).2, starts) := by
  simp [tick, counted, h]

theorem Lifecycle.tick_counted_of_not_well {δ : Type} (life : Lifecycle δ) (socket : ByteArray) (t : Settings)
    (failed : UInt64) (d : δ) (starts : Nat) (h : (life.check d).1 = false) :
    life.counted.tick socket t failed (d, starts) =
      (false, failed + 1, (life.start socket t (life.check d).2).2, starts + 1) := by
  simp [tick, counted, h]

namespace Supervisor

open Recorded

variable {σ : Type} (m : Machine σ) (s : Supervisor (Recorded σ))

/-! ## Health checks -/

/-- The daemon is started, and the first line of its file is the tracked process, which is alive and has the
daemon's name in its command line. -/
def IsWell : Prop :=
  s.state = .started ∧ ∃ conf pid text words, s.conf? = some conf ∧ s.pid? = some pid ∧
    m.hasPath conf.pidFile s.machine.now = true ∧
    m.readText? conf.pidFile s.machine.now = some text ∧
    PidFile.number? (PidFile.trim (text.toList.takeWhile (· != '\n'))) = some pid ∧
    m.commandLine? pid s.machine.now = some words ∧
    "collectd".toList <:+: (" ".intercalate words).toList.map Char.toLower

/-- The daemon is started, and its file is gone. -/
def LacksFile : Prop :=
  s.state = .started ∧ ∃ conf, s.conf? = some conf ∧ m.hasPath conf.pidFile s.machine.now = false

variable {m s}

theorem isWell_iff : IsWell m s ↔ s.state = .started ∧
    ∃ conf pid, s.conf? = some conf ∧ s.pid? = some pid ∧ m.hasPath conf.pidFile s.machine.now = true ∧
    PidFile.daemon? m conf.pidFile s.machine.now = some pid := by
  simp only [PidFile.daemon?_eq_some_iff, PidFile.isDaemon_iff]
  constructor
  · rintro ⟨hs, conf, pid, text, words, hc, hp, hf, ht, hn, hw, hd⟩
    exact ⟨hs, conf, pid, hc, hp, hf, ⟨text, ht, hn⟩, words, hw, hd⟩
  · rintro ⟨hs, conf, pid, hc, hp, hf, ⟨text, ht, hn⟩, words, hw, hd⟩
    exact ⟨hs, conf, pid, text, words, hc, hp, hf, ht, hn, hw, hd⟩

theorem IsWell.not_lacksFile (h : IsWell m s) : ¬ LacksFile m s := by
  obtain ⟨-, conf, _, _, _, hc, -, hf, -⟩ := h
  rintro ⟨-, conf', hc', hf'⟩
  cases hc.symm.trans hc'
  cases hf.symm.trans hf'

theorem lookUp_eq_some_iff (pidFile : String) (pid : Int) :
    (s.lookUp m.recorded pidFile).1 = some pid ↔ m.hasPath pidFile s.machine.now = true ∧
      PidFile.daemon? m pidFile s.machine.now = some pid := by
  rcases lookUp_cases m s pidFile with ⟨pid', hl, hf, hd⟩ | ⟨s', hl, h⟩
  · rw [hl]
    simp [hf, hd]
  · rw [hl]
    cases h with
    | unnamed hf hd => simp [hd]
    | gone hf => simp [hf]

theorem check_eq_true_iff (hext : s.supervision.external = false) :
    (s.check m.recorded).1 = true ↔ IsWell m s := by
  rw [check, if_neg (by simp [hext]), isWell_iff]
  split
  · rename_i pid conf hp hc
    split
    · rename_i hs
      have hl := lookUp_eq_some_iff (m := m) (s := s) conf.pidFile pid
      simpa [hs, hp, hc] using hl
    · rename_i hs
      simp [hs]
  · rename_i hnone
    constructor
    · intro h
      cases h
    · rintro ⟨_, conf, pid, hc, hp, _⟩
      exact (hnone pid conf hp hc).elim

/-- A health check leaves everything as it is, unless the daemon's file is gone. -/
theorem check_of_not_lacksFile (h : ¬ LacksFile m s) : (s.check m.recorded).2 = s := by
  rcases check_cases m s with he | ⟨conf, hc, hs, hf, _⟩
  · exact he
  · exact (h ⟨hs, conf, hc, hf⟩).elim

/-- If the file is gone, the tracked process is signalled once, and tracked no more. -/
theorem check_of_lacksFile (hext : s.supervision.external = false) (hcon : Consistent s) (h : LacksFile m s) :
    ∃ pid, s.pid? = some pid ∧ (s.check m.recorded).2.pid? = none ∧
      (s.check m.recorded).2.machine.deeds = s.machine.deeds ++ [(.terminate pid, s.machine.now)] := by
  obtain ⟨hs, conf, hc, hf⟩ := h
  obtain ⟨pid, hp⟩ := Option.isSome_iff_exists.mp (hcon.started hs).1
  have hcheck : (s.check m.recorded).2 = s.endTracked m.recorded := by
    rw [check, if_neg (by simp [hext])]
    simp [hp, hc, hs, lookUp, Machine.recorded, hf]
  have he := ended_endTracked m s
  rw [hcheck]
  generalize s.endTracked m.recorded = s' at he
  cases he with
  | idle h => simp [hp, hs] at h
  | @signalled pid' _ hp' =>
      cases hp.symm.trans hp'
      exact ⟨pid, hp, rfl, rfl⟩

/-! ## Ticks -/

/-- A supervised daemon, how many checks failed, and how often it was started for that. -/
structure Watch (σ : Type) where
  failed : UInt64 := 0
  starts : Nat := 0
  daemon : Supervisor (Recorded σ)

inductive Turn (σ : Type) where
  | tick (socket : ByteArray) (t : Settings)
  | operation (o : Operation σ)

variable (m)

def Watch.turn (x : Watch σ) : Turn σ → Watch σ
  | .tick socket t =>
    let (_, failed, daemon, starts) := (life m.recorded).counted.tick socket t x.failed (x.daemon, x.starts)
    { failed, starts, daemon }
  | .operation o => { x with daemon := x.daemon.perform m o }

/-- A fresh supervisor after some turns. -/
def watched (v : Supervision) (w : σ) (turns : List (Turn σ)) : Watch σ :=
  turns.foldl (Watch.turn m) { daemon := fresh v w }

theorem watched_induction {P : Watch σ → Prop} {v : Supervision} {w : σ}
    (hfresh : P { daemon := fresh v w }) (hturn : ∀ x turn, P x → P (x.turn m turn)) (turns : List (Turn σ)) :
    P (watched m v w turns) := by
  unfold watched
  generalize ({ daemon := fresh v w } : Watch σ) = x at hfresh
  induction turns generalizing x with
  | nil => exact hfresh
  | cons turn turns ih => exact ih _ (hturn x turn hfresh)

theorem turn_tick_of_well (x : Watch σ) (socket : ByteArray) (t : Settings)
    (h : (x.daemon.check m.recorded).1 = true) :
    x.turn m (.tick socket t) = { x with daemon := (x.daemon.check m.recorded).2 } := by
  rw [Watch.turn, Lifecycle.tick_counted_of_well _ _ _ _ _ _ h]
  rfl

theorem turn_tick_of_not_well (x : Watch σ) (socket : ByteArray) (t : Settings)
    (h : (x.daemon.check m.recorded).1 = false) :
    x.turn m (.tick socket t) =
      ⟨x.failed + 1, x.starts + 1, ((x.daemon.check m.recorded).2.start m.recorded socket t).2⟩ := by
  rw [Watch.turn, Lifecycle.tick_counted_of_not_well _ _ _ _ _ _ h]
  rfl

/-- A tick does what a check does, or a check and a start. -/
theorem exists_operations (v : Supervision) (w : σ) (turns : List (Turn σ)) :
    ∃ operations, (watched m v w turns).daemon = after m v w operations := by
  refine watched_induction (P := fun x => ∃ operations, x.daemon = after m v w operations) m
    ⟨[], rfl⟩ (fun x turn ⟨operations, h⟩ => ?_) turns
  have hmore : ∀ more, (after m v w operations |> more.foldl (perform m)) =
      after m v w (operations ++ more) := fun _ => List.foldl_append.symm
  cases turn with
  | operation o => exact ⟨operations ++ [o], by rw [← hmore, ← h]; rfl⟩
  | tick socket t =>
      cases hc : (x.daemon.check m.recorded).1 with
      | true =>
          refine ⟨operations ++ [.check], ?_⟩
          rw [turn_tick_of_well m x socket t hc, ← hmore, ← h]
          rfl
      | false =>
          refine ⟨operations ++ [.check, .start socket t], ?_⟩
          rw [turn_tick_of_not_well m x socket t hc, ← hmore, ← h]
          rfl

theorem failed_watched (v : Supervision) (w : σ) (turns : List (Turn σ)) :
    (watched m v w turns).failed = UInt64.ofNat (watched m v w turns).starts := by
  refine watched_induction (P := fun x => x.failed = UInt64.ofNat x.starts) m rfl (fun x turn h => ?_) turns
  cases turn with
  | operation o => exact h
  | tick socket t =>
      cases hc : (x.daemon.check m.recorded).1 with
      | true =>
          rw [turn_tick_of_well m x socket t hc]
          exact h
      | false =>
          rw [turn_tick_of_not_well m x socket t hc]
          simp [h]

theorem consistent_watched {v : Supervision} (hv : v.external = false) (w : σ) (turns : List (Turn σ)) :
    (watched m v w turns).daemon.supervision.external = false ∧
      Consistent (watched m v w turns).daemon := by
  obtain ⟨operations, h⟩ := exists_operations m v w turns
  rw [h]
  exact ⟨(external_after m v w operations).trans hv, .after hv w operations⟩

/-- After any turns as many checks have failed as starts were made for that. The next tick finds the daemon
well, and changes nothing, or it counts a failure and starts the daemon once, after a check that changes
something only if the daemon's file is gone. -/
theorem tick_watched {v : Supervision} (hv : v.external = false) (w : σ) (turns : List (Turn σ))
    (socket : ByteArray) (t : Settings) :
    let x := watched m v w turns
    let s := x.daemon
    let checked := (s.check m.recorded).2
    let outcome := (life m.recorded).counted.tick socket t x.failed (s, x.starts)
    x.failed = UInt64.ofNat x.starts ∧
    (outcome.1 = true ↔ IsWell m s) ∧
    (IsWell m s → outcome.2 = (x.failed, s, x.starts)) ∧
    (¬ IsWell m s →
      outcome.2 = (x.failed + 1, (checked.start m.recorded socket t).2, x.starts + 1)) ∧
    (¬ LacksFile m s → checked = s) ∧
    (LacksFile m s → ∃ pid, s.pid? = some pid ∧ checked.pid? = none ∧
      checked.machine.deeds = s.machine.deeds ++ [(.terminate pid, s.machine.now)]) := by
  intro x s checked outcome
  obtain ⟨hext, hcon⟩ : s.supervision.external = false ∧ Consistent s := consistent_watched m hv w turns
  have hiff := check_eq_true_iff (m := m) hext
  have hcount := failed_watched m v w turns
  cases hc : (s.check m.recorded).1 with
  | true =>
      have hwell : IsWell m s := hiff.mp hc
      have hsame : checked = s := check_of_not_lacksFile hwell.not_lacksFile
      have ho : outcome = (true, x.failed, checked, x.starts) :=
        Lifecycle.tick_counted_of_well _ _ _ _ _ _ hc
      rw [hsame] at ho
      refine ⟨hcount, ?_, ?_, fun h => (h hwell).elim, check_of_not_lacksFile, check_of_lacksFile hext hcon⟩
      · simp [ho, hwell]
      · intro _
        rw [ho]
  | false =>
      have hwell : ¬ IsWell m s := by
        rw [← hiff, hc]
        simp
      have ho : outcome = (false, x.failed + 1, (checked.start m.recorded socket t).2, x.starts + 1) :=
        Lifecycle.tick_counted_of_not_well _ _ _ _ _ _ hc
      refine ⟨hcount, ?_, fun h => (hwell h).elim, ?_, check_of_not_lacksFile, check_of_lacksFile hext hcon⟩
      · simp [ho, hwell]
      · intro _
        rw [ho]

/-- The first tick starts the daemon, and the second one finds it well. -/
theorem tick_watched_twice :
    let x := watched Bench.machine {} benchWithDaemon [.tick .empty benchSettings]
    let outcome :=
      (life Bench.machine.recorded).counted.tick .empty benchSettings x.failed (x.daemon, x.starts)
    ({} : Supervision).external = false ∧ x.failed = 1 ∧ x.starts = 1 ∧
      outcome.1 = true ∧ IsWell Bench.machine x.daemon ∧ outcome.2 = (x.failed, x.daemon, x.starts) := by
  intro x outcome
  obtain ⟨-, hwell, hsame, -⟩ :=
    tick_watched Bench.machine (v := {}) rfl benchWithDaemon [.tick .empty benchSettings] .empty benchSettings
  have ho : outcome.1 = true := by decide
  have hx : x.failed = 1 ∧ x.starts = 1 := by decide
  exact ⟨rfl, hx.1, hx.2, ho, hwell.mp ho, hsame (hwell.mp ho)⟩

end Supervisor

end MetricsAgent
