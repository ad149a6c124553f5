import MetricsAgent.Machine.Bench
import MetricsAgent.Proofs.Daemon.Attempts

/-!
# Runs of a supervisor

A run is a sequence of operations on a supervisor, between which others may change the machine in any way. What
a fresh supervisor satisfies and each operation keeps holds after every run (`after_induction`).
-/

namespace MetricsAgent.Supervisor

open Recorded

variable {σ : Type} {m : Machine σ} {s s' : Supervisor (Recorded σ)} {pidFile : String} {conf : DaemonConf}
  {state : DaemonState}

/-! ## What stays -/

/-- The daemon has the same configuration, and is looked after in the same way. -/
structure SameSetup (s s' : Supervisor (Recorded σ)) : Prop where
  supervision_eq : s'.supervision = s.supervision
  conf?_eq : s'.conf? = s.conf?

theorem Ended.sameSetup (h : Ended s s') : SameSetup s s' := by
  cases h <;> exact ⟨rfl, rfl⟩

theorem Missed.sameSetup (h : Missed m s pidFile s') : SameSetup s s' := by
  cases h with
  | unnamed => exact ⟨rfl, rfl⟩
  | gone _ h => exact h.sameSetup

theorem Cleared.sameSetup (h : Cleared m s pidFile s') : SameSetup s s' := by
  cases h with
  | named => exact ⟨rfl, rfl⟩
  | missed h => exact h.sameSetup

theorem Awaited.sameSetup (h : Awaited m pidFile s state s') : SameSetup s s' := by
  induction h with
  | found => exact ⟨rfl, rfl⟩
  | missed h => exact h.sameSetup
  | again h _ ih =>
      obtain ⟨hsupervision, hconf⟩ := h.sameSetup
      exact ⟨ih.1.trans hsupervision, ih.2.trans hconf⟩

theorem Readied.supervision_eq (h : Readied m s conf s') : s'.supervision = s.supervision := by
  cases h with
  | intro _ hc _ => exact hc.sameSetup.supervision_eq

theorem Attempt.supervision_eq (h : Attempt m s state s') : s'.supervision = s.supervision := by
  cases h with
  | unready => rfl
  | unlaunched h => exact h.supervision_eq
  | launched h hc =>
      cases hc with
      | failed => exact h.supervision_eq
      | awaited ha => exact ha.sameSetup.supervision_eq.trans h.supervision_eq

/-! ## Operations -/

variable (m s)

/-- A health check leaves everything as it is, unless it misses the daemon by a file that is gone. -/
theorem check_cases : (s.check m.recorded).2 = s ∨
    ∃ conf, s.conf? = some conf ∧ s.state = .started ∧ m.hasPath conf.pidFile s.machine.now = false ∧
      Ended s (s.check m.recorded).2 := by
  unfold check
  split
  · exact .inl rfl
  · split
    · rename_i conf _ hconf
      split
      · rename_i hstate
        rcases lookUp_cases m s conf.pidFile with ⟨_, hl, _⟩ | ⟨s', hl, h⟩
        · rw [hl]; exact .inl rfl
        · rw [hl]
          cases h with
          | unnamed => exact .inl rfl
          | gone hf h => exact .inr ⟨conf, hconf, hstate, hf, h⟩
      · exact .inl rfl
    · exact .inl rfl

theorem ended_check : Ended s (s.check m.recorded).2 ∨ (s.check m.recorded).2 = s := by
  rcases check_cases m s with h | ⟨_, _, _, _, h⟩
  · exact .inr h
  · exact .inl h

/-- Reloading writes files at most, and the state that it gives stays or becomes unclear. -/
theorem exists_reload (t : Settings) : ∃ state r, s.machine.Quietly r ∧
    (state = s.state ∨ state = .unknown) ∧
      s.reload m.recorded t = (state, { s with state, machine := r }) ∧
      (s.files? = none → state = s.state ∧ r = s.machine) := by
  unfold reload
  split
  · split
    · exact ⟨s.state, s.machine, .refl, .inl rfl, rfl, fun _ => ⟨rfl, rfl⟩⟩
    · rename_i files hfiles
      have h := quietly_writeUpload m files t s.machine
      split <;> rename_i r he <;> rw [he] at h
      · exact ⟨.unknown, r, h, .inr rfl, rfl, by simp [hfiles]⟩
      · exact ⟨s.state, r, h, .inl rfl, rfl, by simp [hfiles]⟩
  · exact ⟨s.state, s.machine, .refl, .inl rfl, rfl, fun _ => ⟨rfl, rfl⟩⟩

variable {s}

/-- What is done with a supervisor, and what happens meanwhile. -/
inductive Operation (σ : Type) where
  | start (socket : ByteArray) (t : Settings)
  | check
  | stop
  | reload (t : Settings)
  /-- Others change the machine, and how often the daemon is looked for after a launch. -/
  | change (w : σ) (looks : Nat)

def perform (s : Supervisor (Recorded σ)) : Operation σ → Supervisor (Recorded σ)
  | .start socket t => (s.start m.recorded socket t).2
  | .check => (s.check m.recorded).2
  | .stop => (s.stop m.recorded).2
  | .reload t => (s.reload m.recorded t).2
  | .change w looks =>
    { s with supervision.furtherLooks := looks, machine := s.machine.done .byOthers w }

def fresh (v : Supervision) (w : σ) : Supervisor (Recorded σ) where
  supervision := v
  machine := { now := w }

/-- The supervisor after a run. -/
def after (v : Supervision) (w : σ) (operations : List (Operation σ)) : Supervisor (Recorded σ) :=
  operations.foldl (perform m) (fresh v w)

theorem after_induction {P : Supervisor (Recorded σ) → Prop} {v : Supervision} {w : σ}
    (hfresh : P (fresh v w)) (hperform : ∀ s o, P s → P (perform m s o))
    (operations : List (Operation σ)) : P (after m v w operations) := by
  unfold after
  generalize fresh v w = s at hfresh
  induction operations generalizing s with
  | nil => exact hfresh
  | cons o operations ih => exact ih _ (hperform s o hfresh)

theorem external_perform (s : Supervisor (Recorded σ)) (o : Operation σ) :
    (perform m s o).supervision.external = s.supervision.external := by
  cases o with
  | start socket t =>
      by_cases h : s.supervision.external = true
      · rw [perform, start, if_pos h]
      · obtain ⟨s', ha, he⟩ := attempt_start m s (by simpa using h) socket t
        rw [perform, he, ← ha.supervision_eq]
  | check =>
      rcases ended_check m s with h | h
      · exact congrArg _ h.sameSetup.supervision_eq
      · rw [perform, h]
  | stop => exact congrArg _ (ended_endTracked m s).sameSetup.supervision_eq
  | reload t =>
      obtain ⟨state, r, -, -, h, -⟩ := exists_reload m s t
      rw [perform, h]
  | change w looks => rfl

theorem external_after (v : Supervision) (w : σ) (operations : List (Operation σ)) :
    (after m v w operations).supervision.external = v.external :=
  after_induction (P := fun s => s.supervision.external = v.external) m rfl
    (fun s o h => (external_perform m s o).trans h) operations

/-! ## A daemon on a bench -/

/-- A daemon is installed under `/r`, and notes its process in `/l`. -/
def benchSettings : Settings := { Settings.defaults with daemonRoot := some "/r", logDir := "/l" }

def benchWithDaemon : Bench :=
  Bench.install "/r" (some (.program 0o755 .daemonize)) (Bench.makeDirs "/tmp" {}).2

end MetricsAgent.Supervisor
