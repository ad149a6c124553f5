import MetricsAgent.Proofs.Daemon.Signals

/-!
# The states of a supervisor

In the state `started` a process is tracked and the daemon has a configuration; in the states `init` and
`stopped` no process is tracked (`Consistent`). A daemon that others look after is never touched
(`Untouched`). The numbers that are tracked and signalled are positive, so that a signal never goes to
several processes.
-/

namespace MetricsAgent.Supervisor

open Recorded

variable {σ : Type} {m : Machine σ} {s s' : Supervisor (Recorded σ)} {pidFile : String}
  {state : DaemonState}

structure Consistent (s : Supervisor (Recorded σ)) : Prop where
  started : s.state = .started → s.pid?.isSome = true ∧ s.conf?.isSome = true
  ended : s.state = .init ∨ s.state = .stopped → s.pid? = none

theorem Awaited.isSome_pid? (h : Awaited m pidFile s state s') :
    state = .started ∧ s'.pid?.isSome = true ∨ state = .broken := by
  induction h with
  | found => exact .inl ⟨rfl, rfl⟩
  | missed => exact .inr rfl
  | again _ _ ih => exact ih

namespace Consistent

theorem fresh (v : Supervision) (w : σ) : Consistent (fresh v w) :=
  ⟨by simp [Supervisor.fresh], fun _ => rfl⟩

theorem of_failed (hstate : s.state = .broken ∨ s.state = .unknown) : Consistent s := by
  constructor
  · intro h
    rcases hstate with hs | hs <;> simp [hs] at h
  · intro h
    rcases hstate with hs | hs <;> simp [hs] at h

theorem endTracked (h : Consistent s) (he : Ended s s') : Consistent s' := by
  cases he with
  | idle => exact h
  | signalled _ _ hstate w =>
      refine ⟨fun hs => ?_, fun _ => rfl⟩
      rcases hstate with rfl | rfl <;> cases hs

/-- Whatever the state was before, an attempt to start leads to a consistent one. -/
theorem attempt (ha : Attempt m s state s') : Consistent { s' with state } := by
  cases ha with
  | unready _ hstate => exact of_failed hstate
  | unlaunched _ hstate => exact of_failed hstate
  | launched _ hc =>
      cases hc with
      | failed => exact of_failed (.inr rfl)
      | awaited ha =>
          rcases ha.isSome_pid? with ⟨rfl, hp⟩ | rfl
          · exact ⟨fun _ => ⟨hp, by simp [ha.sameSetup.conf?_eq]⟩, by simp⟩
          · exact of_failed (.inl rfl)

theorem perform (h : Consistent s) (hext : s.supervision.external = false) (o : Operation σ) :
    Consistent (s.perform m o) := by
  cases o with
  | start socket t =>
      obtain ⟨s', ha, hs⟩ := attempt_start m s hext socket t
      rw [Supervisor.perform, hs]
      exact attempt ha
  | check =>
      rcases ended_check m s with he | he
      · exact h.endTracked he
      · rw [Supervisor.perform, he]
        exact h
  | stop => exact h.endTracked (ended_endTracked m s)
  | reload t =>
      obtain ⟨state, r, -, hstate, hr, -⟩ := exists_reload m s t
      rw [Supervisor.perform, hr]
      rcases hstate with rfl | rfl
      · exact ⟨h.started, h.ended⟩
      · exact of_failed (.inr rfl)
  | change w looks => exact ⟨h.started, h.ended⟩

theorem after {v : Supervision} (hext : v.external = false) (w : σ) (operations : List (Operation σ)) :
    Consistent (after m v w operations) := by
  have hboth : (Supervisor.after m v w operations).supervision.external = v.external ∧
      Consistent (Supervisor.after m v w operations) := by
    refine after_induction (P := fun s => s.supervision.external = v.external ∧ Consistent s) m
      ⟨rfl, fresh v w⟩ (fun s o h => ?_) operations
    exact ⟨(external_perform m s o).trans h.1, h.2.perform (h.1.trans hext) o⟩
  exact hboth.2

end Consistent

/-! ## Daemons that others look after -/

/-- Nothing was made, launched or signalled. -/
structure Untouched (s : Supervisor (Recorded σ)) : Prop where
  external : s.supervision.external = true
  state : s.state = .init ∨ s.state = .started
  pid? : s.pid? = none
  files? : s.files? = none
  deeds : ∀ x ∈ s.machine.deeds, x.1 = .byOthers

namespace Untouched

theorem perform (h : Untouched s) (o : Operation σ) : Untouched (s.perform m o) := by
  cases o with
  | start socket t =>
      rw [Supervisor.perform, start, if_pos h.external]
      exact ⟨h.external, .inr rfl, rfl, h.files?, h.deeds⟩
  | check =>
      rw [Supervisor.perform, check, if_pos h.external]
      exact h
  | stop =>
      rw [Supervisor.perform, stop, endTracked, h.pid?]
      exact h
  | reload t =>
      obtain ⟨state, r, -, -, hr, hfiles⟩ := exists_reload m s t
      obtain ⟨rfl, rfl⟩ := hfiles h.files?
      rw [Supervisor.perform, hr]
      exact h
  | change w looks =>
      refine ⟨h.external, h.state, h.pid?, h.files?, fun x hx => ?_⟩
      rcases List.mem_append.mp hx with hx | hx
      · exact h.deeds x hx
      · cases List.mem_singleton.mp hx
        rfl

theorem after {v : Supervision} (hext : v.external = true) (w : σ) (operations : List (Operation σ)) :
    Untouched (after m v w operations) :=
  after_induction m ⟨hext, .inl rfl, rfl, rfl, by simp [Supervisor.fresh]⟩ (fun _ o h => h.perform o)
    operations

end Untouched

/-! ## Every state -/

theorem pid?_after_eq_none (v : Supervision) (w : σ) (operations : List (Operation σ))
    (h : (after m v w operations).state = .init ∨ (after m v w operations).state = .stopped) :
    (after m v w operations).pid? = none := by
  cases hext : v.external with
  | true => exact (Untouched.after hext w operations).pid?
  | false => exact (Consistent.after hext w operations).ended h

theorem pos_of_signalled {v : Supervision} {w w' : σ} {operations : List (Operation σ)} {pid : Int}
    (h : (.terminate pid, w') ∈ (after m v w operations).machine.deeds) : 0 < pid := by
  obtain ⟨earlier, later, he⟩ := List.append_of_mem h
  exact ((Sound.after m v w operations).signalled earlier pid w' later he).pos

variable (m s)

theorem fst_start (socket : ByteArray) (t : Settings) :
    (s.start m.recorded socket t).1 = (s.start m.recorded socket t).2.state := by
  unfold start
  split <;> rfl

theorem fst_reload (t : Settings) :
    (s.reload m.recorded t).1 = (s.reload m.recorded t).2.state := by
  obtain ⟨state, r, -, -, h, -⟩ := exists_reload m s t
  rw [h]

/-- After any run the numbers that are tracked or were signalled are positive, the state tells whether a
process is tracked, a daemon of others is untouched, and operations give the state that they leave. -/
theorem states_after (v : Supervision) (w : σ) (operations : List (Operation σ)) :
    let s := after m v w operations
    (∀ pid, s.pid? = some pid → 0 < pid) ∧
    (∀ pid w', (.terminate pid, w') ∈ s.machine.deeds → 0 < pid) ∧
    (v.external = false → s.state = .started → s.pid?.isSome = true ∧ s.conf?.isSome = true) ∧
    (s.state = .init ∨ s.state = .stopped → s.pid? = none) ∧
    (v.external = true → (s.state = .init ∨ s.state = .started) ∧ s.pid? = none ∧ s.files? = none ∧
      ∀ x ∈ s.machine.deeds, x.1 = .byOthers) ∧
    (∀ socket t, (s.start m.recorded socket t).1 = (s.start m.recorded socket t).2.state) ∧
    (s.stop m.recorded).1 = (s.stop m.recorded).2.state ∧
    (∀ t, (s.reload m.recorded t).1 = (s.reload m.recorded t).2.state) := by
  intro s
  refine ⟨fun pid hp => ?_, fun pid w' => pos_of_signalled, fun hext => ?_, pid?_after_eq_none v w operations,
    fun hext => ?_, fst_start m s, rfl, fst_reload m s⟩
  · exact ((Sound.after m v w operations).tracked pid hp).pos
  · exact (Consistent.after hext w operations).started
  · have h : Untouched s := .after hext w operations
    exact ⟨h.state, h.pid?, h.files?, h.deeds⟩

end MetricsAgent.Supervisor
