import MetricsAgent.Proofs.Daemon.Runs

/-!
# Who is signalled

A process is tracked only after it was found by the daemon's file, alive and with the daemon's command line
(`Confirmed`). Each operation keeps that, and signals only what is tracked or was just found (`Sound`). A
tracked process is not looked at again before it is signalled: it may have ended meanwhile, and its number
may have gone to another process.
-/

namespace MetricsAgent.Supervisor

open Recorded

variable {σ : Type} {m : Machine σ} {s s' : Supervisor (Recorded σ)} {r r' : Recorded σ}
  {pid? : Option Int} {pidFile : String} {conf : DaemonConf} {state : DaemonState}

/-- In one of the states some file names the process, which is the daemon. -/
def Confirmed (m : Machine σ) (moments : List σ) (pid : Int) : Prop :=
  ∃ w ∈ moments, ∃ path, PidFile.daemon? m path w = some pid

theorem Confirmed.append {moments : List σ} {pid : Int} (h : Confirmed m moments pid) (later : List σ) :
    Confirmed m (moments ++ later) pid := by
  obtain ⟨w, hw, hd⟩ := h
  exact ⟨w, List.mem_append_left _ hw, hd⟩

theorem Confirmed.pos {moments : List σ} {pid : Int} (h : Confirmed m moments pid) : 0 < pid := by
  obtain ⟨_, _, _, hd⟩ := h
  exact PidFile.pos_of_daemon? hd

/-- The tracked process was confirmed, and so was each process at the latest when it was signalled. -/
structure Sound (m : Machine σ) (pid? : Option Int) (r : Recorded σ) : Prop where
  tracked : ∀ pid, pid? = some pid → Confirmed m r.moments pid
  signalled : ∀ earlier pid w later, r.deeds = earlier ++ (.terminate pid, w) :: later →
    Confirmed m (earlier.map Prod.snd ++ [w]) pid

namespace Sound

theorem fresh (w : σ) : Sound m none ⟨w, []⟩ := ⟨by simp, by simp⟩

theorem untrack (h : Sound m pid? r) : Sound m none r := ⟨by simp, h.signalled⟩

theorem track (h : Sound m pid? r) {pid : Int} (hd : PidFile.daemon? m pidFile r.now = some pid) :
    Sound m (some pid) r where
  tracked := by
    intro _ hp
    cases hp
    exact ⟨r.now, r.now_mem_moments, pidFile, hd⟩
  signalled := h.signalled

/-! ## One deed -/

theorem done (h : Sound m pid? r) {d : Deed} (hd : ∀ pid, d = .terminate pid → Confirmed m r.moments pid)
    (w : σ) : Sound m pid? (r.done d w) where
  tracked := by
    intro pid hp
    rw [moments_done]
    exact (h.tracked pid hp).append _
  signalled := by
    intro earlier pid w' later he
    rw [deeds_done] at he
    -- The signal is the latest deed, or it was there before.
    rcases List.eq_nil_or_concat later with rfl | ⟨rest, x, rfl⟩
    · obtain ⟨rfl, hx⟩ := List.append_inj' he rfl
      cases hx
      exact hd pid rfl
    · rw [List.concat_eq_append, ← List.cons_append, ← List.append_assoc] at he
      exact h.signalled _ _ _ _ (List.append_inj' he rfl).1

theorem follow (h : Sound m pid? r) (hq : r.Quietly r') : Sound m pid? r' := by
  induction hq with
  | refl => exact h
  | done _ hd w ih => exact ih.done (by rintro pid rfl; exact hd.elim) w

theorem terminate {pid : Int} (h : Sound m (some pid) r) (w : σ) :
    Sound m none (r.done (.terminate pid) w) :=
  (h.done (by intro _ hp; cases hp; exact h.tracked pid rfl) w).untrack

/-! ## The parts of an attempt -/

theorem ended (h : Sound m s.pid? s.machine) (he : Ended s s') : Sound m s'.pid? s'.machine := by
  cases he with
  | idle => exact h
  | signalled hp _ _ w =>
      rw [hp] at h
      exact h.terminate w

theorem missed (h : Sound m s.pid? s.machine) (hm : Missed m s pidFile s') :
    Sound m s'.pid? s'.machine := by
  cases hm with
  | unnamed => exact h
  | gone _ he => exact h.ended he

theorem cleared (h : Sound m s.pid? s.machine) (hc : Cleared m s pidFile s') :
    Sound m s'.pid? s'.machine := by
  cases hc with
  | named _ hd _ w => exact (h.track hd).terminate w
  | missed hm => exact h.missed hm

theorem awaited (h : Sound m s.pid? s.machine) (ha : Awaited m pidFile s state s') :
    Sound m s'.pid? s'.machine := by
  induction ha with
  | found hd => exact h.track hd
  | missed hm => exact h.missed hm
  | again hm _ ih => exact ih ((h.missed hm).done (by simp) _)

theorem readied (h : Sound m s.pid? s.machine) (hr : Readied m s conf s') :
    Sound m s'.pid? s'.machine := by
  cases hr with
  | intro hq hc hq' =>
      have hfiles := h.follow hq
      exact (Sound.cleared hfiles hc).follow hq'

theorem attempt (h : Sound m s.pid? s.machine) (ha : Attempt m s state s') :
    Sound m s'.pid? s'.machine := by
  cases ha with
  | unready hq =>
      have hfiles := h.follow hq
      exact hfiles
  | unlaunched hr =>
      have hready := h.readied hr
      exact hready
  | @launched conf _ _ hr program w hc =>
      have hlaunch := (h.readied hr).done (d := .launch (launchOf program conf)) (by simp) w
      cases hc with
      | failed => exact hlaunch
      | awaited ha => exact Sound.awaited hlaunch ha

/-! ## Runs -/

theorem perform (h : Sound m s.pid? s.machine) (o : Operation σ) :
    Sound m (s.perform m o).pid? (s.perform m o).machine := by
  cases o with
  | start socket t =>
      by_cases he : s.supervision.external = true
      · rw [Supervisor.perform, start, if_pos he]
        exact h.untrack
      · obtain ⟨s', ha, hs⟩ := attempt_start m s (by simpa using he) socket t
        have hattempt := h.attempt ha
        rw [Supervisor.perform, hs]
        exact hattempt
  | check =>
      rcases ended_check m s with he | he
      · exact h.ended he
      · rw [Supervisor.perform, he]
        exact h
  | stop => exact h.ended (ended_endTracked m s)
  | reload t =>
      obtain ⟨state, r, hq, -, hr, -⟩ := exists_reload m s t
      have hfiles := h.follow hq
      rw [Supervisor.perform, hr]
      exact hfiles
  | change w looks => exact h.done (by simp) w

theorem after (m : Machine σ) (v : Supervision) (w : σ) (operations : List (Operation σ)) :
    Sound m (after m v w operations).pid? (after m v w operations).machine :=
  after_induction (P := fun s => Sound m s.pid? s.machine) m (.fresh w) (fun _ o h => h.perform o) operations

end Sound

/-- After any run, each process that was signalled had been found as the daemon by its file, when it was
signalled or before. So the signal goes to the daemon exactly if the process has not ceased to be the daemon
since. -/
theorem signalled_after_confirmed (m : Machine σ) (v : Supervision) (w : σ)
    (operations : List (Operation σ)) :
    ∀ earlier pid w' later,
      (after m v w operations).machine.deeds = earlier ++ (.terminate pid, w') :: later →
      (∃ w₀ ∈ earlier.map Prod.snd ++ [w'], ∃ path, PidFile.daemon? m path w₀ = some pid) ∧
      (PidFile.isDaemon m pid w' = true ↔
        ∀ w₀ ∈ earlier.map Prod.snd, PidFile.isDaemon m pid w₀ = true → PidFile.isDaemon m pid w' = true) := by
  intro earlier pid w' later he
  obtain ⟨w₀, hw, path, hd⟩ := (Sound.after m v w operations).signalled earlier pid w' later he
  refine ⟨⟨w₀, hw, path, hd⟩, fun h _ _ _ => h, fun hs => ?_⟩
  have hdaemon := PidFile.isDaemon_of_daemon? hd
  rcases List.mem_append.mp hw with hw | hw
  · exact hs w₀ hw hdaemon
  · cases List.mem_singleton.mp hw
    exact hdaemon

/-- The daemon is started and stopped. -/
theorem signalled_after_confirmed_stop :
    ∃ earlier w later, (after Bench.machine {} benchWithDaemon
        [.start .empty benchSettings, .stop]).machine.deeds = earlier ++ (.terminate 1000, w) :: later ∧
      ∃ w₀ ∈ earlier.map Prod.snd ++ [w], ∃ path, PidFile.daemon? Bench.machine path w₀ = some 1000 := by
  have hs : ((after Bench.machine {} benchWithDaemon
      [.start .empty benchSettings, .stop]).machine.deeds.any (·.1 = .terminate 1000)) = true := by
    decide
  obtain ⟨⟨d, w⟩, hx, hd⟩ := List.any_eq_true.mp hs
  cases of_decide_eq_true hd
  obtain ⟨earlier, later, he⟩ := List.append_of_mem hx
  exact ⟨earlier, w, later, he,
    (signalled_after_confirmed Bench.machine {} benchWithDaemon _ earlier 1000 w later he).1⟩

/-- The daemon ends by itself, its number goes to another process, and that one is signalled by `stop`. -/
theorem signalled_other_process :
    ¬ ∀ operations : List (Operation Bench),
      ∀ x ∈ (after Bench.machine {} benchWithDaemon operations).machine.deeds, ∀ pid,
        x.1 = .terminate pid → PidFile.isDaemon Bench.machine pid x.2 = true := by
  intro h
  let reused : Bench := { processes := [(1000, ["postgres"])] }
  let operations : List (Operation Bench) := [.start .empty benchSettings, .change reused 0, .stop]
  have hs : ((after Bench.machine {} benchWithDaemon operations).machine.deeds.any fun x =>
      x.1 = .terminate 1000 && !PidFile.isDaemon Bench.machine 1000 x.2) = true := by decide
  obtain ⟨x, hx, hp⟩ := List.any_eq_true.mp hs
  simp only [Bool.and_eq_true, decide_eq_true_eq, Bool.not_eq_true'] at hp
  rw [h operations x hx 1000 hp.1] at hp
  cases hp.2

end MetricsAgent.Supervisor
