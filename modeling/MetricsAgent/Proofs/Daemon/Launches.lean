import MetricsAgent.Proofs.Daemon.States

/-!
# What runs when a daemon is launched

An operation launches at most one daemon. Before that it looks once at the daemon's file: the daemon that the
file names is signalled, and the tracked process is signalled if the file is gone (`Clears`). A file that is
there and names no daemon, or another one than the tracked one, leaves the tracked process running beside the
new daemon.
-/

namespace MetricsAgent

def Deed.isLaunch : Deed → Bool
  | .launch _ => true
  | _ => false

theorem Deed.IsQuiet.isLaunch_eq_false {d : Deed} (h : d.IsQuiet) : d.isLaunch = false := by
  cases d with
  | launch => exact h.elim
  | _ => rfl

theorem Deed.IsQuiet.ne_terminate {d : Deed} (h : d.IsQuiet) (pid : Int) : d ≠ .terminate pid := by
  rintro rfl
  exact h

namespace Supervisor

open Recorded

variable {σ : Type} {m : Machine σ} {s s' : Supervisor (Recorded σ)} {pidFile : String} {conf : DaemonConf}
  {state : DaemonState}

/-- Nothing was launched on the way from one record to the other. -/
abbrev Unlaunched : Recorded σ → Recorded σ → Prop := Follows fun d _ => d.isLaunch = false

theorem Cleared.unlaunched (h : Cleared m s pidFile s') : Unlaunched s.machine s'.machine :=
  h.follows fun _ _ => rfl

theorem Concluded.unlaunched (h : Concluded m s conf state s') : Unlaunched s.machine s'.machine :=
  h.follows (fun _ _ => rfl) fun _ => rfl

theorem unlaunched_of_quietly {r r' : Recorded σ} (h : r.Quietly r') : Unlaunched r r' :=
  h.mono fun _ _ hd => hd.isLaunch_eq_false

/-! ## Before a launch -/

/-- The deeds signal the daemon that the file names at a moment, and the tracked process only if the file
names it or is gone. -/
structure Clears (m : Machine σ) (pidFile : String) (pid? : Option Int) (w : σ) (deeds : List (Deed × σ)) :
    Prop where
  named : m.hasPath pidFile w = true → ∀ pid, PidFile.daemon? m pidFile w = some pid →
    (.terminate pid, w) ∈ deeds
  tracked : ∀ pid, pid? = some pid → ((∃ w', (.terminate pid, w') ∈ deeds) ↔
    m.hasPath pidFile w = false ∨ PidFile.daemon? m pidFile w = some pid)

/-- Quiet deeds before and after make no difference. -/
theorem Clears.surround {pid? : Option Int} {w : σ} {deeds earlier later : List (Deed × σ)}
    (h : Clears m pidFile pid? w deeds) (he : ∀ x ∈ earlier, x.1.IsQuiet)
    (hl : ∀ x ∈ later, x.1.IsQuiet) :
    Clears m pidFile pid? w (earlier ++ deeds ++ later) := by
  have hmem : ∀ pid w',
      (.terminate pid, w') ∈ earlier ++ deeds ++ later ↔ (.terminate pid, w') ∈ deeds := by
    intro pid w'
    have hearlier : (.terminate pid, w') ∉ earlier := fun hx => (he _ hx).ne_terminate pid rfl
    have hlater : (.terminate pid, w') ∉ later := fun hx => (hl _ hx).ne_terminate pid rfl
    simp [hearlier, hlater]
  constructor
  · intro hf pid hd
    exact (hmem pid w).mpr (h.named hf pid hd)
  · intro pid hp
    rw [← h.tracked pid hp]
    exact exists_congr (hmem pid)

theorem Missed.exists_clears (h : Missed m s pidFile s') (hs : s.state = .stopped → s.pid? = none) :
    ∃ deeds, s'.machine.deeds = s.machine.deeds ++ deeds ∧
      Clears m pidFile s.pid? s.machine.now deeds := by
  cases h with
  | unnamed hf hd =>
      refine ⟨[], by simp, ?_, ?_⟩
      · simp [hd]
      · simp [hf, hd]
  | gone hf h =>
      cases h with
      | idle h =>
          have hp : s.pid? = none := h.elim id hs
          refine ⟨[], by simp, ?_, ?_⟩
          · simp [hf]
          · simp [hp]
      | @signalled pid _ hp _ _ w =>
          refine ⟨[(.terminate pid, s.machine.now)], rfl, ?_, ?_⟩
          · simp [hf]
          · simp [hf, hp]

theorem Cleared.exists_clears (h : Cleared m s pidFile s') (hs : s.state = .stopped → s.pid? = none) :
    ∃ deeds, s'.machine.deeds = s.machine.deeds ++ deeds ∧
      Clears m pidFile s.pid? s.machine.now deeds := by
  cases h with
  | @named pid _ hf hd _ w =>
      refine ⟨[(.terminate pid, s.machine.now)], rfl, ?_, ?_⟩
      · intro _ pid' hd'
        cases hd.symm.trans hd'
        exact List.mem_singleton_self _
      · intro pid' _
        simp [hf, hd, eq_comm]
  | missed h => exact h.exists_clears hs

theorem Readied.exists_clears (h : Readied m s conf s') (hs : s.state = .stopped → s.pid? = none) :
    ∃ before, s'.machine.deeds = s.machine.deeds ++ before ∧ (∀ x ∈ before, x.1.isLaunch = false) ∧
      ∃ w ∈ before.map Prod.snd ++ [s'.machine.now], Clears m conf.pidFile s.pid? w before := by
  cases h with
  | @intro files? r r' s' hq hc hq' =>
      obtain ⟨earlier, he, hearlier, -⟩ := hq.exists_deeds
      obtain ⟨deeds, hd, hclears⟩ := hc.exists_clears hs
      obtain ⟨later, hl, hlater, -⟩ := hq'.exists_deeds
      -- The file is looked at in the state that `r` is in, which is recorded with the next deed.
      obtain ⟨rest, hr, hrest, hnow⟩ := (hc.unlaunched.trans (unlaunched_of_quietly hq')).exists_deeds
      have hparts : rest = deeds ++ later := by
        apply List.append_cancel_left
        exact hr.symm.trans (by rw [hl, hd, List.append_assoc])
      refine ⟨earlier ++ rest, ?_, ?_, r.now, ?_, ?_⟩
      · rw [hr, he, List.append_assoc]
      · intro x hx
        rcases List.mem_append.mp hx with hx | hx
        · exact (hearlier x hx).isLaunch_eq_false
        · exact hrest x hx
      · rw [List.map_append, List.append_assoc]
        exact List.mem_append_right _ hnow
      · rw [hparts, ← List.append_assoc]
        exact hclears.surround hearlier hlater

/-! ## Launches -/

/-- Among the deeds there is no launch, or one, and the deeds before it clear the way. -/
inductive LaunchesOnce (m : Machine σ) (pid? : Option Int) : List (Deed × σ) → Prop
  | never {deeds : List (Deed × σ)} (h : ∀ x ∈ deeds, x.1.isLaunch = false) : LaunchesOnce m pid? deeds
  | once (program : String) (conf : DaemonConf) {before later : List (Deed × σ)} {w w' : σ}
      (hbefore : ∀ x ∈ before, x.1.isLaunch = false) (hlater : ∀ x ∈ later, x.1.isLaunch = false)
      (hw : w ∈ before.map Prod.snd ++ [w']) (hc : Clears m conf.pidFile pid? w before) :
      LaunchesOnce m pid? (before ++ (.launch (launchOf program conf), w') :: later)

theorem Attempt.exists_launch (h : Attempt m s state s') (hs : s.state = .stopped → s.pid? = none) :
    ∃ new, s'.machine.deeds = s.machine.deeds ++ new ∧ LaunchesOnce m s.pid? new := by
  cases h with
  | unready hq =>
      obtain ⟨new, hn, hnew, -⟩ := (unlaunched_of_quietly hq).exists_deeds
      exact ⟨new, hn, .never hnew⟩
  | unlaunched hr =>
      obtain ⟨before, hb, hbefore, -⟩ := hr.exists_clears hs
      exact ⟨before, hb, .never hbefore⟩
  | @launched conf s' _ hr program _ hc =>
      obtain ⟨before, hb, hbefore, w, hw, hclears⟩ := hr.exists_clears hs
      obtain ⟨later, hl, hlater, -⟩ := hc.unlaunched.exists_deeds
      refine ⟨_, ?_, .once program conf hbefore hlater hw hclears⟩
      rw [hl, deeds_done, hb, List.append_assoc, List.append_assoc, List.singleton_append]

theorem exists_launch_start (hext : s.supervision.external = false)
    (hs : s.state = .stopped → s.pid? = none) (socket : ByteArray) (t : Settings) :
    ∃ new, (s.start m.recorded socket t).2.machine.deeds = s.machine.deeds ++ new ∧
      LaunchesOnce m s.pid? new := by
  obtain ⟨s', ha, he⟩ := attempt_start m s hext socket t
  rw [he]
  exact ha.exists_launch hs

/-- After any run `start` launches at most one daemon, and looks at the file of its configuration before: a
daemon that the file names is signalled, and the tracked process is signalled exactly if the file names
it or is gone. -/
theorem start_clears (m : Machine σ) (v : Supervision) (w : σ) (operations : List (Operation σ))
    (socket : ByteArray) (t : Settings) :
    let s := after m v w operations
    ∃ new, (s.start m.recorded socket t).2.machine.deeds = s.machine.deeds ++ new ∧
      LaunchesOnce m s.pid? new := by
  intro s
  by_cases hext : s.supervision.external = true
  · refine ⟨[], ?_, .never (by simp)⟩
    rw [start, if_pos hext, List.append_nil]
  · exact exists_launch_start (by simpa using hext)
      (fun hs => pid?_after_eq_none v w operations (.inr hs)) socket t

/-- A daemon is started, and its file is overwritten. -/
def overwriting : List (Operation Bench) :=
  let started := after Bench.machine {} benchWithDaemon [.start .empty benchSettings]
  [.start .empty benchSettings, .change (started.machine.now.provide "/l/ds-collectd.pid" "stale\n") 0]

/-- After the daemon's file was overwritten, `start` launches a second daemon, and the first one runs on. -/
theorem launched_beside_tracked :
    ¬ ∀ (operations : List (Operation Bench)) (socket : ByteArray) (t : Settings),
      let s := after Bench.machine {} benchWithDaemon operations
      ∀ before program conf w later,
        (s.start Bench.machine.recorded socket t).2.machine.deeds =
          s.machine.deeds ++ (before ++ (.launch (launchOf program conf), w) :: later) →
        ∀ pid, s.pid? = some pid ∨ PidFile.daemon? Bench.machine conf.pidFile s.machine.now = some pid →
          (∃ w', (.terminate pid, w') ∈ before) ∨ PidFile.isDaemon Bench.machine pid w = false := by
  intro h
  have hclaim := h overwriting .empty benchSettings
  have hext := external_after Bench.machine {} benchWithDaemon overwriting
  have hstopped := pid?_after_eq_none (m := Bench.machine) {} benchWithDaemon overwriting
  have hrun : let s := after Bench.machine {} benchWithDaemon overwriting
      let s' := (s.start Bench.machine.recorded .empty benchSettings).2
      let new := s'.machine.deeds.drop s.machine.deeds.length
      (s.pid? == some 1000 && new.any (·.1.isLaunch) && new.all fun x => x.1 != .terminate 1000 &&
        (!x.1.isLaunch || PidFile.isDaemon Bench.machine 1000 x.2)) = true := by
    decide
  generalize after Bench.machine {} benchWithDaemon overwriting = s at hclaim hext hstopped hrun
  obtain ⟨new, hn, hnew⟩ := exists_launch_start hext (fun hs => hstopped (.inr hs)) .empty benchSettings
  dsimp only at hrun
  rw [hn, List.drop_left] at hrun
  simp only [Bool.and_eq_true, beq_iff_eq, List.any_eq_true, List.all_eq_true, bne_iff_ne] at hrun
  obtain ⟨⟨htracked, x, hx, hlaunch⟩, hall⟩ := hrun
  cases hnew with
  | never hnone =>
      rw [hnone x hx] at hlaunch
      cases hlaunch
  | @once program conf before later _ w =>
      rcases hclaim before program conf w later hn 1000 (.inl htracked) with ⟨w', hw'⟩ | hdead
      · exact (hall _ (List.mem_append_left _ hw')).1 rfl
      · have hlive := (hall (.launch (launchOf program conf), w) (by simp)).2
        simp [Deed.isLaunch, hdead] at hlive

end Supervisor

end MetricsAgent
