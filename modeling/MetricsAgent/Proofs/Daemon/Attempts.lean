import MetricsAgent.Daemon.Supervisor
import MetricsAgent.Proofs.Machine.Recording

/-!
# What an attempt to start does

A supervisor acts on a recorded machine. An attempt to start makes files, ends a daemon that is there already,
launches at most one daemon and waits for it, in this order (`Attempt`). Its other operations look at the
daemon's file and signal the tracked process, or write the upload configuration.
-/

namespace MetricsAgent.Supervisor

open Recorded

variable {σ : Type} (m : Machine σ) (s : Supervisor (Recorded σ))

/-! ## The tracked process -/

/-- Nothing is done, or the tracked process is signalled and tracked no more. -/
inductive Ended : Supervisor (Recorded σ) → Prop
  | idle (h : s.pid? = none ∨ s.state = .stopped) : Ended s
  | signalled {pid : Int} {state : DaemonState} (hp : s.pid? = some pid) (hs : s.state ≠ .stopped)
      (hstate : state = .stopped ∨ state = .unknown) (w : σ) :
      Ended { s with state, pid? := none, machine := s.machine.done (.terminate pid) w }

theorem ended_endTracked : Ended s (s.endTracked m.recorded) := by
  unfold endTracked
  split
  · rename_i hp
    exact .idle (.inl hp)
  · rename_i pid hp
    split
    · rename_i hs
      exact .idle (.inr hs)
    · rename_i hs
      split <;> rename_i w he <;> obtain ⟨-, rfl⟩ := Prod.mk.inj he
      · exact .signalled hp hs (.inl rfl) _
      · exact .signalled hp hs (.inr rfl) _

/-- No daemon was found by its file, and the tracked process was ended if the file is gone. -/
inductive Missed (pidFile : String) : Supervisor (Recorded σ) → Prop
  | unnamed (hf : m.hasPath pidFile s.machine.now = true)
      (hd : PidFile.daemon? m pidFile s.machine.now = none) : Missed pidFile s
  | gone {s' : Supervisor (Recorded σ)} (hf : m.hasPath pidFile s.machine.now = false) (h : Ended s s') :
      Missed pidFile s'

theorem lookUp_cases (pidFile : String) :
    (∃ pid, s.lookUp m.recorded pidFile = (some pid, s) ∧ m.hasPath pidFile s.machine.now = true ∧
      PidFile.daemon? m pidFile s.machine.now = some pid) ∨
    ∃ s', s.lookUp m.recorded pidFile = (none, s') ∧ Missed m s pidFile s' := by
  cases hf : m.hasPath pidFile s.machine.now with
  | false =>
      exact .inr ⟨_, if_neg (by simp [Machine.recorded, hf]), .gone hf (ended_endTracked m s)⟩
  | true =>
      have hl : s.lookUp m.recorded pidFile = (PidFile.daemon? m pidFile s.machine.now, s) := if_pos hf
      cases hd : PidFile.daemon? m pidFile s.machine.now with
      | none => exact .inr ⟨s, by rw [hl, hd], .unnamed hf hd⟩
      | some pid => exact .inl ⟨pid, by rw [hl, hd], rfl, rfl⟩

/-- The daemon that the file names was signalled, or there was none. -/
inductive Cleared (pidFile : String) : Supervisor (Recorded σ) → Prop
  | named {pid : Int} {state : DaemonState} (hf : m.hasPath pidFile s.machine.now = true)
      (hd : PidFile.daemon? m pidFile s.machine.now = some pid)
      (hstate : state = .stopped ∨ state = .unknown) (w : σ) :
      Cleared pidFile { s with state, pid? := none, machine := s.machine.done (.terminate pid) w }
  | missed {s' : Supervisor (Recorded σ)} (h : Missed m s pidFile s') : Cleared pidFile s'

theorem cleared_endPrevious (pidFile : String) :
    Cleared m s pidFile (s.endPrevious m.recorded pidFile) := by
  unfold endPrevious
  rcases lookUp_cases m s pidFile with ⟨pid, hl, hf, hd⟩ | ⟨s', hl, h⟩
  · rw [hl]
    have he := ended_endTracked m { s with pid? := some pid, state := .started }
    dsimp only
    generalize endTracked m.recorded { s with pid? := some pid, state := .started } = s' at he
    cases he with
    | idle h => simp at h
    | signalled hp _ hstate w =>
        cases hp
        exact .named hf hd hstate w
  · rw [hl]
    exact .missed h

/-- The daemon was found by its file, or it was missed as often as it was looked for. -/
inductive Awaited (pidFile : String) :
    Supervisor (Recorded σ) → DaemonState → Supervisor (Recorded σ) → Prop
  | found {s : Supervisor (Recorded σ)} {pid : Int}
      (hd : PidFile.daemon? m pidFile s.machine.now = some pid) :
      Awaited pidFile s .started { s with pid? := some pid }
  | missed {s s' : Supervisor (Recorded σ)} (h : Missed m s pidFile s') : Awaited pidFile s .broken s'
  | again {s s' s'' : Supervisor (Recorded σ)} {w : σ} {state : DaemonState} (h : Missed m s pidFile s')
      (ha : Awaited pidFile { s' with machine := s'.machine.done .pause w } state s'') :
      Awaited pidFile s state s''

theorem awaited_await (pidFile : String) (looks : Nat) :
    Awaited m pidFile s (await m.recorded pidFile looks s).1 (await m.recorded pidFile looks s).2 := by
  induction looks generalizing s with
  | zero =>
      rw [await]
      rcases lookUp_cases m s pidFile with ⟨pid, hl, -, hd⟩ | ⟨s', hl, h⟩ <;> rw [hl]
      · exact .found hd
      · exact .missed h
  | succ looks ih =>
      rw [await]
      rcases lookUp_cases m s pidFile with ⟨pid, hl, -, hd⟩ | ⟨s', hl, h⟩ <;> rw [hl]
      · exact .found hd
      · exact .again h (ih _)

/-! ## Configuration files -/

section Files

variable {allowed : Deed → σ → Prop}

theorem follows_makeFiles (hmake : ∀ start w, allowed (.makeConfFile start) w)
    (hdelete : ∀ path w, allowed (.delete path) w) (r : Recorded σ) :
    Follows allowed r (makeFiles m.recorded r).2 := by
  have hdaemon : Follows allowed r (m.recorded.makeConfFile "ds-collectd-" r).2 := .done .refl (hmake ..) _
  unfold makeFiles
  split
  · rename_i he
    rw [he] at hdaemon
    exact hdaemon
  · rename_i r' he
    rw [he] at hdaemon
    have hupload : Follows allowed r (m.recorded.makeConfFile "ds-collectd-insights-" r').2 :=
      hdaemon.done (hmake ..) _
    split <;> rename_i he' <;> rw [he'] at hupload
    · exact hupload.done (hdelete ..) _
    · exact hupload

theorem exists_openFiles (hmake : ∀ start w, allowed (.makeConfFile start) w)
    (hdelete : ∀ path w, allowed (.delete path) w) : ∃ files? r, Follows allowed s.machine r ∧
    (s.openFiles m.recorded).2 = { s with files?, machine := r } := by
  have h := follows_makeFiles m hmake hdelete s.machine
  unfold openFiles
  split
  · exact ⟨_, _, .refl, rfl⟩
  · split <;> rename_i he <;> rw [he] at h <;> exact ⟨_, _, h, rfl⟩

end Files

theorem quietly_writeFile (path text : String) (r : Recorded σ) :
    r.Quietly (writeFile m.recorded path text r).2 := by
  have h : r.Quietly (m.recorded.write path text r).2 := .done .refl trivial _
  unfold writeFile
  split <;> rename_i he <;> rw [he] at h <;> exact h

theorem quietly_writeUpload (files : ConfFiles) (t : Settings) (r : Recorded σ) :
    r.Quietly (writeUpload m.recorded files t r).2 := by
  have h : r.Quietly _ := follows_ofSettings m r (fun _ _ => trivial) t
  unfold writeUpload
  split <;> rename_i he <;> rw [he] at h
  · exact h
  · exact h.trans (quietly_writeFile m ..)

theorem quietly_writeFiles (files : ConfFiles) (conf : DaemonConf) (t : Settings) (r : Recorded σ) :
    r.Quietly (writeFiles m.recorded files conf t r).2 := by
  have h := quietly_writeFile m files.daemon conf.text r
  unfold writeFiles
  split <;> rename_i he <;> rw [he] at h
  · exact h
  · exact h.trans (quietly_writeUpload m ..)

/-! ## Attempts -/

/-- Files were made, and a daemon that was there already was ended. -/
inductive Readied (conf : DaemonConf) : Supervisor (Recorded σ) → Prop
  | intro {files? : Option ConfFiles} {r r' : Recorded σ} {s' : Supervisor (Recorded σ)}
      (hq : s.machine.Quietly r) (hc : Cleared m { s with files?, machine := r } conf.pidFile s')
      (hq' : s'.machine.Quietly r') : Readied conf { s' with machine := r' }

/-- What comes after a launch: it failed, or the daemon was waited for. -/
inductive Concluded (conf : DaemonConf) : DaemonState → Supervisor (Recorded σ) → Prop
  | failed (conf? : Option DaemonConf) : Concluded conf .unknown { s with conf? }
  | awaited {state : DaemonState} {s' : Supervisor (Recorded σ)}
      (h : Awaited m conf.pidFile { s with conf? := some conf } state s') : Concluded conf state s'

/-- An attempt to start ends before the daemon is looked for, before it is launched, or after that. -/
inductive Attempt : DaemonState → Supervisor (Recorded σ) → Prop
  | unready {state : DaemonState} {files? : Option ConfFiles} {r : Recorded σ} (hq : s.machine.Quietly r)
      (hstate : state = .broken ∨ state = .unknown) : Attempt state { s with files?, machine := r }
  | unlaunched {state : DaemonState} {conf : DaemonConf} {s' : Supervisor (Recorded σ)}
      (h : Readied m s conf s') (hstate : state = .broken ∨ state = .unknown)
      (conf? : Option DaemonConf) : Attempt state { s' with conf? }
  | launched {state : DaemonState} {conf : DaemonConf} {s' s'' : Supervisor (Recorded σ)}
      (h : Readied m s conf s') {program : String} {w : σ}
      (hc : Concluded m { s' with machine := s'.machine.done (.launch (launchOf program conf)) w } conf
        state s'') : Attempt state s''

section Follows

variable {m : Machine σ} {s s' : Supervisor (Recorded σ)} {pidFile : String} {conf : DaemonConf}
  {state : DaemonState} {allowed : Deed → σ → Prop}

theorem Ended.follows (h : Ended s s') (hterminate : ∀ pid w, allowed (.terminate pid) w) :
    Follows allowed s.machine s'.machine := by
  cases h with
  | idle => exact .refl
  | signalled => exact .done .refl (hterminate ..) _

theorem Missed.follows (h : Missed m s pidFile s') (hterminate : ∀ pid w, allowed (.terminate pid) w) :
    Follows allowed s.machine s'.machine := by
  cases h with
  | unnamed => exact .refl
  | gone _ h => exact h.follows hterminate

theorem Cleared.follows (h : Cleared m s pidFile s') (hterminate : ∀ pid w, allowed (.terminate pid) w) :
    Follows allowed s.machine s'.machine := by
  cases h with
  | named => exact .done .refl (hterminate ..) _
  | missed h => exact h.follows hterminate

theorem Awaited.follows (h : Awaited m pidFile s state s') (hterminate : ∀ pid w, allowed (.terminate pid) w)
    (hpause : ∀ w, allowed .pause w) : Follows allowed s.machine s'.machine := by
  induction h with
  | found => exact .refl
  | missed h => exact h.follows hterminate
  | again h _ ih => exact ((h.follows hterminate).done (hpause _) _).trans ih

theorem Concluded.follows (h : Concluded m s conf state s')
    (hterminate : ∀ pid w, allowed (.terminate pid) w) (hpause : ∀ w, allowed .pause w) :
    Follows allowed s.machine s'.machine := by
  cases h with
  | failed => exact .refl
  | awaited h => exact h.follows hterminate hpause

end Follows

theorem concluded_launch (program : String) (conf : DaemonConf) : ∃ w,
    Concluded m { s with machine := s.machine.done (.launch (launchOf program conf)) w } conf
      (stateOf (launch m.recorded program conf s).1) (launch m.recorded program conf s).2 := by
  unfold launch
  split <;> rename_i he <;> obtain ⟨-, rfl⟩ := Prod.mk.inj he
  · exact ⟨_, .failed _⟩
  · exact ⟨_, .failed _⟩
  · exact ⟨_, .awaited (awaited_await ..)⟩

theorem attempt_restart {files? : Option ConfFiles} {r : Recorded σ} (hq : s.machine.Quietly r)
    (conf : DaemonConf) (files : ConfFiles) (t : Settings) :
    Attempt m s (stateOf (restart m.recorded conf files t { s with files?, machine := r }).1)
      (restart m.recorded conf files t { s with files?, machine := r }).2 := by
  have hc := cleared_endPrevious m { s with files?, machine := r } conf.pidFile
  revert hc
  unfold restart
  generalize endPrevious m.recorded conf.pidFile { s with files?, machine := r } = s'
  intro hc
  dsimp only
  split
  · exact .unlaunched (.intro hq hc .refl) (.inl rfl) _
  · rename_i program _
    have hw := quietly_writeFiles m files conf t s'.machine
    split <;> rename_i r' he <;> rw [he] at hw
    · exact .unlaunched (.intro hq hc hw) (.inr rfl) _
    · obtain ⟨w, hl⟩ := concluded_launch m { s' with machine := r' } program conf
      exact .launched (.intro hq hc hw) hl

theorem attempt_tryStart (socket : ByteArray) (t : Settings) :
    Attempt m s (stateOf (s.tryStart m.recorded socket t).1) (s.tryStart m.recorded socket t).2 := by
  unfold tryStart
  split
  · exact .unready .refl (.inl rfl)
  · rename_i root _
    obtain ⟨files?, r, hq, ho⟩ : ∃ files? r, s.machine.Quietly r ∧ _ :=
      exists_openFiles m s (fun _ _ => trivial) fun _ _ => trivial
    split <;> rename_i s' he <;> rw [he] at ho <;> cases ho
    · exact .unready hq (.inr rfl)
    · rename_i files
      have hp : r.Quietly _ := follows_prepare m r (fun _ _ => trivial) root t.logDir socket files.daemon
        files.upload s.supervision.identity
      split <;> rename_i r' hr <;> rw [hr] at hp
      · exact .unready (hq.trans hp) (.inr rfl)
      · exact attempt_restart m s (hq.trans hp) ..

/-- A daemon that is not left to others is started by an attempt, which gives the state. -/
theorem attempt_start (h : s.supervision.external = false) (socket : ByteArray) (t : Settings) :
    ∃ s', Attempt m s (s.start m.recorded socket t).1 s' ∧
      (s.start m.recorded socket t).2 = { s' with state := (s.start m.recorded socket t).1 } := by
  rw [start, if_neg (by simp [h])]
  exact ⟨_, attempt_tryStart m s socket t, rfl⟩

end MetricsAgent.Supervisor
