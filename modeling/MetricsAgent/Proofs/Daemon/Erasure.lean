import MetricsAgent.Proofs.Daemon.Runs

/-!
# Runs without a record

A recorded machine gives the answers of the machine itself. So a run of a supervisor goes the same way whether
what is done is recorded or not (`erase_after`), and what is proved from the record holds of the daemon that
is looked after without one.
-/

namespace MetricsAgent

/-- An answer and the state of the machine, without the record. -/
def Recorded.erase {σ α : Type} (p : α × Recorded σ) : α × σ := (p.1, p.2.now)

open Recorded

variable {σ : Type} (m : Machine σ) (r : Recorded σ)

/-! ## Preparing a configuration -/

theorem erase_writableDir (what path : String) :
    erase (m.recorded.writableDir what path r) = m.writableDir what path r.now := by
  have h : erase (m.recorded.makeDirs path r) = m.makeDirs path r.now := rfl
  unfold Machine.writableDir
  rw [← h]
  rcases m.recorded.makeDirs path r with ⟨_ | _, r'⟩
  · rfl
  · cases hw : m.isWritable path r'.now with
    | false => simp [Recorded.erase, Machine.recorded, hw]
    | true =>
        cases hp : Path.absolute? (m.workDir? r'.now) path with
        | none => simp [Recorded.erase, Machine.recorded, hw, hp]
        | some path => simp [Recorded.erase, Machine.recorded, hw, hp]

theorem erase_ofSettings (t : Settings) :
    erase (UploadConf.ofSettings m.recorded t r) = UploadConf.ofSettings m t r.now := by
  unfold UploadConf.ofSettings
  rw [← erase_writableDir]
  split
  · rfl
  · split
    · rfl
    · rcases m.recorded.writableDir "dataDir" t.dataDir r with ⟨_ | _, r'⟩ <;> rfl

theorem erase_loggingTo (dir : String) (d : DaemonDraft) :
    erase (d.loggingTo m.recorded dir r) = d.loggingTo m dir r.now := by
  unfold DaemonDraft.loggingTo
  rw [← erase_writableDir]
  rcases m.recorded.writableDir "logDir" dir r with ⟨_ | _, r'⟩ <;> rfl

theorem erase_prepare (root logDir : String) (socket : ByteArray) (confFile uploadConfFile : String)
    (identity : Identity) :
    erase (DaemonConf.prepare m.recorded root logDir socket confFile uploadConfFile identity r) =
      DaemonConf.prepare m root logDir socket confFile uploadConfFile identity r.now := by
  have hroot : ∀ d : DaemonDraft, d.inRoot m.recorded root r = d.inRoot m root r.now := fun _ => rfl
  unfold DaemonConf.prepare
  rw [← hroot]
  split
  · rfl
  · rename_i d _
    rw [← erase_loggingTo]
    rcases d.loggingTo m.recorded logDir r with ⟨_ | _, r'⟩ <;> rfl

namespace Supervisor

/-- The supervisor acts on the machine itself. -/
def erase (s : Supervisor (Recorded σ)) : Supervisor σ where
  supervision := s.supervision
  state := s.state
  pid? := s.pid?
  conf? := s.conf?
  files? := s.files?
  machine := s.machine.now

variable (s : Supervisor (Recorded σ))

/-! ## The tracked process -/

theorem erase_endTracked : (s.endTracked m.recorded).erase = s.erase.endTracked m := by
  have hpid : s.erase.pid? = s.pid? := rfl
  have hstate : s.erase.state = s.state := rfl
  unfold endTracked
  rw [hpid, hstate]
  cases s.pid? with
  | none => rfl
  | some pid =>
      have ht : Recorded.erase (m.recorded.terminate pid s.machine) = m.terminate pid s.erase.machine := rfl
      dsimp only
      rw [← ht]
      split
      · rfl
      · rcases m.recorded.terminate pid s.machine with ⟨_ | _, r⟩ <;> rfl

theorem erase_lookUp (pidFile : String) :
    ((s.lookUp m.recorded pidFile).1, (s.lookUp m.recorded pidFile).2.erase) = s.erase.lookUp m pidFile := by
  have hf : m.hasPath pidFile s.erase.machine = m.recorded.hasPath pidFile s.machine := rfl
  unfold lookUp
  rw [hf, ← erase_endTracked]
  split <;> rfl

theorem erase_endPrevious (pidFile : String) :
    (s.endPrevious m.recorded pidFile).erase = s.erase.endPrevious m pidFile := by
  unfold endPrevious
  rw [← erase_lookUp]
  rcases s.lookUp m.recorded pidFile with ⟨_ | pid, s'⟩
  · rfl
  · exact erase_endTracked m _

theorem erase_await (pidFile : String) (looks : Nat) :
    ((s.await m.recorded pidFile looks).1, (s.await m.recorded pidFile looks).2.erase) =
      s.erase.await m pidFile looks := by
  induction looks generalizing s with
  | zero =>
      rw [await, await, ← erase_lookUp]
      rcases s.lookUp m.recorded pidFile with ⟨_ | pid, s'⟩ <;> rfl
  | succ looks ih =>
      rw [await, await, ← erase_lookUp]
      rcases s.lookUp m.recorded pidFile with ⟨_ | pid, s'⟩
      · exact ih _
      · rfl

/-! ## Configuration files -/

theorem erase_makeFiles : Recorded.erase (makeFiles m.recorded r) = makeFiles m r.now := by
  have hdaemon : Recorded.erase (m.recorded.makeConfFile "ds-collectd-" r) =
      m.makeConfFile "ds-collectd-" r.now := rfl
  unfold makeFiles
  rw [← hdaemon]
  rcases m.recorded.makeConfFile "ds-collectd-" r with ⟨_ | daemon, r'⟩
  · rfl
  · have hupload : Recorded.erase (m.recorded.makeConfFile "ds-collectd-insights-" r') =
        m.makeConfFile "ds-collectd-insights-" r'.now := rfl
    dsimp only [Recorded.erase] at hupload ⊢
    rw [← hupload]
    rcases m.recorded.makeConfFile "ds-collectd-insights-" r' with ⟨_ | upload, r''⟩ <;> rfl

theorem erase_openFiles :
    ((s.openFiles m.recorded).1, (s.openFiles m.recorded).2.erase) = s.erase.openFiles m := by
  have hfiles : s.erase.files? = s.files? := rfl
  have hmachine : s.erase.machine = s.machine.now := rfl
  unfold openFiles
  rw [hfiles, hmachine, ← erase_makeFiles]
  cases s.files? with
  | some files => rfl
  | none => rcases makeFiles m.recorded s.machine with ⟨_ | files, r⟩ <;> rfl

theorem erase_writeFile (path text : String) :
    Recorded.erase (writeFile m.recorded path text r) = writeFile m path text r.now := by
  have h : Recorded.erase (m.recorded.write path text r) = m.write path text r.now := rfl
  unfold writeFile
  rw [← h]
  rcases m.recorded.write path text r with ⟨_ | _, r'⟩ <;> rfl

theorem erase_writeUpload (files : ConfFiles) (t : Settings) :
    Recorded.erase (writeUpload m.recorded files t r) = writeUpload m files t r.now := by
  unfold writeUpload
  rw [← erase_ofSettings]
  rcases UploadConf.ofSettings m.recorded t r with ⟨_ | conf, r'⟩
  · rfl
  · exact erase_writeFile m r' files.upload conf.text

theorem erase_writeFiles (files : ConfFiles) (conf : DaemonConf) (t : Settings) :
    Recorded.erase (writeFiles m.recorded files conf t r) = writeFiles m files conf t r.now := by
  unfold writeFiles
  rw [← erase_writeFile]
  rcases writeFile m.recorded files.daemon conf.text r with ⟨_ | _, r'⟩
  · rfl
  · exact erase_writeUpload m r' files t

/-! ## Starting -/

theorem erase_launch (program : String) (conf : DaemonConf) :
    ((launch m.recorded program conf s).1, (launch m.recorded program conf s).2.erase) =
      launch m program conf s.erase := by
  have h : Recorded.erase (m.recorded.launch (launchOf program conf) s.machine) =
      m.launch (launchOf program conf) s.erase.machine := rfl
  unfold launch
  rw [← h]
  rcases m.recorded.launch (launchOf program conf) s.machine with ⟨_ | _ | _, r⟩
  · rfl
  · rfl
  · have hw := erase_await m { s with conf? := some conf, machine := r } conf.pidFile
      s.supervision.furtherLooks
    exact congrArg (fun p => ((.ok p.1 : Except PreparationError DaemonState), p.2)) hw

theorem erase_restart (conf : DaemonConf) (files : ConfFiles) (t : Settings) :
    ((restart m.recorded conf files t s).1, (restart m.recorded conf files t s).2.erase) =
      restart m conf files t s.erase := by
  unfold restart
  rw [← erase_endPrevious]
  generalize s.endPrevious m.recorded conf.pidFile = s'
  have hw : wrapper? m conf.root s'.erase.machine = wrapper? m.recorded conf.root s'.machine := rfl
  have hmachine : s'.erase.machine = s'.machine.now := rfl
  dsimp only
  rw [hw, hmachine, ← erase_writeFiles]
  cases wrapper? m.recorded conf.root s'.machine with
  | none => rfl
  | some program =>
      rcases writeFiles m.recorded files conf t s'.machine with ⟨_ | _, r⟩
      · rfl
      · exact erase_launch m { s' with machine := r } program conf

theorem erase_tryStart (socket : ByteArray) (t : Settings) :
    ((s.tryStart m.recorded socket t).1, (s.tryStart m.recorded socket t).2.erase) =
      s.erase.tryStart m socket t := by
  have hr : root? m t s.erase.machine = root? m.recorded t s.machine := rfl
  unfold tryStart
  rw [hr, ← erase_openFiles]
  cases root? m.recorded t s.machine with
  | none => rfl
  | some root =>
      rcases s.openFiles m.recorded with ⟨_ | files, s'⟩
      · rfl
      · have hp := erase_prepare m s'.machine root t.logDir socket files.daemon files.upload
          s'.supervision.identity
        have hmachine : s'.erase.machine = s'.machine.now := rfl
        have hsupervision : s'.erase.supervision = s'.supervision := rfl
        dsimp only
        rw [hmachine, hsupervision, ← hp]
        rcases DaemonConf.prepare m.recorded root t.logDir socket files.daemon files.upload
          s'.supervision.identity s'.machine with ⟨_ | conf, r⟩
        · rfl
        · exact erase_restart m { s' with machine := r } conf files t

theorem erase_start (socket : ByteArray) (t : Settings) :
    ((s.start m.recorded socket t).1, (s.start m.recorded socket t).2.erase) = s.erase.start m socket t := by
  have hsupervision : s.erase.supervision = s.supervision := rfl
  unfold start
  rw [hsupervision, ← erase_tryStart]
  split <;> rfl

/-! ## The other operations -/

theorem erase_check :
    ((s.check m.recorded).1, (s.check m.recorded).2.erase) = s.erase.check m := by
  have hsupervision : s.erase.supervision = s.supervision := rfl
  have hpid : s.erase.pid? = s.pid? := rfl
  have hconf : s.erase.conf? = s.conf? := rfl
  have hstate : s.erase.state = s.state := rfl
  unfold check
  rw [hsupervision, hpid, hconf, hstate]
  split
  · rfl
  · cases s.pid? with
    | none => rfl
    | some pid =>
        cases s.conf? with
        | none => rfl
        | some conf =>
            dsimp only
            rw [← erase_lookUp]
            split <;> rfl

theorem erase_reload (t : Settings) :
    ((s.reload m.recorded t).1, (s.reload m.recorded t).2.erase) = s.erase.reload m t := by
  have hstate : s.erase.state = s.state := rfl
  have hfiles : s.erase.files? = s.files? := rfl
  have hmachine : s.erase.machine = s.machine.now := rfl
  unfold reload
  rw [hstate, hfiles]
  split
  · cases s.files? with
    | none => rfl
    | some files =>
        dsimp only
        rw [hmachine, ← erase_writeUpload]
        rcases writeUpload m.recorded files t s.machine with ⟨_ | _, r⟩ <;> rfl
  · rfl

/-! ## Runs -/

/-- An operation on a supervisor that keeps no record. -/
def act (s : Supervisor σ) : Operation σ → Supervisor σ
  | .start socket t => (s.start m socket t).2
  | .check => (s.check m).2
  | .stop => (s.stop m).2
  | .reload t => (s.reload m t).2
  | .change w looks => { s with supervision.furtherLooks := looks, machine := w }

theorem erase_perform (o : Operation σ) : (s.perform m o).erase = s.erase.act m o := by
  cases o with
  | start socket t => exact congrArg Prod.snd (erase_start m s socket t)
  | check => exact congrArg Prod.snd (erase_check m s)
  | stop => exact erase_endTracked m s
  | reload t => exact congrArg Prod.snd (erase_reload m s t)
  | change w looks => rfl

/-- A run goes the same way without the record. -/
theorem erase_after (v : Supervision) (w : σ) (operations : List (Operation σ)) :
    (after m v w operations).erase =
      operations.foldl (act m) { supervision := v, machine := w } := by
  unfold after
  have hfresh : (fresh v w).erase = { supervision := v, machine := w } := rfl
  rw [← hfresh]
  generalize fresh v w = s
  induction operations generalizing s with
  | nil => rfl
  | cons o operations ih => rw [List.foldl_cons, List.foldl_cons, ih, erase_perform]

end Supervisor

end MetricsAgent
