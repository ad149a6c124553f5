import MetricsAgent.Daemon.Supervisor
import MetricsAgent.Machine.Bench
import MetricsAgent.Settings.Yaml

/-!
# Valid settings

Valid settings may allow less data on disk than the daemon needs. They are refused when the upload configuration
is made, at each start and each reload. No other value of valid settings is refused, then or later: what else
goes wrong is the machine's doing (`Acceptance`).
-/

namespace MetricsAgent

/-- Whether the machine is the cause, and none of the values. -/
def PreparationError.isMachines : PreparationError → Bool
  | .missingRoot _ | .notWritable .. | .refused _ => true
  | .invalidValue .. | .settings _ => false

namespace Settings

/-- Whether the daemon can work with the size of the data directory. -/
def HasRoom (t : Settings) : Prop := 2 ≤ t.dataDirMaxSize

instance (t : Settings) : Decidable t.HasRoom := inferInstanceAs (Decidable (_ ≤ _))

/-- What settings without room are refused with. -/
def noRoom (t : Settings) : PreparationError :=
  .invalidValue "data_dir_max_size_in_mb" (UploadConf.digits t.dataDirMaxSize.toNat) "size must be > 1mb"

/-- What valid settings may be refused with. -/
def Blames (t : Settings) (e : PreparationError) : Prop :=
  e.isMachines = true ∨ ¬ t.HasRoom ∧ e = t.noRoom

variable {t : Settings}

theorem maxDataBytes_le_iff : t.maxDataBytes ≤ leastDataBytes ↔ ¬ t.HasRoom := by
  have hmax : t.maxDataBytes.toNat = min (t.dataDirMaxSize.toNat * 1000000) 18446744073709551615 :=
    UInt64.toNat_ofNat_of_lt' (by simp only [UInt64.size]; omega)
  rw [UInt64.le_iff_toNat_le, hmax, HasRoom, UInt64.le_iff_toNat_le]
  change _ ≤ 1048576 ↔ ¬ 2 ≤ _
  omega

theorem exists_endpoint (h : t.validate = .ok ()) : ∃ endpoint, t.endpoint = .ok endpoint := by
  unfold validate at h
  split at h
  · cases h
  · cases he : t.endpoint with
    | error e => simp [he, Except.map] at h
    | ok endpoint => exact ⟨endpoint, rfl⟩

theorem validate_of_parse {text : String} (h : parse text = .ok t) : t.validate = .ok () := by
  unfold parse at h
  split at h
  · cases h
  · rename_i s _
    cases hv : s.validate with
    | error e => simp [hv, Except.map] at h
    | ok =>
        simp only [hv, Except.map, Except.ok.injEq] at h
        exact h ▸ hv

end Settings

variable {σ : Type} {m : Machine σ} {t : Settings} {w w' : σ} {e : PreparationError}

/-! ## The upload configuration -/

theorem Machine.isMachines_of_writableDir {what path : String}
    (h : (m.writableDir what path w).1 = .error e) : e.isMachines = true := by
  unfold writableDir at h
  split at h
  · cases h; rfl
  · split at h
    · split at h
      · cases h; rfl
      · cases h
    · cases h; rfl

namespace UploadConf

theorem ofSettings_of_not_hasRoom (h : t.validate = .ok ()) (ht : ¬ t.HasRoom) :
    ofSettings m t w = (.error t.noRoom, w) := by
  obtain ⟨endpoint, he⟩ := t.exists_endpoint h
  simp only [ofSettings, he]
  exact if_pos (Settings.maxDataBytes_le_iff.mpr ht)

theorem exists_ofSettings (h : t.validate = .ok ()) (ht : t.HasRoom) {dir : String}
    (hd : m.writableDir "dataDir" t.dataDir w = (.ok dir, w')) :
    ∃ c, ofSettings m t w = (.ok c, w') := by
  obtain ⟨endpoint, he⟩ := t.exists_endpoint h
  have hroom : ¬ t.maxDataBytes ≤ leastDataBytes := fun hle => Settings.maxDataBytes_le_iff.mp hle ht
  simp only [ofSettings, he, if_neg hroom, hd]
  exact ⟨_, rfl⟩

theorem blames_of_ofSettings (h : t.validate = .ok ()) (hc : (ofSettings m t w).1 = .error e) :
    t.Blames e := by
  by_cases ht : t.HasRoom
  · obtain ⟨endpoint, he⟩ := t.exists_endpoint h
    have hroom : ¬ t.maxDataBytes ≤ leastDataBytes := fun hle => Settings.maxDataBytes_le_iff.mp hle ht
    simp only [ofSettings, he, if_neg hroom] at hc
    split at hc
    · rename_i hd
      cases hc
      exact .inl (m.isMachines_of_writableDir (congrArg Prod.fst hd))
    · cases hc
  · rw [ofSettings_of_not_hasRoom h ht] at hc
    cases hc
    exact .inr ⟨ht, rfl⟩

end UploadConf

/-! ## The daemon's configuration -/

namespace DaemonDraft

variable {root dir : String} {d d' : DaemonDraft}

theorem isMachines_of_inRoot (h : d.inRoot m root w = .error e) : e.isMachines = true := by
  unfold inRoot at h
  split at h
  · split at h
    · cases h; rfl
    · cases h
  · cases h; rfl

theorem exists_of_inRoot (h : d.inRoot m root w = .ok d') : ∃ root, d' = { d with root? := some root } := by
  unfold inRoot at h
  split at h
  · split at h
    · cases h
    · cases h
      exact ⟨_, rfl⟩
  · cases h

theorem isMachines_of_loggingTo (h : (d.loggingTo m dir w).1 = .error e) : e.isMachines = true := by
  unfold loggingTo at h
  split at h
  · rename_i hd
    cases h
    exact m.isMachines_of_writableDir (congrArg Prod.fst hd)
  · cases h

theorem exists_of_loggingTo (h : (d.loggingTo m dir w).1 = .ok d') :
    ∃ dir, d' = { d with logDir? := some dir } := by
  unfold loggingTo at h
  split at h
  · cases h
  · cases h
    exact ⟨_, rfl⟩

end DaemonDraft

/-- When a configuration is finished, no part of it is missing. -/
theorem DaemonConf.isMachines_of_prepare {root logDir confFile uploadConfFile : String} {socket : ByteArray}
    {identity : Identity}
    (h : (prepare m root logDir socket confFile uploadConfFile identity w).1 = .error e) :
    e.isMachines = true := by
  unfold prepare at h
  split at h
  · rename_i hr
    cases h
    exact DaemonDraft.isMachines_of_inRoot hr
  · rename_i hr
    obtain ⟨root, rfl⟩ := DaemonDraft.exists_of_inRoot hr
    split at h
    · rename_i hl
      cases h
      exact DaemonDraft.isMachines_of_loggingTo (congrArg Prod.fst hl)
    · rename_i hl
      obtain ⟨dir, rfl⟩ := DaemonDraft.exists_of_loggingTo (congrArg Prod.fst hl)
      cases h

namespace Supervisor

variable {s : Supervisor σ} {files : ConfFiles} {conf : DaemonConf}

theorem isMachines_of_openFiles (h : (s.openFiles m).1 = .error e) : e.isMachines = true := by
  unfold openFiles at h
  split at h
  · cases h
  · split at h
    · rename_i hf
      cases h
      unfold makeFiles at hf
      split at hf
      · cases hf; rfl
      · split at hf
        · cases hf; rfl
        · cases hf
    · cases h

theorem isMachines_of_writeFile {path text : String} (h : (writeFile m path text w).1 = .error e) :
    e.isMachines = true := by
  unfold writeFile at h
  split at h
  · cases h
  · cases h; rfl

theorem blames_of_writeUpload (h : t.validate = .ok ()) (he : (writeUpload m files t w).1 = .error e) :
    t.Blames e := by
  unfold writeUpload at he
  split at he
  · rename_i hc
    cases he
    exact UploadConf.blames_of_ofSettings h (congrArg Prod.fst hc)
  · exact .inl (isMachines_of_writeFile he)

theorem blames_of_writeFiles (h : t.validate = .ok ()) (he : (writeFiles m files conf t w).1 = .error e) :
    t.Blames e := by
  unfold writeFiles at he
  split at he
  · rename_i hf
    cases he
    exact .inl (isMachines_of_writeFile (congrArg Prod.fst hf))
  · exact blames_of_writeUpload h he

/-! ## Attempts to start -/

/-- Why the state is unknown after an attempt to start: it was refused, or the wrapper reported a failure. -/
inductive Unclear (m : Machine σ) (t : Settings) : Except PreparationError DaemonState → Prop
  | refused {e : PreparationError} (h : t.Blames e) : Unclear m t (.error e)
  | failed {l : Launch} {w w' : σ} (h : m.launch l w = (.failed, w')) : Unclear m t (.ok .unknown)

theorem await_ne_unknown (pidFile : String) (looks : Nat) (s : Supervisor σ) :
    (await m pidFile looks s).1 ≠ .unknown := by
  induction looks generalizing s with
  | zero => rw [await]; split <;> simp
  | succ looks ih =>
      rw [await]
      split
      · simp
      · exact ih _

theorem unclear_of_launch {program : String} (h : stateOf (launch m program conf s).1 = .unknown) :
    Unclear m t (launch m program conf s).1 := by
  revert h
  unfold launch
  split
  · exact fun _ => .refused (.inl rfl)
  · rename_i hl
    exact fun _ => .failed hl
  · exact fun h => absurd h (await_ne_unknown _ _ _)

theorem unclear_of_restart (h : t.validate = .ok ()) (hs : stateOf (restart m conf files t s).1 = .unknown) :
    Unclear m t (restart m conf files t s).1 := by
  revert hs
  unfold restart
  generalize endPrevious m conf.pidFile s = s'
  dsimp only
  split
  · intro hs
    cases hs
  · split
    · rename_i hf
      exact fun _ => .refused (blames_of_writeFiles h (congrArg Prod.fst hf))
    · exact unclear_of_launch

theorem unclear_of_tryStart (h : t.validate = .ok ()) {socket : ByteArray}
    (hs : stateOf (s.tryStart m socket t).1 = .unknown) : Unclear m t (s.tryStart m socket t).1 := by
  revert hs
  unfold tryStart
  split
  · intro hs
    cases hs
  · split
    · rename_i hf
      exact fun _ => .refused (.inl (isMachines_of_openFiles (congrArg Prod.fst hf)))
    · split
      · rename_i hp
        exact fun _ => .refused (.inl (DaemonConf.isMachines_of_prepare (congrArg Prod.fst hp)))
      · exact unclear_of_restart h

end Supervisor

/-! ## Acceptance -/

/-- Of the values of some settings nothing but too little room for data is refused. -/
structure Settings.Acceptance (m : Machine σ) (t : Settings) : Prop where
  /-- The directory for data can be made and written into: the room for data decides. -/
  ofSettings : ∀ w dir w', m.writableDir "dataDir" t.dataDir w = (.ok dir, w') →
    if t.HasRoom then ∃ c, UploadConf.ofSettings m t w = (.ok c, w')
    else UploadConf.ofSettings m t w = (.error t.noRoom, w)
  start : ∀ (s : Supervisor σ) socket, (s.start m socket t).1 = .unknown →
    Supervisor.Unclear m t (s.tryStart m socket t).1
  reload : ∀ (s : Supervisor σ) files dir w', s.state = .started → s.files? = some files →
    m.writableDir "dataDir" t.dataDir s.machine = (.ok dir, w') →
    if t.HasRoom then
      ∃ c : UploadConf, (s.reload m t).1 = if (m.write files.upload c.text w').1 then .started else .unknown
    else s.reload m t = (.unknown, { s with state := .unknown })

namespace Settings

theorem acceptance_of_validate (m : Machine σ) (h : t.validate = .ok ()) : t.Acceptance m where
  ofSettings w dir w' hd := by
    split
    · rename_i ht
      exact UploadConf.exists_ofSettings h ht hd
    · rename_i ht
      exact UploadConf.ofSettings_of_not_hasRoom h ht
  start s socket hs := by
    unfold Supervisor.start at hs
    split at hs
    · cases hs
    · exact Supervisor.unclear_of_tryStart h hs
  reload s files dir w' hs hf hd := by
    simp only [Supervisor.reload, if_pos hs, hf, Supervisor.writeUpload]
    split
    · rename_i ht
      obtain ⟨c, hc⟩ := UploadConf.exists_ofSettings h ht hd
      refine ⟨c, ?_⟩
      simp only [hc, Supervisor.writeFile]
      cases m.write files.upload c.text w' with
      | mk written w' => cases written <;> simp [hs]
    · rename_i ht
      simp only [UploadConf.ofSettings_of_not_hasRoom h ht]

/-- Valid settings, and so those that are read from a text, are accepted but for too little room for data. -/
theorem acceptance (m : Machine σ) :
    (∀ t : Settings, t.validate = .ok () → t.Acceptance m) ∧
      ∀ text (t : Settings), parse text = .ok t → t.Acceptance m :=
  ⟨fun _ h => acceptance_of_validate m h, fun _ _ h => acceptance_of_validate m (validate_of_parse h)⟩

theorem acceptance_defaults :
    defaults.validate = .ok () ∧ parse "" = .ok defaults ∧ defaults.Acceptance Bench.machine :=
  have h : parse "" = .ok defaults := rfl
  ⟨rfl, h, (acceptance Bench.machine).2 "" defaults h⟩

/-- A running daemon is given up for valid settings with a megabyte of room, for which a directory can be made. -/
theorem running_daemon_given_up :
    let t : Settings := { defaults with dataDirMaxSize := 1 }
    let s : Supervisor Bench := {
      supervision := {}, state := .started, pid? := some 1000, files? := some ⟨"/d.conf", "/u.conf"⟩
      machine := {} }
    t.validate = .ok () ∧
      (Bench.machine.writableDir "dataDir" t.dataDir s.machine).1 = .ok "/tmp/mcac/data" ∧
      (UploadConf.ofSettings Bench.machine t s.machine).1 = .error t.noRoom ∧
      (s.reload Bench.machine t).1 = .unknown :=
  ⟨rfl, rfl, rfl, rfl⟩

end Settings

end MetricsAgent
