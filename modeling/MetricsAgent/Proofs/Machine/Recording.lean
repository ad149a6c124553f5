import MetricsAgent.Daemon.Preparation

/-!
# What is done to a machine

A recorded machine answers as the machine itself does, and keeps what is done to it, each deed with the
state that it was done in. What leads from one record to another is told by the deeds that lead there
(`Follows`): preparing a configuration makes directories, and nothing else.
-/

namespace MetricsAgent

inductive Deed where
  | makeDirs (path : String)
  | makeConfFile (start : String)
  | write (path text : String)
  | delete (path : String)
  | terminate (pid : Int)
  | launch (l : Launch)
  | pause
  /-- Something that is not done through the machine's operations. -/
  | byOthers
  deriving DecidableEq, Repr

/-- The deed concerns files only, or is no more than waiting. -/
def Deed.IsQuiet : Deed → Prop
  | .makeDirs _ | .makeConfFile _ | .write _ _ | .delete _ | .pause => True
  | .terminate _ | .launch _ | .byOthers => False

/-- A state of a machine, and what was done before, each deed with the state that it was done in. -/
structure Recorded (σ : Type) where
  now : σ
  deeds : List (Deed × σ) := []

namespace Recorded

variable {σ : Type}

def done (r : Recorded σ) (d : Deed) (w : σ) : Recorded σ where
  now := w
  deeds := r.deeds ++ [(d, r.now)]

@[simp] theorem now_done (r : Recorded σ) (d : Deed) (w : σ) : (r.done d w).now = w := rfl

@[simp] theorem deeds_done (r : Recorded σ) (d : Deed) (w : σ) :
    (r.done d w).deeds = r.deeds ++ [(d, r.now)] := rfl

/-- The states up to now. -/
def moments (r : Recorded σ) : List σ := r.deeds.map Prod.snd ++ [r.now]

theorem now_mem_moments (r : Recorded σ) : r.now ∈ r.moments := by simp [moments]

theorem moments_done (r : Recorded σ) (d : Deed) (w : σ) : (r.done d w).moments = r.moments ++ [w] := by
  simp [moments]

/-! ## From one record to another -/

/-- From `r`, deeds that are allowed in their states led to the other record. -/
inductive Follows (allowed : Deed → σ → Prop) (r : Recorded σ) : Recorded σ → Prop
  | refl : Follows allowed r r
  | done {r' : Recorded σ} {d : Deed} (h : Follows allowed r r') (hd : allowed d r'.now) (w : σ) :
      Follows allowed r (r'.done d w)

namespace Follows

variable {allowed : Deed → σ → Prop} {r r' r'' : Recorded σ}

theorem trans (h : Follows allowed r r') (h' : Follows allowed r' r'') : Follows allowed r r'' := by
  induction h' with
  | refl => exact h
  | done _ hd w ih => exact ih.done hd w

theorem mono (h : Follows allowed r r') {allowed' : Deed → σ → Prop}
    (hi : ∀ d w, allowed d w → allowed' d w) : Follows allowed' r r' := by
  induction h with
  | refl => exact .refl
  | done _ hd w ih => exact ih.done (hi _ _ hd) w

/-- The new deeds come after the old ones, and the old state is one that they were done in, or the new
state. -/
theorem exists_deeds (h : Follows allowed r r') :
    ∃ new, r'.deeds = r.deeds ++ new ∧ (∀ x ∈ new, allowed x.1 x.2) ∧
      r.now ∈ new.map Prod.snd ++ [r'.now] := by
  induction h with
  | refl => exact ⟨[], by simp, by simp, by simp⟩
  | @done r' d _ hd w ih =>
      obtain ⟨new, hn, ha, hm⟩ := ih
      refine ⟨new ++ [(d, r'.now)], by rw [deeds_done, hn, List.append_assoc], ?_, ?_⟩
      · intro x hx
        rcases List.mem_append.mp hx with hx | hx
        · exact ha x hx
        · cases List.mem_singleton.mp hx
          exact hd
      · rw [List.map_append]
        exact List.mem_append_left _ hm

end Follows

/-- Quiet deeds led from one record to the other. -/
abbrev Quietly : Recorded σ → Recorded σ → Prop := Follows fun d _ => d.IsQuiet

end Recorded

open Recorded

/-! ## Recorded machines -/

variable {σ : Type}

/-- The machine with a record of what is done to it. -/
def Machine.recorded (m : Machine σ) : Machine (Recorded σ) where
  workDir? r := m.workDir? r.now
  programDir? r := m.programDir? r.now
  hasPath path r := m.hasPath path r.now
  isDir path r := m.isDir path r.now
  isFile path r := m.isFile path r.now
  isWritable path r := m.isWritable path r.now
  isExecutable path r := m.isExecutable path r.now
  readText? path r := m.readText? path r.now
  makeDirs path r := (m.makeDirs path r.now).map id (r.done (.makeDirs path))
  makeConfFile start r := (m.makeConfFile start r.now).map id (r.done (.makeConfFile start))
  write path text r := (m.write path text r.now).map id (r.done (.write path text))
  delete path r := r.done (.delete path) (m.delete path r.now)
  commandLine? pid r := m.commandLine? pid r.now
  terminate pid r := (m.terminate pid r.now).map id (r.done (.terminate pid))
  launch l r := (m.launch l r.now).map id (r.done (.launch l))
  pause r := r.done .pause (m.pause r.now)
  resolves host port r := m.resolves host port r.now

/-! ## Preparing a configuration -/

section Preparation

variable (m : Machine σ) (r : Recorded σ) {allowed : Deed → σ → Prop}

theorem follows_writableDir (hdirs : ∀ path w, allowed (.makeDirs path) w) (what path : String) :
    Follows allowed r (m.recorded.writableDir what path r).2 := by
  have h : Follows allowed r (m.recorded.makeDirs path r).2 := .done .refl (hdirs ..) _
  unfold Machine.writableDir
  split
  · rename_i w he; rw [he] at h; exact h
  · rename_i w he
    rw [he] at h
    split
    · split <;> exact h
    · exact h

theorem follows_ofSettings (hdirs : ∀ path w, allowed (.makeDirs path) w) (t : Settings) :
    Follows allowed r (UploadConf.ofSettings m.recorded t r).2 := by
  have h := follows_writableDir m r hdirs "dataDir" t.dataDir
  unfold UploadConf.ofSettings
  split
  · exact .refl
  · split
    · exact .refl
    · dsimp only
      split <;> rename_i he <;> rw [he] at h <;> exact h

theorem follows_loggingTo (hdirs : ∀ path w, allowed (.makeDirs path) w) (dir : String) (d : DaemonDraft) :
    Follows allowed r (d.loggingTo m.recorded dir r).2 := by
  have h := follows_writableDir m r hdirs "logDir" dir
  unfold DaemonDraft.loggingTo
  split <;> rename_i he <;> rw [he] at h <;> exact h

theorem follows_prepare (hdirs : ∀ path w, allowed (.makeDirs path) w) (root logDir : String)
    (socket : ByteArray) (confFile uploadConfFile : String) (identity : Identity) :
    Follows allowed r
      (DaemonConf.prepare m.recorded root logDir socket confFile uploadConfFile identity r).2 := by
  unfold DaemonConf.prepare
  split
  · exact .refl
  · rename_i d _
    have h := follows_loggingTo m r hdirs logDir d
    split <;> rename_i he <;> rw [he] at h <;> exact h

end Preparation

end MetricsAgent
