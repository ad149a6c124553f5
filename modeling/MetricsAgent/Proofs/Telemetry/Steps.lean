import MetricsAgent.Proofs.Telemetry.Interleaving
import MetricsAgent.Proofs.Telemetry.Routing

/-!
# What one step does to a name

A step of a call changes at most one channel (`Task.edit`). It takes a metric off a channel only to remove it or
to put it on another, puts it where the rules that the call knows send it, and leaves to later steps what a reload
has yet to look at.
-/

namespace MetricsAgent.Telemetry.Task

variable {ε δ : Type} {m : Matching} {life : Lifecycle δ} {n : String} {k : Channel} {t : Telemetry ε δ}
  {task : Task ε}

/-! ## Kinds of calls -/

def isDone : Task ε → Bool
  | .done => true
  | _ => false

theorem isDone_iff : task.isDone = true ↔ task = .done := by
  cases task <;> simp [isDone]

/-- Whether a call registers the name. -/
def registers (n : String) : Task ε → Bool
  | .register name _ | .place name _ _ _ => name = n
  | _ => false

/-- Whether a call removes the name. -/
def removes (n : String) : Task ε → Bool
  | .remove name _ => name = n
  | _ => false

/-- Whether a call may yet put the name on a channel, whatever it finds. -/
def puts (n : String) : Task ε → Bool
  | .register name _ | .place name _ _ _ | .put _ name _ _ _ _ => name = n
  | _ => false

/-- Whether a call replaces the settings and has not moved all metrics yet. -/
def reloads : Task ε → Bool
  | .reconfigure _ _ | .list _ _ | .move _ _ _ _ | .put _ _ _ _ _ _ => true
  | _ => false

/-- Whether a reload has yet to move the name, should it stand on the channel. -/
def YetMoves (n : String) (k : Channel) : Task ε → Prop
  | .list _ channels => k ∈ channels
  | .move _ source names channels | .put _ _ _ source names channels =>
    k ∈ channels ∨ k = source ∧ n ∈ names
  | _ => False

/-- Old rules that equal the new ones are those in force. -/
def Knows (t : Telemetry ε δ) : Task ε → Prop
  | .reconfigure old new => old.rules = new.rules → t.settings.rules = new.rules
  | _ => True

instance (t : Telemetry ε δ) (task : Task ε) : Decidable (task.Knows t) :=
  match task with
  | .reconfigure old new => inferInstanceAs (Decidable (old.rules = new.rules → t.settings.rules = new.rules))
  | .done | .register _ _ | .place _ _ _ _ | .remove _ _ | .retire _ _ | .settle | .list _ _ | .move _ _ _ _
  | .put _ _ _ _ _ _ | .ask _ => .isTrue trivial

/-- What a call took from the settings is in force. -/
def Current (m : Matching) (n : String) (t : Telemetry ε δ) : Task ε → Prop
  | .place name _ _ target => name = n → target = t.route m n
  | .list new _ | .move new _ _ _ | .put new _ _ _ _ _ => t.settings = new
  | _ => True

/-! ## The channels after a step -/

theorem askReload_keeps (life : Lifecycle δ) (new : Settings) (t : Telemetry ε δ) :
    (t.askReload life new).settings = t.settings ∧ (t.askReload life new).roster = t.roster := by
  unfold askReload
  split
  · split
    · exact ⟨(enqueue_keepsRouting _ _).settings_eq, (enqueue_onlyTalks _ _).roster_eq⟩
    · exact ⟨rfl, rfl⟩
  · exact ⟨rfl, rfl⟩

/-- The change that a step makes to the channels: a name is erased from one, or put on one. -/
inductive Edit (ε : Type) where
  | none
  | erase (name : String) (c : Channel)
  | insert (name : String) (e : ε) (c : Channel)

/-- What a channel holds of a name after a change. -/
def Edit.held (r : Roster ε) (n : String) (k : Channel) : Edit ε → Option ε
  | .none => r.at? n k
  | .erase name c => if n = name ∧ k = c then Option.none else r.at? n k
  | .insert name e c => if n = name ∧ k = c then some e else r.at? n k

theorem Edit.isSome_held_iff {r : Roster ε} {edit : Edit ε} : (edit.held r n k).isSome = true ↔
    (∃ e, edit = .insert n e k) ∨ (r.at? n k).isSome = true ∧ edit ≠ .erase n k := by
  cases edit with
  | none => simp [held]
  | erase name c =>
      by_cases h : n = name ∧ k = c
      · simp [held, h.1, h.2]
      · have hne : Edit.erase name c ≠ (.erase n k : Edit ε) := by
          rintro ⟨⟩
          exact h ⟨rfl, rfl⟩
        simp only [held, if_neg h, ne_eq, hne, reduceCtorEq, exists_false, false_or, not_false_eq_true, and_true]
  | insert name e c =>
      by_cases h : n = name ∧ k = c
      · simp [held, h.1, h.2]
      · have hne (e' : ε) : Edit.insert name e c ≠ .insert n e' k := by
          rintro ⟨⟩
          exact h ⟨rfl, rfl⟩
        simp only [held, if_neg h, hne, ne_eq, reduceCtorEq, exists_false, false_or, not_false_eq_true, and_true]

/-- A name that is looked for is erased where it is found, which changes nothing where it is not. -/
def edit (m : Matching) : Task ε → Edit ε
  | .place name e [] target => .insert name e target
  | .place name _ (c :: _) _ | .remove name (c :: _) => .erase name c
  | .move new source (name :: _) _ =>
    if Rule.route m new.rules name = source then .none else .erase name source
  | .put new name e _ _ _ => .insert name e (Rule.route m new.rules name)
  | _ => .none

theorem at?_step (m : Matching) (life : Lifecycle δ) (t : Telemetry ε δ) (task : Task ε) (n : String)
    (k : Channel) : (task.step m life t).1.roster.at? n k = (task.edit m).held t.roster n k := by
  have found (name : String) (c : Channel) (h : t.roster.at? name c = none) :
      t.roster.at? n k = (Edit.erase name c).held t.roster n k := by
    simp only [Edit.held]
    split
    · rename_i hn
      rw [hn.1, hn.2, h]
    · rfl
  cases task with
  | place name e others target => cases others <;> simp [step, edit, Edit.held]
  | remove name channels =>
      cases channels with
      | nil => rfl
      | cons c channels =>
          rcases step_remove m life t name c channels with ⟨e, -, hs⟩ | ⟨hc, hs⟩ <;> rw [hs]
          · simp [edit, Edit.held]
          · exact found name c hc
  | settle => cases hs : t.isStarted <;> simp [step, hs, edit, Edit.held]
  | list new channels => cases channels <;> rfl
  | move new source names channels =>
      cases names with
      | nil => rfl
      | cons name names =>
          rcases step_move m life t new source name names channels with ⟨hr, e, -, hs⟩ | ⟨hstay, hs⟩ <;> rw [hs]
          · simp [edit, hr, Edit.held]
          · by_cases hr : Rule.route m new.rules name = source
            · simp [edit, hr, Edit.held]
            · rw [edit, if_neg hr]
              exact found name source (hstay.resolve_left hr)
  | put new name e source names channels => simp [step, edit, Edit.held]
  | ask new =>
      rw [step, (askReload_keeps life new t).2]
      rfl
  | _ => rfl

/-- After a step a name stands where it was put, and where it was unless it was erased there. -/
theorem isSome_at?_step_iff : ((task.step m life t).1.roster.at? n k).isSome = true ↔
    (∃ e, task.edit m = .insert n e k) ∨ (t.roster.at? n k).isSome = true ∧ task.edit m ≠ .erase n k := by
  rw [at?_step, Edit.isSome_held_iff]

/-- A metric is put where the rules that the call knows send it. -/
theorem of_edit_eq_insert {e : ε} (h : task.edit m = .insert n e k) :
    task.puts n = true ∧ (task.Current m n t → k = t.route m n) := by
  cases task with
  | place name e others target =>
      cases others with
      | nil =>
          cases h
          exact ⟨by simp [puts], fun hc => hc rfl⟩
      | cons c others => cases h
  | put new name e source names channels =>
      cases h
      refine ⟨by simp [puts], fun hc => ?_⟩
      rw [Telemetry.route, show t.settings = new from hc]
  | remove name channels => cases channels <;> cases h
  | move new source names channels =>
      cases names with
      | nil => cases h
      | cons name names =>
          simp only [edit] at h
          split at h <;> cases h
  | _ => cases h

/-- A call that is about to put a name on a channel does so, or still is about to. -/
theorem puts_step (m : Matching) (life : Lifecycle δ) (t : Telemetry ε δ) (h : task.puts n = true) :
    (task.step m life t).2.puts n = true ∨ ∃ k, ((task.step m life t).1.roster.at? n k).isSome = true := by
  cases task with
  | register name e => exact .inl h
  | place name e others target =>
      cases others with
      | nil =>
          have hn : name = n := by simpa [puts] using h
          exact .inr ⟨target, by simp [step, hn]⟩
      | cons c others => exact .inl h
  | put new name e source names channels =>
      have hn : name = n := by simpa [puts] using h
      exact .inr ⟨Rule.route m new.rules name, by simp [step, hn]⟩
  | _ => cases h

/-- Only a call that found the name on a channel, or was to put it there, is about to put it on one. -/
theorem puts_of_step (h : (task.step m life t).2.puts n = true) :
    task.puts n = true ∨ task.reloads = true ∧ ∃ k, (t.roster.at? n k).isSome = true := by
  cases task with
  | register name e => exact .inl h
  | place name e others target =>
      cases others with
      | nil => cases h
      | cons c others => exact .inl h
  | remove name channels =>
      cases channels with
      | nil => cases h
      | cons c channels =>
          rcases step_remove m life t name c channels with ⟨e, -, hs⟩ | ⟨-, hs⟩ <;> rw [hs] at h <;> cases h
  | reconfigure old new =>
      by_cases hr : old.rules = new.rules <;> simp [step, hr, puts] at h
  | list new channels => cases channels <;> cases h
  | move new source names channels =>
      cases names with
      | nil => cases h
      | cons name names =>
          rcases step_move m life t new source name names channels with ⟨-, e, hc, hs⟩ | ⟨-, hs⟩ <;> rw [hs] at h
          · have hn : name = n := by simpa [puts] using h
            exact .inr ⟨rfl, source, by rw [← hn, hc]; rfl⟩
          · cases h
  | _ => cases h

/-- A metric is taken off its channel only to remove it or to put it on another. -/
theorem puts_step_of_edit_eq_erase (he : task.edit m = .erase n k) (h : (t.roster.at? n k).isSome = true)
    (hr : task.removes n = false) : (task.step m life t).2.puts n = true := by
  cases task with
  | place name e others target =>
      cases others with
      | nil => cases he
      | cons c others =>
          cases he
          simp [step, puts]
  | remove name channels =>
      cases channels with
      | nil => cases he
      | cons c channels =>
          cases he
          simp [removes] at hr
  | move new source names channels =>
      cases names with
      | nil => cases he
      | cons name names =>
          simp only [edit] at he
          split at he
          · cases he
          · rename_i hs
            cases he
            obtain ⟨e, hc⟩ := Option.isSome_iff_exists.mp h
            simp [step, hs, hc, puts]
  | list new channels => cases channels <;> cases he
  | _ => cases he

/-! ## What a call knows, and what it has yet to do -/

theorem settings_step (m : Matching) (life : Lifecycle δ) (t : Telemetry ε δ)
    (h : ∀ old new, task ≠ .reconfigure old new) :
    (task.step m life t).1.settings = t.settings := by
  cases task with
  | place name e others target => cases others <;> rfl
  | remove name channels =>
      cases channels with
      | nil => rfl
      | cons c channels =>
          rcases step_remove m life t name c channels with ⟨e, -, hs⟩ | ⟨-, hs⟩ <;> rw [hs]
  | reconfigure old new => exact absurd rfl (h old new)
  | list new channels => cases channels <;> rfl
  | move new source names channels =>
      cases names with
      | nil => rfl
      | cons name names =>
          rcases step_move m life t new source name names channels with ⟨-, e, -, hs⟩ | ⟨-, hs⟩ <;> rw [hs]
  | ask new => exact (askReload_keeps life new t).1
  | _ => rfl

theorem Current.of_settings_eq {t' : Telemetry ε δ} (h : task.Current m n t) (hs : t'.settings = t.settings) :
    task.Current m n t' := by
  cases task with
  | place name e others target =>
      intro hn
      rw [h hn, Telemetry.route, Telemetry.route, hs]
  | list | move | put => exact hs.trans h
  | _ => trivial

/-- A call that neither registers the name nor reloads knows nothing of the settings. -/
theorem current_of_not_registers (hr : task.registers n = false) (hl : task.reloads = false) :
    task.Current m n t := by
  cases task with
  | place name e others target => exact fun hn => by simp [registers, hn] at hr
  | list | move | put => cases hl
  | _ => trivial

theorem Current.step (h : task.Current m n t) : (task.step m life t).2.Current m n (task.step m life t).1 := by
  cases task with
  | register name e => exact fun hn => congrArg (t.route m) hn
  | place name e others target =>
      cases others with
      | nil => trivial
      | cons c others => exact h
  | remove name channels =>
      cases channels with
      | nil => trivial
      | cons c channels =>
          rcases step_remove m life t name c channels with ⟨e, -, hs⟩ | ⟨-, hs⟩ <;> rw [hs] <;> trivial
  | reconfigure old new => by_cases hr : old.rules = new.rules <;> simp [Task.step, hr, Current]
  | list new channels =>
      cases channels with
      | nil => trivial
      | cons c channels => exact h
  | move new source names channels =>
      cases names with
      | nil => exact h
      | cons name names =>
          rcases step_move m life t new source name names channels with ⟨-, e, -, hs⟩ | ⟨-, hs⟩ <;> rw [hs] <;>
            exact h
  | put new name e source names channels => exact h
  | _ => trivial

theorem reloads_of_yetMoves (h : task.YetMoves n k) : task.reloads = true := by
  cases task with
  | list | move | put => rfl
  | _ => exact h.elim

/-- A name that a reload has yet to move stays so, unless it is moved or stands where it should. -/
theorem YetMoves.step (h : task.YetMoves n k) (hc : task.Current m n t)
    (hk : ((task.step m life t).1.roster.at? n k).isSome = true) :
    (task.step m life t).2.YetMoves n k ∨ k = t.route m n := by
  cases task with
  | list new channels =>
      cases channels with
      | nil => cases h
      | cons c channels =>
          rcases List.mem_cons.mp h with rfl | h
          · exact .inl (.inr ⟨rfl, NameMap.mem_names_iff.mpr hk⟩)
          · exact .inl (.inl h)
  | move new source names channels =>
      cases names with
      | nil =>
          rcases h with h | ⟨-, h⟩
          · exact .inl h
          · cases h
      | cons name names =>
          have hrest : (k ∈ channels ∨ k = source ∧ n ∈ names) ∨ k = t.route m n := by
            rcases h with h | ⟨rfl, h⟩
            · exact .inl (.inl h)
            · rcases List.mem_cons.mp h with rfl | h
              · -- The name is next: it is passed over where it should stand, and else has just been taken off.
                right
                rw [Telemetry.route, show t.settings = new from hc]
                by_contra hr
                rw [at?_step, edit, if_neg (Ne.symm hr)] at hk
                simp [Edit.held] at hk
              · exact .inl (.inr ⟨rfl, h⟩)
          rcases step_move m life t new source name names channels with ⟨-, e, -, hs⟩ | ⟨-, hs⟩ <;> rw [hs] <;>
            exact hrest
  | put new name e source names channels => exact .inl h
  | _ => exact h.elim

theorem registers_or_reloads_of_puts (h : task.puts n = true) :
    task.registers n = true ∨ task.reloads = true := by
  cases task with
  | register name e => exact .inl h
  | place name e others target => exact .inl h
  | put => exact .inr rfl
  | _ => cases h

theorem removes_step (m : Matching) (life : Lifecycle δ) (t : Telemetry ε δ) (h : task.removes n = false) :
    (task.step m life t).2.removes n = false := by
  cases task with
  | place name e others target => cases others <;> rfl
  | remove name channels =>
      cases channels with
      | nil => rfl
      | cons c channels =>
          rcases step_remove m life t name c channels with ⟨e, -, hs⟩ | ⟨-, hs⟩ <;> rw [hs]
          · rfl
          · exact h
  | reconfigure old new => by_cases hr : old.rules = new.rules <;> simp [step, hr, removes]
  | list new channels => cases channels <;> rfl
  | move new source names channels =>
      cases names with
      | nil => rfl
      | cons name names =>
          rcases step_move m life t new source name names channels with ⟨-, e, -, hs⟩ | ⟨-, hs⟩ <;> rw [hs] <;> rfl
  | _ => rfl

end MetricsAgent.Telemetry.Task
