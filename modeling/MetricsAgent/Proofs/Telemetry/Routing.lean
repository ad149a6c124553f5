import MetricsAgent.Proofs.Roster.Channels
import MetricsAgent.Telemetry.Basic

/-!
# Steps that route no metric

Of all that telemetry does, only registering, removing and new settings change what the channels hold.
Opening and closing a session, sampling, events, replies and health checks leave it alone
(`KeepsRouting`).
-/

namespace MetricsAgent.Telemetry

variable {ε δ : Type} {t t' t'' : Telemetry ε δ}

/-- The settings stay, and each channel holds what it held. -/
structure KeepsRouting (t t' : Telemetry ε δ) : Prop where
  settings_eq : t'.settings = t.settings
  at?_eq : t'.roster.at? = t.roster.at?

theorem KeepsRouting.refl (t : Telemetry ε δ) : KeepsRouting t t := ⟨rfl, rfl⟩

theorem KeepsRouting.trans (h : KeepsRouting t t') (h' : KeepsRouting t' t'') : KeepsRouting t t'' :=
  ⟨h'.settings_eq.trans h.settings_eq, h'.at?_eq.trans h.at?_eq⟩

/-! ## Sessions -/

theorem connect_keepsRouting (answer : ConnectAnswer) (t : Telemetry ε δ) :
    KeepsRouting t (t.connect answer) := by
  unfold connect
  split
  · exact .refl t
  · exact ⟨rfl, rfl⟩

theorem start_keepsRouting (life : Lifecycle δ) (answer : ConnectAnswer) (t : Telemetry ε δ) :
    KeepsRouting t (t.start life answer).2 := by
  unfold start
  split
  · exact .refl t
  · dsimp only
    refine .trans ?_ (connect_keepsRouting answer _)
    exact ⟨rfl, rfl⟩

theorem close_keepsRouting (life : Lifecycle δ) (answers : List WriteAnswer) (t : Telemetry ε δ) :
    KeepsRouting t (t.close life answers).2 := by
  unfold close
  split
  · exact .refl t
  · exact ⟨rfl, Roster.at?_clearRetired t.roster⟩

theorem cycle_at?_eq {report : ε → Occasion → Except Fault Report} {size tick every : Nat}
    {r r' : Roster ε} {outputs : List Output} (h : r.cycle report size tick every = .ok (outputs, r')) :
    r'.at? = r.at? := by
  unfold Roster.cycle at h
  cases hw : (Batch.ofSize size).writeAll report (r.due tick every) with
  | error e => rw [hw] at h; cases h
  | ok b => rw [hw] at h; cases h; exact Roster.at?_clearRetired r

theorem sample_keepsRouting {report : Context → ε → Occasion → Except Fault Report} {now : Int}
    {answers : List WriteAnswer} {written : ByteArray}
    (h : t.sample report now answers = .ok (written, t')) : KeepsRouting t t' := by
  unfold sample at h
  split at h
  · cases h; exact .refl t
  · rename_i s _
    cases hc : t.roster.cycle (report (t.context now)) t.setup.batchSize s.tick t.settings.insightEvery with
    | error e => rw [hc] at h; cases h
    | ok x => rw [hc] at h; cases h; exact ⟨rfl, cycle_at?_eq hc⟩

/-! ## Events and health -/

theorem enqueue_keepsRouting (t : Telemetry ε δ) (c : Command) : KeepsRouting t (t.enqueue c).2 := by
  unfold enqueue
  split
  · exact .refl t
  · split
    · exact ⟨rfl, rfl⟩
    · exact .refl t

theorem reportEvent_keepsRouting (t : Telemetry ε δ) (i : Insight) :
    KeepsRouting t (t.reportEvent i).2 := by
  unfold reportEvent
  split
  · exact enqueue_keepsRouting t _
  · exact .refl t

theorem writeEvent_keepsRouting (answers : List WriteAnswer) (t : Telemetry ε δ) :
    KeepsRouting t (t.writeEvent answers).2 := by
  unfold writeEvent
  split
  · exact .refl t
  · split
    · exact .refl t
    · exact ⟨rfl, rfl⟩

theorem receive_keepsRouting (t : Telemetry ε δ) (text : String) : KeepsRouting t (t.receive text) := by
  unfold receive
  split
  · exact ⟨rfl, rfl⟩
  · exact .refl t

theorem checkHealth_keepsRouting (life : Lifecycle δ) (answer : ConnectAnswer) (t : Telemetry ε δ) :
    KeepsRouting t (t.checkHealth life answer).2 := by
  refine .trans ?_ (connect_keepsRouting answer _)
  exact ⟨rfl, rfl⟩

/-! ## New settings -/

/-- The settings are installed and the metrics routed anew before the daemon is told. -/
theorem reconfigure_keepsRouting (m : Matching) (life : Lifecycle δ) (old new : Settings)
    (t : Telemetry ε δ) :
    KeepsRouting { t with
      settings := new
      roster := if old.rules = new.rules then t.roster else t.roster.refresh (Rule.route m new.rules) }
      (t.reconfigure m life old new) := by
  unfold reconfigure
  by_cases hr : old.rules = new.rules
  all_goals
    simp only [hr, ↓reduceIte]
    split
    · split
      · refine .trans ?_ (enqueue_keepsRouting _ _)
        exact ⟨rfl, rfl⟩
      · exact ⟨rfl, rfl⟩
    · exact ⟨rfl, rfl⟩

end MetricsAgent.Telemetry
