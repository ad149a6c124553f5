import MetricsAgent.Agent.Basic
import MetricsAgent.Daemon.Tally
import MetricsAgent.Proofs.Telemetry.Routing

/-!
# Agents keep in step

The catalog, the settings of the agent, the settings of its telemetry and the channels of the roster are
changed by different operations. They agree when the agent was created, each operation keeps the
agreement (`InStep`), and so does the work that an open session does by itself. Hence they agree in every
state that is reached.
-/

namespace MetricsAgent

/-- Trying again keeps what each try keeps. -/
theorem retry_preserves {σ : Type} {P : σ → Prop} {action : σ → Bool × σ}
    (h : ∀ s, P s → P (action s).2) (attempts : Nat) {s : σ} (hs : P s) :
    P (retry action attempts s).2 := by
  induction attempts generalizing s with
  | zero => exact hs
  | succ attempts ih =>
      have hn := h s hs
      rw [retry]
      split
      · rename_i s' he; rw [he] at hn; exact hn
      · rename_i s' he; rw [he] at hn; exact ih hn

namespace Agent

variable {δ : Type} {m : Matching} {life : Lifecycle δ} {a : Agent δ}

/-! ## The states of an agent -/

/-- What producers and operators do with an agent, and what the world answers to it. -/
inductive Operation where
  | register (name : String) (source : Source)
  | remove (name : String)
  | reload (loaded : Except SettingsError Settings)
  | start (answer : ConnectAnswer) (now : Int)
  | shutdown (answers : List WriteAnswer)

def perform (m : Matching) (life : Lifecycle δ) (a : Agent δ) : Operation → Agent δ
  | .register name source => a.register m name source
  | .remove name => (a.remove m name).2
  | .reload loaded => (a.reload m life loaded).2
  | .start answer now => (a.start life answer now).2
  | .shutdown answers => (a.shutdown life answers).2

/-- What a session does by itself. -/
inductive Works (life : Lifecycle δ) (t : Telemetry NamedSource δ) : Telemetry NamedSource δ → Prop
  | sample {now answers written t'}
      (h : t.sample (NamedSource.report t.counts) now answers = .ok (written, t')) : Works life t t'
  | writeEvent (answers : List WriteAnswer) : Works life t (t.writeEvent answers).2
  | receive (text : String) : Works life t (t.receive text)
  | checkHealth (answer : ConnectAnswer) : Works life t (t.checkHealth life answer).2

/-- The states of an agent that was created, through any operations in any order. -/
inductive Reachable (m : Matching) (life : Lifecycle δ) : Agent δ → Prop
  | create {loaded setup daemon attempts} {a : Agent δ}
      (h : Agent.create m loaded setup daemon attempts = .ok a) : Reachable m life a
  | perform {a : Agent δ} (h : Reachable m life a) (o : Operation) : Reachable m life (a.perform m life o)
  | work {a : Agent δ} {t} (h : Reachable m life a) (hw : Works life a.telemetry t) :
      Reachable m life { a with telemetry := t }

theorem Reachable.performs (h : Reachable m life a) (operations : List Operation) :
    Reachable m life (operations.foldl (Agent.perform m life) a) := by
  induction operations generalizing a with
  | nil => exact h
  | cons o operations ih => exact ih (h.perform o)

/-- Telemetry has the settings of the agent, and its roster holds the metrics of the catalog, each on the
channel to which its name is routed. -/
structure InStep (m : Matching) (a : Agent δ) : Prop where
  settings_eq : a.telemetry.settings = a.settings
  routed : a.telemetry.roster.Routed (Rule.route m a.settings.rules) a.catalog.metrics.contains

namespace InStep

theorem keep {t : Telemetry NamedSource δ} (h : InStep m a) (hk : a.telemetry.KeepsRouting t) :
    InStep m { a with telemetry := t } :=
  ⟨hk.settings_eq.trans h.settings_eq, h.routed.of_at?_eq hk.at?_eq⟩

theorem route_eq (h : InStep m a) : a.telemetry.route m = Rule.route m a.settings.rules := by
  funext name; rw [Telemetry.route, h.settings_eq]

/-! ## The catalog -/

theorem register (h : InStep m a) (name : String) (source : Source) :
    InStep m (a.register m name source) := by
  have hc : (a.register m name source).catalog.metrics.contains =
      fun n => n == name || a.catalog.metrics.contains n := by
    funext n; exact a.contains_register m name source n
  refine ⟨h.settings_eq, ?_⟩
  rw [hc]
  show (a.telemetry.roster.register (a.telemetry.route m) name _).Routed _ _
  rw [h.route_eq]
  exact h.routed.register name _

theorem remove (h : InStep m a) (name : String) : InStep m (a.remove m name).2 := by
  by_cases hm : a.catalog.metrics.contains name = true
  · have hc : (a.catalog.metrics.erase name).contains =
        fun n => n != name && a.catalog.metrics.contains n := by
      funext n; exact NameMap.contains_erase a.catalog.metrics name n
    have hn := h.routed.remove name
    rw [← hc] at hn
    simp only [Agent.remove, Catalog.remove, hm, ↓reduceIte, hear, Telemetry.remove]
    refine ⟨h.settings_eq, ?_⟩
    split
    · exact hn
    · exact hn.of_at?_eq (Roster.at?_clearRetired _)
  · simpa [Agent.remove, Catalog.remove, hm] using h

/-! ## The settings -/

theorem reload (h : InStep m a) (life : Lifecycle δ) (loaded : Except SettingsError Settings) :
    InStep m (a.reload m life loaded).2 := by
  unfold Agent.reload
  split
  · exact h
  · rename_i new
    split
    · exact h
    · have hk := Telemetry.reconfigure_keepsRouting m life a.settings new a.telemetry
      refine ⟨hk.settings_eq, Roster.Routed.of_at?_eq ?_ hk.at?_eq⟩
      dsimp only
      split
      · rename_i hr; rw [← hr]; exact h.routed
      · exact h.routed.refresh (Rule.route m new.rules)

/-! ## Sessions -/

theorem start (h : InStep m a) (life : Lifecycle δ) (answer : ConnectAnswer) (now : Int) :
    InStep m (a.start life answer now).2 := by
  have hk := Telemetry.start_keepsRouting life answer a.telemetry
  unfold Agent.start
  split
  · exact h
  · rename_i t he
    rw [he] at hk
    exact h.keep (retry_preserves (fun t' ht => ht.trans (t'.reportEvent_keepsRouting _)) a.attempts hk)

theorem shutdown (h : InStep m a) (life : Lifecycle δ) (answers : List WriteAnswer) :
    InStep m (a.shutdown life answers).2 := by
  have hk := Telemetry.close_keepsRouting life answers a.telemetry
  unfold Agent.shutdown
  split
  · exact h
  · rename_i he
    rw [he] at hk
    exact h.keep hk

theorem work {t : Telemetry NamedSource δ} (h : InStep m a) (hw : Works life a.telemetry t) :
    InStep m { a with telemetry := t } := by
  cases hw with
  | sample hs => exact h.keep (Telemetry.sample_keepsRouting hs)
  | writeEvent answers => exact h.keep (a.telemetry.writeEvent_keepsRouting answers)
  | receive text => exact h.keep (a.telemetry.receive_keepsRouting text)
  | checkHealth answer => exact h.keep (a.telemetry.checkHealth_keepsRouting life answer)

theorem perform (h : InStep m a) (life : Lifecycle δ) (o : Operation) : InStep m (a.perform m life o) := by
  cases o with
  | register name source => exact h.register name source
  | remove name => exact h.remove name
  | reload loaded => exact h.reload life loaded
  | start answer now => exact h.start life answer now
  | shutdown answers => exact h.shutdown life answers

/-! ## All states -/

theorem foldl_register (h : InStep m a) (counts : List OwnCount) :
    InStep m (counts.foldl (fun a c => a.register m c.name (.own c)) a) := by
  induction counts generalizing a with
  | nil => exact h
  | cons c counts ih => exact ih (h.register c.name (.own c))

/-- A new agent publishes its own counts like any other metric. -/
theorem of_create {loaded : Except SettingsError Settings} {setup : Setup} {daemon : δ} {attempts : Nat}
    (h : Agent.create m loaded setup daemon attempts = .ok a) : InStep m a := by
  unfold Agent.create at h
  split at h
  · cases h
  · cases h
    exact foldl_register ⟨rfl, Roster.Routed.of_empty _⟩ OwnCount.all

theorem of_reachable (h : Reachable m life a) : InStep m a := by
  induction h with
  | create h => exact of_create h
  | perform _ o ih => exact ih.perform life o
  | work _ hw ih => exact ih.work hw

end InStep

/-- In every state that is reached, telemetry has the settings of the agent, and a name is on the channel
to which the rules of the settings route it if the catalog holds it, and on none otherwise. -/
theorem channelOf?_of_reachable (h : Reachable m life a) :
    a.telemetry.settings = a.settings ∧
      ∀ name, a.telemetry.roster.channelOf? name =
        if a.catalog.metrics.contains name then some (Rule.route m a.settings.rules name) else none :=
  ⟨(InStep.of_reachable h).settings_eq, (InStep.of_reachable h).routed.channelOf?_eq⟩

/-- A metric follows the rules that are loaded after it was registered, and a name that was removed is on
no channel. -/
theorem channelOf?_of_reachable_tableReads :
    let m : Matching := fun _ _ => true
    let setup := Setup.ofSocket .empty ⟨"node", "datacenter", "rack", "cluster"⟩
    let denying : Settings := { Settings.defaults with rules := [.deniedGlobally] }
    let operations : List Operation := [
      .register "Table.Reads" (.own .successes), .register "Table.Writes" (.own .errors),
      .start .refused 0, .reload (.error .malformed), .reload (.ok denying), .remove "Table.Writes",
      .shutdown []]
    ∃ created, Agent.create m (.ok .defaults) setup ({} : Tally) 1 = .ok created ∧
      let a := operations.foldl (perform m Tally.life) created
      Reachable m Tally.life a ∧ a.telemetry.settings = denying ∧
        a.telemetry.roster.channelOf? "Table.Reads" = some .denied ∧
        a.telemetry.roster.channelOf? "Table.Writes" = none := by
  intro m setup denying operations
  have hcreate : Agent.create m (.ok .defaults) setup ({} : Tally) 1 = .ok _ := rfl
  refine ⟨_, hcreate, ?_⟩
  intro a
  have hr : Reachable m Tally.life a := .performs (.create hcreate) operations
  have hdiffer : ¬ Settings.defaults.Same denying := fun h =>
    List.cons_ne_nil _ _ h.rules_eq.symm
  have hs : a.settings = denying := by simp [a, operations, perform, OwnCount.all, hdiffer]
  have hreads : a.catalog.metrics.contains "Table.Reads" = true := by simp [a, operations, perform]
  have hwrites : a.catalog.metrics.contains "Table.Writes" = false := by simp [a, operations, perform]
  have hroute (name : String) : Rule.route m denying.rules name = .denied := rfl
  obtain ⟨ht, hc⟩ := channelOf?_of_reachable hr
  refine ⟨hr, ht.trans hs, ?_, ?_⟩
  · rw [hc, hreads, hs, hroute]; rfl
  · rw [hc, hwrites]; rfl

end Agent

end MetricsAgent
