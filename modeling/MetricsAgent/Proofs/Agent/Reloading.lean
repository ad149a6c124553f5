import MetricsAgent.Proofs.Agent.InStep
import MetricsAgent.Proofs.Telemetry.Sessions

/-!
# Reloading

A reload does all or nothing. Settings that cannot be loaded, or that say the same as the present ones, change
nothing at all; others are installed everywhere at once, and the daemon hears of them if it runs (`Installed`).
-/

namespace MetricsAgent.Agent

variable {δ : Type} {m : Matching} {life : Lifecycle δ} {new : Settings}

theorem reload_ok_of_same {a : Agent δ} (h : a.settings.Same new) :
    a.reload m life (.ok new) = (.ok false, a) := by
  simp [reload, h]

theorem reload_ok_of_not_same {a : Agent δ} (h : ¬ a.settings.Same new) :
    a.reload m life (.ok new) = (.ok true, { a with
      settings := new
      version := a.version + 1
      telemetry := a.telemetry.reconfigure m life a.settings new }) := by
  simp [reload, h]

/-- The new settings hold in both places, and each name of the catalog is on the channel to which they route
it. While a session is open the daemon was asked once to read them, and if it runs it is told so by a command,
for which there may be no room; otherwise nothing was asked of it. -/
structure Installed (m : Matching) (life : Lifecycle δ) (new : Settings) (a a' : Agent (δ × List Request)) :
    Prop where
  settings_eq : a'.settings = new
  telemetry_settings_eq : a'.telemetry.settings = new
  catalog_eq : a'.catalog = a.catalog
  channelOf?_eq : ∀ name, a'.telemetry.roster.channelOf? name =
    if a.catalog.metrics.contains name then some (Rule.route m new.rules name) else none
  retired_eq : a'.telemetry.roster.retired = a.telemetry.roster.retired
  closed : a.telemetry.session = none →
    a'.telemetry.session = none ∧ a'.telemetry.daemon = a.telemetry.daemon
  opened : ∀ s, a.telemetry.session = some s →
    let (state, daemon) := life.reload new a.telemetry.daemon.1
    a'.telemetry.daemon = (daemon, a.telemetry.daemon.2 ++ [.reload new]) ∧
    a'.telemetry.session = some { s with
      queue := if state = .started ∧ s.queue.length < max a.telemetry.setup.queueSize 1
        then s.queue ++ [.reloadInsights] else s.queue }

theorem installed_reload {a : Agent (δ × List Request)} (h : InStep m a) (hn : ¬ a.settings.Same new) :
    Installed m life new a (a.reload m life.noting (.ok new)).2 := by
  have hstep := h.reload life.noting (.ok new)
  rw [reload_ok_of_not_same hn] at hstep ⊢
  refine ⟨rfl, hstep.settings_eq, rfl, hstep.routed.channelOf?_eq, ?_, fun hs => ?_, fun s hs => ?_⟩
  · have hr := (Telemetry.reconfigure_frame m life.noting a.settings new a.telemetry).2.1
    show (a.telemetry.reconfigure m life.noting a.settings new).roster.retired = _
    rw [hr, Telemetry.retired_rerouted]
  · rw [Telemetry.reconfigure_of_not_started (by simp [Telemetry.isStarted, hs])]
    exact ⟨hs, rfl⟩
  · rw [Telemetry.reconfigure_of_session hs]
    exact ⟨rfl, rfl⟩

/-- In every state that is reached: a failure to load is handed on and changes nothing; settings that say the
same as the present ones change nothing either; others are installed everywhere; and loading the same once more
changes nothing. -/
theorem reload_of_reachable {a : Agent (δ × List Request)} (h : Reachable m life.noting a) :
    (∀ e, a.reload m life.noting (.error e) = (.error (.reloading e), a)) ∧
    ∀ new, let r := a.reload m life.noting (.ok new)
      (a.settings.Same new → r = (.ok false, a)) ∧
      (¬ a.settings.Same new → r.1 = .ok true ∧ Installed m life new a r.2) ∧
      r.2.reload m life.noting (.ok new) = (.ok false, r.2) := by
  refine ⟨fun e => rfl, fun new => ?_⟩
  by_cases hn : a.settings.Same new
  · rw [reload_ok_of_same hn]
    exact ⟨fun _ => rfl, fun hd => absurd hn hd, reload_ok_of_same hn⟩
  · have hi : Installed m life new a (a.reload m life.noting (.ok new)).2 :=
      installed_reload (InStep.of_reachable h) hn
    rw [reload_ok_of_not_same hn] at hi ⊢
    exact ⟨fun hs => absurd hs hn, fun _ => ⟨rfl, hi⟩, reload_ok_of_same (Settings.Same.refl new)⟩

/-- New rules while a session is open, before there is a connection: the daemon is asked once, and the command
waits. -/
theorem reload_of_reachable_tableReads :
    let m : Matching := fun _ _ => true
    let setup := Setup.ofSocket .empty ⟨"node", "datacenter", "rack", "cluster"⟩
    let denying : Settings := { Settings.defaults with rules := [.deniedGlobally] }
    let operations : List Operation := [.register "Table.Reads" (.own .successes), .start .refused 0]
    ∃ created, Agent.create m (.ok .defaults) setup (({} : Tally), []) 1 = .ok created ∧
      let a := operations.foldl (perform m Tally.life.noting) created
      let a' := (a.reload m Tally.life.noting (.ok denying)).2
      Reachable m Tally.life.noting a ∧ ¬ a.settings.Same denying ∧
        a'.telemetry.roster.channelOf? "Table.Reads" = some .denied ∧
        a'.telemetry.daemon = ({ starts := 1, reloads := 1 },
          [.start setup.socket .defaults, .reload denying]) ∧
        a'.telemetry.session = some ⟨.unconnected .defaults, [.reloadInsights], 0⟩ := by
  intro m setup denying operations
  have hcreate : Agent.create m (.ok .defaults) setup (({} : Tally), ([] : List Request)) 1 = .ok _ := rfl
  refine ⟨_, hcreate, ?_⟩
  intro a a'
  have hr : Reachable m Tally.life.noting a := .performs (.create hcreate) operations
  have hsettings : a.settings = .defaults := rfl
  have hn : ¬ a.settings.Same denying := by
    rw [hsettings]
    exact fun h => List.cons_ne_nil _ _ h.rules_eq.symm
  have hi : Installed m Tally.life denying a a' := (((reload_of_reachable hr).2 denying).2.1 hn).2
  have hs : a.telemetry.session = some ⟨.unconnected .defaults, [], 0⟩ := rfl
  obtain ⟨hd, hq⟩ := hi.opened _ hs
  have hreads : a.catalog.metrics.contains "Table.Reads" = true := by simp [a, operations, perform]
  refine ⟨hr, hn, ?_, hd, hq⟩
  rw [hi.channelOf?_eq, hreads]
  rfl

end MetricsAgent.Agent
