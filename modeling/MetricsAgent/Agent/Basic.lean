import MetricsAgent.Agent.Source
import MetricsAgent.Catalog.Basic

/-!
# The agent

The agent holds the settings, the catalog of metrics and the telemetry, which listens to the catalog.
It loads settings again on demand; what cannot be loaded changes nothing.
-/

namespace MetricsAgent

structure Agent (δ : Type) where
  settings : Settings
  /-- How often the settings were replaced. -/
  version : Nat
  catalog : Catalog Source
  telemetry : Telemetry NamedSource δ
  /-- How often it is tried to report the start. -/
  attempts : Nat

/-- Why the agent cannot do what it was asked for. -/
inductive AgentError where
  | loading (cause : SettingsError)
  | reloading (cause : SettingsError)
  | starting (cause : SessionError)
  | stopping (cause : SessionError)
  deriving DecidableEq, Repr

def AgentError.message : AgentError → String
  | .loading cause => "loading configuration: " ++ cause.message
  | .reloading cause => "reloading configuration: " ++ cause.message
  | .starting cause => "starting insights client: " ++ cause.message
  | .stopping cause => "stopping insights client: " ++ cause.message

/-- Tries an action up to a number of times, until it succeeds. -/
def retry {σ : Type} (action : σ → Bool × σ) : Nat → σ → Bool × σ
  | 0, s => (false, s)
  | attempts + 1, s =>
    match action s with
    | (true, s) => (true, s)
    | (false, s) => retry action attempts s

namespace Agent

variable {δ : Type}

/-- Tells the telemetry of a change of the catalog. -/
def hear (m : Matching) (t : Telemetry NamedSource δ) : Notice Source → Telemetry NamedSource δ
  | .added name source => t.register m name (.ofSource name source)
  | .removed name => t.remove name

/-- Registers a metric, or replaces the one of that name. -/
def register (m : Matching) (a : Agent δ) (name : String) (source : Source) : Agent δ :=
  { a with
    catalog := a.catalog.register name source
    telemetry := hear m a.telemetry (.added name source) }

/-- Removes a metric: whether it was there. -/
def remove (m : Matching) (a : Agent δ) (name : String) : Bool × Agent δ :=
  match a.catalog.remove name with
  | (false, _) => (false, a)
  | (true, catalog) => (true, { a with catalog, telemetry := hear m a.telemetry (.removed name) })

/-- An agent with the settings that were loaded.  It publishes its own counts. -/
def create (m : Matching) (loaded : Except SettingsError Settings) (setup : Setup) (daemon : δ)
    (attempts : Nat) : Except AgentError (Agent δ) :=
  match loaded with
  | .error e => .error (.loading e)
  | .ok settings =>
    let bare : Agent δ := {
      settings
      version := 0
      catalog := .empty
      telemetry := .create setup settings daemon
      attempts := max attempts 1 }
    .ok (OwnCount.all.foldl (fun a c => a.register m c.name (.own c)) bare)

/-- Loads the settings again: whether they say anything else. -/
def reload (m : Matching) (life : Lifecycle δ) (loaded : Except SettingsError Settings)
    (a : Agent δ) : Except AgentError Bool × Agent δ :=
  match loaded with
  | .error e => (.error (.reloading e), a)
  | .ok new =>
    if a.settings.Same new then (.ok false, a)
    else (.ok true, { a with
      settings := new
      version := a.version + 1
      telemetry := a.telemetry.reconfigure m life a.settings new })

/-- Starts the telemetry and reports the start at the time `now`. -/
def start (life : Lifecycle δ) (answer : ConnectAnswer) (now : Int) (a : Agent δ) :
    Except AgentError Unit × Agent δ :=
  match a.telemetry.start life answer with
  | (.error e, _) => (.error (.starting e), a)
  | (.ok (), telemetry) =>
    let report (t : Telemetry NamedSource δ) := t.reportEvent (.clientStarted now)
    (.ok (), { a with telemetry := (retry report a.attempts telemetry).2 })

/-- Stops the telemetry: the bytes that were still written. -/
def shutdown (life : Lifecycle δ) (answers : List WriteAnswer) (a : Agent δ) :
    Except AgentError ByteArray × Agent δ :=
  match a.telemetry.close life answers with
  | (.error e, _) => (.error (.stopping e), a)
  | (.ok written, telemetry) => (.ok written, { a with telemetry })

/-- The reports of all metrics of the catalog, as they are now. -/
def published (c : Context) (a : Agent δ) : Except Fault (List Report) :=
  a.catalog.metrics.entries.mapM fun e =>
    (NamedSource.ofSource e.1 e.2).report a.telemetry.counts c .sample

/-! ## What an operation leaves in the settings and the catalog -/

section Frame

variable (m : Matching) (life : Lifecycle δ) (a : Agent δ)

@[simp] theorem settings_register (name : String) (source : Source) :
    (a.register m name source).settings = a.settings := rfl

@[simp] theorem settings_remove (name : String) : (a.remove m name).2.settings = a.settings := by
  unfold remove
  split <;> rfl

@[simp] theorem settings_reload_error (e : SettingsError) :
    (a.reload m life (.error e)).2.settings = a.settings := rfl

@[simp] theorem settings_reload_ok (new : Settings) :
    (a.reload m life (.ok new)).2.settings = if a.settings.Same new then a.settings else new := by
  unfold reload
  dsimp only
  split <;> rfl

@[simp] theorem settings_start (answer : ConnectAnswer) (now : Int) :
    (a.start life answer now).2.settings = a.settings := by
  unfold start
  split <;> rfl

@[simp] theorem settings_shutdown (answers : List WriteAnswer) :
    (a.shutdown life answers).2.settings = a.settings := by
  unfold shutdown
  split <;> rfl

@[simp] theorem contains_register (name : String) (source : Source) (n : String) :
    (a.register m name source).catalog.metrics.contains n = (n == name || a.catalog.metrics.contains n) :=
  NameMap.contains_insert a.catalog.metrics name source n

@[simp] theorem contains_remove (name n : String) :
    (a.remove m name).2.catalog.metrics.contains n = (n != name && a.catalog.metrics.contains n) := by
  unfold remove Catalog.remove
  cases h : a.catalog.metrics.contains name with
  | true => exact NameMap.contains_erase a.catalog.metrics name n
  | false => by_cases hn : n = name <;> simp [hn, h]

@[simp] theorem catalog_reload (loaded : Except SettingsError Settings) :
    (a.reload m life loaded).2.catalog = a.catalog := by
  unfold reload
  split
  · rfl
  · split <;> rfl

@[simp] theorem catalog_start (answer : ConnectAnswer) (now : Int) :
    (a.start life answer now).2.catalog = a.catalog := by
  unfold start
  split <;> rfl

@[simp] theorem catalog_shutdown (answers : List WriteAnswer) :
    (a.shutdown life answers).2.catalog = a.catalog := by
  unfold shutdown
  split <;> rfl

end Frame

end Agent

end MetricsAgent
