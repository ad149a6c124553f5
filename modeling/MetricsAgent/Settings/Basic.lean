import MetricsAgent.Endpoint.Basic
import MetricsAgent.Machine.Path
import MetricsAgent.Rule.Basic

/-!
# Settings

What the agent is told to do: where the daemon and its files are, how often to sample, what to
upload and whereto, and which names to filter.  Settings never change; a reload yields new ones.
-/

namespace MetricsAgent

structure Settings where
  /-- Where the daemon is installed. -/
  daemonRoot : Option String
  logDir : String
  dataDir : String
  /-- In megabytes. -/
  dataDirMaxSize : UInt64
  /-- In seconds. -/
  samplingInterval : UInt64
  /-- In seconds. -/
  uploadInterval : UInt64
  uploadUrl : String
  uploadEnabled : Bool
  streamingEnabled : Bool
  diskEnabled : Bool
  /-- Presented to the endpoint. -/
  token : Option String
  rules : List Rule
  deriving DecidableEq

/-- Why there are no settings. -/
inductive SettingsError where
  | unreadable (path : String)
  | malformed
  | invalidValue (field value reason : String)
  deriving DecidableEq, Repr

def SettingsError.message : SettingsError → String
  | .unreadable path => "reading configuration file " ++ path
  | .malformed => "parsing configuration"
  | .invalidValue field value reason =>
    value ++ " is not a valid value for field " ++ field ++ ": " ++ reason

namespace Settings

/-- The longest time in seconds that insights may go without the values of a metric. -/
def maxUpdateGap : UInt64 := 300

/-- The settings that an empty document stands for. -/
def defaults : Settings where
  daemonRoot := none
  logDir := "/tmp/mcac/log"
  dataDir := "/tmp/mcac/data"
  dataDirMaxSize := 5000
  samplingInterval := 30
  uploadInterval := maxUpdateGap
  uploadUrl := "http://localhost"
  uploadEnabled := false
  streamingEnabled := false
  diskEnabled := true
  token := none
  rules := []

/-- Whether settings say the same.  A path may be written in more than one way. -/
def Same (s t : Settings) : Prop :=
  s.daemonRoot.map Path.parts = t.daemonRoot.map Path.parts ∧ Path.parts s.logDir = Path.parts t.logDir ∧
    Path.parts s.dataDir = Path.parts t.dataDir ∧
    { s with daemonRoot := t.daemonRoot, logDir := t.logDir, dataDir := t.dataDir } = t

instance (s t : Settings) : Decidable (s.Same t) := inferInstanceAs (Decidable (_ ∧ _))

theorem Same.refl (s : Settings) : s.Same s := ⟨rfl, rfl, rfl, rfl⟩

theorem Same.rules_eq {s t : Settings} (h : s.Same t) : s.rules = t.rules := by
  obtain ⟨-, -, -, h⟩ := h
  rw [← h]

/-- The shortest time in seconds between two insights of one metric. -/
def updateGap (s : Settings) : UInt64 :=
  min s.uploadInterval maxUpdateGap

/-- Whether insights leave the node. -/
def isUploading (s : Settings) : Bool :=
  s.uploadEnabled || s.streamingEnabled

/-- Where insights go. -/
def endpoint (s : Settings) : Except SettingsError Endpoint :=
  (Endpoint.parse s.uploadUrl).mapError fun e => .invalidValue "upload_url" s.uploadUrl e.message

/-- Settings that can be acted upon: samples are some time apart, and the URL names an endpoint. -/
def validate (s : Settings) : Except SettingsError Unit :=
  if s.samplingInterval = 0 then
    .error (.invalidValue "metric_sampling_interval_in_seconds" "0" "must be greater than zero")
  else s.endpoint.map fun _ => ()

end Settings

end MetricsAgent
