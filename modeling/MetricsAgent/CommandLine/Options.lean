import MetricsAgent.Metric.TimeUnit
import MetricsAgent.Settings.Identity
import MetricsAgent.Settings.Yaml

/-!
# Options of the agent

What the command line tells the agent: where its settings are, who the node is, and how to report.
Some options override the settings.
-/

namespace MetricsAgent

/-- The least severe messages that are logged. -/
inductive Verbosity where
  | off | error | warn | info | debug | trace
  deriving DecidableEq, Repr

def Verbosity.text : Verbosity → String
  | .off => "OFF"
  | .error => "ERROR"
  | .warn => "WARN"
  | .info => "INFO"
  | .debug => "DEBUG"
  | .trace => "TRACE"

/-- Reads a verbosity in any letter case. -/
def Verbosity.ofText? (text : String) : Option Verbosity :=
  [Verbosity.off, .error, .warn, .info, .debug, .trace].find? (sameIgnoringCase text ·.text)

structure Options where
  /-- The file of the settings. -/
  config : String
  verbosity : Option Verbosity
  /-- The address of the node; if missing, its name. -/
  host : Option String
  datacenter : String
  rack : String
  cluster : String
  /-- Overrides the place where the daemon is installed. -/
  daemonRoot : Option String
  /-- The socket of a daemon that is managed by others. -/
  externalSocket : Option String
  rateUnit : TimeUnit
  durationUnit : TimeUnit
  deriving DecidableEq, Repr

namespace Options

/-- The identity of the node, which is called `hostName` unless an address was given. -/
def identity (o : Options) (hostName : String) : Identity :=
  ⟨o.host.getD hostName, o.datacenter, o.rack, o.cluster⟩

/-- Settings with the options that override them. -/
def override (o : Options) (s : Settings) : Settings :=
  match o.daemonRoot with
  | some root => { s with daemonRoot := some root }
  | none => s

/-- The settings of the file, given its text if it can be read. -/
def settings (o : Options) (text : Option String) : Except SettingsError Settings :=
  match text with
  | none => .error (.unreadable o.config)
  | some text => (Settings.parse text).map o.override

end Options

end MetricsAgent
