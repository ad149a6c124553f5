import MetricsAgent.Report.OfMetric
import MetricsAgent.Telemetry.Basic

/-!
# Metrics of the agent

Beside the metrics of producers the agent reports some of its own, which count the replies of the
daemon and its failed health checks.  These are read whenever they are reported.
-/

namespace MetricsAgent

/-- What the agent counts. -/
inductive OwnCount where
  | failedChecks | successes | errors
  deriving DecidableEq, Repr

def OwnCount.all : List OwnCount := [.failedChecks, .successes, .errors]

/-- The name under which a count is published. -/
def OwnCount.name : OwnCount → String
  | .failedChecks => "mcac.insights_client.failed_health_checks"
  | .successes => "mcac.insights_client.successful_responses"
  | .errors => "mcac.insights_client.error_responses"

/-- Where the values of a metric come from. -/
inductive Source where
  | metric (m : Metric)
  | own (count : OwnCount)

/-- The present counts of the agent. -/
structure Counts where
  replies : Replies
  failedChecks : UInt64

def Telemetry.counts {ε δ : Type} (t : Telemetry ε δ) : Counts := ⟨t.replies, t.failedChecks⟩

def OwnCount.read (c : Counts) : OwnCount → UInt64
  | .failedChecks => c.failedChecks
  | .successes => c.replies.successes
  | .errors => c.replies.errors

/-- The metric that a source shows at the moment. -/
def Source.read (c : Counts) : Source → Metric
  | .metric m => m
  | .own count => .gauge (.integer (count.read c).toInt64)

/-- A source together with the name that it is reported under. -/
structure NamedSource where
  name : String
  source : Source

/-- A source is reported under the canonical form of its name. -/
def NamedSource.ofSource (name : String) (source : Source) : NamedSource :=
  ⟨Name.canonical name, source⟩

def NamedSource.report (counts : Counts) (c : Context) (s : NamedSource) (o : Occasion) :
    Except Fault Report :=
  (s.source.read counts).report c s.name o

end MetricsAgent
