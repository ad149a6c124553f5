import MetricsAgent.Json.Record
import MetricsAgent.Settings.Record

/-!
# Settings in JSON

The JSON object of settings has all fields; policies and scopes are in their canonical spelling.
`Settings.ofValue?` reads it back.
-/

namespace MetricsAgent

open Json

namespace Json

/-- JSON values as trees of records.  A record may also be the array of its first fields. -/
def form : Form Value where
  members? fields v := match v with
    | .object members => some members
    | .array items => if items.length ≤ fields.length then some (fields.zip items) else none
    | _ => none
  items? v := match v with
    | .array items => some items
    | _ => none
  text? v := match v with
    | .string s => some s
    | _ => none
  bool? v := match v with
    | .bool b => some b
    | _ => none
  uint64? v := match v with
    | .number (.integer n) => if 0 ≤ n ∧ n ≤ maxUnsigned then some (UInt64.ofNat n.toNat) else none
    | _ => none
  isPresent? v := match v with
    | .null => some false
    | _ => some true

def Value.ofText? (s : Option String) : Value :=
  (s.map .string).getD .null

end Json

/-- A rule as a JSON object. -/
def Rule.value (r : Rule) : Value :=
  .ofMembers [("policy", .string r.policy.text), ("pattern", .string r.pattern.source),
    ("scope", .string r.scope.text)]

namespace Settings

/-- Settings as a JSON object. -/
def value (s : Settings) : Value :=
  .ofMembers [
    ("collectd_root", .ofText? s.daemonRoot),
    ("log_dir", .string s.logDir),
    ("data_dir", .string s.dataDir),
    ("data_dir_max_size_in_mb", .ofInt s.dataDirMaxSize.toNat),
    ("metric_sampling_interval_in_seconds", .ofInt s.samplingInterval.toNat),
    ("upload_interval_in_seconds", .ofInt s.uploadInterval.toNat),
    ("upload_url", .string s.uploadUrl),
    ("insights_upload_enabled", .bool s.uploadEnabled),
    ("insights_streaming_enabled", .bool s.streamingEnabled),
    ("write_to_disk_enabled", .bool s.diskEnabled),
    ("insights_token", .ofText? s.token),
    ("filtering_rules", .array (s.rules.map Rule.value))]

/-- The settings of a JSON value. -/
def ofValue? (v : Value) : Option Settings :=
  ofTree? form v

end Settings

end MetricsAgent
