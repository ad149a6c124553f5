import MetricsAgent.Settings.Basic
import MetricsAgent.Settings.Form

/-!
# Settings as records

Settings are a record with a field for each of their parts; a field that is left out has its
default, and a field that does not exist is refused.  A rule is a record of three texts.
-/

namespace MetricsAgent

variable {α : Type}

namespace Rule

def fieldNames : List String := ["policy", "pattern", "scope"]

/-- The rule of a tree. -/
def ofTree? (form : Form α) (a : α) : Option Rule := do
  let members ← form.record? fieldNames a
  let policy ← field? members "policy" form.text?
  let pattern ← field? members "pattern" form.text?
  let scope ← field? members "scope" form.text?
  (parse policy pattern scope).toOption

end Rule

namespace Settings

def fieldNames : List String :=
  ["collectd_root", "log_dir", "data_dir", "data_dir_max_size_in_mb",
    "metric_sampling_interval_in_seconds", "upload_interval_in_seconds", "upload_url",
    "insights_upload_enabled", "insights_streaming_enabled", "write_to_disk_enabled",
    "insights_token", "filtering_rules"]

/-- The settings of a tree. -/
def ofTree? (form : Form α) (a : α) : Option Settings := do
  let members ← form.record? fieldNames a
  return {
    daemonRoot := ← fieldOr? members "collectd_root" defaults.daemonRoot (form.optional? form.text?)
    logDir := ← fieldOr? members "log_dir" defaults.logDir form.text?
    dataDir := ← fieldOr? members "data_dir" defaults.dataDir form.text?
    dataDirMaxSize := ←
      fieldOr? members "data_dir_max_size_in_mb" defaults.dataDirMaxSize form.uint64?
    samplingInterval := ←
      fieldOr? members "metric_sampling_interval_in_seconds" defaults.samplingInterval form.uint64?
    uploadInterval := ←
      fieldOr? members "upload_interval_in_seconds" defaults.uploadInterval form.uint64?
    uploadUrl := ← fieldOr? members "upload_url" defaults.uploadUrl form.text?
    uploadEnabled := ← fieldOr? members "insights_upload_enabled" defaults.uploadEnabled form.bool?
    streamingEnabled := ←
      fieldOr? members "insights_streaming_enabled" defaults.streamingEnabled form.bool?
    diskEnabled := ← fieldOr? members "write_to_disk_enabled" defaults.diskEnabled form.bool?
    token := ← fieldOr? members "insights_token" defaults.token (form.optional? form.text?)
    rules := ← fieldOr? members "filtering_rules" defaults.rules (form.list? (Rule.ofTree? form))
  }

end Settings

end MetricsAgent
