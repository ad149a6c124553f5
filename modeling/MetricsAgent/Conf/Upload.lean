import MetricsAgent.Conf.Outline

/-!
# The daemon's upload configuration file

It tells the daemon where and how often to upload insights, and how much of them to keep on disk.  The
daemon reads it again on request.
-/

namespace MetricsAgent

/-- What the daemon is told about insights. -/
structure UploadConf where
  /-- Whether insights leave the node at all. -/
  uploading : Bool
  streaming : Bool
  writingToDisk : Bool
  /-- None if insights are to be uploaded but the host has no address. -/
  host : Option String
  port : UInt16
  httpPath : String
  secure : Bool
  /-- In seconds. -/
  uploadInterval : UInt64
  /-- In seconds. -/
  updateGap : UInt64
  maxDataBytes : UInt64
  token : Option String
  dataDir : String
  /-- The certificates of authorities that are trusted, relative to the daemon's root. -/
  certificates : String
  deriving DecidableEq, Repr

namespace UploadConf

/-- The values in the file. -/
inductive Field where
  | uploading
  | streaming
  | writingToDisk
  | host
  | port
  | httpPath
  | secure
  | certificates
  | token
  | uploadInterval
  | updateGap
  | maxDataBytes
  | dataDir
  deriving DecidableEq, Repr

open Conf.Line in
/-- The lines of the file. -/
def outline : Conf.Outline Field := [
  fixed "# Generated by mcac-agent, reloaded on RELOADINSIGHTS.",
  fixed "LoadPlugin write_insights",
  fixed "<Plugin write_insights>",
  bare "  UploadEnabled" .uploading,
  bare "  StreamingEnabled" .streaming,
  bare "  WriteToDiskEnabled" .writingToDisk,
  quoted "  Host" .host,
  bare "  Port" .port,
  quoted "  HttpPath" .httpPath,
  bare "  SSL" .secure,
  quoted "  CACertFile" .certificates,
  quoted "  Token" .token,
  bare "  UploadIntervalSeconds" .uploadInterval,
  bare "  MetricUpdateGapSeconds" .updateGap,
  bare "  MaxDataDirSizeBytes" .maxDataBytes,
  quoted "  DataDir" .dataDir,
  fixed "</Plugin>"]

/-- The spelling of a truth value in the file. -/
def spell : Bool → String
  | true => "true"
  | false => "false"

/-- The digits of a number in the file. -/
def digits (n : Nat) : String :=
  String.ofList (Nat.toDigits 10 n)

/-- What is filled in; missing text is empty. -/
def value (c : UploadConf) : Field → String
  | .uploading => spell c.uploading
  | .streaming => spell c.streaming
  | .writingToDisk => spell c.writingToDisk
  | .host => c.host.getD ""
  | .port => digits c.port.toNat
  | .httpPath => c.httpPath
  | .secure => spell c.secure
  | .certificates => c.certificates
  | .token => c.token.getD ""
  | .uploadInterval => digits c.uploadInterval.toNat
  | .updateGap => digits c.updateGap.toNat
  | .maxDataBytes => digits c.maxDataBytes.toNat
  | .dataDir => c.dataDir

/-- The text of the file. -/
def text (c : UploadConf) : String :=
  outline.fill c.value

end UploadConf

end MetricsAgent
