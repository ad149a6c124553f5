import MetricsAgent.Conf.Daemon
import MetricsAgent.Conf.Upload
import MetricsAgent.Machine.Basic
import MetricsAgent.Machine.Path
import MetricsAgent.Settings.Basic

/-!
# Preparing the daemon's configuration

The configuration of the daemon follows from the settings and from the machine: directories are made
where they are missing, and what the daemon could not work with is refused.
-/

namespace MetricsAgent

/-- Why the daemon cannot be configured or launched. -/
inductive PreparationError where
  | missingRoot (path : String)
  | notWritable (what path : String)
  | invalidValue (field value reason : String)
  /-- The machine refused something. -/
  | refused (action : String)
  | settings (cause : SettingsError)
  deriving DecidableEq, Repr

def PreparationError.message : PreparationError → String
  | .missingRoot path => "collectd root missing " ++ path
  | .notWritable what path => what ++ " not writable " ++ path
  | .invalidValue field value reason =>
    value ++ " is not a valid value for field " ++ field ++ ": " ++ reason
  | .refused action => action
  | .settings cause => cause.message

variable {σ : Type}

/-- Makes sure that there is a directory to write into: its absolute path. -/
def Machine.writableDir (m : Machine σ) (what path : String) (w : σ) :
    Except PreparationError String × σ :=
  match m.makeDirs path w with
  | (false, w) => (.error (.refused ("creating " ++ what ++ " " ++ path)), w)
  | (true, w) =>
    if m.isWritable path w then
      match Path.absolute? (m.workDir? w) path with
      | none => (.error (.refused ("resolving " ++ what ++ " " ++ path)), w)
      | some path => (.ok path, w)
    else (.error (.notWritable what path), w)

/-! ## Uploads -/

/-- More than this is needed on disk, in bytes. -/
def leastDataBytes : UInt64 := 1048576

/-- Where the daemon's certificates are, relative to its root. -/
def certificatesFile : String := "etc/ssl/certs/ca-certificates.crt"

/-- How many bytes the data directory may take.  Sizes beyond the largest number are the largest. -/
def Settings.maxDataBytes (s : Settings) : UInt64 :=
  UInt64.ofNat (min (s.dataDirMaxSize.toNat * 1000000) 18446744073709551615)

/-- The upload configuration of some settings.  A host without address is left out if it would be
needed. -/
def UploadConf.ofSettings (m : Machine σ) (s : Settings) (w : σ) :
    Except PreparationError UploadConf × σ :=
  match s.endpoint with
  | .error e => (.error (.settings e), w)
  | .ok endpoint =>
    if s.maxDataBytes ≤ leastDataBytes then
      (.error (.invalidValue "data_dir_max_size_in_mb" (UploadConf.digits s.dataDirMaxSize.toNat)
        "size must be > 1mb"), w)
    else
      let host :=
        if s.isUploading && !m.resolves endpoint.host endpoint.port w then none else some endpoint.host
      match m.writableDir "dataDir" s.dataDir w with
      | (.error e, w) => (.error e, w)
      | (.ok dataDir, w) =>
        (.ok {
          uploading := s.isUploading
          streaming := s.streamingEnabled
          writingToDisk := s.diskEnabled
          host
          port := endpoint.port
          httpPath := endpoint.path
          secure := endpoint.secure
          uploadInterval := s.uploadInterval
          updateGap := s.updateGap
          maxDataBytes := s.maxDataBytes
          token := s.token
          dataDir
          certificates := certificatesFile }, w)

/-! ## The daemon -/

/-- The name of the file in which the daemon notes its process. -/
def pidFileName : String := "ds-collectd.pid"

/-- A configuration of the daemon of which parts may still be missing. -/
structure DaemonDraft where
  root? : Option String := none
  logDir? : Option String := none
  socketPath? : Option ByteArray := none
  /-- The main configuration file, and the one for uploads. -/
  files? : Option (String × String) := none
  identity : Identity := ⟨"", "", "", ""⟩

namespace DaemonDraft

/-- Sets the daemon's root, which must be a directory. -/
def inRoot (m : Machine σ) (root : String) (d : DaemonDraft) (w : σ) :
    Except PreparationError DaemonDraft :=
  if m.isDir root w then
    match Path.absolute? (m.workDir? w) root with
    | none => .error (.refused ("resolving " ++ root))
    | some root => .ok { d with root? := some root }
  else .error (.missingRoot root)

/-- Sets the directory for logs, and makes it if it is missing. -/
def loggingTo (m : Machine σ) (dir : String) (d : DaemonDraft) (w : σ) :
    Except PreparationError DaemonDraft × σ :=
  match m.writableDir "logDir" dir w with
  | (.error e, w) => (.error e, w)
  | (.ok dir, w) => (.ok { d with logDir? := some dir }, w)

/-- Sets the path of the socket, cut off if it is too long. -/
def listeningAt (path : ByteArray) (d : DaemonDraft) : DaemonDraft :=
  { d with socketPath? := some (SocketPath.crop path) }

def missing (field : String) : PreparationError := .invalidValue field "" "required"

/-- The configuration, if no part is missing. -/
def finish (d : DaemonDraft) : Except PreparationError DaemonConf :=
  match d.logDir?, d.root?, d.socketPath?, d.files? with
  | none, _, _, _ => .error (missing "log_dir")
  | _, none, _, _ => .error (missing "collectd_root")
  | _, _, none, _ => .error (missing "socket_path")
  | _, _, _, none => .error (missing "config_file")
  | some logDir, some root, some socketPath, some (confFile, uploadConfFile) =>
    .ok {
      root
      logDir
      socketPath
      pidFile := Path.join logDir pidFileName
      confFile
      uploadConfFile
      identity := d.identity }

end DaemonDraft

/-- The configuration of a daemon with the given root, logs, socket and files. -/
def DaemonConf.prepare (m : Machine σ) (root logDir : String) (socket : ByteArray)
    (confFile uploadConfFile : String) (identity : Identity) (w : σ) :
    Except PreparationError DaemonConf × σ :=
  match DaemonDraft.inRoot m root { files? := some (confFile, uploadConfFile), identity } w with
  | .error e => (.error e, w)
  | .ok d =>
    match d.loggingTo m logDir w with
    | (.error e, w) => (.error e, w)
    | (.ok d, w) => ((d.listeningAt socket).finish, w)

end MetricsAgent
